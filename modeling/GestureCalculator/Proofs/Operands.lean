import GestureCalculator.Proofs.Phrases
import Mathlib.Tactic

/-!
Atoms, what follows them, powers and signs: the readers that look into brackets, over readers for one level
of nesting less.
-/
namespace GestureCalculator.Expression

/-- The readers take the phrases of a depth. -/
structure Readers.Recognise (readers : Readers) (depth : Nat) : Prop where
  expression : Reads readers.expression 11 (Derives depth .disjunction)
  negation : Reads readers.negation 9 (Derives depth .negation)
  factor : Reads readers.factor 2 (Derives depth .factor)

/-- The readers of nested phrases take those of one depth less, if there is one. -/
def RecogniseBelow : Option Readers → Nat → Prop
  | none, depth => depth = 0
  | some readers, depth => ∃ less, depth = less + 1 ∧ readers.Recognise less

theorem RecogniseBelow.some {inner : Option Readers} {depth : Nat} (below : RecogniseBelow inner (depth + 1)) :
    ∃ readers, inner = some readers ∧ readers.Recognise depth := by
  cases inner with
  | none => cases below
  | some readers =>
    obtain ⟨less, same, recognise⟩ := below
    obtain rfl := Nat.succ.inj same
    exact ⟨readers, rfl, recognise⟩

theorem numberLiteral_ok_iff {text : String} {ts : List Lexeme} {value : Literal} :
    numberLiteral text ts = .ok value ↔ NumberLiteral text value := by
  unfold numberLiteral
  by_cases digits : text.toList.all Char.isDigit
  · rw [if_pos digits]
    by_cases fits : text ≠ "" ∧ Number.inRange (Text.digitsValue text.toList)
    · rw [if_pos fits, Except.ok.injEq]
      constructor
      · rintro rfl
        exact .whole fits.1 digits fits.2
      · rintro (_ | ⟨point, _⟩)
        · rfl
        · exact absurd digits point
    · rw [if_neg fits]
      simp only [reduceCtorEq, false_iff]
      rintro (⟨filled, _, range⟩ | ⟨point, _⟩)
      · exact fits ⟨filled, range⟩
      · exact point digits
  · rw [if_neg digits]
    constructor
    · intro read
      split at read
      · next value found =>
        cases read
        exact .fraction digits found
      · cases read
    · rintro (⟨_, whole, _⟩ | ⟨_, found⟩)
      · exact absurd whole digits
      · rw [found]

theorem isOperatorName_iff (name : String) : isOperatorName name = true ↔ name ∈ reserved := by
  simp [isOperatorName, reserved, or_assoc]

theorem derives_nameTree (depth : Nat) {name : String} (free : name ∉ reserved) :
    Derives depth .atom [.name name] (nameTree name) := by
  unfold nameTree
  split_ifs with isTrue isFalse isNone
  · exact .constant (by simp [constants, isTrue])
  · exact .constant (by simp [constants, isFalse])
  · exact .constant (by simp [constants, isNone])
  · exact .name free (by simp [constants, isTrue, isFalse, isNone])

theorem atom_sound {depth : Nat} {inner : Option Readers} (below : RecogniseBelow inner depth)
    {ts rest : List Lexeme} {tree : Tree} (taken : atom inner ts = .ok (tree, rest)) :
    ∃ words, ts = words ++ rest ∧ Derives depth .atom words tree := by
  unfold atom at taken
  split at taken
  · next text ts =>
    obtain ⟨value, read, done⟩ := bind_ok_iff.mp taken
    cases done
    exact ⟨[.number text], rfl, .number (numberLiteral_ok_iff.mp read)⟩
  · cases taken
    exact ⟨[_], rfl, .quoted⟩
  · next name ts =>
    split at taken
    · exact absurd taken unexpected_ne_ok
    · next free =>
      cases taken
      exact ⟨[.name name], rfl, derives_nameTree depth (fun member => free ((isOperatorName_iff name).mpr member))⟩
  · obtain ⟨readers, rfl, read⟩ := nested_ok_iff.mp taken
    obtain ⟨less, rfl, recognise⟩ := below
    obtain ⟨words, rfl, derives⟩ := parenthesized_sound recognise.expression read
    exact ⟨_ :: words, rfl, derives⟩
  · obtain ⟨⟨found, left⟩, read, done⟩ := bind_ok_iff.mp taken
    obtain ⟨readers, rfl, read⟩ := nested_ok_iff.mp read
    obtain ⟨less, rfl, recognise⟩ := below
    obtain ⟨words, rfl, enclosed, _⟩ := (items_reads recognise.expression (.inr rfl) _ _ _).mp read
    cases done
    exact ⟨_ :: words, rfl, enclosed.list⟩
  · exact absurd taken unexpected_ne_ok

theorem atom_complete {depth : Nat} {inner : Option Readers} (below : RecogniseBelow inner depth)
    {words : List Lexeme} {tree : Tree} (derives : Derives depth .atom words tree) (rest : List Lexeme) :
    atom inner (words ++ rest) = .ok (tree, rest) := by
  cases derives with
  | alone other => exact absurd rfl other
  | binary member => simp [Phrase.operators] at member
  | number read => simp [atom, numberLiteral_ok_iff.mpr read, bind, Except.bind, pure, Except.pure]
  | quoted => rfl
  | constant member =>
    simp only [constants, List.mem_cons, List.not_mem_nil, or_false, Prod.mk.injEq] at member
    rcases member with ⟨rfl, rfl⟩ | ⟨rfl, rfl⟩ | ⟨rfl, rfl⟩ <;> simp [atom, isOperatorName, nameTree]
  | @name _ name free other =>
    have plain : isOperatorName name = false := by
      rw [← Bool.not_eq_true, isOperatorName_iff]
      exact free
    simp only [constants, List.map_cons, List.map_nil, List.mem_cons, List.not_mem_nil, or_false,
      not_or] at other
    simp [atom, plain, nameTree, other]
  | emptyTuple =>
    obtain ⟨readers, rfl, _⟩ := below.some
    rfl
  | group inside =>
    obtain ⟨readers, rfl, recognise⟩ := below.some
    simpa [atom, nested] using parenthesized_group recognise.expression inside rest
  | tuple first listed all =>
    obtain ⟨readers, rfl, recognise⟩ := below.some
    simpa [atom, nested] using
      parenthesized_tuple recognise.expression first (enclosed_of_listed .closeParen listed all) rest
  | list listed all =>
    obtain ⟨readers, rfl, recognise⟩ := below.some
    have read := (items_reads recognise.expression (.inr rfl) _ _ _).mpr
      ⟨_, rfl, enclosed_of_listed .closeBracket listed all, stops_zero rest⟩
    simp only [atom, nested, List.cons_append, read, bind, Except.bind]
    rfl

theorem atom_reads {depth : Nat} {inner : Option Readers} (below : RecogniseBelow inner depth) :
    Reads (atom inner) 0 (Derives depth .atom) := by
  intro ts tree rest
  constructor
  · intro taken
    obtain ⟨words, split, derives⟩ := atom_sound below taken
    exact ⟨words, split, derives, stops_zero rest⟩
  · rintro ⟨words, rfl, derives, _⟩
    exact atom_complete below derives rest

/-- Calls, subscripts and attributes that make one tree from another. -/
inductive Suffixed (depth : Nat) : Tree → List Lexeme → Tree → Prop
  | none {tree : Tree} : Suffixed depth tree [] tree
  | call {less : Nat} {callee tree : Tree} {args : List Tree} {us vs : List Lexeme} : depth = less + 1 →
      Enclosed less .closeParen us args → Suffixed depth (.call callee args) vs tree →
      Suffixed depth callee (.symbol .openParen :: (us ++ vs)) tree
  | subscript {less : Nat} {owner index tree : Tree} {us vs : List Lexeme} : depth = less + 1 →
      Derives less .disjunction us index → Suffixed depth (.subscript owner index) vs tree →
      Suffixed depth owner (.symbol .openBracket :: (us ++ .symbol .closeBracket :: vs)) tree
  | attributeAccess {owner tree : Tree} {name : String} {vs : List Lexeme} :
      Suffixed depth (.attribute owner name) vs tree →
      Suffixed depth owner (.symbol .dot :: .name name :: vs) tree

theorem joins_le_one {word : Lexeme} (joins : word.joins ≤ 1) :
    word = .symbol .openParen ∨ word = .symbol .openBracket ∨ word = .symbol .dot := by
  unfold Lexeme.joins at joins
  split at joins <;> (try split_ifs at joins) <;> simp_all

theorem suffixes_sound {depth : Nat} {inner : Option Readers} (below : RecogniseBelow inner depth) :
    ∀ (fuel : Nat) {before tree : Tree} {ts rest : List Lexeme}, ts.length ≤ fuel →
      suffixes inner fuel before ts = .ok (tree, rest) →
      ∃ words, ts = words ++ rest ∧ Suffixed depth before words tree ∧ Stops 1 rest := by
  intro fuel before tree ts rest short taken
  fun_induction suffixes inner fuel before ts with
  | case1 fuel before ts ih =>
    obtain ⟨⟨args, behind⟩, read, went⟩ := bind_ok_iff.mp taken
    obtain ⟨readers, rfl, read⟩ := nested_ok_iff.mp read
    obtain ⟨less, rfl, recognise⟩ := below
    obtain ⟨us, rfl, enclosed, _⟩ := (items_reads recognise.expression (.inl rfl) _ _ _).mp read
    obtain ⟨vs, rfl, suffixed, stops⟩ := ih args behind (by simp at short; omega) went
    exact ⟨.symbol .openParen :: (us ++ vs), by simp, .call rfl enclosed suffixed, stops⟩
  | case2 fuel before ts ih =>
    obtain ⟨⟨index, behind⟩, read, went⟩ := bind_ok_iff.mp taken
    obtain ⟨readers, rfl, read⟩ := nested_ok_iff.mp read
    obtain ⟨less, rfl, recognise⟩ := below
    obtain ⟨us, rfl, derives, _⟩ := (recognise.expression _ _ _).mp read
    obtain ⟨⟨⟨⟩, left⟩, closed, went⟩ := bind_ok_iff.mp went
    obtain rfl := expect_ok_iff.mp closed
    obtain ⟨vs, rfl, suffixed, stops⟩ := ih index left (by simp at short; omega) went
    exact ⟨.symbol .openBracket :: (us ++ .symbol .closeBracket :: vs), by simp,
      .subscript rfl derives suffixed, stops⟩
  | case3 fuel before name ts ih =>
    obtain ⟨vs, rfl, suffixed, stops⟩ := ih (by simp at short; omega) taken
    exact ⟨.symbol .dot :: .name name :: vs, rfl, .attributeAccess suffixed, stops⟩
  | case4 => exact absurd taken unexpected_ne_ok
  | case5 fuel before ts noCall noSubscript noAttribute noDot =>
    cases taken
    refine ⟨[], rfl, .none, ?_⟩
    rcases rest with _ | ⟨word, rest⟩
    · exact stops_nil 1
    · -- There is fuel for the word that is left, so it was the word that ended the loop.
      obtain ⟨less, rfl⟩ : ∃ less, fuel = less + 1 := ⟨fuel - 1, by simp at short; omega⟩
      rw [stops_cons]
      by_contra joins
      rcases joins_le_one (Nat.not_lt.mp joins) with rfl | rfl | rfl
      · exact noCall less rest rfl rfl
      · exact noSubscript less rest rfl rfl
      · exact noDot less rest rfl rfl

theorem suffixes_complete {depth : Nat} {inner : Option Readers} (below : RecogniseBelow inner depth)
    {before tree : Tree} {words : List Lexeme} (suffixed : Suffixed depth before words tree)
    {rest : List Lexeme} (stops : Stops 1 rest) :
    ∀ fuel, (words ++ rest).length ≤ fuel → suffixes inner fuel before (words ++ rest) = .ok (tree, rest) := by
  induction suffixed with
  | none =>
    intro fuel _
    simp only [List.nil_append]
    unfold suffixes
    split <;> first | rfl | simp [stops_cons, Lexeme.joins] at stops
  | @call less callee tree args us vs same enclosed _ ih =>
    rintro (_ | fuel) short
    · simp at short
    · subst same
      obtain ⟨readers, rfl, recognise⟩ := below.some
      have read := (items_reads recognise.expression (.inl rfl) _ _ _).mpr
        ⟨us, rfl, enclosed, stops_zero (vs ++ rest)⟩
      simp only [List.cons_append, List.append_assoc, suffixes, nested, read, bind, Except.bind]
      exact ih fuel (by simp at short ⊢; omega)
  | @subscript less owner index tree us vs same derives _ ih =>
    rintro (_ | fuel) short
    · simp at short
    · subst same
      obtain ⟨readers, rfl, recognise⟩ := below.some
      have read := (recognise.expression _ _ _).mpr
        ⟨us, rfl, derives, Symbol.Closes.stops (.inr rfl) (vs ++ rest)⟩
      simp only [List.cons_append, List.append_assoc, suffixes, nested, read, bind, Except.bind,
        expect_ok_iff.mpr rfl]
      exact ih fuel (by simp at short ⊢; omega)
  | attributeAccess _ ih =>
    rintro (_ | fuel) short
    · simp at short
    · exact ih fuel (by simp at short ⊢; omega)

theorem Suffixed.trans {depth : Nat} {first second third : Tree} {us vs : List Lexeme}
    (before : Suffixed depth first us second) (behind : Suffixed depth second vs third) :
    Suffixed depth first (us ++ vs) third := by
  induction before with
  | none => exact behind
  | call same enclosed _ ih => simpa using Suffixed.call same enclosed (ih behind)
  | subscript same derives _ ih => simpa using Suffixed.subscript same derives (ih behind)
  | attributeAccess _ ih => exact .attributeAccess (ih behind)

theorem primary_of_suffixed {depth : Nat} {base tree : Tree} {vs : List Lexeme}
    (suffixed : Suffixed depth base vs tree) :
    ∀ {us : List Lexeme}, Derives depth .primary us base → Derives depth .primary (us ++ vs) tree := by
  induction suffixed with
  | none => intro us derives; simpa using derives
  | call same enclosed _ ih =>
    intro us derives
    subst same
    obtain ⟨parts, inside, rfl, listed, all, rfl⟩ := listed_of_enclosed enclosed
    simpa using ih (.call derives listed all)
  | subscript same index _ ih =>
    intro us derives
    subst same
    simpa using ih (.subscript derives index)
  | attributeAccess _ ih =>
    intro us derives
    simpa using ih (.attributeAccess derives)

/-- A primary is an atom with calls, subscripts and attributes behind it. -/
theorem derives_primary_iff {depth : Nat} {words : List Lexeme} {tree : Tree} :
    Derives depth .primary words tree ↔
      ∃ us vs base, words = us ++ vs ∧ Derives depth .atom us base ∧ Suffixed depth base vs tree := by
  constructor
  · intro derives
    generalize same : Phrase.primary = phrase at derives
    induction derives with
    | alone _ derives _ =>
      subst same
      exact ⟨_, [], _, by simp, derives, .none⟩
    | binary member _ _ _ _ => subst same; simp [Phrase.operators] at member
    | call _ listed all ih _ =>
      obtain ⟨us, vs, base, rfl, derives, suffixed⟩ := ih same
      refine ⟨us, _, base, List.append_assoc .., derives, suffixed.trans ?_⟩
      simpa using Suffixed.call rfl (enclosed_of_listed .closeParen listed all) .none
    | subscript _ index ih _ =>
      obtain ⟨us, vs, base, rfl, derives, suffixed⟩ := ih same
      exact ⟨us, _, base, List.append_assoc .., derives, suffixed.trans (.subscript rfl index .none)⟩
    | attributeAccess _ ih =>
      obtain ⟨us, vs, base, rfl, derives, suffixed⟩ := ih same
      exact ⟨us, _, base, List.append_assoc .., derives, suffixed.trans (.attributeAccess .none)⟩
    | _ => cases same
  · rintro ⟨us, vs, base, rfl, derives, suffixed⟩
    exact primary_of_suffixed suffixed (.alone (by decide) derives)

theorem joins_eq_two {word : Lexeme} : word.joins = 2 ↔ word = .symbol .power := by
  unfold Lexeme.joins
  split <;> (try split_ifs) <;> simp_all

theorem unaryOperator_eq_some_iff {word : Lexeme} {op : UnaryOp} :
    unaryOperator word = some op ↔ ∃ symbol, word = .symbol symbol ∧ (symbol, op) ∈ signs := by
  constructor
  · intro found
    unfold unaryOperator at found
    split at found <;> simp_all [signs, eq_comm]
  · rintro ⟨symbol, rfl, member⟩
    simp only [signs, List.mem_cons, List.not_mem_nil, or_false, Prod.mk.injEq] at member
    rcases member with ⟨rfl, rfl⟩ | ⟨rfl, rfl⟩ | ⟨rfl, rfl⟩ <;> rfl

theorem unaryOperator_eq_none_of_beginsAtom {word : Lexeme} (begins : word.beginsAtom) :
    unaryOperator word = none := by
  unfold unaryOperator
  split <;> simp_all [Lexeme.beginsAtom]

section
variable {depth : Nat} {inner : Option Readers} (below : RecogniseBelow inner depth)
include below

theorem primary_reads : Reads (primary inner) 1 (Derives depth .primary) := by
  intro ts tree rest
  rw [primary, bind_ok_iff]
  constructor
  · rintro ⟨⟨base, behind⟩, read, went⟩
    obtain ⟨us, rfl, derives, _⟩ := (atom_reads below _ _ _).mp read
    obtain ⟨vs, rfl, suffixed, stops⟩ := suffixes_sound below _ le_rfl went
    exact ⟨us ++ vs, by simp, derives_primary_iff.mpr ⟨us, vs, base, rfl, derives, suffixed⟩, stops⟩
  · rintro ⟨words, rfl, derives, stops⟩
    obtain ⟨us, vs, base, rfl, atom, suffixed⟩ := derives_primary_iff.mp derives
    refine ⟨(base, vs ++ rest), ?_, suffixes_complete below suffixed stops _ le_rfl⟩
    exact (atom_reads below _ _ _).mpr ⟨us, by simp, atom, stops_zero _⟩

theorem power_reads : Reads (power inner) 2 (Derives depth .power) := by
  intro ts tree rest
  rw [power, bind_ok_iff]
  constructor
  · rintro ⟨⟨base, behind⟩, read, went⟩
    obtain ⟨us, rfl, derives, stops⟩ := (primary_reads below _ _ _).mp read
    dsimp only at went
    split at went
    · obtain ⟨⟨exponent, left⟩, read, done⟩ := bind_ok_iff.mp went
      obtain ⟨readers, rfl, read⟩ := nested_ok_iff.mp read
      obtain ⟨less, rfl, recognise⟩ := below
      obtain ⟨vs, rfl, factor, stops⟩ := (recognise.factor _ _ _).mp read
      cases done
      exact ⟨us ++ .symbol .power :: vs, by simp, .power derives factor, stops⟩
    · next noPower =>
      cases went
      refine ⟨us, rfl, .alone (by decide) derives, stops.succ ?_⟩
      intro word first joins
      obtain ⟨others, rfl⟩ := List.head?_eq_some_iff.mp first
      obtain rfl := joins_eq_two.mp joins
      exact noPower others rfl
  · rintro ⟨words, rfl, derives, stops⟩
    cases derives with
    | alone _ derives =>
      refine ⟨(tree, rest), (primary_reads below _ _ _).mpr ⟨words, rfl, derives, stops.mono (by decide)⟩, ?_⟩
      dsimp only
      split
      · simp [stops_cons, Lexeme.joins] at stops
      · rfl
    | binary member => simp [Phrase.operators] at member
    | @power less us vs base exponent primary factor =>
      obtain ⟨readers, rfl, recognise⟩ := below.some
      have read := (recognise.factor _ _ _).mpr ⟨vs, rfl, factor, stops⟩
      refine ⟨(base, .symbol .power :: (vs ++ rest)), ?_, ?_⟩
      · exact (primary_reads below _ _ _).mpr ⟨us, by simp, primary, by simp [stops_cons, Lexeme.joins]⟩
      · simp only [nested, read, bind, Except.bind]
        rfl

theorem factor_reads : Reads (factor inner) 2 (Derives depth .factor) := by
  intro ts tree rest
  unfold factor
  constructor
  · intro taken
    split at taken
    · next op found =>
      obtain ⟨⟨operand, left⟩, read, done⟩ := bind_ok_iff.mp taken
      obtain ⟨readers, rfl, read⟩ := nested_ok_iff.mp read
      obtain ⟨less, rfl, recognise⟩ := below
      obtain ⟨words, split, derives, stops⟩ := (recognise.factor _ _ _).mp read
      obtain ⟨word, first, sign⟩ := Option.bind_eq_some_iff.mp found
      obtain ⟨others, rfl⟩ := List.head?_eq_some_iff.mp first
      obtain ⟨symbol, rfl, member⟩ := unaryOperator_eq_some_iff.mp sign
      obtain rfl : others = words ++ left := split
      cases done
      exact ⟨.symbol symbol :: words, rfl, .sign member derives, stops⟩
    · obtain ⟨words, rfl, derives, stops⟩ := (power_reads below _ _ _).mp taken
      exact ⟨words, rfl, .alone (by decide) derives, stops⟩
  · rintro ⟨words, rfl, derives, stops⟩
    cases derives with
    | alone _ derives =>
      obtain ⟨word, others, rfl, begins⟩ := derives_begins derives
      have noSign : unaryOperator word = none := unaryOperator_eq_none_of_beginsAtom begins
      simp only [List.cons_append, List.head?_cons, Option.bind_some, noSign]
      exact (power_reads below _ _ _).mpr ⟨word :: others, rfl, derives, stops⟩
    | binary member => simp [Phrase.operators] at member
    | @sign less symbol op words operand member derives =>
      obtain ⟨readers, rfl, recognise⟩ := below.some
      have read := (recognise.factor _ _ _).mpr ⟨words, rfl, derives, stops⟩
      have sign := unaryOperator_eq_some_iff.mpr ⟨symbol, rfl, member⟩
      simp only [List.cons_append, List.head?_cons, Option.bind_some, sign, List.tail_cons, nested, read,
        bind, Except.bind]
      rfl

end

end GestureCalculator.Expression
