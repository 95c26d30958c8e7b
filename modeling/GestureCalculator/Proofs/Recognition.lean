import GestureCalculator.Proofs.Chains
import Mathlib.Tactic

/-!
The readers recognise the grammar: comparisons and conditions, and then all levels of nesting by induction.
What comes out is that words have a tree exactly if the grammar derives them, and it is the tree that they
stand for.
-/
namespace GestureCalculator.Expression

theorem comparisons_eq {side : Reader Tree} (fuel : Nat) :
    comparisons side fuel = repeated compareOperator side fuel := by
  induction fuel with
  | zero => rfl
  | succ fuel ih =>
    funext ts
    rw [comparisons, repeated, ih]
    cases ts.head?.bind compareOperator <;> rfl

theorem compareOperator_eq_some_iff {word : Lexeme} {op : CompareOp} :
    compareOperator word = some op ↔ word = .symbol op.symbol := by
  cases word with
  | symbol symbol => cases symbol <;> cases op <;> simp [compareOperator, CompareOp.symbol]
  | _ => simp [compareOperator]

theorem marksAt_compareOperator : MarksAt compareOperator 9 := by
  intro word
  cases word with
  | symbol symbol => cases symbol <;> decide
  | name name =>
    simp only [compareOperator, Lexeme.joins]
    split_ifs <;> simp
  | _ => simp [compareOperator, Lexeme.joins]

section
variable {α β : Type} {mark : Lexeme → Option α} {phrase : List Lexeme → β → Prop} {spell : α → Lexeme}
  (spells : ∀ word found, mark word = some found ↔ word = spell found)
include spells

theorem marked_of_parts {γ : Type} (found : γ → α) (words : γ → List Lexeme) (value : γ → β) (parts : List γ)
    (all : ∀ part ∈ parts, phrase (words part) (value part)) :
    Marked mark phrase (parts.flatMap fun part => spell (found part) :: words part)
      (parts.map fun part => (found part, value part)) := by
  induction parts with
  | nil => exact .none
  | cons part parts ih =>
    have rest := ih fun part member => all part (by simp [member])
    exact .more ((spells _ _).mpr rfl) (all part (by simp)) rest

theorem parts_of_marked {words : List Lexeme} {sides : List (α × β)} (marked : Marked mark phrase words sides) :
    ∃ parts : List (α × List Lexeme × β), (∀ part ∈ parts, phrase part.2.1 part.2.2) ∧
      words = parts.flatMap (fun part => spell part.1 :: part.2.1) ∧
      sides = parts.map fun part => (part.1, part.2.2) := by
  induction marked with
  | none => exact ⟨[], by simp, rfl, rfl⟩
  | @more word found value us vs others marked holds _ ih =>
    obtain ⟨parts, all, rfl, rfl⟩ := ih
    obtain rfl := (spells _ _).mp marked
    refine ⟨(found, us, value) :: parts, ?_, by simp, rfl⟩
    rintro part (_ | ⟨_, member⟩)
    · exact holds
    · exact all part member

end

theorem derives_comparison_iff {depth : Nat} {words : List Lexeme} {tree : Tree} :
    Derives depth .comparison words tree ↔
      ∃ us vs first sides, words = us ++ vs ∧ Derives depth .bitOr us first ∧
        Marked compareOperator (Derives depth .bitOr) vs sides ∧ tree = comparisonTree first sides := by
  constructor
  · intro derives
    cases derives with
    | alone _ derives => exact ⟨words, [], tree, [], by simp, derives, .none, rfl⟩
    | @comparison _ us first others derives some all =>
      refine ⟨us, _, first, _, rfl, derives,
        marked_of_parts (fun _ _ => compareOperator_eq_some_iff) Prod.fst (fun part => part.2.1)
          (fun part => part.2.2) others all, ?_⟩
      cases others with
      | nil => exact absurd rfl some
      | cons part others => rfl
    | binary member => simp [Phrase.operators] at member
  · rintro ⟨us, vs, first, sides, rfl, derives, marked, rfl⟩
    obtain ⟨parts, all, rfl, rfl⟩ := parts_of_marked (fun _ _ => compareOperator_eq_some_iff) marked
    cases parts with
    | nil => simpa using Derives.alone (by decide) derives
    | cons part parts => exact .comparison derives (by simp) all

/-- The mark of an operator name. -/
def nameMark (name : String) (word : Lexeme) : Option Unit := if word = .name name then some () else none

theorem nameMark_eq_some_iff (name : String) (word : Lexeme) (found : Unit) :
    nameMark name word = some found ↔ word = .name name := by
  simp [nameMark]

theorem joinedFrom_eq (name : String) (condition : Reader Tree) (fuel : Nat) (ts : List Lexeme) :
    joinedFrom name condition fuel ts =
      repeated (nameMark name) condition fuel ts >>= fun more => .ok (more.1.map Prod.snd, more.2) := by
  induction fuel generalizing ts with
  | zero => rfl
  | succ fuel ih =>
    have same : ts.head?.bind (nameMark name) = if ts.head? = some (.name name) then some () else none := by
      cases ts <;> simp [nameMark]
    rw [joinedFrom, repeated, same]
    by_cases named : ts.head? = some (.name name)
    · simp only [named, ↓reduceIte, ih, bind_assoc]
      rfl
    · simp only [named, ↓reduceIte]
      rfl

theorem joinedFrom_ok_iff {name : String} {condition : Reader Tree} (fuel : Nat) {ts rest : List Lexeme}
    {trees : List Tree} : joinedFrom name condition fuel ts = .ok (trees, rest) ↔
      ∃ sides, repeated (nameMark name) condition fuel ts = .ok (sides, rest) ∧ trees = sides.map Prod.snd := by
  rw [joinedFrom_eq, bind_ok_iff]
  constructor
  · rintro ⟨⟨sides, behind⟩, run, done⟩
    cases done
    exact ⟨sides, run, rfl⟩
  · rintro ⟨sides, run, rfl⟩
    exact ⟨(sides, rest), run, rfl⟩

/-- The operators that join conditions, the phrases they make, and their places. -/
inductive JoinedAt : BoolOp → String → Phrase → Nat → Prop
  | and : JoinedAt .and "and" .conjunction 10
  | or : JoinedAt .or "or" .disjunction 11

theorem JoinedAt.marksAt {op : BoolOp} {name : String} {phrase : Phrase} {place : Nat}
    (joinedAt : JoinedAt op name phrase place) : MarksAt (nameMark name) place := by
  intro word
  cases word with
  | symbol symbol =>
    have far : (Lexeme.symbol symbol).joins ≠ place := by
      cases joinedAt <;> cases symbol <;> decide
    simpa [nameMark] using far
  | name found =>
    simp only [nameMark, Lexeme.joins, Lexeme.name.injEq]
    cases joinedAt <;> split_ifs <;> simp_all
  | _ => cases joinedAt <;> simp [nameMark, Lexeme.joins]

theorem derives_joined_iff {op : BoolOp} {name : String} {phrase : Phrase} {place depth : Nat}
    (joinedAt : JoinedAt op name phrase place) {words : List Lexeme} {tree : Tree} :
    Derives depth phrase words tree ↔
      ∃ us vs first sides, words = us ++ vs ∧ Derives depth phrase.tighter us first ∧
        Marked (nameMark name) (Derives depth phrase.tighter) vs sides ∧
        tree = booleanTree op first (sides.map Prod.snd) := by
  have joins {us : List Lexeme} {first : Tree} {others : List (List Lexeme × Tree)}
      (derives : Derives depth phrase.tighter us first) (some : others ≠ [])
      (all : ∀ part ∈ others, Derives depth phrase.tighter part.1 part.2) :
      Derives depth phrase (us ++ others.flatMap fun part => .name name :: part.1)
        (.boolean op (first :: others.map Prod.snd)) := by
    cases joinedAt with
    | and => exact .conjunction derives some all
    | or => exact .disjunction derives some all
  have loose : phrase ≠ .atom := by cases joinedAt <;> decide
  constructor
  · intro derives
    have parted : Derives depth phrase.tighter words tree ∨
        ∃ (us : List Lexeme) (first : Tree) (others : List (List Lexeme × Tree)),
          Derives depth phrase.tighter us first ∧ others ≠ [] ∧
          (∀ part ∈ others, Derives depth phrase.tighter part.1 part.2) ∧
          words = (us ++ others.flatMap fun part => .name name :: part.1) ∧
          tree = .boolean op (first :: others.map Prod.snd) := by
      cases joinedAt with
      | and =>
        cases derives with
        | alone _ derives => exact .inl derives
        | conjunction derives some all => exact .inr ⟨_, _, _, derives, some, all, rfl, rfl⟩
        | binary member => simp [Phrase.operators] at member
      | or =>
        cases derives with
        | alone _ derives => exact .inl derives
        | disjunction derives some all => exact .inr ⟨_, _, _, derives, some, all, rfl, rfl⟩
        | binary member => simp [Phrase.operators] at member
    obtain tight | ⟨us, first, others, tight, some, all, rfl, rfl⟩ := parted
    · exact ⟨words, [], tree, [], by simp, tight, .none, rfl⟩
    · refine ⟨us, _, first, _, rfl, tight,
        marked_of_parts (nameMark_eq_some_iff name) (fun _ => ()) Prod.fst Prod.snd others all, ?_⟩
      cases others with
      | nil => exact absurd rfl some
      | cons part others => simp [booleanTree, Function.comp_def]
  · rintro ⟨us, vs, first, sides, rfl, derives, marked, rfl⟩
    obtain ⟨parts, all, rfl, rfl⟩ := parts_of_marked (nameMark_eq_some_iff name) marked
    cases parts with
    | nil => simpa [booleanTree] using Derives.alone loose derives
    | cons part parts =>
      have each : ∀ other ∈ (part :: parts).map Prod.snd, Derives depth phrase.tighter other.1 other.2 := by
        intro other member
        obtain ⟨whole, among, rfl⟩ := List.mem_map.mp member
        exact all whole among
      have derives := joins derives (by simp) each
      rw [List.flatMap_map] at derives
      simpa [booleanTree, Function.comp_def] using derives

/-- Conditions with an operator name between them are chains of tighter ones. -/
theorem joined_reads {op : BoolOp} {name : String} {phrase : Phrase} {place depth : Nat} {condition : Reader Tree}
    (joinedAt : JoinedAt op name phrase (place + 1)) (reads : Reads condition place (Derives depth phrase.tighter)) :
    Reads (joined op name condition) (place + 1) (Derives depth phrase) := by
  have marks := joinedAt.marksAt
  intro ts tree rest
  rw [joined, bind_ok_iff]
  constructor
  · rintro ⟨⟨first, behind⟩, read, went⟩
    obtain ⟨us, rfl, derives, stops⟩ := (reads _ _ _).mp read
    obtain ⟨⟨others, left⟩, next, done⟩ := bind_ok_iff.mp went
    obtain ⟨sides, run, rfl⟩ := (joinedFrom_ok_iff _).mp next
    obtain ⟨vs, rfl, marked, stops⟩ := repeated_sound reads marks _ le_rfl stops run
    cases done
    refine ⟨us ++ vs, by simp, (derives_joined_iff joinedAt).mpr ?_, stops⟩
    exact ⟨us, vs, first, sides, rfl, derives, marked, rfl⟩
  · rintro ⟨words, rfl, derives, stops⟩
    obtain ⟨us, vs, first, sides, rfl, tight, marked, rfl⟩ := (derives_joined_iff joinedAt).mp derives
    have run := repeated_complete reads marks marked stops _ le_rfl
    refine ⟨(first, vs ++ rest), ?_, bind_ok_iff.mpr ⟨(sides.map Prod.snd, rest), ?_, rfl⟩⟩
    · exact (reads _ _ _).mpr ⟨us, by simp, tight, marked.stops marks stops⟩
    · exact (joinedFrom_ok_iff _).mpr ⟨sides, run, rfl⟩

section
variable {depth : Nat} {inner : Option Readers} (below : RecogniseBelow inner depth)
include below

theorem comparison_reads : Reads (comparison inner) 9 (Derives depth .comparison) := by
  have reads := operand_reads below
  intro ts tree rest
  rw [comparison, bind_ok_iff]
  constructor
  · rintro ⟨⟨first, behind⟩, read, went⟩
    obtain ⟨us, rfl, derives, stops⟩ := (reads _ _ _).mp read
    obtain ⟨⟨sides, left⟩, next, done⟩ := bind_ok_iff.mp went
    rw [comparisons_eq] at next
    obtain ⟨vs, rfl, marked, stops⟩ := repeated_sound reads marksAt_compareOperator _ le_rfl stops next
    cases done
    refine ⟨us ++ vs, by simp, derives_comparison_iff.mpr ?_, stops⟩
    exact ⟨us, vs, first, sides, rfl, derives, marked, rfl⟩
  · rintro ⟨words, rfl, derives, stops⟩
    obtain ⟨us, vs, first, sides, rfl, tight, marked, rfl⟩ := derives_comparison_iff.mp derives
    have run := repeated_complete reads marksAt_compareOperator marked stops _ le_rfl
    refine ⟨(first, vs ++ rest), ?_, bind_ok_iff.mpr ⟨(sides, rest), ?_, rfl⟩⟩
    · exact (reads _ _ _).mpr ⟨us, by simp, tight, marked.stops marksAt_compareOperator stops⟩
    · rw [comparisons_eq]
      exact run

theorem negation_reads : Reads (negation inner) 9 (Derives depth .negation) := by
  intro ts tree rest
  unfold negation
  constructor
  · intro taken
    split at taken
    · next named =>
      obtain ⟨others, rfl⟩ := List.head?_eq_some_iff.mp named
      obtain ⟨⟨operand, left⟩, read, done⟩ := bind_ok_iff.mp taken
      obtain ⟨readers, rfl, read⟩ := nested_ok_iff.mp read
      obtain ⟨less, rfl, recognise⟩ := below
      obtain ⟨words, split, derives, stops⟩ := (recognise.negation _ _ _).mp read
      obtain rfl : others = words ++ left := split
      cases done
      exact ⟨.name "not" :: words, rfl, .negation derives, stops⟩
    · obtain ⟨words, rfl, derives, stops⟩ := (comparison_reads below _ _ _).mp taken
      exact ⟨words, rfl, .alone (by decide) derives, stops⟩
  · rintro ⟨words, rfl, derives, stops⟩
    cases derives with
    | alone _ derives =>
      obtain ⟨word, others, rfl, begins⟩ := derives_begins derives
      have notNamed : word ≠ .name "not" := by
        rintro rfl
        simp [Phrase.tighter, Phrase.begins, Lexeme.beginsAtom, reserved, unaryOperator] at begins
      rw [if_neg (by simpa using notNamed)]
      exact (comparison_reads below _ _ _).mpr ⟨word :: others, rfl, derives, stops⟩
    | binary member => simp [Phrase.operators] at member
    | @negation less words operand derives =>
      obtain ⟨readers, rfl, recognise⟩ := below.some
      have read := (recognise.negation _ _ _).mpr ⟨words, rfl, derives, stops⟩
      simp only [List.cons_append, List.head?_cons, ↓reduceIte, List.tail_cons, nested, read, bind, Except.bind]
      rfl

theorem readersOver_recognise : (readersOver inner).Recognise depth where
  expression := joined_reads .or (joined_reads .and (negation_reads below))
  negation := negation_reads below
  factor := factor_reads below

end

/-- The readers with so many levels of nesting below them take the phrases of that depth. -/
theorem readersWithin_recognise (depth : Nat) : (readersWithin depth).Recognise depth := by
  induction depth with
  | zero =>
    have below : RecogniseBelow none 0 := rfl
    exact readersOver_recognise below
  | succ depth ih =>
    have below : RecogniseBelow (some (readersWithin depth)) (depth + 1) := ⟨depth, rfl, ih⟩
    exact readersOver_recognise below

/-- Words have a tree exactly if they are an expression of the grammar that is not nested too deeply, and it
    is the tree they stand for. -/
theorem treeOf_ok_iff {words : List Lexeme} {tree : Tree} :
    treeOf words = .ok tree ↔ Derives maxDepth .disjunction words tree := by
  rw [treeOf, bind_ok_iff]
  constructor
  · rintro ⟨⟨found, rest⟩, read, done⟩
    obtain ⟨taken, rfl, derives, _⟩ := ((readersWithin_recognise maxDepth).expression _ _ _).mp read
    dsimp only at done
    split at done
    · cases done
      simpa using derives
    · exact absurd done (by simp [unexpected])
  · intro derives
    refine ⟨(tree, []), ((readersWithin_recognise maxDepth).expression _ _ _).mpr ?_, rfl⟩
    exact ⟨words, by simp, derives, stops_nil 11⟩

theorem parse_ok_iff {text : String} {tree : Tree} :
    parse text = .ok tree ↔
      ∃ tokens, tokensOf text = .ok tokens ∧ Derives maxDepth .disjunction (tokens.map Token.lexeme) tree := by
  unfold parse
  cases scanned : tokensOf text with
  | error failure => simp
  | ok tokens =>
    cases tokens with
    | nil =>
      simp only [reduceCtorEq, Except.ok.injEq, exists_eq_left', List.map_nil, false_iff]
      intro derives
      obtain ⟨_, _, absent, _⟩ := derives_begins derives
      cases absent
    | cons token tokens =>
      simp only [Except.ok.injEq, exists_eq_left', ← treeOf_ok_iff]
      cases treeOf ((token :: tokens).map Token.lexeme) <;> simp [Except.mapError]

/-- Whatever the words are, the tree that is read from all of them is the one that the grammar derives from
    them, and there is none if the grammar derives none; and so for the words that a text is cut into. -/
theorem tree_iff_derivation (tree : Tree) :
    (∀ words, treeOf words = .ok tree ↔ Derives maxDepth .disjunction words tree) ∧
      ∀ text, parse text = .ok tree ↔
        ∃ tokens, tokensOf text = .ok tokens ∧
          Derives maxDepth .disjunction (tokens.map Token.lexeme) tree :=
  ⟨fun _ => treeOf_ok_iff, fun _ => parse_ok_iff⟩

/-- The tree of words with their offsets, in a text of so many bytes. -/
def treeOfTokens (size : Nat) : List Token → Except Failure Tree
  | [] => .error (.malformed 0 .empty)
  | tokens => (treeOf (tokens.map Token.lexeme)).mapError (Stop.failure tokens size)

theorem parse_eq (text : String) : parse text = tokensOf text >>= treeOfTokens text.utf8ByteSize := by
  unfold parse
  cases tokensOf text with
  | error failure => rfl
  | ok tokens => cases tokens <;> rfl

theorem treeOfTokens_of_ne_nil {size : Nat} {tokens : List Token} (filled : tokens ≠ []) :
    treeOfTokens size tokens = (treeOf (tokens.map Token.lexeme)).mapError (Stop.failure tokens size) := by
  cases tokens with
  | nil => exact absurd rfl filled
  | cons token tokens => rfl

/-- The offsets at which words begin, and then the end of the text. -/
def places (size : Nat) (tokens : List Token) : List Nat := tokens.map Token.offset ++ [size]

theorem getElem?_places {size : Nat} {tokens : List Token} {left : List Lexeme} :
    (places size tokens)[tokens.length - left.length]? = some (offsetOf tokens size left) := by
  unfold offsetOf places
  have le : tokens.length - left.length ≤ tokens.length := Nat.sub_le ..
  generalize tokens.length - left.length = k at le
  cases behind : tokens.drop k with
  | nil =>
    obtain rfl : k = tokens.length := le_antisymm le (List.drop_eq_nil_iff.mp behind)
    simp
  | cons token rest =>
    have found : tokens[k]? = some token := by
      rw [← List.head?_drop, behind]
      rfl
    rw [List.getElem?_append_left, List.getElem?_map, found]
    · rfl
    · rw [List.length_map]
      exact (List.getElem?_eq_some_iff.mp found).1

end GestureCalculator.Expression
