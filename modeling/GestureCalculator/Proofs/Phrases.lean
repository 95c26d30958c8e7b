import GestureCalculator.Proofs.Derivation
import Mathlib.Tactic

/-!
What a reader takes. It takes exactly the phrases of its kind behind which no word follows that the phrase
could have gone on with (`Reads`). Lists and parentheses come first, over any reader of expressions.
-/
namespace GestureCalculator.Expression

/-- The place of the loosest kind of phrase that goes on with a word, counted from the tightest; no phrase
    goes on with a word in the last place. -/
def Lexeme.joins : Lexeme → Nat
  | .symbol .openParen | .symbol .openBracket | .symbol .dot => 1
  | .symbol .power => 2
  | .symbol .times | .symbol .divide | .symbol .floorDivide | .symbol .modulo | .symbol .matrix => 3
  | .symbol .plus | .symbol .minus => 4
  | .symbol .shiftLeft | .symbol .shiftRight => 5
  | .symbol .ampersand => 6
  | .symbol .caret => 7
  | .symbol .bar => 8
  | .symbol .equal | .symbol .notEqual | .symbol .less | .symbol .atMost | .symbol .greater
  | .symbol .atLeast => 9
  | .name word => if word = "and" then 10 else if word = "or" then 11 else 12
  | _ => 12

/-- No phrase up to a place goes on with the first of the words. -/
def Stops (place : Nat) (words : List Lexeme) : Prop := ∀ word ∈ words.head?, place < word.joins

/-- A reader takes exactly the phrases that do not go on behind what it took. -/
def Reads {α : Type} (reader : Reader α) (place : Nat) (phrase : List Lexeme → α → Prop) : Prop :=
  ∀ ts value rest, reader ts = .ok (value, rest) ↔
    ∃ words, ts = words ++ rest ∧ phrase words value ∧ Stops place rest

theorem stops_nil (place : Nat) : Stops place [] := by simp [Stops]

theorem stops_cons {place : Nat} {word : Lexeme} {words : List Lexeme} :
    Stops place (word :: words) ↔ place < word.joins := by simp [Stops]

/-- Atoms do not go on. -/
theorem stops_zero (words : List Lexeme) : Stops 0 words := by
  intro word _
  unfold Lexeme.joins
  split <;> (try split_ifs) <;> omega

theorem Stops.mono {low high : Nat} {words : List Lexeme} (stops : Stops high words) (le : low ≤ high) :
    Stops low words := fun word member => lt_of_le_of_lt le (stops word member)

theorem Stops.succ {place : Nat} {words : List Lexeme} (stops : Stops place words)
    (other : ∀ word ∈ words.head?, word.joins ≠ place + 1) : Stops (place + 1) words :=
  fun word member => lt_of_le_of_ne (stops word member) (other word member).symm

/-- A step that succeeds was made behind one that did. -/
theorem bind_ok_iff {ε α β : Type} {first : Except ε α} {next : α → Except ε β} {result : β} :
    first >>= next = .ok result ↔ ∃ value, first = .ok value ∧ next value = .ok result := by
  cases first <;> simp [bind, Except.bind]

theorem bind_error_iff {ε α β : Type} {first : Except ε α} {next : α → Except ε β} {failure : ε} :
    first >>= next = .error failure ↔
      first = .error failure ∨ ∃ value, first = .ok value ∧ next value = .error failure := by
  cases first <;> simp [bind, Except.bind]

theorem map_ok_iff {ε α β : Type} {f : α → β} {first : Except ε α} {result : β} :
    first.map f = .ok result ↔ ∃ value, first = .ok value ∧ f value = result := by
  cases first <;> simp [Except.map]

theorem map_error_iff {ε α β : Type} {f : α → β} {first : Except ε α} {failure : ε} :
    first.map f = .error failure ↔ first = .error failure := by
  cases first <;> simp [Except.map]

theorem unexpected_ne_ok {α : Type} {ts : List Lexeme} {result : α × List Lexeme} :
    unexpected ts ≠ .ok result := by simp [unexpected]

theorem expect_ok_iff {symbol : Symbol} {ts rest : List Lexeme} :
    expect symbol ts = .ok ((), rest) ↔ ts = .symbol symbol :: rest := by
  unfold expect
  split
  · next found ts =>
    by_cases same : found = symbol
    · simp [same]
    · simp [same, unexpected]
  · next other =>
    simp only [unexpected_ne_ok, false_iff]
    rintro rfl
    exact other _ _ rfl

theorem nested_ok_iff {α : Type} {inner : Option Readers} {read : Readers → Reader α} {ts rest : List Lexeme}
    {value : α} : nested inner read ts = .ok (value, rest) ↔
      ∃ readers, inner = some readers ∧ read readers ts = .ok (value, rest) := by
  cases inner <;> simp [nested]

/-! ### What phrases begin with -/

/-- A word that begins an atom. -/
def Lexeme.beginsAtom : Lexeme → Prop
  | .number _ | .quoted _ | .symbol .openParen | .symbol .openBracket => True
  | .name word => word ∉ reserved
  | _ => False

/-- A word that begins a phrase of a kind. -/
def Phrase.begins : Phrase → Lexeme → Prop
  | disjunction, word | conjunction, word | negation, word =>
    word.beginsAtom ∨ (unaryOperator word).isSome ∨ word = .name "not"
  | power, word | primary, word | atom, word => word.beginsAtom
  | _, word => word.beginsAtom ∨ (unaryOperator word).isSome

theorem begins_of_tighter {phrase : Phrase} {word : Lexeme} (begins : phrase.tighter.begins word) :
    phrase.begins word := by
  cases phrase <;> simp only [Phrase.tighter, Phrase.begins] at begins ⊢ <;> tauto

theorem begins_append {phrase : Phrase} {us vs : List Lexeme}
    (begins : ∃ word rest, us = word :: rest ∧ phrase.begins word) :
    ∃ word rest, us ++ vs = word :: rest ∧ phrase.begins word := by
  obtain ⟨word, rest, rfl, begins⟩ := begins
  exact ⟨word, rest ++ vs, rfl, begins⟩

theorem begins_looser {phrase : Phrase} {words : List Lexeme}
    (begins : ∃ word rest, words = word :: rest ∧ phrase.tighter.begins word) :
    ∃ word rest, words = word :: rest ∧ phrase.begins word := by
  obtain ⟨word, rest, rfl, begins⟩ := begins
  exact ⟨word, rest, rfl, begins_of_tighter begins⟩

/-- Every phrase has words, and the first of them tells whether it begins with an operator. -/
theorem derives_begins {depth : Nat} {phrase : Phrase} {words : List Lexeme} {tree : Tree}
    (derives : Derives depth phrase words tree) : ∃ word rest, words = word :: rest ∧ phrase.begins word := by
  induction derives with
  | alone _ _ ih => exact begins_looser ih
  | disjunction _ _ _ ih => exact begins_append (begins_looser ih)
  | conjunction _ _ _ ih => exact begins_append (begins_looser ih)
  | negation _ _ => exact ⟨_, _, rfl, .inr (.inr rfl)⟩
  | comparison _ _ _ ih => exact begins_append (begins_looser ih)
  | binary _ _ _ ih => exact begins_append ih
  | sign member _ _ =>
    refine ⟨_, _, rfl, .inr ?_⟩
    simp only [signs, List.mem_cons, List.not_mem_nil, or_false, Prod.mk.injEq] at member
    rcases member with ⟨rfl, rfl⟩ | ⟨rfl, rfl⟩ | ⟨rfl, rfl⟩ <;> rfl
  | power _ _ ih => exact begins_append (begins_looser ih)
  | call _ _ _ ih => exact begins_append ih
  | subscript _ _ ih => exact begins_append ih
  | attributeAccess _ ih => exact begins_append ih
  | number _ => exact ⟨_, _, rfl, trivial⟩
  | quoted => exact ⟨_, _, rfl, trivial⟩
  | constant member =>
    refine ⟨_, _, rfl, ?_⟩
    simp only [constants, List.mem_cons, List.not_mem_nil, or_false, Prod.mk.injEq] at member
    rcases member with ⟨rfl, rfl⟩ | ⟨rfl, rfl⟩ | ⟨rfl, rfl⟩ <;>
      simp [Phrase.begins, Lexeme.beginsAtom, reserved]
  | name free _ => exact ⟨_, _, rfl, free⟩
  | emptyTuple => exact ⟨_, _, rfl, trivial⟩
  | group _ _ => exact ⟨_, _, rfl, trivial⟩
  | tuple _ _ _ _ => exact ⟨_, _, rfl, trivial⟩
  | list _ _ => exact ⟨_, _, rfl, trivial⟩

/-- The symbols that end a list. -/
def Symbol.Closes (symbol : Symbol) : Prop := symbol = .closeParen ∨ symbol = .closeBracket

/-- No phrase begins with a closing symbol. -/
theorem derives_head_ne {depth : Nat} {words : List Lexeme} {tree : Tree} {close : Symbol}
    (derives : Derives depth .disjunction words tree) (closes : close.Closes) (rest : List Lexeme) :
    (words ++ rest).head? ≠ some (.symbol close) := by
  obtain ⟨word, others, rfl, begins⟩ := derives_begins derives
  rintro same
  obtain rfl : word = .symbol close := by simpa using same
  rcases closes with rfl | rfl <;> simp [Phrase.begins, Lexeme.beginsAtom, unaryOperator] at begins

/-! ### Lists and brackets -/

/-- The words are phrases with commas between them and a closing symbol behind them. -/
inductive Enclosed (depth : Nat) (close : Symbol) : List Lexeme → List Tree → Prop
  | none : Enclosed depth close [.symbol close] []
  | last {words : List Lexeme} {tree : Tree} : Derives depth .disjunction words tree →
      Enclosed depth close (words ++ [.symbol close]) [tree]
  | more {words rest : List Lexeme} {tree : Tree} {others : List Tree} :
      Derives depth .disjunction words tree → Enclosed depth close rest others →
      Enclosed depth close (words ++ .symbol .comma :: rest) (tree :: others)

theorem enclosed_of_listed {depth : Nat} (close : Symbol) {parts : List (List Lexeme × Tree)}
    {words : List Lexeme} (listed : Listed (parts.map Prod.fst) words)
    (all : ∀ part ∈ parts, Derives depth .disjunction part.1 part.2) :
    Enclosed depth close (words ++ [.symbol close]) (parts.map Prod.snd) := by
  generalize same : parts.map Prod.fst = phrases at listed
  induction listed generalizing parts with
  | none =>
    obtain rfl := List.map_eq_nil_iff.mp same
    exact .none
  | last words =>
    obtain ⟨part, others, rfl, rfl, empty⟩ := List.map_eq_cons_iff.mp same
    obtain rfl := List.map_eq_nil_iff.mp empty
    exact .last (all part (by simp))
  | more words _ ih =>
    obtain ⟨part, others, rfl, rfl, tail⟩ := List.map_eq_cons_iff.mp same
    have rest := ih (fun part member => all part (by simp [member])) tail
    simpa using Enclosed.more (all part (by simp)) rest

theorem listed_of_enclosed {depth : Nat} {close : Symbol} {words : List Lexeme} {trees : List Tree}
    (enclosed : Enclosed depth close words trees) :
    ∃ (parts : List (List Lexeme × Tree)) (inside : List Lexeme), words = inside ++ [.symbol close] ∧
      Listed (parts.map Prod.fst) inside ∧ (∀ part ∈ parts, Derives depth .disjunction part.1 part.2) ∧
      trees = parts.map Prod.snd := by
  induction enclosed with
  | none => exact ⟨[], [], rfl, .none, by simp, rfl⟩
  | @last words tree derives => exact ⟨[(words, tree)], words, rfl, .last words, by simpa using derives, rfl⟩
  | @more words rest tree others derives _ ih =>
    obtain ⟨parts, inside, rfl, listed, all, rfl⟩ := ih
    refine ⟨(words, tree) :: parts, words ++ .symbol .comma :: inside, by simp, .more words listed, ?_, rfl⟩
    rintro part (_ | ⟨_, member⟩)
    · exact derives
    · exact all part member

theorem Enclosed.tuple {depth : Nat} {us vs : List Lexeme} {first : Tree} {others : List Tree}
    (enclosed : Enclosed depth .closeParen vs others) (derives : Derives depth .disjunction us first) :
    Derives (depth + 1) .atom (.symbol .openParen :: (us ++ .symbol .comma :: vs)) (.tuple (first :: others)) := by
  obtain ⟨parts, inside, rfl, listed, all, rfl⟩ := listed_of_enclosed enclosed
  exact .tuple derives listed all

theorem Enclosed.list {depth : Nat} {words : List Lexeme} {trees : List Tree}
    (enclosed : Enclosed depth .closeBracket words trees) :
    Derives (depth + 1) .atom (.symbol .openBracket :: words) (.list trees) := by
  obtain ⟨parts, inside, rfl, listed, all, rfl⟩ := listed_of_enclosed enclosed
  exact .list listed all

theorem Symbol.Closes.ne_comma {close : Symbol} (closes : close.Closes) : close ≠ .comma := by
  rcases closes with rfl | rfl <;> decide

theorem Symbol.Closes.stops {close : Symbol} (closes : close.Closes) (rest : List Lexeme) :
    Stops 11 (.symbol close :: rest) := by
  rcases closes with rfl | rfl <;> simp [stops_cons, Lexeme.joins]

theorem stops_comma (rest : List Lexeme) : Stops 11 (.symbol .comma :: rest) := by
  simp [stops_cons, Lexeme.joins]

section
variable {depth : Nat} {close : Symbol} {expression : Reader Tree}

theorem itemsUpTo_sound (reads : Reads expression 11 (Derives depth .disjunction)) :
    ∀ (fuel : Nat) {ts rest : List Lexeme} {trees : List Tree},
      itemsUpTo close expression fuel ts = .ok (trees, rest) →
      ∃ words, ts = words ++ rest ∧ Enclosed depth close words trees := by
  intro fuel
  induction fuel with
  | zero => intro ts rest trees taken; exact absurd taken unexpected_ne_ok
  | succ fuel ih =>
    intro ts rest trees taken
    rw [itemsUpTo] at taken
    split at taken
    · next closed =>
      obtain ⟨tail, rfl⟩ := List.head?_eq_some_iff.mp closed
      simp only [List.tail_cons, Except.ok.injEq, Prod.mk.injEq] at taken
      obtain ⟨rfl, rfl⟩ := taken
      exact ⟨[.symbol close], rfl, .none⟩
    · obtain ⟨⟨first, behind⟩, read, went⟩ := bind_ok_iff.mp taken
      obtain ⟨us, rfl, derives, _⟩ := (reads _ _ _).mp read
      dsimp only at went
      split at went
      · obtain ⟨⟨others, left⟩, next, done⟩ := bind_ok_iff.mp went
        obtain ⟨words, rfl, enclosed⟩ := ih next
        cases done
        exact ⟨us ++ .symbol .comma :: words, by simp, .more derives enclosed⟩
      · obtain ⟨⟨⟨⟩, left⟩, closed, done⟩ := bind_ok_iff.mp went
        obtain rfl := expect_ok_iff.mp closed
        cases done
        exact ⟨us ++ [.symbol close], by simp, .last derives⟩

theorem itemsUpTo_complete (reads : Reads expression 11 (Derives depth .disjunction)) (closes : close.Closes)
    {words : List Lexeme} {trees : List Tree} (enclosed : Enclosed depth close words trees)
    (rest : List Lexeme) : ∀ fuel, (words ++ rest).length < fuel →
      itemsUpTo close expression fuel (words ++ rest) = .ok (trees, rest) := by
  induction enclosed with
  | none =>
    rintro (_ | fuel) short
    · omega
    · simp [itemsUpTo]
  | @last us tree derives =>
    rintro (_ | fuel) short
    · omega
    · have read : expression (us ++ .symbol close :: rest) = .ok (tree, .symbol close :: rest) :=
        (reads _ _ _).mpr ⟨us, rfl, derives, closes.stops rest⟩
      have begun := derives_head_ne derives closes (.symbol close :: rest)
      rw [itemsUpTo]
      simp only [List.append_assoc, List.singleton_append, begun, ↓reduceIte, read, bind, Except.bind]
      split
      · next same => exact absurd (by simpa using (List.cons.inj same).1) closes.ne_comma
      · rw [expect_ok_iff.mpr rfl]
        rfl
  | @more us others tree trees derives _ ih =>
    rintro (_ | fuel) short
    · omega
    · have read : expression (us ++ .symbol .comma :: (others ++ rest)) =
          .ok (tree, .symbol .comma :: (others ++ rest)) :=
        (reads _ _ _).mpr ⟨us, rfl, derives, stops_comma _⟩
      have begun := derives_head_ne derives closes (.symbol .comma :: (others ++ rest))
      rw [itemsUpTo]
      simp only [List.append_assoc, List.cons_append, begun, ↓reduceIte, read, bind, Except.bind]
      rw [ih fuel (by simp at short ⊢; omega)]
      rfl

theorem items_reads (reads : Reads expression 11 (Derives depth .disjunction)) (closes : close.Closes) :
    Reads (items close expression) 0 (Enclosed depth close) := by
  intro ts trees rest
  constructor
  · intro taken
    obtain ⟨words, split, enclosed⟩ := itemsUpTo_sound reads _ taken
    exact ⟨words, split, enclosed, stops_zero rest⟩
  · rintro ⟨words, rfl, enclosed, _⟩
    exact itemsUpTo_complete reads closes enclosed rest _ (Nat.lt_succ_self _)

theorem parenthesized_sound (reads : Reads expression 11 (Derives depth .disjunction)) {ts rest : List Lexeme}
    {tree : Tree} (taken : parenthesized expression ts = .ok (tree, rest)) :
    ∃ words, ts = words ++ rest ∧ Derives (depth + 1) .atom (.symbol .openParen :: words) tree := by
  unfold parenthesized at taken
  split at taken
  · next closed =>
    obtain ⟨tail, rfl⟩ := List.head?_eq_some_iff.mp closed
    cases taken
    exact ⟨[.symbol .closeParen], rfl, .emptyTuple⟩
  · obtain ⟨⟨first, behind⟩, read, went⟩ := bind_ok_iff.mp taken
    obtain ⟨us, rfl, derives, _⟩ := (reads _ _ _).mp read
    dsimp only at went
    split at went
    · cases went
      exact ⟨us ++ [.symbol .closeParen], by simp, .group derives⟩
    · obtain ⟨⟨⟨⟩, behindComma⟩, comma, more⟩ := bind_ok_iff.mp went
      obtain rfl := expect_ok_iff.mp comma
      obtain ⟨⟨others, left⟩, next, done⟩ := bind_ok_iff.mp more
      obtain ⟨vs, rfl, enclosed, _⟩ := (items_reads reads (.inl rfl) _ _ _).mp next
      cases done
      exact ⟨us ++ .symbol .comma :: vs, by simp, enclosed.tuple derives⟩

theorem parenthesized_group (reads : Reads expression 11 (Derives depth .disjunction)) {words : List Lexeme}
    {tree : Tree} (derives : Derives depth .disjunction words tree) (rest : List Lexeme) :
    parenthesized expression (words ++ .symbol .closeParen :: rest) = .ok (tree, rest) := by
  have read := (reads _ _ _).mpr ⟨words, rfl, derives, Symbol.Closes.stops (.inl rfl) rest⟩
  have begun := derives_head_ne derives (.inl rfl) (.symbol .closeParen :: rest)
  unfold parenthesized
  rw [if_neg begun, read]
  rfl

theorem parenthesized_tuple (reads : Reads expression 11 (Derives depth .disjunction)) {us vs : List Lexeme}
    {first : Tree} {others : List Tree} (derives : Derives depth .disjunction us first)
    (enclosed : Enclosed depth .closeParen vs others) (rest : List Lexeme) :
    parenthesized expression (us ++ .symbol .comma :: (vs ++ rest)) = .ok (.tuple (first :: others), rest) := by
  have read := (reads _ _ _).mpr ⟨us, rfl, derives, stops_comma (vs ++ rest)⟩
  have listed := (items_reads reads (.inl rfl) _ _ _).mpr ⟨vs, rfl, enclosed, stops_zero rest⟩
  have begun := derives_head_ne derives (.inl rfl) (.symbol .comma :: (vs ++ rest))
  unfold parenthesized
  rw [if_neg begun, read]
  simp only [bind, Except.bind, expect_ok_iff.mpr rfl, listed]
  rfl

end

end GestureCalculator.Expression
