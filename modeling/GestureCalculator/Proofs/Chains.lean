import GestureCalculator.Proofs.Operands
import Mathlib.Tactic

/-!
Chains of operators. The loops of the grammar take a marking word and a phrase behind it until no marking
word follows; each of them is one loop with different marks, and a chain that groups to the left is folded
from its sides.
-/
namespace GestureCalculator.Expression

/-- Marking words, each with what is read behind it, as long as there is a marking word; at most so many. -/
def repeated {α β : Type} (mark : Lexeme → Option α) (item : Reader β) : Nat → Reader (List (α × β))
  | 0, ts => .ok ([], ts)
  | more + 1, ts =>
    match ts.head?.bind mark with
    | some found => do
      let (value, rest) ← item ts.tail
      let (others, rest) ← repeated mark item more rest
      return ((found, value) :: others, rest)
    | none => .ok ([], ts)

/-- Marking words with a phrase behind each. -/
inductive Marked {α β : Type} (mark : Lexeme → Option α) (phrase : List Lexeme → β → Prop) :
    List Lexeme → List (α × β) → Prop
  | none : Marked mark phrase [] []
  | more {word : Lexeme} {found : α} {value : β} {us vs : List Lexeme} {others : List (α × β)} :
      mark word = some found → phrase us value → Marked mark phrase vs others →
      Marked mark phrase (word :: (us ++ vs)) ((found, value) :: others)

/-- The marking words are those at a place. -/
def MarksAt {α : Type} (mark : Lexeme → Option α) (place : Nat) : Prop :=
  ∀ word, (mark word).isSome ↔ word.joins = place

section
variable {α β : Type} {mark : Lexeme → Option α} {item : Reader β} {place : Nat}
  {phrase : List Lexeme → β → Prop} (reads : Reads item place phrase) (marks : MarksAt mark (place + 1))

include marks in
theorem Stops.of_unmarked {ts : List Lexeme} (stops : Stops place ts) (unmarked : ts.head?.bind mark = none) :
    Stops (place + 1) ts := by
  refine stops.succ fun word first joins => ?_
  obtain ⟨found, marked⟩ := Option.isSome_iff_exists.mp ((marks word).mpr joins)
  have : ts.head?.bind mark = some found := by rw [Option.mem_def.mp first]; exact marked
  rw [unmarked] at this
  cases this

include marks in
theorem Stops.unmarked {ts : List Lexeme} (stops : Stops (place + 1) ts) : ts.head?.bind mark = none := by
  rw [Option.bind_eq_none_iff]
  intro word first
  by_contra marked
  have joins := (marks word).mp (Option.isSome_iff_ne_none.mpr marked)
  have := stops word first
  omega

include reads marks in
theorem repeated_sound : ∀ (fuel : Nat) {ts rest : List Lexeme} {sides : List (α × β)}, ts.length ≤ fuel →
    Stops place ts → repeated mark item fuel ts = .ok (sides, rest) →
    ∃ words, ts = words ++ rest ∧ Marked mark phrase words sides ∧ Stops (place + 1) rest := by
  intro fuel ts rest sides short stops taken
  fun_induction repeated mark item fuel ts generalizing sides with
  | case1 ts =>
    -- As many rounds are allowed as there are words, so the words have run out too.
    obtain rfl := List.length_eq_zero_iff.mp (Nat.le_zero.mp short)
    cases taken
    exact ⟨[], rfl, .none, stops_nil _⟩
  | case2 ts fuel found marked ih =>
    obtain ⟨⟨value, behind⟩, read, went⟩ := bind_ok_iff.mp taken
    obtain ⟨⟨others, left⟩, next, done⟩ := bind_ok_iff.mp went
    cases done
    obtain ⟨us, split, holds, ends⟩ := (reads _ _ _).mp read
    obtain ⟨word, first, marked⟩ := Option.bind_eq_some_iff.mp marked
    obtain ⟨tail, rfl⟩ := List.head?_eq_some_iff.mp first
    obtain rfl : tail = us ++ behind := split
    obtain ⟨vs, rfl, rest, stops⟩ := ih behind (by simp at short; omega) ends next
    exact ⟨word :: (us ++ vs), by simp, .more marked holds rest, stops⟩
  | case3 ts fuel unmarked =>
    cases taken
    exact ⟨[], rfl, .none, stops.of_unmarked marks unmarked⟩

include marks in
theorem Marked.stops {words rest : List Lexeme} {sides : List (α × β)} (marked : Marked mark phrase words sides)
    (stops : Stops (place + 1) rest) : Stops place (words ++ rest) := by
  cases marked with
  | none => exact stops.mono (Nat.le_succ place)
  | @more word found _ _ _ _ found _ _ =>
    have joins := (marks word).mp (Option.isSome_of_eq_some found)
    simp [stops_cons, joins]

include reads marks in
theorem repeated_complete {words rest : List Lexeme} {sides : List (α × β)}
    (marked : Marked mark phrase words sides) (stops : Stops (place + 1) rest) :
    ∀ fuel, (words ++ rest).length ≤ fuel → repeated mark item fuel (words ++ rest) = .ok (sides, rest) := by
  induction marked with
  | none =>
    rintro (_ | fuel) _
    · rfl
    · simp only [repeated, List.nil_append, stops.unmarked marks]
  | @more word found value us vs others marked holds tail ih =>
    rintro (_ | fuel) short
    · simp at short
    · have read := (reads _ _ _).mpr ⟨us, rfl, holds, tail.stops marks stops⟩
      simp only [repeated, List.cons_append, List.append_assoc, List.head?_cons, Option.bind_some, marked,
        List.tail_cons, read, bind, Except.bind]
      rw [ih fuel (by simp at short ⊢; omega)]
      rfl

end

/-- A chain of operators that group to the left. -/
def chained (first : Tree) (sides : List (BinaryOp × Tree)) : Tree :=
  sides.foldl (fun left side => .binary side.1 left side.2) first

theorem leftChainFrom_eq (level : Level) (operand : Reader Tree) (fuel : Nat) (left : Tree) (ts : List Lexeme) :
    leftChainFrom level operand fuel left ts =
      repeated level operand fuel ts >>= fun more => .ok (chained left more.1, more.2) := by
  induction fuel generalizing left ts with
  | zero => rfl
  | succ fuel ih =>
    simp only [leftChainFrom, repeated]
    cases ts.head?.bind level with
    | none => rfl
    | some op =>
      simp only [ih, bind_assoc]
      rfl

theorem leftChainFrom_ok_iff {level : Level} {operand : Reader Tree} (fuel : Nat) {left tree : Tree}
    {ts rest : List Lexeme} : leftChainFrom level operand fuel left ts = .ok (tree, rest) ↔
      ∃ sides, repeated level operand fuel ts = .ok (sides, rest) ∧ tree = chained left sides := by
  rw [leftChainFrom_eq, bind_ok_iff]
  constructor
  · rintro ⟨⟨sides, behind⟩, run, done⟩
    cases done
    exact ⟨sides, run, rfl⟩
  · rintro ⟨sides, run, rfl⟩
    exact ⟨(sides, rest), run, rfl⟩

/-- The levels of operators, the phrases they make, and their places. -/
inductive LevelAt : Level → Phrase → Nat → Prop
  | term : LevelAt termLevel .term 3
  | sum : LevelAt sumLevel .sum 4
  | shift : LevelAt shiftLevel .shift 5
  | bitAnd : LevelAt bitAndLevel .bitAnd 6
  | bitXor : LevelAt bitXorLevel .bitXor 7
  | bitOr : LevelAt bitOrLevel .bitOr 8

section
variable {level : Level} {phrase : Phrase} {place : Nat} (levelAt : LevelAt level phrase place)
include levelAt

theorem LevelAt.operators_ne_nil : phrase.operators ≠ [] := by
  cases levelAt <;> simp [Phrase.operators]

theorem LevelAt.eq_some_iff {word : Lexeme} {op : BinaryOp} :
    level word = some op ↔ ∃ symbol, word = .symbol symbol ∧ (symbol, op) ∈ phrase.operators := by
  cases word with
  | symbol symbol =>
    cases levelAt <;> cases symbol <;>
      simp [termLevel, sumLevel, shiftLevel, bitAndLevel, bitXorLevel, bitOrLevel, Phrase.operators, eq_comm]
  | _ => cases levelAt <;> simp [termLevel, sumLevel, shiftLevel, bitAndLevel, bitXorLevel, bitOrLevel]

theorem LevelAt.marksAt : MarksAt level place := by
  intro word
  cases word with
  | symbol symbol => cases levelAt <;> cases symbol <;> decide
  | name name =>
    have far : (Lexeme.name name).joins ≠ place := by
      cases levelAt <;> simp only [Lexeme.joins] <;> split_ifs <;> decide
    cases levelAt <;> simpa [termLevel, sumLevel, shiftLevel, bitAndLevel, bitXorLevel, bitOrLevel] using far
  | _ =>
    cases levelAt <;>
      simp [termLevel, sumLevel, shiftLevel, bitAndLevel, bitXorLevel, bitOrLevel, Lexeme.joins]

end

theorem Marked.snoc {α β : Type} {mark : Lexeme → Option α} {phrase : List Lexeme → β → Prop}
    {vs us : List Lexeme} {sides : List (α × β)} {word : Lexeme} {found : α} {value : β}
    (marked : Marked mark phrase vs sides) (last : mark word = some found) (holds : phrase us value) :
    Marked mark phrase (vs ++ word :: us) (sides ++ [(found, value)]) := by
  induction marked with
  | none => simpa using Marked.more last holds .none
  | more first holds _ ih => simpa using Marked.more first holds ih

theorem derives_chained {depth place : Nat} {level : Level} {phrase : Phrase} (levelAt : LevelAt level phrase place)
    {vs : List Lexeme} {sides : List (BinaryOp × Tree)}
    (marked : Marked level (Derives depth phrase.tighter) vs sides) :
    ∀ {us : List Lexeme} {first : Tree}, Derives depth phrase us first →
      Derives depth phrase (us ++ vs) (chained first sides) := by
  induction marked with
  | none => intro us first derives; simpa [chained] using derives
  | more found holds _ ih =>
    intro us first derives
    obtain ⟨symbol, rfl, member⟩ := levelAt.eq_some_iff.mp found
    simpa [chained] using ih (.binary member derives holds)

/-- A phrase of a kind with operators that group to the left is a chain of tighter ones. -/
theorem derives_chained_iff {depth place : Nat} {level : Level} {phrase : Phrase}
    (levelAt : LevelAt level phrase place) {words : List Lexeme} {tree : Tree} :
    Derives depth phrase words tree ↔
      ∃ us vs first sides, words = us ++ vs ∧ Derives depth phrase.tighter us first ∧
        Marked level (Derives depth phrase.tighter) vs sides ∧ tree = chained first sides := by
  constructor
  · intro derives
    induction derives with
    | @alone _ _ words tree _ derives _ => exact ⟨words, [], tree, [], by simp, derives, .none, rfl⟩
    | @binary _ _ symbol op before behind left right member _ right' ih _ =>
      obtain ⟨us, vs, first, sides, rfl, derives, marked, rfl⟩ := ih levelAt
      have found := levelAt.eq_some_iff.mpr ⟨symbol, rfl, member⟩
      exact ⟨us, _, first, _, List.append_assoc .., derives, marked.snoc found right', by simp [chained]⟩
    | _ => exact absurd rfl levelAt.operators_ne_nil
  · rintro ⟨us, vs, first, sides, rfl, derives, marked, rfl⟩
    refine derives_chained levelAt marked (.alone ?_ derives)
    rintro rfl
    exact levelAt.operators_ne_nil rfl

theorem leftChain_reads {depth place : Nat} {level : Level} {phrase : Phrase} {operand : Reader Tree}
    (levelAt : LevelAt level phrase (place + 1)) (reads : Reads operand place (Derives depth phrase.tighter)) :
    Reads (leftChain level operand) (place + 1) (Derives depth phrase) := by
  have marks := levelAt.marksAt
  intro ts tree rest
  rw [leftChain, bind_ok_iff]
  constructor
  · rintro ⟨⟨first, behind⟩, read, went⟩
    obtain ⟨us, rfl, derives, stops⟩ := (reads _ _ _).mp read
    obtain ⟨sides, run, rfl⟩ := (leftChainFrom_ok_iff _).mp went
    obtain ⟨vs, rfl, marked, stops⟩ := repeated_sound reads marks _ le_rfl stops run
    refine ⟨us ++ vs, by simp, (derives_chained_iff levelAt).mpr ?_, stops⟩
    exact ⟨us, vs, first, sides, rfl, derives, marked, rfl⟩
  · rintro ⟨words, rfl, derives, stops⟩
    obtain ⟨us, vs, first, sides, rfl, tight, marked, rfl⟩ := (derives_chained_iff levelAt).mp derives
    refine ⟨(first, vs ++ rest), ?_, (leftChainFrom_ok_iff _).mpr ⟨sides, ?_, rfl⟩⟩
    · exact (reads _ _ _).mpr ⟨us, by simp, tight, marked.stops marks stops⟩
    · exact repeated_complete reads marks marked stops _ le_rfl

theorem operand_reads {depth : Nat} {inner : Option Readers} (below : RecogniseBelow inner depth) :
    Reads (operand inner) 8 (Derives depth .bitOr) := by
  have term := leftChain_reads .term (factor_reads below)
  have sum := leftChain_reads .sum term
  have shift := leftChain_reads .shift sum
  have bitAnd := leftChain_reads .bitAnd shift
  have bitXor := leftChain_reads .bitXor bitAnd
  exact leftChain_reads .bitOr bitXor

end GestureCalculator.Expression
