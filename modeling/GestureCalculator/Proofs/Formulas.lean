import GestureCalculator.Proofs.WrittenWords
import Mathlib.Tactic

/-!
Formulas of whole numbers, and how they are written with no more parentheses than needed. An operand stands in
parentheses if it is looser than what the grammar lets stand at its place; what is written is then read as the tree
of the formula, unless it has too many words or is nested too deeply.
-/
namespace GestureCalculator.Expression

inductive Sign where
  | plus | minus
deriving DecidableEq, Repr

/-- Whole numbers with signs and arithmetic between them. -/
inductive Formula where
  | number (n : Nat) (fits : n < 2 ^ 127)
  | signed (sign : Sign) (operand : Formula)
  | operation (op : ArithmeticOp) (left right : Formula)
deriving DecidableEq, Repr

def Sign.symbol : Sign → Symbol
  | plus => .plus
  | minus => .minus

def Sign.operator : Sign → UnaryOp
  | plus => .plus
  | minus => .minus

namespace ArithmeticOp

def symbol : ArithmeticOp → Symbol
  | add => .plus
  | sub => .minus
  | mul => .times
  | div => .divide
  | floorDiv => .floorDivide
  | mod => .modulo
  | pow => .power

def operator : ArithmeticOp → BinaryOp
  | add => .add
  | sub => .sub
  | mul => .mul
  | div => .div
  | floorDiv => .floorDiv
  | mod => .mod
  | pow => .pow

/-- The kind of phrase that the operator makes. -/
def phrase : ArithmeticOp → Phrase
  | add | sub => .sum
  | mul | div | floorDiv | mod => .term
  | pow => .power

/-- The loosest phrase on the left that needs no parentheses. Sums and terms group to the left, and no operator
    stands in the base of a power. -/
def leftPlace : ArithmeticOp → Phrase
  | add | sub => .sum
  | mul | div | floorDiv | mod => .term
  | pow => .primary

/-- The loosest phrase on the right that needs no parentheses. The exponent of a power may be a power. -/
def rightPlace : ArithmeticOp → Phrase
  | add | sub => .term
  | mul | div | floorDiv | mod | pow => .factor

end ArithmeticOp

/-- The number of kinds that are tighter. -/
def Phrase.looseness : Phrase → Nat
  | atom => 0
  | primary => 1
  | power => 2
  | factor => 3
  | term => 4
  | sum => 5
  | shift => 6
  | bitAnd => 7
  | bitXor => 8
  | bitOr => 9
  | comparison => 10
  | negation => 11
  | conjunction => 12
  | disjunction => 13

/-- How many pairs of parentheses a phrase needs at a place. -/
def Phrase.pairsAt (place phrase : Phrase) : Nat := if phrase.looseness ≤ place.looseness then 0 else 1

/-- The words of a phrase at a place, in parentheses if it needs them. -/
def inPlace (place phrase : Phrase) (words : List Lexeme) : List Lexeme :=
  if phrase.looseness ≤ place.looseness then words
  else .symbol .openParen :: (words ++ [.symbol .closeParen])

namespace Formula

def tree : Formula → Tree
  | number n _ => .literal (.number (.integer n))
  | signed sign operand => .unary sign.operator operand.tree
  | operation op left right => .binary op.operator left.tree right.tree

def phrase : Formula → Phrase
  | number .. => .atom
  | signed .. => .factor
  | operation op .. => op.phrase

/-- The words of the formula with as few parentheses as possible. -/
def words : Formula → List Lexeme
  | number n _ => [.number (String.ofList (Nat.toDigits 10 n))]
  | signed sign operand => .symbol sign.symbol :: inPlace .factor operand.phrase operand.words
  | operation op left right =>
    inPlace op.leftPlace left.phrase left.words ++
      .symbol op.symbol :: inPlace op.rightPlace right.phrase right.words

/-- The formula as it is written, without spaces. -/
def text (formula : Formula) : String := String.ofList (written formula.words)

/-- How many parentheses, signs and exponents are nested in each other. -/
def nesting : Formula → Nat
  | number .. => 0
  | signed _ operand => operand.nesting + Phrase.pairsAt .factor operand.phrase + 1
  | operation op left right =>
    max (left.nesting + op.leftPlace.pairsAt left.phrase)
      (right.nesting + op.rightPlace.pairsAt right.phrase + if op = .pow then 1 else 0)

end Formula

/-! ### Phrases at their places -/

theorem looseness_tighter {phrase : Phrase} (loose : phrase ≠ .atom) :
    phrase.looseness = phrase.tighter.looseness + 1 := by
  cases phrase <;> first | rfl | exact absurd rfl loose

theorem looseness_injective {phrase other : Phrase} (same : phrase.looseness = other.looseness) : phrase = other := by
  cases phrase <;> cases other <;> first | rfl | cases same

/-- A phrase is a phrase of every looser kind. -/
theorem Derives.loosen {depth : Nat} {phrase place : Phrase} {words : List Lexeme} {tree : Tree}
    (derives : Derives depth phrase words tree) (le : phrase.looseness ≤ place.looseness) :
    Derives depth place words tree := by
  generalize rank : place.looseness = n at le
  induction n generalizing place with
  | zero =>
    obtain rfl := looseness_injective (rank.trans (Nat.le_zero.mp le).symm)
    exact derives
  | succ n ih =>
    by_cases same : phrase.looseness = n + 1
    · obtain rfl := looseness_injective (same.trans rank.symm)
      exact derives
    · have loose : place ≠ .atom := by
        rintro rfl
        cases rank
      rw [looseness_tighter loose] at rank
      exact .alone loose (ih (Nat.succ.inj rank) (by omega))

theorem derives_inPlace {depth nesting : Nat} {place phrase : Phrase} {words : List Lexeme} {tree : Tree}
    (derives : ∀ {less}, nesting ≤ less → Derives less phrase words tree)
    (deep : nesting + place.pairsAt phrase ≤ depth) : Derives depth place (inPlace place phrase words) tree := by
  unfold Phrase.pairsAt at deep
  unfold inPlace
  split_ifs at deep ⊢ with tight
  · exact (derives deep).loosen tight
  · obtain ⟨less, rfl⟩ : ∃ less, depth = less + 1 := ⟨depth - 1, by omega⟩
    have inside : Derives less .disjunction words tree := (derives (by omega)).loosen (by cases phrase <;> decide)
    exact (Derives.group inside).loosen (Nat.zero_le _)

/-- All operators but powers stand between operands that group to the left. -/
theorem grouped_of_ne_pow {op : ArithmeticOp} (other : op ≠ .pow) : (op.symbol, op.operator) ∈ op.phrase.operators ∧
    op.leftPlace = op.phrase ∧ op.rightPlace = op.phrase.tighter := by
  revert other
  cases op <;> decide

/-- The grammar derives the tree of a formula from its words, at every depth at which they are not nested too
    deeply. -/
theorem derives_words (formula : Formula) :
    ∀ {depth : Nat}, formula.nesting ≤ depth → Derives depth formula.phrase formula.words formula.tree := by
  induction formula with
  | number n fits =>
    intro depth _
    have literal : NumberLiteral (String.ofList (Nat.toDigits 10 n)) (.number (.integer n)) := by
      refine numberLiteral_ok_iff.mp ((numberLiteral_toDigits n []).trans (if_pos ?_))
      exact Number.inRange_iff.mpr (by omega)
    exact .number literal
  | signed sign operand ih =>
    intro depth deep
    simp only [Formula.nesting] at deep
    obtain ⟨less, rfl⟩ : ∃ less, depth = less + 1 := ⟨depth - 1, by omega⟩
    have behind : Derives less .factor (inPlace .factor operand.phrase operand.words) operand.tree :=
      derives_inPlace ih (Nat.le_of_succ_le_succ deep)
    exact .sign (by cases sign <;> decide) behind
  | operation op left right ihLeft ihRight =>
    intro depth deep
    obtain ⟨deepLeft, deepRight⟩ := max_le_iff.mp deep
    have before := derives_inPlace ihLeft deepLeft
    by_cases power : op = .pow
    · subst power
      obtain ⟨less, rfl⟩ : ∃ less, depth = less + 1 := ⟨depth - 1, by simp at deepRight; omega⟩
      exact .power before (derives_inPlace ihRight (Nat.le_of_succ_le_succ deepRight))
    · rw [if_neg power, Nat.add_zero] at deepRight
      have behind := derives_inPlace ihRight deepRight
      obtain ⟨member, samePlace, tighterPlace⟩ := grouped_of_ne_pow power
      exact .binary member (samePlace ▸ before) (tighterPlace ▸ behind)

/-! ### Words at their places -/

/-- A word that an operand begins with. -/
def Lexeme.opens : Lexeme → Prop
  | .number _ | .symbol .plus | .symbol .minus | .symbol .openParen => True
  | _ => False

/-- A word that an operand ends with. -/
def Lexeme.closes : Lexeme → Prop
  | .number _ | .symbol .closeParen => True
  | _ => False

theorem apart_of_opens {symbol : Symbol} {word : Lexeme} (opens : word.opens) : Apart (.symbol symbol) word := by
  cases symbol <;> first | trivial | (unfold Lexeme.opens at opens; split at opens <;> simp_all [Apart])

theorem apart_of_closes {symbol : Symbol} {word : Lexeme} (closes : word.closes) : Apart word (.symbol symbol) := by
  unfold Lexeme.closes at closes
  split at closes
  · exact ⟨symbol, rfl⟩
  · trivial
  · cases closes

/-- Words of arithmetic from the beginning of an operand to its end, all of them apart from each other. -/
structure Legible (words : List Lexeme) : Prop where
  arithmetic : ∀ word ∈ words, Arithmetic word
  apart : words.IsChain Apart
  opens : ∃ word ∈ words.head?, word.opens
  closes : ∃ word ∈ words.getLast?, word.closes

theorem Legible.number (n : Nat) : Legible [.number (String.ofList (Nat.toDigits 10 n))] where
  arithmetic := by simpa using Arithmetic.number (String.toList_ofList ▸ shown_toDigits n)
  apart := List.isChain_singleton _
  opens := ⟨_, rfl, trivial⟩
  closes := ⟨_, rfl, trivial⟩

theorem Legible.signed {symbol : Symbol} {words : List Lexeme} (legible : Legible words)
    (member : symbol ∈ arithmeticSymbols) (opens : Lexeme.opens (.symbol symbol)) :
    Legible (.symbol symbol :: words) where
  arithmetic := List.forall_mem_cons.mpr ⟨.symbol member, legible.arithmetic⟩
  apart := by
    obtain ⟨word, first, begins⟩ := legible.opens
    refine List.isChain_cons.mpr ⟨fun next second => ?_, legible.apart⟩
    obtain rfl := Option.mem_unique first second
    exact apart_of_opens begins
  opens := ⟨_, rfl, opens⟩
  closes := by
    obtain ⟨word, last, ends⟩ := legible.closes
    exact ⟨word, by simp [List.getLast?_cons, Option.mem_def.mp last], ends⟩

theorem Legible.operation {symbol : Symbol} {us vs : List Lexeme} (left : Legible us) (right : Legible vs)
    (member : symbol ∈ arithmeticSymbols) : Legible (us ++ .symbol symbol :: vs) where
  arithmetic := by
    intro word inside
    rcases List.mem_append.mp inside with inside | inside
    · exact left.arithmetic word inside
    · exact List.forall_mem_cons.mpr ⟨.symbol member, right.arithmetic⟩ word inside
  apart := by
    obtain ⟨word, first, begins⟩ := right.opens
    obtain ⟨word', last, ends⟩ := left.closes
    refine List.isChain_append.mpr ⟨left.apart, List.isChain_cons.mpr ⟨fun next second => ?_, right.apart⟩, ?_⟩
    · obtain rfl := Option.mem_unique first second
      exact apart_of_opens begins
    · rintro other last' _ ⟨⟩
      obtain rfl := Option.mem_unique last last'
      exact apart_of_closes ends
  opens := by
    obtain ⟨word, first, begins⟩ := left.opens
    exact ⟨word, by simp [List.head?_append, Option.mem_def.mp first], begins⟩
  closes := by
    obtain ⟨word, last, ends⟩ := right.closes
    exact ⟨word, by simp [List.getLast?_append, List.getLast?_cons, Option.mem_def.mp last], ends⟩

theorem Legible.enclosed {words : List Lexeme} (legible : Legible words) :
    Legible (.symbol .openParen :: (words ++ [.symbol .closeParen])) where
  arithmetic := by
    have opening : Arithmetic (.symbol .openParen) := .symbol (by decide)
    have closing : Arithmetic (.symbol .closeParen) := .symbol (by decide)
    simpa [opening, closing, or_imp, forall_and] using legible.arithmetic
  apart := by
    obtain ⟨word, last, ends⟩ := legible.closes
    refine List.isChain_cons.mpr ⟨fun _ _ => trivial, List.isChain_append.mpr ⟨legible.apart, by simp, ?_⟩⟩
    rintro other last' _ ⟨⟩
    obtain rfl := Option.mem_unique last last'
    exact apart_of_closes ends
  opens := ⟨_, rfl, trivial⟩
  closes := ⟨.symbol .closeParen, by simp [List.getLast?_cons], trivial⟩

theorem Legible.inPlace {words : List Lexeme} (legible : Legible words) (place phrase : Phrase) :
    Legible (inPlace place phrase words) := by
  unfold Expression.inPlace
  split
  · exact legible
  · exact legible.enclosed

theorem legible_words (formula : Formula) : Legible formula.words := by
  induction formula with
  | number n _ => exact .number n
  | signed sign operand ih => exact (ih.inPlace _ _).signed (by cases sign <;> decide) (by cases sign <;> trivial)
  | operation op left right ihLeft ihRight =>
    exact (ihLeft.inPlace _ _).operation (ihRight.inPlace _ _) (by cases op <;> decide)

/-- The text of a formula is read as the tree of the formula, as long as it has no more words and is nested no
    deeper than any expression may. -/
theorem parse_formula_text (formula : Formula) (short : formula.words.length ≤ maxTokens)
    (shallow : formula.nesting ≤ maxDepth) : parse formula.text = .ok formula.tree := by
  obtain ⟨arithmetic, apart, _, _⟩ := legible_words formula
  exact parse_written apart arithmetic short ((derives_words formula shallow).loosen (by cases formula.phrase <;> decide))

/-- Signs and powers in a base and in an exponent, and differences on both sides of a quotient. -/
theorem parse_formula_text_powers_and_brackets :
    let one := Formula.number 1 (by decide)
    let two := Formula.number 2 (by decide)
    let power := Formula.operation .pow (.signed .minus one) (.operation .pow two (.signed .minus one))
    let difference := Formula.operation .sub (.operation .sub one two) (.operation .sub one two)
    let formula := Formula.operation .mod (.operation .floorDiv power difference) (.signed .plus power)
    formula.text = "(-1)**2**-1//(1-2-(1-2))%+(-1)**2**-1" ∧ formula.words.length ≤ maxTokens ∧
      formula.nesting ≤ maxDepth ∧ parse formula.text = .ok formula.tree := by
  intro one two power difference formula
  have short : formula.words.length ≤ maxTokens := by decide
  have shallow : formula.nesting ≤ maxDepth := by decide
  exact ⟨by decide, short, shallow, parse_formula_text formula short shallow⟩

end GestureCalculator.Expression
