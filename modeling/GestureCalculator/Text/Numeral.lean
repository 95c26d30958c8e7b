/-!
Numerals: runs of digits with a sign before them or without one, and the numbers that they stand for.
-/
namespace GestureCalculator.Text

/-- The number that a run of decimal digits stands for. -/
def digitsValue (digits : List Char) : Nat := Nat.ofDigitChars 10 digits 0

def hexDigit? (c : Char) : Option Nat :=
  if c.isDigit then some (c.toNat - '0'.toNat)
  else if 'a' ≤ c ∧ c ≤ 'f' then some (c.toNat - 'a'.toNat + 10)
  else if 'A' ≤ c ∧ c ≤ 'F' then some (c.toNat - 'A'.toNat + 10)
  else none

def isDigitOf (base : Nat) (c : Char) : Bool := (hexDigit? c).any (· < base)

/-- The number that a run of digits of a base stands for. -/
def basedValue (base : Nat) (digits : List Char) : Nat :=
  digits.foldl (fun n c => base * n + (hexDigit? c).getD 0) 0

/-- The number that hexadecimal digits stand for. -/
def hexValue? (digits : List Char) : Option Nat :=
  if digits.all (isDigitOf 16) then some (basedValue 16 digits) else none

/-- A minus before a text, and the text behind the sign if it has one. -/
def splitSign : List Char → Bool × List Char
  | '-' :: rest => (true, rest)
  | '+' :: rest => (false, rest)
  | cs => (false, cs)

/-- The whole number that a sign and a size make. -/
def signed (negative : Bool) (size : Nat) : Int := if negative then -(size : Int) else size

theorem natAbs_signed (negative : Bool) (size : Nat) : (signed negative size).natAbs = size := by
  cases negative <;> simp [signed]

theorem signed_neg_iff {negative : Bool} {size : Nat} (positive : 0 < size) :
    signed negative size < 0 ↔ negative = true := by
  cases negative <;> simp [signed, positive]

/-- The whole number that a text stands for. -/
def integerOf? (text : List Char) : Option Int :=
  let (negative, digits) := splitSign text
  if digits.isEmpty || !digits.all Char.isDigit then none else some (signed negative (digitsValue digits))

end GestureCalculator.Text
