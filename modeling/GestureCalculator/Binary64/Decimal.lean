import GestureCalculator.Binary64.Exact

/-!
Binary64 numbers in decimal notation. Reading rounds to the nearest number; writing takes the fewest
digits that read back, and of these the ones nearest to the value.
-/
namespace GestureCalculator.Binary64
open Text

def tenTo (n : Nat) : Nat := Nat.pow 10 n

/-- The number nearest to `digits * 10 ^ exponent`. Exponents far beyond the range of the format are not
    raised: the value is infinite or zero whatever the digits are. -/
def ofDecimal (negative : Bool) (digits : Nat) (exponent : Int) : Float :=
  if digits = 0 then ofSteps negative 0 1
  else if 400 ≤ exponent then ofSteps negative (twoTo 2098) 1
  else if exponent < -(400 + digits.log2 : Int) then ofSteps negative 0 1
  else if 0 ≤ exponent then ofRatio negative (digits * tenTo exponent.toNat) 1
  else ofRatio negative digits (tenTo (-exponent).toNat)

/-- An exponent part that fills the text; an empty text stands for the exponent zero. -/
def exponentOf? : List Char → Option Int
  | [] => some 0
  | mark :: rest =>
    let (negative, digits) := splitSign rest
    if (mark == 'e' || mark == 'E') && !digits.isEmpty && digits.all Char.isDigit then
      some (signed negative (digitsValue digits))
    else none

/-- The number that a decimal notation stands for: digits with a point or without one, a sign before them
    and an exponent behind them if there are any. -/
def ofText? (text : List Char) : Option Float :=
  let (negative, body) := splitSign text
  let whole := body.takeWhile Char.isDigit
  let (fraction, tail) := match body.dropWhile Char.isDigit with
    | '.' :: rest => (rest.takeWhile Char.isDigit, rest.dropWhile Char.isDigit)
    | rest => ([], rest)
  if whole.isEmpty && fraction.isEmpty then none
  else (exponentOf? tail).map fun exponent =>
    ofDecimal negative (digitsValue (whole ++ fraction)) (exponent - fraction.length)

/-- Infinity and what is no number, by their names. Letters of either case will do. -/
def named? (text : List Char) : Option Float :=
  let (negative, name) := splitSign text
  match String.ofList (name.map Char.toLower) with
  | "inf" | "infinity" => some (if negative then -1 / 0 else 1 / 0)
  | "nan" => some (0 / 0)
  | _ => none

/-- The number that a text stands for, in decimal notation or by its name. -/
def read? (text : List Char) : Option Float := ofText? text <|> named? text

/-- A decimal: digits without a point, and the power of ten they count. -/
structure Decimal where
  digits : Nat
  exponent : Int
deriving DecidableEq, Repr

/-- The decimal that is exactly so many steps. -/
def exactDecimal (size : Nat) : Decimal := ⟨size * Nat.pow 5 1074, -1074⟩

/-- The decimal reads back as so many steps. -/
def Decimal.readsBackAs (d : Decimal) (size : Nat) : Bool :=
  (ofDecimal false d.digits d.exponent).toBits == (ofSteps false size 1).toBits

/-- A point of a decimal grid that reads back as so many steps: one of the two neighbours of the value,
    the nearer if both do, and the upper of two equally near ones. -/
def gridPoint? (size : Nat) (exponent : Int) : Option Decimal :=
  let num := if 0 ≤ exponent then size else size * tenTo (-exponent).toNat
  let den := if 0 ≤ exponent then unit * tenTo exponent.toNat else unit
  let lower : Decimal := ⟨num / den, exponent⟩
  let upper : Decimal := ⟨num / den + 1, exponent⟩
  (if 2 * (num % den) < den then [lower, upper] else [upper, lower]).find? (·.readsBackAs size)

/-- The first grid at or below the given one, of so many, that has a point which reads back. -/
def coarsestDecimal (size : Nat) : Nat → Int → Decimal
  | 0, _ => exactDecimal size
  | tries + 1, exponent =>
    (gridPoint? size exponent).getD (coarsestDecimal size tries (exponent - 1))

/-- The decimal with the fewest digits that reads back as so many steps. The search begins at a power of
    ten above the value, and 17 digits are enough for every number. -/
def shortestDecimal (size : Nat) : Decimal :=
  coarsestDecimal size 24 (((size.log2 : Int) - 1073) * 30103 / 100000 + 1)

/-- The decimal with a point where one is needed, and never an exponent. -/
def Decimal.positional (d : Decimal) : List Char :=
  let text := Nat.toDigits 10 d.digits
  if 0 ≤ d.exponent then text ++ List.replicate d.exponent.toNat '0'
  else
    let places := (-d.exponent).toNat
    let padded := List.replicate (places + 1 - text.length) '0' ++ text
    padded.take (padded.length - places) ++ '.' :: padded.drop (padded.length - places)

/-- The fewest digits that read back, in positional notation. -/
def shortestText (x : Float) : String :=
  if x.isNaN then "NaN"
  else
    let size := if x.isInf then ['i', 'n', 'f']
      else if steps x = 0 then ['0']
      else (shortestDecimal (steps x)).positional
    String.ofList (if isNegative x then '-' :: size else size)

/-- The digits of a number without a fraction, all of them exact; the fewest that read back otherwise. -/
def plainText (x : Float) : String :=
  if isWhole x then toString (wholePart x) else shortestText x

end GestureCalculator.Binary64
