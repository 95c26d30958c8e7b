import GestureCalculator.Binary64.Decimal
import GestureCalculator.Text.Numeral
import GestureCalculator.Text.Reader
import GestureCalculator.Toml.Value

/-!
TOML values that are written without quotes or brackets: numbers, truth values, dates and times.
-/
namespace GestureCalculator.Toml
open Binary64 Text

/-- Digits without the underscores that stand between them. -/
def ungrouped? (isDigit : Char → Bool) : List Char → Option (List Char)
  | [] => none
  | [c] => if isDigit c then some [c] else none
  | c :: '_' :: rest => if isDigit c then (ungrouped? isDigit rest).map (c :: ·) else none
  | c :: rest => if isDigit c then (ungrouped? isDigit rest).map (c :: ·) else none

/-- Digits that begin with a zero only if they are nothing else. -/
def decimalDigits? (text : List Char) : Option (List Char) := do
  let digits ← ungrouped? Char.isDigit text
  if digits.head? == some '0' && digits.length ≠ 1 then none else some digits

/-- A whole number, which has to fit in 128 bits, with a sign or without one. -/
def inRange? (n : Int) : Option Value :=
  if -0x80000000000000000000000000000000 ≤ n ∧ n ≤ 0xFFFFFFFFFFFFFFFFFFFFFFFFFFFFFFFF then some (.integer n)
  else none

def integer? : List Char → Option Value
  | '0' :: 'x' :: rest => do inRange? (basedValue 16 (← ungrouped? (isDigitOf 16) rest))
  | '0' :: 'o' :: rest => do inRange? (basedValue 8 (← ungrouped? (isDigitOf 8) rest))
  | '0' :: 'b' :: rest => do inRange? (basedValue 2 (← ungrouped? (isDigitOf 2) rest))
  | text => do
    let (negative, body) := splitSign text
    inRange? (signed negative (digitsValue (← decimalDigits? body)))

/-- A digit, or an underscore between digits. -/
def isGrouped (c : Char) : Bool := c.isDigit || c == '_'

/-- The digits of a fraction that may stand at the head of a text, and the text behind it. -/
def fractionPart? : List Char → Option (List Char × List Char)
  | '.' :: rest => do return (← ungrouped? Char.isDigit (rest.takeWhile isGrouped), rest.dropWhile isGrouped)
  | rest => some ([], rest)

/-- The exponent that fills the rest of a text; nothing is the exponent zero. -/
def exponentPart? : List Char → Option Int
  | [] => some 0
  | mark :: rest => do
    let (negative, body) := splitSign rest
    if mark = 'e' ∨ mark = 'E' then
      return signed negative (digitsValue (← ungrouped? Char.isDigit body))
    else none

/-- A number with a fraction or an exponent; it has to be finite. -/
def decimal? (text : List Char) : Option Value := do
  let (negative, body) := splitSign text
  let whole ← decimalDigits? (body.takeWhile isGrouped)
  if body.all isGrouped then none
  let (fraction, rest) ← fractionPart? (body.dropWhile isGrouped)
  let exponent ← exponentPart? rest
  let value := ofDecimal negative (digitsValue (whole ++ fraction)) (exponent - fraction.length)
  if value.isFinite then some (.real value) else none

/-- Infinity and what is no number. -/
def special? (text : List Char) : Option Value :=
  match splitSign text with
  | (negative, ['i', 'n', 'f']) => some (.real (if negative then -1 / 0 else 1 / 0))
  | (_, ['n', 'a', 'n']) => some (.real (0 / 0))
  | _ => none

/-- A number of so many digits. -/
def fixedDigits? (count : Nat) : Reader Nat := fun cs =>
  let digits := cs.take count
  if digits.length = count ∧ digits.all Char.isDigit then some (digitsValue digits, cs.drop count) else none

def daysIn (year month : Nat) : Nat :=
  if month = 2 then if year % 4 = 0 ∧ (year % 100 ≠ 0 ∨ year % 400 = 0) then 29 else 28
  else if month = 4 ∨ month = 6 ∨ month = 9 ∨ month = 11 then 30
  else 31

def date? : Reader Unit := fun cs => do
  let (year, rest) ← fixedDigits? 4 cs
  let (_, rest) ← expectChar '-' rest
  let (month, rest) ← fixedDigits? 2 rest
  let (_, rest) ← expectChar '-' rest
  let (day, rest) ← fixedDigits? 2 rest
  if 1 ≤ month ∧ month ≤ 12 ∧ 1 ≤ day ∧ day ≤ daysIn year month then some ((), rest) else none

/-- A fraction of a second, which may be missing. -/
def secondFraction? : Reader Unit
  | '.' :: rest =>
    if (rest.takeWhile Char.isDigit).isEmpty then none else some ((), rest.dropWhile Char.isDigit)
  | rest => some ((), rest)

/-- Seconds, which may be missing. A leap second may occur. -/
def seconds? : Reader Unit
  | ':' :: rest => do
    let (second, rest) ← fixedDigits? 2 rest
    if second ≤ 60 then secondFraction? rest else none
  | rest => some ((), rest)

def time? : Reader Unit := fun cs => do
  let (hour, rest) ← fixedDigits? 2 cs
  let (_, rest) ← expectChar ':' rest
  let (minute, rest) ← fixedDigits? 2 rest
  if hour ≤ 23 ∧ minute ≤ 59 then seconds? rest else none

/-- A distance from universal time. -/
def zone? (cs : List Char) : Option (List Char) := do
  let (hour, rest) ← fixedDigits? 2 cs
  let (_, rest) ← expectChar ':' rest
  let (minute, rest) ← fixedDigits? 2 rest
  if hour ≤ 23 ∧ minute ≤ 59 then some rest else none

/-- A distance from universal time fills the rest of the text, or nothing does. -/
def endsMoment : List Char → Bool
  | [] => true
  | ['Z'] => true
  | ['z'] => true
  | sign :: rest => (sign == '+' || sign == '-') && zone? rest == some []

/-- The text is a date, a time, or both with a distance from universal time or without. -/
def isMoment (text : List Char) : Bool :=
  match date? text with
  | some ((), []) => true
  | some ((), gap :: rest) =>
    (gap == 'T' || gap == 't' || gap == ' ') && (time? rest).any fun (_, rest) => endsMoment rest
  | none => (time? text).any fun (_, rest) => rest.isEmpty

/-- The value of a text without quotes or brackets. -/
def scalar? (text : List Char) : Option Value :=
  if text = ['t', 'r', 'u', 'e'] then some (.truth true)
  else if text = ['f', 'a', 'l', 's', 'e'] then some (.truth false)
  else if isMoment text then some (.moment (String.ofList text))
  else integer? text <|> decimal? text <|> special? text

/-- A character of a text without quotes or brackets. -/
def isScalarChar (c : Char) : Bool :=
  c.isAlphanum || c == '+' || c == '-' || c == '.' || c == '_' || c == ':'

/-- A value without quotes or brackets. A date goes on behind one space if a digit follows it. -/
def scalar : Reader Value := fun cs =>
  let text := cs.takeWhile isScalarChar
  let rest := cs.dropWhile isScalarChar
  let tail := match rest with
    | ' ' :: c :: _ =>
      if c.isDigit && date? text == some ((), []) then ' ' :: (rest.drop 1).takeWhile isScalarChar else []
    | _ => []
  (scalar? (text ++ tail)).map fun value => (value, rest.drop tail.length)

end GestureCalculator.Toml
