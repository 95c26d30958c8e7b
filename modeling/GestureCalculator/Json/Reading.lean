import GestureCalculator.Json.Value
import GestureCalculator.Text.Numeral
import GestureCalculator.Text.Reader

/-!
JSON values from their text. The text is exactly one value with white space around it; containers may be
nested 127 deep, and a number beyond the binary64 range is no value.
-/
namespace GestureCalculator.Json
open Text

/-- Space, tab and the two characters of line breaks. -/
def isSpace (c : Char) : Bool := c == ' ' || c == '\t' || c == '\n' || c == '\r'

/-- A text without the white space before it. -/
def trimStart (cs : List Char) : List Char := cs.dropWhile isSpace

/-- The character that two halves of a surrogate pair stand for. -/
def pairedChar (high low : Nat) : Char :=
  Char.ofNat (0x10000 + (high - 0xD800) * 0x400 + (low - 0xDC00))

/-- The character that a backslash and a letter stand for. -/
def simpleEscape? : Char → Option Char
  | '"' => some '"'
  | '\\' => some '\\'
  | '/' => some '/'
  | 'b' => some '\x08'
  | 'f' => some '\x0c'
  | 'n' => some '\n'
  | 'r' => some '\r'
  | 't' => some '\t'
  | _ => none

/-- The character at the head of a string, which may be escaped. A surrogate stands only in a pair, and
    control characters have to be escaped. -/
def stringChar : Reader Char
  | '\\' :: 'u' :: a :: b :: c :: d :: rest => do
    let unit ← hexValue? [a, b, c, d]
    if 0xD800 ≤ unit ∧ unit < 0xDC00 then
      match rest with
      | '\\' :: 'u' :: e :: f :: g :: h :: rest => do
        let low ← hexValue? [e, f, g, h]
        if 0xDC00 ≤ low ∧ low < 0xE000 then some (pairedChar unit low, rest) else none
      | _ => none
    else if 0xDC00 ≤ unit ∧ unit < 0xE000 then none
    else some (Char.ofNat unit, rest)
  | '\\' :: c :: rest => do return (← simpleEscape? c, rest)
  | c :: rest => if c = '\\' ∨ c.toNat < 0x20 then none else some (c, rest)
  | [] => none

/-- The rest of a string up to its closing quote. It has no more characters than the text. -/
def stringRest : Nat → Reader (List Char)
  | 0, _ => none
  | _ + 1, '"' :: rest => some ([], rest)
  | more + 1, cs => do
    let (c, rest) ← stringChar cs
    let (others, rest) ← stringRest more rest
    return (c :: others, rest)

/-- A string, from its opening quote. -/
def string : Reader String
  | '"' :: rest => do
    let (content, rest) ← stringRest rest.length rest
    return (String.ofList content, rest)
  | _ => none

/-- A fraction at the head of a text, or nothing. -/
def fraction : List Char → List Char
  | '.' :: rest => '.' :: rest.takeWhile Char.isDigit
  | _ => []

/-- An exponent at the head of a text, or nothing. -/
def exponent : List Char → List Char
  | mark :: rest =>
    if mark = 'e' ∨ mark = 'E' then
      let sign := match rest with
        | '+' :: _ => ['+']
        | '-' :: _ => ['-']
        | _ => []
      mark :: (sign ++ (rest.drop sign.length).takeWhile Char.isDigit)
    else []
  | [] => []

/-- A whole number is a zero or begins with another digit. -/
def isPlain (whole : List Char) : Bool := whole == ['0'] || whole.head?.any (· != '0')

/-- The number with the given sign, digits, fraction and exponent, if it is in range. -/
def numberOf (negative : Bool) (whole fraction exponent : List Char) : Option Json :=
  let value? := Binary64.ofText? ((if negative then ['-'] else []) ++ whole ++ fraction ++ exponent)
  let size := digitsValue whole
  match value? with
  | none => none
  | some value =>
    if !value.isFinite then none
    else if fraction.isEmpty && exponent.isEmpty && !(negative && size == 0) then
      some (.integer (signed negative size))
    else some (.real value)

/-- A number. A point or an exponent mark needs digits behind it. -/
def number : Reader Json := fun cs =>
  let negative := cs.head? == some '-'
  let unsigned := if negative then cs.tail else cs
  let whole := unsigned.takeWhile Char.isDigit
  let afterWhole := unsigned.dropWhile Char.isDigit
  let point := fraction afterWhole
  let afterPoint := afterWhole.drop point.length
  let power := exponent afterPoint
  if isPlain whole && point != ['.'] && (power.isEmpty || power.getLast?.any Char.isDigit) then do
    return (← numberOf negative whole point power, afterPoint.drop power.length)
  else none

/-- A literal name. -/
def keyword (name : List Char) (value : Json) : Reader Json := fun cs =>
  if name.isPrefixOf cs then some (value, cs.drop name.length) else none

/-- What follows an item of a container: a comma, after which the next one has to come, or the closing
    bracket. -/
def commaOr (close : Char) : Reader Bool := fun cs =>
  match trimStart cs with
  | c :: rest => if c = ',' then some (true, rest) else if c = close then some (false, rest) else none
  | [] => none

/-- Items with commas between them up to a closing bracket, at most so many. -/
def itemsUpTo {α : Type} (close : Char) (item : Reader α) : Nat → Reader (List α)
  | 0, _ => none
  | more + 1, cs => do
    let (first, rest) ← item (trimStart cs)
    let (another, rest) ← commaOr close rest
    if another then do
      let (others, rest) ← itemsUpTo close item more rest
      return (first :: others, rest)
    else return ([first], rest)

/-- The items of a container, from behind its opening bracket. -/
def items {α : Type} (close : Char) (item : Reader α) : Reader (List α) := fun cs =>
  match trimStart cs with
  | c :: rest => if c = close then some ([], rest) else itemsUpTo close item (rest.length + 1) (c :: rest)
  | [] => none

/-- A name, a colon and a value. -/
def field (value : Reader Json) : Reader (String × Json) := fun cs => do
  let (name, rest) ← string cs
  match trimStart rest with
  | ':' :: rest => do
    let (value, rest) ← value (trimStart rest)
    return ((name, value), rest)
  | _ => none

/-- A value, given the reader for the values inside its containers, if there may be any. -/
def valueOver (inner : Option (Reader Json)) : Reader Json
  | '[' :: rest => do
    let (found, rest) ← items ']' (← inner) rest
    return (.array found, rest)
  | '\x7b' :: rest => do
    let (found, rest) ← items '\x7d' (field (← inner)) rest
    return (.object found, rest)
  | '"' :: rest => do
    let (content, rest) ← string ('"' :: rest)
    return (.text content, rest)
  | 'n' :: rest => keyword ['n', 'u', 'l', 'l'] .null ('n' :: rest)
  | 't' :: rest => keyword ['t', 'r', 'u', 'e'] (.truth true) ('t' :: rest)
  | 'f' :: rest => keyword ['f', 'a', 'l', 's', 'e'] (.truth false) ('f' :: rest)
  | cs => number cs

/-- A value with at most so many containers inside each other. -/
def valueWithin : Nat → Reader Json
  | 0 => valueOver none
  | depth + 1 => valueOver (some (valueWithin depth))

/-- How deep containers may be nested. -/
def maxDepth : Nat := 127

/-- The value that a text is. -/
def ofText? (text : String) : Option Json := do
  let (value, rest) ← valueWithin maxDepth (trimStart text.toList)
  if (trimStart rest).isEmpty then some value else none

end GestureCalculator.Json
