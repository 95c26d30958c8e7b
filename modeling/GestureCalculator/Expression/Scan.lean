import GestureCalculator.Expression.Failure
import GestureCalculator.Text.Alphanumeric
import GestureCalculator.Text.Blank
import GestureCalculator.Text.DecimalDigit

/-!
Words in a text. A text is cut into gaps of white space and words, each word the longest that fits at its
place; every word keeps the byte offset at which it was found.
-/
namespace GestureCalculator.Expression
open Text

/-- A word and the number of bytes before it. -/
structure Token where
  lexeme : Lexeme
  offset : Nat
deriving DecidableEq, Repr

/-- The number of bytes that characters take. -/
def byteLength : List Char → Nat
  | [] => 0
  | c :: cs => c.utf8Size + byteLength cs

/-- A sign at the head of a text, or nothing. -/
def leadingSign : List Char → List Char
  | '+' :: _ => ['+']
  | '-' :: _ => ['-']
  | _ => []

/-- An exponent at the head of a text: its mark, a sign if there is one, and digits. Without digits there
    is no exponent. -/
def exponentPart : List Char → List Char
  | [] => []
  | mark :: rest =>
    if mark = 'e' ∨ mark = 'E' then
      let sign := leadingSign rest
      let digits := (rest.drop sign.length).takeWhile isDecimalDigit
      if digits = [] then [] else mark :: (sign ++ digits)
    else []

/-- Digits with a point or without one at the head of a text; a point alone is none. -/
def mantissaPart (cs : List Char) : List Char :=
  let whole := cs.takeWhile isDecimalDigit
  match cs.drop whole.length with
  | '.' :: rest =>
    let fraction := rest.takeWhile isDecimalDigit
    if whole = [] ∧ fraction = [] then [] else whole ++ '.' :: fraction
  | _ => whole

/-- The number at the head of a text, or nothing. -/
def numberPart (cs : List Char) : List Char :=
  let mantissa := mantissaPart cs
  if mantissa = [] then [] else mantissa ++ exponentPart (cs.drop mantissa.length)

/-- A letter from A to Z or an underscore. -/
def beginsName (c : Char) : Bool := c.isAlpha || c == '_'

/-- A letter from A to Z, an underscore or a digit from 0 to 9. -/
def continuesName (c : Char) : Bool := beginsName c || c.isDigit

/-- The name at the head of a text, or nothing. -/
def namePart : List Char → List Char
  | c :: rest => if beginsName c then c :: rest.takeWhile continuesName else []
  | [] => []

/-- A whole number that begins with a zero and has another digit than zeros. -/
def hasLeadingZero (text : List Char) : Bool :=
  text.all Char.isDigit && text.head? == some '0' && text.any (· != '0')

/-- What follows the opening quote of a string: its content, and the number of characters up to the
    closing quote and with it. A backslash stands for the character behind it; a line break ends the
    search. -/
def quotedPart (quote : Char) : List Char → Option (List Char × Nat)
  | [] => none
  | '\\' :: c :: rest => (quotedPart quote rest).map fun (content, size) => (c :: content, size + 2)
  | c :: rest =>
    if c = quote then some ([], 1)
    else if c = '\n' ∨ c = '\\' then none
    else (quotedPart quote rest).map fun (content, size) => (c :: content, size + 1)

/-- The symbol at the head of a text. -/
def symbolPart? (cs : List Char) : Option Symbol :=
  Symbol.all.find? fun symbol => symbol.text.toList.isPrefixOf cs

/-- The word at the head of a text that does not begin with white space, and its length in characters. -/
def wordAt (c : Char) (rest : List Char) : Except Malformed (Lexeme × Nat) :=
  let number := numberPart (c :: rest)
  let name := namePart (c :: rest)
  if number ≠ [] then
    if hasLeadingZero number then .error .leadingZeros
    else if ((c :: rest).drop number.length).head?.any fun next => isAlphanumeric next || next == '_' then
      .error .numberRunsOn
    else .ok (.number (String.ofList number), number.length)
  else if name ≠ [] then .ok (.name (String.ofList name), name.length)
  else if c = '\'' ∨ c = '"' then
    match quotedPart c rest with
    | some (content, size) => .ok (.quoted (String.ofList content), size + 1)
    | none => .error .unterminatedString
  else
    match symbolPart? (c :: rest) with
    | some symbol => .ok (.symbol symbol, symbol.text.length)
    | none => .error (.unexpectedCharacter c)

/-- The words of a text that begins at an offset, if there are no more than allowed. -/
def tokensFrom : Nat → Nat → List Char → Except Failure (List Token)
  | allowed, offset, cs =>
    let start := offset + byteLength (cs.takeWhile isBlank)
    match cs.dropWhile isBlank, allowed with
    | [], _ => .ok []
    | _ :: _, 0 => .error (.malformed start .tooLong)
    | c :: rest, allowed + 1 =>
      match wordAt c rest with
      | .error cause => .error (.malformed start cause)
      | .ok (lexeme, size) =>
        match tokensFrom allowed (start + byteLength ((c :: rest).take size)) ((c :: rest).drop size) with
        | .ok tokens => .ok (⟨lexeme, start⟩ :: tokens)
        | .error failure => .error failure

/-- The greatest number of words that an expression may have. -/
def maxTokens : Nat := 4096

/-- The words of a text. -/
def tokensOf (text : String) : Except Failure (List Token) := tokensFrom maxTokens 0 text.toList

end GestureCalculator.Expression
