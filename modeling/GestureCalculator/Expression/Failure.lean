import GestureCalculator.Expression.Lexeme
import GestureCalculator.Expression.Tree
import GestureCalculator.Text.Quoted

/-!
Why an expression has no value.
-/
namespace GestureCalculator.Expression
open Text

/-- Why a text is not a well-formed expression. -/
inductive Malformed where
  | empty
  | tooLong
  | nestedTooDeeply
  | unexpectedCharacter (c : Char)
  | unterminatedString
  | leadingZeros
  /-- A number that runs straight into a letter, a digit of another kind or an underscore. -/
  | numberRunsOn
  /-- A number with digits that are not those from 0 to 9. -/
  | foreignDigits (text : String)
  /-- A word that cannot stand where it does, or the end of the text. -/
  | unexpected (found : Option Lexeme)
deriving DecidableEq, Repr

/-- The reason in words. -/
def Malformed.message : Malformed → String
  | empty => "empty expression"
  | tooLong => "expression too long"
  | nestedTooDeeply => "expression nested too deeply"
  | unexpectedCharacter c => s!"unexpected character '{c}'"
  | unterminatedString => "unterminated string literal"
  | leadingZeros => "leading zeros in integer literals are not permitted"
  | numberRunsOn => "invalid number literal"
  | foreignDigits text => s!"invalid number literal '{text}'"
  | unexpected none => "unexpected end of expression"
  | unexpected (some (.number text)) => s!"unexpected number '{text}'"
  | unexpected (some (.quoted _)) => "unexpected string"
  | unexpected (some (.name name)) => s!"unexpected name '{name}'"
  | unexpected (some (.symbol symbol)) => "unexpected '" ++ symbol.text ++ "'"

/-- Why an expression was refused. -/
inductive Failure where
  /-- The text is not a well-formed expression; the offset counts bytes. -/
  | malformed (offset : Nat) (cause : Malformed)
  /-- The text is well formed and holds something outside arithmetic. -/
  | disallowed (construct : Construct)
  /-- A literal that is not a number. -/
  | invalidLiteral (literal : Literal)
  | divisionByZero
  /-- A whole number beyond 128 bits. -/
  | integerOverflow
  /-- A result that is infinite or not a number. -/
  | nonFinite
deriving DecidableEq, Repr

/-- How a message shows a literal. -/
def Literal.shown : Literal → String
  | number value => value.text
  | text content => quoted content
  | truth true => "True"
  | truth false => "False"
  | nothing => "None"

/-- The reason in words. -/
def Failure.message : Failure → String
  | malformed offset cause => s!"syntax error at offset {offset}: " ++ cause.message
  | disallowed construct => "construct not allowed: " ++ construct.text
  | invalidLiteral literal => "invalid literal: " ++ literal.shown
  | divisionByZero => "division by zero"
  | integerOverflow => "integer out of range"
  | nonFinite => "result is not a finite number"

end GestureCalculator.Expression
