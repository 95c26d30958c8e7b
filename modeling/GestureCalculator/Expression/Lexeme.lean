/-!
The words of an expression.
-/
namespace GestureCalculator.Expression

/-- Operators and punctuation. -/
inductive Symbol where
  | power | floorDivide | shiftLeft | shiftRight | atMost | atLeast | equal | notEqual
  | plus | minus | times | divide | modulo | matrix | ampersand | bar | caret | tilde | less | greater
  | openParen | closeParen | openBracket | closeBracket | comma | dot
deriving DecidableEq, Repr

/-- How a symbol is written. -/
def Symbol.text : Symbol → String
  | power => "**" | floorDivide => "//" | shiftLeft => "<<" | shiftRight => ">>"
  | atMost => "<=" | atLeast => ">=" | equal => "==" | notEqual => "!="
  | plus => "+" | minus => "-" | times => "*" | divide => "/" | modulo => "%" | matrix => "@"
  | ampersand => "&" | bar => "|" | caret => "^" | tilde => "~" | less => "<" | greater => ">"
  | openParen => "(" | closeParen => ")" | openBracket => "[" | closeBracket => "]"
  | comma => "," | dot => "."

/-- All symbols, those of two characters first, so that the first one that fits is the longest. -/
def Symbol.all : List Symbol :=
  [.power, .floorDivide, .shiftLeft, .shiftRight, .atMost, .atLeast, .equal, .notEqual, .plus, .minus,
   .times, .divide, .modulo, .matrix, .ampersand, .bar, .caret, .tilde, .less, .greater, .openParen,
   .closeParen, .openBracket, .closeBracket, .comma, .dot]

/-- One word: a number as written, the contents of a quoted string, a name, or a symbol. -/
inductive Lexeme where
  | number (text : String)
  | quoted (content : String)
  | name (name : String)
  | symbol (symbol : Symbol)
deriving DecidableEq, Repr

end GestureCalculator.Expression
