import GestureCalculator.Expression.Grammar

/-!
The grammar of expressions, as a relation between words and the trees they stand for. It says nothing
about how a tree is found: a phrase may be cut into parts anywhere, and the depth is only a bound on how
often phrases lie in brackets, behind operators before an operand, or in exponents.
-/
namespace GestureCalculator.Expression

/-- The kinds of phrases, from the loosest to the tightest. -/
inductive Phrase where
  | disjunction | conjunction | negation | comparison
  | bitOr | bitXor | bitAnd | shift | sum | term
  | factor | power | primary | atom
deriving DecidableEq, Repr

namespace Phrase

/-- The next tighter kind. Nothing is tighter than an atom. -/
def tighter : Phrase → Phrase
  | disjunction => conjunction
  | conjunction => negation
  | negation => comparison
  | comparison => bitOr
  | bitOr => bitXor
  | bitXor => bitAnd
  | bitAnd => shift
  | shift => sum
  | sum => term
  | term => factor
  | factor => power
  | power => primary
  | primary => atom
  | atom => atom

/-- The operators between operands of a kind, which group to the left. -/
def operators : Phrase → List (Symbol × BinaryOp)
  | bitOr => [(.bar, .bitOr)]
  | bitXor => [(.caret, .bitXor)]
  | bitAnd => [(.ampersand, .bitAnd)]
  | shift => [(.shiftLeft, .shiftLeft), (.shiftRight, .shiftRight)]
  | sum => [(.plus, .add), (.minus, .sub)]
  | term => [(.times, .mul), (.divide, .div), (.floorDivide, .floorDiv), (.modulo, .mod), (.matrix, .matMul)]
  | _ => []

end Phrase

/-- The symbols before an operand. -/
def signs : List (Symbol × UnaryOp) := [(.plus, .plus), (.minus, .minus), (.tilde, .invert)]

/-- The symbol of a comparison. -/
def CompareOp.symbol : CompareOp → Symbol
  | equal => .equal
  | notEqual => .notEqual
  | less => .less
  | atMost => .atMost
  | greater => .greater
  | atLeast => .atLeast

/-- The names that are literals. -/
def constants : List (String × Literal) := [("True", .truth true), ("False", .truth false), ("None", .nothing)]

/-- The names that are operators and so stand for nothing themselves. -/
def reserved : List String := ["and", "or", "not"]

/-- The literals that numbers stand for: digits from 0 to 9 alone make a whole number, if it has no more
    than 128 bits; other texts make the binary64 number that they are read as. -/
inductive NumberLiteral : String → Literal → Prop
  | whole {text : String} : text ≠ "" → text.toList.all Char.isDigit →
      Number.inRange (Text.digitsValue text.toList) →
      NumberLiteral text (.number (.integer (Text.digitsValue text.toList)))
  | fraction {text : String} {value : Float} : ¬ text.toList.all Char.isDigit →
      Binary64.read? text.toList = some value → NumberLiteral text (.number (.decimal value))

/-- The words of phrases with commas between them. One more comma may stand behind the last phrase, but
    not alone. -/
inductive Listed : List (List Lexeme) → List Lexeme → Prop
  | none : Listed [] []
  | last (words : List Lexeme) : Listed [words] words
  | more {others : List (List Lexeme)} {rest : List Lexeme} (words : List Lexeme) :
      Listed others rest → Listed (words :: others) (words ++ .symbol .comma :: rest)

/-- The words are a phrase of a kind that stands for the tree, with at most so many phrases nested in each
    other. Lists of parts pair the words of each part with its tree. -/
inductive Derives : Nat → Phrase → List Lexeme → Tree → Prop
  | alone {depth : Nat} {phrase : Phrase} {words : List Lexeme} {tree : Tree} : phrase ≠ .atom →
      Derives depth phrase.tighter words tree → Derives depth phrase words tree
  | disjunction {depth : Nat} {words : List Lexeme} {first : Tree} {others : List (List Lexeme × Tree)} :
      Derives depth .conjunction words first → others ≠ [] →
      (∀ part ∈ others, Derives depth .conjunction part.1 part.2) →
      Derives depth .disjunction (words ++ others.flatMap fun part => .name "or" :: part.1)
        (.boolean .or (first :: others.map Prod.snd))
  | conjunction {depth : Nat} {words : List Lexeme} {first : Tree} {others : List (List Lexeme × Tree)} :
      Derives depth .negation words first → others ≠ [] →
      (∀ part ∈ others, Derives depth .negation part.1 part.2) →
      Derives depth .conjunction (words ++ others.flatMap fun part => .name "and" :: part.1)
        (.boolean .and (first :: others.map Prod.snd))
  | negation {depth : Nat} {words : List Lexeme} {operand : Tree} : Derives depth .negation words operand →
      Derives (depth + 1) .negation (.name "not" :: words) (.unary .not operand)
  | comparison {depth : Nat} {words : List Lexeme} {first : Tree}
      {others : List (CompareOp × List Lexeme × Tree)} :
      Derives depth .bitOr words first → others ≠ [] →
      (∀ part ∈ others, Derives depth .bitOr part.2.1 part.2.2) →
      Derives depth .comparison (words ++ others.flatMap fun part => .symbol part.1.symbol :: part.2.1)
        (.comparison first (others.map fun part => (part.1, part.2.2)))
  | binary {depth : Nat} {phrase : Phrase} {symbol : Symbol} {op : BinaryOp} {before behind : List Lexeme}
      {left right : Tree} : (symbol, op) ∈ phrase.operators →
      Derives depth phrase before left → Derives depth phrase.tighter behind right →
      Derives depth phrase (before ++ .symbol symbol :: behind) (.binary op left right)
  | sign {depth : Nat} {symbol : Symbol} {op : UnaryOp} {words : List Lexeme} {operand : Tree} :
      (symbol, op) ∈ signs → Derives depth .factor words operand →
      Derives (depth + 1) .factor (.symbol symbol :: words) (.unary op operand)
  | power {depth : Nat} {before behind : List Lexeme} {base exponent : Tree} :
      Derives (depth + 1) .primary before base → Derives depth .factor behind exponent →
      Derives (depth + 1) .power (before ++ .symbol .power :: behind) (.binary .pow base exponent)
  | call {depth : Nat} {before words : List Lexeme} {callee : Tree} {parts : List (List Lexeme × Tree)} :
      Derives (depth + 1) .primary before callee → Listed (parts.map Prod.fst) words →
      (∀ part ∈ parts, Derives depth .disjunction part.1 part.2) →
      Derives (depth + 1) .primary (before ++ .symbol .openParen :: (words ++ [.symbol .closeParen]))
        (.call callee (parts.map Prod.snd))
  | subscript {depth : Nat} {before words : List Lexeme} {owner index : Tree} :
      Derives (depth + 1) .primary before owner → Derives depth .disjunction words index →
      Derives (depth + 1) .primary (before ++ .symbol .openBracket :: (words ++ [.symbol .closeBracket]))
        (.subscript owner index)
  | attributeAccess {depth : Nat} {before : List Lexeme} {owner : Tree} {name : String} :
      Derives depth .primary before owner →
      Derives depth .primary (before ++ [.symbol .dot, .name name]) (.attribute owner name)
  | number {depth : Nat} {text : String} {value : Literal} : NumberLiteral text value →
      Derives depth .atom [.number text] (.literal value)
  | quoted {depth : Nat} {content : String} : Derives depth .atom [.quoted content] (.literal (.text content))
  | constant {depth : Nat} {name : String} {value : Literal} : (name, value) ∈ constants →
      Derives depth .atom [.name name] (.literal value)
  | name {depth : Nat} {name : String} : name ∉ reserved → name ∉ constants.map Prod.fst →
      Derives depth .atom [.name name] (.name name)
  | emptyTuple {depth : Nat} :
      Derives (depth + 1) .atom [.symbol .openParen, .symbol .closeParen] (.tuple [])
  | group {depth : Nat} {words : List Lexeme} {tree : Tree} : Derives depth .disjunction words tree →
      Derives (depth + 1) .atom (.symbol .openParen :: (words ++ [.symbol .closeParen])) tree
  | tuple {depth : Nat} {before words : List Lexeme} {first : Tree} {parts : List (List Lexeme × Tree)} :
      Derives depth .disjunction before first → Listed (parts.map Prod.fst) words →
      (∀ part ∈ parts, Derives depth .disjunction part.1 part.2) →
      Derives (depth + 1) .atom
        (.symbol .openParen :: (before ++ .symbol .comma :: (words ++ [.symbol .closeParen])))
        (.tuple (first :: parts.map Prod.snd))
  | list {depth : Nat} {words : List Lexeme} {parts : List (List Lexeme × Tree)} :
      Listed (parts.map Prod.fst) words → (∀ part ∈ parts, Derives depth .disjunction part.1 part.2) →
      Derives (depth + 1) .atom (.symbol .openBracket :: (words ++ [.symbol .closeBracket]))
        (.list (parts.map Prod.snd))

end GestureCalculator.Expression
