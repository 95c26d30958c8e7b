import GestureCalculator.Expression.Scan

/-!
Trees from words. A reader takes a tree from the front of a list of words. The readers of the operator
levels are built on each other, from the tightest level to the loosest, and an expression nested inside
another is read by the readers of the next level of nesting, of which there are only so many.
-/
namespace GestureCalculator.Expression

/-- Why reading stopped, with the words from the one at which it stopped. -/
inductive Stop where
  | malformed (cause : Malformed) (left : List Lexeme)
  | integerOverflow
deriving DecidableEq, Repr

/-- Takes a value from the front of a list of words and gives the words behind it. -/
abbrev Reader (α : Type) := List Lexeme → Except Stop (α × List Lexeme)

/-- The first of the words cannot stand where it does. -/
def unexpected {α : Type} (ts : List Lexeme) : Except Stop α := .error (.malformed (.unexpected ts.head?) ts)

/-- The readers for the three places where a nested expression may begin. -/
structure Readers where
  expression : Reader Tree
  negation : Reader Tree
  factor : Reader Tree

/-- Reads with the readers of the next level of nesting, if there is one. -/
def nested {α : Type} (inner : Option Readers) (read : Readers → Reader α) : Reader α := fun ts =>
  match inner with
  | some readers => read readers ts
  | none => .error (.malformed .nestedTooDeeply ts)

/-- Takes a symbol that has to stand here. -/
def expect (symbol : Symbol) : Reader Unit
  | .symbol found :: ts => if found = symbol then .ok ((), ts) else unexpected (.symbol found :: ts)
  | ts => unexpected ts

/-- Expressions with commas between them, up to a closing symbol, before which one more comma may stand.
    There are at most as many as there are words. -/
def itemsUpTo (close : Symbol) (item : Reader Tree) : Nat → Reader (List Tree)
  | 0, ts => unexpected ts
  | more + 1, ts =>
    if ts.head? = some (.symbol close) then .ok ([], ts.tail)
    else do
      let (first, rest) ← item ts
      match rest with
      | .symbol .comma :: rest => do
        let (others, rest) ← itemsUpTo close item more rest
        return (first :: others, rest)
      | rest => do
        let ((), rest) ← expect close rest
        return ([first], rest)

/-- Expressions with commas between them, up to a closing symbol. -/
def items (close : Symbol) (item : Reader Tree) : Reader (List Tree) := fun ts =>
  itemsUpTo close item (ts.length + 1) ts

/-- What follows an opening parenthesis: an expression in parentheses, or a tuple. -/
def parenthesized (expression : Reader Tree) : Reader Tree := fun ts =>
  if ts.head? = some (.symbol .closeParen) then .ok (.tuple [], ts.tail)
  else do
    let (first, rest) ← expression ts
    match rest with
    | .symbol .closeParen :: rest => return (first, rest)
    | rest => do
      let ((), rest) ← expect .comma rest
      let (others, rest) ← items .closeParen expression rest
      return (.tuple (first :: others), rest)

def numberLiteral (text : String) (ts : List Lexeme) : Except Stop Literal :=
  if text.toList.all Char.isDigit then
    let value : Int := Text.digitsValue text.toList
    if text ≠ "" ∧ Number.inRange value then .ok (.number (.integer value)) else .error .integerOverflow
  else
    match Binary64.read? text.toList with
    | some value => .ok (.number (.decimal value))
    | none => .error (.malformed (.foreignDigits text) ts)

/-- What a name stands for: three of them are literals. -/
def nameTree (name : String) : Tree :=
  if name = "True" then .literal (.truth true)
  else if name = "False" then .literal (.truth false)
  else if name = "None" then .literal .nothing
  else .name name

def isOperatorName (name : String) : Bool := name == "and" || name == "or" || name == "not"

/-- A literal, a name, or an expression in brackets. -/
def atom (inner : Option Readers) : Reader Tree
  | .number text :: ts => do
    let value ← numberLiteral text (.number text :: ts)
    return (.literal value, ts)
  | .quoted content :: ts => .ok (.literal (.text content), ts)
  | .name name :: ts =>
    if isOperatorName name then unexpected (.name name :: ts) else .ok (nameTree name, ts)
  | .symbol .openParen :: ts => nested inner (fun readers => parenthesized readers.expression) ts
  | .symbol .openBracket :: ts => do
    let (found, rest) ← nested inner (fun readers => items .closeBracket readers.expression) ts
    return (.list found, rest)
  | ts => unexpected ts

/-- Calls, subscripts and attributes of a tree, at most so many. -/
def suffixes (inner : Option Readers) : Nat → Tree → Reader Tree
  | more + 1, tree, .symbol .openParen :: ts => do
    let (arguments, rest) ← nested inner (fun readers => items .closeParen readers.expression) ts
    suffixes inner more (.call tree arguments) rest
  | more + 1, tree, .symbol .openBracket :: ts => do
    let (index, rest) ← nested inner (fun readers => readers.expression) ts
    let ((), rest) ← expect .closeBracket rest
    suffixes inner more (.subscript tree index) rest
  | more + 1, tree, .symbol .dot :: .name name :: ts => suffixes inner more (.attribute tree name) ts
  | _ + 1, _, .symbol .dot :: ts => unexpected ts
  | _, tree, ts => .ok (tree, ts)

/-- An atom with its calls, subscripts and attributes. -/
def primary (inner : Option Readers) : Reader Tree := fun ts => do
  let (tree, rest) ← atom inner ts
  suffixes inner rest.length tree rest

/-- A primary, or a power; the exponent may have a sign and may be a power itself. -/
def power (inner : Option Readers) : Reader Tree := fun ts => do
  let (base, rest) ← primary inner ts
  match rest with
  | .symbol .power :: rest => do
    let (exponent, rest) ← nested inner (fun readers => readers.factor) rest
    return (.binary .pow base exponent, rest)
  | rest => return (base, rest)

def unaryOperator : Lexeme → Option UnaryOp
  | .symbol .plus => some .plus
  | .symbol .minus => some .minus
  | .symbol .tilde => some .invert
  | _ => none

/-- A power with any number of operators before it. -/
def factor (inner : Option Readers) : Reader Tree := fun ts =>
  match ts.head?.bind unaryOperator with
  | some op => do
    let (operand, rest) ← nested inner (fun readers => readers.factor) ts.tail
    return (.unary op operand, rest)
  | none => power inner ts

/-- The operators of one level; they group to the left. -/
abbrev Level := Lexeme → Option BinaryOp

/-- Operators of a level with their right operands, at most so many, after a left operand. -/
def leftChainFrom (level : Level) (operand : Reader Tree) : Nat → Tree → Reader Tree
  | 0, left, ts => .ok (left, ts)
  | more + 1, left, ts =>
    match ts.head?.bind level with
    | some op => do
      let (right, rest) ← operand ts.tail
      leftChainFrom level operand more (.binary op left right) rest
    | none => .ok (left, ts)

/-- Operands with the operators of a level between them. -/
def leftChain (level : Level) (operand : Reader Tree) : Reader Tree := fun ts => do
  let (first, rest) ← operand ts
  leftChainFrom level operand rest.length first rest

def termLevel : Level
  | .symbol .times => some .mul
  | .symbol .divide => some .div
  | .symbol .floorDivide => some .floorDiv
  | .symbol .modulo => some .mod
  | .symbol .matrix => some .matMul
  | _ => none

def sumLevel : Level
  | .symbol .plus => some .add
  | .symbol .minus => some .sub
  | _ => none

def shiftLevel : Level
  | .symbol .shiftLeft => some .shiftLeft
  | .symbol .shiftRight => some .shiftRight
  | _ => none

def bitAndLevel : Level
  | .symbol .ampersand => some .bitAnd
  | _ => none

def bitXorLevel : Level
  | .symbol .caret => some .bitXor
  | _ => none

def bitOrLevel : Level
  | .symbol .bar => some .bitOr
  | _ => none

/-- The levels from the tightest to the loosest. -/
def levels : List Level := [termLevel, sumLevel, shiftLevel, bitAndLevel, bitXorLevel, bitOrLevel]

/-- Everything that needs no condition: each level takes what the tighter ones make. -/
def operand (inner : Option Readers) : Reader Tree :=
  levels.foldl (fun tighter level => leftChain level tighter) (factor inner)

def compareOperator : Lexeme → Option CompareOp
  | .symbol .equal => some .equal
  | .symbol .notEqual => some .notEqual
  | .symbol .less => some .less
  | .symbol .atMost => some .atMost
  | .symbol .greater => some .greater
  | .symbol .atLeast => some .atLeast
  | _ => none

/-- Comparisons with their right sides, at most so many. -/
def comparisons (side : Reader Tree) : Nat → Reader (List (CompareOp × Tree))
  | 0, ts => .ok ([], ts)
  | more + 1, ts =>
    match ts.head?.bind compareOperator with
    | some op => do
      let (right, rest) ← side ts.tail
      let (others, rest) ← comparisons side more rest
      return ((op, right) :: others, rest)
    | none => .ok ([], ts)

/-- A tree that is compared with nothing is no comparison. -/
def comparisonTree (first : Tree) : List (CompareOp × Tree) → Tree
  | [] => first
  | rest => .comparison first rest

def comparison (inner : Option Readers) : Reader Tree := fun ts => do
  let (first, rest) ← operand inner ts
  let (others, rest) ← comparisons (operand inner) rest.length rest
  return (comparisonTree first others, rest)

/-- A comparison with any number of negations before it. -/
def negation (inner : Option Readers) : Reader Tree := fun ts =>
  if ts.head? = some (.name "not") then do
    let (operand, rest) ← nested inner (fun readers => readers.negation) ts.tail
    return (.unary .not operand, rest)
  else comparison inner ts

/-- More conditions, each after the same operator name, at most so many. -/
def joinedFrom (name : String) (condition : Reader Tree) : Nat → Reader (List Tree)
  | 0, ts => .ok ([], ts)
  | more + 1, ts =>
    if ts.head? = some (.name name) then do
      let (next, rest) ← condition ts.tail
      let (others, rest) ← joinedFrom name condition more rest
      return (next :: others, rest)
    else .ok ([], ts)

/-- A condition alone is joined with nothing. -/
def booleanTree (op : BoolOp) (first : Tree) : List Tree → Tree
  | [] => first
  | rest => .boolean op (first :: rest)

def joined (op : BoolOp) (name : String) (condition : Reader Tree) : Reader Tree := fun ts => do
  let (first, rest) ← condition ts
  let (others, rest) ← joinedFrom name condition rest.length rest
  return (booleanTree op first others, rest)

/-- Conjunctions, and disjunctions of them. -/
def expression (inner : Option Readers) : Reader Tree :=
  joined .or "or" (joined .and "and" (negation inner))

/-- The readers of a level of nesting, given those of the next. -/
def readersOver (inner : Option Readers) : Readers :=
  ⟨expression inner, negation inner, factor inner⟩

/-- The readers with so many levels of nesting below them. -/
def readersWithin : Nat → Readers
  | 0 => readersOver none
  | depth + 1 => readersOver (some (readersWithin depth))

/-- How deep brackets, operators before an operand and exponents may be nested in each other. -/
def maxDepth : Nat := 100

/-- The tree of all words. -/
def treeOf (ts : List Lexeme) : Except Stop Tree := do
  let (tree, rest) ← (readersWithin maxDepth).expression ts
  match rest with
  | [] => return tree
  | rest => unexpected rest

/-- The offset of the first of the words that are left, or the end of the text if none is. -/
def offsetOf (tokens : List Token) (size : Nat) (left : List Lexeme) : Nat :=
  match tokens.drop (tokens.length - left.length) with
  | token :: _ => token.offset
  | [] => size

/-- The failure that a stop is in a text of the given size. -/
def Stop.failure (tokens : List Token) (size : Nat) : Stop → Failure
  | malformed cause left => .malformed (offsetOf tokens size left) cause
  | integerOverflow => .integerOverflow

/-- The tree of an expression. -/
def parse (text : String) : Except Failure Tree :=
  match tokensOf text with
  | .error failure => .error failure
  | .ok [] => .error (.malformed 0 .empty)
  | .ok tokens => (treeOf (tokens.map Token.lexeme)).mapError (Stop.failure tokens text.utf8ByteSize)

end GestureCalculator.Expression
