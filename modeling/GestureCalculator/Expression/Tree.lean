import GestureCalculator.Number

/-!
Expression trees. They hold more than arithmetic, so that whatever lies outside arithmetic can be refused
for what it is.
-/
namespace GestureCalculator.Expression

/-- A literal value. -/
inductive Literal where
  | number (value : Number)
  | text (content : String)
  | truth (value : Bool)
  | nothing
deriving DecidableEq, Repr

/-- Operators before their one operand. -/
inductive UnaryOp where
  | plus | minus | invert | not
deriving DecidableEq, Repr

/-- Operators between two operands. -/
inductive BinaryOp where
  | add | sub | mul | div | floorDiv | mod | pow | matMul | bitAnd | bitOr | bitXor | shiftLeft | shiftRight
deriving DecidableEq, Repr

/-- Operators that join conditions. -/
inductive BoolOp where
  | and | or
deriving DecidableEq, Repr

/-- Comparisons, which chain. -/
inductive CompareOp where
  | equal | notEqual | less | atMost | greater | atLeast
deriving DecidableEq, Repr

/-- An expression. -/
inductive Tree where
  | literal (value : Literal)
  | name (name : String)
  | unary (op : UnaryOp) (operand : Tree)
  | binary (op : BinaryOp) (left right : Tree)
  | boolean (op : BoolOp) (operands : List Tree)
  | comparison (first : Tree) (rest : List (CompareOp × Tree))
  | call (callee : Tree) (arguments : List Tree)
  | attribute (owner : Tree) (name : String)
  | subscript (owner index : Tree)
  | tuple (items : List Tree)
  | list (items : List Tree)
deriving Repr

/-- The kinds of expressions, as messages name them. -/
inductive Construct where
  | literal | name | unaryOperator | binaryOperator | booleanOperator | comparison | call
  | attributeAccess | subscript | tuple | list
deriving DecidableEq, Repr

/-- The name of a kind. -/
def Construct.text : Construct → String
  | literal => "literal"
  | name => "name"
  | unaryOperator => "unary operator"
  | binaryOperator => "binary operator"
  | booleanOperator => "boolean operator"
  | comparison => "comparison"
  | call => "call"
  | attributeAccess => "attribute access"
  | subscript => "subscript"
  | tuple => "tuple"
  | list => "list"

/-- The kind of the outermost node. -/
def Tree.construct : Tree → Construct
  | .literal _ => .literal
  | .name _ => .name
  | .unary .. => .unaryOperator
  | .binary .. => .binaryOperator
  | .boolean .. => .booleanOperator
  | .comparison .. => .comparison
  | .call .. => .call
  | .attribute .. => .attributeAccess
  | .subscript .. => .subscript
  | .tuple _ => .tuple
  | .list _ => .list

end GestureCalculator.Expression
