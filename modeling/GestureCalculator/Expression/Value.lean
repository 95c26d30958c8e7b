import GestureCalculator.Expression.Grammar

/-!
The values of expressions. Only numbers, signs and seven operators have a value; everything else that can
be written is refused by its kind. Whole numbers stay exact or fail, and no result is infinite.
-/
namespace GestureCalculator.Expression
open Binary64

/-- The operators of arithmetic. -/
inductive ArithmeticOp where
  | add | sub | mul | div | floorDiv | mod | pow
deriving DecidableEq, Repr

/-- The arithmetic operator that an operator between two operands is, if it is one. -/
def BinaryOp.arithmetic? : BinaryOp → Option ArithmeticOp
  | add => some .add
  | sub => some .sub
  | mul => some .mul
  | div => some .div
  | floorDiv => some .floorDiv
  | mod => some .mod
  | pow => some .pow
  | _ => none

/-- A whole number that is kept exactly, or a failure. -/
def exactly (n : Int) : Except Failure Number :=
  if Number.inRange n then .ok (.integer n) else .error .integerOverflow

/-- A finite binary64 number, or a failure. -/
def finite (x : Float) : Except Failure Number :=
  if x.isFinite then .ok (.decimal x) else .error .nonFinite

/-- The floored quotient and the remainder of two finite numbers. The remainder has the sign of the
    divisor; the quotient is made from it and moved to the nearest whole number. -/
def flooredDivision (x y : Float) : Float × Float :=
  let rest := remainder x y
  let quotient := (x - rest) / y
  let (quotient, rest) :=
    if rest == 0 then (quotient, zeroLike y)
    else if decide (rest < 0) != decide (y < 0) then (quotient - 1, rest + y)
    else (quotient, rest)
  if quotient == 0 then (zeroLike (x / y), rest)
  else
    let below := floor quotient
    (if 0.5 < quotient - below then below + 1 else below, rest)

/-- Arithmetic on binary64 numbers. -/
def applyFloats (op : ArithmeticOp) (x y : Float) : Except Failure Number :=
  match op with
  | .add => finite (x + y)
  | .sub => finite (x - y)
  | .mul => finite (x * y)
  | .div => if y == 0 then .error .divisionByZero else finite (x / y)
  | .floorDiv => if y == 0 then .error .divisionByZero else finite (flooredDivision x y).1
  | .mod => if y == 0 then .error .divisionByZero else finite (flooredDivision x y).2
  | .pow => if x == 0 && y < 0 then .error .divisionByZero else finite (x.pow y)

/-- A power of a whole number. From the exponent 128 on only zero, one and minus one have a power that is
    kept exactly, and theirs depends on the parity of the exponent alone. -/
def integerPower (base : Int) (exponent : Nat) : Except Failure Number :=
  if exponent < 128 then exactly (base.pow exponent)
  else if base.natAbs ≤ 1 then exactly (base.pow (exponent % 2 + 2))
  else .error .integerOverflow

/-- Arithmetic on whole numbers. Quotients and powers with a negative exponent are no whole numbers. -/
def applyIntegers (op : ArithmeticOp) (m n : Int) : Except Failure Number :=
  match op with
  | .add => exactly (m + n)
  | .sub => exactly (m - n)
  | .mul => exactly (m * n)
  | .div => if n = 0 then .error .divisionByZero else applyFloats .div (ofInt m) (ofInt n)
  | .floorDiv => if n = 0 then .error .divisionByZero else exactly (m.fdiv n)
  | .mod => if n = 0 then .error .divisionByZero else exactly (m.fmod n)
  | .pow =>
    if 0 ≤ n then integerPower m n.toNat
    else if m = 0 then .error .divisionByZero
    else applyFloats .pow (ofInt m) (ofInt n)

/-- Arithmetic on numbers: on whole numbers if both are, on binary64 numbers otherwise. -/
def apply (op : ArithmeticOp) : Number → Number → Except Failure Number
  | .integer m, .integer n => applyIntegers op m n
  | x, y => applyFloats op x.toFloat y.toFloat

/-- The opposite of a number. -/
def opposite : Number → Except Failure Number
  | .integer n => exactly (-n)
  | .decimal x => .ok (.decimal (-x))

/-- The value of a literal. -/
def Literal.value : Literal → Except Failure Number
  | number (.integer n) => .ok (.integer n)
  | number (.decimal x) => finite x
  | other => .error (.invalidLiteral other)

/-- The value of a tree. Operators are looked at before their operands, the left operand before the
    right. -/
def Tree.value : Tree → Except Failure Number
  | .literal constant => constant.value
  | .unary .plus operand => operand.value
  | .unary .minus operand => do opposite (← operand.value)
  | .binary op left right =>
    match op.arithmetic? with
    | none => .error (.disallowed .binaryOperator)
    | some op => do
      let x ← left.value
      let y ← right.value
      apply op x y
  | other => .error (.disallowed other.construct)

/-- The value of an expression. -/
def evaluate (text : String) : Except Failure Number := do
  let tree ← parse text
  tree.value

end GestureCalculator.Expression
