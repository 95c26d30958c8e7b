import GestureCalculator.Expression.Value
import GestureCalculator.Proofs.Recognition
import Mathlib.Tactic

/-!
Arithmetic on whole numbers alone. `Means` gives a tree its value among all whole numbers, however large;
the value that is computed is that one as long as every sub-expression stays within 128 bits, and otherwise
the failure is the one of the first sub-expression that goes wrong.
-/
namespace GestureCalculator.Number

theorem inRange_iff {n : Int} : inRange n ↔ -2 ^ 127 ≤ n ∧ n < 2 ^ 127 := by
  rw [inRange, decide_eq_true_iff]
  rfl

end GestureCalculator.Number

namespace GestureCalculator.Expression

/-- The operators that make whole numbers of whole numbers. -/
def integerOperators : List BinaryOp := [.add, .sub, .mul, .floorDiv, .mod, .pow]

/-- Whole numbers, signs, and the operators between whole numbers. -/
inductive IntegerTree : Tree → Prop
  | literal {n : Int} : Number.inRange n → IntegerTree (.literal (.number (.integer n)))
  | sign {op : UnaryOp} {operand : Tree} : op ∈ [UnaryOp.plus, UnaryOp.minus] → IntegerTree operand →
      IntegerTree (.unary op operand)
  | binary {op : BinaryOp} {left right : Tree} : op ∈ integerOperators → IntegerTree left →
      IntegerTree right → IntegerTree (.binary op left right)

/-- The sub-expressions from left to right, each behind its operands. -/
def Tree.postorder : Tree → List Tree
  | .unary op operand => operand.postorder ++ [.unary op operand]
  | .binary op left right => left.postorder ++ right.postorder ++ [.binary op left right]
  | tree => [tree]

/-- The quotient is rounded down, and what is left has the sign of the divisor. -/
structure Floored (dividend divisor quotient rest : Int) : Prop where
  adds_up : dividend = divisor * quotient + rest
  follows : 0 ≤ rest ∧ rest < divisor ∨ divisor < rest ∧ rest ≤ 0

/-- The value of a tree among all whole numbers. -/
inductive Means : Tree → Int → Prop
  | literal {n : Int} : Means (.literal (.number (.integer n))) n
  | plus {operand : Tree} {a : Int} : Means operand a → Means (.unary .plus operand) a
  | minus {operand : Tree} {a : Int} : Means operand a → Means (.unary .minus operand) (-a)
  | add {left right : Tree} {a b : Int} : Means left a → Means right b → Means (.binary .add left right) (a + b)
  | sub {left right : Tree} {a b : Int} : Means left a → Means right b → Means (.binary .sub left right) (a - b)
  | mul {left right : Tree} {a b : Int} : Means left a → Means right b → Means (.binary .mul left right) (a * b)
  | floorDiv {left right : Tree} {a b quotient rest : Int} : Means left a → Means right b →
      Floored a b quotient rest → Means (.binary .floorDiv left right) quotient
  | mod {left right : Tree} {a b quotient rest : Int} : Means left a → Means right b →
      Floored a b quotient rest → Means (.binary .mod left right) rest
  | pow {left right : Tree} {a b : Int} : Means left a → Means right b → 0 ≤ b →
      Means (.binary .pow left right) (a ^ b.toNat)

/-- The tree is a quotient or a remainder by zero. -/
def DividesByZero (tree : Tree) : Prop :=
  ∃ op left right, tree = .binary op left right ∧ op ∈ [BinaryOp.floorDiv, BinaryOp.mod] ∧ Means right 0

/-- The tree is a power with a negative exponent. -/
def HasNegativeExponent (tree : Tree) : Prop :=
  ∃ left right b, tree = .binary .pow left right ∧ Means right b ∧ b < 0

/-- What is wrong with a sub-expression whose operands are right. -/
inductive Faults : Tree → Failure → Prop
  | divides {tree : Tree} : DividesByZero tree → Faults tree .divisionByZero
  | leaves {tree : Tree} {n : Int} : Means tree n → ¬ Number.inRange n → Faults tree .integerOverflow

/-- The sub-expression has a value within 128 bits. -/
def Fits (tree : Tree) : Prop := ¬ DividesByZero tree ∧ ∃ n, Means tree n ∧ Number.inRange n

/-- The failure is the one of the first sub-expression that goes wrong. -/
def FirstFault (tree : Tree) (failure : Failure) : Prop :=
  ∃ before part behind, tree.postorder = before ++ part :: behind ∧
    (∀ other ∈ before, ∀ fault, ¬ Faults other fault) ∧ Faults part failure

/-- The whole numbers in the tree have no more than 128 bits. -/
def LiteralsInRange (tree : Tree) : Prop :=
  ∀ n, .literal (.number (.integer n)) ∈ tree.postorder → Number.inRange n

/-! ### Sub-expressions -/

theorem mem_postorder_self (tree : Tree) : tree ∈ tree.postorder := by
  cases tree <;> simp [Tree.postorder]

theorem mem_postorder_unary {part operand : Tree} {op : UnaryOp} :
    part ∈ (Tree.unary op operand).postorder ↔ part ∈ operand.postorder ∨ part = .unary op operand := by
  simp [Tree.postorder]

theorem mem_postorder_binary {part left right : Tree} {op : BinaryOp} :
    part ∈ (Tree.binary op left right).postorder ↔
      part ∈ left.postorder ∨ part ∈ right.postorder ∨ part = .binary op left right := by
  simp [Tree.postorder]

@[simp] theorem not_dividesByZero_literal (value : Literal) : ¬ DividesByZero (.literal value) := by
  rintro ⟨_, _, _, same, _⟩
  cases same

@[simp] theorem not_dividesByZero_unary (op : UnaryOp) (operand : Tree) : ¬ DividesByZero (.unary op operand) := by
  rintro ⟨_, _, _, same, _⟩
  cases same

@[simp] theorem not_hasNegativeExponent_literal (value : Literal) : ¬ HasNegativeExponent (.literal value) := by
  rintro ⟨_, _, _, same, _⟩
  cases same

@[simp] theorem not_hasNegativeExponent_unary (op : UnaryOp) (operand : Tree) :
    ¬ HasNegativeExponent (.unary op operand) := by
  rintro ⟨_, _, _, same, _⟩
  cases same

theorem literalsInRange_unary {op : UnaryOp} {operand : Tree} :
    LiteralsInRange (.unary op operand) ↔ LiteralsInRange operand := by
  simp [LiteralsInRange, mem_postorder_unary]

theorem literalsInRange_binary {op : BinaryOp} {left right : Tree} :
    LiteralsInRange (.binary op left right) ↔ LiteralsInRange left ∧ LiteralsInRange right := by
  simp [LiteralsInRange, mem_postorder_binary, or_imp, forall_and]

/-! ### Division and powers -/

theorem floored_fdiv_fmod (a : Int) {b : Int} (nonzero : b ≠ 0) : Floored a b (a.fdiv b) (a.fmod b) := by
  refine ⟨(Int.mul_fdiv_add_fmod a b).symm, ?_⟩
  rcases lt_or_gt_of_ne nonzero with negative | positive
  · have positive : 0 < -b := by omega
    have least := Int.fmod_nonneg_of_pos (-a) positive
    have greatest := Int.fmod_lt_of_pos (-a) positive
    rw [Int.neg_fmod_neg] at least greatest
    omega
  · exact .inl ⟨Int.fmod_nonneg_of_pos a positive, Int.fmod_lt_of_pos a positive⟩

theorem Floored.unique {a b quotient rest quotient' rest' : Int} (first : Floored a b quotient rest)
    (second : Floored a b quotient' rest') : quotient = quotient' ∧ rest = rest' := by
  have sums : b * (quotient - quotient') = rest' - rest := by
    have := first.adds_up
    have := second.adds_up
    linarith [mul_sub b quotient quotient']
  have close : |rest' - rest| < |b| := by
    rcases first.follows with bounds | bounds <;> rcases second.follows with bounds' | bounds' <;>
      (rw [abs_lt]; rcases abs_cases b with sign | sign <;> omega)
  have same : quotient - quotient' = 0 := by
    by_contra different
    have : |b| ≤ |b * (quotient - quotient')| := by
      rw [abs_mul]
      exact le_mul_of_one_le_right (abs_nonneg b) (Int.one_le_abs different)
    rw [sums] at this
    omega
  rw [same, mul_zero] at sums
  omega

theorem Means.unique {tree : Tree} {a b : Int} (first : Means tree a) (second : Means tree b) : a = b := by
  induction first generalizing b with
  | literal => cases second; rfl
  | plus _ ih => cases second with | plus second => exact ih second
  | minus _ ih => cases second with | minus second => rw [ih second]
  | add _ _ ihLeft ihRight => cases second with | add left right => rw [ihLeft left, ihRight right]
  | sub _ _ ihLeft ihRight => cases second with | sub left right => rw [ihLeft left, ihRight right]
  | mul _ _ ihLeft ihRight => cases second with | mul left right => rw [ihLeft left, ihRight right]
  | floorDiv _ _ floored ihLeft ihRight =>
    cases second with
    | floorDiv left right floored' =>
      obtain rfl := ihLeft left
      obtain rfl := ihRight right
      exact (floored.unique floored').1
  | mod _ _ floored ihLeft ihRight =>
    cases second with
    | mod left right floored' =>
      obtain rfl := ihLeft left
      obtain rfl := ihRight right
      exact (floored.unique floored').2
  | pow _ _ _ ihLeft ihRight => cases second with | pow left right _ => rw [ihLeft left, ihRight right]

/-- A power of a number beyond one and minus one outgrows 128 bits at the exponent 128 at the latest. -/
theorem not_inRange_pow {base : Int} {exponent : Nat} (large : 1 < base.natAbs) (many : 128 ≤ exponent) :
    ¬ Number.inRange (base ^ exponent) := by
  have grows : 2 ^ 128 ≤ (base ^ exponent).natAbs := by
    rw [Int.natAbs_pow]
    calc 2 ^ 128 ≤ base.natAbs ^ 128 := Nat.pow_le_pow_left large 128
      _ ≤ base.natAbs ^ exponent := Nat.pow_le_pow_right (by omega) many
  rw [Number.inRange_iff]
  omega

/-- The short cut for powers loses nothing. -/
theorem integerPower_eq (base : Int) (exponent : Nat) : integerPower base exponent = exactly (base ^ exponent) := by
  unfold integerPower
  split
  · rfl
  next many =>
  split
  next small =>
    congr 1
    change base ^ (exponent % 2 + 2) = base ^ exponent
    have halves : exponent = 2 * (exponent / 2) + exponent % 2 := (Nat.div_add_mod exponent 2).symm
    obtain rfl | rfl | rfl : base = 0 ∨ base = 1 ∨ base = -1 := by omega
    · rw [zero_pow (by omega), zero_pow (by omega)]
    · rw [one_pow, one_pow]
    · rw [pow_add, neg_one_sq, mul_one]
      conv_rhs => rw [halves, pow_add, pow_mul, neg_one_sq, one_pow, one_mul]
  next large =>
    rw [exactly, if_neg (not_inRange_pow (by omega) (by omega))]

/-! ### One node -/

theorem exactly_of_inRange {n : Int} (fits : Number.inRange n) : exactly n = .ok (.integer n) := if_pos fits

theorem exactly_of_not_inRange {n : Int} (leaves : ¬ Number.inRange n) : exactly n = .error .integerOverflow :=
  if_neg leaves

theorem Fits.not_faults {tree : Tree} {failure : Failure} (fits : Fits tree) : ¬ Faults tree failure := by
  obtain ⟨divides, n, means, inRange⟩ := fits
  rintro (divides' | ⟨means', leaves⟩)
  · exact divides divides'
  · exact leaves (means.unique means' ▸ inRange)

/-- A node over operands that have a value is a division by zero, or its value is kept if it can be. -/
theorem value_binary_of_integers {op : BinaryOp} {left right : Tree} {a b : Int}
    (member : op ∈ integerOperators) (meansLeft : Means left a) (meansRight : Means right b)
    (valueLeft : left.value = .ok (.integer a)) (valueRight : right.value = .ok (.integer b))
    (natural : ¬ HasNegativeExponent (.binary op left right)) :
    (DividesByZero (.binary op left right) ∧ (Tree.binary op left right).value = .error .divisionByZero) ∨
      (¬ DividesByZero (.binary op left right) ∧
        ∃ n, Means (.binary op left right) n ∧ (Tree.binary op left right).value = exactly n) := by
  have divides_iff : DividesByZero (.binary op left right) ↔ op ∈ [BinaryOp.floorDiv, BinaryOp.mod] ∧ b = 0 := by
    constructor
    · rintro ⟨_, _, _, same, divides, zero⟩
      cases same
      exact ⟨divides, meansRight.unique zero⟩
    · rintro ⟨divides, rfl⟩
      exact ⟨_, _, _, rfl, divides, meansRight⟩
  have value_eq : ∀ arithmetic, op.arithmetic? = some arithmetic →
      (Tree.binary op left right).value = applyIntegers arithmetic a b := by
    intro arithmetic same
    simp only [Tree.value, same, valueLeft, valueRight]
    rfl
  rw [divides_iff]
  simp only [integerOperators, List.mem_cons, List.not_mem_nil, or_false] at member
  rcases member with rfl | rfl | rfl | rfl | rfl | rfl
  · exact .inr ⟨by simp, a + b, .add meansLeft meansRight, value_eq _ rfl⟩
  · exact .inr ⟨by simp, a - b, .sub meansLeft meansRight, value_eq _ rfl⟩
  · exact .inr ⟨by simp, a * b, .mul meansLeft meansRight, value_eq _ rfl⟩
  · rw [value_eq _ rfl, applyIntegers]
    by_cases zero : b = 0
    · exact .inl ⟨by simp [zero], if_pos zero⟩
    · refine .inr ⟨by simp [zero], a.fdiv b, ?_, if_neg zero⟩
      exact .floorDiv meansLeft meansRight (floored_fdiv_fmod a zero)
  · rw [value_eq _ rfl, applyIntegers]
    by_cases zero : b = 0
    · exact .inl ⟨by simp [zero], if_pos zero⟩
    · refine .inr ⟨by simp [zero], a.fmod b, ?_, if_neg zero⟩
      exact .mod meansLeft meansRight (floored_fdiv_fmod a zero)
  · have nonneg : 0 ≤ b := by
      by_contra negative
      exact natural ⟨left, right, b, rfl, meansRight, by omega⟩
    refine .inr ⟨by simp, a ^ b.toNat, .pow meansLeft meansRight nonneg, ?_⟩
    rw [value_eq _ rfl, applyIntegers, if_pos nonneg, integerPower_eq]

/-! ### Whole trees -/

/-- Either the tree has the value it means and every part of it fits, or it fails for the first fault. -/
def Settled (tree : Tree) : Prop :=
  (∃ n, Means tree n ∧ tree.value = .ok (.integer n) ∧ ∀ part ∈ tree.postorder, Fits part) ∨
    ∃ failure, FirstFault tree failure ∧ tree.value = .error failure

theorem Settled.means_of_value {tree : Tree} {n : Int} (settled : Settled tree)
    (value : tree.value = .ok (.integer n)) : Means tree n ∧ ∀ part ∈ tree.postorder, Fits part := by
  rcases settled with ⟨m, means, value', fits⟩ | ⟨failure, _, value'⟩
  · obtain rfl : m = n := by simpa [value] using value'.symm
    exact ⟨means, fits⟩
  · rw [value] at value'
    cases value'

/-- The first fault of a part is that of the whole if nothing before the part goes wrong. -/
theorem FirstFault.within {tree part : Tree} {failure : Failure} (before behind : List Tree)
    (order : tree.postorder = before ++ part.postorder ++ behind) (fits : ∀ other ∈ before, Fits other)
    (fault : FirstFault part failure) : FirstFault tree failure := by
  obtain ⟨before', first, behind', order', sound, faults⟩ := fault
  refine ⟨before ++ before', first, behind' ++ behind, by simp [order, order'], ?_, faults⟩
  intro other member
  rcases List.mem_append.mp member with member | member
  · exact fun _ => (fits other member).not_faults
  · exact sound other member

/-- A tree whose operands fit and whose own value is kept if it can be is settled. -/
theorem settled_of_exactly {tree : Tree} {n : Int} (before : List Tree)
    (order : tree.postorder = before ++ [tree]) (fits : ∀ other ∈ before, Fits other)
    (divides : ¬ DividesByZero tree) (means : Means tree n) (value : tree.value = exactly n) : Settled tree := by
  by_cases inRange : Number.inRange n
  · refine .inl ⟨n, means, by rw [value, exactly_of_inRange inRange], ?_⟩
    intro part member
    rw [order, List.mem_append, List.mem_singleton] at member
    rcases member with member | rfl
    · exact fits part member
    · exact ⟨divides, n, means, inRange⟩
  · refine .inr ⟨.integerOverflow, ?_, by rw [value, exactly_of_not_inRange inRange]⟩
    exact ⟨before, tree, [], order, fun other member _ => (fits other member).not_faults, .leaves means inRange⟩

/-- Without negative exponents, every tree of whole numbers is settled. -/
theorem IntegerTree.settled {tree : Tree} (shape : IntegerTree tree)
    (natural : ∀ part ∈ tree.postorder, ¬ HasNegativeExponent part) : Settled tree := by
  induction shape with
  | @literal n inRange =>
    exact settled_of_exactly [] rfl (by simp) (by simp) .literal (exactly_of_inRange inRange).symm
  | @sign op operand member _ ih =>
    have order : (Tree.unary op operand).postorder = operand.postorder ++ [.unary op operand] := rfl
    have undivided := not_dividesByZero_unary op operand
    rcases ih fun part inside => natural part (mem_postorder_unary.mpr (.inl inside)) with
      ⟨a, means, value, fits⟩ | ⟨failure, fault, value⟩
    · simp only [List.mem_cons, List.not_mem_nil, or_false] at member
      rcases member with rfl | rfl
      · obtain ⟨_, a', means', inRange⟩ := fits operand (mem_postorder_self operand)
        obtain rfl := means.unique means'
        refine settled_of_exactly _ order fits undivided (.plus means) ?_
        rw [exactly_of_inRange inRange, Tree.value, value]
      · refine settled_of_exactly _ order fits undivided (.minus means) ?_
        simp only [Tree.value, value]
        rfl
    · refine .inr ⟨failure, fault.within [] [.unary op operand] order (by simp), ?_⟩
      simp only [List.mem_cons, List.not_mem_nil, or_false] at member
      rcases member with rfl | rfl <;> simp [Tree.value, value, bind, Except.bind]
  | @binary op left right member _ _ ihLeft ihRight =>
    have order : (Tree.binary op left right).postorder =
      left.postorder ++ right.postorder ++ [.binary op left right] := rfl
    obtain ⟨arithmetic, known⟩ : ∃ arithmetic, op.arithmetic? = some arithmetic := by
      simp only [integerOperators, List.mem_cons, List.not_mem_nil, or_false] at member
      rcases member with rfl | rfl | rfl | rfl | rfl | rfl <;> exact ⟨_, rfl⟩
    -- A fault on the left comes before all parts on the right, so the left operand is settled first.
    rcases ihLeft fun part inside => natural part (mem_postorder_binary.mpr (.inl inside)) with
      ⟨a, meansLeft, valueLeft, fitsLeft⟩ | ⟨failure, fault, valueLeft⟩
    · rcases ihRight fun part inside => natural part (mem_postorder_binary.mpr (.inr (.inl inside))) with
        ⟨b, meansRight, valueRight, fitsRight⟩ | ⟨failure, fault, valueRight⟩
      · have fits : ∀ other ∈ left.postorder ++ right.postorder, Fits other := by
          intro other inside
          exact (List.mem_append.mp inside).elim (fitsLeft other) (fitsRight other)
        rcases value_binary_of_integers member meansLeft meansRight valueLeft valueRight
          (natural _ (mem_postorder_self _)) with ⟨divides, value⟩ | ⟨undivided, n, means, value⟩
        · refine .inr ⟨.divisionByZero, ?_, value⟩
          refine ⟨_, _, [], order, ?_, .divides divides⟩
          exact fun other inside _ => (fits other inside).not_faults
        · exact settled_of_exactly _ order fits undivided means value
      · refine .inr ⟨failure, fault.within _ _ order fitsLeft, ?_⟩
        simp [Tree.value, known, valueLeft, valueRight, bind, Except.bind]
    · refine .inr ⟨failure, fault.within [] _ (order.trans (List.append_assoc ..)) (by simp), ?_⟩
      simp [Tree.value, known, valueLeft, bind, Except.bind]

/-! ### Which trees have a whole value -/

theorem applyFloats_ne_integer {op : ArithmeticOp} {x y : Float} {n : Int} :
    applyFloats op x y ≠ .ok (.integer n) := by
  have finite_ne : ∀ z, finite z ≠ .ok (.integer n) := by
    intro z
    rw [finite]
    split <;> simp
  cases op <;> simp only [applyFloats] <;> (try split) <;> first | exact finite_ne _ | simp

/-- Whole numbers come from whole numbers only, and never from a quotient or a negative exponent. -/
theorem apply_eq_integer {op : ArithmeticOp} {x y : Number} {n : Int} (value : apply op x y = .ok (.integer n)) :
    ∃ a b, x = .integer a ∧ y = .integer b ∧ op ≠ .div ∧ (op = .pow → 0 ≤ b) := by
  unfold apply at value
  split at value
  · refine ⟨_, _, rfl, rfl, ?_, ?_⟩
    · rintro rfl
      rw [applyIntegers] at value
      split at value
      · cases value
      · exact applyFloats_ne_integer value
    · rintro rfl
      by_contra negative
      rw [applyIntegers, if_neg negative] at value
      split at value
      · cases value
      · exact applyFloats_ne_integer value
  · exact absurd value applyFloats_ne_integer

/-- A tree with a whole value is made of whole numbers, and no exponent in it is negative. -/
theorem integerTree_of_value {tree : Tree} {n : Int} (inRange : LiteralsInRange tree)
    (value : tree.value = .ok (.integer n)) :
    IntegerTree tree ∧ ∀ part ∈ tree.postorder, ¬ HasNegativeExponent part := by
  fun_induction Tree.value tree generalizing n with
  | case1 constant =>
    have shape : IntegerTree (.literal constant) := by
      unfold Literal.value at value
      split at value
      · cases value
        exact .literal (inRange _ (mem_postorder_self _))
      · rw [finite] at value
        split at value <;> cases value
      · cases value
    refine ⟨shape, ?_⟩
    intro part inside
    obtain rfl := List.mem_singleton.mp inside
    exact not_hasNegativeExponent_literal constant
  | case2 operand ih =>
    obtain ⟨shape, natural⟩ := ih (literalsInRange_unary.mp inRange) value
    refine ⟨.sign (by simp) shape, ?_⟩
    intro part inside
    rcases mem_postorder_unary.mp inside with inside | rfl
    · exact natural part inside
    · exact not_hasNegativeExponent_unary _ _
  | case3 operand ih =>
    obtain ⟨x, valueOperand, opposed⟩ := bind_ok_iff.mp value
    obtain ⟨a, rfl⟩ : ∃ a, x = .integer a := by
      cases x with
      | integer a => exact ⟨a, rfl⟩
      | decimal x => cases opposed
    obtain ⟨shape, natural⟩ := ih (literalsInRange_unary.mp inRange) valueOperand
    refine ⟨.sign (by simp) shape, ?_⟩
    intro part inside
    rcases mem_postorder_unary.mp inside with inside | rfl
    · exact natural part inside
    · exact not_hasNegativeExponent_unary _ _
  | case4 op left right unknown => cases value
  | case5 op left right arithmetic known ihLeft ihRight =>
    obtain ⟨x, valueLeft, rest⟩ := bind_ok_iff.mp value
    obtain ⟨y, valueRight, applied⟩ := bind_ok_iff.mp rest
    obtain ⟨a, b, rfl, rfl, notDiv, nonneg⟩ := apply_eq_integer applied
    obtain ⟨inRangeLeft, inRangeRight⟩ := literalsInRange_binary.mp inRange
    obtain ⟨shapeLeft, naturalLeft⟩ := ihLeft inRangeLeft valueLeft
    obtain ⟨shapeRight, naturalRight⟩ := ihRight inRangeRight valueRight
    have member : op ∈ integerOperators := by
      cases op <;> simp_all [BinaryOp.arithmetic?, integerOperators]
    refine ⟨.binary member shapeLeft shapeRight, ?_⟩
    intro part inside
    rcases mem_postorder_binary.mp inside with inside | inside | rfl
    · exact naturalLeft part inside
    · exact naturalRight part inside
    · rintro ⟨_, _, c, same, means, negative⟩
      cases same
      obtain rfl : arithmetic = .pow := (Option.some.inj known).symm
      have meansRight := ((shapeRight.settled naturalRight).means_of_value valueRight).1
      obtain rfl := means.unique meansRight
      exact absurd (nonneg rfl) (by omega)
  | case6 tree _ _ _ => cases value

/-- The whole numbers of a phrase are those of its literals, which have no more than 128 bits. -/
theorem Derives.literalsInRange {depth : Nat} {phrase : Phrase} {words : List Lexeme} {tree : Tree}
    (derives : Derives depth phrase words tree) : LiteralsInRange tree := by
  induction derives with
  | alone _ _ ih => exact ih
  | binary _ _ _ ihLeft ihRight => exact literalsInRange_binary.mpr ⟨ihLeft, ihRight⟩
  | power _ _ ihBase ihExponent => exact literalsInRange_binary.mpr ⟨ihBase, ihExponent⟩
  | sign _ _ ih => exact literalsInRange_unary.mpr ih
  | negation _ ih => exact literalsInRange_unary.mpr ih
  | number literal =>
    intro n inside
    cases literal with
    | whole _ _ fits =>
      simp only [Tree.postorder, List.mem_singleton, Tree.literal.injEq, Literal.number.injEq,
        Number.integer.injEq] at inside
      exact inside ▸ fits
    | fraction => simp [Tree.postorder] at inside
  | constant member =>
    simp only [constants, List.mem_cons, Prod.mk.injEq, List.not_mem_nil, or_false] at member
    rcases member with ⟨_, rfl⟩ | ⟨_, rfl⟩ | ⟨_, rfl⟩ <;> simp [LiteralsInRange, Tree.postorder]
  | group _ ih => exact ih
  | _ => simp [LiteralsInRange, Tree.postorder]

/-- Every text has the whole value that it means if all of its parts fit, and has no other. A tree of whole
    numbers that goes wrong somewhere fails for the first place where it does. -/
theorem integer_value_iff :
    (∀ text n, evaluate text = .ok (.integer n) ↔
      ∃ tree, parse text = .ok tree ∧ IntegerTree tree ∧
        (∀ part ∈ tree.postorder, ¬ DividesByZero part ∧ ¬ HasNegativeExponent part) ∧ Means tree n ∧
        ∀ part ∈ tree.postorder, ∃ m, Means part m ∧ Number.inRange m) ∧
    ∀ tree, IntegerTree tree → (∀ part ∈ tree.postorder, ¬ HasNegativeExponent part) →
      (∃ part ∈ tree.postorder, ∃ failure, Faults part failure) →
      ∃ failure, FirstFault tree failure ∧ tree.value = .error failure := by
  constructor
  · intro text n
    rw [evaluate, bind_ok_iff]
    constructor
    · rintro ⟨tree, parsed, value⟩
      obtain ⟨tokens, _, derives⟩ := parse_ok_iff.mp parsed
      obtain ⟨shape, natural⟩ := integerTree_of_value derives.literalsInRange value
      obtain ⟨means, fits⟩ := (shape.settled natural).means_of_value value
      exact ⟨tree, parsed, shape, fun part inside => ⟨(fits part inside).1, natural part inside⟩, means,
        fun part inside => (fits part inside).2⟩
    · rintro ⟨tree, parsed, shape, sound, means, fits⟩
      refine ⟨tree, parsed, ?_⟩
      rcases shape.settled fun part inside => (sound part inside).2 with
        ⟨m, means', value, _⟩ | ⟨failure, ⟨before, part, behind, order, _, faults⟩, _⟩
      · rw [value, means.unique means']
      · have inside : part ∈ tree.postorder := by simp [order]
        exact absurd faults (Fits.not_faults ⟨(sound part inside).1, fits part inside⟩)
  · rintro tree shape natural ⟨part, inside, failure, faults⟩
    rcases shape.settled natural with ⟨_, _, _, fits⟩ | failed
    · exact absurd faults (fits part inside).not_faults
    · exact failed

/-- A power that leaves 128 bits goes wrong before the division by zero it stands in. -/
theorem integer_value_power_before_division :
    let tree := Tree.binary .floorDiv
      (.binary .pow (.literal (.number (.integer 2))) (.literal (.number (.integer 127))))
      (.literal (.number (.integer 0)))
    IntegerTree tree ∧ (∀ part ∈ tree.postorder, ¬ HasNegativeExponent part) ∧
      ∃ failure, FirstFault tree failure ∧ tree.value = .error failure := by
  intro tree
  have shape : IntegerTree tree :=
    .binary (by decide) (.binary (by decide) (.literal (by decide)) (.literal (by decide))) (.literal (by decide))
  have natural : ∀ part ∈ tree.postorder, ¬ HasNegativeExponent part := by
    rintro part inside ⟨left, right, b, rfl, means, negative⟩
    simp only [tree, Tree.postorder, List.mem_append, List.mem_singleton, Tree.binary.injEq, reduceCtorEq,
      false_and, or_false, false_or, true_and] at inside
    obtain ⟨rfl, rfl⟩ := inside
    cases means
    omega
  refine ⟨shape, natural, integer_value_iff.2 tree shape natural ⟨tree, mem_postorder_self tree, .divisionByZero, ?_⟩⟩
  exact .divides ⟨_, _, _, rfl, by decide, .literal⟩

end GestureCalculator.Expression
