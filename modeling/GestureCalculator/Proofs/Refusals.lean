import GestureCalculator.Proofs.ShownResults

/-!
What can be evaluated and what is refused. A value comes from numbers, signs and arithmetic alone, and every part
of its tree has a value within bounds. A tree with anything else in it has no value: it is refused for the first
such node, unless an operand that is evaluated before this node fails in its arithmetic.
-/
namespace GestureCalculator.Expression

/-- The operands of a node, of whatever kind it is. -/
def Tree.operands : Tree → List Tree
  | .literal _ => []
  | .name _ => []
  | .unary _ operand => [operand]
  | .binary _ left right => [left, right]
  | .boolean _ operands => operands
  | .comparison first rest => first :: rest.map Prod.snd
  | .call callee arguments => callee :: arguments
  | .attribute owner _ => [owner]
  | .subscript owner index => [owner, index]
  | .tuple items => items
  | .list items => items

/-- The first tree is a node of the second, at any depth. -/
inductive Part : Tree → Tree → Prop
  | whole {tree : Tree} : Part tree tree
  | inside {part operand tree : Tree} : operand ∈ tree.operands → Part part operand → Part part tree

/-- The operators of arithmetic that can be written. -/
def arithmeticOperators : List BinaryOp := [.add, .sub, .mul, .div, .floorDiv, .mod, .pow]

/-- Nodes of the kinds that have values: numbers, signs and arithmetic. -/
inductive Allowed : Tree → Prop
  | number (value : Number) : Allowed (.literal (.number value))
  | sign {op : UnaryOp} (operand : Tree) : op ∈ [UnaryOp.plus, UnaryOp.minus] → Allowed (.unary op operand)
  | arithmetic {op : BinaryOp} (left right : Tree) : op ∈ arithmeticOperators → Allowed (.binary op left right)

/-- Nodes of all other kinds, and the failures that they are. -/
inductive Refused : Tree → Failure → Prop
  | text (content : String) : Refused (.literal (.text content)) (.invalidLiteral (.text content))
  | truth (value : Bool) : Refused (.literal (.truth value)) (.invalidLiteral (.truth value))
  | nothing : Refused (.literal .nothing) (.invalidLiteral .nothing)
  | name (name : String) : Refused (.name name) (.disallowed .name)
  | unary {op : UnaryOp} (operand : Tree) : op ∈ [UnaryOp.invert, UnaryOp.not] →
      Refused (.unary op operand) (.disallowed .unaryOperator)
  | binary {op : BinaryOp} (left right : Tree) :
      op ∈ [BinaryOp.matMul, .bitAnd, .bitOr, .bitXor, .shiftLeft, .shiftRight] →
      Refused (.binary op left right) (.disallowed .binaryOperator)
  | boolean (op : BoolOp) (operands : List Tree) : Refused (.boolean op operands) (.disallowed .booleanOperator)
  | comparison (first : Tree) (rest : List (CompareOp × Tree)) :
      Refused (.comparison first rest) (.disallowed .comparison)
  | call (callee : Tree) (arguments : List Tree) : Refused (.call callee arguments) (.disallowed .call)
  | attribute (owner : Tree) (name : String) : Refused (.attribute owner name) (.disallowed .attributeAccess)
  | subscript (owner index : Tree) : Refused (.subscript owner index) (.disallowed .subscript)
  | tuple (items : List Tree) : Refused (.tuple items) (.disallowed .tuple)
  | list (items : List Tree) : Refused (.list items) (.disallowed .list)

def arithmeticFailures : List Failure := [.divisionByZero, .integerOverflow, .nonFinite]

/-- The evaluation of a tree comes to its first refused node, past these operands. An operator is looked at before
    its operands, and the right operand only after all of the left one. -/
inductive ComesTo (node : Tree) : Tree → List Tree → Prop
  | here {refusal : Failure} : Refused node refusal → ComesTo node node []
  | sign {op : UnaryOp} {operand : Tree} {passed : List Tree} : op ∈ [UnaryOp.plus, UnaryOp.minus] →
      ComesTo node operand passed → ComesTo node (.unary op operand) passed
  | left {op : BinaryOp} {left : Tree} {passed : List Tree} (right : Tree) : op ∈ arithmeticOperators →
      ComesTo node left passed → ComesTo node (.binary op left right) passed
  | right {op : BinaryOp} {left right : Tree} {passed : List Tree} : op ∈ arithmeticOperators →
      (∀ part, Part part left → Allowed part) → ComesTo node right passed →
      ComesTo node (.binary op left right) (left :: passed)

/-- What becomes of a refusal past these operands: it is the failure if all of them have values, and otherwise the
    first of them that has none fails in its arithmetic. -/
inductive EndsIn (refusal : Failure) : List Tree → Failure → Prop
  | refusal {passed : List Tree} : (∀ operand ∈ passed, ∃ x, operand.value = .ok x) → EndsIn refusal passed refusal
  | arithmetic {before : List Tree} {operand : Tree} {failure : Failure} (behind : List Tree) :
      (∀ other ∈ before, ∃ x, other.value = .ok x) → operand.value = .error failure → failure ∈ arithmeticFailures →
      EndsIn refusal (before ++ operand :: behind) failure

/-! ### Nodes -/

theorem mem_operands_unary {op : UnaryOp} {operand other : Tree} :
    other ∈ (Tree.unary op operand).operands ↔ other = operand := List.mem_singleton

theorem mem_operands_binary {op : BinaryOp} {left right other : Tree} :
    other ∈ (Tree.binary op left right).operands ↔ other = left ∨ other = right := by
  simp [Tree.operands]

theorem Part.of_sign {part operand : Tree} {op : UnaryOp} (below : Part part operand) : Part part (.unary op operand) :=
  .inside (mem_operands_unary.mpr rfl) below

theorem Part.of_left {part left right : Tree} {op : BinaryOp} (below : Part part left) :
    Part part (.binary op left right) :=
  .inside (mem_operands_binary.mpr (.inl rfl)) below

theorem Part.of_right {part left right : Tree} {op : BinaryOp} (below : Part part right) :
    Part part (.binary op left right) :=
  .inside (mem_operands_binary.mpr (.inr rfl)) below

theorem allowed_or_refused : ∀ tree, Allowed tree ∨ ∃ refusal, Refused tree refusal
  | .literal (.number value) => .inl (.number value)
  | .literal (.text content) => .inr ⟨_, .text content⟩
  | .literal (.truth value) => .inr ⟨_, .truth value⟩
  | .literal .nothing => .inr ⟨_, .nothing⟩
  | .name name => .inr ⟨_, .name name⟩
  | .unary .plus operand => .inl (.sign operand (by decide))
  | .unary .minus operand => .inl (.sign operand (by decide))
  | .unary .invert operand => .inr ⟨_, .unary operand (by decide)⟩
  | .unary .not operand => .inr ⟨_, .unary operand (by decide)⟩
  | .binary op left right => by
    by_cases arithmetic : op ∈ arithmeticOperators
    · exact .inl (.arithmetic left right arithmetic)
    · refine .inr ⟨_, .binary left right ?_⟩
      revert arithmetic
      cases op <;> decide
  | .boolean op operands => .inr ⟨_, .boolean op operands⟩
  | .comparison first rest => .inr ⟨_, .comparison first rest⟩
  | .call callee arguments => .inr ⟨_, .call callee arguments⟩
  | .attribute owner name => .inr ⟨_, .attribute owner name⟩
  | .subscript owner index => .inr ⟨_, .subscript owner index⟩
  | .tuple items => .inr ⟨_, .tuple items⟩
  | .list items => .inr ⟨_, .list items⟩

/-- A refused node is refused without a look at its operands. -/
theorem Refused.value {tree : Tree} {refusal : Failure} (refused : Refused tree refusal) :
    tree.value = .error refusal := by
  cases refused with
  | unary operand member =>
    simp only [List.mem_cons, List.not_mem_nil, or_false] at member
    rcases member with rfl | rfl <;> rfl
  | binary left right member =>
    simp only [List.mem_cons, List.not_mem_nil, or_false] at member
    rcases member with rfl | rfl | rfl | rfl | rfl | rfl <;> rfl
  | _ => rfl

theorem mem_arithmeticOperators_iff {op : BinaryOp} :
    op ∈ arithmeticOperators ↔ ∃ arithmetic, op.arithmetic? = some arithmetic := by
  cases op <;> simp [arithmeticOperators, BinaryOp.arithmetic?]

/-- The value of arithmetic comes from the values of its operands, the left one first. -/
theorem value_arithmetic {op : BinaryOp} (left right : Tree) (member : op ∈ arithmeticOperators) :
    ∃ arithmetic, (Tree.binary op left right).value =
      left.value >>= fun x => right.value >>= fun y => apply arithmetic x y := by
  obtain ⟨arithmetic, known⟩ := mem_arithmeticOperators_iff.mp member
  exact ⟨arithmetic, by simp only [Tree.value, known]⟩

/-- A sign gives its operand's failure, or what it makes of the operand's value. -/
theorem value_sign {op : UnaryOp} (operand : Tree) (member : op ∈ [UnaryOp.plus, UnaryOp.minus]) :
    (Tree.unary op operand).value = operand.value ∨ (Tree.unary op operand).value = operand.value >>= opposite := by
  simp only [List.mem_cons, List.not_mem_nil, or_false] at member
  rcases member with rfl | rfl
  · exact .inl rfl
  · exact .inr rfl

/-! ### Parts of a tree with a value -/

/-- A node with a value is of an allowed kind, and all of its operands have values. -/
theorem operands_of_value {tree : Tree} {v : Number} (value : tree.value = .ok v) :
    Allowed tree ∧ ∀ operand ∈ tree.operands, ∃ x, operand.value = .ok x := by
  rcases allowed_or_refused tree with allowed | ⟨refusal, refused⟩
  · refine ⟨allowed, ?_⟩
    cases allowed with
    | number value => simp [Tree.operands]
    | sign operand member =>
      intro other inside
      obtain rfl := mem_operands_unary.mp inside
      rcases value_sign other member with same | opposed
      · exact ⟨v, same ▸ value⟩
      · obtain ⟨x, valueOperand, _⟩ := bind_ok_iff.mp (opposed ▸ value)
        exact ⟨x, valueOperand⟩
    | arithmetic left right member =>
      obtain ⟨arithmetic, both⟩ := value_arithmetic left right member
      obtain ⟨x, valueLeft, rest⟩ := bind_ok_iff.mp (both ▸ value)
      obtain ⟨y, valueRight, _⟩ := bind_ok_iff.mp rest
      intro other inside
      rcases mem_operands_binary.mp inside with rfl | rfl
      · exact ⟨x, valueLeft⟩
      · exact ⟨y, valueRight⟩
  · rw [refused.value] at value
    cases value

theorem LiteralsInRange.of_operand {tree operand : Tree} (inRange : LiteralsInRange tree) (allowed : Allowed tree)
    (inside : operand ∈ tree.operands) : LiteralsInRange operand := by
  cases allowed with
  | number value => cases inside
  | sign other member =>
    obtain rfl := mem_operands_unary.mp inside
    exact literalsInRange_unary.mp inRange
  | arithmetic left right member =>
    obtain ⟨inRangeLeft, inRangeRight⟩ := literalsInRange_binary.mp inRange
    rcases mem_operands_binary.mp inside with rfl | rfl
    · exact inRangeLeft
    · exact inRangeRight

/-- If a tree has a value, then every part of it is of an allowed kind and has a value within bounds. -/
theorem parts_of_value {part tree : Tree} (inside : Part part tree) (inRange : LiteralsInRange tree) {v : Number}
    (value : tree.value = .ok v) : Allowed part ∧ ∃ x, part.value = .ok x ∧ Valid x := by
  induction inside generalizing v with
  | whole => exact ⟨(operands_of_value value).1, v, value, valid_of_value inRange value⟩
  | inside member _ ih =>
    obtain ⟨allowed, values⟩ := operands_of_value value
    obtain ⟨x, valueOperand⟩ := values _ member
    exact ih (inRange.of_operand allowed member) valueOperand

/-- A text has a value only if its tree is made of numbers, signs and arithmetic, at any depth, and the values of
    all parts of the tree are whole numbers of 128 bits or finite numbers. -/
theorem value_of_arithmetic_within_bounds {text : String} {v : Number} (value : evaluate text = .ok v) :
    ∃ tree, parse text = .ok tree ∧ tree.value = .ok v ∧ Valid v ∧
      ∀ part, Part part tree → Allowed part ∧ ∃ x, part.value = .ok x ∧ Valid x := by
  obtain ⟨tree, parsed, valueTree⟩ := bind_ok_iff.mp value
  obtain ⟨tokens, _, derives⟩ := parse_ok_iff.mp parsed
  have inRange := derives.literalsInRange
  exact ⟨tree, parsed, valueTree, valid_of_value inRange valueTree,
    fun part inside => parts_of_value inside inRange valueTree⟩

/-- Quotients within a difference: whole ones are whole numbers, and the others are decimals. -/
theorem value_of_quotients_within_bounds :
    evaluate "-7//2-1/4" = .ok (.decimal (-4.25)) ∧
      ∃ tree, parse "-7//2-1/4" = .ok tree ∧ tree.value = .ok (.decimal (-4.25)) ∧ Valid (.decimal (-4.25)) ∧
        ∀ part, Part part tree → Allowed part ∧ ∃ x, part.value = .ok x ∧ Valid x := by
  have value : evaluate "-7//2-1/4" = .ok (.decimal (-4.25)) := toOption_eq_some_iff.mp (by decide +kernel)
  exact ⟨value, value_of_arithmetic_within_bounds value⟩

/-! ### Failures of arithmetic -/

theorem failure_of_finite {x : Float} {failure : Failure} (fails : finite x = .error failure) :
    failure ∈ arithmeticFailures := by
  rw [finite] at fails
  split at fails <;> cases fails
  decide

theorem failure_of_exactly {n : Int} {failure : Failure} (fails : exactly n = .error failure) :
    failure ∈ arithmeticFailures := by
  rw [exactly] at fails
  split at fails <;> cases fails
  decide

theorem failure_of_applyFloats {op : ArithmeticOp} {x y : Float} {failure : Failure}
    (fails : applyFloats op x y = .error failure) : failure ∈ arithmeticFailures := by
  cases op <;> simp only [applyFloats] at fails
  case add | sub | mul => exact failure_of_finite fails
  all_goals
    split at fails
    · cases fails
      decide
    · exact failure_of_finite fails

theorem failure_of_applyIntegers {op : ArithmeticOp} {m n : Int} {failure : Failure}
    (fails : applyIntegers op m n = .error failure) : failure ∈ arithmeticFailures := by
  cases op <;> simp only [applyIntegers, integerPower_eq] at fails
  case add | sub | mul => exact failure_of_exactly fails
  case div =>
    split at fails
    · cases fails
      decide
    · exact failure_of_applyFloats fails
  case floorDiv | mod =>
    split at fails
    · cases fails
      decide
    · exact failure_of_exactly fails
  case pow =>
    split at fails
    · exact failure_of_exactly fails
    split at fails
    · cases fails
      decide
    · exact failure_of_applyFloats fails

/-- A tree that is made of numbers, signs and arithmetic fails in its arithmetic or not at all. -/
theorem failure_of_allowed {tree : Tree} (allowed : ∀ part, Part part tree → Allowed part) {failure : Failure}
    (fails : tree.value = .error failure) : failure ∈ arithmeticFailures := by
  cases allowed tree .whole with
  | number value =>
    cases value with
    | integer n => cases fails
    | decimal x => exact failure_of_finite fails
  | sign operand member =>
    have below : ∀ part, Part part operand → Allowed part := fun part inside => allowed part inside.of_sign
    rcases value_sign operand member with same | opposed
    · exact failure_of_allowed below (same ▸ fails)
    · rcases bind_error_iff.mp (opposed ▸ fails) with fails | ⟨x, _, fails⟩
      · exact failure_of_allowed below fails
      · cases x with
        | integer n => exact failure_of_exactly fails
        | decimal x => cases fails
  | arithmetic left right member =>
    obtain ⟨arithmetic, both⟩ := value_arithmetic left right member
    rcases bind_error_iff.mp (both ▸ fails) with fails | ⟨x, _, fails⟩
    · exact failure_of_allowed (fun part inside => allowed part inside.of_left) fails
    · rcases bind_error_iff.mp fails with fails | ⟨y, _, fails⟩
      · exact failure_of_allowed (fun part inside => allowed part inside.of_right) fails
      · rw [apply.eq_def] at fails
        split at fails
        · exact failure_of_applyIntegers fails
        · exact failure_of_applyFloats fails
termination_by tree

/-! ### The first refused node -/

theorem Refused.not_allowed {tree : Tree} {refusal : Failure} (refused : Refused tree refusal) : ¬ Allowed tree := by
  have signs : ∀ op ∈ [UnaryOp.invert, .not], op ∉ [UnaryOp.plus, .minus] := by decide
  have operators : ∀ op ∈ [BinaryOp.matMul, .bitAnd, .bitOr, .bitXor, .shiftLeft, .shiftRight],
      op ∉ arithmeticOperators := by decide
  intro allowed
  cases allowed with
  | number value => cases refused
  | sign operand member =>
    cases refused with
    | unary _ other => exact signs _ other member
  | arithmetic left right member =>
    cases refused with
    | binary _ _ other => exact operators _ other member

/-- If the operands of a node are made of numbers, signs and arithmetic, so is the node if it is allowed itself. -/
theorem allowed_parts {tree : Tree} (allowed : Allowed tree)
    (below : ∀ operand ∈ tree.operands, ∀ part, Part part operand → Allowed part) :
    ∀ part, Part part tree → Allowed part := by
  intro part inside
  cases inside with
  | whole => exact allowed
  | inside member inside => exact below _ member part inside

/-- Where not all nodes are allowed, there is a first one that is refused. -/
theorem allowed_or_comesTo (tree : Tree) :
    (∀ part, Part part tree → Allowed part) ∨ ∃ node passed, ComesTo node tree passed := by
  rcases allowed_or_refused tree with allowed | ⟨refusal, refused⟩
  · have parts := allowed_parts allowed
    cases allowed with
    | number value => exact .inl (parts (by simp [Tree.operands]))
    | sign operand member =>
      rcases allowed_or_comesTo operand with all | ⟨node, passed, comes⟩
      · exact .inl (parts (by simpa [Tree.operands] using all))
      · exact .inr ⟨node, passed, .sign member comes⟩
    | arithmetic left right member =>
      rcases allowed_or_comesTo left with allLeft | ⟨node, passed, comes⟩
      · rcases allowed_or_comesTo right with allRight | ⟨node, passed, comes⟩
        · exact .inl (parts (by simpa [Tree.operands] using ⟨allLeft, allRight⟩))
        · exact .inr ⟨node, left :: passed, .right member allLeft comes⟩
      · exact .inr ⟨node, passed, .left right member comes⟩
  · exact .inr ⟨tree, [], .here refused⟩
termination_by tree

theorem ComesTo.refused {node tree : Tree} {passed : List Tree} (comes : ComesTo node tree passed) :
    ∃ refusal, Refused node refusal := by
  induction comes with
  | here refused => exact ⟨_, refused⟩
  | sign _ _ ih => exact ih
  | left _ _ _ ih => exact ih
  | right _ _ _ ih => exact ih

theorem value_sign_of_error {op : UnaryOp} {operand : Tree} {failure : Failure}
    (member : op ∈ [UnaryOp.plus, UnaryOp.minus]) (fails : operand.value = .error failure) :
    (Tree.unary op operand).value = .error failure := by
  rcases value_sign operand member with same | opposed
  · rw [same, fails]
  · rw [opposed, fails]
    rfl

theorem value_left_of_error {op : BinaryOp} {left : Tree} (right : Tree) {failure : Failure}
    (member : op ∈ arithmeticOperators) (fails : left.value = .error failure) :
    (Tree.binary op left right).value = .error failure := by
  obtain ⟨arithmetic, both⟩ := value_arithmetic left right member
  rw [both, fails]
  rfl

theorem value_right_of_error {op : BinaryOp} {left right : Tree} {x : Number} {failure : Failure}
    (member : op ∈ arithmeticOperators) (value : left.value = .ok x) (fails : right.value = .error failure) :
    (Tree.binary op left right).value = .error failure := by
  obtain ⟨arithmetic, both⟩ := value_arithmetic left right member
  rw [both, value, fails]
  rfl

theorem EndsIn.past {refusal failure : Failure} {operand : Tree} {passed : List Tree}
    (ends : EndsIn refusal passed failure) (value : ∃ x, operand.value = .ok x) :
    EndsIn refusal (operand :: passed) failure := by
  cases ends with
  | refusal values => exact .refusal (List.forall_mem_cons.mpr ⟨value, values⟩)
  | arithmetic behind values fails cause =>
    exact .arithmetic behind (List.forall_mem_cons.mpr ⟨value, values⟩) fails cause

/-- A tree with a refused node fails: for the first such node, or for an operand that is passed before it. -/
theorem ComesTo.value {node tree : Tree} {passed : List Tree} {refusal : Failure}
    (comes : ComesTo node tree passed) (refused : Refused node refusal) :
    ∃ failure, tree.value = .error failure ∧ EndsIn refusal passed failure := by
  induction comes with
  | here _ => exact ⟨refusal, refused.value, .refusal (by simp)⟩
  | sign member _ ih =>
    obtain ⟨failure, value, ends⟩ := ih
    exact ⟨failure, value_sign_of_error member value, ends⟩
  | left right member _ ih =>
    obtain ⟨failure, value, ends⟩ := ih
    exact ⟨failure, value_left_of_error right member value, ends⟩
  | @right op left right passed member allowed _ ih =>
    cases valueLeft : left.value with
    | error failure =>
      -- The right operand is not looked at, and neither is what would be refused in it.
      have cause : failure ∈ arithmeticFailures := failure_of_allowed allowed valueLeft
      exact ⟨failure, value_left_of_error right member valueLeft,
        .arithmetic passed (List.forall_mem_nil _) valueLeft cause⟩
    | ok x =>
      obtain ⟨failure, value, ends⟩ := ih
      exact ⟨failure, value_right_of_error member valueLeft value, ends.past ⟨x, valueLeft⟩⟩

/-- A text whose tree has a refused node anywhere fails. The failure is the refusal of the first such node, unless
    an operand that is evaluated before that node has no value, which then is for its arithmetic. -/
theorem refused_unless_passed_operand_fails {text : String} {tree part : Tree} {refusal : Failure}
    (parsed : parse text = .ok tree) (inside : Part part tree) (refused : Refused part refusal) :
    ∃ node passed first failure, ComesTo node tree passed ∧ Refused node first ∧ EndsIn first passed failure ∧
      evaluate text = .error failure := by
  have value : evaluate text = tree.value := by
    rw [evaluate, parsed]
    rfl
  rcases allowed_or_comesTo tree with allowed | ⟨node, passed, comes⟩
  · exact absurd (allowed part inside) refused.not_allowed
  · obtain ⟨first, refusedFirst⟩ := comes.refused
    obtain ⟨failure, fails, ends⟩ := comes.value refusedFirst
    exact ⟨node, passed, first, failure, comes, refusedFirst, ends, value.trans fails⟩

/-- A name is refused before it is divided by zero, and behind what can be added to it. -/
theorem name_refused_before_division :
    let name := Tree.name "x"
    let tree := Tree.binary .add (.literal (.number (.integer 1))) (.binary .div name (.literal (.number (.integer 0))))
    parse "1+x/0" = .ok tree ∧ Part name tree ∧ Refused name (.disallowed .name) ∧
      evaluate "1+x/0" = .error (.disallowed .name) ∧
      ∃ node passed first failure, ComesTo node tree passed ∧ Refused node first ∧ EndsIn first passed failure ∧
        evaluate "1+x/0" = .error failure := by
  intro name tree
  have parsed : parse "1+x/0" = .ok tree := by cbv
  have inside : Part name tree := .of_right (.of_left .whole)
  have fails : evaluate "1+x/0" = .error (.disallowed .name) := by
    rw [evaluate, parsed]
    rfl
  exact ⟨parsed, inside, .name "x", fails, refused_unless_passed_operand_fails parsed inside (.name "x")⟩

/-- The refusal of a name is not seen when a division by zero stands before it. -/
theorem division_by_zero_hides_name :
    let name := Tree.name "x"
    let tree := Tree.binary .add
      (.binary .div (.literal (.number (.integer 1))) (.literal (.number (.integer 0)))) name
    parse "1/0+x" = .ok tree ∧ Part name tree ∧ Refused name (.disallowed .name) ∧
      ¬ ((∃ construct, evaluate "1/0+x" = .error (.disallowed construct)) ∨
        ∃ literal, evaluate "1/0+x" = .error (.invalidLiteral literal)) := by
  intro name tree
  have parsed : parse "1/0+x" = .ok tree := by cbv
  have fails : evaluate "1/0+x" = .error .divisionByZero := by
    rw [evaluate, parsed]
    rfl
  refine ⟨parsed, .of_right .whole, .name "x", ?_⟩
  rintro (⟨construct, refused⟩ | ⟨literal, refused⟩)
  · cases fails.symm.trans refused
  · cases fails.symm.trans refused

end GestureCalculator.Expression
