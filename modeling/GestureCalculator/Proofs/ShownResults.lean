import GestureCalculator.Calculator.Session
import GestureCalculator.Proofs.DecimalNotation
import GestureCalculator.Proofs.IntegerValues
import GestureCalculator.Proofs.Segmentation

/-!
Results as expressions. A result is shown as a number that can be typed, with a minus before it if it is
negative, and evaluating what is shown gives the result again as long as a whole number can be read: a
result without a fraction is shown by all of its digits, and more than 128 bits of them are refused.
-/
namespace GestureCalculator.Expression
open Binary64 Text

/-! ### Shown numbers as words -/

/-- The ways in which the size of a result is shown: digits without zeros before them, or digits with a point
    between them. -/
inductive Shown : List Char → Prop
  | whole {digits : List Char} : digits ≠ [] → (∀ c ∈ digits, c.isDigit) → hasLeadingZero digits = false →
      Shown digits
  | fraction {whole fraction : List Char} : whole ≠ [] → (∀ c ∈ whole, c.isDigit) →
      (∀ c ∈ fraction, c.isDigit) → Shown (whole ++ '.' :: fraction)

theorem toNat_of_isDigit {c : Char} (digit : c.isDigit) : 48 ≤ c.toNat ∧ c.toNat ≤ 57 := by
  simpa [Char.isDigit, UInt32.le_iff_toNat_le] using digit

theorem isDecimalDigit_of_isDigit {c : Char} (digit : c.isDigit) : isDecimalDigit c := by
  obtain ⟨least, greatest⟩ := toNat_of_isDigit digit
  rw [isDecimalDigit, decimalDigitRanges, inRanges, if_neg (by omega), if_pos greatest]

theorem isBlank_of_isDigit {c : Char} (digit : c.isDigit) : isBlank c = false := by
  obtain ⟨least, greatest⟩ := toNat_of_isDigit digit
  rw [isBlank, blankRanges, inRanges, if_neg (by omega), if_neg (by omega), inRanges, if_neg (by omega),
    if_neg (by omega), inRanges, if_pos (by omega)]

theorem Shown.begins {cs : List Char} (shown : Shown cs) : ∃ c rest, cs = c :: rest ∧ c.isDigit := by
  cases shown with
  | whole nonempty digits _ =>
    obtain ⟨c, rest, rfl⟩ := List.exists_cons_of_ne_nil nonempty
    exact ⟨c, rest, rfl, digits c List.mem_cons_self⟩
  | fraction nonempty digits _ =>
    obtain ⟨c, rest, rfl⟩ := List.exists_cons_of_ne_nil nonempty
    exact ⟨c, rest ++ _, rfl, digits c List.mem_cons_self⟩

theorem Shown.hasLeadingZero_eq_false {cs : List Char} (shown : Shown cs) : hasLeadingZero cs = false := by
  cases shown with
  | whole _ _ plain => exact plain
  | fraction => simp [hasLeadingZero]

/-- What stands behind a number and is no part of it: nothing that begins with a character that numbers go on
    with. -/
def EndsNumber (rest : List Char) : Prop :=
  ∀ c ∈ rest.head?, isDecimalDigit c = false ∧ isAlphanumeric c = false ∧ c ∉ ['.', 'e', 'E', '_']

theorem endsNumber_nil : EndsNumber [] := by simp [EndsNumber]

theorem EndsNumber.takeWhile_append {digits rest : List Char} (ends : EndsNumber rest)
    (all : ∀ c ∈ digits, c.isDigit) : (digits ++ rest).takeWhile isDecimalDigit = digits := by
  rw [List.takeWhile_append_of_pos fun c inside => isDecimalDigit_of_isDigit (all c inside)]
  cases rest with
  | nil => simp
  | cons c rest => simp [(ends c rfl).1]

theorem EndsNumber.exponentPart {rest : List Char} (ends : EndsNumber rest) : exponentPart rest = [] := by
  cases rest with
  | nil => rfl
  | cons c rest =>
    have plain := (ends c rfl).2.2
    simp only [List.mem_cons, not_or] at plain
    simp [Expression.exponentPart, plain]

theorem EndsNumber.ne_point {rest tail : List Char} (ends : EndsNumber rest) : rest ≠ '.' :: tail := by
  rintro rfl
  exact absurd (ends '.' rfl).2.2 (by decide)

theorem numberPart_of_shown {cs rest : List Char} (shown : Shown cs) (ends : EndsNumber rest) :
    numberPart (cs ++ rest) = cs := by
  have mantissa : mantissaPart (cs ++ rest) = cs := by
    cases shown with
    | whole nonempty digits _ =>
      simp only [mantissaPart, ends.takeWhile_append digits, List.drop_left]
      split
      · exact absurd rfl ends.ne_point
      · rfl
    | @fraction whole fraction nonempty digits digits' =>
      have taken : (whole ++ '.' :: (fraction ++ rest)).takeWhile isDecimalDigit = whole := by
        rw [List.takeWhile_append_of_pos fun c inside => isDecimalDigit_of_isDigit (digits c inside)]
        simp [show isDecimalDigit '.' = false by decide]
      simp only [mantissaPart, List.append_assoc, List.cons_append, taken, List.drop_left,
        ends.takeWhile_append digits', nonempty, false_and, if_false]
  have nonempty : cs ≠ [] := by
    obtain ⟨c, tail, rfl, _⟩ := shown.begins
    exact List.cons_ne_nil c tail
  simp only [numberPart, mantissa, if_neg nonempty, List.drop_left, ends.exponentPart, List.append_nil]

/-- A shown number is one word, whatever stands behind it without going on with it. -/
theorem wordAt_of_shown {c : Char} {cs rest : List Char} (shown : Shown (c :: cs)) (ends : EndsNumber rest) :
    wordAt c (cs ++ rest) = .ok (.number (String.ofList (c :: cs)), (c :: cs).length) := by
  have number : numberPart (c :: (cs ++ rest)) = c :: cs := numberPart_of_shown shown ends
  have behind : (c :: (cs ++ rest)).drop (c :: cs).length = rest := List.drop_left' rfl
  have apart : (rest.head?.any fun next => isAlphanumeric next || next == '_') = false := by
    cases rest with
    | nil => rfl
    | cons next rest =>
      obtain ⟨_, letter, other⟩ := ends next rfl
      simp only [List.mem_cons, not_or] at other
      simp [letter, other]
  simp only [wordAt, number, behind, apart, shown.hasLeadingZero_eq_false]
  simp

theorem wordAt_minus (rest : List Char) : wordAt '-' rest = .ok (.symbol .minus, 1) := by
  have number : numberPart ('-' :: rest) = [] := by
    simp [numberPart, mantissaPart, show isDecimalDigit '-' = false by decide]
  have name : namePart ('-' :: rest) = [] := rfl
  have symbol : symbolPart? ('-' :: rest) = some .minus := rfl
  simp only [wordAt, number, name, symbol, ne_eq, not_true_eq_false, if_false]
  rfl

/-- A word at the head of a text goes before the words behind it. -/
theorem tokensFrom_cons {allowed offset size : Nat} {c : Char} {rest : List Char} {lexeme : Lexeme}
    {tokens : List Token} (inked : isBlank c = false) (word : wordAt c rest = .ok (lexeme, size))
    (behind : tokensFrom allowed (offset + byteLength ((c :: rest).take size)) ((c :: rest).drop size) = .ok tokens) :
    tokensFrom (allowed + 1) offset (c :: rest) = .ok (⟨lexeme, offset⟩ :: tokens) := by
  rw [tokensFrom_step inked word, behind]
  rfl

theorem tokensFrom_of_shown {cs : List Char} (shown : Shown cs) (allowed offset : Nat) :
    tokensFrom (allowed + 1) offset cs = .ok [⟨.number (String.ofList cs), offset⟩] := by
  obtain ⟨c, rest, rfl, digit⟩ := shown.begins
  have word := wordAt_of_shown shown endsNumber_nil
  rw [List.append_nil] at word
  refine tokensFrom_cons (isBlank_of_isDigit digit) word ?_
  rw [List.drop_length, tokensFrom_nil]

theorem tokensFrom_minus {cs : List Char} (shown : Shown cs) (allowed offset : Nat) :
    tokensFrom (allowed + 2) offset ('-' :: cs) =
      .ok [⟨.symbol .minus, offset⟩, ⟨.number (String.ofList cs), offset + 1⟩] :=
  tokensFrom_cons (by decide) (wordAt_minus cs) (tokensFrom_of_shown shown allowed (offset + 1))

/-! ### Shown numbers as trees -/

/-- A reader of a level takes what the reader of its operands takes if no words are left. -/
theorem leftChain_alone {level : Level} {operand : Reader Tree} {words : List Lexeme} {found : Except Stop Tree}
    (alone : operand words = found.map (·, [])) : leftChain level operand words = found.map (·, []) := by
  rw [leftChain, alone]
  cases found <;> rfl

theorem joined_alone {op : BoolOp} {name : String} {condition : Reader Tree} {words : List Lexeme}
    {found : Except Stop Tree} (alone : condition words = found.map (·, [])) :
    joined op name condition words = found.map (·, []) := by
  rw [joined, alone]
  cases found <;> rfl

theorem operand_alone {inner : Option Readers} {words : List Lexeme} {found : Except Stop Tree}
    (alone : factor inner words = found.map (·, [])) : operand inner words = found.map (·, []) := by
  simp only [operand, levels, List.foldl_cons, List.foldl_nil]
  iterate 6 apply leftChain_alone
  exact alone

theorem negation_alone {inner : Option Readers} {words : List Lexeme} {found : Except Stop Tree}
    (alone : factor inner words = found.map (·, [])) (plain : words.head? ≠ some (.name "not")) :
    negation inner words = found.map (·, []) := by
  rw [negation, if_neg plain, comparison, operand_alone alone]
  cases found <;> rfl

/-- Words that are a factor and nothing else have the tree of the factor. -/
theorem treeOf_alone {words : List Lexeme} {found : Except Stop Tree}
    (alone : factor (some (readersWithin 99)) words = found.map (·, []))
    (plain : words.head? ≠ some (.name "not")) : treeOf words = found := by
  have read : (readersWithin maxDepth).expression words = found.map (·, []) :=
    joined_alone (joined_alone (negation_alone alone plain))
  rw [treeOf, read]
  cases found <;> rfl

/-- A number alone is the factor that its literal is. -/
theorem factor_number (inner : Option Readers) (text : String) :
    factor inner [.number text] = ((numberLiteral text [.number text]).map Tree.literal).map (·, []) := by
  simp only [factor, List.head?_cons, Option.bind_some, unaryOperator, power, primary, atom]
  cases numberLiteral text [.number text] <;> rfl

theorem treeOf_number (text : String) :
    treeOf [.number text] = (numberLiteral text [.number text]).map Tree.literal :=
  treeOf_alone (factor_number _ text) (by simp)

theorem treeOf_minus_number (text : String) :
    treeOf [.symbol .minus, .number text] =
      ((numberLiteral text [.number text]).map Tree.literal).map (Tree.unary .minus) := by
  refine treeOf_alone ?_ (by simp)
  have operand : (readersWithin 99).factor [.number text] =
    ((numberLiteral text [.number text]).map Tree.literal).map (·, []) := factor_number _ text
  simp only [factor, List.head?_cons, Option.bind_some, unaryOperator, List.tail_cons, nested, operand]
  cases numberLiteral text [.number text] <;> rfl

/-! ### Shown numbers as values -/

theorem tokensOf_shown {cs : List Char} (shown : Shown cs) :
    tokensOf (String.ofList cs) = .ok [⟨.number (String.ofList cs), 0⟩] := by
  rw [tokensOf, String.toList_ofList]
  exact tokensFrom_of_shown shown 4095 0

theorem tokensOf_minus {cs : List Char} (shown : Shown cs) :
    tokensOf (String.ofList ('-' :: cs)) =
      .ok [⟨.symbol .minus, 0⟩, ⟨.number (String.ofList cs), 1⟩] := by
  rw [tokensOf, String.toList_ofList]
  exact tokensFrom_minus shown 4094 0

/-- A shown number is evaluated to its literal, or to the opposite of it behind a minus. -/
theorem evaluate_shown {cs : List Char} {literal : Literal} (shown : Shown cs)
    (reads : numberLiteral (String.ofList cs) [.number (String.ofList cs)] = .ok literal) :
    evaluate (String.ofList cs) = literal.value ∧
      evaluate (String.ofList ('-' :: cs)) = literal.value >>= opposite := by
  constructor
  · simp only [evaluate, parse, tokensOf_shown shown, List.map_cons, List.map_nil, treeOf_number, reads]
    rfl
  · simp only [evaluate, parse, tokensOf_minus shown, List.map_cons, List.map_nil, treeOf_minus_number, reads]
    rfl

/-- A shown number that is too large for a literal is refused. -/
theorem evaluate_shown_overflow {cs : List Char} (shown : Shown cs)
    (refused : numberLiteral (String.ofList cs) [.number (String.ofList cs)] = .error .integerOverflow) :
    evaluate (String.ofList cs) = .error .integerOverflow ∧
      evaluate (String.ofList ('-' :: cs)) = .error .integerOverflow := by
  constructor
  · simp only [evaluate, parse, tokensOf_shown shown, List.map_cons, List.map_nil, treeOf_number, refused]
    rfl
  · simp only [evaluate, parse, tokensOf_minus shown, List.map_cons, List.map_nil, treeOf_minus_number, refused]
    rfl

theorem head_toDigits {n : Nat} (positive : 0 < n) : (Nat.toDigits 10 n).head? ≠ some '0' := by
  induction n using Nat.strongRecOn with
  | ind n ih =>
    rw [Nat.toDigits_eq_if (by decide)]
    split
    next small =>
      interval_cases n <;> decide
    next large =>
      rw [List.head?_append_of_ne_nil _ Nat.toDigits_ne_nil]
      exact ih (n / 10) (by omega) (by omega)

/-- The digits of a whole number have no zeros before them. -/
theorem shown_toDigits (n : Nat) : Shown (Nat.toDigits 10 n) := by
  refine .whole Nat.toDigits_ne_nil (fun c => Nat.isDigit_of_mem_toDigits (by decide) (by decide)) ?_
  rcases Nat.eq_zero_or_pos n with rfl | positive
  · rfl
  · have head := head_toDigits positive
    simp [hasLeadingZero, head]

theorem numberLiteral_toDigits (n : Nat) (words : List Lexeme) :
    numberLiteral (String.ofList (Nat.toDigits 10 n)) words =
      if Number.inRange n then .ok (.number (.integer n)) else .error .integerOverflow := by
  have digits : (Nat.toDigits 10 n).all Char.isDigit :=
    List.all_eq_true.mpr fun c => Nat.isDigit_of_mem_toDigits (by decide) (by decide)
  have filled : String.ofList (Nat.toDigits 10 n) ≠ "" := fun empty =>
    Nat.toDigits_ne_nil  (String.ofList_eq_empty_iff.mp empty)
  rw [numberLiteral, String.toList_ofList, if_pos digits, digitsValue, Nat.ofDigitChars_ten_toDigits]
  simp only [filled, ne_eq, not_false_eq_true, true_and]

theorem toString_eq (n : Int) :
    toString n = if n < 0 then String.ofList ('-' :: Nat.toDigits 10 n.natAbs)
      else String.ofList (Nat.toDigits 10 n.natAbs) := by
  rw [Int.toString_eq_repr, Int.repr_eq_if]
  by_cases negative : n < 0
  · rw [if_neg (by omega), if_pos negative, show (-n).toNat = n.natAbs by omega, ← String.toList_inj]
    simp
  · rw [if_pos (by omega), if_neg negative, show n.toNat = n.natAbs by omega, Nat.repr_eq_ofList_toDigits]

/-- The digits of a whole number are evaluated to it if it has fewer than 128 bits without its sign, and are
    refused otherwise. -/
theorem evaluate_toString (n : Int) :
    evaluate (toString n) = if n.natAbs < 2 ^ 127 then .ok (.integer n) else .error .integerOverflow := by
  have literal := numberLiteral_toDigits n.natAbs [.number (String.ofList (Nat.toDigits 10 n.natAbs))]
  have inRange_natAbs : Number.inRange n.natAbs ↔ n.natAbs < 2 ^ 127 := by
    rw [Number.inRange_iff]
    omega
  rw [toString_eq]
  by_cases fits : n.natAbs < 2 ^ 127
  · rw [if_pos (inRange_natAbs.mpr fits)] at literal
    obtain ⟨plain, behindMinus⟩ := evaluate_shown (shown_toDigits n.natAbs) literal
    rw [if_pos fits]
    by_cases negative : n < 0
    · have opposed : -(n.natAbs : Int) = n := by omega
      rw [if_pos negative, behindMinus]
      change exactly (-(n.natAbs : Int)) = .ok (.integer n)
      rw [opposed, exactly_of_inRange (Number.inRange_iff.mpr (by omega))]
    · have same : (n.natAbs : Int) = n := by omega
      rw [if_neg negative, plain, same]
      rfl
  · rw [if_neg (mt inRange_natAbs.mp fits)] at literal
    obtain ⟨plain, behindMinus⟩ := evaluate_shown_overflow (shown_toDigits n.natAbs) literal
    rw [if_neg fits]
    split
    · exact behindMinus
    · exact plain

theorem steps_pos_of_fraction {x : Float} (number : x.isFinite) (fraction : isWhole x = false) :
    ¬ unit ∣ steps x ∧ 0 < steps x := by
  have broken : ¬ unit ∣ steps x := by
    intro dvd
    simp [isWhole, number, Nat.mod_eq_zero_of_dvd dvd] at fraction
  refine ⟨broken, Nat.pos_of_ne_zero fun zero => broken ?_⟩
  rw [zero]
  exact Nat.dvd_zero _

/-- The text of a number with a fraction has a point between digits, and a minus before them if it is negative. -/
theorem plainText_of_fraction {x : Float} (number : x.isFinite) (fraction : isWhole x = false) :
    ∃ whole behind, Places (shortestDecimal (steps x)) whole behind ∧ plainText x =
      String.ofList (if isNegative x then '-' :: (whole ++ '.' :: behind) else whole ++ '.' :: behind) := by
  obtain ⟨broken, positive⟩ := steps_pos_of_fraction number fraction
  obtain ⟨whole, behind, places, written⟩ := positional_of_neg (shortestDecimal_exponent_neg number broken)
  refine ⟨whole, behind, places, ?_⟩
  simp only [plainText, fraction, Bool.false_eq_true, if_false, shortestText, isNaN_of_isFinite number,
    isInf_of_isFinite number, if_neg (Nat.ne_of_gt positive), written]

/-- The text of a number with a fraction is evaluated to the number. -/
theorem evaluate_fraction {x : Float} (number : x.isFinite) (fraction : isWhole x = false) :
    evaluate (plainText x) = .ok (.decimal x) := by
  obtain ⟨_, positive⟩ := steps_pos_of_fraction number fraction
  obtain ⟨whole, behind, places, text⟩ := plainText_of_fraction number fraction
  have shown : Shown (whole ++ '.' :: behind) :=
    .fraction places.whole_ne_nil places.whole_digits places.fraction_digits
  have literal : numberLiteral (String.ofList (whole ++ '.' :: behind)) [.number (String.ofList (whole ++ '.' :: behind))] =
      .ok (.number (.decimal (ofSteps false (steps x) 1))) := by
    have point : ¬ (whole ++ '.' :: behind).all Char.isDigit := by simp
    rw [numberLiteral, String.toList_ofList, if_neg point, read?, ofText?_of_places places,
      ofDecimal_shortestDecimal positive]
    rfl
  have size : (ofSteps false (steps x) 1).isFinite := by
    rw [isFinite_ofSteps_iff, bitsOfSteps_steps number]
    exact (isFinite_iff x).mp number
  obtain ⟨plain, behindMinus⟩ := evaluate_shown shown literal
  have value : Literal.value (.number (.decimal (ofSteps false (steps x) 1))) =
    .ok (.decimal (ofSteps false (steps x) 1)) := if_pos size
  have same := ofSteps_steps number
  rw [text]
  cases negative : isNegative x with
  | true =>
    rw [negative] at same
    rw [if_pos rfl, behindMinus, value]
    change Except.ok (Number.decimal (-ofSteps false (steps x) 1)) = _
    rw [neg_ofSteps size, same]
  | false =>
    rw [negative] at same
    rw [if_neg (by decide), plain, value, same]

/-! ### Results -/

/-- Results are whole numbers of 128 bits and finite numbers. -/
def Valid : Number → Prop
  | .integer n => Number.inRange n
  | .decimal x => x.isFinite

theorem valid_of_exactly {n : Int} {v : Number} (kept : exactly n = .ok v) : Valid v := by
  rw [exactly] at kept
  split at kept
  next inRange =>
    cases kept
    exact inRange
  next => cases kept

theorem valid_of_finite {x : Float} {v : Number} (kept : finite x = .ok v) : Valid v := by
  rw [finite] at kept
  split at kept
  next number =>
    cases kept
    exact number
  next => cases kept

theorem valid_of_applyFloats {op : ArithmeticOp} {x y : Float} {v : Number} (value : applyFloats op x y = .ok v) :
    Valid v := by
  cases op <;> simp only [applyFloats] at value
  case add | sub | mul => exact valid_of_finite value
  all_goals
    split at value
    · cases value
    · exact valid_of_finite value

theorem valid_of_applyIntegers {op : ArithmeticOp} {m n : Int} {v : Number}
    (value : applyIntegers op m n = .ok v) : Valid v := by
  cases op <;> simp only [applyIntegers, integerPower_eq] at value
  case add | sub | mul => exact valid_of_exactly value
  case div =>
    split at value
    · cases value
    · exact valid_of_applyFloats value
  case floorDiv | mod =>
    split at value
    · cases value
    · exact valid_of_exactly value
  case pow =>
    split at value
    · exact valid_of_exactly value
    split at value
    · cases value
    · exact valid_of_applyFloats value

theorem valid_of_opposite {x v : Number} (valid : Valid x) (value : opposite x = .ok v) : Valid v := by
  cases x with
  | integer n => exact valid_of_exactly value
  | decimal x =>
    cases value
    exact isFinite_neg valid

/-- The value of a tree is valid if the whole numbers in it are. -/
theorem valid_of_value {tree : Tree} {v : Number} (inRange : LiteralsInRange tree) (value : tree.value = .ok v) :
    Valid v := by
  fun_induction Tree.value tree generalizing v with
  | case1 constant =>
    unfold Literal.value at value
    split at value
    · cases value
      exact inRange _ (mem_postorder_self _)
    · exact valid_of_finite value
    · cases value
  | case2 operand ih => exact ih (literalsInRange_unary.mp inRange) value
  | case3 operand ih =>
    obtain ⟨x, valueOperand, opposed⟩ := bind_ok_iff.mp value
    exact valid_of_opposite (ih (literalsInRange_unary.mp inRange) valueOperand) opposed
  | case4 op left right unknown => cases value
  | case5 op left right arithmetic known ihLeft ihRight =>
    obtain ⟨x, valueLeft, rest⟩ := bind_ok_iff.mp value
    obtain ⟨y, valueRight, applied⟩ := bind_ok_iff.mp rest
    unfold apply at applied
    split at applied
    · exact valid_of_applyIntegers applied
    · exact valid_of_applyFloats applied
  | case6 tree _ _ _ => cases value

theorem valid_of_evaluate {text : String} {v : Number} (value : evaluate text = .ok v) : Valid v := by
  obtain ⟨tree, parsed, value⟩ := bind_ok_iff.mp value
  obtain ⟨tokens, _, derives⟩ := parse_ok_iff.mp parsed
  exact valid_of_value derives.literalsInRange value

/-- The results whose digits can be read: all whole numbers but the least one, and all others that have a
    fraction or fewer than 128 bits before it. -/
def Readable : Number → Prop
  | .integer n => n ≠ Number.leastInteger
  | .decimal x => isWhole x → (wholePart x).natAbs < 2 ^ 127

/-- What is shown of a readable result is evaluated to a result that is shown in the same way and has the same
    value as a binary64 number. What is shown of any other is refused. -/
theorem evaluate_text {v : Number} (valid : Valid v) :
    (Readable v → ∃ w, evaluate v.text = .ok w ∧ w.text = v.text ∧ (w.toFloat == v.toFloat) = true) ∧
      (¬ Readable v → evaluate v.text = .error .integerOverflow) := by
  cases v with
  | integer n =>
    have bounds := Number.inRange_iff.mp valid
    have value := evaluate_toString n
    have least : n = Number.leastInteger ↔ ¬ n.natAbs < 2 ^ 127 := by
      rw [Number.leastInteger]
      omega
    constructor
    · intro readable
      rw [if_pos (not_not.mp (mt least.mpr readable))] at value
      exact ⟨.integer n, value, rfl, beq_self (isFinite_ofInt (by omega))⟩
    · intro unreadable
      rw [if_neg (least.mp (not_not.mp unreadable))] at value
      exact value
  | decimal x =>
    by_cases whole : isWhole x
    · have text : (Number.decimal x).text = toString (wholePart x) := if_pos whole
      have value := evaluate_toString (wholePart x)
      rw [text]
      constructor
      · intro readable
        rw [if_pos (readable whole)] at value
        exact ⟨.integer (wholePart x), value, rfl, ofInt_wholePart whole⟩
      · intro unreadable
        rw [if_neg fun fits => unreadable fun _ => fits] at value
        exact value
    · have fraction : isWhole x = false := by simpa using whole
      refine ⟨fun _ => ⟨.decimal x, evaluate_fraction valid fraction, rfl, beq_self valid⟩, ?_⟩
      exact fun unreadable => absurd (fun holds => absurd holds whole) unreadable

/-! ### Calculations in progress -/

theorem evaluate_of_blank {text : String} (blank : isBlankText text) :
    evaluate text = .error (.malformed 0 .empty) := by
  have none : text.toList.dropWhile isBlank = [] :=
    List.dropWhile_eq_nil_iff.mpr fun c inside => List.all_eq_true.mp blank c inside
  have tokens : tokensOf text = .ok [] := tokensFrom.eq_1 0 text.toList maxTokens none
  rw [evaluate, parse, tokens]
  rfl

theorem press_of_isInput {label : Keypad.Label} (input : label.isInput) (session : Session) :
    session.press label = { session with expression := session.expression ++ label.text } := by
  cases label <;> first | rfl | cases input

/-- The session that shows an outcome: its text, which is the expression too, or an error. -/
def showing : Except Failure Number → Session
  | .ok v => ⟨v.text, v.text⟩
  | .error _ => ⟨"", Session.errorResult⟩

/-- Evaluating an expression that is not blank shows its outcome. -/
theorem press_equals {session : Session} (inked : ¬ isBlankText session.expression) :
    session.press .equals = showing (evaluate session.expression) := by
  rw [Session.press, Session.evaluate, if_neg inked]
  cases evaluate session.expression <;> rfl

theorem press_equals_of_ok {session : Session} {v : Number} (value : evaluate session.expression = .ok v) :
    session.press .equals = ⟨v.text, v.text⟩ := by
  have inked : ¬ isBlankText session.expression := by
    intro blank
    rw [evaluate_of_blank blank] at value
    cases value
  rw [press_equals inked, value, showing]

theorem press_equals_of_overflow {session : Session} (refused : evaluate session.expression = .error .integerOverflow) :
    session.press .equals = ⟨"", Session.errorResult⟩ := by
  have inked : ¬ isBlankText session.expression := by
    intro blank
    rw [evaluate_of_blank blank] at refused
    cases refused
  rw [press_equals inked, refused, showing]

/-- What is shown of a result can be evaluated again exactly if the result is readable: then it gives the same
    text and the same binary64 number, and in a calculation, however it was typed, a second evaluation changes
    nothing; otherwise the digits are refused, and the second evaluation ends in an error. -/
theorem shown_result_evaluates {text : String} {v : Number} (value : evaluate text = .ok v) :
    (Readable v → ∃ w, evaluate v.text = .ok w ∧ w.text = v.text ∧ (w.toFloat == v.toFloat) = true) ∧
      (¬ Readable v → evaluate v.text = .error .integerOverflow) ∧
      ∀ keys : List Keypad.Label, (keys.foldl Session.press {}).expression = text →
        ∃ shown, (keys ++ [Keypad.Label.equals]).foldl Session.press {} = shown ∧ shown = ⟨v.text, v.text⟩ ∧
          (Readable v → shown.press .equals = shown) ∧
          (¬ Readable v → shown.press .equals = ⟨"", Session.errorResult⟩) := by
  obtain ⟨again, refused⟩ := evaluate_text (valid_of_evaluate value)
  refine ⟨again, refused, fun keys typed => ⟨⟨v.text, v.text⟩, ?_, rfl, ?_, ?_⟩⟩
  · rw [List.foldl_append, List.foldl_cons, List.foldl_nil]
    exact press_equals_of_ok (typed ▸ value)
  · intro readable
    obtain ⟨w, value', sameText, _⟩ := again readable
    rw [press_equals_of_ok value', sameText]
  · intro unreadable
    exact press_equals_of_overflow (refused unreadable)

theorem toOption_eq_some_iff {ε α : Type} {found : Except ε α} {value : α} :
    found.toOption = some value ↔ found = .ok value := by
  cases found <;> simp [Except.toOption]

/-- The least whole number is a result, and its digits are refused. -/
theorem shown_result_least_integer :
    let keys : List Keypad.Label :=
      [.zero, .sub, .two, .mul, .mul, .one, .two, .six, .sub, .two, .mul, .mul, .one, .two, .six]
    (keys.foldl Session.press {}).expression = "0-2**126-2**126" ∧
      evaluate "0-2**126-2**126" = .ok (.integer Number.leastInteger) ∧
      ¬ Readable (.integer Number.leastInteger) ∧
      evaluate (Number.integer Number.leastInteger).text = .error .integerOverflow ∧
      ((keys ++ [Keypad.Label.equals]).foldl Session.press {}).press .equals = ⟨"", Session.errorResult⟩ := by
  intro keys
  have typed : (keys.foldl Session.press {}).expression = "0-2**126-2**126" := by decide +kernel
  have value : evaluate "0-2**126-2**126" = .ok (.integer Number.leastInteger) :=
    toOption_eq_some_iff.mp (by decide +kernel)
  have unreadable : ¬ Readable (.integer Number.leastInteger) := fun readable => readable rfl
  obtain ⟨_, refused, sessions⟩ := shown_result_evaluates value
  obtain ⟨shown, first, _, _, second⟩ := sessions keys typed
  refine ⟨typed, value, unreadable, refused unreadable, ?_⟩
  rw [first]
  exact second unreadable

end GestureCalculator.Expression
