import GestureCalculator.Proofs.ShownResults
import GestureCalculator.Proofs.WholeDecimals
import GestureCalculator.Settings.Document

/-!
Numbers in TOML documents. What is written for a whole number is read as that whole number, and what is written for a finite
number is read as that number, with the sign of a zero.
-/
namespace GestureCalculator.Toml
open Binary64 Text

/-! ### Characters -/

/-- What a scan takes is all that is before the first character that it does not go over. -/
theorem takeWhile_append {p : Char → Bool} {taken left : List Char} (all : ∀ c ∈ taken, p c) (ends : ∀ c ∈ left.head?, p c = false) :
    (taken ++ left).takeWhile p = taken := by
  rw [List.takeWhile_append_of_pos all]
  cases left with
  | nil => simp
  | cons c left => simp [ends c rfl]

theorem dropWhile_append {p : Char → Bool} {taken left : List Char} (all : ∀ c ∈ taken, p c) (ends : ∀ c ∈ left.head?, p c = false) :
    (taken ++ left).dropWhile p = left := by
  rw [List.dropWhile_append_of_pos all]
  cases left with
  | nil => simp
  | cons c left => simp [ends c rfl]

/-! ### Digits -/

/-- Digits with a zero before them only if they are nothing else. -/
structure PlainDigits (digits : List Char) : Prop where
  ne_nil : digits ≠ []
  all : ∀ c ∈ digits, c.isDigit
  zero : digits.head? = some '0' → digits.length = 1

theorem ungrouped?_of_digits {digits : List Char} (nonempty : digits ≠ []) (all : ∀ c ∈ digits, c.isDigit) :
    ungrouped? Char.isDigit digits = some digits := by
  induction digits with
  | nil => exact absurd rfl nonempty
  | cons c rest ih =>
    have digit := all c List.mem_cons_self
    cases rest with
    | nil => simp [ungrouped?, digit]
    | cons next rest =>
      have digit' := all next (List.mem_cons_of_mem c List.mem_cons_self)
      have plain : next ≠ '_' := by
        rintro rfl
        exact absurd digit' (by decide)
      have behind := ih (List.cons_ne_nil next rest) fun c inside => all c (List.mem_cons_of_mem _ inside)
      simp [ungrouped?, digit, plain, behind]

theorem ungrouped?_of_point {text : List Char} (point : '.' ∈ text) : ungrouped? Char.isDigit text = none := by
  fun_induction ungrouped? Char.isDigit text with
  | case1 => cases point
  | case2 c digit =>
    rw [← List.mem_singleton.mp point] at digit
    exact absurd digit (by decide)
  | case3 => rfl
  | case4 c rest digit ih =>
    simp at point
    rcases point with rfl | inside
    · exact absurd digit (by decide)
    · rw [ih inside]
      rfl
  | case5 => rfl
  | case6 c rest _ _ digit ih =>
    simp at point
    rcases point with rfl | inside
    · exact absurd digit (by decide)
    · rw [ih inside]
      rfl
  | case7 => rfl

theorem decimalDigits?_of_plain {digits : List Char} (plain : PlainDigits digits) : decimalDigits? digits = some digits := by
  rw [decimalDigits?, ungrouped?_of_digits plain.ne_nil plain.all]
  refine if_neg ?_
  simp only [Bool.and_eq_true, not_and, beq_iff_eq, decide_not, Bool.not_eq_true]
  intro first
  simp [plain.zero first]

theorem decimalDigits?_of_point {text : List Char} (point : '.' ∈ text) : decimalDigits? text = none := by
  rw [decimalDigits?, ungrouped?_of_point point]
  rfl

theorem plainDigits_toDigits (n : Nat) : PlainDigits (Nat.toDigits 10 n) where
  ne_nil := Nat.toDigits_ne_nil
  all := fun _ => Nat.isDigit_of_mem_toDigits (by decide) (by decide)
  zero := by
    intro first
    rcases Nat.eq_zero_or_pos n with rfl | positive
    · rfl
    · exact absurd first (Expression.head_toDigits positive)

/-! ### Signs -/

/-- A size with a minus before it or without one. -/
def withSign (negative : Bool) (size : List Char) : List Char := if negative then '-' :: size else size

/-- The size of a number as it is written: digits, with a point behind the first of them if there is one. -/
structure Size (size : List Char) : Prop where
  begins : ∃ c rest, size = c :: rest ∧ c.isDigit
  characters : ∀ c ∈ size, c.isDigit ∨ c = '.'

theorem PlainDigits.begins {digits : List Char} (plain : PlainDigits digits) (rest : List Char) :
    ∃ c tail, digits ++ rest = c :: tail ∧ c.isDigit := by
  obtain ⟨c, tail, rfl⟩ := List.exists_cons_of_ne_nil plain.ne_nil
  exact ⟨c, tail ++ rest, rfl, plain.all c List.mem_cons_self⟩

theorem PlainDigits.size {digits : List Char} (plain : PlainDigits digits) : Size digits where
  begins := by simpa using plain.begins []
  characters := fun c inside => .inl (plain.all c inside)

theorem mem_withSign {negative : Bool} {size : List Char} (written : Size size) {c : Char} (inside : c ∈ withSign negative size) :
    c.isDigit ∨ c = '-' ∨ c = '.' := by
  cases negative with
  | false => exact (written.characters c inside).imp_right .inr
  | true =>
    rcases List.mem_cons.mp inside with rfl | inside
    · exact .inr (.inl rfl)
    · exact (written.characters c inside).imp_right .inr

theorem splitSign_withSign (negative : Bool) {size : List Char} (written : Size size) :
    splitSign (withSign negative size) = (negative, size) := by
  obtain ⟨c, rest, rfl, digit⟩ := written.begins
  cases negative with
  | false => exact splitSign_of_isDigit digit rest
  | true => rfl

/-! ### Dates and times -/

theorem drop_of_fixedDigits? {count : Nat} {cs rest : List Char} {n : Nat} (read : fixedDigits? count cs = some (n, rest)) :
    rest = cs.drop count := by
  simp only [fixedDigits?] at read
  split at read
  · cases read
    rfl
  · cases read

theorem mem_of_expectChar {expected : Char} {cs rest : List Char} (read : expectChar expected cs = some ((), rest)) :
    expected ∈ cs := by
  cases cs with
  | nil => cases read
  | cons c tail =>
    simp only [expectChar] at read
    split at read
    next same => simp [same]
    next => cases read

theorem dash_of_date? {cs rest : List Char} (read : date? cs = some ((), rest)) : '-' ∈ cs.drop 4 := by
  simp only [date?, Option.bind_eq_bind, Option.bind_eq_some_iff] at read
  obtain ⟨⟨year, behind⟩, digits, ⟨⟨⟩, _⟩, dash, _⟩ := read
  rw [← drop_of_fixedDigits? digits]
  exact mem_of_expectChar dash

theorem colon_of_time? {cs rest : List Char} (read : time? cs = some ((), rest)) : ':' ∈ cs.drop 2 := by
  simp only [time?, Option.bind_eq_bind, Option.bind_eq_some_iff] at read
  obtain ⟨⟨hour, behind⟩, digits, ⟨⟨⟩, _⟩, colon, _⟩ := read
  rw [← drop_of_fixedDigits? digits]
  exact mem_of_expectChar colon

/-- Dates have dashes between their digits and times have colons, so that a number is neither. -/
theorem isMoment_eq_false {cs : List Char} (dash : '-' ∉ cs.drop 4) (colon : ':' ∉ cs.drop 2) : isMoment cs = false := by
  have noDate : date? cs = none := by
    cases read : date? cs with
    | none => rfl
    | some found => exact absurd (dash_of_date? read) dash
  have noTime : time? cs = none := by
    cases read : time? cs with
    | none => rfl
    | some found => exact absurd (colon_of_time? read) colon
  rw [isMoment, noDate, noTime]
  rfl

/-! ### Values -/

/-- What is written for a number has no characters but digits, points and a minus. -/
theorem withSign_ne_append {negative : Bool} {size : List Char} (written : Size size) (before : List Char) {c : Char}
    {rest : List Char} (other : ¬ (c.isDigit ∨ c = '-' ∨ c = '.')) : withSign negative size ≠ before ++ c :: rest := by
  intro same
  have inside : c ∈ withSign negative size := by simp [same]
  exact other (mem_withSign written inside)

/-- What is written for a number is no truth value and no date or time. -/
theorem scalar?_withSign (negative : Bool) {size : List Char} (written : Size size) :
    scalar? (withSign negative size) = (integer? (withSign negative size) <|> decimal? (withSign negative size) <|>
      special? (withSign negative size)) := by
  have moment : isMoment (withSign negative size) = false := by
    refine isMoment_eq_false (fun inside => ?_) fun inside => ?_
    · -- Only the first character can be a minus.
      have behind : '-' ∈ size := by
        cases negative with
        | false => exact List.mem_of_mem_drop inside
        | true => exact List.mem_of_mem_drop (i := 3) inside
      exact absurd (written.characters _ behind) (by decide)
    · exact absurd (mem_withSign written (List.mem_of_mem_drop inside)) (by decide)
  rw [scalar?, if_neg, if_neg, if_neg (by simp [moment])]
  · exact withSign_ne_append written [] (by decide)
  · exact withSign_ne_append written [] (by decide)

theorem integer?_withSign (negative : Bool) {size : List Char} (written : Size size) :
    integer? (withSign negative size) =
      (decimalDigits? size).bind fun digits => inRange? (signed negative (digitsValue digits)) := by
  unfold integer?
  split
  next same => exact absurd same (withSign_ne_append written ['0'] (by decide))
  next same => exact absurd same (withSign_ne_append written ['0'] (by decide))
  next same => exact absurd same (withSign_ne_append written ['0'] (by decide))
  next => rw [splitSign_withSign negative written]; rfl

theorem digitsValue_toDigits (n : Nat) : digitsValue (Nat.toDigits 10 n) = n := digitsValue_padded 0 n

theorem toString_eq_withSign (n : Int) : toString n = String.ofList (withSign (n < 0) (Nat.toDigits 10 n.natAbs)) := by
  rw [Expression.toString_eq]
  by_cases negative : n < 0 <;> simp [withSign, negative]

/-- The digits of a whole number are read as it. -/
theorem scalar?_toString {n : Int} (small : n.natAbs < 2 ^ 127) : scalar? (toString n).toList = some (.integer n) := by
  have plain := plainDigits_toDigits n.natAbs
  have whole : signed (decide (n < 0)) n.natAbs = n := by
    by_cases negative : n < 0 <;> simp only [signed, negative, decide_true, decide_false, Bool.false_eq_true, if_true, if_false] <;>
      omega
  rw [toString_eq_withSign, String.toList_ofList, scalar?_withSign _ plain.size, integer?_withSign _ plain.size,
    decimalDigits?_of_plain plain, Option.bind_some, digitsValue_toDigits, whole, inRange?, if_pos (by omega)]
  rfl

/-! ### Numbers with a point -/

/-- What is written for a number without its sign: digits with a point between them, from which its size is read back. -/
structure Pointed (x : Float) (whole fraction : List Char) : Prop where
  whole_plain : PlainDigits whole
  fraction_ne_nil : fraction ≠ []
  fraction_digits : ∀ c ∈ fraction, c.isDigit
  value : ofDecimal false (digitsValue (whole ++ fraction)) (-(fraction.length : Int)) = ofSteps false (steps x) 1

theorem Pointed.size {x : Float} {whole fraction : List Char} (pointed : Pointed x whole fraction) :
    Size (whole ++ '.' :: fraction) where
  begins := pointed.whole_plain.begins _
  characters := by
    intro c inside
    rcases List.mem_append.mp inside with inside | inside
    · exact .inl (pointed.whole_plain.all c inside)
    · rcases List.mem_cons.mp inside with rfl | inside
      · exact .inr rfl
      · exact .inl (pointed.fraction_digits c inside)

theorem isGrouped_of_isDigit {c : Char} (digit : c.isDigit) : isGrouped c := by
  rw [isGrouped, digit, Bool.true_or]

theorem decimal?_of_pointed {x : Float} {whole fraction : List Char} (number : x.isFinite) (pointed : Pointed x whole fraction) :
    decimal? (withSign (isNegative x) (whole ++ '.' :: fraction)) = some (.real x) := by
  have grouped : ∀ c ∈ whole, isGrouped c := fun c inside => isGrouped_of_isDigit (pointed.whole_plain.all c inside)
  have grouped' : ∀ c ∈ fraction, isGrouped c := fun c inside => isGrouped_of_isDigit (pointed.fraction_digits c inside)
  have point : isGrouped '.' = false := by decide
  have taken := takeWhile_append grouped (by simpa using point : ∀ c ∈ ('.' :: fraction).head?, isGrouped c = false)
  have left := dropWhile_append grouped (by simpa using point : ∀ c ∈ ('.' :: fraction).head?, isGrouped c = false)
  have notAll : (whole ++ '.' :: fraction).all isGrouped = false := by simp [point]
  have behind : fractionPart? ('.' :: fraction) = some (fraction, []) := by
    simp [fractionPart?, List.takeWhile_eq_self_iff.mpr grouped', List.dropWhile_eq_nil_iff.mpr grouped',
      ungrouped?_of_digits pointed.fraction_ne_nil pointed.fraction_digits]
  have value := ofDecimal_signed pointed.value (isNegative x)
  rw [ofSteps_steps number] at value
  simp [decimal?, splitSign_withSign _ pointed.size, taken, left, notAll, behind, decimalDigits?_of_plain pointed.whole_plain,
    exponentPart?, value, number]

theorem scalar?_of_pointed {x : Float} {whole fraction : List Char} (number : x.isFinite) (pointed : Pointed x whole fraction) :
    scalar? (withSign (isNegative x) (whole ++ '.' :: fraction)) = some (.real x) := by
  rw [scalar?_withSign _ pointed.size, integer?_withSign _ pointed.size, decimalDigits?_of_point (by simp),
    decimal?_of_pointed number pointed]
  rfl

/-- Only one digit stands before the point if it is a zero. -/
theorem positional_zero {decimal : Decimal} (any : decimal.digits ≠ 0) (places : decimal.exponent < 0)
    (zero : decimal.positional.head? = some '0') : decimal.positional[1]? = some '.' := by
  simp only [Decimal.positional, if_neg (Int.not_le.mpr places)] at zero ⊢
  generalize digits : Nat.toDigits 10 decimal.digits = text at zero ⊢
  have some : 0 < (-decimal.exponent).toNat := by omega
  generalize (-decimal.exponent).toNat = n at zero some ⊢
  by_cases short : text.length ≤ n
  · -- Zeros are put before the digits so that there is one before the point.
    generalize padding : List.replicate (n + 1 - text.length) '0' ++ text = padded
    have long : padded.length = n + 1 := by
      rw [← padding, List.length_append, List.length_replicate]
      omega
    obtain ⟨first, rest, rfl⟩ : ∃ first rest, padded = first :: rest := List.exists_cons_of_length_eq_add_one long
    simp [long]
  · have none : n + 1 - text.length = 0 := by omega
    have taken : text.take (text.length - n) ≠ [] := by
      refine List.ne_nil_of_length_pos ?_
      rw [List.length_take]
      omega
    rw [none, List.replicate_zero, List.nil_append, List.head?_append_of_ne_nil _ taken, List.head?_take, if_neg (by omega),
      ← digits] at zero
    exact absurd zero (Expression.head_toDigits (Nat.pos_of_ne_zero any))

theorem exists_pointed_of_fraction {x : Float} (number : x.isFinite) (fraction : isWhole x = false) :
    ∃ whole behind, Pointed x whole behind ∧ (shortestDecimal (steps x)).positional = whole ++ '.' :: behind := by
  obtain ⟨broken, positive⟩ := Expression.steps_pos_of_fraction number fraction
  have negative := shortestDecimal_exponent_neg number broken
  obtain ⟨whole, behind, places, written⟩ := positional_of_neg negative
  refine ⟨whole, behind, ⟨⟨places.whole_ne_nil, places.whole_digits, ?_⟩, ?_, places.fraction_digits, ?_⟩, written⟩
  · intro zero
    have point := positional_zero (shortestDecimal_digits_ne_zero number positive) negative
      (by rw [written, List.head?_append_of_ne_nil _ places.whole_ne_nil, zero])
    rw [written] at point
    by_contra several
    have inside : 1 < whole.length := by
      have := List.length_pos_of_ne_nil places.whole_ne_nil
      omega
    rw [List.getElem?_append_left inside] at point
    exact absurd (places.whole_digits _ (List.mem_of_getElem? point)) (by decide)
  · rintro rfl
    have := places.places
    simp at this
    omega
  · rw [places.value, places.places, ofDecimal_shortestDecimal positive]

/-- A whole number is written with a zero behind the point. -/
theorem pointed_of_whole {x : Float} (whole : isWhole x) (positive : 0 < steps x) :
    Pointed x (shortestDecimal (steps x)).positional ['0'] := by
  simp only [isWhole, Bool.and_eq_true, beq_iff_eq] at whole
  obtain ⟨number, dvd⟩ := whole
  have any := shortestDecimal_digits_ne_zero number positive
  obtain ⟨k, exponent⟩ := Int.eq_ofNat_of_zero_le
    (shortestDecimal_exponent_nonneg number (Nat.dvd_of_mod_eq_zero dvd) positive)
  have written : (shortestDecimal (steps x)).positional =
      Nat.toDigits 10 (shortestDecimal (steps x)).digits ++ List.replicate k '0' := by
    rw [Decimal.positional, exponent, if_pos (Int.natCast_nonneg k), Int.toNat_natCast]
  have plain := plainDigits_toDigits (shortestDecimal (steps x)).digits
  rw [written]
  refine ⟨⟨?_, ?_, ?_⟩, ?_, ?_, ?_⟩
  · simp [plain.ne_nil]
  · intro c inside
    rcases List.mem_append.mp inside with inside | inside
    · exact plain.all c inside
    · rw [List.eq_of_mem_replicate inside]
      rfl
  · intro zero
    rw [List.head?_append_of_ne_nil _ plain.ne_nil] at zero
    exact absurd zero (Expression.head_toDigits (Nat.pos_of_ne_zero any))
  · simp
  · simp
  · have value : digitsValue (Nat.toDigits 10 (shortestDecimal (steps x)).digits ++ List.replicate k '0' ++ ['0']) =
        (shortestDecimal (steps x)).digits * tenTo (k + 1) := by
      rw [List.append_assoc, ← List.replicate_succ', digitsValue, Nat.ofDigitChars_append, Nat.ofDigitChars_replicate_zero,
        Nat.ofDigitChars_ten_toDigits, mul_comm]
      rfl
    rw [value]
    exact ofDecimal_shortestDecimal_zero_place number positive exponent

theorem pointed_zero {x : Float} (zero : steps x = 0) : Pointed x ['0'] ['0'] where
  whole_plain := plainDigits_toDigits 0
  fraction_ne_nil := by simp
  fraction_digits := by simp
  value := by
    rw [zero]
    rfl

/-- The text of a finite number has a point between digits, from which the number is read back. -/
theorem pointedText_eq {x : Float} (number : x.isFinite) : ∃ whole fraction, Pointed x whole fraction ∧
    Settings.pointedText x = String.ofList (withSign (isNegative x) (whole ++ '.' :: fraction)) := by
  have sizeText : shortestText x = String.ofList (withSign (isNegative x)
      (if steps x = 0 then ['0'] else (shortestDecimal (steps x)).positional)) := by
    simp only [shortestText, isNaN_of_isFinite number, isInf_of_isFinite number, Bool.false_eq_true, if_false]
    rfl
  have signed : ∀ size tail, withSign (isNegative x) size ++ tail = withSign (isNegative x) (size ++ tail) := by
    intro size tail
    cases isNegative x <;> rfl
  cases fraction : isWhole x with
  | false =>
    obtain ⟨_, positive⟩ := Expression.steps_pos_of_fraction number fraction
    obtain ⟨whole, behind, pointed, written⟩ := exists_pointed_of_fraction number fraction
    refine ⟨whole, behind, pointed, ?_⟩
    rw [Settings.pointedText, fraction, if_neg Bool.false_ne_true, sizeText, if_neg (Nat.ne_of_gt positive), written]
  | true =>
    have text : Settings.pointedText x = String.ofList (withSign (isNegative x)
        ((if steps x = 0 then ['0'] else (shortestDecimal (steps x)).positional) ++ ['.', '0'])) := by
      rw [Settings.pointedText, fraction, if_pos rfl, sizeText, ← signed, String.ofList_append]
    by_cases zero : steps x = 0
    · refine ⟨['0'], ['0'], pointed_zero zero, ?_⟩
      rw [text, if_pos zero]
    · refine ⟨_, ['0'], pointed_of_whole fraction (Nat.pos_of_ne_zero zero), ?_⟩
      rw [text, if_neg zero]

/-- The text of a finite number is read as the number. -/
theorem scalar?_pointedText {x : Float} (number : x.isFinite) :
    scalar? (Settings.pointedText x).toList = some (.real x) := by
  obtain ⟨whole, fraction, pointed, text⟩ := pointedText_eq number
  rw [text, String.toList_ofList, scalar?_of_pointed number pointed]

end GestureCalculator.Toml
