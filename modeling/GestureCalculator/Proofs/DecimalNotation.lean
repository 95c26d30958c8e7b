import GestureCalculator.Proofs.Rounding
import Mathlib.Data.List.TakeWhile

/-!
Decimal notation. The digits that are written for a number with a fraction are read back as that number, and
they always have a point between them.
-/
namespace GestureCalculator.Binary64
open Text

/-! ### Decimals -/

theorem tenTo_eq (n : Nat) : tenTo n = Nat.pow 5 n * twoTo n := (Nat.mul_pow 5 2 n)

theorem twoTo_le_pow_five (n : Nat) : twoTo n ≤ Nat.pow 5 n := Nat.pow_le_pow_left (by decide) n

theorem pow_five_ne_zero (n : Nat) : Nat.pow 5 n ≠ 0 := Nat.ne_of_gt (Nat.pow_pos (by decide))

theorem tenTo_pos (n : Nat) : 0 < tenTo n := Nat.pow_pos (by decide)

/-- So many fives and twos in a size make so many tens that can be left out. -/
theorem ofSteps_fives (negative : Bool) (size n : Nat) :
    ofSteps negative (size * Nat.pow 5 n * twoTo n) (tenTo n) = ofSteps negative size 1 := by
  have scaled := bitsOfSteps_mul_right size 1 (tenTo_pos n)
  rw [one_mul] at scaled
  rw [mul_assoc, ← tenTo_eq, ofSteps, scaled, ofSteps]

/-- A decimal without places behind the point is rounded from a whole number. -/
theorem ofDecimal_of_nonneg (negative : Bool) (digits : Nat) {exponent : Int} (nonneg : 0 ≤ exponent) :
    ∃ whole, ofDecimal negative digits exponent = ofSteps negative (whole * unit) 1 := by
  unfold ofDecimal
  split
  · exact ⟨0, by rw [Nat.zero_mul]⟩
  split
  · refine ⟨twoTo 1024, ?_⟩
    rw [unit, ← twoTo_add]
  split
  · omega
  exact ⟨_, rfl⟩

/-- A size is read back from all of its places, as many as there are steps of powers of two in one. -/
theorem ofDecimal_fives {size n : Nat} (positive : 0 < size) (places : unit = twoTo n) (any : 0 < n) :
    ofDecimal false (size * Nat.pow 5 n) (-n) = ofSteps false size 1 := by
  have nonzero := Nat.mul_ne_zero (Nat.ne_of_gt positive) (pow_five_ne_zero n)
  have many := le_log2_of_twoTo_le nonzero ((twoTo_le_pow_five n).trans (Nat.le_mul_of_pos_left _ positive))
  rw [ofDecimal, if_neg nonzero, if_neg (by omega), if_neg (by omega), if_neg (by omega), Int.neg_neg,
    Int.toNat_natCast, ofRatio, places, ofSteps_fives]

theorem exactDecimal_eq (size : Nat) : exactDecimal size = ⟨size * Nat.pow 5 1074, -(1074 : Nat)⟩ := rfl

/-- The decimal that is exactly so many steps is read back. -/
theorem ofDecimal_exactDecimal {size : Nat} (positive : 0 < size) :
    ofDecimal false (exactDecimal size).digits (exactDecimal size).exponent = ofSteps false size 1 := by
  have same := exactDecimal_eq size
  have places : unit = twoTo 1074 := unit.eq_1
  have any : 0 < 1074 := by decide
  -- The number of places is made a variable, so that no power of it is computed.
  generalize 1074 = n at same places any
  rw [same]
  exact ofDecimal_fives positive places any

theorem gridPoint?_readsBackAs {size : Nat} {exponent : Int} {point : Decimal}
    (found : gridPoint? size exponent = some point) : point.readsBackAs size :=
  List.find?_some (p := (Decimal.readsBackAs · size)) found

theorem coarsestDecimal_readsBackAs {size : Nat} (positive : 0 < size) (tries : Nat) (exponent : Int) :
    (coarsestDecimal size tries exponent).readsBackAs size := by
  induction tries generalizing exponent with
  | zero => exact beq_iff_eq.mpr (congrArg Float.toBits (ofDecimal_exactDecimal positive))
  | succ tries ih =>
    rw [coarsestDecimal]
    cases found : gridPoint? size exponent with
    | some point => exact gridPoint?_readsBackAs found
    | none => exact ih (exponent - 1)

/-- The digits that are written for a number are read back as the number without its sign. -/
theorem ofDecimal_shortestDecimal {size : Nat} (positive : 0 < size) :
    ofDecimal false (shortestDecimal size).digits (shortestDecimal size).exponent = ofSteps false size 1 :=
  toBits_injective (congrArg UInt64.toNat (beq_iff_eq.mp (coarsestDecimal_readsBackAs positive _ _)))

/-- A number with a fraction has places behind the point. -/
theorem shortestDecimal_exponent_neg {x : Float} (number : x.isFinite) (fraction : ¬ unit ∣ steps x) :
    (shortestDecimal (steps x)).exponent < 0 := by
  have positive : 0 < steps x := by
    refine Nat.pos_of_ne_zero fun zero => fraction ?_
    rw [zero]
    exact Nat.dvd_zero _
  by_contra nonneg
  obtain ⟨whole, rounded⟩ := ofDecimal_of_nonneg false (shortestDecimal (steps x)).digits (Int.not_lt.mp nonneg)
  rw [ofDecimal_shortestDecimal positive] at rounded
  refine fraction (unit_dvd_steps number (n := whole) ?_)
  rw [← sizeBits_ofSteps false, ← rounded, sizeBits_ofSteps, bitsOfSteps_steps number]

/-! ### Digits and points -/

/-- The digits before and behind the point of a decimal. -/
structure Places (decimal : Decimal) (whole fraction : List Char) : Prop where
  whole_ne_nil : whole ≠ []
  whole_digits : ∀ c ∈ whole, c.isDigit
  fraction_digits : ∀ c ∈ fraction, c.isDigit
  value : digitsValue (whole ++ fraction) = decimal.digits
  places : -(fraction.length : Int) = decimal.exponent

theorem digitsValue_padded (zeros n : Nat) :
    digitsValue (List.replicate zeros '0' ++ Nat.toDigits 10 n) = n := by
  rw [digitsValue, Nat.ofDigitChars_append, Nat.ofDigitChars_replicate_zero, Nat.mul_zero,
    Nat.ofDigitChars_ten_toDigits]

theorem isDigit_of_mem_padded {zeros n : Nat} {c : Char}
    (inside : c ∈ List.replicate zeros '0' ++ Nat.toDigits 10 n) : c.isDigit := by
  rcases List.mem_append.mp inside with zero | digit
  · rw [List.eq_of_mem_replicate zero]
    rfl
  · exact Nat.isDigit_of_mem_toDigits (by decide) (by decide) digit

/-- A decimal with places behind the point is written with a point between digits. -/
theorem positional_of_neg {decimal : Decimal} (negative : decimal.exponent < 0) :
    ∃ whole fraction, Places decimal whole fraction ∧ decimal.positional = whole ++ '.' :: fraction := by
  generalize padding : List.replicate ((-decimal.exponent).toNat + 1 - (Nat.toDigits 10 decimal.digits).length) '0' ++
    Nat.toDigits 10 decimal.digits = padded
  have digits : ∀ c ∈ padded, c.isDigit := by
    rw [← padding]
    exact fun c => isDigit_of_mem_padded
  have long : (-decimal.exponent).toNat < padded.length := by
    rw [← padding, List.length_append, List.length_replicate]
    omega
  refine ⟨padded.take (padded.length - (-decimal.exponent).toNat),
    padded.drop (padded.length - (-decimal.exponent).toNat), ⟨?_, ?_, ?_, ?_, ?_⟩, ?_⟩
  · refine List.ne_nil_of_length_pos ?_
    rw [List.length_take]
    omega
  · exact fun c inside => digits c (List.mem_of_mem_take inside)
  · exact fun c inside => digits c (List.mem_of_mem_drop inside)
  · rw [List.take_append_drop, ← padding, digitsValue_padded]
  · rw [List.length_drop]
    omega
  · rw [Decimal.positional, if_neg (by omega)]
    simp only [padding]

theorem splitSign_of_isDigit {c : Char} (digit : c.isDigit) (rest : List Char) :
    splitSign (c :: rest) = (false, c :: rest) := by
  unfold splitSign
  split
  next same => simp [(List.cons.inj same).1] at digit
  next same => simp [(List.cons.inj same).1] at digit
  next => rfl

/-- Digits with a point between them are read as the decimal that they are. -/
theorem ofText?_of_places {decimal : Decimal} {whole fraction : List Char} (places : Places decimal whole fraction) :
    ofText? (whole ++ '.' :: fraction) = some (ofDecimal false decimal.digits decimal.exponent) := by
  obtain ⟨nonempty, wholeDigits, fractionDigits, value, exponent⟩ := places
  have unsigned : splitSign (whole ++ '.' :: fraction) = (false, whole ++ '.' :: fraction) := by
    cases whole with
    | nil => exact absurd rfl nonempty
    | cons c rest => exact splitSign_of_isDigit (wholeDigits c List.mem_cons_self) _
  have taken : (whole ++ '.' :: fraction).takeWhile Char.isDigit = whole := by
    rw [List.takeWhile_append_of_pos wholeDigits]
    simp
  have left : (whole ++ '.' :: fraction).dropWhile Char.isDigit = '.' :: fraction := by
    rw [List.dropWhile_append_of_pos wholeDigits]
    simp
  have none : exponentOf? [] = some 0 := rfl
  simp only [ofText?, unsigned, taken, left, List.takeWhile_eq_self_iff.mpr fractionDigits,
    List.dropWhile_eq_nil_iff.mpr fractionDigits, none, Option.map_some, value, Int.zero_sub, exponent]
  simp [nonempty]

end GestureCalculator.Binary64
