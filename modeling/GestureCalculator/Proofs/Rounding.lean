import GestureCalculator.Proofs.Binary64Bits

/-!
Rounding to binary64 numbers. A size in steps is a significand of 53 bits times a power of two, and rounding
keeps every such size and the order of sizes; whole numbers stay whole.
-/
namespace GestureCalculator.Binary64

theorem twoTo_pos (n : Nat) : 0 < twoTo n := Nat.two_pow_pos n

theorem twoTo_add (m n : Nat) : twoTo (m + n) = twoTo m * twoTo n := Nat.pow_add 2 m n

theorem twoTo_dvd {m n : Nat} (least : m ≤ n) : twoTo m ∣ twoTo n := Nat.pow_dvd_pow 2 least

theorem le_log2_of_twoTo_le {n exponent : Nat} (nonzero : n ≠ 0) (least : twoTo exponent ≤ n) : exponent ≤ n.log2 :=
  (Nat.le_log2 nonzero).mpr least

theorem log2_lt_of_lt_twoTo {n exponent : Nat} (nonzero : n ≠ 0) (bounded : n < twoTo exponent) :
    n.log2 < exponent :=
  (Nat.log2_lt nonzero).mpr bounded

theorem log2_mul_twoTo {n : Nat} (nonzero : n ≠ 0) (exponent : Nat) : (n * twoTo exponent).log2 = n.log2 + exponent := by
  have positive := twoTo_pos exponent
  rw [Nat.log2_eq_iff (Nat.mul_ne_zero nonzero (Nat.ne_of_gt positive)), ← twoTo_eq, ← twoTo_eq, Nat.add_right_comm,
    twoTo_add, twoTo_add]
  exact ⟨Nat.mul_le_mul_right _ (Nat.log2_self_le nonzero), Nat.mul_lt_mul_of_pos_right Nat.lt_log2_self positive⟩

theorem log2_div_twoTo (n exponent : Nat) : (n / twoTo exponent).log2 = n.log2 - exponent := by
  rw [Nat.log2_eq_log_two, Nat.log2_eq_log_two]
  exact Nat.log_div_base_pow 2 n exponent

theorem unit_pos : 0 < unit := twoTo_pos 1074

/-! ### Quotients -/

theorem roundHalfEven_mul_right (num den : Nat) {factor : Nat} (positive : 0 < factor) :
    roundHalfEven (num * factor) (den * factor) = roundHalfEven num den := by
  simp only [roundHalfEven, Nat.mul_div_mul_right _ _ positive, Nat.mul_mod_mul_right, ← Nat.mul_assoc,
    Nat.mul_lt_mul_right positive]

theorem roundHalfEven_mul_self (quotient : Nat) {den : Nat} (positive : 0 < den) :
    roundHalfEven (quotient * den) den = quotient := by
  simp only [roundHalfEven, Nat.mul_mod_left, Nat.mul_div_cancel _ positive, Nat.mul_zero, if_pos positive]

theorem le_roundHalfEven (num den : Nat) : num / den ≤ roundHalfEven num den := by
  unfold roundHalfEven
  dsimp only
  split
  · rfl
  · split <;> omega

theorem roundHalfEven_le (num den : Nat) : roundHalfEven num den ≤ num / den + 1 := by
  unfold roundHalfEven
  dsimp only
  split
  · omega
  · split <;> omega

/-! ### Sizes -/

theorem bitsOfSteps_le (num den : Nat) : bitsOfSteps num den ≤ infinityBits := Nat.min_le_right _ _

theorem bitsOfSteps_mul_right (num den : Nat) {factor : Nat} (positive : 0 < factor) :
    bitsOfSteps (num * factor) (den * factor) = bitsOfSteps num den := by
  simp only [bitsOfSteps, Nat.mul_div_mul_right _ _ positive, Nat.mul_right_comm den factor,
    roundHalfEven_mul_right _ _ positive]

theorem bitsOfSteps_zero (den : Nat) : bitsOfSteps 0 den = 0 := by
  simp [bitsOfSteps, roundHalfEven]

/-- The significand and the exponent of a size: 53 bits, the first of which is set unless the exponent is the
    least one. -/
def Significand (significand exponent : Nat) : Prop :=
  significand < 2 ^ 53 ∧ (exponent = 0 ∨ 2 ^ 52 ≤ significand)

/-- A finite number is a significand times a power of two, and its bits hold both. -/
theorem exists_significand {x : Float} (number : x.isFinite) : ∃ significand exponent,
    Significand significand exponent ∧ steps x = significand * twoTo exponent ∧
      x.toBits.toNat % 2 ^ 63 = exponent * 2 ^ 52 + significand := by
  have bounded := (isFinite_iff x).mp number
  rw [infinityBits_eq] at bounded
  have exponentField_eq : exponentField x = x.toBits.toNat / 2 ^ 52 % 2 ^ 11 := rfl
  have fractionField_eq : fractionField x = x.toBits.toNat % 2 ^ 52 := rfl
  by_cases least : exponentField x = 0
  · refine ⟨fractionField x, 0, ⟨by omega, .inl rfl⟩, ?_, by omega⟩
    rw [steps, if_pos least, twoTo_eq, pow_zero, mul_one]
  · refine ⟨2 ^ 52 + fractionField x, exponentField x - 1, ⟨by omega, .inr (by omega)⟩, ?_, by omega⟩
    rw [steps, if_neg least]
    rfl

/-- A size that is a significand times a power of two is kept. -/
theorem bitsOfSteps_of_significand {significand exponent : Nat} (fits : Significand significand exponent) :
    bitsOfSteps (significand * twoTo exponent) 1 = min (exponent * 2 ^ 52 + significand) infinityBits := by
  obtain ⟨bounded, least⟩ := fits
  have dropped : (significand * twoTo exponent).log2 - 52 = exponent := by
    rcases least with rfl | full
    · rw [twoTo_eq, pow_zero, mul_one]
      by_cases zero : significand = 0
      · rw [zero]
        rfl
      · have := (Nat.log2_lt zero).mpr bounded
        omega
    · have log2 : significand.log2 = 52 := (Nat.log2_eq_iff (by omega)).mpr ⟨full, bounded⟩
      rw [log2_mul_twoTo (by omega), log2]
      omega
  rw [bitsOfSteps, Nat.div_one]
  simp only [dropped, Nat.one_mul]
  rw [roundHalfEven_mul_self _ (twoTo_pos exponent)]
  rfl

theorem toBits_ofSteps (negative : Bool) (num den : Nat) :
    (ofSteps negative num den).toBits.toNat = bitsOfSteps num den + if negative then 2 ^ 63 else 0 :=
  toBits_ofBits (bitsOfSteps_le num den)

theorem isNegative_ofSteps (negative : Bool) (num den : Nat) : isNegative (ofSteps negative num den) = negative := by
  have bounded := bitsOfSteps_le num den
  rw [infinityBits_eq] at bounded
  rw [Bool.eq_iff_iff, isNegative_iff, toBits_ofSteps]
  cases negative <;> simp
  omega

theorem sizeBits_ofSteps (negative : Bool) (num den : Nat) :
    (ofSteps negative num den).toBits.toNat % 2 ^ 63 = bitsOfSteps num den := by
  have bounded := bitsOfSteps_le num den
  rw [infinityBits_eq] at bounded
  rw [toBits_ofSteps]
  cases negative <;> simp <;> omega

theorem isFinite_ofSteps_iff (negative : Bool) (num den : Nat) :
    (ofSteps negative num den).isFinite ↔ bitsOfSteps num den < infinityBits := by
  rw [isFinite_iff, sizeBits_ofSteps]

theorem bitsOfSteps_steps {x : Float} (number : x.isFinite) : bitsOfSteps (steps x) 1 = x.toBits.toNat % 2 ^ 63 := by
  obtain ⟨significand, exponent, fits, size, bits⟩ := exists_significand number
  have bounded := (isFinite_iff x).mp number
  rw [size, bitsOfSteps_of_significand fits, bits]
  omega

/-- The number that has the size and the sign of a finite one is that one. -/
theorem ofSteps_steps {x : Float} (number : x.isFinite) : ofSteps (isNegative x) (steps x) 1 = x := by
  apply toBits_injective
  rw [toBits_ofSteps, bitsOfSteps_steps number, ← toBits_eq]

theorem neg_ofSteps {num den : Nat} (number : (ofSteps false num den).isFinite) :
    -ofSteps false num den = ofSteps true num den := by
  apply toBits_injective
  rw [toBits_neg number, isNegative_ofSteps, sizeBits_ofSteps, toBits_ofSteps]
  rfl

/-! ### Whole numbers -/

/-- The size of a number whose bits are an exponent and a significand that may have been rounded up to the
    next power of two. -/
theorem steps_of_bits {x : Float} {significand exponent : Nat} (number : x.isFinite)
    (bits : x.toBits.toNat % 2 ^ 63 = exponent * 2 ^ 52 + significand) (bounded : significand ≤ 2 ^ 53)
    (least : exponent = 0 ∨ 2 ^ 52 ≤ significand) : steps x = significand * twoTo exponent := by
  obtain ⟨significand', exponent', ⟨bounded', least'⟩, size, bits'⟩ := exists_significand number
  rw [size]
  by_cases carried : significand = 2 ^ 53
  · obtain ⟨rfl, rfl⟩ : significand' = 2 ^ 52 ∧ exponent' = exponent + 1 := by omega
    rw [carried, twoTo_add, mul_comm (twoTo exponent), ← mul_assoc]
    rfl
  · obtain ⟨rfl, rfl⟩ : significand' = significand ∧ exponent' = exponent := by omega
    rfl

/-- With so many bits dropped that 53 are left at most, rounding leaves no more, or the next power of two. -/
theorem roundHalfEven_dropped_le {whole dropped : Nat} (few : whole.log2 ≤ 52 + dropped) :
    roundHalfEven whole (twoTo dropped) ≤ 2 ^ 53 := by
  have below : whole / twoTo dropped < 2 ^ 53 := by
    rw [Nat.div_lt_iff_lt_mul (twoTo_pos dropped), ← twoTo_eq 53, ← twoTo_add]
    calc whole < 2 ^ (whole.log2 + 1) := Nat.lt_log2_self
      _ ≤ twoTo (53 + dropped) := Nat.pow_le_pow_right (by decide) (by omega)
  have := roundHalfEven_le whole (twoTo dropped)
  omega

/-- If 53 bits are left, they stay so many. -/
theorem le_roundHalfEven_dropped {whole dropped : Nat} (nonzero : whole ≠ 0) (full : whole.log2 = 52 + dropped) :
    2 ^ 52 ≤ roundHalfEven whole (twoTo dropped) := by
  have above : 2 ^ 52 ≤ whole / twoTo dropped := by
    rw [Nat.le_div_iff_mul_le (twoTo_pos dropped), ← twoTo_eq 52, ← twoTo_add, ← full]
    exact Nat.log2_self_le nonzero
  exact above.trans (le_roundHalfEven whole (twoTo dropped))

/-- If bits behind the first 53 are dropped at all, 53 are left. -/
theorem le_roundHalfEven_log2 (whole : Nat) :
    whole.log2 - 52 = 0 ∨ 2 ^ 52 ≤ roundHalfEven whole (twoTo (whole.log2 - 52)) := by
  by_cases none : whole.log2 - 52 = 0
  · exact .inl none
  · have nonzero : whole ≠ 0 := by
      rintro rfl
      rw [Nat.log2_zero] at none
      omega
    exact .inr (le_roundHalfEven_dropped nonzero (by omega))

/-- Sizes far below the greatest one do not become infinite. -/
theorem bitsOfSteps_lt {whole : Nat} (small : whole.log2 < 2096) : bitsOfSteps whole 1 < infinityBits := by
  have bounded := @roundHalfEven_dropped_le whole (whole.log2 - 52) (by omega)
  rw [infinityBits_eq]
  simp only [bitsOfSteps, Nat.div_one, Nat.one_mul, twoTo_eq] at bounded ⊢
  omega

/-- Rounding makes no fraction where there was none. -/
theorem unit_dvd_steps {x : Float} {n : Nat} (number : x.isFinite)
    (bits : x.toBits.toNat % 2 ^ 63 = bitsOfSteps (n * unit) 1) : unit ∣ steps x := by
  have bounded := (isFinite_iff x).mp number
  generalize size : n * unit = whole at bits
  have dvd : unit ∣ whole := ⟨n, by rw [← size, mul_comm]⟩
  generalize shift : whole.log2 - 52 = dropped
  have rounded : steps x = roundHalfEven whole (twoTo dropped) * twoTo dropped := by
    apply steps_of_bits number
    · rw [bits] at bounded ⊢
      simp only [bitsOfSteps, Nat.div_one, shift, Nat.one_mul, twoTo_eq] at bounded ⊢
      omega
    · exact roundHalfEven_dropped_le (by omega)
    · exact shift ▸ le_roundHalfEven_log2 whole
  rw [rounded]
  -- If no whole unit is dropped, all dropped bits are zeros already; otherwise whole units are left.
  by_cases fine : dropped ≤ 1074
  · obtain ⟨quotient, exact⟩ : twoTo dropped ∣ whole := (twoTo_dvd fine).trans dvd
    rw [exact, mul_comm (twoTo dropped), roundHalfEven_mul_self _ (twoTo_pos dropped), mul_comm, ← exact]
    exact dvd
  · exact (twoTo_dvd (by omega)).trans (Nat.dvd_mul_left _ _)

/-! ### Order -/

theorem roundHalfEven_mono {num num' : Nat} (den : Nat) (ordered : num ≤ num') :
    roundHalfEven num den ≤ roundHalfEven num' den := by
  have quotients : num / den ≤ num' / den := Nat.div_le_div_right ordered
  rcases Nat.lt_or_eq_of_le quotients with apart | same
  · calc roundHalfEven num den ≤ num / den + 1 := roundHalfEven_le num den
      _ ≤ num' / den := apart
      _ ≤ roundHalfEven num' den := le_roundHalfEven num' den
  · have rests : num % den ≤ num' % den := by
      have division := Nat.div_add_mod num den
      have division' := Nat.div_add_mod num' den
      rw [← same] at division'
      omega
    unfold roundHalfEven
    rw [← same]
    dsimp only
    split_ifs <;> omega

/-- A greater size has no smaller bits. -/
theorem bitsOfSteps_mono {whole whole' : Nat} (ordered : whole ≤ whole') : bitsOfSteps whole 1 ≤ bitsOfSteps whole' 1 := by
  have logs : whole.log2 ≤ whole'.log2 := by
    rw [Nat.log2_eq_log_two, Nat.log2_eq_log_two]
    exact Nat.log_mono_right ordered
  simp only [bitsOfSteps, Nat.div_one, Nat.one_mul]
  apply min_le_min_right
  rcases Nat.lt_or_eq_of_le (Nat.sub_le_sub_right logs 52) with apart | same
  · -- The first size is rounded up to the next power of two at most, which the second one has reached.
    have bounded := @roundHalfEven_dropped_le whole (whole.log2 - 52) (by omega)
    have least := (le_roundHalfEven_log2 whole').resolve_left (by omega)
    have step := Nat.mul_le_mul_right (twoTo 52) (Nat.succ_le_of_lt apart)
    rw [Nat.succ_mul] at step
    rw [twoTo_eq 52] at step ⊢
    omega
  · rw [← same]
    exact Nat.add_le_add_left (roundHalfEven_mono _ ordered) _

/-- A number with greater bits has no smaller size. -/
theorem steps_mono {x y : Float} (number : x.isFinite) (number' : y.isFinite)
    (ordered : x.toBits.toNat % 2 ^ 63 ≤ y.toBits.toNat % 2 ^ 63) : steps x ≤ steps y := by
  obtain ⟨significand, exponent, ⟨bounded, least⟩, size, bits⟩ := exists_significand number
  obtain ⟨significand', exponent', ⟨bounded', least'⟩, size', bits'⟩ := exists_significand number'
  rw [size, size']
  rcases Nat.lt_trichotomy exponent exponent' with below | rfl | above
  · calc significand * twoTo exponent ≤ 2 ^ 53 * twoTo exponent := Nat.mul_le_mul_right _ (Nat.le_of_lt bounded)
      _ = 2 ^ 52 * twoTo (exponent + 1) := by rw [Nat.add_comm, twoTo_add, ← Nat.mul_assoc]; rfl
      _ ≤ 2 ^ 52 * twoTo exponent' := Nat.mul_le_mul_left _ (Nat.le_of_dvd (twoTo_pos _) (twoTo_dvd below))
      _ ≤ significand' * twoTo exponent' := Nat.mul_le_mul_right _ (by omega)
  · exact Nat.mul_le_mul_right _ (by omega)
  · omega

/-! ### Whole parts -/

/-- A number without a fraction is equal to its whole part; they are the same but for the sign of zero. -/
theorem ofInt_wholePart {x : Float} (whole : isWhole x) : (ofInt (wholePart x) == x) = true := by
  obtain ⟨number, rest⟩ : x.isFinite ∧ steps x % unit = 0 := by simpa [isWhole] using whole
  have size : (wholePart x).natAbs * unit = steps x := by
    rw [wholePart, Text.natAbs_signed, Nat.div_mul_cancel (Nat.dvd_of_mod_eq_zero rest)]
  rw [ofInt, ofRatio, size]
  by_cases zero : steps x = 0
  · have none : bitsOfSteps 0 1 = 0 := rfl
    apply beq_zero
    · rw [sizeBits_ofSteps, zero, none]
    · rw [← bitsOfSteps_steps number, zero, none]
  · have positive : 0 < steps x / unit :=
      Nat.div_pos (Nat.le_of_dvd (Nat.pos_of_ne_zero zero) (Nat.dvd_of_mod_eq_zero rest)) unit_pos
    have sign : decide (wholePart x < 0) = isNegative x := by
      rw [Bool.eq_iff_iff, decide_eq_true_iff, wholePart, Text.signed_neg_iff positive]
    rw [sign, ofSteps_steps number]
    exact beq_self number

/-- Whole numbers of 128 bits are not rounded to infinity. -/
theorem isFinite_ofInt {n : Int} (small : n.natAbs < 2 ^ 128) : (ofInt n).isFinite := by
  rw [ofInt, ofRatio, isFinite_ofSteps_iff]
  apply bitsOfSteps_lt
  by_cases zero : n.natAbs * unit = 0
  · rw [zero]
    decide
  · have bounded : n.natAbs * unit < twoTo 2096 :=
      calc n.natAbs * unit < twoTo 128 * unit := Nat.mul_lt_mul_of_pos_right small unit_pos
        _ = twoTo (128 + 1074) := by rw [twoTo_add, unit]
        _ ≤ twoTo 2096 := Nat.le_of_dvd (twoTo_pos _) (twoTo_dvd (by decide))
    exact log2_lt_of_lt_twoTo zero bounded

end GestureCalculator.Binary64
