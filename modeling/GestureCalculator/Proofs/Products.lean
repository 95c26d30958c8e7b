import GestureCalculator.Proofs.Rounding

/-!
Products of binary64 numbers. The hardware shifts the product of two significands to the right and remembers two
bits of what it drops. This tells enough of a quotient to round it, so the product of two numbers is that of their
sizes, rounded once. Since rounding keeps the order, a part of a whole number has a whole part that is not above the
number.
-/
namespace GestureCalculator.Binary64
open Float.Model Float.Model.UnpackedFloat

/-! ### Shifted mantissas -/

/-- A mantissa with its two further bits tells a quotient: the whole part, whether the rest is a half or more, and
    whether it is something other than nothing and a half. -/
structure Tells (mantissa : ExtendedMantissa) (num den : Nat) : Prop where
  whole : mantissa.mantissa = num / den
  half : mantissa.roundBit = true ↔ den ≤ 2 * (num % den)
  more : mantissa.stickyBit = true ↔ 2 * (num % den) ≠ 0 ∧ 2 * (num % den) ≠ den

theorem tells_exact (n : Nat) : Tells (.ofMantissaAndAccuracy n .exact) n 1 where
  whole := (Nat.div_one n).symm
  half := by simp [ExtendedMantissa.ofMantissaAndAccuracy, Nat.mod_one]
  more := by simp [ExtendedMantissa.ofMantissaAndAccuracy, Nat.mod_one]

/-- Half of the quotient. -/
theorem Tells.shiftRightOne {mantissa : ExtendedMantissa} {num den : Nat} (tells : Tells mantissa num den)
    (positive : 0 < den) : Tells mantissa.shiftRightOne num (den * 2) := by
  have rest := Nat.mod_lt num positive
  have split : num % (den * 2) = num % den + den * (num / den % 2) := Nat.mod_mul
  have even : num / den % 2 = 0 ∨ num / den % 2 = 1 := Nat.mod_two_eq_zero_or_one _
  constructor
  · rw [← Nat.div_div_eq_div_mul, ← tells.whole]
    rfl
  · rw [ExtendedMantissa.shiftRightOne, bne_iff_ne, tells.whole, split]
    rcases even with even | odd
    · rw [even]
      omega
    · rw [odd]
      omega
  · rw [ExtendedMantissa.shiftRightOne, Bool.or_eq_true, tells.half, tells.more, split]
    rcases even with even | odd
    · rw [even]
      omega
    · rw [odd]
      omega

theorem Tells.shiftRight {mantissa : ExtendedMantissa} {num : Nat} (tells : Tells mantissa num 1) (count : Nat) :
    Tells (mantissa >>> count) num (twoTo count) := by
  induction count with
  | zero => exact tells
  | succ count ih => exact ih.shiftRightOne (twoTo_pos count)

/-- The mantissa is rounded as the quotient is. -/
theorem Tells.roundedMantissa {mantissa : ExtendedMantissa} {num den : Nat} (tells : Tells mantissa num den) :
    mantissa.roundedMantissa = roundHalfEven num den := by
  obtain ⟨whole, half, more⟩ := tells
  obtain ⟨mantissa, roundBit, stickyBit⟩ := mantissa
  dsimp only at whole half more
  subst whole
  unfold roundHalfEven
  dsimp only
  cases roundBit with
  | false =>
    have below : 2 * (num % den) < den := by simpa using half
    rw [if_pos below]
    cases stickyBit <;> rfl
  | true =>
    have least : den ≤ 2 * (num % den) := half.mp rfl
    rw [if_neg (by omega)]
    cases stickyBit with
    | false =>
      have exact : ¬ den < 2 * (num % den) := by
        intro beyond
        exact absurd (more.mpr ⟨by omega, by omega⟩) Bool.false_ne_true
      rw [if_neg exact]
      rfl
    | true =>
      have beyond := (more.mp rfl).2
      rw [if_pos (by omega)]
      rfl

/-! ### Rounded mantissas -/

/-- The bits of a mantissa that do not fit in a number. -/
def excess (mantissa : Nat) (exponent : Int) : Nat :=
  (max ((mantissa.log2 : Int) + exponent - 52) (-1074) - exponent).toNat

theorem shiftToTargetExponent_eq (mantissa : Nat) (exponent : Int) :
    shiftToTargetExponent Format.binary64 mantissa exponent .exact =
      (ExtendedMantissa.ofMantissaAndAccuracy mantissa .exact >>> excess mantissa exponent,
        exponent + excess mantissa exponent) := by
  have target : Format.binary64.targetExponent (totalExponent mantissa exponent) =
      max ((mantissa.log2 : Int) + exponent - 52) (-1074) := by
    simp only [Format.targetExponent, totalExponent, Format.mantissaBits, Format.minExponent]
    norm_num
    omega
  rw [shiftToTargetExponent, target]
  rfl

/-- A mantissa that fits keeps all its bits, and one that was rounded up to a further bit loses that one. -/
theorem excess_rounded {mantissa kept : Nat} (bounded : mantissa ≤ 2 ^ 53) :
    excess mantissa (kept - 1074) = if mantissa = 2 ^ 53 then 1 else 0 := by
  unfold excess
  split
  next carried =>
    have log2 : (2 ^ 53 : Nat).log2 = 53 := Nat.log2_two_pow
    rw [carried, log2]
    omega
  next =>
    have log2 : mantissa.log2 ≤ 52 := by
      by_cases zero : mantissa = 0
      · rw [zero]
        decide
      · have := (Nat.log2_lt zero).mpr (show mantissa < 2 ^ 53 by omega)
        omega
    omega

/-- The sign of a number. -/
def signOf (negative : Bool) : Sign := if negative then .negative else .positive

theorem toNat_signOf (negative : Bool) :
    (signOf negative).toBitVec.toNat * 2 ^ 63 = if negative then 2 ^ 63 else 0 := by
  cases negative <;> rfl

theorem signOf_mul (negative negative' : Bool) :
    signOf negative * signOf negative' = signOf (negative != negative') := by
  cases negative <;> cases negative' <;> rfl

/-- The bits of a significand and an exponent. -/
theorem toNat_pack_finite (sign : Sign) {significand exponent : Nat} (positive : 0 < significand)
    (fits : Significand significand exponent) :
    (UnpackedFloat.pack Format.binary64 (.finite sign significand (exponent - 1074) positive)).toNat =
      min (exponent * 2 ^ 52 + significand) infinityBits + sign.toBitVec.toNat * 2 ^ 63 := by
  obtain ⟨bounded, least⟩ := fits
  have biased : ((exponent : Int) - 1074 + Format.binary64.exponentBias +
      Format.binary64.mantissaBitsWithoutImplicit).toNat = exponent + 1 := by
    simp only [Format.exponentBias]
    norm_num
    omega
  rw [infinityBits_eq, UnpackedFloat.pack]
  dsimp only
  rw [biased]
  split
  next beyond =>
    have beyond : 2 ^ 11 ≤ exponent + 1 + 1 := beyond
    have special : (-1#11).toNat = 2047 := rfl
    have none : (0#52).toNat = 0 := rfl
    change (fields sign (-1#11) 0#52).toNat = _
    rw [toNat_fields, special, none]
    generalize sign.toBitVec.toNat = bit
    omega
  next inside =>
    have inside : ¬ 2 ^ 11 ≤ exponent + 1 + 1 := inside
    have fraction : (BitVec.ofNat 52 significand).toNat = significand % 2 ^ 52 := BitVec.toNat_ofNat _ _
    split
    next full =>
      have full : significand.log2 + 1 = 53 := full
      have normal : 2 ^ 52 ≤ significand := (Nat.le_log2 (Nat.ne_of_gt positive)).mp (by omega)
      have field : (BitVec.ofNat 11 (exponent + 1)).toNat = (exponent + 1) % 2 ^ 11 := BitVec.toNat_ofNat _ _
      change (fields sign (BitVec.ofNat 11 (exponent + 1)) (BitVec.ofNat 52 significand)).toNat = _
      rw [toNat_fields, field, fraction]
      clear biased full field fraction
      generalize sign.toBitVec.toNat = bit
      omega
    next short =>
      have short : significand.log2 + 1 ≠ 53 := short
      have subnormal : significand < 2 ^ 52 := by
        have := (Nat.log2_lt (Nat.ne_of_gt positive)).mpr bounded
        exact (Nat.log2_lt (Nat.ne_of_gt positive)).mp (by omega)
      have none : (0#11).toNat = 0 := rfl
      change (fields sign 0#11 (BitVec.ofNat 52 significand)).toNat = _
      rw [toNat_fields, none, fraction]
      generalize sign.toBitVec.toNat = bit
      omega

/-- The bits of a mantissa that was rounded once. -/
theorem toNat_pack_rounded (sign : Sign) {mantissa rounded kept : Nat} {exponent : Int}
    (target : exponent + excess mantissa exponent = kept - 1074)
    (rounds : roundHalfEven mantissa (twoTo (excess mantissa exponent)) = rounded) (bounded : rounded ≤ 2 ^ 53)
    (least : kept = 0 ∨ 2 ^ 52 ≤ rounded) :
    (UnpackedFloat.pack Format.binary64 (roundWithAccuracy Format.binary64 sign mantissa exponent .exact)).toNat =
      min (kept * 2 ^ 52 + rounded) infinityBits + sign.toBitVec.toNat * 2 ^ 63 := by
  have first : (ExtendedMantissa.ofMantissaAndAccuracy mantissa .exact >>> excess mantissa exponent).roundedMantissa =
      rounded := by
    rw [((tells_exact mantissa).shiftRight _).roundedMantissa, rounds]
  have second (count : Nat) :
      (ExtendedMantissa.ofMantissaAndAccuracy rounded .exact >>> count).mantissa = rounded / twoTo count :=
    ((tells_exact rounded).shiftRight count).whole
  rw [roundWithAccuracy, shiftToTargetExponent_eq]
  dsimp only
  rw [first, target, shiftToTargetExponent_eq, excess_rounded bounded]
  dsimp only
  -- The second shift drops something only behind a carry, and then a zero bit: nothing is rounded twice.
  by_cases carried : rounded = 2 ^ 53
  · have half : rounded / twoTo 1 = 2 ^ 52 := by
      rw [carried]
      rfl
    have fits : Significand (2 ^ 52) (kept + 1) := ⟨by decide, .inr le_rfl⟩
    have exponent' : (kept : Int) - 1074 + (1 : Nat) = ((kept + 1 : Nat) : Int) - 1074 := by omega
    simp only [if_pos carried, second, half, exponent']
    have carries : (kept + 1) * 2 ^ 52 + 2 ^ 52 = kept * 2 ^ 52 + 2 ^ 53 := by omega
    rw [dif_neg (by decide), toNat_pack_finite sign _ fits, carried, carries]
  · have whole : rounded / twoTo 0 = rounded := Nat.div_one rounded
    have exponent' : (kept : Int) - 1074 + (0 : Nat) = kept - 1074 := by omega
    simp only [if_neg carried, second, whole, exponent']
    split
    next zero =>
      obtain rfl : kept = 0 := least.resolve_right (by omega)
      have none : (0#11).toNat = 0 ∧ (0#52).toNat = 0 := ⟨rfl, rfl⟩
      change (fields sign 0#11 0#52).toNat = _
      rw [toNat_fields, none.1, none.2, zero, Nat.zero_mul, Nat.zero_add, Nat.zero_min]
      generalize sign.toBitVec.toNat = bit
      omega
    next =>
      rw [toNat_pack_finite sign _ ⟨by omega, least⟩]

/-! ### Products -/

/-- The sign, the exponent and the fraction of a number are those in its bits. -/
theorem fields_of_toBits {x : Float} {sign : Sign} {exponent : BitVec 11} {fraction : BitVec 52}
    (value : x.toBits.toNat = sign.toBitVec.toNat * 2 ^ 63 + exponent.toNat * 2 ^ 52 + fraction.toNat) :
    signOf (isNegative x) = sign ∧ exponentField x = exponent.toNat ∧ fractionField x = fraction.toNat := by
  have := exponent.isLt
  have := fraction.isLt
  refine ⟨?_, ?_, ?_⟩
  · have negative := isNegative_iff x
    rw [value] at negative
    cases sign with
    | negative =>
      have one : (Sign.toBitVec .negative).toNat = 1 := rfl
      rw [one] at negative
      rw [negative.mpr (by omega)]
      rfl
    | positive =>
      have zero : (Sign.toBitVec .positive).toNat = 0 := rfl
      rw [zero] at negative
      have none : isNegative x = false := by
        rw [Bool.eq_false_iff, ne_eq, negative]
        omega
      rw [none]
      rfl
  · rw [exponentField, twoTo_eq, twoTo_eq, value]
    omega
  · rw [fractionField, twoTo_eq, value]
    omega

/-- What the bits of a finite number stand for: a zero, or its sign with its significand and exponent. -/
theorem unpacked_of_isFinite {x : Float} (number : x.isFinite) :
    (steps x = 0 ∧ unpacked x.toBits.toBitVec = .zero (signOf (isNegative x))) ∨
      ∃ significand exponent, ∃ positive : 0 < significand, Significand significand exponent ∧
        steps x = significand * twoTo exponent ∧
        unpacked x.toBits.toBitVec = .finite (signOf (isNegative x)) significand (exponent - 1074) positive := by
  obtain ⟨sign, exponent, fraction, bits, value⟩ := exists_fields x
  have unpacks : x.isFinite = (unpacked x.toBits.toBitVec).isFinite := rfl
  rw [unpacks, bits, isFinite_unpacked] at number
  have := exponent.isLt
  have := fraction.isLt
  obtain ⟨signed, exponentField_eq, fractionField_eq⟩ := fields_of_toBits value
  have bias : (Format.binary64.exponentBias : Int) = 1023 := rfl
  rw [steps, exponentField_eq, fractionField_eq, signed, bits]
  simp only [unpacked, UnpackedFloat.unpack, unpackMantissa_packComponents, unpackExponent_packComponents,
    unpackSign_packComponents, Sign.ofBitVec_toBitVec, if_neg number, bias]
  by_cases least : exponent = 0#11
  · subst least
    have zero : (0#11).toNat = 0 := rfl
    simp only [zero, if_true]
    by_cases none : fraction = 0#52
    · left
      rw [none, dif_pos rfl]
      exact ⟨rfl, rfl⟩
    · right
      have positive : 0 < fraction.toNat := Nat.pos_of_ne_zero fun same => none (BitVec.eq_of_toNat_eq same)
      refine ⟨fraction.toNat, 0, positive, ⟨by omega, .inl rfl⟩, (Nat.mul_one _).symm, ?_⟩
      rw [dif_neg none]
      rfl
  · right
    have nonzero : exponent.toNat ≠ 0 := fun same => least (BitVec.eq_of_toNat_eq same)
    have significand : (1#1 ++ fraction).toNat = 2 ^ 52 + fraction.toNat := by
      rw [BitVec.toNat_append, ← Nat.shiftLeft_add_eq_or_of_lt fraction.isLt]
      rfl
    refine ⟨2 ^ 52 + fraction.toNat, exponent.toNat - 1, by omega, ⟨by omega, .inr (by omega)⟩, ?_, ?_⟩
    · rw [if_neg nonzero]
      rfl
    · rw [if_neg least]
      simp only [UnpackedFloat.finite.injEq]
      exact ⟨trivial, significand, by omega⟩

/-- The product of two significands, rounded as the product of the sizes is. -/
theorem bitsOfSteps_product {mantissa exponent : Nat} (nonzero : mantissa ≠ 0)
    (full : exponent = 0 ∨ 52 ≤ mantissa.log2) : ∃ kept rounded : Nat,
      bitsOfSteps (mantissa * twoTo exponent) unit = min (kept * 2 ^ 52 + rounded) infinityBits ∧
      (exponent - 2148 : Int) + excess mantissa (exponent - 2148) = kept - 1074 ∧
      roundHalfEven mantissa (twoTo (excess mantissa (exponent - 2148))) = rounded ∧ rounded ≤ 2 ^ 53 ∧
      (kept = 0 ∨ 2 ^ 52 ≤ rounded) := by
  generalize dropped : excess mantissa (exponent - 2148) = count
  generalize shift : (mantissa * twoTo exponent / unit).log2 - 52 = kept
  have kept_eq : kept = mantissa.log2 + exponent - 1074 - 52 := by
    rw [← shift, unit, log2_div_twoTo, log2_mul_twoTo nonzero]
  have count_eq : 1074 + kept = count + exponent ∧ mantissa.log2 ≤ 52 + count ∧
      (kept = 0 ∨ mantissa.log2 = 52 + count) := by
    unfold excess at dropped
    omega
  obtain ⟨scale, few, exact⟩ := count_eq
  refine ⟨kept, _, ?_, by omega, rfl, roundHalfEven_dropped_le few, ?_⟩
  · have scaled : unit * twoTo kept = twoTo count * twoTo exponent := by
      rw [unit, ← twoTo_add, ← twoTo_add, scale]
    rw [bitsOfSteps, shift, scaled, roundHalfEven_mul_right _ _ (twoTo_pos exponent)]
    rfl
  · exact exact.imp_right (le_roundHalfEven_dropped nonzero)

/-- The product of two numbers that are not zero: one of their significands is full, unless both are below the normal
    ones, so the product of the significands has bits enough. -/
theorem toNat_pack_mul {sign sign' : Sign} {m m' k k' : Nat} (positive : 0 < m) (positive' : 0 < m')
    (fits : Significand m k) (fits' : Significand m' k') :
    (UnpackedFloat.pack Format.binary64 (UnpackedFloat.mul Format.binary64 (.finite sign m (k - 1074) positive)
        (.finite sign' m' (k' - 1074) positive'))).toNat =
      bitsOfSteps (m * twoTo k * (m' * twoTo k')) unit + (sign * sign').toBitVec.toNat * 2 ^ 63 := by
  have nonzero : m * m' ≠ 0 := Nat.mul_ne_zero (Nat.ne_of_gt positive) (Nat.ne_of_gt positive')
  have full : k + k' = 0 ∨ 52 ≤ (m * m').log2 := by
    rcases fits.2 with rfl | large
    · rcases fits'.2 with rfl | large'
      · exact .inl rfl
      · exact .inr ((Nat.le_log2 nonzero).mpr (large'.trans (Nat.le_mul_of_pos_left m' positive)))
    · exact .inr ((Nat.le_log2 nonzero).mpr (large.trans (Nat.le_mul_of_pos_right m positive')))
  obtain ⟨kept, rounded, bits, target, rounds, few, enough⟩ := bitsOfSteps_product nonzero full
  have sizes : m * twoTo k * (m' * twoTo k') = m * m' * twoTo (k + k') := by
    rw [twoTo_add, Nat.mul_mul_mul_comm]
  have exponents : (k - 1074 : Int) + (k' - 1074) = ((k + k' : Nat) : Int) - 2148 := by omega
  rw [sizes, bits, ← toNat_pack_rounded _ target rounds few enough, ← exponents]
  rfl

/-- The hardware's product of two numbers is the product of their sizes, rounded once, with the sign of the product. -/
theorem mul_eq_ofSteps {x y : Float} (number : x.isFinite) (number' : y.isFinite) :
    x * y = ofSteps (isNegative x != isNegative y) (steps x * steps y) unit := by
  apply toBits_injective
  have multiplies : (x * y).toBits.toNat = (UnpackedFloat.pack Format.binary64
    (UnpackedFloat.mul Format.binary64 (unpacked x.toBits.toBitVec) (unpacked y.toBits.toBitVec))).toNat := rfl
  have zero (sign : Sign) : (UnpackedFloat.pack Format.binary64 (.zero sign)).toNat =
      bitsOfSteps 0 unit + sign.toBitVec.toNat * 2 ^ 63 := by
    rw [bitsOfSteps_zero]
    cases sign <;> rfl
  rw [multiplies, toBits_ofSteps, ← toNat_signOf, ← signOf_mul]
  -- A zero has no significand to multiply, so it is apart from the other numbers.
  rcases unpacked_of_isFinite number with ⟨none, unpacks⟩ | ⟨m, k, positive, fits, size, unpacks⟩
  · rw [none, Nat.zero_mul, ← zero, unpacks]
    rcases unpacked_of_isFinite number' with ⟨_, unpacks'⟩ | ⟨_, _, _, _, _, unpacks'⟩
    · rw [unpacks']
      rfl
    · rw [unpacks']
      rfl
  · rcases unpacked_of_isFinite number' with ⟨none', unpacks'⟩ | ⟨m', k', positive', fits', size', unpacks'⟩
    · rw [none', Nat.mul_zero, ← zero, unpacks, unpacks']
      rfl
    · rw [unpacks, unpacks', toNat_pack_mul positive positive' fits fits', size, size']

/-! ### Parts of whole numbers -/

/-- What a number above zero and not above one stands for is between what zero and one stand for. -/
theorem unpacked_of_part {ratio : Float} (positive : 0 < ratio) (most : ratio ≤ 1) :
    (UnpackedFloat.zero .positive).lt (unpacked ratio.toBits.toBitVec) ∧
      (unpacked ratio.toBits.toBitVec).le (.finite .positive (2 ^ 52) (-52) (by decide)) := by
  have zero : unpacked (0 : Float).toBits.toBitVec = .zero .positive := rfl
  have one : unpacked (1 : Float).toBits.toBitVec = .finite .positive (2 ^ 52) (-52) (by decide) := rfl
  rw [← zero, ← one]
  exact ⟨of_decide_eq_true positive, of_decide_eq_true most⟩

theorem isFinite_of_part {ratio : Float} (positive : 0 < ratio) (most : ratio ≤ 1) : ratio.isFinite := by
  obtain ⟨above, below⟩ := unpacked_of_part positive most
  have unpacks : ratio.isFinite = (unpacked ratio.toBits.toBitVec).isFinite := rfl
  rw [unpacks]
  cases value : unpacked ratio.toBits.toBitVec with
  | infinity sign =>
    rw [value] at above below
    cases sign with
    | negative => cases above
    | positive => cases below
  | notANumber =>
    rw [value] at above
    cases above
  | zero => rfl
  | finite => rfl

/-- Of two numbers that are not negative, the one with the less exponent is less, and then the one with the less
    significand. -/
theorem exponent_lt_or_of_le {m m' : Nat} {e e' : Int} {positive : 0 < m} {positive' : 0 < m'}
    (least : (UnpackedFloat.finite .positive m e positive).le (.finite .positive m' e' positive')) :
    e < e' ∨ e = e' ∧ m ≤ m' := by
  change ((compare e e').then (compare m m')).isLE = true at least
  rcases lt_trichotomy e e' with less | same | more
  · exact .inl less
  · rw [compare_eq_iff_eq.mpr same] at least
    exact .inr ⟨same, compare_le_iff_le.mp (Ordering.isLE_iff_ne_gt.mp least)⟩
  · rw [compare_gt_iff_gt.mpr more] at least
    cases least

/-- A number above zero and not above one has no sign, and it is no more steps than one. -/
theorem steps_le_unit {ratio : Float} (positive : 0 < ratio) (most : ratio ≤ 1) :
    isNegative ratio = false ∧ steps ratio ≤ unit := by
  obtain ⟨above, below⟩ := unpacked_of_part positive most
  rcases unpacked_of_isFinite (isFinite_of_part positive most) with
    ⟨_, value⟩ | ⟨significand, exponent, _, ⟨bounded, _⟩, size, value⟩
  · rw [value] at above
    cases above
  rw [value] at above below
  cases sign : isNegative ratio with
  | true =>
    rw [sign] at above
    cases above
  | false =>
    rw [sign] at below
    refine ⟨rfl, ?_⟩
    rw [size]
    rcases exponent_lt_or_of_le below with small | ⟨same, least⟩
    · calc significand * twoTo exponent ≤ twoTo 53 * twoTo exponent := Nat.mul_le_mul_right _ (Nat.le_of_lt bounded)
        _ = twoTo (53 + exponent) := (twoTo_add _ _).symm
        _ ≤ unit := Nat.le_of_dvd unit_pos (twoTo_dvd (by omega))
    · obtain rfl : exponent = 1022 := by omega
      calc significand * twoTo 1022 ≤ twoTo 52 * twoTo 1022 := Nat.mul_le_mul_right _ least
        _ = unit := (twoTo_add 52 1022).symm

/-- Whole numbers of 53 bits are kept. -/
theorem steps_ofInt {n : Nat} (small : n < 2 ^ 53) : (ofInt n).isFinite ∧ steps (ofInt n) = n * unit := by
  have number : (ofInt n).isFinite := isFinite_ofInt (by omega)
  refine ⟨number, ?_⟩
  have bits : (ofInt n).toBits.toNat % 2 ^ 63 = bitsOfSteps (n * unit) 1 := by
    rw [ofInt, ofRatio, sizeBits_ofSteps, Int.natAbs_natCast]
  rcases Nat.eq_zero_or_pos n with rfl | positive
  · rw [Nat.zero_mul, bitsOfSteps_zero] at bits
    rw [@steps_of_bits _ 0 0 number bits (by decide) (.inl rfl), Nat.zero_mul, Nat.zero_mul]
  · have log2 : n.log2 ≤ 52 := Nat.le_of_lt_succ ((Nat.log2_lt (Nat.ne_of_gt positive)).mpr small)
    have size : n * unit = n * twoTo (52 - n.log2) * twoTo (1022 + n.log2) := by
      rw [Nat.mul_assoc, ← twoTo_add, unit]
      congr 2
      omega
    have fits : Significand (n * twoTo (52 - n.log2)) (1022 + n.log2) := by
      have full : (n * twoTo (52 - n.log2)).log2 = 52 := by
        rw [log2_mul_twoTo (Nat.ne_of_gt positive)]
        omega
      obtain ⟨least, bounded⟩ := (Nat.log2_eq_iff (Nat.mul_ne_zero (Nat.ne_of_gt positive)
        (Nat.ne_of_gt (twoTo_pos _)))).mp full
      exact ⟨bounded, .inr least⟩
    rw [size, bitsOfSteps_of_significand fits] at bits
    have finite := (isFinite_iff _).mp number
    rw [size]
    exact steps_of_bits number (by omega) (Nat.le_of_lt fits.1) fits.2

/-- A part of a whole number is finite, and its whole part is between zero and the number: the product is not above
    it, and rounding does not take it there. -/
theorem wholePart_part {n : Nat} {ratio : Float} (small : n < 2 ^ 53) (positive : 0 < ratio) (most : ratio ≤ 1) :
    (ofInt n * ratio).isFinite ∧ 0 ≤ wholePart (ofInt n * ratio) ∧ wholePart (ofInt n * ratio) ≤ n := by
  obtain ⟨number, size⟩ := steps_ofInt small
  obtain ⟨unsigned', least⟩ := steps_le_unit positive most
  have number' := isFinite_of_part positive most
  have unsigned : isNegative (ofInt n) = false := by
    rw [ofInt, ofRatio, isNegative_ofSteps, decide_eq_false_iff_not]
    omega
  have product : ofInt n * ratio = ofSteps false (n * steps ratio * unit) (1 * unit) := by
    rw [mul_eq_ofSteps number number', unsigned, unsigned', size, Nat.mul_right_comm, Nat.one_mul,
      bne_self_eq_false]
  have bits : (ofInt n * ratio).toBits.toNat % 2 ^ 63 = bitsOfSteps (n * steps ratio) 1 := by
    rw [product, sizeBits_ofSteps, bitsOfSteps_mul_right _ _ unit_pos]
  have below : (ofInt n * ratio).toBits.toNat % 2 ^ 63 ≤ (ofInt n).toBits.toNat % 2 ^ 63 := by
    rw [bits, ← bitsOfSteps_steps number, size]
    exact bitsOfSteps_mono (Nat.mul_le_mul_left n least)
  have finite : (ofInt n * ratio).isFinite := by
    rw [isFinite_iff] at number ⊢
    exact below.trans_lt number
  have parts : steps (ofInt n * ratio) / unit ≤ n := by
    apply Nat.div_le_of_le_mul
    rw [Nat.mul_comm, ← size]
    exact steps_mono finite number below
  have whole : wholePart (ofInt n * ratio) = (steps (ofInt n * ratio) / unit : Nat) := by
    have sign : isNegative (ofInt n * ratio) = false := by rw [product, isNegative_ofSteps]
    rw [wholePart, sign, Text.signed, if_neg Bool.false_ne_true]
  rw [whole]
  exact ⟨finite, Int.natCast_nonneg _, Int.ofNat_le.mpr parts⟩

end GestureCalculator.Binary64
