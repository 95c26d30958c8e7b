import GestureCalculator.Binary64.Decimal
import Mathlib

/-!
The bits of binary64 numbers. A number is the same as its bits, apart from the many bit patterns of what is
no number; its sign is one bit, and negation changes no other.
-/
namespace GestureCalculator.Binary64
open Float.Model Float.Model.UnpackedFloat

theorem twoTo_eq (n : Nat) : twoTo n = 2 ^ n := rfl

/-! ### Bit patterns -/

/-- The three fields of a bit pattern. -/
abbrev fields (sign : Sign) (exponent : BitVec 11) (fraction : BitVec 52) : BitVec 64 :=
  packComponents Format.binary64 sign exponent fraction

/-- What a bit pattern stands for. -/
abbrev unpacked (bits : BitVec 64) : UnpackedFloat := UnpackedFloat.unpack Format.binary64 bits

theorem toNat_fields (sign : Sign) (exponent : BitVec 11) (fraction : BitVec 52) :
    (fields sign exponent fraction).toNat =
      sign.toBitVec.toNat * 2 ^ 63 + exponent.toNat * 2 ^ 52 + fraction.toNat := by
  have upper : (sign.toBitVec ++ exponent).toNat = sign.toBitVec.toNat * 2 ^ 11 + exponent.toNat := by
    rw [BitVec.toNat_append, ← Nat.shiftLeft_add_eq_or_of_lt exponent.isLt, Nat.shiftLeft_eq]
  rw [fields, packComponents, BitVec.toNat_append, ← Nat.shiftLeft_add_eq_or_of_lt fraction.isLt,
    Nat.shiftLeft_eq, upper]
  ring

theorem toNat_unpackExponent (bits : BitVec 64) :
    (@unpackExponent Format.binary64 bits).toNat = bits.toNat / 2 ^ 52 % 2 ^ 11 := by
  simp [unpackExponent, Nat.shiftRight_eq_div_pow]

theorem toNat_unpackMantissa (bits : BitVec 64) :
    (@unpackMantissa Format.binary64 bits).toNat = bits.toNat % 2 ^ 52 := by
  simp [unpackMantissa]

/-- Packing gives the bits back, unless they are of no number. -/
theorem pack_unpacked {bits : BitVec 64}
    (number : bits.toNat / 2 ^ 52 % 2 ^ 11 = 2047 → bits.toNat % 2 ^ 52 = 0) :
    UnpackedFloat.pack Format.binary64 (unpacked bits) = bits := by
  have named : ¬ @isNaNBits Format.binary64 bits := by
    simp only [isNaNBits, decide_eq_true_eq, not_and, not_not]
    intro special
    have exponent := congrArg BitVec.toNat special
    rw [toNat_unpackExponent] at exponent
    apply BitVec.eq_of_toNat_eq
    rw [toNat_unpackMantissa]
    exact number exponent
  rw [pack_unpack, if_neg named]

/-- Negation changes the sign alone. -/
theorem neg_unpacked (sign : Sign) (exponent : BitVec 11) (fraction : BitVec 52) :
    (unpacked (fields sign exponent fraction)).neg = unpacked (fields (-sign) exponent fraction) := by
  simp only [unpacked, UnpackedFloat.unpack, unpackMantissa_packComponents, unpackExponent_packComponents,
    unpackSign_packComponents, Sign.ofBitVec_toBitVec]
  split
  · split <;> rfl
  · split
    · split <;> rfl
    · rfl

theorem isFinite_unpacked (sign : Sign) (exponent : BitVec 11) (fraction : BitVec 52) :
    (unpacked (fields sign exponent fraction)).isFinite ↔ exponent ≠ -1#11 := by
  simp only [unpacked, UnpackedFloat.unpack, unpackMantissa_packComponents, unpackExponent_packComponents]
  by_cases special : exponent = -1#11
  · rw [if_pos special]
    split <;> simp [UnpackedFloat.isFinite, special]
  · rw [if_neg special]
    refine iff_of_true ?_ special
    split
    · split <;> rfl
    · rfl

/-! ### Numbers and their bits -/

theorem infinityBits_eq : infinityBits = 2047 * 2 ^ 52 := rfl

/-- Numbers with the same bits are the same. -/
theorem toBits_injective {x y : Float} (same : x.toBits.toNat = y.toBits.toNat) : x = y :=
  Float.toBits_inj.mp (UInt64.toNat_inj.mp same)

/-- The sign of a number as a bit. -/
theorem isNegative_iff (x : Float) : isNegative x = true ↔ 2 ^ 63 ≤ x.toBits.toNat :=
  decide_eq_true_iff

theorem toBits_lt (x : Float) : x.toBits.toNat < 2 ^ 64 := x.toBits.toNat_lt

/-- The sign and the bits below it make all bits. -/
theorem toBits_eq (x : Float) :
    x.toBits.toNat = x.toBits.toNat % 2 ^ 63 + if isNegative x then 2 ^ 63 else 0 := by
  have bound := toBits_lt x
  split
  next negative =>
    rw [isNegative_iff] at negative
    omega
  next positive =>
    rw [isNegative_iff] at positive
    omega

/-- Bits up to those of infinity are kept. -/
theorem toBits_ofBits {size : Nat} {negative : Bool} (bounded : size ≤ infinityBits) :
    (Float.ofBits (UInt64.ofNat (size + if negative then 2 ^ 63 else 0))).toBits.toNat =
      size + if negative then 2 ^ 63 else 0 := by
  rw [infinityBits_eq] at bounded
  generalize whole : (size + if negative then 2 ^ 63 else 0) = bits
  have exponent : bits / 2 ^ 52 % 2 ^ 11 = size / 2 ^ 52 ∧ bits % 2 ^ 52 = size % 2 ^ 52 ∧ bits < 2 ^ 64 := by
    cases negative
    · simp only [Bool.false_eq_true, if_false] at whole
      omega
    · simp only [if_true] at whole
      omega
  have kept : (BitVec.ofNat 64 bits).toNat = bits := by
    rw [BitVec.toNat_ofNat]
    omega
  change (UnpackedFloat.pack Format.binary64 (unpacked (BitVec.ofNat 64 bits))).toNat = bits
  rw [pack_unpacked, kept]
  rw [kept]
  omega

/-- The bits of a number are made of a sign, an exponent and a fraction. -/
theorem exists_fields (x : Float) : ∃ sign exponent fraction, x.toBits.toBitVec = fields sign exponent fraction ∧
    x.toBits.toNat = sign.toBitVec.toNat * 2 ^ 63 + exponent.toNat * 2 ^ 52 + fraction.toNat :=
  have parts : fields _ _ _ = x.toBits.toBitVec :=
    @packComponents_unpackSign_unpackExponent_unpackMantissa Format.binary64 x.toBits.toBitVec
  ⟨_, _, _, parts.symm, by
    rw [← toNat_fields, parts]
    rfl⟩

theorem toNat_ne_of_ne {exponent : BitVec 11} (normal : exponent ≠ -1#11) : exponent.toNat ≠ 2047 := fun same =>
  normal (BitVec.eq_of_toNat_eq same)

theorem isFinite_iff (x : Float) : x.isFinite ↔ x.toBits.toNat % 2 ^ 63 < infinityBits := by
  obtain ⟨sign, exponent, fraction, bits, value⟩ := exists_fields x
  have unpacks : x.isFinite = (unpacked x.toBits.toBitVec).isFinite := rfl
  rw [unpacks, bits, isFinite_unpacked, value, infinityBits_eq]
  have := sign.toBitVec.isLt
  have := exponent.isLt
  have := fraction.isLt
  constructor
  · intro normal
    have := toNat_ne_of_ne normal
    omega
  · rintro bounded rfl
    have special : (-1#11).toNat = 2047 := rfl
    omega

theorem isNaN_of_isFinite {x : Float} (number : x.isFinite) : x.isNaN = false := by
  rw [Float.isNaN_eq_decide_eq_nan, decide_eq_false_iff_not]
  rintro rfl
  exact absurd number (by decide)

theorem isInf_of_isFinite {x : Float} (number : x.isFinite) : x.isInf = false := by
  have unpacks : x.isFinite = (unpacked x.toBits.toBitVec).isFinite := rfl
  have tests : x.isInf = (unpacked x.toBits.toBitVec).isInf := rfl
  rw [unpacks] at number
  rw [tests]
  generalize unpacked x.toBits.toBitVec = value at number
  cases value with
  | infinity => cases number
  | _ => rfl

theorem toBits_neg {x : Float} (number : x.isFinite) :
    (-x).toBits.toNat = x.toBits.toNat % 2 ^ 63 + if isNegative x then 0 else 2 ^ 63 := by
  obtain ⟨sign, exponent, fraction, bits, value⟩ := exists_fields x
  have unpacks : x.isFinite = (unpacked x.toBits.toBitVec).isFinite := rfl
  rw [unpacks, bits, isFinite_unpacked] at number
  have packs : (-x).toBits.toNat =
    (UnpackedFloat.pack Format.binary64 (unpacked x.toBits.toBitVec).neg).toNat := rfl
  have := toNat_ne_of_ne number
  have := (-sign).toBitVec.isLt
  have := exponent.isLt
  have := fraction.isLt
  have number' : (fields (-sign) exponent fraction).toNat / 2 ^ 52 % 2 ^ 11 ≠ 2047 := by
    rw [toNat_fields]
    omega
  rw [packs, bits, neg_unpacked, pack_unpacked fun special => absurd special number', toNat_fields, value]
  have negative := isNegative_iff x
  rw [value] at negative
  cases sign with
  | negative =>
    have one : Sign.toBitVec .negative = 1#1 := rfl
    have zero : Sign.toBitVec (-.negative) = 0#1 := rfl
    rw [one] at negative
    rw [zero, one, if_pos (negative.mpr (by simp; omega))]
    simp
    omega
  | positive =>
    have zero : Sign.toBitVec .positive = 0#1 := rfl
    have one : Sign.toBitVec (-.positive) = 1#1 := rfl
    rw [zero] at negative
    rw [zero, one, if_neg (fun holds => by have := negative.mp holds; simp at this; omega)]
    simp
    omega

theorem isFinite_neg {x : Float} (number : x.isFinite) : (-x).isFinite := by
  have bounded := (isFinite_iff x).mp number
  rw [isFinite_iff, toBits_neg number]
  split <;> omega

/-- A finite number is equal to itself. -/
theorem beq_self {x : Float} (number : x.isFinite) : (x == x) = true := by
  rw [Float.beq_self_iff]
  rintro rfl
  exact absurd number (by decide)

/-- Both zeros are equal. -/
theorem beq_zero {x y : Float} (zero : x.toBits.toNat % 2 ^ 63 = 0) (zero' : y.toBits.toNat % 2 ^ 63 = 0) :
    (x == y) = true := by
  have unpacks : ∀ {z : Float}, z.toBits.toNat % 2 ^ 63 = 0 → ∃ sign, unpacked z.toBits.toBitVec = .zero sign := by
    intro z none
    obtain ⟨sign, exponent, fraction, bits, value⟩ := exists_fields z
    rw [value] at none
    have := exponent.isLt
    have := fraction.isLt
    obtain rfl : exponent = 0#11 := BitVec.eq_of_toNat_eq (by simp; omega)
    obtain rfl : fraction = 0#52 := BitVec.eq_of_toNat_eq (by simp; omega)
    exact ⟨sign, by rw [bits]; exact @unpack_packedZero Format.binary64 sign⟩
  obtain ⟨sign, same⟩ := unpacks zero
  obtain ⟨sign', same'⟩ := unpacks zero'
  have compares : (x == y) = (unpacked x.toBits.toBitVec).beq (unpacked y.toBits.toBitVec) := rfl
  rw [compares, same, same']
  rfl

end GestureCalculator.Binary64
