import GestureCalculator.Proofs.DecimalNotation
import Mathlib.Tactic

/-!
Whole numbers in decimal notation. The fewest digits that read back as a number without a fraction have no places behind the
point: the search comes to a grid of tens, or to the grid of ones, which has a point that is near enough. So they are read back
with a zero behind the point as well.
-/
namespace GestureCalculator.Binary64

theorem twoTo_le_twoTo {m n : Nat} (least : m ≤ n) : twoTo m ≤ twoTo n := Nat.pow_le_pow_right (by decide) least

/-! ### Sizes slightly below a number -/

/-- A size of 53 bits and more than half of what is dropped behind them is rounded up. -/
theorem bitsOfSteps_roundedUp {quotient dropped rest : Nat} (full : 2 ^ 52 ≤ quotient) (bounded : quotient < 2 ^ 53)
    (fits : rest < twoTo dropped) (half : twoTo dropped < 2 * rest) :
    bitsOfSteps (quotient * twoTo dropped + rest) 1 = min (dropped * 2 ^ 52 + (quotient + 1)) infinityBits := by
  have positive := twoTo_pos dropped
  generalize size : quotient * twoTo dropped + rest = whole
  have division : whole / twoTo dropped = quotient := by
    rw [← size, mul_comm, Nat.mul_add_div positive, Nat.div_eq_of_lt fits, Nat.add_zero]
  have remainder : whole % twoTo dropped = rest := by
    rw [← size, mul_comm, Nat.mul_add_mod, Nat.mod_eq_of_lt fits]
  have log : whole.log2 - 52 = dropped := by
    have quotientLog : quotient.log2 = 52 := (Nat.log2_eq_iff (by omega)).mpr ⟨full, bounded⟩
    have same := log2_div_twoTo whole dropped
    rw [division, quotientLog] at same
    omega
  rw [bitsOfSteps, Nat.div_one]
  simp only [log, Nat.one_mul, roundHalfEven, division, remainder]
  rw [if_neg (by omega), if_pos half]
  rfl

/-- What is less than a quarter of a step of the significand below a size is rounded to that size. -/
theorem bitsOfSteps_near {significand exponent near : Nat} (full : 2 ^ 52 ≤ significand) (bounded : significand < 2 ^ 53)
    (fine : 2 ≤ exponent) (below : near ≤ significand * twoTo exponent)
    (close : significand * twoTo exponent < near + twoTo (exponent - 2)) :
    bitsOfSteps near 1 = bitsOfSteps (significand * twoTo exponent) 1 := by
  have quarter : twoTo exponent = 4 * twoTo (exponent - 2) := by
    rw [show exponent = 2 + (exponent - 2) by omega, twoTo_add, Nat.add_sub_cancel_left]
    rfl
  have positive := twoTo_pos (exponent - 2)
  rw [bitsOfSteps_of_significand ⟨bounded, .inr full⟩]
  rcases below.eq_or_lt with rfl | below
  · exact bitsOfSteps_of_significand ⟨bounded, .inr full⟩
  rcases full.eq_or_lt with rfl | larger
  · -- Below a power of two the steps are half as wide.
    have half : twoTo (exponent - 1) = 2 * twoTo (exponent - 2) := by
      rw [show exponent - 1 = 1 + (exponent - 2) by omega, twoTo_add]
      rfl
    obtain ⟨quotient, greatest⟩ : ∃ quotient, quotient + 1 = 2 ^ 53 := ⟨2 ^ 53 - 1, by decide⟩
    have greatestHalf : (quotient + 1) * twoTo (exponent - 1) = 2 ^ 52 * twoTo exponent := by
      rw [greatest, half, quarter]
      ring
    rw [Nat.add_one_mul] at greatestHalf
    obtain ⟨rest, rfl⟩ : ∃ rest, near = quotient * twoTo (exponent - 1) + rest := Nat.exists_eq_add_of_le (by omega)
    have next : (exponent - 1) * 2 ^ 52 + (quotient + 1) = exponent * 2 ^ 52 + 2 ^ 52 := by omega
    rw [bitsOfSteps_roundedUp (by omega) (by omega) (by omega) (by omega), next]
  · obtain ⟨rest, rfl⟩ : ∃ rest, near = (significand - 1) * twoTo exponent + rest := by
      refine Nat.exists_eq_add_of_le ?_
      rw [Nat.sub_one_mul]
      omega
    have previous : significand * twoTo exponent = (significand - 1) * twoTo exponent + twoTo exponent := by
      rw [← Nat.succ_mul, Nat.succ_eq_add_one, Nat.sub_add_cancel (by omega)]
    rw [bitsOfSteps_roundedUp (by omega) (by omega) (by omega) (by omega), Nat.sub_add_cancel (by omega)]

/-! ### Powers of ten -/

/-- Ten to a power is no more than two to ten thirds of it. -/
theorem tenTo_le (n : Nat) : tenTo n ≤ twoTo ((10 * n + 2) / 3) := by
  induction n using Nat.strongRecOn with
  | ind n ih =>
    rcases lt_or_ge n 3 with small | large
    · interval_cases n <;> decide
    · have less := ih (n - 3) (by omega)
      calc tenTo n = tenTo (n - 3) * 1000 := by
            rw [show n = n - 3 + 3 by omega, Nat.add_sub_cancel]
            exact Nat.pow_add 10 (n - 3) 3
        _ ≤ twoTo ((10 * (n - 3) + 2) / 3) * 1024 := Nat.mul_le_mul less (by decide)
        _ = twoTo ((10 * (n - 3) + 2) / 3 + 10) := (twoTo_add _ 10).symm
        _ = twoTo ((10 * n + 2) / 3) := by rw [show (10 * (n - 3) + 2) / 3 + 10 = (10 * n + 2) / 3 by omega]

/-! ### Grids -/

theorem gridPoint?_exponent {size : Nat} {exponent : Int} {point : Decimal} (found : gridPoint? size exponent = some point) :
    point.exponent = exponent := by
  simp only [gridPoint?] at found
  generalize (if 0 ≤ exponent then size else _) = num at found
  generalize (if 0 ≤ exponent then unit * _ else _) = den at found
  have member := List.mem_of_find?_eq_some found
  split at member <;> rcases List.mem_pair.mp member with same | same <;> exact congrArg Decimal.exponent same

/-- A grid whose point below the size reads back has a point. -/
theorem gridPoint?_isSome {size k : Nat} (reads : (Decimal.mk (size / (unit * tenTo k)) k).readsBackAs size) :
    (gridPoint? size k).isSome := by
  rw [gridPoint?, List.find?_isSome]
  refine ⟨⟨size / (unit * tenTo k), k⟩, ?_, reads⟩
  simp only [if_pos (Int.natCast_nonneg k), Int.toNat_natCast]
  split <;> simp

/-- The search ends no later than at a grid that has a point. -/
theorem le_coarsestDecimal_exponent {size : Nat} {least : Int} : ∀ {tries : Nat} {exponent : Int}, least ≤ exponent →
    exponent < least + tries → (gridPoint? size least).isSome → least ≤ (coarsestDecimal size tries exponent).exponent := by
  intro tries
  induction tries with
  | zero =>
    intro exponent above short
    omega
  | succ tries ih =>
    intro exponent above short some
    rw [coarsestDecimal]
    cases found : gridPoint? size exponent with
    | some point =>
      rw [Option.getD_some, gridPoint?_exponent found]
      exact above
    | none =>
      rcases above.eq_or_lt with rfl | below
      · rw [found] at some
        cases some
      · exact ih (by omega) (by omega) some

/-! ### Whole numbers -/

theorem ofDecimal_of_lt {digits k : Nat} (small : k < 400) :
    ofDecimal false digits k = ofSteps false (digits * tenTo k * unit) 1 := by
  by_cases zero : digits = 0
  · rw [zero, Nat.zero_mul, Nat.zero_mul]
    rfl
  · rw [ofDecimal, if_neg zero, if_neg (by omega), if_neg (by omega), if_pos (Int.natCast_nonneg k), Int.toNat_natCast]
    rfl

/-- The point of a grid of tens below a size reads back if it rounds to that size. -/
theorem readsBackAs_of_bits {size k : Nat} (small : k < 400)
    (same : bitsOfSteps (size / (unit * tenTo k) * (unit * tenTo k)) 1 = bitsOfSteps size 1) :
    (Decimal.mk (size / (unit * tenTo k)) k).readsBackAs size := by
  have steps : size / (unit * tenTo k) * tenTo k * unit = size / (unit * tenTo k) * (unit * tenTo k) := by ring
  rw [Decimal.readsBackAs, ofDecimal_of_lt small, steps, ofSteps, ofSteps, same]
  exact beq_self_eq_true _

theorem le_exponent_of_unit_le {significand exponent : Nat} (bounded : significand < 2 ^ 53)
    (many : unit ≤ significand * twoTo exponent) : 1022 ≤ exponent := by
  by_contra small
  have few : significand * twoTo exponent < twoTo 53 * twoTo 1021 :=
    calc significand * twoTo exponent ≤ significand * twoTo 1021 :=
          Nat.mul_le_mul_left _ (twoTo_le_twoTo (by omega))
      _ < twoTo 53 * twoTo 1021 := Nat.mul_lt_mul_of_pos_right bounded (twoTo_pos 1021)
  rw [← twoTo_add] at few
  exact absurd many (Nat.not_le.mpr few)

/-- The fewest digits of a number without a fraction have no places behind the point. -/
theorem shortestDecimal_exponent_nonneg {x : Float} (number : x.isFinite) (whole : unit ∣ steps x) (positive : 0 < steps x) :
    0 ≤ (shortestDecimal (steps x)).exponent := by
  obtain ⟨significand, exponent, ⟨bounded, least⟩, size, bits⟩ := exists_significand number
  have finite := (isFinite_iff x).mp number
  rw [infinityBits_eq] at finite
  have large := le_exponent_of_unit_le bounded (size ▸ Nat.le_of_dvd positive whole)
  have full : 2 ^ 52 ≤ significand := least.resolve_left (by omega)
  have log : (steps x).log2 = 52 + exponent := by
    rw [size, log2_mul_twoTo (by omega), (Nat.log2_eq_iff (by omega)).mpr ⟨full, bounded⟩]
  rw [shortestDecimal, log]
  generalize start : (((52 + exponent : Nat) : Int) - 1073) * 30103 / 100000 + 1 = first
  by_cases near : first < 24
  · have ones : unit * tenTo 0 = unit := by
      rw [show tenTo 0 = 1 from rfl, Nat.mul_one]
    have exact : steps x / (unit * tenTo 0) * (unit * tenTo 0) = steps x := by
      rw [ones, Nat.div_mul_cancel whole]
    have reads : (gridPoint? (steps x) (0 : Nat)).isSome :=
      gridPoint?_isSome (readsBackAs_of_bits (by decide) (congrArg (bitsOfSteps · 1) exact))
    exact le_coarsestDecimal_exponent (by omega) (by omega) reads
  · obtain ⟨k, tens⟩ : ∃ k : Nat, first - 23 = k := ⟨(first - 23).toNat, by omega⟩
    have reads : (gridPoint? (steps x) (k : Int)).isSome := by
      refine gridPoint?_isSome (readsBackAs_of_bits (by omega) ?_)
      have coarse : unit * tenTo k ≤ twoTo (exponent - 2) :=
        calc unit * tenTo k ≤ twoTo 1074 * twoTo ((10 * k + 2) / 3) := Nat.mul_le_mul_left _ (tenTo_le k)
          _ = twoTo (1074 + (10 * k + 2) / 3) := (twoTo_add _ _).symm
          _ ≤ twoTo (exponent - 2) := twoTo_le_twoTo (by omega)
      have spacing : 0 < unit * tenTo k := Nat.mul_pos unit_pos (tenTo_pos k)
      have below := Nat.div_mul_le_self (steps x) (unit * tenTo k)
      have close := @Nat.lt_div_mul_add (steps x) _ spacing
      rw [size] at below close ⊢
      exact bitsOfSteps_near full bounded (by omega) below (by omega)
    have least : (k : Int) ≤ (coarsestDecimal (steps x) 24 first).exponent :=
      le_coarsestDecimal_exponent (by omega) (by omega) reads
    omega

/-! ### Digits that are read back -/

theorem shortestDecimal_digits_ne_zero {x : Float} (number : x.isFinite) (positive : 0 < steps x) :
    (shortestDecimal (steps x)).digits ≠ 0 := by
  intro none
  have read := ofDecimal_shortestDecimal positive
  have bits := bitsOfSteps_steps number
  rw [ofDecimal, if_pos none] at read
  rw [← sizeBits_ofSteps false, ← read, sizeBits_ofSteps, bitsOfSteps_zero] at bits
  have size : steps x = 0 * twoTo 0 := steps_of_bits number (by omega) (by decide) (.inl rfl)
  rw [Nat.zero_mul] at size
  omega

theorem bitsOfSteps_of_large : bitsOfSteps (twoTo 2098) 1 = infinityBits := by
  have size : twoTo 2098 = 2 ^ 52 * twoTo 2046 := by
    rw [show 2098 = 52 + 2046 from rfl, twoTo_add, twoTo_eq 52]
  rw [size, bitsOfSteps_of_significand ⟨by decide, .inr le_rfl⟩]
  rfl

/-- The fewest digits of a number have fewer than 400 places before the point. -/
theorem shortestDecimal_exponent_lt {x : Float} (number : x.isFinite) (positive : 0 < steps x) :
    (shortestDecimal (steps x)).exponent < 400 := by
  by_contra large
  have read := ofDecimal_shortestDecimal positive
  have bits := bitsOfSteps_steps number
  have finite := (isFinite_iff x).mp number
  rw [ofDecimal, if_neg (shortestDecimal_digits_ne_zero number positive), if_pos (Int.not_lt.mp large)] at read
  rw [← sizeBits_ofSteps false, ← read, sizeBits_ofSteps, bitsOfSteps_of_large] at bits
  omega

/-- A zero behind the point makes no difference. -/
theorem ofDecimal_zero_place {digits : Nat} (any : digits ≠ 0) (k : Nat) :
    ofDecimal false (digits * tenTo (k + 1)) (-1) = ofSteps false (digits * tenTo k * unit) 1 := by
  have tenfold : digits * tenTo (k + 1) * unit = digits * tenTo k * unit * tenTo 1 := by
    rw [show tenTo (k + 1) = tenTo k * tenTo 1 from Nat.pow_add 10 k 1]
    ring
  have same := bitsOfSteps_mul_right (digits * tenTo k * unit) 1 (tenTo_pos 1)
  rw [Nat.one_mul] at same
  rw [ofDecimal, if_neg (Nat.mul_ne_zero any (Nat.ne_of_gt (tenTo_pos _))), if_neg (by omega), if_neg (by omega),
    if_neg (by omega), ofRatio, tenfold]
  exact congrArg (fun bits => Float.ofBits (UInt64.ofNat (bits + 0))) same

/-- The fewest digits of a number without a fraction are read back with a zero behind the point too. -/
theorem ofDecimal_shortestDecimal_zero_place {x : Float} {k : Nat} (number : x.isFinite) (positive : 0 < steps x)
    (exponent : (shortestDecimal (steps x)).exponent = k) :
    ofDecimal false ((shortestDecimal (steps x)).digits * tenTo (k + 1)) (-1) = ofSteps false (steps x) 1 := by
  have small := shortestDecimal_exponent_lt number positive
  rw [ofDecimal_zero_place (shortestDecimal_digits_ne_zero number positive), ← ofDecimal_of_lt (by omega), ← exponent,
    ofDecimal_shortestDecimal positive]

/-- The sign makes no difference to the size of what is read. -/
theorem ofDecimal_signed {digits size : Nat} {exponent : Int} (read : ofDecimal false digits exponent = ofSteps false size 1)
    (negative : Bool) : ofDecimal negative digits exponent = ofSteps negative size 1 := by
  obtain ⟨num, den, same⟩ : ∃ num den, ∀ negative, ofDecimal negative digits exponent = ofSteps negative num den := by
    unfold ofDecimal
    split_ifs <;> exact ⟨_, _, fun _ => rfl⟩
  rw [same] at read ⊢
  have bits := sizeBits_ofSteps false num den
  rw [read, sizeBits_ofSteps] at bits
  rw [ofSteps, ofSteps, bits]

end GestureCalculator.Binary64
