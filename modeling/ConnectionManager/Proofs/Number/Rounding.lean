import ConnectionManager.Number.Shortest
import Mathlib.Algebra.Order.Field.Power
import Mathlib.Data.Rat.Cast.Order
import Mathlib.Tactic.FieldSimp
import Mathlib.Tactic.Linarith
import Mathlib.Tactic.Positivity
import Mathlib.Tactic.Ring

/-!
Rounding to doubles. A quotient that lies in the rounding interval of a finite double is rounded to
this double, with the scale that the double has or, just below a power of two, with the next lower
one, from which a carry leads back.
-/

namespace ConnectionManager.Number.Double

variable {value : Double} {number : ℚ} {numerator denominator top bottom nearest : Nat} {scale : Int}

def magnitude (value : Double) : ℚ := value.significand * 2 ^ value.scale

/-- A number lies in the rounding interval of a double. The ends count if the significand is
even. -/
def RoundsTo (value : Double) (number : ℚ) : Prop :=
  let interval := value.roundingInterval
  let unit : ℚ := 2 ^ (value.scale - 2)
  (interval.low * unit ≤ number ∧ number ≤ interval.high * unit) ∧
    (interval.closed = false → interval.low * unit < number ∧ number < interval.high * unit)

theorem significand_lt (value : Double) : value.significand < significandBound := by
  have fraction : value.fraction < exponentUnit := Nat.mod_lt _ (by decide)
  unfold significand
  unfold exponentUnit significandBound at *
  split <;> omega

theorem scale_least (value : Double) : -1074 ≤ value.scale := by
  unfold scale
  omega

theorem significand_ge (above : -1074 < value.scale) : exponentUnit ≤ value.significand := by
  unfold scale at above
  unfold significand
  split <;> omega

theorem magnitude_bits_eq (value : Double) :
    value.magnitudeBits = value.significand + (value.scale + 1074).toNat * exponentUnit := by
  have whole := Nat.div_add_mod value.magnitudeBits exponentUnit
  change exponentUnit * value.exponentField + value.fraction = value.magnitudeBits at whole
  unfold significand scale
  split
  · simp_all
  · rename_i normal
    obtain ⟨field, same⟩ := Nat.exists_eq_succ_of_ne_zero normal
    have shifted : (((max value.exponentField 1 : Nat) : Int) - 1075 + 1074).toNat = field := by omega
    rw [shifted, ← whole, same, Nat.succ_eq_add_one]
    ring

theorem of_magnitude_bits (value : Double) :
    ofMagnitude value.isNegative value.magnitudeBits = value := by
  obtain ⟨bits⟩ := value
  have bound := bits.toNat_lt
  have negative : (⟨bits⟩ : Double).isNegative = true ↔ signBit ≤ bits.toNat := by
    simp [isNegative, UInt64.le_iff_toNat_le, signBit]
  have whole : (if (⟨bits⟩ : Double).isNegative = true then signBit else 0)
      + (⟨bits⟩ : Double).magnitudeBits = bits.toNat := by
    unfold magnitudeBits
    dsimp only
    split
    · rename_i above
      rw [negative] at above
      unfold signBit at *
      omega
    · rename_i below
      rw [negative] at below
      unfold signBit at *
      omega
  rw [ofMagnitude, whole, UInt64.ofNat_toNat]

theorem magnitude_bits_le {value : Double} (finite : value.isFinite = true) :
    value.magnitudeBits ≤ infiniteMagnitude := by
  have whole := Nat.div_add_mod value.magnitudeBits exponentUnit
  have fraction : value.magnitudeBits % exponentUnit < exponentUnit := Nat.mod_lt _ (by decide)
  have field : value.magnitudeBits / exponentUnit < 2047 := by
    exact of_decide_eq_true finite
  unfold infiniteMagnitude
  unfold exponentUnit at *
  omega

theorem pow_to_nat_div (base : Nat) (exponent : Int) :
    ((Nat.pow base exponent.toNat : Nat) : ℚ) / (Nat.pow base (-exponent).toNat : Nat)
      = (base : ℚ) ^ exponent := by
  rcases Int.le_total 0 exponent with up | down
  · obtain ⟨steps, rfl⟩ := Int.eq_ofNat_of_zero_le up
    simp
  · obtain ⟨steps, same⟩ := Int.eq_ofNat_of_zero_le (Int.neg_nonneg_of_nonpos down)
    have opposite : exponent = -(steps : Int) := by omega
    subst opposite
    simp [zpow_neg]

theorem scaled_quotient_eq (numerator denominator : Nat) (scale : Int) :
    ((scaledQuotient numerator denominator scale).1 : ℚ) /
      (scaledQuotient numerator denominator scale).2 = (numerator / denominator : ℚ) / 2 ^ scale := by
  have power := pow_to_nat_div 2 scale
  rw [Nat.cast_ofNat] at power
  rw [← power]
  simp only [scaledQuotient, Nat.cast_mul]
  field_simp

theorem scaled_quotient_positive (numerator : Nat) (positive : 0 < denominator) (scale : Int) :
    0 < (scaledQuotient numerator denominator scale).2 :=
  Nat.mul_pos positive (Nat.pow_pos (by decide))

/-- Rounding finds the nearest integer, and of two equally near ones the even one. -/
theorem round_half_even_eq (positive : 0 < bottom) (low : 2 * nearest * bottom ≤ 2 * top + bottom)
    (high : 2 * top ≤ 2 * nearest * bottom + bottom)
    (inside : nearest % 2 = 1 → 2 * nearest * bottom < 2 * top + bottom ∧
      2 * top < 2 * nearest * bottom + bottom) :
    roundHalfEven top bottom = nearest := by
  have whole := Nat.div_add_mod top bottom
  have rest : top % bottom < bottom := Nat.mod_lt _ positive
  unfold roundHalfEven
  dsimp only
  generalize top / bottom = quotient at *
  generalize top % bottom = remainder at *
  have above : quotient ≤ nearest := by
    by_contra less
    have step := Nat.mul_le_mul_right bottom (show nearest + 1 ≤ quotient by omega)
    nlinarith
  have below : nearest ≤ quotient + 1 := by
    by_contra more
    have step := Nat.mul_le_mul_right bottom (show quotient + 2 ≤ nearest by omega)
    nlinarith
  rcases (show nearest = quotient ∨ nearest = quotient + 1 by omega) with rfl | rfl
  · apply if_neg
    simp only [Bool.or_eq_true, Bool.and_eq_true, decide_eq_true_eq, beq_iff_eq, not_or, not_and]
    constructor
    · nlinarith
    · intro half odd
      have strict := (inside odd).2
      nlinarith
  · apply if_pos
    simp only [Bool.or_eq_true, Bool.and_eq_true, decide_eq_true_eq, beq_iff_eq]
    by_cases more : 2 * remainder > bottom
    · exact .inl more
    · right
      have half : 2 * remainder = bottom := by nlinarith
      refine ⟨half, ?_⟩
      by_contra even
      have strict := (inside (by omega)).1
      nlinarith

theorem round_half_even_of_near (positive : 0 < bottom) (low : (nearest : ℚ) - 1 / 2 ≤ top / bottom)
    (high : (top / bottom : ℚ) ≤ nearest + 1 / 2)
    (inside : nearest % 2 = 1 → (nearest : ℚ) - 1 / 2 < top / bottom ∧
      (top / bottom : ℚ) < nearest + 1 / 2) :
    roundHalfEven top bottom = nearest := by
  have cast : (0 : ℚ) < bottom := by exact_mod_cast positive
  rw [le_div_iff₀ cast] at low
  rw [div_le_iff₀ cast] at high
  rw [lt_div_iff₀ cast, div_lt_iff₀ cast] at inside
  apply round_half_even_eq positive
  · have scaled : (2 : ℚ) * nearest * bottom ≤ 2 * top + bottom := by linarith
    exact_mod_cast scaled
  · have scaled : (2 : ℚ) * top ≤ 2 * nearest * bottom + bottom := by linarith
    exact_mod_cast scaled
  · intro odd
    have below : (2 : ℚ) * nearest * bottom < 2 * top + bottom := by linarith [(inside odd).1]
    have above : (2 : ℚ) * top < 2 * nearest * bottom + bottom := by linarith [(inside odd).2]
    exact ⟨by exact_mod_cast below, by exact_mod_cast above⟩

theorem significand_bound_scaled (scale : Int) :
    (significandBound : ℚ) * 2 ^ scale = 2 ^ (scale + 53) := by
  rw [zpow_add₀ two_ne_zero, mul_comm]
  norm_num [significandBound]

theorem exponent_unit_scaled (scale : Int) : (exponentUnit : ℚ) * 2 ^ scale = 2 ^ (scale + 52) := by
  rw [zpow_add₀ two_ne_zero, mul_comm]
  norm_num [exponentUnit]

/-- A number at a scale has at most 53 bits before the point, and all 53 unless the scale is the
lowest. -/
structure FitsScale (number : ℚ) (scale : Int) : Prop where
  least : -1074 ≤ scale
  high : number < 2 ^ (scale + 53)
  low : scale = -1074 ∨ 2 ^ (scale + 52) ≤ number

theorem quotient_log_bounds (some_ : numerator ≠ 0) (positive : denominator ≠ 0) :
    (2 : ℚ) ^ ((numerator.log2 : Int) - denominator.log2 - 1) ≤ numerator / denominator ∧
      (numerator / denominator : ℚ) < 2 ^ ((numerator.log2 : Int) - denominator.log2 + 1) := by
  have low : (2 : ℚ) ^ (numerator.log2 : Int) ≤ numerator := by
    exact_mod_cast Nat.log2_self_le some_
  have high : (numerator : ℚ) < 2 ^ ((numerator.log2 : Int) + 1) := by
    exact_mod_cast Nat.lt_log2_self
  have lowToo : (2 : ℚ) ^ (denominator.log2 : Int) ≤ denominator := by
    exact_mod_cast Nat.log2_self_le positive
  have highToo : (denominator : ℚ) < 2 ^ ((denominator.log2 : Int) + 1) := by
    exact_mod_cast Nat.lt_log2_self
  have above : (0 : ℚ) < denominator := lt_of_lt_of_le (by positivity) lowToo
  constructor
  · rw [le_div_iff₀ above]
    calc (2 : ℚ) ^ ((numerator.log2 : Int) - denominator.log2 - 1) * denominator
      _ ≤ 2 ^ ((numerator.log2 : Int) - denominator.log2 - 1) * 2 ^ ((denominator.log2 : Int) + 1) := by
          gcongr
      _ = 2 ^ (numerator.log2 : Int) := by
          rw [← zpow_add₀ two_ne_zero]
          congr 1
          ring
      _ ≤ numerator := low
  · rw [div_lt_iff₀ above]
    calc (numerator : ℚ)
      _ < 2 ^ ((numerator.log2 : Int) + 1) := high
      _ = 2 ^ ((numerator.log2 : Int) - denominator.log2 + 1) * 2 ^ (denominator.log2 : Int) := by
          rw [← zpow_add₀ two_ne_zero]
          congr 1
          ring
      _ ≤ 2 ^ ((numerator.log2 : Int) - denominator.log2 + 1) * denominator := by gcongr

theorem scaled_quotient_small_iff (positive : 0 < denominator) (scale : Int) :
    (scaledQuotient numerator denominator scale).1 / (scaledQuotient numerator denominator scale).2
        < significandBound ↔ (numerator / denominator : ℚ) < 2 ^ (scale + 53) := by
  have above := scaled_quotient_positive numerator positive scale
  have cast : (0 : ℚ) < (scaledQuotient numerator denominator scale).2 := by exact_mod_cast above
  rw [Nat.div_lt_iff_lt_mul above, ← significand_bound_scaled, ← div_lt_iff₀ (by positivity),
    ← scaled_quotient_eq, div_lt_iff₀ cast]
  exact_mod_cast Iff.rfl

theorem scale_of_fits (some_ : numerator ≠ 0) (positive : 0 < denominator) :
    FitsScale (numerator / denominator) (scaleOf numerator denominator) := by
  obtain ⟨low, high⟩ := quotient_log_bounds some_ positive.ne'
  unfold scaleOf
  dsimp only
  generalize order : (numerator.log2 : Int) - denominator.log2 - 53 = start
  split
  · rename_i small
    refine ⟨by omega, (scaled_quotient_small_iff positive _).1 small, ?_⟩
    by_cases least : max start (-1074) = -1074
    · exact .inl least
    · right
      have same : max start (-1074) = start := by omega
      rw [same]
      convert low using 2
      omega
  · rename_i large
    rw [scaled_quotient_small_iff positive, not_lt] at large
    have next : (numerator / denominator : ℚ) < 2 ^ (max start (-1074) + 1 + 53) := by
      refine lt_of_lt_of_le high (zpow_le_zpow_right₀ one_le_two ?_)
      omega
    rw [if_pos ((scaled_quotient_small_iff positive _).2 next)]
    refine ⟨by omega, next, .inr ?_⟩
    rwa [show max start (-1074) + 1 + 52 = max start (-1074) + 53 by ring]

theorem significand_positive (some_ : value.isZero = false) : 0 < value.significand := by
  have bits : value.magnitudeBits ≠ 0 := by simpa [isZero] using some_
  have whole := Nat.div_add_mod value.magnitudeBits exponentUnit
  unfold significand fraction exponentField
  unfold exponentUnit at *
  split <;> omega

/-- A double is at most half a unit of its last place away from what rounds to it, and only a
quarter below a power of two. -/
structure NearTo (value : Double) (number : ℚ) : Prop where
  low : (value.significand - 1 / 2 : ℚ) * 2 ^ value.scale ≤ number
  high : number ≤ (value.significand + 1 / 2 : ℚ) * 2 ^ value.scale
  inside : value.significand % 2 = 1 →
    (value.significand - 1 / 2 : ℚ) * 2 ^ value.scale < number ∧
      number < (value.significand + 1 / 2 : ℚ) * 2 ^ value.scale
  corner : value.significand = exponentUnit → -1074 < value.scale →
    (value.significand - 1 / 4 : ℚ) * 2 ^ value.scale ≤ number

/-- How far the interval of a double reaches down, in quarters of a unit. -/
theorem interval_low_eq (some_ : value.isZero = false) :
    ∃ below : ℚ, (value.roundingInterval.low : ℚ) = 4 * value.significand - below ∧ below ≤ 2 ∧
      (value.significand = exponentUnit → -1074 < value.scale → below = 1) := by
  have positive := significand_positive some_
  unfold roundingInterval
  dsimp only
  split
  · exact ⟨1, by push_cast [show 1 ≤ 4 * value.significand by omega]; ring, by norm_num,
      fun _ _ => rfl⟩
  · rename_i general
    refine ⟨2, by push_cast [show 2 ≤ 4 * value.significand by omega]; ring, le_rfl, ?_⟩
    intro corner above
    refine absurd ?_ general
    unfold scale at above
    unfold significand at corner
    have normal : value.exponentField ≠ 0 := by omega
    rw [if_neg normal] at corner
    simp
    omega

theorem RoundsTo.near (rounds : value.RoundsTo number) (some_ : value.isZero = false) :
    value.NearTo number := by
  obtain ⟨⟨low, high⟩, inside⟩ := rounds
  obtain ⟨below, least, most, corner⟩ := interval_low_eq some_
  have top : (value.roundingInterval.high : ℚ) = 4 * value.significand + 2 := by
    simp [roundingInterval]
  have unit : (2 : ℚ) ^ (value.scale - 2) = 2 ^ value.scale / 4 := by
    rw [zpow_sub₀ two_ne_zero]
    norm_num
  have place : (0 : ℚ) < 2 ^ value.scale := by positivity
  rw [least, top, unit] at inside
  rw [least, unit] at low
  rw [top, unit] at high
  constructor
  · nlinarith
  · linarith
  · intro odd
    have strict := inside (by simp [roundingInterval, odd])
    constructor
    · nlinarith
    · linarith
  · intro same above
    rw [corner same above] at low
    linarith

/-- The scale at which a number is cut to be rounded to a double: its own scale, or the next lower
one if the number is just below the power of two that the double is. -/
theorem NearTo.scale_cases (near : value.NearTo number) (fits : FitsScale number scale) :
    scale = value.scale ∨
      (scale = value.scale - 1 ∧ value.significand = exponentUnit ∧ -1074 < value.scale) := by
  have bound : (value.significand : ℚ) + 1 ≤ significandBound := by
    exact_mod_cast value.significand_lt
  have place : (0 : ℚ) < 2 ^ value.scale := by positivity
  have below : number < 2 ^ (value.scale + 53) := by
    rw [← significand_bound_scaled]
    refine lt_of_le_of_lt near.high ?_
    gcongr
    linarith
  have atMost : scale ≤ value.scale := by
    rcases fits.low with least | low
    · exact least ▸ value.scale_least
    · have less := (zpow_lt_zpow_iff_right₀ one_lt_two).1 (lt_of_le_of_lt low below)
      omega
  by_cases same : scale = value.scale
  · exact .inl same
  · right
    have above : -1074 < value.scale := by
      have := fits.least
      omega
    have less : number < 2 ^ (value.scale + 52) :=
      lt_of_lt_of_le fits.high (zpow_le_zpow_right₀ one_le_two (by omega))
    have corner : value.significand = exponentUnit := by
      by_contra other
      have wide := significand_ge above
      have more : (exponentUnit : ℚ) + 1 ≤ value.significand := by
        exact_mod_cast Nat.lt_of_le_of_ne wide (Ne.symm other)
      rw [← exponent_unit_scaled] at less
      have low := near.low
      nlinarith
    refine ⟨?_, corner, above⟩
    by_contra lower
    have far : number < 2 ^ (value.scale + 51) :=
      lt_of_lt_of_le fits.high (zpow_le_zpow_right₀ one_le_two (by omega))
    have low := near.corner corner above
    rw [show value.scale + 51 = value.scale + 52 - 1 by ring, zpow_sub_one₀ two_ne_zero,
      ← exponent_unit_scaled] at far
    rw [corner] at low
    have wide : (4 : ℚ) ≤ exponentUnit := by norm_num [exponentUnit]
    nlinarith

theorem NearTo.round_at_scale (near : value.NearTo number) (positive : 0 < bottom)
    (quotient : (top / bottom : ℚ) = number / 2 ^ value.scale) :
    roundHalfEven top bottom = value.significand := by
  have place : (0 : ℚ) < 2 ^ value.scale := by positivity
  apply round_half_even_of_near positive
  · rw [quotient, le_div_iff₀ place]
    exact near.low
  · rw [quotient, div_le_iff₀ place]
    exact near.high
  · rw [quotient, lt_div_iff₀ place, div_lt_iff₀ place]
    exact near.inside

theorem NearTo.round_below_scale (near : value.NearTo number) (positive : 0 < bottom)
    (corner : value.significand = exponentUnit) (above : -1074 < value.scale)
    (less : number < 2 ^ (value.scale + 52))
    (quotient : (top / bottom : ℚ) = number / 2 ^ (value.scale - 1)) :
    roundHalfEven top bottom = 2 * exponentUnit := by
  have place : (0 : ℚ) < 2 ^ value.scale := by positivity
  have scaled : (top / bottom : ℚ) = 2 * number / 2 ^ value.scale := by
    rw [quotient, zpow_sub_one₀ two_ne_zero]
    field_simp
  have low := near.corner corner above
  rw [corner] at low
  rw [← exponent_unit_scaled] at less
  apply round_half_even_of_near positive
  · rw [scaled, le_div_iff₀ place]
    push_cast
    linarith
  · rw [scaled, div_le_iff₀ place]
    push_cast
    linarith
  · exact fun odd => absurd odd (by decide)

/-- A quotient that lies in the rounding interval of a finite double is rounded to this double. -/
theorem of_quotient_eq (rounds : value.RoundsTo (numerator / denominator))
    (some_ : value.isZero = false) (finite : value.isFinite = true) (named : numerator ≠ 0)
    (positive : 0 < denominator) :
    ofQuotient value.isNegative numerator denominator = value := by
  have near := rounds.near some_
  have fits := scale_of_fits named positive
  have below := scaled_quotient_positive numerator positive (scaleOf numerator denominator)
  have quotient := scaled_quotient_eq numerator denominator (scaleOf numerator denominator)
  unfold ofQuotient
  rw [if_neg named]
  dsimp only
  generalize scaleOf numerator denominator = scale at fits below quotient ⊢
  have magnitude : roundHalfEven (scaledQuotient numerator denominator scale).1
        (scaledQuotient numerator denominator scale).2
      + (scale + 1074).toNat * exponentUnit = value.magnitudeBits := by
    rw [magnitude_bits_eq]
    rcases near.scale_cases fits with same | ⟨lower, corner, above⟩
    · rw [same] at below quotient ⊢
      rw [near.round_at_scale below quotient]
    · have less := fits.high
      rw [lower] at below quotient less ⊢
      rw [near.round_below_scale below corner above
        (by rwa [show value.scale - 1 + 53 = value.scale + 52 by ring] at less) quotient, corner]
      obtain ⟨steps, same⟩ := Int.eq_ofNat_of_zero_le (show 0 ≤ value.scale - 1 + 1074 by omega)
      have next : (value.scale + 1074).toNat = steps + 1 := by omega
      rw [next, same, Int.toNat_natCast]
      ring
  rw [magnitude, Nat.min_eq_left (magnitude_bits_le finite), of_magnitude_bits]

end ConnectionManager.Number.Double
