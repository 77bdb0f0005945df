import ConnectionManager.Proofs.Number.Rounding

/-!
The shortest decimal of a finite double rounds to this double. A grid of decimals that is finer than
the rounding interval has a point in it, and with seventeen digits the grid is always finer.
-/

namespace ConnectionManager.Number

def Decimal.value (decimal : Decimal) : ℚ := decimal.digits * 10 ^ decimal.exponent

theorem Decimal.normalize_value (digits : Nat) (exponent : Int) (steps : Nat) :
    (normalize digits exponent steps).value = digits * 10 ^ exponent ∧
      (digits ≠ 0 → (normalize digits exponent steps).digits ≠ 0) := by
  induction steps generalizing digits exponent with
  | zero => exact ⟨rfl, id⟩
  | succ steps induction =>
      unfold normalize
      split
      · rename_i zero
        simp only [Bool.and_eq_true, decide_eq_true_eq, bne_iff_ne] at zero
        obtain ⟨value, some_⟩ := induction (digits / 10) (exponent + 1)
        have whole : ((digits / 10 : Nat) : ℚ) * 10 = digits := by
          exact_mod_cast Nat.div_mul_cancel (Nat.dvd_of_mod_eq_zero zero.1)
        refine ⟨?_, fun _ => some_ (by omega)⟩
        rw [value, zpow_add_one₀ (by norm_num), ← whole]
        ring
      · exact ⟨rfl, id⟩

namespace Double

open RoundingInterval

variable {value : Double} {interval : RoundingInterval} {unit step point : Nat}
  {scale exponent order : Int}

theorem common_units_eq (scale exponent : Int) : ∃ factor : ℚ, 0 < factor ∧
    ((commonUnits scale exponent).1 : ℚ) = factor * 2 ^ (scale - 2) ∧
    ((commonUnits scale exponent).2 : ℚ) = factor * 10 ^ exponent := by
  have two := pow_to_nat_div 2 (scale - 2)
  have ten := pow_to_nat_div 10 exponent
  rw [show -(scale - 2) = 2 - scale by ring] at two
  rw [Nat.cast_ofNat] at two ten
  rw [← two, ← ten]
  refine ⟨(Nat.pow 2 (2 - scale).toNat : Nat) * (Nat.pow 10 (-exponent).toNat : Nat), ?_, ?_, ?_⟩
  · exact_mod_cast Nat.mul_pos (Nat.pow_pos (by decide)) (Nat.pow_pos (by decide))
  · simp only [commonUnits, Nat.cast_mul]
    field_simp
  · simp only [commonUnits, Nat.cast_mul]
    field_simp

theorem units_le_iff (scale exponent : Int) (quarters steps : Nat) :
    (quarters * (commonUnits scale exponent).1 ≤ steps * (commonUnits scale exponent).2 ↔
        (quarters : ℚ) * 2 ^ (scale - 2) ≤ steps * 10 ^ exponent) ∧
      (steps * (commonUnits scale exponent).2 ≤ quarters * (commonUnits scale exponent).1 ↔
        (steps : ℚ) * 10 ^ exponent ≤ quarters * 2 ^ (scale - 2)) := by
  obtain ⟨factor, positive, unit, step⟩ := common_units_eq scale exponent
  have cast : ∀ left right : Nat, left ≤ right ↔ (left : ℚ) ≤ right := fun _ _ => Nat.cast_le.symm
  rw [cast, cast]
  push_cast
  rw [unit, step, mul_left_comm _ factor, mul_left_comm _ factor, mul_le_mul_iff_right₀ positive,
    mul_le_mul_iff_right₀ positive]
  exact ⟨Iff.rfl, Iff.rfl⟩

theorem common_units_positive (scale exponent : Int) :
    0 < (commonUnits scale exponent).1 ∧ 0 < (commonUnits scale exponent).2 :=
  ⟨Nat.mul_pos (Nat.pow_pos (by decide)) (Nat.pow_pos (by decide)),
    Nat.mul_pos (Nat.pow_pos (by decide)) (Nat.pow_pos (by decide))⟩

theorem rounds_of_contains (inside : value.roundingInterval.contains
    (point * (commonUnits value.scale exponent).2) (commonUnits value.scale exponent).1 = true) :
    value.RoundsTo (point * 10 ^ exponent) := by
  obtain ⟨low, lowToo⟩ := units_le_iff value.scale exponent value.roundingInterval.low point
  obtain ⟨highToo, high⟩ := units_le_iff value.scale exponent value.roundingInterval.high point
  have above := lt_iff_lt_of_le_iff_le lowToo
  have below := lt_iff_lt_of_le_iff_le highToo
  unfold contains at inside
  split at inside
  · rename_i closed
    simp only [Bool.and_eq_true, decide_eq_true_eq, low, high] at inside
    exact ⟨inside, fun broken => absurd (closed.symm.trans broken) (by decide)⟩
  · simp only [Bool.and_eq_true, decide_eq_true_eq, above, below] at inside
    exact ⟨⟨inside.1.le, inside.2.le⟩, fun _ => inside⟩

theorem grid_point_contained {found : Nat} (taken : interval.gridPoint? unit step = some found) :
    interval.contains (found * step) unit = true := by
  unfold gridPoint? at taken
  dsimp only at taken
  split at taken
  · rename_i fits
    cases taken
    simp_all
  · split at taken
    · rename_i fits
      cases taken
      exact fits
    · cases taken

theorem contains_of_between (low : interval.low * unit < point) (high : point < interval.high * unit) :
    interval.contains point unit = true := by
  unfold contains
  split <;> simp [low, high, low.le, high.le]

/-- One of the two neighbours of the middle is in the interval if the grid is fine enough. -/
theorem grid_point_exists {below above : Nat} (positive : 0 < step)
    (low : interval.middle = interval.low + below) (high : interval.high = interval.middle + above)
    (fine : step < 2 * below * unit) (fineToo : step < 2 * above * unit) :
    (interval.gridPoint? unit step).isSome = true := by
  have whole := Nat.div_add_mod (interval.middle * unit) step
  have rest : interval.middle * unit % step < step := Nat.mod_lt _ positive
  have lower : interval.middle * unit = interval.low * unit + below * unit := by rw [low]; ring
  have higher : interval.high * unit = interval.middle * unit + above * unit := by rw [high]; ring
  rw [Nat.mul_assoc] at fine fineToo
  have product : ∀ quotient, step * quotient = quotient * step := fun _ => Nat.mul_comm _ _
  rw [product] at whole
  have next : (interval.middle * unit / step + 1) * step
      = interval.middle * unit / step * step + step := Nat.succ_mul _ _
  have fits : interval.contains (interval.middle * unit / step * step) unit = true ∨
      interval.contains ((interval.middle * unit / step + 1) * step) unit = true := by
    by_cases near : 2 * (interval.middle * unit % step) ≤ step
    · left
      apply contains_of_between <;> omega
    · right
      apply contains_of_between <;> omega
  unfold gridPoint?
  dsimp only
  split_ifs with first second
  · rfl
  · rfl
  · simp_all

/-- A grid that is tried, and whether it has a point in the interval. -/
def triedPoint? (value : Double) (exponent : Int) : Option Nat :=
  value.roundingInterval.gridPoint? (commonUnits value.scale exponent).1
    (commonUnits value.scale exponent).2

theorem shortest_from_succ (value : Double) (order : Int) (count tries : Nat) :
    shortestFrom value order count (tries + 1) = match value.triedPoint? (order - count) with
      | some point => Decimal.normalize point (order - count) 20
      | none => shortestFrom value order (count + 1) tries := rfl

theorem shortest_from_rounds (count tries : Nat)
    (last : (value.triedPoint? (order - (count + tries : Nat))).isSome = true) :
    value.RoundsTo (shortestFrom value order count (tries + 1)).value := by
  induction tries generalizing count with
  | zero =>
      obtain ⟨point, found⟩ := Option.isSome_iff_exists.1 last
      rw [Nat.add_zero] at found
      rw [shortest_from_succ, found]
      rw [(Decimal.normalize_value point _ 20).1]
      exact rounds_of_contains (grid_point_contained found)
  | succ tries induction =>
      rw [shortest_from_succ]
      split
      · rename_i point found
        rw [(Decimal.normalize_value point _ 20).1]
        exact rounds_of_contains (grid_point_contained found)
      · apply induction
        rwa [Nat.add_right_comm]

/-- The interval is wide for the size of the double: its half below the middle is wider than the
double divided by twice the sixteenth power of ten. -/
theorem interval_wide (some_ : value.isZero = false) : ∃ below,
    value.roundingInterval.middle = value.roundingInterval.low + below ∧
      4 * value.significand < 2 * below * 10 ^ 16 := by
  have positive := significand_positive some_
  have bound := value.significand_lt
  unfold significandBound at bound
  unfold roundingInterval
  dsimp only
  split
  · rename_i corner
    simp only [Bool.and_eq_true, decide_eq_true_eq] at corner
    have same : value.significand = exponentUnit := by
      rw [significand, if_neg (by omega), corner.1, Nat.add_zero]
    unfold exponentUnit at same
    exact ⟨1, by omega, by omega⟩
  · exact ⟨2, by omega, by omega⟩

theorem magnitude_quarters (value : Double) :
    value.magnitude = 4 * value.significand * 2 ^ (value.scale - 2) := by
  rw [magnitude, zpow_sub₀ two_ne_zero]
  norm_num
  ring

theorem step_lt_units {quarters : Nat} (reached : (10 : ℚ) ^ (order - 1) ≤ value.magnitude)
    (wide : 4 * value.significand < quarters * 10 ^ 16) :
    (commonUnits value.scale (order - 17)).2 < quarters * (commonUnits value.scale (order - 17)).1 := by
  have compare := lt_iff_lt_of_le_iff_le (units_le_iff value.scale (order - 17) quarters 1).1
  rw [one_mul] at compare
  rw [compare, Nat.cast_one, one_mul]
  have place : (0 : ℚ) < 2 ^ (value.scale - 2) := by positivity
  have cast : (4 * value.significand : ℚ) < quarters * 10 ^ 16 := by exact_mod_cast wide
  calc (10 : ℚ) ^ (order - 17)
    _ = 10 ^ (order - 1) / 10 ^ 16 := by
        rw [show order - 17 = order - 1 - 16 by ring, zpow_sub₀ (by norm_num)]
        norm_num
    _ ≤ 4 * value.significand * 2 ^ (value.scale - 2) / 10 ^ 16 := by
        rw [← magnitude_quarters]
        gcongr
    _ < quarters * 2 ^ (value.scale - 2) := by
        rw [div_lt_iff₀ (by positivity)]
        nlinarith

/-- Seventeen digits are enough. -/
theorem finest_grid (some_ : value.isZero = false)
    (reached : (10 : ℚ) ^ (order - 1) ≤ value.magnitude) :
    (value.triedPoint? (order - 17)).isSome = true := by
  have bound : 4 * value.significand < 2 * 2 * 10 ^ 16 := by
    have less := value.significand_lt
    unfold significandBound at less
    omega
  obtain ⟨below, low, wide⟩ := interval_wide some_
  have high : value.roundingInterval.high = value.roundingInterval.middle + 2 := rfl
  apply grid_point_exists (common_units_positive value.scale (order - 17)).2 low high
  · exact step_lt_units reached wide
  · exact step_lt_units reached bound

theorem logarithm_estimate :
    (∀ bits < 1024, 10 ^ (bits * 30103 / 100000) ≤ 10 * 2 ^ bits) ∧
      ∀ bits < 1075, 2 ^ bits ≤ 10 ^ ((bits * 30103 + 99999) / 100000 + 1) := by
  constructor <;> decide +kernel

/-- The first guess at the order of magnitude is too high by no more than one. -/
theorem guess_reached {bits : Int} (least : -1074 ≤ bits) (most : bits ≤ 1023) :
    (10 : ℚ) ^ (bits * 30103 / 100000 - 1) ≤ 2 ^ bits := by
  rcases Int.le_total 0 bits with up | down
  · obtain ⟨steps, rfl⟩ := Int.eq_ofNat_of_zero_le up
    have estimate : (10 : ℚ) ^ (steps * 30103 / 100000) ≤ 10 * 2 ^ steps := by
      exact_mod_cast logarithm_estimate.1 steps (by omega)
    have guess : (steps : Int) * 30103 / 100000 = (steps * 30103 / 100000 : Nat) := by omega
    rw [guess, zpow_sub_one₀ (by norm_num), zpow_natCast, zpow_natCast]
    linarith
  · obtain ⟨steps, same⟩ := Int.eq_ofNat_of_zero_le (Int.neg_nonneg_of_nonpos down)
    have opposite : bits = -(steps : Int) := by omega
    subst opposite
    have estimate : (2 : ℚ) ^ steps ≤ 10 ^ ((steps * 30103 + 99999) / 100000 + 1) := by
      exact_mod_cast logarithm_estimate.2 steps (by omega)
    have guess : -(steps : Int) * 30103 / 100000 - 1
        = -(((steps * 30103 + 99999) / 100000 + 1 : Nat) : Int) := by omega
    rw [guess, zpow_neg, zpow_neg, zpow_natCast, zpow_natCast]
    gcongr

theorem scale_most (finite : value.isFinite = true) : value.scale ≤ 971 := by
  have field : value.exponentField < 2047 := of_decide_eq_true finite
  unfold scale
  omega

theorem binary_order (some_ : value.isZero = false) (finite : value.isFinite = true) :
    -1074 ≤ (value.significand.log2 : Int) + value.scale ∧
      (value.significand.log2 : Int) + value.scale ≤ 1023 ∧
      (2 : ℚ) ^ ((value.significand.log2 : Int) + value.scale) ≤ value.magnitude := by
  have least := value.scale_least
  have most := scale_most finite
  have positive := significand_positive some_
  have bits : value.significand.log2 < 53 :=
    (Nat.log2_lt positive.ne').2 value.significand_lt
  refine ⟨by omega, by omega, ?_⟩
  have low : (2 : ℚ) ^ (value.significand.log2 : Int) ≤ value.significand := by
    exact_mod_cast Nat.log2_self_le positive.ne'
  rw [magnitude, zpow_add₀ two_ne_zero]
  gcongr

theorem decimal_order_reached (some_ : value.isZero = false) (finite : value.isFinite = true) :
    (10 : ℚ) ^ (value.decimalOrder - 1) ≤ value.magnitude := by
  have reaches : ∀ exponent, (commonUnits value.scale exponent).2
      ≤ 4 * value.significand * (commonUnits value.scale exponent).1 →
        (10 : ℚ) ^ exponent ≤ value.magnitude := by
    intro exponent reached
    have compare := (units_le_iff value.scale exponent (4 * value.significand) 1).2
    rw [one_mul, Nat.cast_one, one_mul] at compare
    rw [magnitude_quarters]
    exact_mod_cast compare.1 reached
  unfold decimalOrder
  dsimp only
  split
  · rename_i reached
    rw [show ∀ guess : Int, guess + 2 - 1 = guess + 1 by intro; ring]
    exact reaches _ (of_decide_eq_true reached)
  · split
    · rename_i reached
      rw [add_sub_cancel_right]
      exact reaches _ (of_decide_eq_true reached)
    · obtain ⟨least, most, low⟩ := binary_order some_ finite
      exact (guess_reached least most).trans low

theorem shortest_rounds (some_ : value.isZero = false) (finite : value.isFinite = true) :
    value.RoundsTo value.shortest.value := by
  rw [shortest, if_neg (by simp [some_])]
  exact shortest_from_rounds 1 16 (finest_grid some_ (decimal_order_reached some_ finite))

end Double

end ConnectionManager.Number
