import LinkKeeper.Decimal.Nearest
import Mathlib.Algebra.Order.Field.Power
import Mathlib.Data.Rat.Cast.Order
import Mathlib.Tactic.FieldSimp
import Mathlib.Tactic.GCongr
import Mathlib.Tactic.Linarith
import Mathlib.Tactic.NormNum
import Mathlib.Tactic.Positivity
import Mathlib.Tactic.Ring

/-!
How far a quotient is from the double nearest to it.

Only how far the double can be above or below the quotient matters here, and where there is none: that is so from
half a unit above the greatest double on.

* `Double.value`, `Double.Finite`: the number that a double stands for, and what all doubles have in common.
* `Double.unit_spec`, `Double.roundEven_spec`: the two steps of rounding.
* `Double.Rounds`, `Double.nearest?_rounds`, `Double.times?_rounds`, `Double.over?_rounds`: what is nearest to a
  quotient, and to products and quotients of doubles.
-/

namespace LinkKeeper.Double

variable {num den : Nat} {x y : Double}

/-- The number that the double stands for. -/
def value (x : Double) : ℚ := x.mantissa * 2 ^ x.power

/-- The mantissa and the power of a double are in their ranges. -/
structure Finite (x : Double) : Prop where
  mantissa : x.mantissa < 2 ^ 53
  least : -1074 ≤ x.power
  greatest : x.power ≤ 971

/-- A power with an integer for its exponent, as a quotient of powers with natural ones. -/
theorem zpow_eq_div (base : Nat) (positive : 0 < base) (p : ℤ) :
    (base : ℚ) ^ p = (base : ℚ) ^ p.toNat / (base : ℚ) ^ (-p).toNat := by
  have nonzero : (base : ℚ) ≠ 0 := by positivity
  rcases le_total 0 p with up | down
  · obtain ⟨n, rfl⟩ := Int.eq_ofNat_of_zero_le up
    simp
  · obtain ⟨n, same⟩ := Int.eq_ofNat_of_zero_le (Int.neg_nonneg_of_nonpos down)
    obtain rfl : p = -n := by omega
    simp

theorem ratio_value (x : Double) : (x.ratio.1 : ℚ) / x.ratio.2 = x.value := by
  have power := zpow_eq_div 2 (by decide) x.power
  unfold ratio value
  simp only [Nat.cast_mul, Nat.pow_eq, Nat.cast_pow, Nat.cast_ofNat] at power ⊢
  rw [power, mul_div_assoc]

theorem ratio_pos (x : Double) : 0 < x.ratio.2 := Nat.pow_pos (by decide)

/-! ### Rounding -/

/-- The nearest whole number is half a unit away at most. -/
theorem roundEven_spec (positive : 0 < den) :
    2 * num ≤ 2 * roundEven num den * den + den ∧ 2 * roundEven num den * den ≤ 2 * num + den := by
  have split := Nat.div_add_mod num den
  have less := Nat.mod_lt num positive
  unfold roundEven
  dsimp only
  generalize num / den = below at split
  generalize num % den = past at split less
  have product : 2 * (below + 1) * den = 2 * (den * below) + 2 * den := by ring
  have same : 2 * below * den = 2 * (den * below) := by ring
  split
  · rename_i up
    simp only [Bool.or_eq_true, Bool.and_eq_true, decide_eq_true_eq] at up
    rw [product]
    omega
  · rename_i down
    simp only [Bool.or_eq_true, Bool.and_eq_true, decide_eq_true_eq, not_or, not_and] at down
    rw [same]
    omega

theorem log2_bounds (positive : 0 < num) : 2 ^ Nat.log2 num ≤ num ∧ num < 2 ^ (Nat.log2 num + 1) :=
  ⟨Nat.log2_self_le (Nat.ne_of_gt positive), Nat.lt_log2_self⟩

/-- A quotient is compared with a power of two without dividing. -/
theorem lt_zpow_iff (denominator : 0 < den) (p : ℤ) :
    (num : ℚ) / den < 2 ^ p ↔ num * Nat.pow 2 (-p).toNat < den * Nat.pow 2 p.toNat := by
  have denPos : (0 : ℚ) < den := by exact_mod_cast denominator
  have power := zpow_eq_div 2 (by decide) p
  rw [Nat.cast_ofNat] at power
  rw [power, div_lt_div_iff₀ denPos (by positivity), mul_comm ((2 : ℚ) ^ p.toNat)]
  exact_mod_cast Iff.rfl

/-- The unit leaves at most fifty-three binary digits, and no fewer unless it is the least one. -/
theorem unit_spec (numerator : 0 < num) (denominator : 0 < den) :
    -1074 ≤ unit num den ∧ (num : ℚ) / den < 2 ^ (unit num den + 53) ∧
      (unit num den = -1074 ∨ (2 : ℚ) ^ (unit num den + 52) ≤ num / den) := by
  obtain ⟨numLow, numHigh⟩ := log2_bounds numerator
  obtain ⟨denLow, denHigh⟩ := log2_bounds denominator
  have denPos : (0 : ℚ) < den := by exact_mod_cast denominator
  have two : (2 : ℚ) ≠ 0 := two_ne_zero
  -- The quotient is between the powers of two around the difference of the logarithms.
  have below : (2 : ℚ) ^ ((Nat.log2 num : ℤ) - Nat.log2 den - 1) ≤ num / den := by
    rw [sub_sub, zpow_sub₀ two, zpow_natCast, ← Nat.cast_add_one, zpow_natCast]
    gcongr
    · exact_mod_cast numLow
    · exact_mod_cast denHigh.le
  have above : (num : ℚ) / den < 2 ^ ((Nat.log2 num : ℤ) - Nat.log2 den + 1) := by
    rw [sub_add_eq_add_sub, zpow_sub₀ two, zpow_natCast, ← Nat.cast_add_one, zpow_natCast]
    gcongr
    · exact_mod_cast numHigh
    · exact_mod_cast denLow
  unfold unit
  dsimp only
  generalize (Nat.log2 num : ℤ) - Nat.log2 den = near at below above ⊢
  obtain ⟨least, low, high, same⟩ : ∃ least : ℤ, (2 : ℚ) ^ least ≤ num / den ∧ (num : ℚ) / den < 2 ^ (least + 1) ∧
      (if num * Nat.pow 2 (-near).toNat < den * Nat.pow 2 near.toNat then near - 1 else near) = least := by
    by_cases less : num * Nat.pow 2 (-near).toNat < den * Nat.pow 2 near.toNat
    · have high := (lt_zpow_iff denominator near).mpr less
      exact ⟨near - 1, below, by rwa [sub_add_cancel], if_pos less⟩
    · have low := not_lt.mp (mt (lt_zpow_iff denominator near).mp less)
      exact ⟨near, low, above, if_neg less⟩
  rw [same]
  refine ⟨le_max_right _ _, lt_of_lt_of_le high ?_, ?_⟩
  · exact zpow_le_zpow_right₀ one_le_two (by omega)
  · rcases le_total (least - 52) (-1074) with small | large
    · exact .inl (max_eq_right small)
    · rw [max_eq_left large, sub_add_cancel]
      exact .inr low

/-! ### The nearest double -/

/-- Half a unit above the greatest double: from here on there is no nearest one. -/
def limit : ℚ := (2 ^ 54 - 1) * 2 ^ (970 : ℤ)

/-- The unit of the greatest doubles. -/
theorem greatest_unit : (2 : ℚ) ^ (971 : ℤ) = 2 * 2 ^ (970 : ℤ) := by
  rw [show (971 : ℤ) = 1 + 970 by decide, zpow_add₀ two_ne_zero, zpow_one]

theorem limit_eq_cast : limit = (((2 ^ 54 - 1) * 2 ^ 970 : ℕ) : ℚ) := by
  rw [Nat.cast_mul, Nat.cast_sub (by decide), Nat.cast_pow, Nat.cast_pow, Nat.cast_ofNat, Nat.cast_one]
  rfl

theorem lt_limit_of_nat {n : Nat} (below : n < (2 ^ 54 - 1) * 2 ^ 970) : (n : ℚ) < limit := by
  rw [limit_eq_cast]
  exact Nat.cast_lt.mpr below

theorem limit_le_of_nat {n : Nat} (past : (2 ^ 54 - 1) * 2 ^ 970 ≤ n) : limit ≤ n := by
  rw [limit_eq_cast]
  exact Nat.cast_le.mpr past

/-- A number with fifty-three digits past the greatest power is at the limit. -/
theorem limit_le_of_past {q : ℚ} {p : ℤ} (past : 971 < p) (far : (2 : ℚ) ^ (p + 52) ≤ q) : limit ≤ q := by
  have more : (2 : ℚ) ^ (54 + 970 : ℤ) ≤ 2 ^ (p + 52) := zpow_le_zpow_right₀ one_le_two (by omega)
  rw [zpow_add₀ two_ne_zero] at more
  have unit : (0 : ℚ) < 2 ^ (970 : ℤ) := zpow_pos two_pos _
  unfold limit
  generalize (2 : ℚ) ^ (970 : ℤ) = t at more unit ⊢
  norm_num at more ⊢
  linarith

/-- A number that is rounded up to the power of two after the greatest double is at the limit. -/
theorem limit_le_of_carried {q : ℚ} (up : (0x20000000000000 : ℕ) * (2 : ℚ) ^ (971 : ℤ) ≤ q + 2 ^ (971 : ℤ) / 2) :
    limit ≤ q := by
  rw [greatest_unit, Nat.cast_ofNat] at up
  unfold limit
  generalize (2 : ℚ) ^ (970 : ℤ) = t at up ⊢
  linarith

/-- Counted in units, a quotient is half of one away from its whole number at most. -/
theorem roundEven_unit (denominator : 0 < den) (p : ℤ) :
    let rounded := roundEven (num * Nat.pow 2 (-p).toNat) (den * Nat.pow 2 p.toNat)
    (num : ℚ) / den ≤ rounded * 2 ^ p + 2 ^ p / 2 ∧ (rounded : ℚ) * 2 ^ p ≤ num / den + 2 ^ p / 2 := by
  intro rounded
  have denPos : (0 : ℚ) < den := by exact_mod_cast denominator
  obtain ⟨low, high⟩ := @roundEven_spec (num * Nat.pow 2 (-p).toNat) (den * Nat.pow 2 p.toNat)
    (Nat.mul_pos denominator (Nat.pow_pos (by decide)))
  have power := zpow_eq_div 2 (by decide) p
  rw [Nat.cast_ofNat] at power
  have lowCast : 2 * (num * 2 ^ (-p).toNat) ≤ 2 * rounded * (den * 2 ^ p.toNat) + den * (2 : ℚ) ^ p.toNat := by
    exact_mod_cast low
  have highCast : 2 * rounded * (den * (2 : ℚ) ^ p.toNat) ≤ 2 * (num * 2 ^ (-p).toNat) + den * 2 ^ p.toNat := by
    exact_mod_cast high
  have units : (0 : ℚ) < 2 ^ (-p).toNat := by positivity
  constructor
  · rw [power, div_le_iff₀ denPos]
    field_simp
    linarith
  · rw [power]
    field_simp
    linarith

/-- What is nearest to a number: a double that is close to it, or none from the limit on. -/
inductive Rounds (q : ℚ) : Option Double → Prop where
  | near {y : Double} (finite : y.Finite) (above : y.value ≤ q + max q 1 / 2 ^ 53)
      (below : q ≤ y.value + max q 1 / 2 ^ 53) : Rounds q (some y)
  | none (past : limit ≤ q) : Rounds q none

/-- There is a double below the limit. -/
theorem Rounds.exists_of_lt {q : ℚ} {found : Option Double} (rounds : Rounds q found) (below : q < limit) :
    ∃ y, found = some y ∧ y.Finite ∧ y.value ≤ q + max q 1 / 2 ^ 53 ∧ q ≤ y.value + max q 1 / 2 ^ 53 := by
  cases rounds with
  | near finite above low => exact ⟨_, rfl, finite, above, low⟩
  | none past => exact absurd below (not_lt.mpr past)

/-- Half a unit is small against the quotient, or against one. -/
theorem half_unit_le (numerator : 0 < num) (denominator : 0 < den) :
    (2 : ℚ) ^ unit num den / 2 ≤ max (num / den : ℚ) 1 / 2 ^ 53 := by
  obtain ⟨-, -, least | large⟩ := unit_spec numerator denominator
  · rw [least]
    have tiny : (2 : ℚ) ^ (-1074 : ℤ) ≤ 2 ^ (-52 : ℤ) := zpow_le_zpow_right₀ one_le_two (by decide)
    have one : (1 : ℚ) ≤ max (num / den : ℚ) 1 := le_max_right _ _
    generalize (2 : ℚ) ^ (-1074 : ℤ) = t at tiny ⊢
    norm_num at tiny ⊢
    linarith
  · have most : (num / den : ℚ) ≤ max (num / den : ℚ) 1 := le_max_left _ _
    rw [zpow_add₀ two_ne_zero] at large
    norm_num at large ⊢
    linarith

/-- The double that is nearest to a quotient. -/
theorem nearest?_rounds (denominator : 0 < den) : Rounds (num / den : ℚ) (nearest? num den) := by
  rcases Nat.eq_zero_or_pos num with rfl | numerator
  · have nothing : zero.value = 0 := by simp [value, zero]
    refine .near ⟨by decide, by decide, by decide⟩ ?_ ?_ <;> rw [nothing] <;> simp
  have error := half_unit_le numerator denominator
  obtain ⟨least, high, low⟩ := unit_spec numerator denominator
  have rounds := @roundEven_unit num den denominator (unit num den)
  unfold nearest?
  rw [if_neg (Nat.ne_of_gt numerator)]
  dsimp only at rounds ⊢
  generalize roundEven _ _ = rounded at rounds ⊢
  generalize unit num den = power at *
  generalize (num : ℚ) / den = quotient at *
  obtain ⟨up, down⟩ := rounds
  have positive : (0 : ℚ) < 2 ^ power := zpow_pos two_pos power
  have digits : (2 : ℚ) ^ (power + 53) = 2 ^ 53 * 2 ^ power := by
    rw [zpow_add₀ two_ne_zero, mul_comm]
    norm_cast
  have few : rounded ≤ 2 ^ 53 := by
    have less : (rounded : ℚ) < 2 ^ 53 + 1 := by
      refine lt_of_mul_lt_mul_right ?_ positive.le
      linarith
    exact Nat.lt_succ_iff.mp (by exact_mod_cast less)
  -- Rounding up may have led to the next power of two.
  by_cases next : rounded = 0x20000000000000
  · have carried : ((0x10000000000000 : ℕ) : ℚ) * 2 ^ (power + 1) = rounded * 2 ^ power := by
      rw [next, zpow_add_one₀ two_ne_zero]
      push_cast
      ring
    simp only [next, if_true]
    rw [next] at up down carried
    split
    · rename_i within
      refine .near ⟨?_, by show -1074 ≤ power + 1; omega, within⟩ ?_ ?_
      · show 0x10000000000000 < 2 ^ 53
        decide
      · unfold value
        rw [carried]
        linarith
      · unfold value
        rw [carried]
        linarith
    · rename_i past
      rcases Int.lt_or_le 971 power with above | below
      · exact .none (limit_le_of_past above (low.resolve_left (by omega)))
      · obtain rfl : power = 971 := by omega
        exact .none (limit_le_of_carried down)
  · simp only [next, if_false]
    split
    · rename_i within
      refine .near ⟨Nat.lt_of_le_of_ne few next, least, within⟩ ?_ ?_
      · exact down.trans (by linarith)
      · exact up.trans (by unfold value; linarith)
    · rename_i past
      exact .none (limit_le_of_past (Int.not_le.mp past) (low.resolve_left (by omega)))

theorem times?_rounds (x y : Double) : Rounds (x.value * y.value) (x.times? y) := by
  rw [← x.ratio_value, ← y.ratio_value, div_mul_div_comm]
  exact_mod_cast nearest?_rounds (Nat.mul_pos x.ratio_pos y.ratio_pos)

theorem over?_rounds (x : Double) {y : Double} (positive : 0 < y.value) : Rounds (x.value / y.value) (x.over? y) := by
  have numerator : 0 < y.ratio.1 := by
    rcases Nat.eq_zero_or_pos y.ratio.1 with zero | some
    · rw [← y.ratio_value, zero] at positive
      simp at positive
    · exact some
  rw [← x.ratio_value, ← y.ratio_value, div_div_div_eq]
  exact_mod_cast nearest?_rounds (Nat.mul_pos x.ratio_pos numerator)

end LinkKeeper.Double
