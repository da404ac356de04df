import LinkKeeper.Proofs.Decimal.Nearest

/-!
How large the shortest decimal of a double can be.

It is half a unit above the double at most, and has no more digits than are tried.

* `Decimal.lt_magnitude`: how many digits a quotient has before the point.
* `Decimal.shortest_coefficient_le`, `Decimal.shortest_value_le`: the two bounds.
-/

namespace LinkKeeper

open Double (zpow_eq_div)

/-- A quarter of a unit is counted in the same parts as the value. -/
theorem Double.quadruple_spec (x : Double) :
    0 < x.quadruple.2 ∧ (x.quadruple.1 : ℚ) / (4 * x.quadruple.2 : ℕ) = x.value ∧
      (0 < x.mantissa → (x.quadruple.1 / x.mantissa / 4 : ℕ) / (x.quadruple.2 : ℚ) = 2 ^ x.power) := by
  have power := zpow_eq_div 2 (by decide) x.power
  rw [Nat.cast_ofNat] at power
  unfold quadruple value
  split
  · rename_i up
    rw [show (-x.power).toNat = 0 by omega, pow_zero, div_one] at power
    refine ⟨Nat.one_pos, ?_, fun positive => ?_⟩
    · rw [power]
      simp only [Nat.pow_eq, Nat.cast_mul, Nat.cast_ofNat, Nat.cast_pow, Nat.cast_one]
      ring
    · have whole : 4 * x.mantissa * Nat.pow 2 x.power.toNat / x.mantissa / 4 = 2 ^ x.power.toNat := by
        rw [Nat.div_div_eq_div_mul, Nat.mul_comm 4]
        exact Nat.mul_div_cancel_left _ (Nat.mul_pos positive (by decide))
      rw [whole, power]
      simp
  · rename_i down
    rw [show x.power.toNat = 0 by omega, pow_zero] at power
    have den : (0 : ℚ) < 2 ^ (-x.power).toNat := by positivity
    refine ⟨Nat.pow_pos (by decide), ?_, fun positive => ?_⟩
    · rw [power]
      simp only [Nat.pow_eq, Nat.cast_mul, Nat.cast_ofNat, Nat.cast_pow]
      field_simp
    · have whole : 4 * x.mantissa / x.mantissa / 4 = 1 := by
        rw [Nat.mul_div_cancel _ positive]
      rw [whole, power]
      simp

theorem Double.quadruple_pos (x : Double) (positive : 0 < x.mantissa) : 0 < x.quadruple.1 := by
  unfold quadruple
  split
  · exact Nat.mul_pos (Nat.mul_pos (by decide) positive) (Nat.pow_pos (by decide))
  · exact Nat.mul_pos (by decide) positive

namespace Decimal

variable {num den count : Nat} {x : Double} {d : Decimal}

/-- The number that the decimal stands for. -/
def value (d : Decimal) : ℚ := d.coefficient * 10 ^ d.scale

/-- The first digit of a number stands for a power of ten. -/
theorem pow_length_le {n : Nat} (positive : 0 < n) : 10 ^ ((Nat.toDigits 10 n).length - 1) ≤ n := by
  generalize length : (Nat.toDigits 10 n).length - 1 = others
  cases others with
  | zero => rwa [pow_zero]
  | succ k =>
      have more : ¬(Nat.toDigits 10 n).length ≤ k + 1 := by omega
      exact not_lt.mp (mt (Nat.length_toDigits_le_iff (by decide) k.succ_pos).mpr more)

theorem lt_pow_length (n : Nat) : n < 10 ^ (Nat.toDigits 10 n).length :=
  (Nat.length_toDigits_le_iff (by decide) Nat.length_toDigits_pos).mp (Nat.le_refl _)

/-- A quotient has no more digits before the point than are counted. -/
theorem lt_magnitude (numerator : 0 < num) (denominator : 0 < den) : (num : ℚ) / den < 10 ^ magnitude num den := by
  have denPos : (0 : ℚ) < den := by exact_mod_cast denominator
  unfold magnitude
  split
  · have less := (Nat.div_lt_iff_lt_mul denominator).mp (lt_pow_length (num / den))
    rw [div_lt_iff₀ denPos, Int.ofNat_eq_natCast, zpow_natCast]
    exact_mod_cast less
  · rename_i below
    -- There are as many zeros as there are digits behind the first one of the inverse.
    have quotient : 0 < den / num := Nat.div_pos (by omega) numerator
    have power := pow_length_le quotient
    generalize (Nat.toDigits 10 (den / num)).length - 1 = zeros at power
    have most : num * 10 ^ zeros ≤ den := (Nat.mul_le_mul_left num power).trans (Nat.mul_div_le den num)
    have tens : (0 : ℚ) < 10 ^ zeros := by positivity
    dsimp only
    split
    · rename_i exactly
      have same : (num : ℚ) * 10 ^ zeros = den := by exact_mod_cast exactly
      rw [Int.ofNat_eq_natCast, zpow_sub₀ (by norm_num), zpow_natCast, zpow_one, div_lt_div_iff₀ denPos tens, same]
      linarith
    · rename_i apart
      have less : (num : ℚ) * 10 ^ zeros < den := by exact_mod_cast Nat.lt_of_le_of_ne most apart
      rw [Int.ofNat_eq_natCast, zpow_neg, zpow_natCast, div_lt_iff₀ denPos, inv_mul_eq_div, lt_div_iff₀ tens]
      exact less

/-! ### The decimals that are tried -/

/-- What reads back is half a unit above the double at most. -/
theorem le_of_readsBack {value quarter point : Nat} (reads : readsBack x value quarter point = true) :
    point ≤ value + 2 * quarter := by
  unfold readsBack at reads
  dsimp only at reads
  split at reads
  · exact (of_decide_eq_true (Bool.and_eq_true_iff.mp reads).2)
  · exact (of_decide_eq_true (Bool.and_eq_true_iff.mp reads).2).le

/-- A decimal that is tried is one of the two around the double, and reads back. -/
theorem ofLength?_cases (found : ofLength? x count = some d) :
    let value := x.quadruple.1 * 10 ^ (-d.scale).toNat
    let quarter := x.quadruple.1 / x.mantissa / 4 * 10 ^ (-d.scale).toNat
    let step := 4 * x.quadruple.2 * 10 ^ d.scale.toNat
    d.scale = magnitude x.quadruple.1 (4 * x.quadruple.2) - count ∧
      (d.coefficient = value / step ∨ d.coefficient = value / step + 1) ∧
        d.coefficient * step ≤ value + 2 * quarter := by
  unfold ofLength? at found
  dsimp only at found
  split at found
  · cases found
  · rename_i down up
    cases found
    exact ⟨rfl, .inl rfl, le_of_readsBack down⟩
  · rename_i down up
    cases found
    exact ⟨rfl, .inr rfl, le_of_readsBack up⟩
  · rename_i down up
    split at found
    · cases found
      exact ⟨rfl, .inl rfl, le_of_readsBack down⟩
    · cases found
      exact ⟨rfl, .inr rfl, le_of_readsBack up⟩

/-- A decimal that is tried is half a unit above the double at most. -/
theorem value_le_of_ofLength? (positive : 0 < x.mantissa) (found : ofLength? x count = some d) :
    d.value ≤ x.value + 2 ^ x.power / 2 := by
  obtain ⟨-, -, within⟩ := ofLength?_cases found
  obtain ⟨denominator, value, unit⟩ := x.quadruple_spec
  have tens := zpow_eq_div 10 (by decide) d.scale
  have denPos : (0 : ℚ) < x.quadruple.2 := by exact_mod_cast denominator
  have cast : (d.coefficient : ℚ) * (4 * x.quadruple.2 * 10 ^ d.scale.toNat) ≤
      x.quadruple.1 * 10 ^ (-d.scale).toNat +
        2 * ((x.quadruple.1 / x.mantissa / 4 : ℕ) * 10 ^ (-d.scale).toNat) := by
    exact_mod_cast within
  rw [Nat.cast_ofNat] at tens
  rw [Decimal.value, tens, ← value, ← unit positive]
  generalize x.quadruple.1 / x.mantissa / 4 = quarter at cast ⊢
  have low : (0 : ℚ) < 10 ^ (-d.scale).toNat := by positivity
  push_cast
  field_simp
  linarith

/-- A decimal that is tried has no more digits than asked for, or is the power of ten after those. -/
theorem coefficient_le_of_ofLength? (positive : 0 < x.mantissa) (found : ofLength? x count = some d) :
    d.coefficient ≤ 10 ^ count := by
  obtain ⟨scale, around, -⟩ := ofLength?_cases found
  obtain ⟨denominator, -, -⟩ := x.quadruple_spec
  have magnitude := lt_magnitude (x.quadruple_pos positive) (Nat.mul_pos (by decide : 0 < 4) denominator)
  have tens := zpow_eq_div 10 (by decide) d.scale
  have denPos : (0 : ℚ) < x.quadruple.2 := by exact_mod_cast denominator
  have step : 0 < 4 * x.quadruple.2 * 10 ^ d.scale.toNat := by positivity
  have below : x.quadruple.1 * 10 ^ (-d.scale).toNat / (4 * x.quadruple.2 * 10 ^ d.scale.toNat) < 10 ^ count := by
    rw [show Decimal.magnitude _ _ = d.scale + count by omega, zpow_add₀ (by norm_num), zpow_natCast] at magnitude
    rw [Nat.cast_ofNat] at tens
    push_cast at magnitude
    rw [tens, div_mul_eq_mul_div, div_lt_div_iff₀ (by positivity) (by positivity)] at magnitude
    rw [Nat.div_lt_iff_lt_mul step]
    have cast : (x.quadruple.1 : ℚ) * 10 ^ (-d.scale).toNat <
        10 ^ count * (4 * x.quadruple.2 * 10 ^ d.scale.toNat) := by linarith
    exact_mod_cast cast
  omega

/-! ### The shortest one -/

theorem shortest_cases (x : Double) : shortest x = ⟨0, 0⟩ ∨ ∃ n < 17, ofLength? x (n + 1) = some (shortest x) := by
  unfold shortest
  cases found : (List.range 17).findSome? fun n => ofLength? x (n + 1) with
  | none => exact .inl rfl
  | some d =>
      obtain ⟨n, mem, short⟩ := List.exists_of_findSome?_eq_some found
      exact .inr ⟨n, List.mem_range.mp mem, short⟩

theorem shortest_value_le (positive : 0 < x.mantissa) : (shortest x).value ≤ x.value + 2 ^ x.power / 2 := by
  rcases shortest_cases x with none | ⟨n, -, found⟩
  · rw [none]
    have nonneg : 0 ≤ x.value + 2 ^ x.power / 2 := by
      have unit : (0 : ℚ) < 2 ^ x.power := zpow_pos two_pos _
      unfold Double.value
      positivity
    simpa [value] using nonneg
  · exact value_le_of_ofLength? positive found

theorem shortest_coefficient_le (positive : 0 < x.mantissa) : (shortest x).coefficient ≤ 10 ^ 17 := by
  rcases shortest_cases x with none | ⟨n, small, found⟩
  · rw [none]
    exact Nat.zero_le _
  · exact (coefficient_le_of_ofLength? positive found).trans (Nat.pow_le_pow_right (by decide) small)

end Decimal

end LinkKeeper
