import LinkKeeper.Json.Kept
import LinkKeeper.Proofs.Decimal.Shortest
import LinkKeeper.Proofs.Net.Digits

/-!
A double that has been written can be read again, if not always as the same double.

Of the shortest form of a double all digits fit into sixty-four bits, so the reader starts from the same decimal. With
a negative power of ten it divides, which always ends well; with another one it multiplies, and the product could be
too large: that it is not has to be looked at for the two greatest doubles only.

* `JsonNumber.takenDigits_ofDouble`: the digits that are taken in.
* `JsonNumber.Digits.finite_of_toDouble?`: what is read as a double is one.
* `JsonNumber.exists_kept?_ofDouble`: a double that has been written is kept as some double.
-/

namespace LinkKeeper

open Text

namespace JsonNumber

namespace Digits

variable {d : Digits} {cs : List Char} {y : Double}

/-! ### Taking in digits -/

/-- The first digit is taken in before the others. -/
theorem ofDigitsAfter_cons (n : Nat) (c : Char) (cs : List Char) :
    ofDigitsAfter n (c :: cs) = ofDigitsAfter (n * 10 + ofDigits 10 [c]) cs := by
  have first : ofDigits 10 [c] = (digit? 10 c).getD 0 := by simp [ofDigits]
  rw [first]
  rfl

theorem takeWhole_eq (fits : ofDigitsAfter d.significand cs ≤ maxWord64) :
    d.takeWhole cs = ⟨ofDigitsAfter d.significand cs, d.exponent⟩ := by
  induction cs generalizing d with
  | nil => rfl
  | cons c cs ih =>
      rw [ofDigitsAfter_cons] at fits ⊢
      rw [takeWhole, if_pos ((le_ofDigitsAfter _ cs).trans fits)]
      exact @ih ⟨_, d.exponent⟩ fits

theorem takeFraction_eq (fits : ofDigitsAfter d.significand cs ≤ maxWord64) :
    d.takeFraction cs = ⟨ofDigitsAfter d.significand cs, d.exponent - cs.length⟩ := by
  induction cs generalizing d with
  | nil => simp [takeFraction, ofDigitsAfter]
  | cons c cs ih =>
      rw [ofDigitsAfter_cons] at fits ⊢
      rw [takeFraction, if_pos ((le_ofDigitsAfter _ cs).trans fits)]
      rw [@ih ⟨_, d.exponent - 1⟩ fits, List.length_cons]
      simp only [Digits.mk.injEq, true_and]
      omega

end Digits

/-- All digits of a number are taken in if they fit into sixty-four bits. -/
theorem takenDigits_eq {n : JsonNumber} {value : Nat}
    (spells : ofDigitsAfter n.whole (n.fraction.getD "").toList = value) (fits : value ≤ maxWord64) :
    n.takenDigits = ⟨value, n.exponent.getD 0 - (n.fraction.getD "").toList.length⟩ := by
  have whole := ofDigitsAfter_digits n.whole
  subst spells
  unfold takenDigits
  dsimp only
  rw [@Digits.takeWhole_eq ⟨0, _⟩ _ (whole.trans_le ((le_ofDigitsAfter _ _).trans fits)), whole]
  exact @Digits.takeFraction_eq ⟨n.whole, _⟩ _ fits

/-- Digits with a point between them stand for the number without the point. -/
theorem takenDigits_of_split {negative : Bool} {front back ds : List Char} {exponent : Option Int}
    (split : front ++ back = ds) (fits : ofDigits 10 ds ≤ maxWord64) :
    takenDigits ⟨negative, ofDigits 10 front, some (String.ofList back), exponent⟩ =
      ⟨ofDigits 10 ds, exponent.getD 0 - back.length⟩ := by
  have spells : ofDigitsAfter (ofDigits 10 front) back = ofDigits 10 ds := by
    rw [← split]
    exact (ofDigitsAfter_append 0 front back).symm
  have taken := @takenDigits_eq ⟨negative, ofDigits 10 front, some (String.ofList back), exponent⟩ (ofDigits 10 ds)
    (by rw [Option.getD_some, String.toList_ofList, spells]) fits
  rw [taken, Option.getD_some, String.toList_ofList]

theorem takenDigits_of_whole {negative : Bool} {whole : Nat} (fits : whole * 10 ≤ maxWord64) :
    takenDigits ⟨negative, whole, some "0", none⟩ = ⟨whole * 10, -1⟩ := by
  have zero : ("0" : String).toList = ['0'] := rfl
  have spells : ofDigitsAfter whole ['0'] = whole * 10 := by simp [ofDigitsAfter, digit?]
  have taken := @takenDigits_eq ⟨negative, whole, some "0", none⟩ (whole * 10)
    (by rw [Option.getD_some, zero, spells]) fits
  rw [taken, Option.getD_some, zero]
  rfl

theorem takenDigits_of_none {negative : Bool} {whole : Nat} {exponent : Option Int} (fits : whole ≤ maxWord64) :
    takenDigits ⟨negative, whole, none, exponent⟩ = ⟨whole, exponent.getD 0⟩ := by
  have nothing : ("" : String).toList = [] := rfl
  have taken := @takenDigits_eq ⟨negative, whole, none, exponent⟩ whole (by rw [Option.getD_none, nothing]; rfl) fits
  rw [taken, Option.getD_none, nothing]
  simp

/-- Zeros in front do not count. -/
theorem ofDigits_zeros (count : Nat) (ds : List Char) :
    ofDigits 10 (List.replicate count '0' ++ ds) = ofDigits 10 ds := by
  have nothing : ofDigitsAfter 0 (List.replicate count '0') = 0 := by
    induction count with
    | zero => rfl
    | succ n ih => exact ih
  show ofDigitsAfter 0 (List.replicate count '0' ++ ds) = ofDigitsAfter 0 ds
  rw [ofDigitsAfter_append, nothing]

theorem takenDigits_of_zeros {negative : Bool} {count : Nat} {ds : List Char} (fits : ofDigits 10 ds ≤ maxWord64) :
    takenDigits ⟨negative, 0, some (String.ofList (List.replicate count '0' ++ ds)), none⟩ =
      ⟨ofDigits 10 ds, -(count + ds.length : Nat)⟩ := by
  have taken := @takenDigits_of_split negative [] _ _ none (List.nil_append _)
    ((ofDigits_zeros count ds).trans_le fits)
  have zero : ofDigits 10 [] = 0 := rfl
  rw [zero, ofDigits_zeros, Option.getD_none, List.length_append, List.length_replicate, Int.zero_sub] at taken
  exact taken

/-- Of the shortest form of a double all digits are taken in; or there is nothing but a zero behind the point. -/
theorem takenDigits_ofDouble (negative : Bool) (x : Double) :
    (ofDouble negative x).takenDigits.significand ≤ maxWord64 ∧
      (0 < x.mantissa ∧
          (ofDouble negative x).takenDigits = ⟨(Decimal.shortest x).coefficient, (Decimal.shortest x).scale⟩ ∨
        (ofDouble negative x).takenDigits.exponent = -1) := by
  unfold ofDouble
  by_cases zero : x.mantissa = 0
  · rw [if_pos zero, takenDigits_of_whole (by decide)]
    exact ⟨by decide, .inr rfl⟩
  rw [if_neg zero]
  dsimp only
  have positive := Nat.pos_of_ne_zero zero
  have fits := Decimal.shortest_coefficient_le positive
  generalize Decimal.shortest x = d at fits ⊢
  have word : d.coefficient ≤ maxWord64 := fits.trans (by decide)
  have value := ofDigits_digits reads_ten d.coefficient
  have longest : d.coefficient < 10 ^ (digits 10 d.coefficient).length := Decimal.lt_pow_length d.coefficient
  have some_digits : 0 < (digits 10 d.coefficient).length := List.length_pos_iff.mpr (digits_ne_nil 10 _)
  generalize digits 10 d.coefficient = ds at value longest some_digits ⊢
  rw [← value] at word
  -- The point is behind the digits, between them, or in front of them, or there is a power of ten.
  split
  · rename_i whole
    simp only [Bool.and_eq_true, decide_eq_true_eq] at whole
    have less : d.coefficient * 10 ^ d.scale.toNat < 10 ^ 16 := by
      have power : 10 ^ ds.length * 10 ^ d.scale.toNat ≤ 10 ^ 16 := by
        rw [← Nat.pow_add]
        exact Nat.pow_le_pow_right (by decide) (by omega)
      exact ((Nat.mul_lt_mul_right (Nat.pow_pos (by decide))).mpr longest).trans_le power
    have small : d.coefficient * Nat.pow 10 d.scale.toNat * 10 ≤ maxWord64 := by
      rw [Nat.pow_eq]
      unfold maxWord64
      omega
    rw [takenDigits_of_whole small]
    exact ⟨small, .inr rfl⟩
  split
  · rename_i short between
    simp only [Bool.and_eq_true, decide_eq_true_eq] at short between
    rw [takenDigits_of_split (List.take_append_drop _ ds) word, ← value, List.length_drop]
    refine ⟨word, .inl ⟨positive, ?_⟩⟩
    rw [Option.getD_none, Digits.mk.injEq]
    exact ⟨rfl, by omega⟩
  split
  · rename_i short between behind
    simp only [Bool.and_eq_true, decide_eq_true_eq] at short behind
    rw [takenDigits_of_zeros word, ← value]
    refine ⟨word, .inl ⟨positive, ?_⟩⟩
    rw [Digits.mk.injEq]
    exact ⟨rfl, by omega⟩
  split
  · rename_i single
    have all : ds.take 1 = ds := List.take_of_length_le (by omega)
    rw [all, takenDigits_of_none word, ← value]
    refine ⟨word, .inl ⟨positive, ?_⟩⟩
    rw [Option.getD_some, Digits.mk.injEq]
    exact ⟨rfl, by simp [single]⟩
  · rw [takenDigits_of_split (List.take_append_drop _ ds) word, ← value, List.length_drop]
    refine ⟨word, .inl ⟨positive, ?_⟩⟩
    rw [Option.getD_some, Digits.mk.injEq]
    exact ⟨rfl, by omega⟩

/-! ### Reading doubles -/

namespace Digits

variable {d : Digits} {y : Double}

theorem lt_limit_of_le {q : ℚ} (small : q ≤ 2 ^ 70) : q < Double.limit := by
  have below := @Double.lt_limit_of_nat (2 ^ 70) (by decide +kernel)
  rw [Nat.cast_pow, Nat.cast_ofNat] at below
  exact small.trans_lt below

/-- The powers of ten that are multiplied with are below the limit. -/
theorem tenTo?_spec {n : Nat} (small : n ≤ 308) :
    ∃ t, tenTo? n = some t ∧ t.Finite ∧ 1 / 2 ≤ t.value ∧ t.value ≤ 10 ^ n * (1 + 1 / 2 ^ 53) := by
  have one : (1 : ℚ) ≤ 10 ^ n := one_le_pow₀ (by norm_num)
  have below : (10 : ℚ) ^ n < Double.limit := by
    have greatest := @Double.lt_limit_of_nat (10 ^ n)
      ((Nat.pow_le_pow_right (by decide) small).trans_lt (by decide +kernel))
    rwa [Nat.cast_pow, Nat.cast_ofNat] at greatest
  have rounds := @Double.nearest?_rounds (Nat.pow 10 n) 1 Nat.one_pos
  have same : ((Nat.pow 10 n : ℕ) : ℚ) / (1 : ℕ) = 10 ^ n := by
    rw [Nat.pow_eq]
    push_cast
    ring
  rw [same] at rounds
  obtain ⟨t, found, finite, above, low⟩ := rounds.exists_of_lt below
  rw [max_eq_left one] at above low
  refine ⟨t, found, finite, ?_, ?_⟩ <;> linarith

/-- Every significand is near some double. -/
theorem exists_significand (word : d.significand ≤ maxWord64) :
    ∃ f, Double.nearest? d.significand 1 = some f ∧ f.Finite ∧ f.value ≤ 2 ^ 65 ∧
      (d.significand ≠ 0 → f.value ≤ d.significand * (1 + 1 / 2 ^ 53)) := by
  have rounds := @Double.nearest?_rounds d.significand 1 Nat.one_pos
  have small : (d.significand : ℚ) ≤ 2 ^ 64 := by
    have less : d.significand ≤ 2 ^ 64 := word.trans (by decide)
    exact_mod_cast less
  rw [Nat.cast_one, div_one] at rounds
  obtain ⟨f, found, finite, above, -⟩ := rounds.exists_of_lt (lt_limit_of_le (by linarith))
  refine ⟨f, found, finite, above.trans ?_, fun nonzero => above.trans ?_⟩
  · have most : max (d.significand : ℚ) 1 ≤ 2 ^ 64 := max_le small (by norm_num)
    linarith
  · have one : (1 : ℚ) ≤ d.significand := by exact_mod_cast Nat.one_le_iff_ne_zero.mpr nonzero
    rw [max_eq_left one]
    linarith

/-- A quotient by a power of ten is a double. -/
theorem exists_over? {f t : Double} {bound : ℚ} (small : f.value ≤ bound) (large : 1 / 2 ≤ t.value)
    (least : 1 ≤ bound) (most : bound ≤ 2 ^ 67) :
    ∃ y, f.over? t = some y ∧ y.Finite ∧ y.value ≤ 4 * bound := by
  have positive : 0 < t.value := by linarith
  have quotient : f.value / t.value ≤ 2 * bound := by
    rw [div_le_iff₀ positive]
    nlinarith
  obtain ⟨y, found, finite, above, -⟩ := (f.over?_rounds positive).exists_of_lt (lt_limit_of_le (by linarith))
  have error : max (f.value / t.value) 1 ≤ 2 * bound := max_le quotient (by linarith)
  exact ⟨y, found, finite, by linarith⟩

/-- A double is read, unless the power of ten is not negative and the number is too large. -/
theorem toDouble?_cases (word : d.significand ≤ maxWord64) :
    (∃ y, d.toDouble? = some y ∧ y.Finite) ∨
      d.toDouble? = none ∧ 0 ≤ d.exponent ∧
        Double.limit ≤ d.significand * (10 : ℚ) ^ d.exponent * (1 + 1 / 2 ^ 53) ^ 2 := by
  obtain ⟨f, found, finite, small, near⟩ := exists_significand word
  have positive : (0 : ℚ) < 1 + 1 / 2 ^ 53 := by norm_num
  unfold toDouble?
  simp only [found, Option.bind_eq_bind, Option.bind_some]
  by_cases nonneg : 0 ≤ d.exponent
  · by_cases zero : d.significand = 0
    · exact .inl ⟨f, by rw [if_pos nonneg, if_pos zero], finite⟩
    have one : (1 : ℚ) ≤ d.significand := by exact_mod_cast Nat.one_le_iff_ne_zero.mpr zero
    obtain ⟨places, same⟩ := Int.eq_ofNat_of_zero_le nonneg
    rw [if_pos nonneg, if_neg zero, same, Int.natAbs_natCast, zpow_natCast]
    by_cases few : places ≤ 308
    · obtain ⟨t, power, -, large, above⟩ := tenTo?_spec few
      rw [if_pos few, power, Option.bind_some]
      have product := f.times?_rounds t
      have most : f.value * t.value ≤ d.significand * 10 ^ places * (1 + 1 / 2 ^ 53) ^ 2 :=
        calc f.value * t.value ≤ d.significand * (1 + 1 / 2 ^ 53) * (10 ^ places * (1 + 1 / 2 ^ 53)) := by
              gcongr
              exact near zero
          _ = d.significand * 10 ^ places * (1 + 1 / 2 ^ 53) ^ 2 := by ring
      generalize f.times? t = found at product ⊢
      cases product with
      | near finite => exact .inl ⟨_, rfl, finite⟩
      | none past => exact .inr ⟨rfl, Int.natCast_nonneg _, past.trans most⟩
    · rw [if_neg few]
      have far : 309 ≤ places := by omega
      have past := @Double.limit_le_of_nat (10 ^ places)
        (le_trans (by decide +kernel) (Nat.pow_le_pow_right (by decide) far))
      rw [Nat.cast_pow, Nat.cast_ofNat] at past
      have more : (10 : ℚ) ^ places ≤ d.significand * 10 ^ places := le_mul_of_one_le_left (by positivity) one
      exact .inr ⟨rfl, Int.natCast_nonneg _, (past.trans more).trans
        (le_mul_of_one_le_right (by positivity) (by norm_num))⟩
  · rw [if_neg nonneg]
    refine .inl ?_
    by_cases few : d.exponent.natAbs ≤ 308
    · obtain ⟨t, power, -, large, -⟩ := tenTo?_spec few
      obtain ⟨y, quotient, finite, -⟩ := exists_over? small large (by norm_num) (by norm_num)
      rw [if_pos few, power, Option.bind_some]
      exact ⟨y, quotient, finite⟩
    rw [if_neg few]
    by_cases some_left : d.exponent.natAbs ≤ 616
    · obtain ⟨t, power, -, large, -⟩ := tenTo?_spec (Nat.le_refl 308)
      obtain ⟨u, others, -, more, -⟩ := @tenTo?_spec (d.exponent.natAbs - 308) (by omega)
      obtain ⟨z, first, -, less⟩ := exists_over? small large (by norm_num) (by norm_num)
      obtain ⟨y, second, finite, -⟩ := exists_over? less more (by norm_num) (by norm_num)
      rw [if_pos some_left, power, others, Option.bind_some, first, Option.bind_some, Option.bind_some]
      exact ⟨y, second, finite⟩
    · rw [if_neg some_left]
      exact ⟨.zero, rfl, by decide, by decide, by decide⟩

/-- What is read as a double is one. -/
theorem finite_of_toDouble? (word : d.significand ≤ maxWord64) (read : d.toDouble? = some y) : y.Finite := by
  rcases toDouble?_cases word with ⟨z, found, finite⟩ | ⟨none, -, -⟩
  · obtain rfl := Option.some.inj (read.symm.trans found)
    exact finite
  · rw [read] at none
    cases none

end Digits

/-! ### Doubles that have been written -/

/-- The two greatest doubles are read, though the numbers that are multiplied have been rounded up. -/
theorem exists_toDouble?_greatest : ∀ negative boundary : Bool,
    (ofDouble negative ⟨2 ^ 53 - 1, 971, boundary⟩).takenDigits.toDouble?.isSome = true ∧
      (ofDouble negative ⟨2 ^ 53 - 2, 971, boundary⟩).takenDigits.toDouble?.isSome = true := by
  decide +kernel

/-- A double other than those is so far below the limit that rounding up twice does not reach it. -/
theorem lt_limit_of_finite {x : Double} (finite : x.Finite) (others : x.power = 971 → x.mantissa < 2 ^ 53 - 2) :
    (x.value + 2 ^ x.power / 2) * (1 + 1 / 2 ^ 53) ^ 2 < Double.limit := by
  have unit : (0 : ℚ) < 2 ^ (970 : ℤ) := zpow_pos two_pos _
  have split : x.value + 2 ^ x.power / 2 = (x.mantissa + 1 / 2) * 2 ^ x.power := by
    unfold Double.value
    ring
  rw [split]
  unfold Double.limit
  rcases Int.lt_or_eq_of_le finite.greatest with below | greatest
  · have least : x.power ≤ 970 := Int.lt_add_one_iff.mp below
    have power : (2 : ℚ) ^ x.power ≤ 2 ^ (970 : ℤ) := zpow_le_zpow_right₀ one_le_two least
    have mantissa : (x.mantissa : ℚ) + 1 / 2 ≤ 2 ^ 53 := by
      have less : (x.mantissa : ℚ) + 1 ≤ 2 ^ 53 := by exact_mod_cast finite.mantissa
      linarith
    generalize (2 : ℚ) ^ (970 : ℤ) = t at unit power ⊢
    calc (x.mantissa + 1 / 2) * (2 : ℚ) ^ x.power * (1 + 1 / 2 ^ 53) ^ 2
        ≤ 2 ^ 53 * t * (1 + 1 / 2 ^ 53) ^ 2 := by gcongr
      _ < (2 ^ 54 - 1) * t := by
          norm_num
          linarith
  · have mantissa : (x.mantissa : ℚ) + 1 / 2 ≤ 2 ^ 53 - 5 / 2 := by
      have less : (x.mantissa : ℚ) + 1 ≤ (2 ^ 53 - 2 : ℕ) := by exact_mod_cast others greatest
      norm_num at less ⊢
      linarith
    rw [greatest, Double.greatest_unit]
    generalize (2 : ℚ) ^ (970 : ℤ) = t at unit ⊢
    calc (x.mantissa + 1 / 2) * (2 * t) * (1 + 1 / 2 ^ 53) ^ 2
        ≤ (2 ^ 53 - 5 / 2) * (2 * t) * (1 + 1 / 2 ^ 53) ^ 2 := by gcongr
      _ < (2 ^ 54 - 1) * t := by
          norm_num
          linarith

/-- What is written of a double has its sign, and a point or a power of ten. -/
theorem ofDouble_cases (negative : Bool) (x : Double) : ∃ whole fraction exponent,
    ofDouble negative x = ⟨negative, whole, fraction, exponent⟩ ∧ (fraction.isSome ∨ exponent.isSome) := by
  unfold ofDouble
  dsimp only
  split
  · exact ⟨_, _, _, rfl, .inl rfl⟩
  split
  · exact ⟨_, _, _, rfl, .inl rfl⟩
  split
  · exact ⟨_, _, _, rfl, .inl rfl⟩
  split
  · exact ⟨_, _, _, rfl, .inl rfl⟩
  · exact ⟨_, _, _, rfl, .inr rfl⟩

theorem negative_ofDouble (negative : Bool) (x : Double) : (ofDouble negative x).negative = negative := by
  obtain ⟨_, _, _, same, -⟩ := ofDouble_cases negative x
  rw [same]

theorem toInt?_ofDouble (negative : Bool) (x : Double) : (ofDouble negative x).toInt? = none := by
  obtain ⟨whole, fraction, exponent, same, told⟩ := ofDouble_cases negative x
  rw [same]
  cases fraction with
  | some f => rfl
  | none =>
      cases exponent with
      | some e => rfl
      | none => simp at told

/-- A double that has been written is read. -/
theorem exists_toDouble?_ofDouble (negative : Bool) {x : Double} (finite : x.Finite) :
    ∃ y, (ofDouble negative x).takenDigits.toDouble? = some y := by
  obtain ⟨word, taken⟩ := takenDigits_ofDouble negative x
  rcases Digits.toDouble?_cases word with ⟨y, found, -⟩ | ⟨-, nonneg, past⟩
  · exact ⟨y, found⟩
  obtain ⟨positive, same⟩ := taken.resolve_right (by omega)
  -- Only the two greatest doubles come near the limit.
  by_cases greatest : x.power = 971 ∧ 2 ^ 53 - 2 ≤ x.mantissa
  · obtain ⟨mantissa, power, boundary⟩ := x
    obtain ⟨rfl, large⟩ := greatest
    obtain ⟨last, other⟩ := exists_toDouble?_greatest negative boundary
    have few := finite.mantissa
    dsimp only at large few
    obtain rfl | rfl : mantissa = 2 ^ 53 - 1 ∨ mantissa = 2 ^ 53 - 2 := by omega
    · exact Option.isSome_iff_exists.mp last
    · exact Option.isSome_iff_exists.mp other
  · rw [same] at past
    have below := lt_limit_of_finite finite fun power => by omega
    have short := Decimal.shortest_value_le positive
    refine absurd (past.trans ?_) (not_le.mpr below)
    exact mul_le_mul_of_nonneg_right short (by positivity)

/-- A double that has been written is kept as some double. -/
theorem exists_kept?_ofDouble (negative : Bool) {x : Double} (finite : x.Finite) :
    ∃ y, y.Finite ∧ (ofDouble negative x).kept? = some (ofDouble negative y) := by
  obtain ⟨y, read⟩ := exists_toDouble?_ofDouble negative finite
  refine ⟨y, Digits.finite_of_toDouble? (takenDigits_ofDouble negative x).1 read, ?_⟩
  unfold kept?
  rw [toInt?_ofDouble, read, negative_ofDouble]
  rfl

end JsonNumber

end LinkKeeper
