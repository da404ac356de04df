import LinkKeeper.Proofs.Json.Held

/-!
Documents that a reader can keep, told by how they are written.

A text must not hold half a surrogate pair, and a number must not be too large for a double.

* `JsonNumber.Small`, `JsonNumber.exists_kept?`: numbers that are not too large.
* `Json.Readable`, `Json.Readable.exists_kept?`: documents of which all parts can be kept.
-/

namespace LinkKeeper

open Text

namespace JsonNumber

/-- Once the power of ten is worked in, there are 308 digits before the point at most. -/
def Small (n : JsonNumber) : Prop := (digits 10 n.whole).length + n.exponent.getD 0 ≤ 308

namespace Digits

/-- The least power of ten that the number is below if its digits have not come to an end. -/
def Below (d : Digits) (p : ℤ) : Prop := ((d.significand : ℚ) + 1) * 10 ^ d.exponent ≤ 10 ^ p

theorem digit_le_nine (c : Char) : ofDigits 10 [c] ≤ 9 := by
  have least : (digit? 10 c).getD 0 ≤ 9 := by
    cases digit : digit? 10 c with
    | none => exact Nat.zero_le 9
    | some d =>
        unfold digit? at digit
        obtain ⟨small, same⟩ := Option.ite_none_right_eq_some.mp digit
        rw [Option.some.inj same] at small
        exact Nat.le_of_lt_succ small
  simpa [ofDigits] using least

/-- One more digit after those. -/
theorem below_step {s : Nat} {e p : ℤ} (c : Char) (below : Below ⟨s, e + 1⟩ p) :
    Below ⟨s * 10 + ofDigits 10 [c], e⟩ p := by
  refine le_trans ?_ below
  have digit : ((ofDigits 10 [c] : ℕ) : ℚ) ≤ 9 := by exact_mod_cast digit_le_nine c
  have tens : (0 : ℚ) < 10 ^ e := zpow_pos (by norm_num) e
  show ((s * 10 + ofDigits 10 [c] : ℕ) + 1 : ℚ) * 10 ^ e ≤ (s + 1) * 10 ^ (e + 1)
  rw [zpow_add_one₀ (by norm_num)]
  push_cast
  nlinarith

theorem below_takeWhole {d : Digits} {p : ℤ} (cs : List Char)
    (below : Below ⟨d.significand, d.exponent + cs.length⟩ p) : Below (d.takeWhole cs) p := by
  induction cs generalizing d with
  | nil => simpa [takeWhole] using below
  | cons c cs ih =>
      unfold takeWhole
      dsimp only
      split
      · refine ih (below_step c ?_)
        rwa [List.length_cons, Nat.cast_add_one, ← add_assoc] at below
      · rwa [List.length_cons, Nat.cast_add_one] at below

theorem below_takeFraction {d : Digits} {p : ℤ} (cs : List Char) (below : Below d p) : Below (d.takeFraction cs) p := by
  induction cs generalizing d with
  | nil => exact below
  | cons c cs ih =>
      unfold takeFraction
      dsimp only
      split
      · refine ih (below_step c ?_)
        rwa [sub_add_cancel]
      · exact below

end Digits

/-- The digits that are taken in are not those of a larger number. -/
theorem below_takenDigits (n : JsonNumber) :
    Digits.Below n.takenDigits ((digits 10 n.whole).length + n.exponent.getD 0) := by
  refine Digits.below_takeFraction _ (Digits.below_takeWhole _ ?_)
  show ((0 : ℕ) + 1 : ℚ) * _ ≤ _
  rw [Nat.cast_zero, zero_add, one_mul, add_comm]

/-- A number that is not too large is kept. -/
theorem exists_kept? {n : JsonNumber} (small : n.Small) : ∃ kept, n.kept? = some kept := by
  unfold kept?
  split
  · exact ⟨_, rfl⟩
  rcases Digits.toDouble?_cases n.takenDigits_le with ⟨y, read, -⟩ | ⟨-, -, past⟩
  · rw [read]
    exact ⟨_, rfl⟩
  have below := n.below_takenDigits
  have power : (10 : ℚ) ^ (((digits 10 n.whole).length : ℤ) + n.exponent.getD 0) ≤ 10 ^ 308 := by
    have least := zpow_le_zpow_right₀ (by norm_num : (1 : ℚ) ≤ 10) small
    exact_mod_cast least
  have limit : (10 : ℚ) ^ 308 * (3 / 2) < Double.limit := by
    have greatest := @Double.lt_limit_of_nat (15 * 10 ^ 307) (by decide +kernel)
    rw [Nat.cast_mul, Nat.cast_pow, Nat.cast_ofNat, Nat.cast_ofNat] at greatest
    rw [show (308 : ℕ) = 307 + 1 from rfl, pow_succ]
    generalize (10 : ℚ) ^ 307 = t at greatest ⊢
    linarith
  have some_more : (0 : ℚ) < 10 ^ n.takenDigits.exponent := zpow_pos (by norm_num) _
  unfold Digits.Below at below
  generalize (10 : ℚ) ^ 308 = t at power limit
  have most : (n.takenDigits.significand : ℚ) * 10 ^ n.takenDigits.exponent ≤ t := by linarith
  have least : (0 : ℚ) ≤ n.takenDigits.significand * 10 ^ n.takenDigits.exponent := by positivity
  generalize (n.takenDigits.significand : ℚ) * 10 ^ n.takenDigits.exponent = value at past most least
  norm_num at past
  linarith

end JsonNumber

namespace Json

/-- All parts of the document can be kept. -/
inductive Readable : Json → Prop where
  | null : Readable .null
  | bool (b : Bool) : Readable (.bool b)
  | number {n : JsonNumber} (small : n.Small) : Readable (.number n)
  | text (s : String) : Readable (.text s)
  | array {items : List Json} (all : ∀ j ∈ items, Readable j) : Readable (.array items)
  | object {members : List (String × Json)} (all : ∀ m ∈ members, Readable m.2) : Readable (.object members)

/-- Items that all are kept. -/
theorem exists_keptItems_of_each {items : List Json} (each : ∀ j ∈ items, ∃ kept, j.kept? = some kept) :
    ∃ kept, keptItems items = some kept := by
  induction items with
  | nil => exact ⟨[], rfl⟩
  | cons j rest ih =>
      obtain ⟨⟨first, keptFirst⟩, later⟩ := List.forall_mem_cons.mp each
      obtain ⟨others, keptOthers⟩ := ih later
      exact ⟨first :: others, by simp [keptItems, keptFirst, keptOthers]⟩

/-- Members that all are kept, whatever has been placed before them. -/
theorem exists_keptMembers_of_each {members : List (String × Json)}
    (each : ∀ m ∈ members, ∃ kept, m.2.kept? = some kept) (placed : List (String × Json)) :
    ∃ kept, keptMembers placed members = some kept := by
  induction members generalizing placed with
  | nil => exact ⟨placed, rfl⟩
  | cons m rest ih =>
      obtain ⟨name, j⟩ := m
      obtain ⟨⟨first, keptFirst⟩, later⟩ := List.forall_mem_cons.mp each
      obtain ⟨others, keptOthers⟩ := ih later (placeMember name first placed)
      exact ⟨others, by rw [keptMembers, keptFirst, Option.bind_eq_bind, Option.bind_some, keptOthers]⟩

theorem Readable.exists_kept? {j : Json} (readable : j.Readable) : ∃ kept, j.kept? = some kept := by
  induction readable with
  | null => exact ⟨.null, rfl⟩
  | bool b => exact ⟨.bool b, rfl⟩
  | number small =>
      obtain ⟨kept, keeps⟩ := JsonNumber.exists_kept? small
      exact ⟨.number kept, congrArg (Option.map Json.number) keeps⟩
  | text s => exact ⟨.text s, rfl⟩
  | array _ ih =>
      obtain ⟨kept, keeps⟩ := exists_keptItems_of_each ih
      exact ⟨.array kept, congrArg (Option.map Json.array) keeps⟩
  | object _ ih =>
      obtain ⟨kept, keeps⟩ := exists_keptMembers_of_each ih []
      exact ⟨.object kept, congrArg (Option.map Json.object) keeps⟩

end Json

end LinkKeeper
