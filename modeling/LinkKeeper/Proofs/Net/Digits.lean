import LinkKeeper.Net.Address.Parser
import LinkKeeper.Net.Address.Printer

/-!
Digits are read back as the number that they were written for.

* `Text.Reads`: the bases whose digits are read back, ten and sixteen among them.
* `Text.Spells`, `Text.spells_digits`: digits that stand for a number, those that it is written with among them.
* `Text.spanDigits_eq_iff`: digits before other text.
* `Net.Read.number_eq_some_iff`, `Net.Read.number_digits`: what the reader of a number makes of them.
-/

namespace LinkKeeper

namespace Text

/-- Each digit of the base is read back. -/
structure Reads (base : Nat) : Prop where
  two_le : 1 < base
  digit : ∀ d < base, digit? base (Nat.digitChar d) = some d

theorem reads_ten : Reads 10 := ⟨by decide, by decide⟩

theorem reads_sixteen : Reads 16 := ⟨by decide, by decide⟩

section Digits

variable {base n : Nat} {rest : List Char}

/-- A number is one digit, or the digits of its quotient with one more. -/
theorem digits_cases (reads : Reads base) (n : Nat) :
    (n < base ∧ digits base n = [Nat.digitChar n]) ∨
      base ≤ n ∧ n / base < n ∧ digits base n = digits base (n / base) ++ [Nat.digitChar (n % base)] := by
  by_cases small : n < base
  · exact .inl ⟨small, Nat.toDigits_of_lt_base small⟩
  · have positive : 0 < n := by have := reads.two_le; omega
    have large : base ≤ n := by omega
    exact .inr ⟨large, Nat.div_lt_self positive reads.two_le, Nat.toDigits_of_base_le reads.two_le large⟩

theorem digits_ne_nil (base n : Nat) : digits base n ≠ [] := Nat.toDigits_ne_nil

theorem isDigit_digitChar (reads : Reads base) {d : Nat} (small : d < base) :
    isDigit base (Nat.digitChar d) = true := by
  unfold isDigit
  rw [reads.digit d small]
  rfl

theorem isDigit_of_mem_digits (reads : Reads base) : ∀ c ∈ digits base n, isDigit base c = true := by
  induction n using Nat.strongRecOn with
  | ind n ih =>
      intro c mem
      rcases digits_cases reads n with ⟨small, single⟩ | ⟨-, less, more⟩
      · rw [single] at mem
        rw [List.mem_singleton.mp mem]
        exact isDigit_digitChar reads small
      · rw [more] at mem
        rcases List.mem_append.mp mem with mem | mem
        · exact ih _ less c mem
        · rw [List.mem_singleton.mp mem]
          exact isDigit_digitChar reads (Nat.mod_lt n (by have := reads.two_le; omega))

theorem ofDigits_append (cs : List Char) (c : Char) :
    ofDigits base (cs ++ [c]) = ofDigits base cs * base + (digit? base c).getD 0 := by
  simp [ofDigits]

theorem ofDigits_digits (reads : Reads base) (n : Nat) : ofDigits base (digits base n) = n := by
  induction n using Nat.strongRecOn with
  | ind n ih =>
      rcases digits_cases reads n with ⟨small, single⟩ | ⟨-, less, more⟩
      · rw [single]
        simp [ofDigits, reads.digit n small]
      · have last : n % base < base := Nat.mod_lt n (by have := reads.two_le; omega)
        rw [more, ofDigits_append, ih _ less, reads.digit _ last, Option.getD_some, Nat.mul_comm]
        exact Nat.div_add_mod n base

/-- The number that digits stand for when they go on from another one. -/
def ofDigitsAfter (n : Nat) (cs : List Char) : Nat := cs.foldl (fun n c => n * 10 + (digit? 10 c).getD 0) n

theorem le_ofDigitsAfter (n : Nat) (cs : List Char) : n ≤ ofDigitsAfter n cs := by
  induction cs generalizing n with
  | nil => exact Nat.le_refl n
  | cons c cs ih =>
      have step := ih (n * 10 + (digit? 10 c).getD 0)
      rw [ofDigitsAfter, List.foldl_cons]
      rw [ofDigitsAfter] at step
      omega

theorem ofDigitsAfter_append (n : Nat) (cs ds : List Char) :
    ofDigitsAfter n (cs ++ ds) = ofDigitsAfter (ofDigitsAfter n cs) ds := List.foldl_append

theorem ofDigitsAfter_digits (n : Nat) : ofDigitsAfter 0 (digits 10 n) = n := ofDigits_digits reads_ten n

/-- Only zero is written with a zero in front. -/
theorem head?_digits_ne_zero (reads : Reads base) (nonzero : n ≠ 0) : (digits base n).head? ≠ some '0' := by
  induction n using Nat.strongRecOn with
  | ind n ih =>
      rcases digits_cases reads n with ⟨small, single⟩ | ⟨large, less, more⟩
      · intro zero
        rw [single, List.head?_cons] at zero
        have same : digit? base (Nat.digitChar n) = digit? base (Nat.digitChar 0) :=
          congrArg (digit? base) (Option.some.inj zero)
        rw [reads.digit n small, reads.digit 0 (by omega)] at same
        exact nonzero (Option.some.inj same)
      · have quotient := ih _ less (Nat.ne_of_gt (Nat.div_pos large (by have := reads.two_le; omega)))
        rw [more]
        cases front : digits base (n / base) with
        | nil => exact absurd front (digits_ne_nil base _)
        | cons c cs => rwa [front] at quotient

/-- The text does not go on with a digit. -/
def EndsDigits (base : Nat) (rest : List Char) : Prop := ∀ c, rest.head? = some c → isDigit base c = false

/-- Digits that stand for a number; zeros may be in front. -/
structure Spells (base : Nat) (ds : List Char) (n : Nat) : Prop where
  nonempty : ds ≠ []
  digits : ∀ c ∈ ds, isDigit base c = true
  value : ofDigits base ds = n

theorem spells_digits (reads : Reads base) (n : Nat) : Spells base (digits base n) n :=
  ⟨digits_ne_nil base n, isDigit_of_mem_digits reads, ofDigits_digits reads n⟩

/-- A text is split where its digits end. -/
theorem spanDigits_eq_iff {cs ds : List Char} :
    spanDigits base cs = (ds, rest) ↔ cs = ds ++ rest ∧ (∀ c ∈ ds, isDigit base c = true) ∧ EndsDigits base rest := by
  unfold spanDigits
  rw [Prod.mk.injEq]
  constructor
  · rintro ⟨rfl, rfl⟩
    refine ⟨List.takeWhile_append_dropWhile.symm, List.all_eq_true.mp List.all_takeWhile, ?_⟩
    intro c front
    have first := List.head?_dropWhile_not (isDigit base) cs
    rw [front] at first
    simpa using first
  · rintro ⟨rfl, all, ends⟩
    have stop : rest.takeWhile (isDigit base) = [] ∧ rest.dropWhile (isDigit base) = rest := by
      cases rest with
      | nil => exact ⟨rfl, rfl⟩
      | cons c cs => simp [ends c rfl]
    rw [List.takeWhile_append_of_pos all, List.dropWhile_append_of_pos all, stop.1, stop.2, List.append_nil]
    exact ⟨rfl, rfl⟩

end Digits

end Text

namespace Net.Read

open Text

/-- A number is read from all the digits that are next, if they are not too many and, where that matters, have no
zero in front. -/
theorem number_eq_some_iff {base n : Nat} {limit : Option Nat} {zeros : Bool} {cs rest : List Char} :
    number base limit zeros cs = some (n, rest) ↔
      ∃ ds, cs = ds ++ rest ∧ Spells base ds n ∧ EndsDigits base rest ∧
        (∀ most, limit = some most → ds.length ≤ most) ∧
          (zeros = false → ds.head? = some '0' → ds.length ≤ 1) := by
  obtain ⟨ds, later, split⟩ : ∃ ds later, spanDigits base cs = (ds, later) := ⟨_, _, rfl⟩
  have refused :
      (ds.isEmpty || limit.any (· < ds.length) || (!zeros && ds.head? == some '0' && 1 < ds.length)) = false ↔
      ds ≠ [] ∧ (∀ most, limit = some most → ds.length ≤ most) ∧
        (zeros = false → ds.head? = some '0' → ds.length ≤ 1) := by
    cases limit <;> simp [and_assoc]
  unfold number
  rw [split]
  dsimp only
  constructor
  · intro read
    obtain ⟨accepted, same⟩ := Option.ite_none_left_eq_some.mp read
    cases same
    obtain ⟨cut, all, ends⟩ := spanDigits_eq_iff.mp split
    obtain ⟨nonempty, short, plain⟩ := refused.mp (Bool.eq_false_iff.mpr accepted)
    exact ⟨ds, cut, ⟨nonempty, all, rfl⟩, ends, short, plain⟩
  · rintro ⟨own, cut, spells, ends, short, plain⟩
    have same := split.symm.trans (spanDigits_eq_iff.mpr ⟨cut, spells.digits, ends⟩)
    cases same
    rw [refused.mpr ⟨spells.nonempty, short, plain⟩, spells.value]
    rfl

/-- The digits of a number that is not too long for the reader. -/
theorem number_digits {base n : Nat} {limit : Option Nat} {rest : List Char} (reads : Reads base)
    (short : ∀ most, limit = some most → 0 < most ∧ n < Nat.pow base most) (zeros : Bool)
    (ends : EndsDigits base rest) :
    number base limit zeros (digits base n ++ rest) = some (n, rest) := by
  refine number_eq_some_iff.mpr ⟨_, rfl, spells_digits reads n, ends, ?_, ?_⟩
  · intro most same
    obtain ⟨positive, less⟩ := short most same
    exact (Nat.length_toDigits_le_iff reads.two_le positive).mpr less
  · intro _ front
    have zero : n = 0 := Decidable.byContradiction fun nonzero => head?_digits_ne_zero reads nonzero front
    rw [zero]
    simp [digits]

end Net.Read

end LinkKeeper
