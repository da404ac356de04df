import Mathlib.Data.Nat.Fib.Basic
import LinkKeeper.Schedule.Backoff

/-!
How the wait grows with the failures.

The walk through the Fibonacci numbers stops at what thirty-two bits hold, the product with the least wait stops at
the longest duration, and the walk ends early once the greatest wait is reached. None of this shows: the wait is the
least one times a Fibonacci number, up to the greatest one.

* `Backoff.fib_eq`: the numbers are those of the library, from one on.
* `Backoff.multiple`: how often the least wait is waited; `Backoff.multiple_add`: each is the sum of the two before.
* `Backoff.walk_eq`: a walk that ends early ends where the whole walk does.
* `Backoff.delay_follows_fibonacci`: the wait in closed form, with what it says of the growth.
-/

namespace LinkKeeper

open Text

namespace Backoff

/-! ### The numbers -/

theorem fib_eq (n : Nat) : fib n = Nat.fib (max 1 n) := by
  fun_induction fib n with
  | case1 => rfl
  | case2 => rfl
  | case3 => rfl
  | case4 n later earlier =>
      have first : max 1 (n + 2) = n + 2 := by omega
      have second : max 1 (n + 1) = n + 1 := by omega
      have sum : max 1 (n + 3) = n + 1 + 2 := by omega
      rw [later, earlier, first, second, sum, Nat.fib_add_two (n := n + 1), Nat.add_comm]

theorem fib_mono {m n : Nat} (le : m ≤ n) : fib m ≤ fib n := by
  rw [fib_eq, fib_eq]
  exact Nat.fib_mono (by omega)

theorem fib_pos (n : Nat) : 0 < fib n := by
  rw [fib_eq]
  exact Nat.fib_pos.mpr (by omega)

/-- How often the least wait is waited after so many failures, if the greatest wait allows it. -/
def multiple (n : Nat) : Nat := min (fib n) maxWord32

theorem multiple_pos (n : Nat) : 0 < multiple n := Nat.lt_min.mpr ⟨fib_pos n, by decide⟩

theorem multiple_mono {m n : Nat} (le : m ≤ n) : multiple m ≤ multiple n := by
  have grows := fib_mono le
  unfold multiple
  omega

/-- Each of the numbers is the sum of the two before it, stopped where they stop. -/
theorem multiple_add (n : Nat) : multiple (n + 3) = min (multiple (n + 1) + multiple (n + 2)) maxWord32 := by
  have sum : fib (n + 3) = fib (n + 2) + fib (n + 1) := rfl
  unfold multiple
  omega

/-- Numbers that no longer grow have reached the end. -/
theorem multiple_of_stuck {n : Nat} (stuck : multiple (n + 3) = multiple (n + 2)) (more : Nat) :
    multiple (n + 2 + more) = multiple (n + 2) := by
  have sum := multiple_add n
  have positive := multiple_pos (n + 1)
  have grows : multiple (n + 2) ≤ multiple (n + 2 + more) := multiple_mono (by omega)
  have bounded : multiple (n + 2 + more) ≤ maxWord32 := Nat.min_le_right _ _
  omega

/-! ### The walk -/

/-- The two last numbers after so many further steps of a walk that never ends early. -/
def wholeWalk (previous current : Nat) : (steps : Nat) → Nat × Nat
  | 0 => (previous, current)
  | steps + 1 => wholeWalk current (min (previous + current) maxWord32) steps

/-- The wait that a walk to the very end leads to. -/
def wholeDelay (b : Backoff) (failures : Nat) : Duration :=
  min (b.least.times (wholeWalk 1 1 (failures - 2)).2) b.greatest

theorem wholeWalk_eq (n steps : Nat) :
    wholeWalk (multiple (n + 1)) (multiple (n + 2)) steps =
      (multiple (n + 1 + steps), multiple (n + 2 + steps)) := by
  induction steps generalizing n with
  | zero => rfl
  | succ steps ih =>
      have onward := ih (n + 1)
      rw [multiple_add] at onward
      rw [wholeWalk, onward]
      congr 2 <;> omega

variable {b : Backoff}

/-- A wait that is cut at the greatest one has not been cut at the longest duration before. -/
theorem nanos_capped (b : Backoff) (k : Nat) :
    (min (b.least.times k) b.greatest).nanos = min b.greatest.nanos (b.least.nanos * k) := by
  have bounded := b.greatest.le_limit
  rw [Duration.nanos_min, Duration.nanos_times]
  omega

/-- Once the greatest wait is reached, larger numbers lead to it too. -/
theorem capped_of_reached {j k : Nat} (reached : b.greatest ≤ b.least.times j) (le : j ≤ k) :
    min (b.least.times k) b.greatest = b.greatest := by
  have grows : b.least.nanos * j ≤ b.least.nanos * k := Nat.mul_le_mul_left _ le
  rw [Duration.le_def, Duration.nanos_times] at reached
  apply Duration.ext_nanos
  rw [nanos_capped]
  omega

/-- Wherever the walk ends, it is the wait that the whole walk leads to. -/
theorem walk_eq (b : Backoff) (n steps : Nat) :
    b.walk (multiple (n + 1)) (multiple (n + 2)) steps =
      min (b.least.times (multiple (n + 2 + steps))) b.greatest := by
  induction steps generalizing n with
  | zero => rfl
  | succ steps ih =>
      have onward := ih (n + 1)
      have shifted : n + 1 + 2 + steps = n + 2 + (steps + 1) := by omega
      rw [shifted] at onward
      unfold walk
      dsimp only
      rw [← multiple_add]
      by_cases reached : b.greatest ≤ b.least.times (multiple (n + 3))
      · have later : multiple (n + 3) ≤ multiple (n + 2 + (steps + 1)) := multiple_mono (by omega)
        rw [if_pos reached, capped_of_reached reached later]
      · rw [if_neg reached]
        by_cases stuck : multiple (n + 3) = multiple (n + 2)
        · rw [if_pos stuck, multiple_of_stuck stuck]
        · rw [if_neg stuck]
          exact onward

/-- The wait is the least one so many times over, unless the greatest is less. -/
theorem delay_eq (b : Backoff) (failures : Nat) :
    b.delay failures = min (b.least.times (multiple failures)) b.greatest := by
  unfold delay
  by_cases few : failures ≤ 2
  · have once : multiple failures = 1 := by
      obtain rfl | rfl | rfl : failures = 0 ∨ failures = 1 ∨ failures = 2 := by omega
      all_goals rfl
    have bounds := b.least_le
    rw [if_pos few, once]
    apply Duration.ext_nanos
    rw [nanos_capped]
    rw [Duration.le_def] at bounds
    omega
  · have walked := walk_eq b 0 (failures - 2)
    rw [if_neg few]
    rwa [show 0 + 2 + (failures - 2) = failures by omega] at walked

theorem wholeDelay_eq (b : Backoff) (failures : Nat) :
    b.wholeDelay failures = min (b.least.times (multiple failures)) b.greatest := by
  have walked : wholeWalk 1 1 (failures - 2) = _ := wholeWalk_eq 0 (failures - 2)
  -- The first three numbers are the same, so it makes no difference that a walk starts at the second one.
  have same : multiple (0 + 2 + (failures - 2)) = multiple failures := by
    by_cases few : failures ≤ 2
    · obtain rfl | rfl | rfl : failures = 0 ∨ failures = 1 ∨ failures = 2 := by omega
      all_goals rfl
    · rw [show 0 + 2 + (failures - 2) = failures by omega]
  unfold wholeDelay
  rw [walked, same]

theorem nanos_delay (least greatest : Duration) (failures : Nat) :
    ((between least greatest).delay failures).nanos =
      min (max least.nanos greatest.nanos) (least.nanos * multiple failures) := by
  have raised : (between least greatest).greatest.nanos = max least.nanos greatest.nanos :=
    Duration.nanos_max _ _
  rw [delay_eq, nanos_capped, raised]
  rfl

/-- The wait after some failures is the least one times a Fibonacci number, up to the greatest one, whatever the two
are: nothing shows of where the numbers and the products stop, nor of where the walk ends. So the waits never shrink,
keep between the two, and are the sum of the two before as long as the number fits. -/
theorem delay_follows_fibonacci (least greatest : Duration) (failures : Nat) :
    ((between least greatest).delay failures).nanos =
        min (max least.nanos greatest.nanos) (least.nanos * min (fib failures) maxWord32) ∧
      (between least greatest).delay failures = (between least greatest).wholeDelay failures ∧
      (∀ fewer ≤ failures, (between least greatest).delay fewer ≤ (between least greatest).delay failures) ∧
      least ≤ (between least greatest).delay failures ∧
      (between least greatest).delay failures ≤ max least greatest ∧
      (3 ≤ failures → fib failures ≤ maxWord32 →
        ((between least greatest).delay failures).nanos =
          min (max least.nanos greatest.nanos)
            (((between least greatest).delay (failures - 1)).nanos +
              ((between least greatest).delay (failures - 2)).nanos)) := by
  refine ⟨nanos_delay least greatest failures, ?_, ?_, ?_, ?_, ?_⟩
  · rw [delay_eq, wholeDelay_eq]
  · intro fewer le
    have grows : least.nanos * multiple fewer ≤ least.nanos * multiple failures :=
      Nat.mul_le_mul_left _ (multiple_mono le)
    rw [Duration.le_def, nanos_delay, nanos_delay]
    omega
  · have once : least.nanos * 1 ≤ least.nanos * multiple failures :=
      Nat.mul_le_mul_left _ (multiple_pos failures)
    rw [Duration.le_def, nanos_delay]
    omega
  · rw [Duration.le_def, nanos_delay, Duration.nanos_max]
    exact Nat.min_le_left _ _
  · intro many fits
    obtain ⟨n, rfl⟩ : ∃ n, failures = n + 3 := ⟨failures - 3, by omega⟩
    have sum : multiple (n + 3) = multiple (n + 1) + multiple (n + 2) := by
      have grows : fib (n + 3) = fib (n + 2) + fib (n + 1) := rfl
      unfold multiple
      omega
    have product : least.nanos * multiple (n + 3) =
        least.nanos * multiple (n + 1) + least.nanos * multiple (n + 2) := by
      rw [sum, Nat.mul_add]
    have second : n + 3 - 1 = n + 2 := rfl
    have first : n + 3 - 2 = n + 1 := rfl
    rw [second, first, nanos_delay, nanos_delay, nanos_delay, product]
    omega

/-- The forty-eighth number is the first that thirty-two bits do not hold. -/
example :
    ((between (.ofNanos 2) .longest).delay 47).nanos = 2 * 2971215073 ∧
      ((between (.ofNanos 2) .longest).delay 48).nanos = 2 * 4294967295 := by
  cbv

end Backoff

end LinkKeeper
