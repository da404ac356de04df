import LinkKeeper.Schedule.Backoff
import LinkKeeper.Schedule.Key
import LinkKeeper.Table

/-!
Failures in a row, per object.

* `Retries.failures_recordFailure`, `Retries.failures_reset`: what the two changes do to the count of
  every key.
-/

namespace LinkKeeper

/-- The number of failures of each object since its last success, with the waits that follow. -/
structure Retries where
  backoff : Backoff
  counts : Table ObjectKey Nat

namespace Retries

/-- Nothing has failed yet. -/
def fresh (backoff : Backoff) : Retries := ⟨backoff, ∅⟩

/-- The failures counted for a key. -/
def failures (r : Retries) (k : ObjectKey) : Nat := (r.counts.get? k).getD 0

/-- Counts one more failure of a key, up to what thirty-two bits hold, and gives the wait for it. -/
def recordFailure (r : Retries) (k : ObjectKey) : Duration × Retries :=
  let n := min (r.failures k + 1) Text.maxWord32
  (r.backoff.delay n, { r with counts := r.counts.insert k n })

/-- Forgets the failures of a key. -/
def reset (r : Retries) (k : ObjectKey) : Retries :=
  { r with counts := r.counts.erase k }

/-- The number of keys that wait for another try. -/
def backingOff (r : Retries) : Nat := r.counts.size

theorem failures_recordFailure (r : Retries) (j k : ObjectKey) :
    (r.recordFailure k).2.failures j =
      if j = k then min (r.failures k + 1) Text.maxWord32 else r.failures j := by
  by_cases h : j = k <;> simp [recordFailure, failures, Table.get?_insert, h]

theorem failures_reset (r : Retries) (j k : ObjectKey) :
    (r.reset k).failures j = if j = k then 0 else r.failures j := by
  by_cases h : j = k <;> simp [reset, failures, Table.get?_erase, h]

end Retries

end LinkKeeper
