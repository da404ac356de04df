import LinkKeeper.Text.Number
import LinkKeeper.Time

/-!
How long to wait after failures.

The wait grows like the Fibonacci numbers, from a least to a greatest wait. The numbers stop at
what thirty-two bits hold.

* `Backoff.fib`: the Fibonacci numbers with the first three equal to one.
* `Backoff.delay`: the wait, by walking through the numbers until the greatest wait is reached.
-/

namespace LinkKeeper

/-- The bounds of the waits; the greatest is not below the least. -/
structure Backoff where
  least : Duration
  greatest : Duration
  least_le : least ≤ greatest
  deriving DecidableEq, Repr

namespace Backoff

/-- The waits between two bounds; a greatest wait below the least one is raised to it. -/
def between (least greatest : Duration) : Backoff :=
  ⟨least, max least greatest, by rw [Duration.le_def, Duration.nanos_max]; exact Nat.le_max_left _ _⟩

/-- One second at least and five minutes at most. -/
def standard : Backoff := between (.ofSeconds 1) (.ofSeconds 300)

/-- The Fibonacci numbers, the first three of them one. -/
def fib : Nat → Nat
  | 0 => 1
  | 1 => 1
  | 2 => 1
  | n + 3 => fib (n + 2) + fib (n + 1)

/-- Walks `steps` further numbers from two successive ones, and stops early where the wait has
reached its greatest value or the numbers no longer grow. -/
def walk (b : Backoff) (previous current : Nat) : (steps : Nat) → Duration
  | 0 => min (b.least.times current) b.greatest
  | steps + 1 =>
    let next := min (previous + current) Text.maxWord32
    if b.greatest ≤ b.least.times next then b.greatest
    else if next = current then min (b.least.times current) b.greatest
    else walk b current next steps

/-- The wait after a number of failures in a row. -/
def delay (b : Backoff) (failures : Nat) : Duration :=
  if failures ≤ 2 then b.least else walk b 1 1 (failures - 2)

end Backoff

end LinkKeeper
