/-!
Durations: lengths of time in whole nanoseconds, up to a greatest one.

Sums and products stop at the greatest duration instead of passing it.

* `Duration.nanos_ofNanos`, `Duration.nanos_times`: what a result is, cut at the limit.
-/

namespace LinkKeeper

/-- The nanoseconds of the longest duration: 2⁶⁴ seconds less one nanosecond. -/
def Duration.limit : Nat := 18446744073709551616 * 1000000000 - 1

/-- A length of time in nanoseconds. -/
structure Duration where
  nanos : Nat
  le_limit : nanos ≤ Duration.limit
  deriving DecidableEq, Repr

namespace Duration

theorem ext_nanos {a b : Duration} (h : a.nanos = b.nanos) : a = b := by
  cases a; cases b; cases h; rfl

/-- The duration of some nanoseconds, or the longest one if they are too many. -/
def ofNanos (n : Nat) : Duration := ⟨min n limit, Nat.min_le_right _ _⟩

/-- The duration of some seconds, or the longest one if they are too many. -/
def ofSeconds (n : Nat) : Duration := ofNanos (n * 1000000000)

/-- No time at all. -/
def zero : Duration := ⟨0, Nat.zero_le _⟩

/-- The longest duration. -/
def longest : Duration := ⟨limit, Nat.le_refl _⟩

instance : LE Duration := ⟨fun a b => a.nanos ≤ b.nanos⟩

instance : Inhabited Duration := ⟨zero⟩

instance (a b : Duration) : Decidable (a ≤ b) := inferInstanceAs (Decidable (a.nanos ≤ b.nanos))

instance : Max Duration := ⟨fun a b => if a ≤ b then b else a⟩

instance : Min Duration := ⟨fun a b => if a ≤ b then a else b⟩

/-- A duration so many times over. -/
def times (d : Duration) (n : Nat) : Duration := ofNanos (d.nanos * n)

theorem le_def {a b : Duration} : a ≤ b ↔ a.nanos ≤ b.nanos := Iff.rfl

@[simp] theorem nanos_ofNanos (n : Nat) : (ofNanos n).nanos = min n limit := rfl

theorem nanos_times (d : Duration) (n : Nat) : (d.times n).nanos = min (d.nanos * n) limit := rfl

theorem nanos_max (a b : Duration) : (max a b).nanos = max a.nanos b.nanos := by
  show (if a ≤ b then b else a).nanos = _
  split <;> rename_i h <;> simp only [le_def] at h <;> omega

theorem nanos_min (a b : Duration) : (min a b).nanos = min a.nanos b.nanos := by
  show (if a ≤ b then a else b).nanos = _
  split <;> rename_i h <;> simp only [le_def] at h <;> omega

/-- The number of whole seconds. -/
def seconds (d : Duration) : Nat := d.nanos / 1000000000

/-- The nanoseconds past the last whole second. -/
def subsecond (d : Duration) : Nat := d.nanos % 1000000000

end Duration

end LinkKeeper
