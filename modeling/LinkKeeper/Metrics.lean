import LinkKeeper.Decimal.Shortest
import LinkKeeper.Table
import LinkKeeper.Time

/-!
What the keeper counts, and the text in which the counts are served.

The counters only grow, so they are kept as whole numbers, and all of them are cut to a word where they are served.

* `Metrics.observePass`, `Metrics.recordFanOut`, `Metrics.setBackingOff`: the three things counted.
* `Metrics.counter`: a counter as it is served.
* `Metrics.lines`: one family of numbers after the other, in the order of their names.
-/

namespace LinkKeeper

/-- How a pass has ended, as far as it is counted. -/
inductive PassResult where
  | success
  | requeue
  | conflict
  | error
  deriving DecidableEq, Repr

def PassResult.label : PassResult → String
  | success => "success"
  | requeue => "requeue"
  | conflict => "conflict"
  | error => "error"

/-- A duration in seconds, as a float. -/
def Duration.inSeconds (d : Duration) : Float :=
  Float.ofNat d.seconds + Float.ofNat d.subsecond / 1e9

/-- Durations counted by how long they are. -/
structure Histogram where
  /-- The number of durations up to each bound. -/
  counts : List Nat
  count : Nat
  /-- The sum of the durations in seconds, added in the order in which they came. -/
  sum : Float

/-- The bounds of the durations that are counted, as floats and as they are written. -/
def Histogram.bounds : List (Float × String) :=
  [(0.005, "0.005"), (0.01, "0.01"), (0.025, "0.025"), (0.05, "0.05"), (0.1, "0.1"), (0.25, "0.25"),
    (0.5, "0.5"), (1, "1"), (2.5, "2.5"), (5, "5"), (10, "10")]

/-- No duration counted yet. -/
def Histogram.empty : Histogram := ⟨bounds.map fun _ => 0, 0, 0⟩

/-- Counts a duration: a bound is one of the durations up to it. -/
def Histogram.observe (h : Histogram) (d : Duration) : Histogram :=
  { counts := h.counts.zipWith (fun n b => if d.inSeconds ≤ b.1 then n + 1 else n) bounds
    count := h.count + 1
    sum := h.sum + d.inSeconds }

/-- The counts that the keeper serves. -/
structure Metrics where
  /-- The number of passes by their result. -/
  passes : Table String Nat
  durations : Histogram
  /-- The number of passes that changes of networks have asked for. -/
  fanOut : Nat
  /-- The number of interfaces that wait for another try. -/
  backingOff : Nat

namespace Metrics

/-- Nothing has been counted. -/
def fresh : Metrics := ⟨∅, .empty, 0, 0⟩

/-- Counts a pass with the label of its result. -/
def observeLabel (m : Metrics) (label : String) (elapsed : Duration) : Metrics :=
  { m with
    passes := m.passes.insert label ((m.passes.get? label).getD 0 + 1)
    durations := m.durations.observe elapsed }

/-- Counts a pass. -/
def observePass (m : Metrics) (result : PassResult) (elapsed : Duration) : Metrics :=
  m.observeLabel result.label elapsed

/-- Counts the passes that one change of a network has asked for. -/
def recordFanOut (m : Metrics) (requests : Nat) : Metrics :=
  { m with fanOut := m.fanOut + requests }

/-- Sets how many interfaces wait for another try, up to what sixty-three bits hold. -/
def setBackingOff (m : Metrics) (keys : Nat) : Metrics :=
  { m with backingOff := min keys 0x7FFFFFFFFFFFFFFF }

/-! ### The text -/

/-- How a character stands in the value of a label. -/
def escapeLabel : Char → List Char
  | '\\' => ['\\', '\\']
  | '"' => ['\\', '"']
  | '\n' => ['\\', 'n']
  | c => [c]

/-- A line with a value. -/
def sample (name value : String) : String := name ++ " " ++ value

/-- A line with a value that has a label. -/
def labelled (name label text value : String) : String :=
  sample (name ++ "\x7b" ++ label ++ "=\"" ++ String.ofList (text.toList.flatMap escapeLabel) ++ "\"\x7d")
    value

/-- A whole number as it is served: it passes through a float. -/
def number (n : Nat) : String := floatText (Float.ofNat n)

/-- The two lines above the values of a family. -/
def heading (name kind help : String) : List String :=
  ["# HELP " ++ name ++ " " ++ help, "# TYPE " ++ name ++ " " ++ kind]

/-- A counter as it is served: a word of sixty-four bits, which goes on from zero. -/
def counter (n : Nat) : String := number (n % 0x10000000000000000)

/-- The family of the durations of passes. -/
def durationFamily : String := "nic_reconcile_duration_seconds"

def durationLines (h : Histogram) : List String :=
  h.counts.zipWith
      (fun n b => labelled (durationFamily ++ "_bucket") "le" b.2 (counter n)) Histogram.bounds ++
    [labelled (durationFamily ++ "_bucket") "le" "+Inf" (counter h.count),
      sample (durationFamily ++ "_sum") (floatText h.sum),
      sample (durationFamily ++ "_count") (counter h.count)]

/-- The lines of the family of the passes; there are none before the first pass. -/
def passLines (passes : Table String Nat) : List String :=
  if passes.toList.isEmpty then []
  else
    heading "nic_reconcile_total" "counter" "Reconciliation passes by result" ++
      passes.toList.map fun e => labelled "nic_reconcile_total" "result" e.1 (counter e.2)

/-- The lines in which the counts are served. -/
def lines (m : Metrics) : List String :=
  heading "nic_backing_off_keys" "gauge" "NetworkInterfaces waiting for a retry after failed passes" ++
    [sample "nic_backing_off_keys" (number m.backingOff)] ++
    heading "nic_fanout_requests_total" "counter"
      "NetworkInterface requests triggered by PrivateNetwork updates" ++
    [sample "nic_fanout_requests_total" (counter m.fanOut)] ++
    heading durationFamily "histogram" "Duration of reconciliation passes" ++
    durationLines m.durations ++
    passLines m.passes

/-- The served text: every line ends with a line end. -/
def text (m : Metrics) : String := String.join (m.lines.map (· ++ "\n"))

/-- The number of passes counted under a label. -/
def passCount (m : Metrics) (label : String) : Nat := (m.passes.get? label).getD 0

end Metrics

end LinkKeeper
