import LinkKeeper.Metrics
import LinkKeeper.Reconcile.Pass
import LinkKeeper.Schedule.Retries

/-!
When an interface is worked on again.

A pass that succeeds forgets the failures of its key. One that is beaten by another writer is run
again at once and counts no failure; any other failure counts, and the wait grows with the count.

* `Attempts.finished`, `Attempts.onError`: what the end of a pass does to the counts and the wait.
* `Attempts.settle`: both, for a pass over an object with or without a name.
-/

namespace LinkKeeper

/-- When a key is worked on again. -/
inductive Action where
  /-- Once the object changes. -/
  | awaitChange
  | requeue (delay : Duration)
  deriving DecidableEq, Repr

def Outcome.action : Outcome → Action
  | done => .awaitChange
  | requeueAfter delay => .requeue delay

/-- How a pass is counted. -/
def PassResult.of : Except KeeperError Outcome → PassResult
  | .ok .done => .success
  | .ok (.requeueAfter _) => .requeue
  | .error e => if e.retry = .conflict then .conflict else .error

/-- The failures of all keys and the counts that are served. -/
structure Attempts where
  retries : Retries
  metrics : Metrics

namespace Attempts

/-- Nothing has been tried yet. -/
def fresh (backoff : Backoff) : Attempts := ⟨.fresh backoff, .fresh⟩

/-- Changes the failures and serves how many keys are left waiting. -/
def withRetries (a : Attempts) (retries : Retries) : Attempts :=
  ⟨retries, a.metrics.setBackingOff retries.backingOff⟩

/-- Counts a pass that has taken some time; a success forgets the failures of the key. -/
def finished (a : Attempts) (key : ObjectKey) (result : Except KeeperError Outcome)
    (elapsed : Duration) : Attempts :=
  let a := { a with metrics := a.metrics.observePass (.of result) elapsed }
  match result with
  | .ok _ => a.withRetries (a.retries.reset key)
  | .error _ => a

/-- What follows the failure of a pass over the object with the key, or over one without a name. -/
def onError (a : Attempts) (key : Option ObjectKey) (error : KeeperError) : Action × Attempts :=
  match key with
  | none => (.awaitChange, a)
  | some key =>
    if error.retry = .conflict then (.requeue .zero, a)
    else
      let (delay, retries) := a.retries.recordFailure key
      (.requeue delay, a.withRetries retries)

/-- What follows a pass over an object: it is counted, and its failure is reported. A pass over an
object without a name fails before it is counted. -/
def settle (a : Attempts) (key : Option ObjectKey) (result : Except KeeperError Outcome)
    (elapsed : Duration) : Action × Attempts :=
  match key with
  | none => a.onError none (.store (.unnamed interfaceKind))
  | some key =>
    match result with
    | .ok outcome => (outcome.action, a.finished key result elapsed)
    | .error e => (a.finished key result elapsed).onError (some key) e

end Attempts

end LinkKeeper
