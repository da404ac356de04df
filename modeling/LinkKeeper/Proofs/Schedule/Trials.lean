import LinkKeeper.Schedule.Policy

/-!
When an interface is tried again: what the history of its key decides.

The failures of all keys stand in one table, which passes and reports of failures change in any order. What is
decided for a key is still a matter of the trials over that key alone.

* `Trial`: a pass, or the report of a failure by itself; `Trial.settle`: what it is answered with.
* `Trial.failuresSince`: the failures of a key since its last success, told by the history.
* `Attempts.Tells`: the table tells this number for every key; `Attempts.Tells.settle` keeps it.
* `Attempts.decided_by_own_history`: every decision is the one that the history of the key asks for, and the
  trials over other keys leave it as it is.
-/

namespace LinkKeeper

/-- What asks for a decision about when an object is worked on again. -/
inductive Trial where
  /-- A pass over an object, with its result and the time it has taken. -/
  | pass (object : NetworkInterface) (result : Except KeeperError Outcome) (elapsed : Duration)
  /-- The report that a pass over an object has failed. -/
  | failure (object : NetworkInterface) (error : KeeperError)

namespace Trial

def object : Trial → NetworkInterface
  | pass object _ _ | failure object _ => object

/-- How the pass has ended. -/
def result : Trial → Except KeeperError Outcome
  | pass _ result _ => result
  | failure _ error => .error error

/-- What the trial is answered with, and what the counts are afterwards. -/
def settle (a : Attempts) : Trial → Action × Attempts
  | pass object result elapsed => a.settle object.key? result elapsed
  | failure object error => a.onError object.key? error

/-- The trial is over the object with the key; an object without a namespace stands in the empty one. -/
def Concerns (k : ObjectKey) (t : Trial) : Prop :=
  t.object.metadata.name = some k.name ∧ t.object.metadata.namespaceName.getD "" = k.namespaceName

instance (k : ObjectKey) (t : Trial) : Decidable (t.Concerns k) := inferInstanceAs (Decidable (_ ∧ _))

/-- Whether the trial is a pass over the key that has not failed. -/
def succeeds (k : ObjectKey) (t : Trial) : Bool := decide (t.Concerns k) && t.result.isOk

/-- Whether the trial counts as a failure of the key: nobody else has been faster. -/
def failsFor (k : ObjectKey) (t : Trial) : Bool :=
  decide (t.Concerns k) && match t.result with
    | .ok _ => false
    | .error e => decide (e.retry ≠ .conflict)

/-- The failures of a key that count, since its last success. -/
def failuresSince (k : ObjectKey) (history : List Trial) : Nat :=
  (history.reverse.takeWhile fun t => !t.succeeds k).countP (failsFor k)

/-! ### Keys -/

variable {k : ObjectKey} {t : Trial}

theorem key?_eq_some_iff : t.object.key? = some k ↔ t.Concerns k := by
  obtain ⟨name, namespaceName⟩ := k
  simp only [NetworkInterface.key?, ObjectKey.of?, Concerns, Option.map_eq_some_iff, ObjectKey.mk.injEq]
  constructor
  · rintro ⟨_, named, rfl, placed⟩
    exact ⟨named, placed⟩
  · rintro ⟨named, placed⟩
    exact ⟨name, named, rfl, placed⟩

theorem key?_eq_none_iff : t.object.key? = none ↔ t.object.metadata.name = none := by
  simp [NetworkInterface.key?, ObjectKey.of?]

/-- A trial is over one key at most. -/
theorem Concerns.unique {j : ObjectKey} (first : t.Concerns j) (second : t.Concerns k) : j = k :=
  Option.some.inj ((key?_eq_some_iff.mpr first).symm.trans (key?_eq_some_iff.mpr second))

theorem Concerns.named (concerned : t.Concerns k) : t.object.metadata.name ≠ none := by
  simp [concerned.1]

/-! ### What one trial is answered with -/

section Settle

variable {a : Attempts} {outcome : Outcome} {e : KeeperError}

theorem settle_of_unnamed (unnamed : t.object.metadata.name = none) : t.settle a = (.awaitChange, a) := by
  have none := key?_eq_none_iff.mpr unnamed
  cases t <;> simp_all [settle, object, Attempts.settle, Attempts.onError]

theorem settle_of_ok (concerned : t.Concerns k) (ok : t.result = .ok outcome) :
    (t.settle a).1 = outcome.action ∧ (t.settle a).2.retries = a.retries.reset k := by
  have key := key?_eq_some_iff.mpr concerned
  cases t with
  | pass nic ended elapsed =>
      obtain rfl : ended = .ok outcome := ok
      have key : nic.key? = some k := key
      simp [settle, key, Attempts.settle, Attempts.finished, Attempts.withRetries]
  | failure nic error => cases ok

theorem settle_of_conflict (concerned : t.Concerns k) (failed : t.result = .error e)
    (conflict : e.retry = .conflict) :
    (t.settle a).1 = .requeue .zero ∧ (t.settle a).2.retries = a.retries := by
  have key := key?_eq_some_iff.mpr concerned
  cases t with
  | pass nic ended elapsed =>
      obtain rfl : ended = .error e := failed
      have key : nic.key? = some k := key
      simp [settle, key, conflict, Attempts.settle, Attempts.finished, Attempts.onError]
  | failure nic error =>
      obtain rfl : error = e := Except.error.inj failed
      have key : nic.key? = some k := key
      simp [settle, key, conflict, Attempts.onError]

theorem settle_of_error (concerned : t.Concerns k) (failed : t.result = .error e)
    (counts : e.retry ≠ .conflict) :
    (t.settle a).1 = .requeue (a.retries.recordFailure k).1 ∧
      (t.settle a).2.retries = (a.retries.recordFailure k).2 := by
  have key := key?_eq_some_iff.mpr concerned
  cases t with
  | pass nic ended elapsed =>
      obtain rfl : ended = .error e := failed
      have key : nic.key? = some k := key
      simp [settle, key, counts, Attempts.settle, Attempts.finished, Attempts.onError, Attempts.withRetries]
  | failure nic error =>
      obtain rfl : error = e := Except.error.inj failed
      have key : nic.key? = some k := key
      simp [settle, key, counts, Attempts.onError, Attempts.withRetries]

end Settle

/-! ### The failures in a history -/

section Failures

variable {history : List Trial} {outcome : Outcome} {e : KeeperError}

theorem failuresSince_append (history : List Trial) (t : Trial) :
    failuresSince k (history ++ [t]) =
      if t.succeeds k then 0 else failuresSince k history + if t.failsFor k then 1 else 0 := by
  cases success : t.succeeds k <;> simp [failuresSince, success, List.countP_cons]

theorem failuresSince_of_ok (concerned : t.Concerns k) (ok : t.result = .ok outcome) :
    failuresSince k (history ++ [t]) = 0 := by
  simp [failuresSince_append, succeeds, concerned, ok, Except.isOk, Except.toBool]

theorem failuresSince_of_conflict (failed : t.result = .error e) (conflict : e.retry = .conflict) :
    failuresSince k (history ++ [t]) = failuresSince k history := by
  simp [failuresSince_append, succeeds, failsFor, failed, conflict, Except.isOk, Except.toBool]

theorem failuresSince_of_error (concerned : t.Concerns k) (failed : t.result = .error e)
    (counts : e.retry ≠ .conflict) :
    failuresSince k (history ++ [t]) = failuresSince k history + 1 := by
  simp [failuresSince_append, succeeds, failsFor, concerned, failed, counts, Except.isOk, Except.toBool]

theorem failuresSince_of_other (other : ¬ t.Concerns k) :
    failuresSince k (history ++ [t]) = failuresSince k history := by
  simp [failuresSince_append, succeeds, failsFor, other]

end Failures

end Trial

namespace Attempts

open Trial

/-! ### What the table tells -/

/-- What the table holds for a key that has failed so often. -/
def held (failures : Nat) : Option Nat :=
  if failures = 0 then none else some (min failures Text.maxWord32)

theorem held_getD (failures : Nat) : (held failures).getD 0 = min failures Text.maxWord32 := by
  unfold held
  split <;> simp_all

theorem held_succ (failures : Nat) :
    held (failures + 1) = some (min (min failures Text.maxWord32 + 1) Text.maxWord32) := by
  rw [held, if_neg (Nat.succ_ne_zero failures)]
  exact congrArg some (by omega)

/-- The table holds the failures of every key since its last success. -/
structure Tells (backoff : Backoff) (history : List Trial) (a : Attempts) : Prop where
  backoff : a.retries.backoff = backoff
  counts : ∀ k, a.retries.counts.get? k = held (failuresSince k history)

section Tells

variable {backoff : Backoff} {history : List Trial} {a : Attempts} {t : Trial} {k : ObjectKey}

theorem tells_fresh (backoff : Backoff) : Tells backoff [] (fresh backoff) :=
  ⟨rfl, fun _ => rfl⟩

theorem Tells.failures (tells : Tells backoff history a) (k : ObjectKey) :
    a.retries.failures k = min (failuresSince k history) Text.maxWord32 := by
  rw [Retries.failures, tells.counts, held_getD]

/-- A trial is a success, a conflict, a failure that counts, or over an object without a name. -/
theorem Tells.settle (tells : Tells backoff history a) (t : Trial) :
    Tells backoff (history ++ [t]) (t.settle a).2 := by
  cases key : t.object.key? with
  | none =>
      have other : ∀ k, ¬ t.Concerns k := fun k concerned => by
        simp [key?_eq_some_iff.mpr concerned] at key
      rw [settle_of_unnamed (key?_eq_none_iff.mp key)]
      exact ⟨tells.backoff, fun k => by rw [failuresSince_of_other (other k), tells.counts]⟩
  | some own =>
      have concerned := key?_eq_some_iff.mp key
      have other : ∀ k, k ≠ own → ¬ t.Concerns k := fun k ne mine => ne (mine.unique concerned)
      cases ended : t.result with
      | ok outcome =>
          obtain ⟨-, retries⟩ := settle_of_ok (a := a) concerned ended
          refine ⟨by rw [retries]; exact tells.backoff, fun k => ?_⟩
          rw [retries, Retries.reset, Table.get?_erase]
          by_cases mine : k = own
          · subst mine
            simp [failuresSince_of_ok concerned ended, held]
          · rw [if_neg mine, failuresSince_of_other (other k mine), tells.counts]
      | error e =>
          by_cases conflict : e.retry = .conflict
          · obtain ⟨-, retries⟩ := settle_of_conflict (a := a) concerned ended conflict
            refine ⟨by rw [retries]; exact tells.backoff, fun k => ?_⟩
            rw [retries, failuresSince_of_conflict ended conflict, tells.counts]
          · obtain ⟨-, retries⟩ := settle_of_error (a := a) concerned ended conflict
            refine ⟨by rw [retries]; exact tells.backoff, fun k => ?_⟩
            rw [retries, Retries.recordFailure, Table.get?_insert]
            by_cases mine : k = own
            · subst mine
              rw [if_pos rfl, failuresSince_of_error concerned ended conflict, held_succ, tells.failures]
            · rw [if_neg mine, failuresSince_of_other (other k mine), tells.counts]

end Tells

/-! ### Trials one after the other -/

/-- The counts after some trials. -/
def after (a : Attempts) : List Trial → Attempts
  | [] => a
  | t :: rest => (t.settle a).2.after rest

/-- What some trials are answered with, in order. -/
def decisions (a : Attempts) : List Trial → List Action
  | [] => []
  | t :: rest => (t.settle a).1 :: (t.settle a).2.decisions rest

/-- What the trials over one key are answered with among all of them. -/
def decisionsOn (k : ObjectKey) (a : Attempts) (history : List Trial) : List Action :=
  ((history.zip (a.decisions history)).filter fun d => decide (d.1.Concerns k)).map Prod.snd

section Runs

variable {backoff : Backoff} {a b : Attempts} {k : ObjectKey}

theorem after_append (a : Attempts) (earlier later : List Trial) :
    a.after (earlier ++ later) = (a.after earlier).after later := by
  induction earlier generalizing a with
  | nil => rfl
  | cons t rest ih => exact ih _

theorem decisions_append (a : Attempts) (earlier later : List Trial) :
    a.decisions (earlier ++ later) = a.decisions earlier ++ (a.after earlier).decisions later := by
  induction earlier generalizing a with
  | nil => rfl
  | cons t rest ih => simp [decisions, after, ih]

/-- The table tells the history of any run. -/
theorem Tells.after {history : List Trial} (tells : Tells backoff history a) (later : List Trial) :
    Tells backoff (history ++ later) (a.after later) := by
  induction later generalizing history a with
  | nil => simpa [Attempts.after] using tells
  | cons t rest ih =>
      have whole := ih (tells.settle t)
      rwa [List.append_assoc] at whole

/-- Two tables hold the same for a key, so they give it the same waits from now on. -/
structure Level (k : ObjectKey) (a b : Attempts) : Prop where
  backoff : a.retries.backoff = b.retries.backoff
  counts : a.retries.counts.get? k = b.retries.counts.get? k

theorem Level.failures (level : Level k a b) : a.retries.failures k = b.retries.failures k :=
  congrArg (·.getD 0) level.counts

/-- Trials over the key that end alike are answered alike, by what the table holds for the key. -/
theorem Level.settle {t u : Trial} (level : Level k a b) (concerned : t.Concerns k) (other : u.Concerns k)
    (same : u.result = t.result) :
    (t.settle a).1 = (u.settle b).1 ∧ Level k (t.settle a).2 (u.settle b).2 := by
  cases ended : t.result with
  | ok outcome =>
      obtain ⟨first, left⟩ := settle_of_ok (a := a) concerned ended
      obtain ⟨second, right⟩ := settle_of_ok (a := b) other (same.trans ended)
      refine ⟨first.trans second.symm, ?_, ?_⟩
      · rw [left, right]
        exact level.backoff
      · simp [left, right, Retries.reset]
  | error e =>
      by_cases conflict : e.retry = .conflict
      · obtain ⟨first, left⟩ := settle_of_conflict (a := a) concerned ended conflict
        obtain ⟨second, right⟩ := settle_of_conflict (a := b) other (same.trans ended) conflict
        exact ⟨first.trans second.symm, by rw [left, right]; exact level.backoff,
          by rw [left, right]; exact level.counts⟩
      · obtain ⟨first, left⟩ := settle_of_error (a := a) concerned ended conflict
        obtain ⟨second, right⟩ := settle_of_error (a := b) other (same.trans ended) conflict
        refine ⟨?_, ?_, ?_⟩
        · rw [first, second, Retries.recordFailure, Retries.recordFailure, level.backoff, level.failures]
        · rw [left, right]
          exact level.backoff
        · simp [left, right, Retries.recordFailure, level.failures]

/-- A trial over another key leaves the key alone. -/
theorem level_settle_of_other {t : Trial} (other : ¬ t.Concerns k) : Level k (t.settle a).2 a := by
  cases key : t.object.key? with
  | none =>
      rw [settle_of_unnamed (key?_eq_none_iff.mp key)]
      exact ⟨rfl, rfl⟩
  | some own =>
      have concerned := key?_eq_some_iff.mp key
      have ne : k ≠ own := fun same => other (same ▸ concerned)
      cases ended : t.result with
      | ok outcome =>
          obtain ⟨-, retries⟩ := settle_of_ok (a := a) concerned ended
          exact ⟨by rw [retries]; rfl, by rw [retries, Retries.reset, Table.get?_erase_of_ne _ ne]⟩
      | error e =>
          by_cases conflict : e.retry = .conflict
          · obtain ⟨-, retries⟩ := settle_of_conflict (a := a) concerned ended conflict
            exact ⟨by rw [retries], by rw [retries]⟩
          · obtain ⟨-, retries⟩ := settle_of_error (a := a) concerned ended conflict
            exact ⟨by rw [retries]; rfl,
              by rw [retries, Retries.recordFailure, Table.get?_insert_of_ne _ ne]⟩

theorem Level.symm (level : Level k a b) : Level k b a := ⟨level.backoff.symm, level.counts.symm⟩

theorem Level.trans {c : Attempts} (first : Level k a b) (second : Level k b c) : Level k a c :=
  ⟨first.backoff.trans second.backoff, first.counts.trans second.counts⟩

/-- What the trials over a key are answered with is what they are answered with when they are alone. -/
theorem Level.decisionsOn_eq (level : Level k a b) (history : List Trial) :
    decisionsOn k a history = b.decisions (history.filter fun t => decide (t.Concerns k)) := by
  induction history generalizing a b with
  | nil => rfl
  | cons t rest ih =>
      by_cases concerned : t.Concerns k
      · obtain ⟨same, next⟩ := level.settle concerned concerned rfl
        have later := ih next
        simp only [decisionsOn] at later
        simp [decisionsOn, decisions, concerned, same, later]
      · have later := ih ((level_settle_of_other (a := a) concerned).trans level)
        simp only [decisionsOn] at later
        simp [decisionsOn, decisions, concerned, later]

/-! ### Every decision -/

/-- What a trial is to be answered with, and what it is to leave, after the trials before it. -/
structure Decided (backoff : Backoff) (earlier : List Trial) (t : Trial) (action : Action)
    (before after : Attempts) : Prop where
  unnamed : t.object.metadata.name = none → action = .awaitChange ∧ after = before
  done : ∀ k, t.Concerns k → t.result = .ok .done →
    action = .awaitChange ∧ after.retries.counts.get? k = none
  requeued : ∀ k delay, t.Concerns k → t.result = .ok (.requeueAfter delay) →
    action = .requeue delay ∧ after.retries.counts.get? k = none
  conflict : ∀ k e, t.Concerns k → t.result = .error e → e.retry = .conflict →
    action = .requeue .zero ∧ after.retries = before.retries
  failed : ∀ k e, t.Concerns k → t.result = .error e → e.retry ≠ .conflict →
    action = .requeue (backoff.delay (min (failuresSince k earlier + 1) Text.maxWord32)) ∧
      after.retries.counts.get? k = some (min (failuresSince k earlier + 1) Text.maxWord32)
  others : ∀ k, ¬ t.Concerns k → after.retries.counts.get? k = before.retries.counts.get? k

theorem Tells.decided {earlier : List Trial} (tells : Tells backoff earlier a) (t : Trial) :
    Decided backoff earlier t (t.settle a).1 a (t.settle a).2 where
  unnamed unnamed := by rw [settle_of_unnamed unnamed]; exact ⟨rfl, rfl⟩
  done k concerned ended := by
    refine ⟨(settle_of_ok concerned ended).1, ?_⟩
    rw [(tells.settle t).counts, failuresSince_of_ok concerned ended]
    rfl
  requeued k delay concerned ended := by
    refine ⟨(settle_of_ok concerned ended).1, ?_⟩
    rw [(tells.settle t).counts, failuresSince_of_ok concerned ended]
    rfl
  conflict k e concerned ended conflict := settle_of_conflict concerned ended conflict
  failed k e concerned ended counts := by
    constructor
    · rw [(settle_of_error concerned ended counts).1, Retries.recordFailure, tells.backoff, tells.failures]
      have capped : min (min (failuresSince k earlier) Text.maxWord32 + 1) Text.maxWord32 =
          min (failuresSince k earlier + 1) Text.maxWord32 := by omega
      simp only [capped]
    · rw [(tells.settle t).counts, failuresSince_of_error concerned ended counts]
      simp [held]
  others k other := by rw [(tells.settle t).counts, failuresSince_of_other other, tells.counts]

end Runs

/-- Every decision is the one that the history of the key asks for, whatever has been tried in between; and
what the trials over a key are answered with is what they are answered with when they are alone. -/
theorem decided_by_own_history (backoff : Backoff) (history : List Trial) :
    (∀ earlier t later, history = earlier ++ t :: later →
      ∃ action, (fresh backoff).decisions history =
          (fresh backoff).decisions earlier ++
            action :: ((fresh backoff).after (earlier ++ [t])).decisions later ∧
        Decided backoff earlier t action ((fresh backoff).after earlier)
          ((fresh backoff).after (earlier ++ [t]))) ∧
      ∀ k, decisionsOn k (fresh backoff) history =
        (fresh backoff).decisions (history.filter fun t => decide (t.Concerns k)) := by
  refine ⟨?_, fun k => Level.decisionsOn_eq ⟨rfl, rfl⟩ history⟩
  rintro earlier t later rfl
  have tells : Tells backoff earlier ((fresh backoff).after earlier) := by
    simpa using (tells_fresh backoff).after earlier
  refine ⟨(t.settle ((fresh backoff).after earlier)).1, ?_, ?_⟩
  · rw [decisions_append, after_append]
    rfl
  · rw [after_append]
    exact tells.decided t

end Attempts

end LinkKeeper
