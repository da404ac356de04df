import LinkKeeper.Proofs.Reconcile.Paths
import LinkKeeper.Reconcile.World

/-!
Passes that nobody disturbs, told by what the collaborators answer.

* `Pass.runIn`: runs a part of a pass.
* `Pass.runIn_bind_ok`, `Pass.runIn_bind_error`: one part after another.
* `World.reconcile_none`, `World.reconcile_some`: a whole pass.
-/

namespace LinkKeeper

open Net

namespace Pass

variable {α β : Type}

/-- Runs a part of a pass in a world. -/
def runIn (w : World) (x : PassProgram α) : Except KeeperError α × World :=
  Program.run World.answer x.run w

section Parts

variable {w v : World} {x : PassProgram α} {f : α → PassProgram β}

theorem runIn_bind_ok {a : α} (first : runIn w x = (.ok a, v)) : runIn w (x >>= f) = runIn v (f a) :=
  Program.run_except_bind_ok first

theorem runIn_bind_error {e : KeeperError} (first : runIn w x = (.error e, v)) :
    runIn w (x >>= f) = (.error e, v) := by
  unfold runIn at first ⊢
  refine (Program.run_bind World.answer x.run _ w).trans ?_
  rw [first]
  rfl

/-- What comes after the last call of a part only changes its result. -/
theorem runIn_bind_pure {r : Except KeeperError α} {g : α → β} (first : runIn w x = (r, v)) :
    runIn w (x >>= fun a => pure (g a)) = (r.map g, v) := by
  cases r with
  | error e => exact runIn_bind_error first
  | ok a => exact runIn_bind_ok first

end Parts

/-! ### Steps -/

section Steps

variable {key : ObjectKey} {mac : String} {address : Network} {s t : PassState} {w v : World}
  {first : Step} {rest : List Step}

theorem runIn_steps_ok (done : runIn w (step key mac address s first) = (.ok t, v)) :
    runIn w (steps key mac address s (first :: rest)) = runIn v (steps key mac address t rest) :=
  runIn_bind_ok done

theorem runIn_steps_error {e : KeeperError}
    (failed : runIn w (step key mac address s first) = (.error e, v)) :
    runIn w (steps key mac address s (first :: rest)) = (.error e, v) :=
  runIn_bind_error failed

theorem runIn_tearDownLink :
    runIn w (step key mac address s .tearDownLink) =
      (((w.links.tearDown mac address).1.mapError .link).map fun _ => s,
        { w with links := (w.links.tearDown mac address).2 }) := by
  have asked : runIn w (tearDownLink mac address) =
      ((w.links.tearDown mac address).1.mapError .link,
        { w with links := (w.links.tearDown mac address).2 }) := rfl
  exact runIn_bind_pure asked

theorem runIn_releaseFinalizer :
    runIn w (step key mac address s .releaseFinalizer) =
      (((w.store.update s.nic.withoutFinalizer).1.mapError .store).map fun written => ⟨written, true⟩,
        { w with store := (w.store.update s.nic.withoutFinalizer).2 }) := by
  have asked : runIn w (writeInterface s.nic.withoutFinalizer) =
      ((w.store.update s.nic.withoutFinalizer).1.mapError .store,
        { w with store := (w.store.update s.nic.withoutFinalizer).2 }) := rfl
  exact runIn_bind_pure asked

/-- The check of an interface that is attached. -/
theorem runIn_verifyAttached (working : w.machine.failing = false)
    (attached : w.machine.document.hasInterface mac = true) :
    runIn w (step key mac address s .verifyAttached) = (.ok s, { w with machine := w.machine.fetch.2 }) := by
  have asked : runIn w readMetadata = (.ok w.machine.document, { w with machine := w.machine.fetch.2 }) := by
    show (w.machine.fetch.1.mapError KeeperError.metadata, _) = _
    unfold MemoryInstance.fetch
    rw [working]
    rfl
  have verified : runIn w (verifyAttached mac) = (.ok (), { w with machine := w.machine.fetch.2 }) := by
    refine (runIn_bind_ok asked).trans ?_
    rw [if_pos attached]
    rfl
  exact runIn_bind_pure verified

/-- The name of a link is written down when the finalizer has just been taken off. -/
theorem runIn_recordLinkName {name : String} (resolved : (w.links.name mac).1 = .ok name)
    (released : s.released = true) :
    runIn w (step key mac address s .recordLinkName) =
      (((w.store.updateStatus (s.nic.withLinkName name)).1.mapError .store).map
          fun written => { s with nic := written },
        { w with
          links := (w.links.name mac).2
          store := (w.store.updateStatus (s.nic.withLinkName name)).2 }) := by
  have asked : runIn w (linkName mac) = (.ok name, { w with links := (w.links.name mac).2 }) := by
    show ((w.links.name mac).1.mapError KeeperError.link, _) = _
    rw [resolved]
    rfl
  have written : runIn { w with links := (w.links.name mac).2 } (writeStatus (s.nic.withLinkName name)) =
      ((w.store.updateStatus (s.nic.withLinkName name)).1.mapError .store,
        { w with
          links := (w.links.name mac).2
          store := (w.store.updateStatus (s.nic.withLinkName name)).2 }) := rfl
  refine (runIn_bind_ok asked).trans ?_
  rw [if_neg (by simp [released])]
  exact runIn_bind_pure written

end Steps

end Pass

/-! ### Whole passes -/

namespace World

variable {settings : Settings} {key : ObjectKey} {w : World}

/-- A pass over an interface that is gone. -/
theorem reconcile_none (absent : w.store.interfaces.get? key.name = none) :
    w.reconcile settings key = (.ok .done, w) := by
  have read : Pass.runIn w (Pass.readInterface key.name) = (.ok none, w) := by
    rw [← absent]
    rfl
  exact Pass.runIn_bind_ok read

/-- It makes no call but the one that finds nothing. -/
theorem trace_none (absent : w.store.interfaces.get? key.name = none) :
    Program.trace answer (Pass.reconcile settings key).run w = [⟨.readInterface key.name, .ok none⟩] := by
  have read : answer (.readInterface key.name) w = (.ok none, w) := by
    rw [← absent]
    rfl
  refine (Program.trace_ask answer (.readInterface key.name) _ w).trans ?_
  rw [read]
  rfl

/-- A pass over an interface that is there. -/
theorem reconcile_some {nic : NetworkInterface} (present : w.store.interfaces.get? key.name = some nic) :
    w.reconcile settings key =
      match Phase.of settings nic with
      | .error e => (.error e, w)
      | .ok .foreign => (.ok .done, w)
      | .ok .awaitingAddress => (.ok (.requeueAfter settings.addressWait), w)
      | .ok (.active plan) =>
        let (r, v) := Pass.runIn w (Pass.steps key plan.macAddress plan.address ⟨nic, false⟩ plan.steps)
        (r.map fun _ => .done, v) := by
  have read : Pass.runIn w (Pass.readInterface key.name) = (.ok (some nic), w) := by
    rw [← present]
    rfl
  refine (Pass.runIn_bind_ok read).trans ?_
  dsimp only
  cases Phase.of settings nic with
  | error e => rfl
  | ok phase =>
      cases phase with
      | foreign => rfl
      | awaitingAddress => rfl
      | active plan =>
          dsimp only
          exact Pass.runIn_bind_pure rfl

end World

end LinkKeeper
