import LinkKeeper.Proofs.Reconcile.Recorded

/-!
What the links and the metadata service note, and what they answer.

Both note what is asked of them, and neither looks at its notes. So what is answered, and what is noted, does not
depend on what has been noted before, nor on the objects in the store.

* `Notes`, `World.notes`: what has been noted.
* `World.Outside`: two worlds whose links and metadata service are the same but for their notes.
* `World.Outside.answer`: they answer the same, and note the same.
-/

namespace LinkKeeper

/-- What the links and the metadata service have noted: the calls for recorded links, the lines of the commands on
a host, and the number of requests for the document. -/
structure Notes where
  calls : List LinkCall
  lines : List String
  fetches : Nat
  deriving DecidableEq

namespace Notes

/-- Nothing has been noted. -/
def none : Notes := ⟨[], [], 0⟩

/-- Notes after others. -/
def append (n more : Notes) : Notes := ⟨n.calls ++ more.calls, n.lines ++ more.lines, n.fetches + more.fetches⟩

/-- What has been noted since. -/
def since (n before : Notes) : Notes :=
  ⟨n.calls.drop before.calls.length, n.lines.drop before.lines.length, n.fetches - before.fetches⟩

@[simp] theorem append_none (n : Notes) : n.append none = n := by simp [append, none]

theorem append_assoc (n more later : Notes) : (n.append more).append later = n.append (more.append later) := by
  simp [append, Nat.add_assoc]

@[simp] theorem append_since (n more : Notes) : (n.append more).since n = more := by
  simp [append, since]

@[simp] theorem since_self (n : Notes) : n.since n = none := by simp [since, none]

end Notes

/-- Running an operation on a host notes its commands after those that have been noted. -/
theorem ScriptedHost.runLink_noted {α : Type} (p : LinkProgram α) (h : ScriptedHost) :
    h.runLink p =
      ((runLink ⟨h.answers, []⟩ p).1, ⟨h.answers, h.lines ++ (runLink ⟨h.answers, []⟩ p).2.lines⟩) := by
  unfold runLink
  generalize p.run = program
  induction program generalizing h with
  | done a => simp
  | ask c next ih =>
      rw [Program.run_ask, Program.run_ask, ih _ (answer c h).2, ih _ (answer c ⟨h.answers, []⟩).2]
      simp [answer]

theorem MemoryInstance.fetch_eq (m : MemoryInstance) :
    m.fetch =
      (if m.failing then .error (.api "injected metadata failure") else .ok m.document,
        { m with fetches := m.fetches + 1 }) := by
  unfold fetch
  dsimp only
  split <;> rfl

/-! ### Links -/

namespace WorldLinks

/-- The links with nothing noted. -/
def fresh : WorldLinks → WorldLinks
  | recorded r => recorded { r with calls := [] }
  | scripted h => scripted { h with lines := [] }

@[simp] theorem calls_fresh (l : WorldLinks) : l.fresh.calls = [] := by
  cases l <;> rfl

@[simp] theorem lines_fresh (l : WorldLinks) : l.fresh.lines = [] := by
  cases l <;> rfl

/-- An operation on the links gives what it gives when nothing has been noted, and notes the same. -/
structure Forgets {α : Type} (l : WorldLinks) (here fresh : α × WorldLinks) : Prop where
  answer : here.1 = fresh.1
  links : here.2.fresh = l.fresh
  calls : here.2.calls = l.calls ++ fresh.2.calls
  lines : here.2.lines = l.lines ++ fresh.2.lines

variable {mac : String} {address : Net.Network}

theorem forgets_recorded {α : Type} (answer : α) (c : LinkCall) (r : RecordedLinks) :
    Forgets (recorded r) (answer, recorded { r with calls := r.calls ++ [c] })
      (answer, recorded { r with calls := [c] }) := ⟨rfl, rfl, rfl, rfl⟩

theorem forgets_scripted {α : Type} (p : LinkProgram α) (h : ScriptedHost) :
    Forgets (scripted h) ((h.runLink p).map id scripted)
      (((⟨h.answers, []⟩ : ScriptedHost).runLink p).map id scripted) := by
  rw [h.runLink_noted p]
  exact ⟨rfl, rfl, rfl, rfl⟩

theorem forgets_tearDown (l : WorldLinks) : Forgets l (l.tearDown mac address) (l.fresh.tearDown mac address) := by
  cases l with
  | recorded r => exact forgets_recorded _ _ r
  | scripted h => exact forgets_scripted (Links.tearDown mac address) h

theorem forgets_name (l : WorldLinks) : Forgets l (l.name mac) (l.fresh.name mac) := by
  cases l with
  | recorded r =>
      unfold name fresh
      dsimp only
      rw [RecordedLinks.name_eq, RecordedLinks.name_eq]
      exact forgets_recorded _ _ r
  | scripted h => exact forgets_scripted (Links.name mac) h

theorem forgets_configure (l : WorldLinks) :
    Forgets l (l.configure mac address) (l.fresh.configure mac address) := by
  cases l with
  | recorded r => exact forgets_recorded _ _ r
  | scripted h => exact forgets_scripted (Links.configure mac address) h

theorem forgets_syncRoutes {routes : List Route} (l : WorldLinks) :
    Forgets l (l.syncRoutes mac routes) (l.fresh.syncRoutes mac routes) := by
  cases l with
  | recorded r => exact forgets_recorded _ _ r
  | scripted h => exact forgets_scripted (Links.syncRoutes mac routes) h

end WorldLinks

/-! ### Worlds -/

namespace World

/-- What has been noted. -/
def notes (w : World) : Notes := ⟨w.links.calls, w.links.lines, w.machine.fetches⟩

/-- The links and the metadata service with nothing noted, beside an empty store. -/
def fresh (w : World) : World := ⟨.empty, w.links.fresh, { w.machine with fetches := 0 }⟩

/-- A call outside of the store leaves it alone, gives what it gives when nothing has been noted, and notes the
same. -/
structure Forgets (w : World) {α : Type} (here fresh : α × World) : Prop where
  answer : here.1 = fresh.1
  store : here.2.store = w.store
  outside : here.2.fresh = w.fresh
  notes : here.2.notes = w.notes.append fresh.2.notes

theorem forgets_links {α : Type} {w : World} {here fresh : α × WorldLinks} (forgets : w.links.Forgets here fresh) :
    w.Forgets (here.map id ({ w with links := · })) (fresh.map id ({ w.fresh with links := · })) where
  answer := forgets.answer
  store := rfl
  outside := by
    show World.mk _ here.2.fresh _ = _
    rw [forgets.links]
    rfl
  notes := by
    show Notes.mk here.2.calls here.2.lines _ = _
    rw [forgets.calls, forgets.lines]
    rfl

theorem forgets_answer {c : Call} (outside : c.toStore = false) (w : World) :
    w.Forgets (World.answer c w) (World.answer c w.fresh) := by
  cases c with
  | readInterface | writeInterface | writeStatus | readNetwork => cases outside
  | tearDownLink => exact forgets_links w.links.forgets_tearDown
  | linkName => exact forgets_links w.links.forgets_name
  | configureLink => exact forgets_links w.links.forgets_configure
  | syncRoutes => exact forgets_links w.links.forgets_syncRoutes
  | readMetadata =>
      show w.Forgets (w.machine.fetch.map id ({ w with machine := · }))
        (w.fresh.machine.fetch.map id ({ w.fresh with machine := · }))
      rw [MemoryInstance.fetch_eq, MemoryInstance.fetch_eq]
      refine ⟨rfl, rfl, rfl, ?_⟩
      simp [notes, Notes.append, fresh]

end World

end LinkKeeper
