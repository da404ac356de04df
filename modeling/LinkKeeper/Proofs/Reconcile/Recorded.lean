import LinkKeeper.Proofs.Reconcile.Interference

/-!
Links that are only recorded, and a metadata service in memory.

Both answer from what they have been told beforehand. What a pass asks of them is noted, but changes no
answer, so they answer the same for ever.

* `World.Alike`: two worlds whose links and metadata service answer the same.
* `World.alike_run`, `World.Alike.of_mem_trace`: every call of a run is answered as it would have been at
  first.
* `World.links_run`: what a run leaves in the notes of the links.
-/

namespace LinkKeeper

/-- Whether the call goes to the store. -/
def Call.toStore : Call → Bool
  | .readInterface _ | .writeInterface _ | .writeStatus _ | .readNetwork _ => true
  | _ => false

/-- Whether the call gives a link its routes. -/
def Call.syncs : Call → Bool
  | .syncRoutes _ _ => true
  | _ => false

/-- The call as the recorded links note it. -/
def Call.note? : Call → Option LinkCall
  | .tearDownLink mac address => some (.tearDown mac address)
  | .linkName mac => some (.name mac)
  | .configureLink mac address => some (.configure mac address)
  | .syncRoutes mac routes => some (.syncRoutes mac routes)
  | _ => none

/-- The question for a name is noted like the other calls, and answered from the table of names unless it
has been told to fail. -/
theorem RecordedLinks.name_eq (r : RecordedLinks) (mac : String) :
    r.name mac =
      (if r.failing.contains .name then
          .error (.injected ("injected failure for " ++ LinkOperation.name.title))
        else r.lookup mac,
        { r with calls := r.calls ++ [.name mac] }) := by
  by_cases fails : r.failing.contains .name = true
  · have performed : r.perform (.name mac) =
        (.error (.injected ("injected failure for " ++ LinkOperation.name.title)),
          { r with calls := r.calls ++ [.name mac] }) := Prod.ext (if_pos fails) rfl
    unfold name
    rw [performed, if_pos fails]
  · have performed : r.perform (.name mac) = (.ok (), { r with calls := r.calls ++ [.name mac] }) :=
      Prod.ext (if_neg fails) rfl
    unfold name
    rw [performed, if_neg fails]
    rfl

/-- Of links with one name no other is given. -/
theorem RecordedLinks.eq_of_lookup_single {mac name other found : String}
    (resolved : (RecordedLinks.ofList [(mac, name)]).lookup other = .ok found) : found = name := by
  have single : (RecordedLinks.ofList [(mac, name)]).names =
      (∅ : Table String String).insert (Net.foldCase mac) name := rfl
  unfold RecordedLinks.lookup at resolved
  rw [single, Table.get?_insert] at resolved
  by_cases here : Net.foldCase other = Net.foldCase mac
  · rw [if_pos here] at resolved
    cases resolved
    rfl
  · rw [if_neg here] at resolved
    cases resolved

namespace World

variable {α : Type} {w v u : World} {r : RecordedLinks}

/-- The links of both are recorded, and both are told to answer the same. -/
structure Alike (w v : World) : Prop where
  links : ∃ r calls, w.links = .recorded r ∧ v.links = .recorded { r with calls := calls }
  document : v.machine.document = w.machine.document
  failing : v.machine.failing = w.machine.failing

theorem Alike.refl (recorded : w.links = .recorded r) : Alike w w :=
  ⟨⟨r, r.calls, recorded, recorded⟩, rfl, rfl⟩

theorem Alike.trans (first : Alike w v) (second : Alike v u) : Alike w u := by
  obtain ⟨⟨r, calls, here, there⟩, document, failing⟩ := first
  obtain ⟨⟨_, later, found, last⟩, sameDocument, sameFailing⟩ := second
  cases there.symm.trans found
  exact ⟨⟨r, later, here, last⟩, sameDocument.trans document, sameFailing.trans failing⟩

/-- The links note a call, and nothing else changes in them. -/
theorem links_answer (recorded : w.links = .recorded r) (c : Call) :
    (World.answer c w).2.links = .recorded { r with calls := r.calls ++ c.note?.toList } := by
  cases c with
  | readInterface | writeInterface | writeStatus | readNetwork | readMetadata =>
      simp [World.answer, Call.note?, recorded]
  | tearDownLink | configureLink | syncRoutes =>
      simp [World.answer, Call.note?, recorded, WorldLinks.tearDown, WorldLinks.configure,
        WorldLinks.syncRoutes, RecordedLinks.perform]
  | linkName mac => simp [World.answer, Call.note?, recorded, WorldLinks.name, RecordedLinks.name_eq]

/-- So a run leaves its calls for links in their notes. -/
theorem links_run (recorded : w.links = .recorded r) (p : Program Call Call.Answer α) :
    (Program.run World.answer p w).2.links =
      .recorded { r with
        calls := r.calls ++ ((Program.trace World.answer p w).map Sigma.fst).filterMap Call.note? } := by
  induction p generalizing w r with
  | done a => simpa [Program.trace] using recorded
  | ask c next ih =>
      rw [Program.trace_ask, Program.run_ask, ih _ (links_answer recorded c)]
      cases noted : c.note? <;> simp [noted]

/-- A call changes no answer. -/
theorem alike_answer (recorded : w.links = .recorded r) (c : Call) : Alike w (World.answer c w).2 where
  links := ⟨r, _, recorded, links_answer recorded c⟩
  document := by
    cases c with
    | readMetadata =>
        show w.machine.fetch.2.document = _
        unfold MemoryInstance.fetch
        dsimp only
        split <;> rfl
    | _ => rfl
  failing := by
    cases c with
    | readMetadata =>
        show w.machine.fetch.2.failing = _
        unfold MemoryInstance.fetch
        dsimp only
        split <;> rfl
    | _ => rfl

/-- Nor does a run. -/
theorem alike_run (recorded : w.links = .recorded r) (p : Program Call Call.Answer α) :
    Alike w (Program.run World.answer p w).2 := by
  induction p generalizing w r with
  | done a => exact .refl recorded
  | ask c next ih => exact (alike_answer recorded c).trans (ih _ (links_answer recorded c))

/-- What is not asked of the store is answered the same by both. -/
theorem Alike.answer (alike : Alike w v) {c : Call} (outside : c.toStore = false) :
    (World.answer c v).1 = (World.answer c w).1 := by
  obtain ⟨⟨r, calls, here, there⟩, document, failing⟩ := alike
  cases c with
  | readInterface | writeInterface | writeStatus | readNetwork => cases outside
  | readMetadata =>
      show v.machine.fetch.1 = w.machine.fetch.1
      unfold MemoryInstance.fetch
      simp only [document, failing]
      split <;> rfl
  | tearDownLink | configureLink | syncRoutes =>
      simp [World.answer, here, there, WorldLinks.tearDown, WorldLinks.configure, WorldLinks.syncRoutes,
        RecordedLinks.perform]
  | linkName mac =>
      simp [World.answer, here, there, WorldLinks.name, RecordedLinks.name_eq, RecordedLinks.lookup]

/-- A name that is given comes from the table of names. -/
theorem lookup_of_linkName (recorded : w.links = .recorded r) {mac name : String}
    (resolved : (World.answer (.linkName mac) w).1 = .ok name) : r.lookup mac = .ok name := by
  simp only [World.answer, recorded, WorldLinks.name, RecordedLinks.name_eq, Prod.map_fst, id_eq] at resolved
  split at resolved
  · cases resolved
  · exact resolved

/-- Every call of a run that does not go to the store is answered as it would have been at first. -/
theorem Alike.of_mem_trace (alike : Alike w v) {p : Program Call Call.Answer α} {c : Call} {reply : c.Answer}
    (outside : c.toStore = false) (mem : ⟨c, reply⟩ ∈ Program.trace World.answer p v) :
    reply = (World.answer c w).1 := by
  induction p generalizing v with
  | done a => simp [Program.trace] at mem
  | ask q next ih =>
      rw [Program.trace_ask] at mem
      rcases List.mem_cons.mp mem with same | mem
      · cases same
        exact alike.answer outside
      · obtain ⟨r, calls, -, recorded⟩ := alike.links
        exact ih _ (alike.trans (alike_answer recorded q)) mem

end World

end LinkKeeper
