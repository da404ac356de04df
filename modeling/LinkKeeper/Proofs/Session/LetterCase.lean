import LinkKeeper.Proofs.Link.Convergence
import LinkKeeper.Proofs.Reconcile.LetterCase
import LinkKeeper.Proofs.Session.Commuting

/-!
The letter case of hardware addresses, and the keeper at work.

Two worlds that differ in the letter case of hardware addresses answer the calls of a pass alike. So passes over an
interface go the same way in both, end alike, and leave worlds that again differ in letter case only; and so do any
number of passes.

* `World.SameUpToCase`, `World.agree`: such worlds, and that they answer alike.
* `Session.SameUpToCase.pass`: one pass in two sessions.
* `Session.SameUpToCase.round`: any number of passes.
* `Session.letter_case_never_matters`: nothing that a pass does or leaves depends on letter case.
-/

namespace LinkKeeper

open Net Program

/-! ### Worlds -/

/-- The links differ at most in the letter case of hardware addresses: in the noted calls, or in what the host reports
of its links. -/
inductive WorldLinks.SameUpToCase : WorldLinks → WorldLinks → Prop where
  | recorded {r k : RecordedLinks} (same : r.folded = k.folded) : SameUpToCase (.recorded r) (.recorded k)
  | scripted {h k : ScriptedHost} (same : h.SameUpToCase k) : SameUpToCase (.scripted h) (.scripted k)

/-- The machine with all hardware addresses in small letters. -/
def MemoryInstance.folded (m : MemoryInstance) : MemoryInstance := { m with document := m.document.folded }

theorem MemoryInstance.fetch_folded (m : MemoryInstance) :
    m.folded.fetch = (m.fetch.1.map InstanceDocument.folded, m.fetch.2.folded) := by
  rw [fetch_eq, fetch_eq]
  refine Prod.ext ?_ rfl
  show (if m.failing = true then _ else _) = _
  split <;> rfl

/-- The two worlds differ at most in the letter case of hardware addresses. -/
structure World.SameUpToCase (w v : World) : Prop where
  store : w.store.SameUpToCase v.store
  links : w.links.SameUpToCase v.links
  machine : w.machine.folded = v.machine.folded

namespace WorldLinks

variable {l m : WorldLinks} {mac other : String} {address : Network} {routes : List Route}

/-- A call that the recorded links note is answered alike by both. -/
theorem perform_congr {r k : RecordedLinks} (same : r.folded = k.folded) {c d : LinkCall}
    (calls : c.folded = d.folded) :
    ((r.perform c).map id recorded).1.mapError LinkError.folded =
        ((k.perform d).map id recorded).1.mapError LinkError.folded ∧
      ((r.perform c).map id recorded).2.SameUpToCase ((k.perform d).map id recorded).2 := by
  have performed : ((r.perform c).1, (r.perform c).2.folded) = ((k.perform d).1, (k.perform d).2.folded) := by
    rw [← RecordedLinks.perform_folded, ← RecordedLinks.perform_folded, same, calls]
  obtain ⟨answers, links⟩ := Prod.mk.inj performed
  exact ⟨congrArg _ answers, .recorded links⟩

/-- An operation is answered alike by both hosts. -/
theorem runLink_congr {h k : ScriptedHost} (same : h.SameUpToCase k) {α : Type} {x y : LinkProgram α}
    (alike : Links.AlikeUpTo Eq x y) :
    ((h.runLink x).map id scripted).1.mapError LinkError.folded =
        ((k.runLink y).map id scripted).1.mapError LinkError.folded ∧
      ((h.runLink x).map id scripted).2.SameUpToCase ((k.runLink y).map id scripted).2 := by
  obtain ⟨answers, hosts⟩ := same.runLink alike
  exact ⟨answers, .scripted hosts⟩

namespace SameUpToCase

theorem calls (links : l.SameUpToCase m) : l.calls.map LinkCall.folded = m.calls.map LinkCall.folded := by
  cases links with
  | recorded same => exact congrArg RecordedLinks.calls same
  | scripted => rfl

theorem lines (links : l.SameUpToCase m) : l.lines = m.lines := by
  cases links with
  | recorded => rfl
  | scripted same => exact same.lines

variable (links : l.SameUpToCase m) (same : foldCase mac = foldCase other)
include links same

theorem tearDown :
    (l.tearDown mac address).1.mapError LinkError.folded = (m.tearDown other address).1.mapError LinkError.folded ∧
      (l.tearDown mac address).2.SameUpToCase (m.tearDown other address).2 := by
  cases links with
  | recorded links => exact perform_congr links (congrArg (LinkCall.tearDown · address) same)
  | scripted hosts => exact runLink_congr hosts (Links.alike_tearDown same address)

theorem name :
    (l.name mac).1.mapError LinkError.folded = (m.name other).1.mapError LinkError.folded ∧
      (l.name mac).2.SameUpToCase (m.name other).2 := by
  cases links with
  | @recorded r k links =>
      have named : ((r.name mac).1.mapError LinkError.folded, (r.name mac).2.folded) =
          ((k.name other).1.mapError LinkError.folded, (k.name other).2.folded) := by
        rw [← RecordedLinks.name_folded, ← RecordedLinks.name_folded, links, same]
      obtain ⟨answers, links⟩ := Prod.mk.inj named
      exact ⟨answers, .recorded links⟩
  | scripted hosts => exact runLink_congr hosts (Links.alike_name same)

theorem configure :
    (l.configure mac address).1.mapError LinkError.folded = (m.configure other address).1.mapError LinkError.folded ∧
      (l.configure mac address).2.SameUpToCase (m.configure other address).2 := by
  cases links with
  | recorded links => exact perform_congr links (congrArg (LinkCall.configure · address) same)
  | scripted hosts => exact runLink_congr hosts (Links.alike_configure same address)

theorem syncRoutes :
    (l.syncRoutes mac routes).1.mapError LinkError.folded = (m.syncRoutes other routes).1.mapError LinkError.folded ∧
      (l.syncRoutes mac routes).2.SameUpToCase (m.syncRoutes other routes).2 := by
  cases links with
  | recorded links => exact perform_congr links (congrArg (LinkCall.syncRoutes · routes) same)
  | scripted hosts => exact runLink_congr hosts (Links.alike_syncRoutes same routes)

end SameUpToCase

end WorldLinks

namespace World

/-- Both worlds answer calls alike, and stay the same up to letter case. -/
theorem agree : Agree Pass.likeness SameUpToCase World.answer World.answer := by
  intro c d w v calls same
  obtain ⟨store, links, machine⟩ := same
  cases calls with
  | readInterface name =>
      exact ⟨⟨.readInterface name, congrArg Except.ok (store.interfaces name)⟩, store, links, machine⟩
  | writeInterface same =>
      obtain ⟨answers, stores⟩ := store.update same
      exact ⟨⟨.writeInterface same, answers⟩, stores, links, machine⟩
  | writeStatus same =>
      obtain ⟨answers, stores⟩ := store.updateStatus same
      exact ⟨⟨.writeStatus same, answers⟩, stores, links, machine⟩
  | readNetwork name =>
      exact ⟨⟨.readNetwork name, congrArg Except.ok (store.getNetwork name)⟩, store, links, machine⟩
  | readMetadata =>
      have fetched : (w.machine.fetch.1.map InstanceDocument.folded, w.machine.fetch.2.folded) =
          (v.machine.fetch.1.map InstanceDocument.folded, v.machine.fetch.2.folded) := by
        rw [← MemoryInstance.fetch_folded, ← MemoryInstance.fetch_folded, machine]
      obtain ⟨answers, machines⟩ := Prod.mk.inj fetched
      exact ⟨⟨.readMetadata, answers⟩, store, links, machines⟩
  | tearDownLink same address =>
      obtain ⟨answers, after⟩ := links.tearDown same
      exact ⟨⟨.tearDownLink same address, answers⟩, store, after, machine⟩
  | linkName same =>
      obtain ⟨answers, after⟩ := links.name same
      exact ⟨⟨.linkName same, answers⟩, store, after, machine⟩
  | configureLink same address =>
      obtain ⟨answers, after⟩ := links.configure same
      exact ⟨⟨.configureLink same address, answers⟩, store, after, machine⟩
  | syncRoutes same routes =>
      obtain ⟨answers, after⟩ := links.syncRoutes same
      exact ⟨⟨.syncRoutes same routes, answers⟩, store, after, machine⟩

/-- A pass goes the same way in both worlds. -/
theorem SameUpToCase.reconcile {w v : World} (same : w.SameUpToCase v) (settings : Settings) (key : ObjectKey) :
    List.Forall₂ Pass.SameEvent (w.trace settings key) (v.trace settings key) ∧
      (w.reconcile settings key).1.mapError KeeperError.folded =
        (v.reconcile settings key).1.mapError KeeperError.folded ∧
      (w.reconcile settings key).2.SameUpToCase (v.reconcile settings key).2 := by
  obtain ⟨events, outcomes, after⟩ := (Pass.alike_reconcile settings key).run agree same
  exact ⟨events, outcomes_iff_mapError.mp outcomes, after⟩

end World

/-! ### What a pass has done -/

/-- What has been noted, with hardware addresses in small letters. -/
def Notes.folded (n : Notes) : Notes := { n with calls := n.calls.map LinkCall.folded }

theorem Notes.since_folded (n before : Notes) : (n.since before).folded = n.folded.since before.folded := by
  simp [folded, since]

theorem World.SameUpToCase.notes {w v : World} (same : w.SameUpToCase v) : w.notes.folded = v.notes.folded := by
  have fetches : w.machine.fetches = v.machine.fetches :=
    show w.machine.folded.fetches = v.machine.folded.fetches from congrArg MemoryInstance.fetches same.machine
  unfold World.notes Notes.folded
  rw [same.links.calls, same.links.lines, fetches]

namespace Pass

/-- The link name in a call that records one. -/
def recordedName? : Event → Option (Option String)
  | ⟨.writeStatus nic, _⟩ => some (nic.status.bind InterfaceStatus.linkName)
  | _ => none

theorem recordedName?_congr {event other : Event} (same : SameEvent event other) :
    recordedName? event = recordedName? other := by
  obtain ⟨c, a⟩ := event
  obtain ⟨d, b⟩ := other
  cases same.1 with
  | @writeStatus nic other copies =>
      refine NetworkInterface.congr_folded copies (fun nic => some (nic.status.bind InterfaceStatus.linkName)) ?_
      rintro ⟨metadata, spec, status⟩
      cases status <;> rfl
  | readInterface | writeInterface | readNetwork | readMetadata | tearDownLink | linkName | configureLink
    | syncRoutes => rfl

/-- The link names that a pass writes, or tries to. -/
def recordedNames (events : List Event) : List (Option String) := events.filterMap recordedName?

theorem recordedNames_congr {events others : List Event} (same : List.Forall₂ SameEvent events others) :
    recordedNames events = recordedNames others := by
  unfold recordedNames
  induction same with
  | nil => rfl
  | cons one _ ih => rw [List.filterMap_cons, List.filterMap_cons, recordedName?_congr one, ih]

end Pass

/-! ### Sessions -/

/-- What follows a pass does not depend on letter case. -/
theorem Attempts.settle_congr (a : Attempts) (key : Option ObjectKey) {r q : Except KeeperError Outcome}
    (same : r.mapError KeeperError.folded = q.mapError KeeperError.folded) (elapsed : Duration) :
    a.settle key r elapsed = a.settle key q elapsed := by
  have folds (r : Except KeeperError Outcome) :
      a.settle key (r.mapError KeeperError.folded) elapsed = a.settle key r elapsed := by
    cases key with
    | none => rfl
    | some key =>
        cases r with
        | ok outcome => rfl
        | error e =>
            simp only [settle, Except.mapError, finished, onError, PassResult.of, KeeperError.retry_folded]
  rw [← folds r, same, folds q]

namespace Session

/-- The two sessions differ at most in the letter case of hardware addresses in their worlds. -/
structure SameUpToCase (s t : Session) : Prop where
  worlds : s.world.SameUpToCase t.world
  rest : t = { s with world := t.world }

/-- The calls of a pass over an object, with their answers. -/
def callsOf (s : Session) (object : NetworkInterface) : List Pass.Event :=
  match object.key? with
  | none => []
  | some key => s.world.trace s.settings key

/-- The passes over the objects do the same up to the letter case of hardware addresses: they end with the same
outcome, or with the same error, which is tried again in the same way; they make the same calls and write the same link
names; and they ask for the document as often, run the same commands on a host, and leave sessions that are the same. -/
structure SamePass (s t : Session) (object other : NetworkInterface) (elapsed : Duration) : Prop where
  result : (s.pass object elapsed).1.mapError KeeperError.folded = (t.pass other elapsed).1.mapError KeeperError.folded
  retry : (s.pass object elapsed).1.mapError KeeperError.retry = (t.pass other elapsed).1.mapError KeeperError.retry
  action : (s.pass object elapsed).2.1 = (t.pass other elapsed).2.1
  calls : List.Forall₂ Pass.SameEvent (s.callsOf object) (t.callsOf other)
  names : Pass.recordedNames (s.callsOf object) = Pass.recordedNames (t.callsOf other)
  noted : (s.visit object elapsed).noted.folded = (t.visit other elapsed).noted.folded
  after : (s.pass object elapsed).2.2.SameUpToCase (t.pass other elapsed).2.2

section Passes

variable {s t : Session} {object other : NetworkInterface}

theorem retry_congr {r q : Except KeeperError Outcome}
    (same : r.mapError KeeperError.folded = q.mapError KeeperError.folded) :
    r.mapError KeeperError.retry = q.mapError KeeperError.retry := by
  cases outcomes_iff_mapError.mpr same with
  | ok holds => exact congrArg Except.ok holds
  | @error e f equal =>
      have classes : e.retry = f.retry := by rw [← e.retry_folded, equal, f.retry_folded]
      exact congrArg Except.error classes

theorem SameUpToCase.attempt (same : s.SameUpToCase t) (objects : object.folded = other.folded) :
    List.Forall₂ Pass.SameEvent (s.callsOf object) (t.callsOf other) ∧
      (s.attempt object).1.mapError KeeperError.folded = (t.attempt other).1.mapError KeeperError.folded ∧
      (s.attempt object).2.SameUpToCase (t.attempt other).2 := by
  obtain ⟨worlds, rest⟩ := same
  generalize t.world = world at rest worlds
  subst rest
  unfold callsOf Session.attempt
  rw [NetworkInterface.congr_folded objects NetworkInterface.key? fun _ => rfl]
  cases other.key? with
  | none => exact ⟨.nil, rfl, worlds, rfl⟩
  | some key =>
      obtain ⟨events, results, after⟩ := worlds.reconcile s.settings key
      exact ⟨events, results, after, rfl⟩

/-- What follows a pass is the same in both, and they stay the same up to letter case. -/
theorem SameUpToCase.settle {key again : Option ObjectKey} {r q : Except KeeperError Outcome}
    (same : s.SameUpToCase t) (keys : key = again)
    (results : r.mapError KeeperError.folded = q.mapError KeeperError.folded) (elapsed : Duration) :
    (s.attempts.settle key r elapsed).1 = (t.attempts.settle again q elapsed).1 ∧
      SameUpToCase { s with attempts := (s.attempts.settle key r elapsed).2 }
        { t with attempts := (t.attempts.settle again q elapsed).2 } := by
  subst keys
  obtain ⟨worlds, rest⟩ := same
  generalize t.world = world at rest worlds
  subst rest
  rw [Attempts.settle_congr s.attempts key results elapsed]
  exact ⟨rfl, worlds, rfl⟩

/-- A pass does the same in both sessions. -/
theorem SameUpToCase.pass (same : s.SameUpToCase t) (objects : object.folded = other.folded) (elapsed : Duration) :
    SamePass s t object other elapsed := by
  obtain ⟨events, results, sessions⟩ := same.attempt objects
  have keys : object.key? = other.key? := NetworkInterface.congr_folded objects NetworkInterface.key? fun _ => rfl
  obtain ⟨action, after⟩ := sessions.settle keys results elapsed
  have noted : (s.visit object elapsed).noted.folded = (t.visit other elapsed).noted.folded := by
    show Notes.folded (Notes.since (s.attempt object).2.world.notes s.world.notes) =
      Notes.folded (Notes.since (t.attempt other).2.world.notes t.world.notes)
    rw [Notes.since_folded, Notes.since_folded, sessions.worlds.notes, same.worlds.notes]
  exact ⟨results, retry_congr results, action, events, Pass.recordedNames_congr events, noted, after⟩

/-- Both passes are over objects that differ at most in letter case, and take the same time. -/
def SameErrand (errand other : NetworkInterface × Duration) : Prop :=
  errand.1.folded = other.1.folded ∧ errand.2 = other.2

/-- After any number of passes the sessions are still the same up to letter case. -/
theorem SameUpToCase.round {errands others : List (NetworkInterface × Duration)} (same : s.SameUpToCase t)
    (objects : List.Forall₂ SameErrand errands others) : (s.round errands).SameUpToCase (t.round others) := by
  induction objects generalizing s t with
  | nil => exact same
  | @cons errand other _ _ one _ ih =>
      obtain ⟨object, elapsed⟩ := errand
      obtain ⟨counterpart, _⟩ := other
      obtain ⟨copies, rfl⟩ := one
      exact ih (same.pass copies elapsed).after

end Passes

end Session

/-- A world on a host answers alike down to the commands. -/
theorem World.agree_node : Agree Pass.nodeLikeness World.SameUpToCase World.nodeAnswer World.nodeAnswer := by
  intro q r w v calls same
  cases calls with
  | ask calls =>
      obtain ⟨event, after⟩ := World.agree _ _ w v calls same
      exact ⟨.ask event, after⟩
  | command c =>
      obtain ⟨store, links, machine⟩ := same
      obtain ⟨objects, here, instances⟩ := w
      obtain ⟨objectsOther, there, instancesOther⟩ := v
      cases links with
      | recorded same => exact ⟨.command (by unfold Links.SameReply; split <;> rfl), store, .recorded same, machine⟩
      | @scripted h k same =>
          have hosts : (h.answer c).2.SameUpToCase (k.answer c).2 :=
            ⟨congrArg (· ++ [c.line]) same.lines, same.replies⟩
          exact ⟨.command (same.replies c), store, .scripted hosts, machine⟩

namespace Session

/-- In which case the letters of a hardware address are written, wherever that is, does not matter to a pass: after any
passes, each next one does the same in two sessions that differ in nothing else, and leaves such sessions. Recorded
links do not even keep the case that they are given in. On hosts that answer alike, passes run the same commands and end
alike, whatever else the hosts do. -/
theorem letter_case_never_matters :
    (∀ links others : List (String × String),
      (links.map fun l => (foldCase l.1, l.2)) = (others.map fun l => (foldCase l.1, l.2)) →
        RecordedLinks.ofList links = RecordedLinks.ofList others) ∧
    (∀ {s t : Session} {errands others : List (NetworkInterface × Duration)}, s.SameUpToCase t →
      List.Forall₂ SameErrand errands others →
        (s.round errands).SameUpToCase (t.round others) ∧
          ∀ object other elapsed, object.folded = other.folded →
            SamePass (s.round errands) (t.round others) object other elapsed) ∧
    ∀ {σ τ : Type} {level : σ → τ → Prop} {left : (q : NodeCall) → σ → q.Answer × σ}
      {right : (q : NodeCall) → τ → q.Answer × τ}, Agree Pass.nodeLikeness level left right →
        ∀ settings key s t, level s t →
          let events := Program.trace left (Pass.hosted settings key) s
          let others := Program.trace right (Pass.hosted settings key) t
          let ends := Program.run left (Pass.hosted settings key) s
          let endsOther := Program.run right (Pass.hosted settings key) t
          List.Forall₂ Pass.SameNodeEvent events others ∧ Pass.commandsOf events = Pass.commandsOf others ∧
            ends.1.mapError KeeperError.folded = endsOther.1.mapError KeeperError.folded ∧
            ends.1.mapError KeeperError.retry = endsOther.1.mapError KeeperError.retry ∧ level ends.2 endsOther.2 := by
  refine ⟨fun _ _ => RecordedLinks.ofList_congr, ?_, ?_⟩
  · intro s t errands others same objects
    have later := same.round objects
    exact ⟨later, fun object other elapsed copies => later.pass copies elapsed⟩
  · intro σ τ level left right agree settings key s t levels events others ends endsOther
    obtain ⟨asked, outcomes, kept⟩ := (Pass.alike_hosted settings key).run agree levels
    have results := outcomes_iff_mapError.mp outcomes
    exact ⟨asked, Pass.commandsOf_congr asked, results, retry_congr results, kept⟩

/-! ### Two ways to write an address -/

/-- A session on a node with one interface. Its hardware address is written once on the object and once by the
machine. -/
def lettered (own attached : String) (links : WorldLinks) : Session :=
  start Pass.departingSettings .standard
    ⟨(MemoryStore.empty.putNetwork Pass.lingeringNetwork).put (FanOut.memberOf "nic-a" "node-a" own), links,
      .ofAddresses [attached]⟩

/-- The only link of a host, with its hardware address. -/
def letteredLink (mac : String) : LinkEntry := ⟨"eth1", some mac, some "UP"⟩

/-- A host that reports this link, and prints nothing else. -/
def letteredHost (mac : String) : ScriptedHost :=
  (ScriptedHost.ofList []).setAnswer IpCommand.showLinks.line
    (.prints (Json.array ([letteredLink mac].map wayOutLinkItem)).render)

section Lettered

variable {mac other : String} (same : foldCase mac = foldCase other)
include same

theorem memberOf_congr : (FanOut.memberOf "nic-a" "node-a" mac).folded =
    (FanOut.memberOf "nic-a" "node-a" other).folded :=
  congrArg (fun mac => { FanOut.memberOf "nic-a" "node-a" mac with status := some ⟨some mac, none⟩ }) same

theorem lettered_congr {l m : WorldLinks} (links : l.SameUpToCase m) :
    (lettered mac other l).SameUpToCase (lettered other mac m) where
  worlds :=
    { store := (MemoryStore.SameUpToCase.refl _).put (memberOf_congr same)
      links := links
      machine := congrArg (fun mac => (MemoryInstance.ofAddresses [mac])) same.symm }
  rest := rfl

theorem letteredHost_congr : (letteredHost mac).SameUpToCase (letteredHost other) := by
  have links : [letteredLink mac].map LinkEntry.folded = [letteredLink other].map LinkEntry.folded :=
    congrArg (fun mac => [letteredLink mac]) same
  exact ScriptedHost.sameUpToCase_of_told (LinkEntry.told_render _) (LinkEntry.told_render _) links _

end Lettered

/-- A hardware address in small letters. -/
def inSmall : String := "02:00:00:0a:bc:01"

/-- The same one in capital letters. -/
def inCapitals : String := "02:00:00:0A:BC:01"

set_option maxRecDepth 8000 in
theorem capital_letters_make_no_difference :
    let member := FanOut.memberOf "nic-a" "node-a"
    let s := lettered inSmall inCapitals (.recorded (.ofList [(inCapitals, "eth1")]))
    let t := lettered inCapitals inSmall (.recorded (.ofList [(inSmall, "eth1")]))
    let onHost := lettered inSmall inCapitals (.scripted (letteredHost inCapitals))
    let onOther := lettered inCapitals inSmall (.scripted (letteredHost inSmall))
    let onNode := Pass.hosted Pass.departingSettings Pass.departingKey
    (s.pass (member inSmall) .zero).1 = .ok .done ∧
      SamePass (s.round [(member inSmall, .zero)]) (t.round [(member inCapitals, .zero)]) (member inCapitals)
        (member inSmall) .zero ∧
      SamePass onHost onOther (member inSmall) (member inCapitals) .zero ∧
      Pass.commandsOf (Program.trace World.nodeAnswer onNode onHost.world) =
        Pass.commandsOf (Program.trace World.nodeAnswer onNode onOther.world) := by
  have succeeds : ((lettered inSmall inCapitals (.recorded (.ofList [(inCapitals, "eth1")]))).pass
      (FanOut.memberOf "nic-a" "node-a" inSmall) .zero).1 = .ok .done := rfl
  intro member s t onHost onOther onNode
  have same : foldCase inSmall = foldCase inCapitals := by decide
  have tables : RecordedLinks.ofList [(inCapitals, "eth1")] = .ofList [(inSmall, "eth1")] :=
    letter_case_never_matters.1 _ _ (congrArg (fun mac => [(mac, "eth1")]) same.symm)
  have recorded : s.SameUpToCase t := lettered_congr same (.recorded (congrArg _ tables))
  have scripted : onHost.SameUpToCase onOther := lettered_congr same (.scripted (letteredHost_congr same.symm))
  have errands : List.Forall₂ SameErrand [(member inSmall, .zero)] [(member inCapitals, .zero)] :=
    .cons ⟨memberOf_congr same, rfl⟩ .nil
  refine ⟨succeeds, ?_, ?_, ?_⟩
  · exact (letter_case_never_matters.2.1 recorded errands).2 _ _ _ (memberOf_congr same.symm)
  · exact (letter_case_never_matters.2.1 scripted .nil).2 _ _ _ (memberOf_congr same)
  · exact (letter_case_never_matters.2.2 World.agree_node _ _ _ _ scripted.worlds).2.1

end Session

end LinkKeeper
