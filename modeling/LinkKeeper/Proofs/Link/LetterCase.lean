import LinkKeeper.Link.Recorder
import LinkKeeper.Link.Script
import LinkKeeper.Proofs.Link.Host
import LinkKeeper.Proofs.Reconcile.Likeness

/-!
The letter case of hardware addresses, and the operations on links.

An operation compares hardware addresses when it looks its link up, and nowhere else. So on hosts whose reports of the
links are the same up to the letter case of hardware addresses it finds the same link and runs the same commands.

* `Links.SameReply`: what two hosts answer to a command, the same but for that.
* `LinkEntry.find?_congr`: the first link with a hardware address.
* `Links.alike_tearDown`, `Links.alike_name`, `Links.alike_configure`, `Links.alike_syncRoutes`: the operations.
* `ScriptedHost.SameUpToCase.runLink`: operations on two such hosts.
-/

namespace LinkKeeper

open Net

/-! ### What is reported and told -/

namespace LinkEntry

/-- The link with its hardware address in small letters. -/
def folded (l : LinkEntry) : LinkEntry := { l with macAddress := l.macAddress.map foldCase }

variable {l m : LinkEntry} {links others : List LinkEntry} {mac other : String}

theorem name_congr (same : l.folded = m.folded) : l.name = m.name :=
  show l.folded.name = m.folded.name from congrArg name same

theorem isUp_congr (same : l.folded = m.folded) : l.isUp = m.isUp :=
  show l.folded.isUp = m.folded.isUp from congrArg isUp same

theorem hasAddress_folded (l : LinkEntry) (mac : String) : l.folded.hasAddress mac = l.hasAddress mac := by
  unfold hasAddress folded
  cases l.macAddress with
  | none => rfl
  | some own => simp [sameHardwareAddress]

theorem hasAddress_congr (l : LinkEntry) (same : foldCase mac = foldCase other) :
    l.hasAddress mac = l.hasAddress other := by
  unfold hasAddress sameHardwareAddress
  rw [same]

/-- The first link with a hardware address is the same one, of links that differ in letter case only. -/
theorem find?_congr (alike : links.map folded = others.map folded) (same : foldCase mac = foldCase other) :
    (links.find? fun l => l.hasAddress mac).map folded = (others.find? fun l => l.hasAddress other).map folded := by
  have folds (links : List LinkEntry) (mac : String) :
      (links.find? fun l => l.hasAddress mac).map folded = (links.map folded).find? fun l => l.hasAddress mac := by
    rw [List.find?_map]
    simp only [Function.comp_def, hasAddress_folded]
  rw [folds, folds, alike]
  simp only [hasAddress_congr _ same]

end LinkEntry

/-- The error with the hardware address that it tells in small letters. -/
def LinkError.folded : LinkError → LinkError
  | .notFound mac => .notFound (foldCase mac)
  | e => e

/-- The recorded call with its hardware address in small letters. -/
def LinkCall.folded : LinkCall → LinkCall
  | .tearDown mac address => .tearDown (foldCase mac) address
  | .name mac => .name (foldCase mac)
  | .configure mac address => .configure (foldCase mac) address
  | .syncRoutes mac routes => .syncRoutes (foldCase mac) routes

theorem LinkCall.operation_folded (c : LinkCall) : c.folded.operation = c.operation := by
  cases c <;> rfl

/-! ### The operations -/

namespace Links

open Program

variable {α : Type} {mac other device : String} {address : Network}

/-- What a report of the links shows, with hardware addresses in small letters; nothing if it cannot be read. -/
def shownLinks (reply : IpReply) : Except LinkError (Option (List LinkEntry)) :=
  reply.map fun text => (Report.parse? LinkEntry.fromJson? text).map (·.map LinkEntry.folded)

/-- Both replies to the command are the same, up to the letter case of hardware addresses in a report of the links. -/
def SameReply (c : IpCommand) (reply answer : IpReply) : Prop :=
  if c = .showLinks then shownLinks reply = shownLinks answer else reply = answer

/-- Commands are taken for the same only if they are, and replies to them if they differ in letter case at most. -/
def likeness : Likeness IpCommand fun _ => IpReply where
  question c d := c = d
  event e f := e.1 = f.1 ∧ SameReply e.1 e.2 f.2

/-- The errors differ at most in the letter case of a hardware address. -/
def SameError (e f : LinkError) : Prop := e.folded = f.folded

/-- Only that a link is not found tells a hardware address. -/
theorem SameError.cases {e f : LinkError} (same : SameError e f) :
    (∃ mac other, e = .notFound mac ∧ f = .notFound other) ∨ e = f ∧ ∀ mac, e ≠ .notFound mac := by
  unfold SameError LinkError.folded at same
  cases e with
  | notFound mac =>
      cases f with
      | notFound other => exact .inl ⟨mac, other, rfl, rfl⟩
      | spawn | command | decode | invalidValue | injected => cases same
  | spawn | command | decode | invalidValue | injected =>
      refine .inr ⟨?_, nofun⟩
      cases f with
      | notFound other => cases same
      | spawn | command | decode | invalidValue | injected => exact same

/-- Both operations run the same commands and end alike. -/
abbrev AlikeUpTo {β : Type} (post : α → β → Prop) (x : LinkProgram α) (y : LinkProgram β) : Prop :=
  Alike likeness (Outcomes SameError post) x.run y.run

theorem outcomes_shownLinks {reply answer : IpReply} (same : shownLinks reply = shownLinks answer) :
    Outcomes SameError (fun text told => (Report.parse? LinkEntry.fromJson? text).map (·.map LinkEntry.folded) =
      (Report.parse? LinkEntry.fromJson? told).map (·.map LinkEntry.folded)) reply answer := by
  refine (outcomes_of_map same).mono ?_ fun _ _ holds => holds
  exact fun _ _ equal => congrArg LinkError.folded equal

/-- The report of the links. -/
theorem alike_showLinks :
    AlikeUpTo (fun links others => links.map LinkEntry.folded = others.map LinkEntry.folded)
      (report LinkEntry.fromJson? .showLinks) (report LinkEntry.fromJson? .showLinks) := by
  refine alike_except_bind (alike_query rfl fun reply answer same => outcomes_shownLinks same.2) ?_
  intro text told same
  cases read : Report.parse? LinkEntry.fromJson? text with
  | none =>
      rw [read, Option.map_none] at same
      rw [Option.map_eq_none_iff.mp same.symm]
      exact alike_throw rfl
  | some links =>
      rw [read, Option.map_some] at same
      obtain ⟨others, readOther, alike⟩ := Option.map_eq_some_iff.mp same.symm
      rw [readOther]
      exact alike_pure alike.symm

theorem alike_find (same : foldCase mac = foldCase other) :
    AlikeUpTo (fun l m => l.folded = m.folded) (find mac) (find other) := by
  unfold find find?
  rw [bind_assoc, bind_assoc]
  refine alike_except_bind alike_showLinks ?_
  intro links others alike
  rw [pure_bind, pure_bind]
  have found := LinkEntry.find?_congr alike same
  cases first : links.find? fun l => l.hasAddress mac with
  | none =>
      rw [first, Option.map_none] at found
      rw [Option.map_eq_none_iff.mp found.symm]
      exact alike_throw (congrArg LinkError.notFound same)
  | some l =>
      rw [first, Option.map_some] at found
      obtain ⟨m, firstOther, alike⟩ := Option.map_eq_some_iff.mp found.symm
      rw [firstOther]
      exact alike_pure alike.symm

/-- That there is no link is not passed on in either case of letters. -/
theorem alike_findUnlessGone (same : foldCase mac = foldCase other) :
    AlikeUpTo (fun l m => l.map LinkEntry.folded = m.map LinkEntry.folded) (findUnlessGone mac)
      (findUnlessGone other) := by
  have found : AlikeUpTo (fun l m => l.map LinkEntry.folded = m.map LinkEntry.folded)
      (do pure (some (← find mac))) (do pure (some (← find other))) :=
    alike_except_bind (alike_find same) fun _ _ alike => alike_pure (congrArg some alike)
  refine Alike.bind found ?_
  rintro _ _ (holds | @⟨e, f, same⟩)
  · exact .done (.ok holds)
  · rcases same.cases with ⟨gone, lost, rfl, rfl⟩ | ⟨rfl, other⟩
    · exact alike_pure rfl
    · cases e with
      | notFound gone => exact absurd rfl (other gone)
      | spawn | command | decode | invalidValue | injected => exact alike_throw rfl

/-- What is done with a link that has been found depends on nothing but the replies. -/
theorem alike_of_names {x : LinkProgram α} (runs : Runs (Names device) x) : AlikeUpTo Eq x x := by
  have exact (c : IpCommand) (reply answer : IpReply) (names : Names device c)
      (same : likeness.event ⟨c, reply⟩ ⟨c, answer⟩) : reply = answer := by
    have shows : c ≠ .showLinks := by
      rintro rfl
      cases names
    exact (if_neg shows).mp same.2
  refine (runs.alike (fun _ _ => rfl) exact).mono ?_
  rintro outcome _ rfl
  cases outcome with
  | ok a => exact .ok rfl
  | error e => exact .error rfl

/-- An operation that goes on with the link that is looked up. -/
theorem alike_of_find {f : LinkEntry → LinkProgram α} (same : foldCase mac = foldCase other)
    (onward : ∀ l m : LinkEntry, l.folded = m.folded → AlikeUpTo Eq (f l) (f m)) :
    AlikeUpTo Eq (find mac >>= f) (find other >>= f) := alike_except_bind (alike_find same) onward

theorem alike_tearDown (same : foldCase mac = foldCase other) (address : Network) :
    AlikeUpTo Eq (tearDown mac address) (tearDown other address) := by
  refine alike_except_bind (alike_findUnlessGone same) ?_
  intro found again alike
  cases found with
  | none =>
      rw [Option.map_eq_none_iff.mp alike.symm]
      exact alike_pure rfl
  | some l =>
      obtain ⟨m, rfl, folded⟩ := Option.map_eq_some_iff.mp alike.symm
      dsimp only
      rw [LinkEntry.name_congr folded]
      exact alike_of_names ((runs_tearsDown address l.name).mono fun _ => TearsDown.names)

theorem alike_name (same : foldCase mac = foldCase other) : AlikeUpTo Eq (name mac) (name other) :=
  alike_of_find same fun _ _ folded => alike_pure (LinkEntry.name_congr folded)

theorem alike_configure (same : foldCase mac = foldCase other) (address : Network) :
    AlikeUpTo Eq (configure mac address) (configure other address) := by
  refine alike_of_find same ?_
  intro l m folded
  rw [← LinkEntry.name_congr folded, ← LinkEntry.isUp_congr folded]
  exact alike_of_names ((runs_connects address l).mono fun _ => Connects.names)

theorem alike_syncRoutes (same : foldCase mac = foldCase other) (routes : List Route) :
    AlikeUpTo Eq (syncRoutes mac routes) (syncRoutes other routes) := by
  refine alike_of_find same ?_
  intro l m folded
  rw [← LinkEntry.name_congr folded]
  exact alike_of_names (runs_routes routes l.name)

end Links

/-! ### Hosts and recorded links -/

/-- The two hosts have run the same commands and answer alike. -/
structure ScriptedHost.SameUpToCase (h k : ScriptedHost) : Prop where
  lines : h.lines = k.lines
  replies : ∀ c, Links.SameReply c (h.answer c).1 (k.answer c).1

/-- Operations that are alike end alike on the two hosts, after the same commands. -/
theorem ScriptedHost.SameUpToCase.runLink {h k : ScriptedHost} (same : h.SameUpToCase k) {α : Type}
    {x y : LinkProgram α} (alike : Links.AlikeUpTo Eq x y) :
    (h.runLink x).1.mapError LinkError.folded = (k.runLink y).1.mapError LinkError.folded ∧
      (h.runLink x).2.SameUpToCase (k.runLink y).2 := by
  have agree : Program.Agree Links.likeness SameUpToCase ScriptedHost.answer ScriptedHost.answer := by
    rintro c _ h k rfl same
    exact ⟨⟨rfl, same.replies c⟩, congrArg (· ++ [c.line]) same.lines, same.replies⟩
  obtain ⟨-, outcomes, kept⟩ := alike.run agree same
  exact ⟨Program.outcomes_iff_mapError.mp outcomes, kept⟩

theorem IpCommand.eq_showLinks {c : IpCommand} (same : c.line = IpCommand.showLinks.line) : c = .showLinks := by
  have chars := congrArg (fun line => line.toList.take 4) same
  cases c with
  | showLinks => rfl
  | showRoutes family => cases family <;> simp [line, words, familyOption] at chars
  | showAddresses | setUp | setDown | addAddress | deleteAddress | replaceRoute | deleteRoute =>
      simp [line, words] at chars

/-- Two hosts that are the same but for the reports of their links, which give links that are the same up to letter
case. -/
theorem ScriptedHost.sameUpToCase_of_told {links others : List LinkEntry} {text again : String}
    (told : LinkEntry.Told links text) (toldOther : LinkEntry.Told others again)
    (alike : links.map LinkEntry.folded = others.map LinkEntry.folded) (h : ScriptedHost) :
    (h.setAnswer IpCommand.showLinks.line (.prints text)).SameUpToCase
      (h.setAnswer IpCommand.showLinks.line (.prints again)) := by
  refine ⟨rfl, ?_⟩
  intro c
  unfold Links.SameReply answer setAnswer
  split
  · rename_i shows
    subst shows
    simp [Links.shownLinks, reply, Except.map, told.parse?, toldOther.parse?, alike]
  · rename_i apart
    have other : c.line ≠ IpCommand.showLinks.line := fun same => apart (IpCommand.eq_showLinks same)
    dsimp only
    rw [Table.get?_insert_of_ne _ other, Table.get?_insert_of_ne _ other]

namespace RecordedLinks

/-- The recorded links with the hardware addresses of their calls in small letters. The keys of the names are kept in
small letters anyway. -/
def folded (r : RecordedLinks) : RecordedLinks := { r with calls := r.calls.map LinkCall.folded }

/-- Which letter case the links are given in does not matter. -/
theorem ofList_congr {links others : List (String × String)}
    (same : (links.map fun l => (foldCase l.1, l.2)) = others.map fun l => (foldCase l.1, l.2)) :
    ofList links = ofList others := by
  unfold ofList
  rw [same]

theorem perform_folded (r : RecordedLinks) (c : LinkCall) :
    r.folded.perform c.folded = ((r.perform c).1, (r.perform c).2.folded) := by
  simp [perform, folded, LinkCall.operation_folded]

theorem lookup_folded (r : RecordedLinks) (mac : String) :
    r.folded.lookup (foldCase mac) = (r.lookup mac).mapError LinkError.folded := by
  have names : r.folded.names = r.names := rfl
  unfold lookup
  rw [foldCase_foldCase, names]
  cases r.names.get? (foldCase mac) with
  | none => rfl
  | some name => rfl

theorem name_folded (r : RecordedLinks) (mac : String) :
    r.folded.name (foldCase mac) = ((r.name mac).1.mapError LinkError.folded, (r.name mac).2.folded) := by
  rw [name_eq, name_eq, lookup_folded]
  refine Prod.ext ?_ ?_
  · show (if r.failing.contains .name = true then _ else _) = _
    split <;> rfl
  · simp [folded, LinkCall.folded]

end RecordedLinks

end LinkKeeper
