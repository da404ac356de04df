import LinkKeeper.Link.Script
import LinkKeeper.Proofs.Link.HeldAddresses
import LinkKeeper.Proofs.Link.Spawned

/-!
What is left of a link that has been torn down.

The link is looked up and its addresses are asked for before anything is changed, and of all that can go wrong only
one thing is no error: that there is no such link. A run of a program does not fail with that; a runner that does is
taken at its word. An address that is reported in a form that cannot be read does not count.

* `Links.SurveysAddresses`: what is found out, whatever the commands give.
* `Links.path_tearDown`: what is done then.
* `AddressHost.Lawful.yields_tearDown`: the links and the addresses after the operation.
* `AddressHost.TornDown`: what a host is like then.
* `AddressHost.tearDown_leaves_nothing`: that it comes to this, and that a second call changes nothing.
* `ScriptedHost.tearDown_takes_at_word`: two failures that it passes over.
-/

namespace LinkKeeper

open Net

/-! ### What is found out -/

namespace Links

variable {events : List Event} {mac : String} {address : Network}

/-- What is found out of a link before it is torn down: the link with the reports of its addresses, or that there is
no such link, or the first failure. -/
inductive SurveysAddresses (mac : String) :
    List Event → Except LinkError (Option (LinkEntry × List LinkAddresses)) → Prop where
  | lost {looked : List Event} {e : LinkError} (lost : Finds mac looked (.error e))
      (other : ∀ gone, e ≠ .notFound gone) : SurveysAddresses mac looked (.error e)
  | gone {reply : IpReply} {links : List LinkEntry} (read : Reads LinkEntry.fromJson? .showLinks reply (.ok links))
      (absent : ∀ l ∈ links, l.hasAddress mac = false) : SurveysAddresses mac [⟨.showLinks, reply⟩] (.ok none)
  /-- The runner itself fails with that there is no such link. -/
  | disowned {gone : String} : SurveysAddresses mac [⟨.showLinks, .error (.notFound gone)⟩] (.ok none)
  | unread {looked : List Event} {link : LinkEntry} {reply : IpReply} {e : LinkError}
      (found : Finds mac looked (.ok link))
      (unread : Reads LinkAddresses.fromJson? (.showAddresses link.name) reply (.error e)) :
      SurveysAddresses mac (looked ++ [⟨.showAddresses link.name, reply⟩]) (.error e)
  | whole {looked : List Event} {link : LinkEntry} {reply : IpReply} {reports : List LinkAddresses}
      (found : Finds mac looked (.ok link))
      (read : Reads LinkAddresses.fromJson? (.showAddresses link.name) reply (.ok reports)) :
      SurveysAddresses mac (looked ++ [⟨.showAddresses link.name, reply⟩]) (.ok (some (link, reports)))

/-- Nothing is changed by a survey. -/
theorem SurveysAddresses.asks {outcome : Except LinkError (Option (LinkEntry × List LinkAddresses))}
    (surveys : SurveysAddresses mac events outcome) : ∀ event ∈ events, event.1.isChange = false := by
  cases surveys with
  | lost lost => exact lost.asks
  | gone | disowned => exact List.forall_mem_singleton.mpr rfl
  | unread found | whole found =>
      exact List.forall_mem_append.mpr ⟨found.asks, List.forall_mem_singleton.mpr rfl⟩

theorem mem_globals_iff {reports : List LinkAddresses} {n : Network} :
    n ∈ (reports.flatMap LinkAddresses.addresses).filterMap AddressEntry.network? ↔
      ∃ report ∈ reports, ∃ e ∈ report.addresses, e.Tells n := by
  simp only [List.mem_filterMap, List.mem_flatMap, AddressEntry.network?_eq_some_iff]
  exact ⟨fun ⟨e, ⟨report, mem, among⟩, tells⟩ => ⟨report, mem, e, among, tells⟩,
    fun ⟨report, mem, e, among, tells⟩ => ⟨e, ⟨report, mem, among⟩, tells⟩⟩

/-- The operation is a survey and, if there is a link, its changes, up to the first that fails: the address is deleted
if it is told, and the link is set down. -/
theorem path_tearDown {r : Except LinkError Unit} (path : Path (tearDown mac address) events r) :
    ∃ surveyed changes outcome, events = surveyed ++ changes ∧ SurveysAddresses mac surveyed outcome ∧
      ((∃ e, outcome = .error e ∧ changes = [] ∧ r = .error e) ∨
        (outcome = .ok none ∧ changes = [] ∧ r = .ok ()) ∨
          ∃ link reports listed, outcome = .ok (some (link, reports)) ∧
            (listed = true ↔ ∃ report ∈ reports, ∃ e ∈ report.addresses, e.Tells address) ∧
            Performs ((if listed then [.deleteAddress address link.name] else []) ++ [.setDown link.name])
              changes r) := by
  rcases path_bind_iff.mp path with ⟨e, looked, rfl⟩ | ⟨entry, looked, rest, rfl, found, onward⟩
  · rcases path_findUnlessGone looked with ⟨_, _, same⟩ | ⟨_, _, same⟩ | ⟨e, lost, other, same⟩
    · cases same
    · cases same
    · cases same
      exact ⟨events, [], _, (List.append_nil _).symm, .lost lost other, .inl ⟨e, rfl, rfl, rfl⟩⟩
  · rcases path_findUnlessGone found with ⟨link, finds, same⟩ | ⟨gone, lost, same⟩ | ⟨_, _, _, same⟩
    · cases same
      rcases path_bind_iff.mp onward with ⟨e, asked, rfl⟩ | ⟨current, asked, changes, rfl, told, runs⟩
      · obtain ⟨reply, rfl, ⟨_, unread, same⟩ | ⟨_, _, same⟩⟩ := path_globalAddresses asked
        · cases same
          exact ⟨_, [], _, (List.append_nil _).symm, .unread finds unread, .inl ⟨e, rfl, rfl, rfl⟩⟩
        · cases same
      · obtain ⟨reply, rfl, ⟨_, _, same⟩ | ⟨reports, read, same⟩⟩ := path_globalAddresses told
        · cases same
        · cases same
          refine ⟨_, changes, _, (List.append_assoc _ _ _).symm, .whole finds read,
            .inr (.inr ⟨link, reports, _, rfl, ?_, path_runAll runs⟩)⟩
          rw [List.contains_iff_mem, mem_globals_iff]
    · cases same
      obtain ⟨rfl, rfl⟩ := path_pure_iff.mp onward
      refine ⟨looked, [], .ok none, rfl, ?_, .inr (.inl ⟨rfl, rfl, rfl⟩)⟩
      cases lost with
      | unread unread =>
          cases unread with
          | refused => exact .disowned
      | absent read absent =>
          refine .gone read fun l mem => ?_
          simpa using List.find?_eq_none.mp absent l mem
    · cases same

/-- That there is no link is forgiven, and no other error. -/
def forgiven : Except LinkError (Option LinkEntry) → Except LinkError (Option LinkEntry)
  | .error (.notFound _) => .ok none
  | outcome => outcome

theorem run_findUnlessGone (mac : String) :
    (findUnlessGone mac).run = (find? mac).run.bind fun outcome => .done (forgiven outcome) := by
  refine (congrArg (Program.bind · _) (Program.bind_bind _ _ _)).trans ((Program.bind_bind _ _ _).trans ?_)
  refine congrArg (Program.bind (find? mac).run) (funext fun outcome => ?_)
  rcases outcome with (_ | _) | (_ | _) <;> rfl

end Links

/-! ### Hosts -/

namespace LinkHost

variable {σ : Type} {h : LinkHost σ} {s t : σ} {mac : String}

theorem yields_findUnlessGone {keeps : σ → Prop}
    (told : ∀ text t, h.answer .showLinks s = (.ok text, t) → keeps t ∧ LinkEntry.Told (h.links s) text) :
    h.Yields (Links.findUnlessGone mac) s fun entry cs t =>
      entry = (h.links s).find? (·.hasAddress mac) ∧ cs = [] ∧ keeps t := by
  have traced : h.trace (Links.findUnlessGone mac) s = h.trace (Links.find? mac) s := by
    unfold trace
    rw [Links.run_findUnlessGone, Program.trace_bind]
    exact List.append_nil _
  intro unfailing
  have looks : h.Unfailing (Links.find? mac) s := by
    intro event mem
    exact unfailing event (traced ▸ mem)
  obtain ⟨entry, t, ran, holds⟩ := yields_find? told looks
  refine ⟨entry, t, ?_, ?_⟩
  · unfold run at ran ⊢
    rw [Links.run_findUnlessGone, Program.run_bind, ran]
    rfl
  · rwa [changes, traced]

/-- That there is no link is told apart from every failure of a command. -/
theorem unfailing_findUnlessGone (plain : h.Plain) {entry : Option LinkEntry}
    (ran : h.run (Links.findUnlessGone mac) s = (.ok entry, t)) : h.Unfailing (Links.findUnlessGone mac) s := by
  have path := Program.path_run h.answer (Links.findUnlessGone mac).run s
  rw [show Program.run h.answer (Links.findUnlessGone mac).run s = (.ok entry, t) from ran] at path
  have given (event : Links.Event) (mem : event ∈ h.trace (Links.findUnlessGone mac) s) :=
    Program.exists_of_mem_trace mem
  unfold Unfailing
  unfold trace at given ⊢
  generalize Program.trace h.answer (Links.findUnlessGone mac).run s = events at path given
  rcases Links.path_findUnlessGone path with ⟨link, finds, -⟩ | ⟨gone, lost, -⟩ | ⟨_, _, _, same⟩
  · cases finds with
    | found read => exact List.forall_mem_singleton.mpr read.isOk
  · cases lost with
    | unread unread =>
        cases unread with
        | refused =>
            obtain ⟨u, failed⟩ := given _ List.mem_cons_self
            exact absurd failed.symm (plain u gone)
    | absent read => exact List.forall_mem_singleton.mpr read.isOk
  · cases same

end LinkHost

namespace Scopes

variable {scopes : Scopes} {address n : Network}

/-- The addresses without this one, if it is of global scope. -/
def without (scopes : Scopes) (address : Network) : Scopes := fun n =>
  if n = address ∧ scopes n = some "global" then none else scopes n

theorem without_of_eq (there : scopes address = some "global") : scopes.without address = scopes.takeOut address := by
  funext n
  unfold without takeOut
  by_cases own : n = address
  · rw [own, if_pos ⟨rfl, there⟩, if_pos rfl]
  · rw [if_neg fun both => own both.1, if_neg own]

theorem without_of_ne (absent : scopes address ≠ some "global") : scopes.without address = scopes := by
  refine funext fun n => if_neg ?_
  rintro ⟨rfl, there⟩
  exact absent there

theorem without_self_ne : scopes.without address address ≠ some "global" := by
  unfold without
  split
  · exact nofun
  · rename_i other
    exact fun there => other ⟨rfl, there⟩

end Scopes

namespace AddressHost

variable {σ : Type} {h : AddressHost σ} {s t : σ} {mac device : String} {link : LinkEntry} {address : Network}

/-- What the changes come to, where the global addresses are known. -/
theorem Lawful.yields_removal (lawful : h.Lawful) {current : List Network}
    (mem : ∀ n, n ∈ current ↔ h.scopes s device n = some "global") :
    h.Yields (Links.runAll ((if current.contains address then [.deleteAddress address device] else []) ++
      [.setDown device])) s fun _ _ t => h.links t = (h.links s).map (.turned device "DOWN") ∧
        h.scopes t = Scopes.onLink device Scopes.without (h.scopes s) address := by
  rw [Links.runAll_append]
  have removed : h.Yields (Links.runAll (if current.contains address then [.deleteAddress address device] else [])) s
      fun _ _ t => h.links t = h.links s ∧
        h.scopes t = Scopes.onLink device Scopes.without (h.scopes s) address := by
    by_cases present : current.contains address = true
    · have there := (mem address).mp (List.contains_iff_mem.mp present)
      rw [if_pos present]
      refine (LinkHost.yields_single (lawful.deleteAddress address device s)).mono ?_
      rintro _ _ t ⟨links, scopes⟩
      exact ⟨links, scopes.trans (Scopes.onLink_congr (Scopes.without_of_eq there).symm)⟩
    · have absent : h.scopes s device address ≠ some "global" :=
        fun there => present (List.contains_iff_mem.mpr ((mem address).mpr there))
      rw [if_neg present]
      exact LinkHost.yields_pure ⟨rfl, (Scopes.onLink_eq_self (Scopes.without_of_ne absent)).symm⟩
  refine LinkHost.yields_bind removed ?_
  rintro _ _ t ⟨links, scopes⟩
  refine (LinkHost.yields_single (lawful.setDown device t)).mono ?_
  rintro _ _ u ⟨turned, same⟩
  exact ⟨by rw [turned, links], same.trans scopes⟩

variable (h) in
/-- The links and the addresses after the operation: if there is no such link, they are as before. -/
structure TearsDown (mac : String) (address : Network) (s t : σ) : Prop where
  gone : (h.links s).find? (·.hasAddress mac) = none → h.Same s t
  links : ∀ link, (h.links s).find? (·.hasAddress mac) = some link →
    h.links t = (h.links s).map (.turned link.name "DOWN")
  scopes : ∀ link, (h.links s).find? (·.hasAddress mac) = some link →
    h.scopes t = Scopes.onLink link.name Scopes.without (h.scopes s) address

theorem Lawful.yields_tearDown (lawful : h.Lawful) :
    h.Yields (Links.tearDown mac address) s fun _ _ t => h.TearsDown mac address s t := by
  refine LinkHost.yields_bind (LinkHost.yields_findUnlessGone (lawful.showLinks s)) ?_
  rintro entry _ t ⟨found, rfl, first⟩
  cases entry with
  | none =>
      refine LinkHost.yields_pure ⟨fun _ => first, ?_, ?_⟩ <;> rw [← found] <;> exact fun _ same => nomatch same
  | some link =>
      refine LinkHost.yields_bind lawful.yields_globalAddresses ?_
      rintro current _ u ⟨-, later, mem⟩
      rw [← later.scopes] at mem
      refine (lawful.yields_removal mem).mono ?_
      rintro _ _ v ⟨links, scopes⟩
      have same := first.trans later
      refine ⟨?_, ?_, ?_⟩ <;> rw [← found]
      · exact fun absent => nomatch absent
      · rintro _ ⟨⟩
        rw [links, same.links]
      · rintro _ ⟨⟩
        rw [scopes, same.scopes]

/-- The operation passes over no failure but that there is no such link. -/
theorem unfailing_tearDown (plain : h.Plain) (ran : h.run (Links.tearDown mac address) s = (.ok (), t)) :
    h.Unfailing (Links.tearDown mac address) s := by
  obtain ⟨entry, u, looked, ended⟩ := LinkHost.run_bind_ok ran
  refine LinkHost.unfailing_bind (LinkHost.unfailing_findUnlessGone plain looked) ?_
  rintro _ _ again
  cases looked.symm.trans again
  cases entry with
  | none => exact List.forall_mem_nil _
  | some link =>
      exact LinkHost.unfailing_of_ok
        ((Links.heeds_globalAddresses _).bind fun _ => Links.heeds_runAll _) ended

variable (h) in
/-- The host after a link has been torn down: the link is down and the address is no global one of it. -/
structure TornDown (mac : String) (link : LinkEntry) (address : Network) (s t : σ) : Prop where
  down : (h.links t).find? (·.hasAddress mac) = some { link with state := some "DOWN" }
  otherLinks : (h.links t).filter (·.name ≠ link.name) = (h.links s).filter (·.name ≠ link.name)
  removed : h.scopes t link.name address ≠ some "global"
  kept : ∀ n, n ≠ address ∨ h.scopes s link.name n ≠ some "global" →
    h.scopes t link.name n = h.scopes s link.name n
  elsewhere : ∀ device, device ≠ link.name → h.scopes t device = h.scopes s device

theorem TearsDown.tornDown (tears : h.TearsDown mac address s t)
    (found : (h.links s).find? (·.hasAddress mac) = some link) : h.TornDown mac link address s t := by
  have links := tears.links link found
  have scopes := tears.scopes link found
  refine ⟨?_, ?_, ?_, ?_, ?_⟩
  · rw [links, LinkEntry.find?_turned, found, Option.map_some, LinkEntry.turned_self]
  · rw [links, LinkEntry.filter_turned]
  · rw [scopes, Scopes.onLink_self]
    exact Scopes.without_self_ne
  · intro n other
    rw [scopes, Scopes.onLink_self]
    exact if_neg fun both => other.elim (absurd both.1) (absurd both.2)
  · intro device apart
    rw [scopes, Scopes.onLink_of_ne apart]

/-- A link that is found after the operation is down already, and the address is no global one of it. -/
theorem TearsDown.again (tears : h.TearsDown mac address s t) {now : LinkEntry}
    (there : (h.links t).find? (·.hasAddress mac) = some now) :
    (h.links t).map (.turned now.name "DOWN") = h.links t ∧ h.scopes t now.name address ≠ some "global" := by
  cases found : (h.links s).find? (·.hasAddress mac) with
  | none =>
      rw [(tears.gone found).links, found] at there
      cases there
  | some link =>
      have torn := tears.tornDown found
      cases torn.down.symm.trans there
      refine ⟨?_, torn.removed⟩
      rw [tears.links link found, List.map_map]
      exact List.map_congr_left fun l _ => LinkEntry.turned_turned l

/-- A second call asks for no address to be deleted. -/
theorem TearsDown.deletes_nothing (tears : h.TearsDown mac address s t) (lawful : h.Lawful) (plain : h.Plain) :
    ∀ event ∈ h.trace (Links.tearDown mac address) t, ∀ n device, event.1 ≠ .deleteAddress n device := by
  refine LinkHost.forall_trace_bind (P := fun event => ∀ n device, event.1 ≠ .deleteAddress n device) ?_ ?_
  · intro event mem n device
    rw [Links.looks_findUnlessGone (Program.path_run h.answer _ t) event mem]
    rintro ⟨⟩
  intro entry u looked
  obtain ⟨there, -, first⟩ := (LinkHost.yields_findUnlessGone (lawful.showLinks t)).of_unfailing
    (LinkHost.unfailing_findUnlessGone plain looked) looked
  cases entry with
  | none => exact List.forall_mem_nil _
  | some now =>
      refine LinkHost.forall_trace_bind (P := fun event => ∀ n device, event.1 ≠ .deleteAddress n device) ?_ ?_
      · obtain ⟨reply, traced, -⟩ := Links.path_globalAddresses (Program.path_run h.answer _ u)
        rw [LinkHost.trace, traced, List.forall_mem_singleton]
        rintro n device ⟨⟩
      · intro current v told
        obtain ⟨-, -, mem⟩ := lawful.yields_globalAddresses.of_ok (Links.heeds_globalAddresses _) told
        have absent : ¬ current.contains address = true := by
          rw [List.contains_iff_mem, mem, first.scopes]
          exact (tears.again there.symm).2
        intro event among n device
        have asked := (Links.path_runAll (Program.path_run h.answer _ v)).mem event among
        rw [if_neg absent, List.nil_append, List.mem_singleton] at asked
        rw [asked]
        rintro ⟨⟩

/-- A second call changes nothing. -/
theorem TearsDown.repeated (tears : h.TearsDown mac address s t) (lawful : h.Lawful)
    (unfailing : h.Unfailing (Links.tearDown mac address) t) :
    ∃ u, h.run (Links.tearDown mac address) t = (.ok (), u) ∧ h.Same t u := by
  obtain ⟨_, u, ran, again⟩ := lawful.yields_tearDown unfailing
  refine ⟨u, ran, ?_⟩
  cases there : (h.links t).find? (·.hasAddress mac) with
  | none => exact again.gone there
  | some now =>
      obtain ⟨down, absent⟩ := tears.again there
      refine ⟨(again.links now there).trans down, ?_⟩
      rw [again.scopes now there]
      exact Scopes.onLink_eq_self (Scopes.without_of_ne absent)

/-- Every run of the operation is a survey and, if there is a link, its changes, up to the first that fails. So it
ends well only if there is no such link or all has been done, and each failure but that there is no link is its error.
On a host, after it has ended well, nothing is left to be torn down, and a second call changes nothing. Only a host that
is not asked through a program can fail with that there is no such link. -/
theorem tearDown_leaves_nothing (h : AddressHost σ) (s : σ) (mac : String) (address : Network) :
    (∃ surveyed changes outcome, h.trace (Links.tearDown mac address) s = surveyed ++ changes ∧
      Links.SurveysAddresses mac surveyed outcome ∧ (∀ event ∈ surveyed, event.1.isChange = false) ∧
      (h.Plain → ∀ gone, ⟨.showLinks, .error (.notFound gone)⟩ ∉ surveyed) ∧
      ((∃ e, outcome = .error e ∧ changes = [] ∧ (h.run (Links.tearDown mac address) s).1 = .error e) ∨
        (outcome = .ok none ∧ changes = [] ∧ (h.run (Links.tearDown mac address) s).1 = .ok ()) ∨
        ∃ link reports listed, outcome = .ok (some (link, reports)) ∧
          (listed = true ↔ ∃ report ∈ reports, ∃ e ∈ report.addresses, e.Tells address) ∧
          Links.Performs ((if listed then [.deleteAddress address link.name] else []) ++ [.setDown link.name]) changes
            (h.run (Links.tearDown mac address) s).1 ∧
          ((h.run (Links.tearDown mac address) s).1 = .ok () → changes.map Sigma.fst =
            (if listed then [.deleteAddress address link.name] else []) ++ [.setDown link.name]))) ∧
    (h.Lawful → h.Plain → ∀ t, h.run (Links.tearDown mac address) s = (.ok (), t) →
      ((h.links s).find? (·.hasAddress mac) = none → h.Same s t) ∧
      (∀ link, (h.links s).find? (·.hasAddress mac) = some link → h.TornDown mac link address s t) ∧
      (∀ event ∈ h.trace (Links.tearDown mac address) t, ∀ n device, event.1 ≠ .deleteAddress n device) ∧
      (h.Unfailing (Links.tearDown mac address) t →
        ∃ u, h.run (Links.tearDown mac address) t = (.ok (), u) ∧ h.Same t u)) ∧
    ∀ program, h.RunsProgram program → h.Plain := by
  refine ⟨?_, ?_, fun _ runs => runs.plain⟩
  · obtain ⟨surveyed, changes, outcome, traced, surveys, ends⟩ :=
      Links.path_tearDown (Program.path_run h.answer (Links.tearDown mac address).run s)
    refine ⟨surveyed, changes, outcome, traced, surveys, surveys.asks, ?_, ?_⟩
    · intro plain gone mem
      have among : ⟨.showLinks, .error (.notFound gone)⟩ ∈ h.trace (Links.tearDown mac address) s := by
        rw [show h.trace (Links.tearDown mac address) s = surveyed ++ changes from traced]
        exact List.mem_append_left _ mem
      obtain ⟨u, failed⟩ := Program.exists_of_mem_trace among
      exact plain u gone failed.symm
    · rcases ends with failed | gone | ⟨link, reports, listed, same, told, performs⟩
      · exact .inl failed
      · exact .inr (.inl gone)
      · refine .inr (.inr ⟨link, reports, listed, same, told, performs, ?_⟩)
        intro ended
        exact (show Links.Performs _ _ (.ok ()) from ended ▸ performs).map_fst
  · intro lawful plain t ran
    have tears := lawful.yields_tearDown.of_unfailing (unfailing_tearDown plain ran) ran
    exact ⟨tears.gone, fun link found => tears.tornDown found, tears.deletes_nothing lawful plain,
      tears.repeated lawful⟩

end AddressHost

namespace ScriptedHost

/-- A host that reports the address of a link with a zero in front of one of its numbers. -/
def padding : ScriptedHost :=
  .ofList
    [("-j link show", .prints "[\x7b\"ifname\":\"ens5\",\"address\":\"02:00:00:0a:bc:01\"\x7d]"),
      ("-j addr show dev ens5", .prints ("[\x7b\"ifname\":\"ens5\",\"addr_info\":[\x7b\"family\":\"inet\"," ++
        "\"local\":\"192.168.0.010\",\"prefixlen\":24,\"scope\":\"global\"\x7d]\x7d]"))]

/-- The call for the link, with the address as an interface may declare it. -/
abbrev tearDownPadded : LinkProgram Unit := Links.tearDown "02:00:00:0a:bc:01" HeldAddresses.wanted

/-- A runner that fails with that there is no such link is taken at its word, and nothing is read. An address that is
reported in a form that cannot be read is left where it is, and is no error either. -/
theorem tearDown_takes_at_word :
    Program.run (fun (_ : IpCommand) (s : Unit) => (Except.error (.notFound "02:00:00:0a:bc:01"), s))
        (ExceptT.run tearDownPadded) () = (.ok (), ()) ∧
      Address.parse? "192.168.0.010".toList = none ∧
      Network.parse? "192.168.0.010/24".toList = some HeldAddresses.wanted ∧
      (padding.runLink tearDownPadded).1 = .ok () ∧
      (padding.runLink tearDownPadded).2.lines =
        ["-j link show", "-j addr show dev ens5", "link set dev ens5 down"] := by
  have ended : (padding.runLink tearDownPadded).1.isOk = true := by decide +kernel
  refine ⟨rfl, by decide +kernel, by decide +kernel, ?_, by decide +kernel⟩
  cases ran : (padding.runLink tearDownPadded).1 with
  | ok => rfl
  | error e =>
      rw [ran] at ended
      cases ended

end ScriptedHost

/-! ### A littered link -/

namespace HeldAddresses

variable {s : HeldAddresses} {mac : String} {address : Network}

theorem plain_host : host.Plain := by
  intro s gone failed
  cases (congrArg Prod.fst (answer_of_accepts (s := s) (c := .showLinks) trivial)).symm.trans failed

/-- The host refuses nothing when a link is torn down. -/
theorem unfailing_tearDown : host.Unfailing (Links.tearDown mac address) s := by
  refine LinkHost.unfailing_bind ?_ ?_
  · rintro ⟨c, reply⟩ mem
    obtain rfl := Links.looks_findUnlessGone (Program.path_run host.answer _ s) ⟨c, reply⟩ mem
    obtain ⟨t, gives⟩ := Program.exists_of_mem_trace mem
    exact (congrArg Except.isOk gives).trans (isOk_answer trivial)
  intro entry t looked
  obtain ⟨found, -, rfl⟩ := (LinkHost.yields_findUnlessGone told_links).of_unfailing
    (LinkHost.unfailing_findUnlessGone plain_host looked) looked
  cases entry with
  | none => exact List.forall_mem_nil _
  | some link =>
      have has := has_of_find? found.symm
      refine LinkHost.unfailing_bind (LinkHost.unfailing_globalAddresses (isOk_answer has)) ?_
      intro current u ran
      obtain ⟨-, -, mem⟩ := lawful_host.yields_globalAddresses.of_ok (Links.heeds_globalAddresses _) ran
      obtain ⟨rfl, -⟩ := yields_globalAddresses.of_ok (Links.heeds_globalAddresses _) ran
      rw [Links.runAll_append]
      have last {v : HeldAddresses} (has : v.Has link.name) : host.Unfailing (Links.runAll [.setDown link.name]) v :=
        LinkHost.unfailing_single (isOk_answer has)
      split
      · rename_i present
        have there := (mem address).mp (List.contains_iff_mem.mp present)
        have accepts : u.Accepts (.deleteAddress address link.name) :=
          ⟨has, fun gone => nomatch gone.symm.trans there⟩
        refine LinkHost.unfailing_bind (LinkHost.unfailing_single (isOk_answer accepts)) ?_
        intro _ v ran
        have same : v = u.after (.deleteAddress address link.name) :=
          (LinkHost.yields_single fun text v taken => (answered taken).2).of_ok (Links.heeds_runAll _) ran
        exact last (same ▸ has)
      · refine LinkHost.unfailing_bind (List.forall_mem_nil _) ?_
        rintro _ _ ⟨⟩
        exact last has

/-- The call for the link that is littered. -/
abbrev tearDownLittered : LinkProgram Unit := Links.tearDown "02:00:00:0A:BC:01" stale

end HeldAddresses

namespace AddressHost

open HeldAddresses

/-- A call in a littered state, and another one after it. On a bare host, the program that lists the links is not there,
which is told. -/
theorem littered_link_torn_down :
    (host.scopes littered litteredLink.name stale = some "global" ∧
      ∃ t, host.run tearDownLittered littered = (.ok (), t) ∧
        host.TornDown "02:00:00:0A:BC:01" litteredLink stale littered t ∧
          ∃ u, host.run tearDownLittered t = (.ok (), u) ∧ host.Same t u) ∧
      (HostFiles.linkHost "ip").RunsProgram "ip" ∧ (HostFiles.linkHost "ip").Plain ∧
      ∃ fault : HostFault, (HostFiles.linkHost "ip").run tearDownLittered () =
        (.error (.spawn "ip -j link show" fault.message), ()) := by
  obtain ⟨_, t, ran, -⟩ := lawful_host.yields_tearDown (HeldAddresses.unfailing_tearDown (s := littered))
  obtain ⟨-, leaves, -⟩ := tearDown_leaves_nothing host littered "02:00:00:0A:BC:01" stale
  obtain ⟨-, torn, -, again⟩ := leaves lawful_host plain_host t ran
  obtain ⟨-, -, plain⟩ := tearDown_leaves_nothing (HostFiles.linkHost "ip") () "02:00:00:0A:BC:01" stale
  have asks : (HostFiles.linkHost "ip").RunsProgram "ip" := HostFiles.runsProgram_linkHost
  obtain ⟨fault, missing⟩ :=
    HostFiles.exists_fault (show _ ∉ "ip".toList by decide) rfl IpCommand.showLinks.words
  exact ⟨⟨by decide +kernel, t, ran, torn litteredLink find?_littered, again HeldAddresses.unfailing_tearDown⟩,
    asks, plain "ip" asks, fault, HostFiles.tearDown_unstarted missing⟩

end AddressHost

end LinkKeeper
