import LinkKeeper.Proofs.Link.Differences
import LinkKeeper.Proofs.Link.Host
import LinkKeeper.Proofs.Link.Reads

/-!
The routes of a link are surveyed as a whole before one of them is changed.

A survey is made of three reports: that of the links, and those of the routes of the two families on the link that
is looked up. It ends with the first failure, be it of a command, of a report or of a value in it, and then nothing
is changed. After a whole survey the changes are run in order, up to the first that fails.

* `RouteEntry.route?_cases`: an entry is passed over, tells a route, or has a value that cannot be read.
* `Links.SurveysRoutes`: the surveys, with what they come to.
* `Links.syncRoutes_surveys_first`: every run of the operation is a survey and the changes that it calls for.
-/

namespace LinkKeeper

open Net

/-! ### Entries -/

namespace RouteEntry

/-- The entry is not counted: it is the kernel's own, or it goes through no gateway. -/
def Passed (e : RouteEntry) : Prop := e.protocol = some "kernel" ∨ e.gateway = none

/-- The entry is counted, and tells the route. -/
structure Tells (e : RouteEntry) (r : Route) : Prop where
  foreign : e.protocol ≠ some "kernel"
  via : ∃ text, e.gateway = some text ∧ Address.parse? text.toList = some r.via
  destination : destination? r.via.family e.destination = some r.destination

/-- The entry is counted, and a value of it cannot be read. -/
inductive Garbled (e : RouteEntry) : String → Prop where
  | via {text : String} (foreign : e.protocol ≠ some "kernel") (given : e.gateway = some text)
      (unread : Address.parse? text.toList = none) : Garbled e text
  | destination {text : String} {via : Address} (foreign : e.protocol ≠ some "kernel") (given : e.gateway = some text)
      (read : Address.parse? text.toList = some via) (unread : destination? via.family e.destination = none) :
      Garbled e e.destination

/-- Nothing in the entry stands in the way of a survey. -/
def Clear (e : RouteEntry) : Prop := e.Passed ∨ ∃ r, e.Tells r

variable {e : RouteEntry} {r : Route}

theorem route?_cases (e : RouteEntry) :
    e.Passed ∧ e.route? = .ok none ∨ (∃ r, e.Tells r ∧ e.route? = .ok (some r)) ∨
      ∃ value, e.Garbled value ∧ e.route? = .error value := by
  unfold route?
  by_cases kernel : e.protocol = some "kernel"
  · exact .inl ⟨.inl kernel, if_pos kernel⟩
  · rw [if_neg kernel]
    cases given : e.gateway with
    | none => exact .inl ⟨.inr given, rfl⟩
    | some text =>
        cases read : Address.parse? text.toList with
        | none => exact .inr (.inr ⟨text, .via kernel given read, by simp only [read]⟩)
        | some via =>
            cases aimed : destination? via.family e.destination with
            | none => exact .inr (.inr ⟨_, .destination kernel given read aimed, by simp only [read, aimed]⟩)
            | some d =>
                exact .inr (.inl ⟨⟨d, via⟩, ⟨kernel, ⟨text, given, read⟩, aimed⟩, by simp only [read, aimed]⟩)

theorem Tells.route? (tells : e.Tells r) : e.route? = .ok (some r) := by
  obtain ⟨text, given, read⟩ := tells.via
  unfold RouteEntry.route?
  simp only [if_neg tells.foreign, given, read, tells.destination]

theorem clear_iff : e.Clear ↔ ∃ r, e.route? = .ok r := by
  constructor
  · rintro (passed | ⟨r, tells⟩)
    · refine ⟨none, ?_⟩
      unfold RouteEntry.route?
      by_cases kernel : e.protocol = some "kernel"
      · exact if_pos kernel
      · rw [if_neg kernel, passed.resolve_left kernel]
    · exact ⟨some r, tells.route?⟩
  · rintro ⟨r, counts⟩
    rcases route?_cases e with ⟨passed, -⟩ | ⟨q, tells, -⟩ | ⟨value, -, gives⟩
    · exact .inl passed
    · exact .inr ⟨q, tells⟩
    · rw [gives] at counts
      cases counts

theorem tells_iff : e.Tells r ↔ e.route? = .ok (some r) := by
  refine ⟨Tells.route?, ?_⟩
  intro counts
  rcases route?_cases e with ⟨-, gives⟩ | ⟨q, tells, gives⟩ | ⟨value, -, gives⟩
  · rw [gives] at counts
    cases counts
  · rw [gives] at counts
    cases counts
    exact tells
  · rw [gives] at counts
    cases counts

end RouteEntry

/-- A list is gone through to its end, or up to the first item that fails. -/
theorem mapM_ok_or_error {α β ε : Type} (f : α → Except ε β) (items : List α) :
    (∀ x ∈ items, ∃ b, f x = .ok b) ∨
      ∃ earlier x later e, items = earlier ++ x :: later ∧ (∀ y ∈ earlier, ∃ b, f y = .ok b) ∧ f x = .error e ∧
        items.mapM f = .error e := by
  induction items with
  | nil => exact .inl (List.forall_mem_nil _)
  | cons x rest ih =>
      cases first : f x with
      | error e => exact .inr ⟨[], x, rest, e, rfl, List.forall_mem_nil _, first, by rw [List.mapM_cons, first]; rfl⟩
      | ok b =>
          rcases ih with all | ⟨earlier, y, later, e, rfl, passed, fails, ends⟩
          · exact .inl (List.forall_mem_cons.mpr ⟨⟨b, first⟩, all⟩)
          · refine .inr ⟨x :: earlier, y, later, e, rfl, List.forall_mem_cons.mpr ⟨⟨b, first⟩, passed⟩, fails, ?_⟩
            rw [List.mapM_cons, first, ends]
            rfl

namespace Links

variable {mac device : String} {family : Family} {events : List Event} {reply : IpReply}

/-- The routes of entries are those that they tell, unless a value cannot be read: the first such value is told. -/
theorem routesOf_cases (device : String) (entries : List RouteEntry) :
    (∃ routes, (∀ e ∈ entries, e.Clear) ∧ (∀ r, r ∈ routes ↔ ∃ e ∈ entries, e.Tells r) ∧
      routesOf device entries = .ok routes) ∨
    ∃ earlier e later value, entries = earlier ++ e :: later ∧ (∀ x ∈ earlier, x.Clear) ∧ e.Garbled value ∧
      routesOf device entries = .error (.invalidValue device value) := by
  have counts (e : RouteEntry) (r : Option Route) :
      e.route?.mapError (LinkError.invalidValue device) = .ok r ↔ e.route? = .ok r := by
    cases e.route? <;> constructor <;> intro same <;> cases same <;> rfl
  rw [routesOf_eq]
  rcases mapM_ok_or_error (fun e => e.route?.mapError (LinkError.invalidValue device)) entries with
    all | ⟨earlier, e, later, error, rfl, passed, fails, ends⟩
  · obtain ⟨results, read, sources, reached⟩ := mapM_eq_pure all
    refine .inl ⟨results.filterMap id, ?_, ?_, by rw [read]; rfl⟩
    · intro e mem
      obtain ⟨r, gives⟩ := all e mem
      exact RouteEntry.clear_iff.mpr ⟨r, (counts e r).mp gives⟩
    · intro r
      simp only [List.mem_filterMap, id_eq, exists_eq_right, RouteEntry.tells_iff]
      constructor
      · intro mem
        obtain ⟨e, among, gives⟩ := sources _ mem
        exact ⟨e, among, (counts e _).mp gives⟩
      · rintro ⟨e, among, tells⟩
        obtain ⟨o, mem, gives⟩ := reached e among
        rw [(counts e _).mpr tells] at gives
        cases gives
        exact mem
  · refine .inr ?_
    rcases RouteEntry.route?_cases e with ⟨-, gives⟩ | ⟨r, -, gives⟩ | ⟨value, garbled, gives⟩
    · rw [gives] at fails
      cases fails
    · rw [gives] at fails
      cases fails
    · rw [gives] at fails
      cases fails
      refine ⟨earlier, e, later, value, rfl, ?_, garbled, by rw [ends]; rfl⟩
      intro x mem
      obtain ⟨r, gives⟩ := passed x mem
      exact RouteEntry.clear_iff.mpr ⟨r, (counts x r).mp gives⟩

/-! ### Surveys -/

/-- What the report of one family comes to. -/
inductive ReadsRoutes (device : String) (family : Family) : IpReply → Except LinkError (List RouteEntry) → Prop where
  | unread {reply : IpReply} {e : LinkError}
      (unread : Reads RouteEntry.fromJson? (.showRoutes family device) reply (.error e)) :
      ReadsRoutes device family reply (.error e)
  | garbled {reply : IpReply} {earlier later : List RouteEntry} {e : RouteEntry} {value : String}
      (read : Reads RouteEntry.fromJson? (.showRoutes family device) reply (.ok (earlier ++ e :: later)))
      (clear : ∀ x ∈ earlier, x.Clear) (garbled : e.Garbled value) :
      ReadsRoutes device family reply (.error (.invalidValue device value))
  | read {reply : IpReply} {entries : List RouteEntry}
      (read : Reads RouteEntry.fromJson? (.showRoutes family device) reply (.ok entries))
      (clear : ∀ e ∈ entries, e.Clear) : ReadsRoutes device family reply (.ok entries)

/-- What the reports of both families come to, one after the other. -/
inductive ReadsInstalled (device : String) : List Event → Except LinkError (List RouteEntry) → Prop where
  | older {reply : IpReply} {e : LinkError} (unread : ReadsRoutes device .v4 reply (.error e)) :
      ReadsInstalled device [⟨.showRoutes .v4 device, reply⟩] (.error e)
  | newer {reply other : IpReply} {entries : List RouteEntry} {e : LinkError}
      (read : ReadsRoutes device .v4 reply (.ok entries)) (unread : ReadsRoutes device .v6 other (.error e)) :
      ReadsInstalled device [⟨.showRoutes .v4 device, reply⟩, ⟨.showRoutes .v6 device, other⟩] (.error e)
  | both {reply other : IpReply} {entries others : List RouteEntry}
      (read : ReadsRoutes device .v4 reply (.ok entries)) (readToo : ReadsRoutes device .v6 other (.ok others)) :
      ReadsInstalled device [⟨.showRoutes .v4 device, reply⟩, ⟨.showRoutes .v6 device, other⟩]
        (.ok (entries ++ others))

/-- A survey of the routes of a link: it comes to the link and to the entries of both families, or to the first
failure. -/
inductive SurveysRoutes (mac : String) : List Event → Except LinkError (LinkEntry × List RouteEntry) → Prop where
  | lost {looked : List Event} {e : LinkError} (lost : Finds mac looked (.error e)) :
      SurveysRoutes mac looked (.error e)
  | unread {looked asked : List Event} {link : LinkEntry} {e : LinkError} (found : Finds mac looked (.ok link))
      (unread : ReadsInstalled link.name asked (.error e)) : SurveysRoutes mac (looked ++ asked) (.error e)
  | whole {looked asked : List Event} {link : LinkEntry} {entries : List RouteEntry}
      (found : Finds mac looked (.ok link)) (read : ReadsInstalled link.name asked (.ok entries)) :
      SurveysRoutes mac (looked ++ asked) (.ok (link, entries))

theorem path_familyRoutes {r : Except LinkError (List Route)} (path : Path (familyRoutes device family) events r) :
    ∃ reply, events = [⟨.showRoutes family device, reply⟩] ∧
      ((∃ e, ReadsRoutes device family reply (.error e) ∧ r = .error e) ∨
        ∃ entries routes, ReadsRoutes device family reply (.ok entries) ∧
          (∀ q, q ∈ routes ↔ ∃ e ∈ entries, e.Tells q) ∧ r = .ok routes) := by
  rcases path_bind_iff.mp path with ⟨e, asked, rfl⟩ | ⟨entries, first, rest, rfl, asked, counted⟩
  · obtain ⟨reply, rfl, unread⟩ := path_report asked
    exact ⟨reply, rfl, .inl ⟨e, .unread unread, rfl⟩⟩
  · obtain ⟨reply, rfl, read⟩ := path_report asked
    obtain ⟨rfl, rfl⟩ := Program.path_done_iff.mp counted
    refine ⟨reply, List.append_nil _, ?_⟩
    rcases routesOf_cases device entries with ⟨routes, clear, mem, same⟩ | ⟨_, _, _, _, rfl, clear, garbled, same⟩
    · exact .inr ⟨entries, routes, .read read clear, mem, same⟩
    · exact .inl ⟨_, .garbled read clear garbled, same⟩

/-- The routes that are installed are those that the entries of both families tell. -/
theorem path_installedRoutes {r : Except LinkError (List Route)} (path : Path (installedRoutes device) events r) :
    (∃ e, ReadsInstalled device events (.error e) ∧ r = .error e) ∨
      ∃ entries routes, ReadsInstalled device events (.ok entries) ∧ (∀ q, q ∈ routes ↔ ∃ e ∈ entries, e.Tells q) ∧
        r = .ok routes := by
  rcases path_bind_iff.mp path with ⟨e, asked, rfl⟩ | ⟨older, first, rest, rfl, asked, onward⟩
  · obtain ⟨reply, rfl, ⟨_, unread, same⟩ | ⟨_, _, -, -, same⟩⟩ := path_familyRoutes asked
    · cases same
      exact .inl ⟨_, .older unread, rfl⟩
    · cases same
  · obtain ⟨reply, rfl, ⟨_, -, same⟩ | ⟨entries, _, read, mem, same⟩⟩ := path_familyRoutes asked
    · cases same
    · cases same
      rcases path_bind_iff.mp onward with ⟨e, askedToo, rfl⟩ | ⟨newer, second, ended, rfl, askedToo, gathered⟩
      · obtain ⟨other, rfl, ⟨_, unread, same⟩ | ⟨_, _, -, -, same⟩⟩ := path_familyRoutes askedToo
        · cases same
          exact .inl ⟨_, .newer read unread, rfl⟩
        · cases same
      · obtain ⟨other, rfl, ⟨_, -, same⟩ | ⟨others, _, readToo, memToo, same⟩⟩ := path_familyRoutes askedToo
        · cases same
        · cases same
          obtain ⟨rfl, rfl⟩ := path_pure_iff.mp gathered
          refine .inr ⟨entries ++ others, older ++ newer, .both read readToo, ?_, rfl⟩
          intro q
          simp only [List.mem_append, mem, memToo, or_and_right, exists_or]

/-- Nothing is changed by a survey. -/
theorem asks_of_survey {outcome : Except LinkError (LinkEntry × List RouteEntry)}
    (surveys : SurveysRoutes mac events outcome) : ∀ event ∈ events, event.1.isChange = false := by
  have installed {device : String} {asked : List Event} {entries : Except LinkError (List RouteEntry)}
      (reads : ReadsInstalled device asked entries) : ∀ event ∈ asked, event.1.isChange = false := by
    cases reads <;> simp [IpCommand.isChange]
  cases surveys with
  | lost lost => exact lost.asks
  | unread found unread => exact List.forall_mem_append.mpr ⟨found.asks, installed unread⟩
  | whole found read => exact List.forall_mem_append.mpr ⟨found.asks, installed read⟩

/-! ### Changes -/

/-- The operation is a survey and, if that is whole, the changes from what it tells to what is wanted. -/
theorem path_syncRoutes {routes : List Route} {r : Except LinkError Unit}
    (path : Path (syncRoutes mac routes) events r) :
    ∃ surveyed changes outcome, events = surveyed ++ changes ∧ SurveysRoutes mac surveyed outcome ∧
      ((∃ e, outcome = .error e ∧ changes = [] ∧ r = .error e) ∨
        ∃ link entries installed, outcome = .ok (link, entries) ∧ (∀ q, q ∈ installed ↔ ∃ e ∈ entries, e.Tells q) ∧
          Performs (routeCommands link.name (.between installed routes)) changes r) := by
  rcases path_bind_iff.mp path with ⟨e, looked, rfl⟩ | ⟨link, looked, rest, rfl, found, onward⟩
  · exact ⟨events, [], _, (List.append_nil _).symm, .lost (path_find looked), .inl ⟨e, rfl, rfl, rfl⟩⟩
  · have finds := path_find found
    rcases path_bind_iff.mp onward with ⟨e, asked, rfl⟩ | ⟨installed, asked, changes, rfl, told, runs⟩
    · rcases path_installedRoutes asked with ⟨_, unread, same⟩ | ⟨_, _, -, -, same⟩
      · cases same
        exact ⟨looked ++ rest, [], _, (List.append_nil _).symm, .unread finds unread, .inl ⟨_, rfl, rfl, rfl⟩⟩
      · cases same
    · rcases path_installedRoutes told with ⟨_, -, same⟩ | ⟨entries, _, read, mem, same⟩
      · cases same
      · cases same
        exact ⟨looked ++ asked, changes, _, (List.append_assoc _ _ _).symm, .whole finds read,
          .inr ⟨link, entries, installed, rfl, mem, path_runAll runs⟩⟩

section Named

variable {installed routes : List Route} {changes : List Event} {result : Except LinkError Unit} {r : Route}

/-- A route that is taken out is a surveyed one that is not wanted. -/
theorem removed_of_performs (performs : Performs (routeCommands device (.between installed routes)) changes result)
    {other : String} {reply : IpReply} (taken : ⟨.deleteRoute r other, reply⟩ ∈ changes) :
    other = device ∧ r ∈ installed.map Route.normalized ∧ r ∉ routes.map Route.normalized := by
  have mem : IpCommand.deleteRoute r other ∈ routeCommands device (.between installed routes) :=
    performs.mem _ taken
  rcases List.mem_append.mp mem with mem | mem
  · obtain ⟨q, removed, same⟩ := List.mem_map.mp mem
    cases same
    exact ⟨rfl, RouteChanges.mem_remove_iff.mp removed⟩
  · obtain ⟨q, -, same⟩ := List.mem_map.mp mem
    cases same

/-- A route that is put in is a wanted one that has not been surveyed. -/
theorem added_of_performs (performs : Performs (routeCommands device (.between installed routes)) changes result)
    {other : String} {reply : IpReply} (put : ⟨.replaceRoute r other, reply⟩ ∈ changes) :
    other = device ∧ r ∈ routes.map Route.normalized ∧ r ∉ installed.map Route.normalized := by
  have mem : IpCommand.replaceRoute r other ∈ routeCommands device (.between installed routes) :=
    performs.mem _ put
  rcases List.mem_append.mp mem with mem | mem
  · obtain ⟨q, -, same⟩ := List.mem_map.mp mem
    cases same
  · obtain ⟨q, added, same⟩ := List.mem_map.mp mem
    cases same
    exact ⟨rfl, RouteChanges.mem_add_iff.mp added⟩

end Named

/-- Every run of the operation is a survey and, if that is whole, the changes from what it tells to what is wanted,
up to the first that fails. No change of a route is asked for that the survey does not call for: a route that is
taken out is told by an entry, and one that is both there and wanted is left alone. -/
theorem syncRoutes_surveys_first {σ : Type} (answer : IpCommand → σ → IpReply × σ) (s : σ) (mac : String)
    (routes : List Route) :
    ∃ surveyed changes outcome,
      Program.trace answer (syncRoutes mac routes).run s = surveyed ++ changes ∧
      SurveysRoutes mac surveyed outcome ∧ (∀ event ∈ surveyed, event.1.isChange = false) ∧
      ((∃ e, outcome = .error e ∧ changes = [] ∧
          (Program.run answer (syncRoutes mac routes).run s).1 = .error e) ∨
        ∃ link entries installed, outcome = .ok (link, entries) ∧ (∀ r, r ∈ installed ↔ ∃ e ∈ entries, e.Tells r) ∧
          Performs ((RouteChanges.between installed routes).remove.map (.deleteRoute · link.name) ++
              (RouteChanges.between installed routes).add.map (.replaceRoute · link.name))
            changes (Program.run answer (syncRoutes mac routes).run s).1 ∧
          (∀ r device reply, ⟨.deleteRoute r device, reply⟩ ∈ changes →
            device = link.name ∧ ∃ e ∈ entries, ∃ q, e.Tells q ∧ r = q.normalized) ∧
          ∀ r ∈ installed.map Route.normalized, r ∈ routes.map Route.normalized →
            ∀ event ∈ changes, ∀ device, event.1 ≠ .deleteRoute r device ∧ event.1 ≠ .replaceRoute r device) := by
  obtain ⟨surveyed, changes, outcome, traced, surveys, ends⟩ :=
    path_syncRoutes (Program.path_run answer (syncRoutes mac routes).run s)
  refine ⟨surveyed, changes, outcome, traced, surveys, asks_of_survey surveys, ?_⟩
  rcases ends with failed | ⟨link, entries, installed, same, mem, performs⟩
  · exact .inl failed
  · refine .inr ⟨link, entries, installed, same, mem, performs, ?_, ?_⟩
    · intro r device reply taken
      obtain ⟨own, there, -⟩ := removed_of_performs performs taken
      obtain ⟨q, told, rfl⟩ := List.mem_map.mp there
      obtain ⟨e, among, tells⟩ := (mem q).mp told
      exact ⟨own, e, among, q, tells, rfl⟩
    · rintro r there wanted ⟨c, reply⟩ among device
      constructor
      · rintro rfl
        exact (removed_of_performs performs among).2.2 wanted
      · rintro rfl
        exact (added_of_performs performs among).2.2 there

end Links

end LinkKeeper
