import LinkKeeper.Link.Synchronizer
import LinkKeeper.Proofs.Reconcile.Paths

/-!
What the operations on links read and run, whatever the commands give.

An operation that is built of reports and of commands in a row is told by relations on its commands with what they
give: a report is refused, cannot be read, or has entries, and of commands in a row none is run after the first one
that fails.

* `Links.Reads`: what a report comes to; `Links.path_report`.
* `Links.Finds`: looking a link up; `Links.path_find`, `Links.path_findUnlessGone`.
* `Links.Performs`: commands in a row; `Links.path_runAll`.
* `Links.Heeds`: an operation that passes over no failure.
-/

namespace LinkKeeper

open Net

namespace Links

/-- A command with what it gives. -/
abbrev Event := (_ : IpCommand) × IpReply

variable {α β : Type} {events : List Event} {mac : String}

/-- The operation can run these commands, be given this for them and end with this result. -/
abbrev Path (x : LinkProgram α) (events : List Event) (r : Except LinkError α) : Prop :=
  Program.Path x.run events r

theorem path_pure_iff {a : α} {r : Except LinkError α} :
    Path (pure a) events r ↔ events = [] ∧ r = .ok a := Program.path_done_iff

theorem path_throw_iff {e : LinkError} {r : Except LinkError α} :
    Path (throw e) events r ↔ events = [] ∧ r = .error e := Program.path_done_iff

theorem path_bind_iff {x : LinkProgram α} {f : α → LinkProgram β} {r : Except LinkError β} :
    Path (x >>= f) events r ↔
      (∃ e, Path x events (.error e) ∧ r = .error e) ∨
        ∃ a first rest, events = first ++ rest ∧ Path x first (.ok a) ∧ Path (f a) rest r :=
  Program.path_except_bind_iff

theorem path_run_iff {c : IpCommand} {r : IpReply} : Path (run c) events r ↔ events = [⟨c, r⟩] :=
  Program.path_query_iff

/-! ### Reports -/

/-- What a report comes to. Blank text is a report without entries. -/
inductive Reads (entry : Json.Decoder α) (c : IpCommand) : IpReply → Except LinkError (List α) → Prop where
  | refused {e : LinkError} : Reads entry c (.error e) (.error e)
  | blank {text : String} (empty : Text.trim text.toList = []) : Reads entry c (.ok text) (.ok [])
  | garbled {text : String} (written : Text.trim text.toList ≠ [])
      (unread : (Json.parse? text >>= Json.list? entry) = none) : Reads entry c (.ok text) (.error (.decode c.title))
  | read {text : String} {entries : List α} (written : Text.trim text.toList ≠ [])
      (parsed : (Json.parse? text >>= Json.list? entry) = some entries) : Reads entry c (.ok text) (.ok entries)

theorem Reads.parse? {entry : Json.Decoder α} {c : IpCommand} {reply : IpReply} {entries : List α}
    (reads : Reads entry c reply (.ok entries)) :
    ∃ text, reply = .ok text ∧ Report.parse? entry text = some entries := by
  cases reads with
  | blank empty => exact ⟨_, rfl, if_pos (List.isEmpty_iff.mpr empty)⟩
  | read written parsed => exact ⟨_, rfl, (if_neg (mt List.isEmpty_iff.mp written)).trans parsed⟩

theorem Reads.isOk {entry : Json.Decoder α} {c : IpCommand} {reply : IpReply} {entries : List α}
    (reads : Reads entry c reply (.ok entries)) : reply.isOk = true := by
  cases reads <;> rfl

/-- A report is one command, and comes to what it is read as. -/
theorem path_report {entry : Json.Decoder α} {c : IpCommand} {r : Except LinkError (List α)}
    (path : Path (report entry c) events r) : ∃ reply, events = [⟨c, reply⟩] ∧ Reads entry c reply r := by
  rcases path_bind_iff.mp path with ⟨e, asked, rfl⟩ | ⟨text, first, rest, rfl, asked, onward⟩
  · exact ⟨.error e, path_run_iff.mp asked, .refused⟩
  · obtain rfl := path_run_iff.mp asked
    refine ⟨.ok text, ?_⟩
    unfold Report.parse? at onward
    by_cases empty : Text.trim text.toList = []
    · rw [if_pos (List.isEmpty_iff.mpr empty)] at onward
      obtain ⟨rfl, rfl⟩ := path_pure_iff.mp onward
      exact ⟨rfl, .blank empty⟩
    · rw [if_neg (mt List.isEmpty_iff.mp empty)] at onward
      cases parsed : Json.parse? text >>= Json.list? entry with
      | none =>
          rw [parsed] at onward
          obtain ⟨rfl, rfl⟩ := path_throw_iff.mp onward
          exact ⟨rfl, .garbled empty parsed⟩
      | some entries =>
          rw [parsed] at onward
          obtain ⟨rfl, rfl⟩ := path_pure_iff.mp onward
          exact ⟨rfl, .read empty parsed⟩

/-! ### Looking a link up -/

/-- Looking a link up: the first one with the hardware address in the report of the links. -/
inductive Finds (mac : String) : List Event → Except LinkError LinkEntry → Prop where
  | unread {reply : IpReply} {e : LinkError} (unread : Reads LinkEntry.fromJson? .showLinks reply (.error e)) :
      Finds mac [⟨.showLinks, reply⟩] (.error e)
  | absent {reply : IpReply} {links : List LinkEntry} (read : Reads LinkEntry.fromJson? .showLinks reply (.ok links))
      (absent : links.find? (fun l => l.hasAddress mac) = none) :
      Finds mac [⟨.showLinks, reply⟩] (.error (.notFound mac))
  | found {reply : IpReply} {links : List LinkEntry} {link : LinkEntry}
      (read : Reads LinkEntry.fromJson? .showLinks reply (.ok links))
      (found : links.find? (fun l => l.hasAddress mac) = some link) : Finds mac [⟨.showLinks, reply⟩] (.ok link)

/-- A link is looked up in the report of the links. -/
theorem Finds.looks {outcome : Except LinkError LinkEntry} (finds : Finds mac events outcome) :
    ∀ event ∈ events, event.1 = .showLinks := by
  cases finds <;> exact List.forall_mem_singleton.mpr rfl

theorem Finds.asks {outcome : Except LinkError LinkEntry} (finds : Finds mac events outcome) :
    ∀ event ∈ events, event.1.isChange = false :=
  fun event mem => congrArg IpCommand.isChange (finds.looks event mem)

theorem path_find {r : Except LinkError LinkEntry} (path : Path (find mac) events r) : Finds mac events r := by
  unfold find find? at path
  rw [bind_assoc] at path
  rcases path_bind_iff.mp path with ⟨e, asked, rfl⟩ | ⟨links, first, rest, rfl, asked, onward⟩
  · obtain ⟨reply, rfl, unread⟩ := path_report asked
    exact .unread unread
  · obtain ⟨reply, rfl, read⟩ := path_report asked
    rw [pure_bind] at onward
    cases found : links.find? fun l => l.hasAddress mac with
    | none =>
        rw [found] at onward
        obtain ⟨rfl, rfl⟩ := path_throw_iff.mp onward
        exact .absent read found
    | some link =>
        rw [found] at onward
        obtain ⟨rfl, rfl⟩ := path_pure_iff.mp onward
        exact .found read found

/-- That there is no link is told apart from every other error. -/
theorem path_findUnlessGone {r : Except LinkError (Option LinkEntry)} (path : Path (findUnlessGone mac) events r) :
    (∃ link, Finds mac events (.ok link) ∧ r = .ok (some link)) ∨
      (∃ gone, Finds mac events (.error (.notFound gone)) ∧ r = .ok none) ∨
        ∃ e, Finds mac events (.error e) ∧ (∀ gone, e ≠ .notFound gone) ∧ r = .error e := by
  obtain ⟨outcome, first, rest, rfl, looked, caught⟩ := Program.path_bind_iff.mp path
  rcases path_bind_iff.mp looked with ⟨e, asked, rfl⟩ | ⟨link, first, ended, rfl, asked, found⟩
  · cases e with
    | notFound gone =>
        obtain ⟨rfl, rfl⟩ := path_pure_iff.mp caught
        rw [List.append_nil]
        exact .inr (.inl ⟨gone, path_find asked, rfl⟩)
    | spawn | command | decode | invalidValue | injected =>
        obtain ⟨rfl, rfl⟩ := path_throw_iff.mp caught
        rw [List.append_nil]
        exact .inr (.inr ⟨_, path_find asked, nofun, rfl⟩)
  · obtain ⟨rfl, rfl⟩ := path_pure_iff.mp found
    obtain ⟨rfl, rfl⟩ := Program.path_done_iff.mp caught
    rw [List.append_nil, List.append_nil]
    exact .inl ⟨link, path_find asked, rfl⟩

theorem looks_findUnlessGone {r : Except LinkError (Option LinkEntry)} (path : Path (findUnlessGone mac) events r) :
    ∀ event ∈ events, event.1 = .showLinks := by
  rcases path_findUnlessGone path with ⟨_, finds, -⟩ | ⟨_, finds, -⟩ | ⟨_, finds, -, -⟩ <;> exact finds.looks

/-- The addresses of a link are asked for by one command, and those of global scope are picked out. -/
theorem path_globalAddresses {device : String} {r : Except LinkError (List Network)}
    (path : Path (globalAddresses device) events r) :
    ∃ reply, events = [⟨.showAddresses device, reply⟩] ∧
      ((∃ e, Reads LinkAddresses.fromJson? (.showAddresses device) reply (.error e) ∧ r = .error e) ∨
        ∃ reports, Reads LinkAddresses.fromJson? (.showAddresses device) reply (.ok reports) ∧
          r = .ok ((reports.flatMap LinkAddresses.addresses).filterMap AddressEntry.network?)) := by
  rcases path_bind_iff.mp path with ⟨e, asked, rfl⟩ | ⟨reports, first, rest, rfl, asked, picked⟩
  · obtain ⟨reply, rfl, unread⟩ := path_report asked
    exact ⟨reply, rfl, .inl ⟨e, unread, rfl⟩⟩
  · obtain ⟨reply, rfl, read⟩ := path_report asked
    obtain ⟨rfl, rfl⟩ := path_pure_iff.mp picked
    exact ⟨reply, List.append_nil _, .inr ⟨reports, read, rfl⟩⟩

/-! ### Commands in a row -/

/-- Commands are run one after the other, up to the first one that fails. -/
inductive Performs : List IpCommand → List Event → Except LinkError Unit → Prop where
  | nil : Performs [] [] (.ok ())
  | stops {c : IpCommand} {later : List IpCommand} {e : LinkError} :
      Performs (c :: later) [⟨c, .error e⟩] (.error e)
  | next {c : IpCommand} {text : String} {later : List IpCommand} {rest : List Event} {r : Except LinkError Unit}
      (onward : Performs later rest r) : Performs (c :: later) (⟨c, .ok text⟩ :: rest) r

theorem path_runAll {commands : List IpCommand} {r : Except LinkError Unit}
    (path : Path (runAll commands) events r) : Performs commands events r := by
  induction commands generalizing events with
  | nil =>
      obtain ⟨rfl, rfl⟩ := path_pure_iff.mp path
      exact .nil
  | cons c later ih =>
      rcases path_bind_iff.mp path with ⟨e, asked, rfl⟩ | ⟨text, first, rest, rfl, asked, onward⟩
      · obtain rfl := path_run_iff.mp asked
        exact .stops
      · obtain rfl := path_run_iff.mp asked
        exact .next (ih onward)

theorem Performs.mem {commands : List IpCommand} {r : Except LinkError Unit} (performs : Performs commands events r) :
    ∀ event ∈ events, event.1 ∈ commands := by
  induction performs with
  | nil => simp
  | stops => simp
  | next _ ih =>
      intro event mem
      rcases List.mem_cons.mp mem with rfl | mem
      · exact List.mem_cons_self
      · exact List.mem_cons_of_mem _ (ih event mem)

/-! ### Failures that are passed over -/

/-- The operation passes over no failure: it ends well only if each of its commands has. -/
def Heeds (x : LinkProgram α) : Prop :=
  ∀ events a, Path x events (.ok a) → ∀ event ∈ events, event.2.isOk = true

theorem heeds_pure (a : α) : Heeds (pure a) := by
  intro events b path
  obtain ⟨rfl, -⟩ := path_pure_iff.mp path
  exact List.forall_mem_nil _

theorem Heeds.bind {x : LinkProgram α} {f : α → LinkProgram β} (first : Heeds x) (onward : ∀ a, Heeds (f a)) :
    Heeds (x >>= f) := by
  intro events b path
  rcases path_bind_iff.mp path with ⟨e, -, same⟩ | ⟨a, early, late, rfl, begun, ended⟩
  · cases same
  · exact List.forall_mem_append.mpr ⟨first _ _ begun, onward _ _ _ ended⟩

theorem heeds_report (entry : Json.Decoder α) (c : IpCommand) : Heeds (report entry c) := by
  intro events entries path
  obtain ⟨reply, rfl, reads⟩ := path_report path
  exact List.forall_mem_singleton.mpr reads.isOk

theorem heeds_find (mac : String) : Heeds (find mac) := by
  intro events link path
  cases path_find path with
  | found reads => exact List.forall_mem_singleton.mpr reads.isOk

theorem heeds_globalAddresses (device : String) : Heeds (globalAddresses device) :=
  (heeds_report _ _).bind fun _ => heeds_pure _

theorem Performs.isOk {commands : List IpCommand} (performs : Performs commands events (.ok ())) :
    ∀ event ∈ events, event.2.isOk = true := by
  generalize ended : (Except.ok () : Except LinkError Unit) = r at performs
  induction performs with
  | nil => exact List.forall_mem_nil _
  | stops => cases ended
  | next onward ih => exact List.forall_mem_cons.mpr ⟨rfl, ih ended⟩

/-- If none of them fails, all of them are run. -/
theorem Performs.map_fst {commands : List IpCommand} (performs : Performs commands events (.ok ())) :
    events.map Sigma.fst = commands := by
  generalize ended : (Except.ok () : Except LinkError Unit) = r at performs
  induction performs with
  | nil => rfl
  | stops => cases ended
  | next onward ih => exact congrArg _ (ih ended)

theorem heeds_runAll (commands : List IpCommand) : Heeds (runAll commands) :=
  fun _ _ path => (path_runAll path).isOk

end Links

end LinkKeeper
