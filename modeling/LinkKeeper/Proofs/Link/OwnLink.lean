import LinkKeeper.Proofs.Link.Hosted
import LinkKeeper.Proofs.Link.Reads
import LinkKeeper.Proofs.Reconcile.Converged

/-!
Which links the commands of a pass are for.

Every operation looks the link up anew and names no other link after that. A pass gets to an operation only
for an interface of its node whose addresses are known, and to all of them but a tear-down only after the
machine has said that the hardware address is attached.

* `Program.Asks`: what a program can ask.
* `Links.LooksUp`: an operation looks a link up and then names only that link; the four operations do.
* `Pass.warranted_of_script`: when a pass makes a call for a link.
* `Pass.commands_on_own_link`: every change that a pass asks for is one of the link of its interface.
-/

namespace LinkKeeper

open Net

/-! ### What a program can ask -/

namespace Program

variable {Q : Type} {A : Q → Type} {α β : Type} {allowed : Q → Prop}

/-- All questions of the program are such. -/
def Asks (allowed : Q → Prop) : Program Q A α → Prop
  | done _ => True
  | ask q next => allowed q ∧ ∀ answer, (next answer).Asks allowed

theorem Asks.bind {p : Program Q A α} {f : α → Program Q A β} (first : p.Asks allowed)
    (onward : ∀ a, (f a).Asks allowed) : (p.bind f).Asks allowed := by
  induction p with
  | done a => exact onward a
  | ask q next ih => exact ⟨first.1, fun answer => ih answer (first.2 answer)⟩

theorem Asks.mono {wider : Q → Prop} {p : Program Q A α} (asks : p.Asks allowed) (more : ∀ q, allowed q → wider q) :
    p.Asks wider := by
  induction p with
  | done a => exact trivial
  | ask q next ih => exact ⟨more q asks.1, fun answer => ih answer (asks.2 answer)⟩

theorem Asks.of_path {p : Program Q A α} {events : List ((q : Q) × A q)} {a : α} (asks : p.Asks allowed)
    (path : p.Path events a) : ∀ event ∈ events, allowed event.1 := by
  induction path with
  | done =>
      intro event mem
      cases mem
  | ask _ ih =>
      intro event mem
      rcases List.mem_cons.mp mem with rfl | mem
      · exact asks.1
      · exact ih (asks.2 _) event mem

end Program

theorem IpCommand.device_infix {c : IpCommand} {device : String} (named : c.device? = some device) :
    ["dev", device] <:+: c.words := by
  cases c with
  | showLinks => cases named
  | showAddresses => cases named; exact ⟨["-j", "addr", "show"], [], rfl⟩
  | showRoutes family => cases named; exact ⟨["-j", familyOption family, "route", "show"], [], rfl⟩
  | setUp => cases named; exact ⟨["link", "set"], ["up"], rfl⟩
  | setDown => cases named; exact ⟨["link", "set"], ["down"], rfl⟩
  | addAddress a => cases named; exact ⟨["addr", "add", a.text], [], rfl⟩
  | deleteAddress a => cases named; exact ⟨["addr", "del", a.text], [], rfl⟩
  | replaceRoute r => cases named; exact ⟨["route", "replace", r.destination.text, "via", r.via.text], [], rfl⟩
  | deleteRoute r => cases named; exact ⟨["route", "del", r.destination.text, "via", r.via.text], [], rfl⟩

/-! ### The operations -/

namespace Links

variable {α β : Type} {allowed : IpCommand → Prop} {mac device : String} {events : List Event}

/-- All commands of the operation are such. -/
abbrev Runs (allowed : IpCommand → Prop) (x : LinkProgram α) : Prop := Program.Asks allowed x.run

theorem runs_pure (a : α) : Runs allowed (pure a : LinkProgram α) := trivial

theorem runs_throw (e : LinkError) : Runs allowed (throw e : LinkProgram α) := trivial

theorem runs_bind {x : LinkProgram α} {f : α → LinkProgram β} (first : Runs allowed x)
    (onward : ∀ a, Runs allowed (f a)) : Runs allowed (x >>= f) := by
  refine Program.Asks.bind first ?_
  intro outcome
  cases outcome with
  | error e => exact trivial
  | ok a => exact onward a

theorem runs_run {c : IpCommand} (fits : allowed c) : Runs allowed (run c) := ⟨fits, fun _ => trivial⟩

theorem runs_report {entry : Json.Decoder α} {c : IpCommand} (fits : allowed c) :
    Runs allowed (report entry c) := by
  refine runs_bind (runs_run fits) ?_
  intro text
  split
  · exact runs_pure _
  · exact runs_throw _

theorem runs_runAll {commands : List IpCommand} (fits : ∀ c ∈ commands, allowed c) :
    Runs allowed (runAll commands) := by
  induction commands with
  | nil => exact runs_pure ()
  | cons c rest ih =>
      refine runs_bind (runs_run (fits c List.mem_cons_self)) ?_
      intro _
      exact ih fun c mem => fits c (List.mem_cons_of_mem _ mem)

theorem runs_globalAddresses (fits : allowed (.showAddresses device)) :
    Runs allowed (globalAddresses device) :=
  runs_bind (runs_report fits) fun _ => runs_pure _

theorem runs_installedRoutes (fits : ∀ family, allowed (.showRoutes family device)) :
    Runs allowed (installedRoutes device) := by
  have one (family : Family) : Runs allowed (familyRoutes device family) :=
    runs_bind (runs_report (fits family)) fun _ => trivial
  exact runs_bind (one .v4) fun _ => runs_bind (one .v6) fun _ => runs_pure _

/-- An operation looks a link up, and every command that it runs after that is such for the link that it has
found. When it has found none there is no other command. -/
def LooksUp (mac : String) (allowed : String → IpCommand → Prop) (events : List Event) : Prop :=
  ∃ reply rest, events = ⟨.showLinks, reply⟩ :: rest ∧
    ∀ event ∈ rest, ∃ text links entry, reply = .ok text ∧ Report.parse? LinkEntry.fromJson? text = some links ∧
      links.find? (fun l => l.hasAddress mac) = some entry ∧ allowed entry.name event.1

theorem Finds.looksUp {allowed : String → IpCommand → Prop} {outcome : Except LinkError LinkEntry}
    (finds : Finds mac events outcome) : LooksUp mac allowed events := by
  cases finds <;> exact ⟨_, [], rfl, List.forall_mem_nil _⟩

theorem Finds.looksUp_append {allowed : String → IpCommand → Prop} {link : LinkEntry} {rest : List Event}
    (finds : Finds mac events (.ok link)) (fit : ∀ event ∈ rest, allowed link.name event.1) :
    LooksUp mac allowed (events ++ rest) := by
  cases finds with
  | @found reply links _ read found =>
      obtain ⟨text, rfl, parsed⟩ := read.parse?
      exact ⟨.ok text, rest, rfl, fun event mem => ⟨text, links, link, rfl, parsed, found, fit event mem⟩⟩

/-- An operation that goes on with the link that is looked up. -/
theorem looksUp_of_find {f : LinkEntry → LinkProgram α} {r : Except LinkError α}
    {allowed : String → IpCommand → Prop} (present : ∀ link, Runs (allowed link.name) (f link))
    (path : Path (find mac >>= f) events r) : LooksUp mac allowed events := by
  rcases path_bind_iff.mp path with ⟨e, looked, rfl⟩ | ⟨link, first, rest, rfl, looked, onward⟩
  · exact (path_find looked).looksUp
  · exact (path_find looked).looksUp_append ((present link).of_path onward)

/-- The command names the link. -/
def Names (device : String) (c : IpCommand) : Prop := c.device? = some device

/-- The command is one of those that tear the link down. -/
def TearsDown (address : Network) (device : String) (c : IpCommand) : Prop :=
  c = .showAddresses device ∨ c = .deleteAddress address device ∨ c = .setDown device

/-- The command is one of those that connect the link. -/
def Connects (address : Network) (device : String) (c : IpCommand) : Prop :=
  c = .setUp device ∨ c = .showAddresses device ∨ (∃ stale, c = .deleteAddress stale device) ∨
    c = .addAddress address device

theorem TearsDown.names {address : Network} {c : IpCommand} (tears : TearsDown address device c) :
    Names device c := by
  rcases tears with rfl | rfl | rfl <;> rfl

theorem Connects.names {address : Network} {c : IpCommand} (connects : Connects address device c) :
    Names device c := by
  rcases connects with rfl | rfl | ⟨stale, rfl⟩ | rfl <;> rfl

/-! What the operations do with the link that they have found. -/

theorem runs_tearsDown (address : Network) (device : String) :
    Runs (TearsDown address device) (globalAddresses device >>= fun current =>
      runAll ((if current.contains address then [IpCommand.deleteAddress address device] else []) ++
        [IpCommand.setDown device])) := by
  have shown : TearsDown address device (.showAddresses device) := .inl rfl
  refine runs_bind (runs_globalAddresses shown) fun current => runs_runAll ?_
  intro c mem
  rcases List.mem_append.mp mem with mem | mem
  · split at mem
    · exact .inr (.inl (List.mem_singleton.mp mem))
    · cases mem
  · exact .inr (.inr (List.mem_singleton.mp mem))

theorem runs_connects (address : Network) (link : LinkEntry) :
    Runs (Connects address link.name) (do
      runAll (if link.isUp then [] else [.setUp link.name])
      let current ← globalAddresses link.name
      runAll (addressChanges link.name address current)) := by
  have up : Runs (Connects address link.name) (runAll (if link.isUp then [] else [.setUp link.name])) := by
    refine runs_runAll ?_
    intro c mem
    split at mem
    · cases mem
    · exact .inl (List.mem_singleton.mp mem)
  refine runs_bind up fun _ => runs_bind (runs_globalAddresses (.inr (.inl rfl))) fun current => runs_runAll ?_
  intro c mem
  rcases List.mem_append.mp mem with mem | mem
  · obtain ⟨stale, -, rfl⟩ := List.mem_map.mp mem
    exact .inr (.inr (.inl ⟨stale, rfl⟩))
  · split at mem
    · cases mem
    · exact .inr (.inr (.inr (List.mem_singleton.mp mem)))

theorem runs_routes (routes : List Route) (device : String) :
    Runs (Names device) (installedRoutes device >>= fun installed =>
      runAll (routeCommands device (.between installed routes))) := by
  refine runs_bind (runs_installedRoutes fun _ => rfl) fun installed => runs_runAll ?_
  intro c mem
  rcases List.mem_append.mp mem with mem | mem
  · obtain ⟨route, -, rfl⟩ := List.mem_map.mp mem
    rfl
  · obtain ⟨route, -, rfl⟩ := List.mem_map.mp mem
    rfl

theorem LooksUp.mono {allowed wider : String → IpCommand → Prop} (looksUp : LooksUp mac allowed events)
    (more : ∀ device c, allowed device c → wider device c) : LooksUp mac wider events := by
  obtain ⟨reply, rest, rfl, onward⟩ := looksUp
  refine ⟨reply, rest, rfl, ?_⟩
  intro event mem
  obtain ⟨text, links, entry, told, parsed, found, fits⟩ := onward event mem
  exact ⟨text, links, entry, told, parsed, found, more _ _ fits⟩

theorem looksUp_tearDown {address : Network} {r : Except LinkError Unit}
    (path : Path (tearDown mac address) events r) : LooksUp mac (TearsDown address) events := by
  rcases path_bind_iff.mp path with ⟨e, looked, rfl⟩ | ⟨found, first, rest, rfl, looked, onward⟩
  · rcases path_findUnlessGone looked with ⟨_, finds, -⟩ | ⟨_, finds, -⟩ | ⟨_, finds, -⟩ <;> exact finds.looksUp
  · rcases path_findUnlessGone looked with ⟨link, finds, same⟩ | ⟨gone, finds, same⟩ | ⟨e, -, -, same⟩
    · cases same
      exact finds.looksUp_append ((runs_tearsDown address link.name).of_path onward)
    · cases same
      obtain ⟨rfl, -⟩ := path_pure_iff.mp onward
      rw [List.append_nil]
      exact finds.looksUp
    · cases same

/-- For the name of a link no other command is run. -/
theorem looksUp_name {allowed : String → IpCommand → Prop} {r : Except LinkError String}
    (path : Program.Path (name mac).run events r) : LooksUp mac allowed events :=
  looksUp_of_find (fun link => runs_pure link.name) path

theorem looksUp_configure {address : Network} {r : Except LinkError Unit}
    (path : Program.Path (configure mac address).run events r) : LooksUp mac (Connects address) events :=
  looksUp_of_find (runs_connects address) path

theorem looksUp_syncRoutes {routes : List Route} {r : Except LinkError Unit}
    (path : Program.Path (syncRoutes mac routes).run events r) : LooksUp mac Names events :=
  looksUp_of_find (fun link => runs_routes routes link.name) path

end Links

/-! ### When a pass makes a call for a link -/

/-- The call is for a link that has to be attached: the link with the hardware address. -/
def Call.ForAttached (mac : String) : Call → Prop
  | .linkName own | .configureLink own _ | .syncRoutes own _ => own = mac
  | _ => False

namespace Pass

/-- The pass has found an interface of its node whose addresses are known. -/
structure Attends (settings : Settings) (found : Except StoreError (Option NetworkInterface))
    (nic : NetworkInterface) (mac : String) (address : Network) : Prop where
  present : found = .ok (some nic)
  here : nic.spec.nodeName = settings.nodeName
  known : nic.macAddress? = some mac
  parsed : addressOf nic = .ok address

/-- A pass may make the call for a link: it tears the link of an interface down that is to be let go, or the
hardware address has been found attached. -/
inductive Warranted (nic : NetworkInterface) (mac : String) (address : Network) (earlier : List Event) :
    Call → Prop where
  | tearDown (releases : Phase.releases nic = true) :
      Warranted nic mac address earlier (.tearDownLink mac address)
  | attached {c : Call} {document : InstanceDocument} (own : c.ForAttached mac)
      (fetched : ⟨.readMetadata, .ok document⟩ ∈ earlier) (attached : document.hasInterface mac = true) :
      Warranted nic mac address earlier c

section Attending

variable {settings : Settings} {key : ObjectKey} {mac : String} {address : Network} {nic : NetworkInterface}
  {st : PassState} {f : Findings} {events before after : List Event} {result : Except KeeperError Outcome}
  {found : Except StoreError (Option NetworkInterface)} {c : Call} {answer : c.Answer}

theorem Warranted.mono (warranted : Warranted nic mac address before c) (more : ∀ e ∈ before, e ∈ events) :
    Warranted nic mac address events c := by
  cases warranted with
  | tearDown releases => exact .tearDown releases
  | attached own fetched attached => exact .attached own (more _ fetched) attached

/-- After the metadata every line for a link is for that with the hardware address. -/
theorem forAttached_of_mem (links : c.toLink = true)
    (mem : c ∈ callsOf
      (recordLines mac st f ++ ([.call (.configureLink mac address)] ++ routeLines key mac nic f))) :
    c.ForAttached mac := by
  unfold recordLines routeLines callsOf at mem
  cases c with
  | readInterface | writeInterface | writeStatus | readNetwork | readMetadata => cases links
  | tearDownLink => split at mem <;> simp at mem
  | linkName own => split at mem <;> simpa [Call.ForAttached] using mem
  | configureLink own => split at mem <;> simp at mem <;> exact mem.1
  | syncRoutes own => split at mem <;> simp at mem <;> exact mem.1

/-- The steps that bring a link into the declared state ask for the metadata first. -/
theorem warranted_of_converge (course : Course f .done (convergeLines key mac address st f) events result)
    (split : events = before ++ ⟨c, answer⟩ :: after) (links : c.toLink = true) :
    Warranted nic mac address before c := by
  obtain ⟨reply, rest, rfl, outcome⟩ := course_call_iff.mp course
  cases before with
  | nil =>
      cases split
      cases links
  | cons first others =>
      obtain ⟨rfl, same⟩ := List.cons.inj split
      have more : rest ≠ [] := by simp [same]
      rcases outcome with ⟨gives, verifies⟩ | ⟨e, -, none_left, -⟩
      · obtain rfl : reply = .ok f.document := gives
        rcases course_check_iff.mp verifies with ⟨stands, names⟩ | ⟨e, -, none_left, -⟩
        · have mem : c ∈ callsOf (recordLines mac st f ++
              ([.call (.configureLink mac address)] ++ routeLines key mac (latest st f) f)) :=
            names.calls_prefix.subset (List.mem_map.mpr ⟨⟨c, answer⟩, by simp [same], rfl⟩)
          exact .attached (forAttached_of_mem links mem) List.mem_cons_self (demand_eq_none_iff.mp stands)
        · exact absurd none_left more
      · exact absurd none_left more

/-- So does a whole pass, unless it tears the link down. -/
theorem warranted_of_script (parsed : addressOf nic = .ok address)
    (course : Course f .done (script settings key nic mac f) events result)
    (split : events = before ++ ⟨c, answer⟩ :: after) (links : c.toLink = true) :
    Warranted nic mac address before c := by
  rw [script_of_address parsed] at course
  by_cases releases : (nic.isTerminating && nic.hasFinalizer) = true
  · rw [if_pos releases] at course
    obtain ⟨reply, rest, rfl, outcome⟩ := course_call_iff.mp course
    cases before with
    | nil =>
        cases split
        exact .tearDown releases
    | cons first others =>
        obtain ⟨rfl, same⟩ := List.cons.inj split
        rcases outcome with ⟨-, releasing⟩ | ⟨e, -, none_left, -⟩
        · obtain ⟨reply, later, rfl, outcome⟩ := course_call_iff.mp releasing
          cases others with
          | nil =>
              cases same
              cases links
          | cons second others =>
              obtain ⟨rfl, left⟩ := List.cons.inj same
              rcases outcome with ⟨-, converges⟩ | ⟨e, -, none_left, -⟩
              · cases short : settings.endAfterTearDown with
                | true =>
                    rw [if_pos short] at converges
                    obtain ⟨none_left, -⟩ := course_nil_iff.mp converges
                    simp [none_left] at left
                | false =>
                    rw [if_neg (by simp [short])] at converges
                    refine (warranted_of_converge converges left links).mono ?_
                    exact fun e mem => List.mem_cons_of_mem _ (List.mem_cons_of_mem _ mem)
              · simp [none_left] at left
        · simp [none_left] at same
  · rw [if_neg releases] at course
    exact warranted_of_converge course split links

/-- Once a pass has asked for the interface, it asks for nothing more unless it attends to it. -/
theorem Follows.idle_or_attends (follows : Follows settings key events result found) :
    events = [] ∨ ∃ nic mac address f, Attends settings found nic mac address ∧
      Course f .done (script settings key nic mac f) events result := by
  unfold Follows at follows
  split at follows
  · exact .inl follows.1
  · exact .inl follows.1
  · rename_i nic
    by_cases here : nic.spec.nodeName = settings.nodeName
    · rw [if_neg (not_not_intro here)] at follows
      cases known : nic.macAddress? with
      | none =>
          rw [known] at follows
          exact .inl follows.1
      | some mac =>
          rw [known] at follows
          obtain ⟨f, performs⟩ := follows
          have course := performs.course
          cases parsed : addressOf nic with
          | error e =>
              unfold script at course
              rw [parsed] at course
              rcases course_check_iff.mp course with ⟨stands, -⟩ | ⟨-, -, none_left, -⟩
              · cases stands
              · exact .inl none_left
          | ok address => exact .inr ⟨nic, mac, address, f, ⟨rfl, here, known, parsed⟩, course⟩
    · rw [if_pos here] at follows
      exact .inl follows.1

end Attending

/-! ### Down to the commands -/

/-- The newest report of the links gives this as the first one with the hardware address. -/
def Reported (mac : String) (earlier : List NodeEvent) (entry : LinkEntry) : Prop :=
  ∃ before text between links, earlier = before ++ ⟨.command .showLinks, .ok text⟩ :: between ∧
    (∀ event ∈ between, event.1 ≠ .command .showLinks) ∧
    Report.parse? LinkEntry.fromJson? text = some links ∧
    links.find? (fun l => l.hasAddress mac) = some entry

/-- The command names the link of the interface. It is one of those that tear the link down, of an interface
that is to be let go, or the hardware address has been found attached. -/
def OwnCommand (nic : NetworkInterface) (mac : String) (address : Network) (earlier : List NodeEvent)
    (c : IpCommand) : Prop :=
  ∃ entry, Reported mac earlier entry ∧ c.device? = some entry.name ∧ ["dev", entry.name] <:+: c.words ∧
    (Phase.releases nic = true ∧ (c = .deleteAddress address entry.name ∨ c = .setDown entry.name) ∨
      ∃ document, ⟨.ask .readMetadata, .ok document⟩ ∈ earlier ∧ document.hasInterface mac = true)

section Commands

variable {mac : String} {nic : NetworkInterface} {address : Network} {entry : LinkEntry}
  {allowed : String → IpCommand → Prop} {commands : List Links.Event}
  {first inner outer : List NodeEvent} {asked : List Event} {command : IpCommand} {reply : IpReply} {c : Call}
  {answer : c.Answer}

/-- A command of a pass, with what it gives. -/
def commandEvent (e : Links.Event) : NodeEvent := ⟨.command e.1, e.2⟩

theorem path_onNode {α : Type} {p : LinkProgram α} {events : List NodeEvent} {r : Except LinkError α}
    (path : p.onNode.Path events r) :
    ∃ commands, Program.Path p.run commands r ∧ events = commands.map commandEvent := by
  obtain ⟨commands, taken, expands⟩ := Program.path_expand path
  refine ⟨commands, taken, ?_⟩
  clear path taken
  induction expands with
  | nil => rfl
  | cons one _ ih =>
      obtain rfl := Program.path_query_iff.mp one
      rw [ih]
      rfl

theorem Reported.append (reported : Reported mac inner entry) (first : List NodeEvent) :
    Reported mac (first ++ inner) entry := by
  obtain ⟨before, text, between, links, rfl, newest, parsed, found⟩ := reported
  exact ⟨first ++ before, text, between, links, (List.append_assoc _ _ _).symm, newest, parsed, found⟩

/-- A change that an operation asks for is one of the link that it has looked up. -/
theorem reported_of_looksUp (looksUp : Links.LooksUp mac allowed commands)
    (names : ∀ device c, allowed device c → c.device? = some device)
    (split : commands.map commandEvent = inner ++ ⟨.command command, reply⟩ :: outer)
    (change : command.isChange = true) : ∃ entry, Reported mac inner entry ∧ allowed entry.name command := by
  obtain ⟨shown, rest, rfl, follows⟩ := looksUp
  cases inner with
  | nil =>
      cases split
      cases change
  | cons head others =>
      obtain ⟨rfl, later⟩ := List.cons.inj split
      obtain ⟨before, after, rfl, rfl, same⟩ := List.map_eq_append_iff.mp later
      obtain ⟨event, tail, rfl, own, -⟩ := List.map_eq_cons_iff.mp same
      cases own
      obtain ⟨text, links, entry, rfl, parsed, found, fits⟩ := follows event (by simp)
      refine ⟨entry, ⟨[], text, _, links, rfl, ?_, parsed, found⟩, fits⟩
      intro shown mem asks
      obtain ⟨other, between, rfl⟩ := List.mem_map.mp mem
      obtain ⟨-, -, there, -, -, -, named⟩ := follows other (by simp [between])
      have none_named := names _ _ named
      rw [NodeCall.command.inj asks] at none_named
      cases none_named

/-- Only a call for a link runs commands. -/
theorem toLink_of_command (path : c.onNode.Path (inner ++ ⟨.command command, reply⟩ :: outer) answer) :
    c.toLink = true := by
  cases c with
  | tearDownLink | linkName | configureLink | syncRoutes => rfl
  | readInterface | writeInterface | writeStatus | readNetwork | readMetadata =>
      have single := Program.path_query_iff.mp path
      cases inner with
      | nil => cases single
      | cons head others => simp at single

/-- What a call that is not for a link gives is what it has been asked for on the host. -/
theorem told_of_expands {outer : List NodeEvent} (outside : c.toLink = false)
    (expands : Program.Expands Call.onNode asked outer) (mem : ⟨c, answer⟩ ∈ asked) : ⟨.ask c, answer⟩ ∈ outer := by
  induction expands with
  | nil => cases mem
  | cons taken _ ih =>
      rcases List.mem_cons.mp mem with same | later
      · cases same
        refine List.mem_append_left _ ?_
        cases c with
        | readInterface | writeInterface | writeStatus | readNetwork | readMetadata =>
            rw [Program.path_query_iff.mp taken]
            exact List.mem_cons_self
        | tearDownLink | linkName | configureLink | syncRoutes => cases outside
      · exact List.mem_append_right _ (ih later)

/-- A change that is asked for by a call that a pass may make is one of the link of the interface. -/
theorem ownCommand_of_call (warranted : Warranted nic mac address asked c)
    (expands : Program.Expands Call.onNode asked first)
    (path : c.onNode.Path (inner ++ ⟨.command command, reply⟩ :: outer) answer)
    (change : command.isChange = true) : OwnCommand nic mac address (first ++ inner) command := by
  cases warranted with
  | tearDown releases =>
      obtain ⟨commands, taken, split⟩ := path_onNode path
      obtain ⟨entry, reported, tears⟩ := reported_of_looksUp (Links.looksUp_tearDown taken)
        (fun _ _ => Links.TearsDown.names) split.symm change
      rcases tears with rfl | rfl | rfl
      · cases change
      · exact ⟨entry, reported.append first, rfl, IpCommand.device_infix rfl, .inl ⟨releases, .inl rfl⟩⟩
      · exact ⟨entry, reported.append first, rfl, IpCommand.device_infix rfl, .inl ⟨releases, .inr rfl⟩⟩
  | @attached _ document own fetched attached =>
      have found : ∃ commands, Links.LooksUp mac Links.Names commands ∧
          commands.map commandEvent = inner ++ ⟨.command command, reply⟩ :: outer := by
        cases c with
        | readInterface | writeInterface | writeStatus | readNetwork | readMetadata | tearDownLink =>
            exact own.elim
        | linkName =>
            obtain rfl : _ = mac := own
            obtain ⟨commands, taken, split⟩ := path_onNode path
            exact ⟨commands, Links.looksUp_name taken, split.symm⟩
        | configureLink =>
            obtain rfl : _ = mac := own
            obtain ⟨commands, taken, split⟩ := path_onNode path
            exact ⟨commands, (Links.looksUp_configure taken).mono fun _ _ => Links.Connects.names, split.symm⟩
        | syncRoutes =>
            obtain rfl : _ = mac := own
            obtain ⟨commands, taken, split⟩ := path_onNode path
            exact ⟨commands, Links.looksUp_syncRoutes taken, split.symm⟩
      obtain ⟨commands, looksUp, split⟩ := found
      obtain ⟨entry, reported, named⟩ := reported_of_looksUp looksUp (fun _ _ named => named) split change
      exact ⟨entry, reported.append first, named, IpCommand.device_infix named,
        .inr ⟨document, List.mem_append_left _ (told_of_expands rfl expands fetched), attached⟩⟩

end Commands

/-- A pass on a host asks for the interface first, and for nothing more unless that is of its node and both of
its addresses are known. Every change that it asks for is one of the link that the newest report gives for the
hardware address, whatever the commands and the other questions are answered with. -/
theorem commands_on_own_link {σ : Type} (settings : Settings) (key : ObjectKey)
    (answer : (q : NodeCall) → σ → q.Answer × σ) (s : σ) :
    ∃ found rest, Program.trace answer (hosted settings key) s = ⟨.ask (.readInterface key.name), found⟩ :: rest ∧
      ((∀ nic mac address, ¬ Attends settings found nic mac address) → rest = []) ∧
      ∀ earlier command reply later, rest = earlier ++ ⟨.command command, reply⟩ :: later →
        command.isChange = true → ∃ nic mac address, Attends settings found nic mac address ∧
          OwnCommand nic mac address earlier command := by
  obtain ⟨asked, path, expands⟩ := Program.path_expand (Program.path_run answer (hosted settings key) s)
  obtain ⟨found, onward, rfl, follows⟩ := path_reconcile path
  generalize Program.trace answer (hosted settings key) s = events at expands
  cases expands with
  | @cons _ _ one rest _ taken expands =>
      obtain rfl := Program.path_query_iff.mp taken
      refine ⟨found, rest, rfl, ?_, ?_⟩
      · intro unattended
        rcases follows.idle_or_attends with rfl | ⟨nic, mac, address, -, attends, -⟩
        · cases expands
          rfl
        · exact absurd attends (unattended nic mac address)
      · intro earlier command reply later split change
        obtain ⟨before, c, answer, after, first, inner, outer, rfl, early, path, rfl⟩ := expands.at_split split
        rcases follows.idle_or_attends with idle | ⟨nic, mac, address, f, attends, course⟩
        · simp at idle
        · have warranted : Warranted nic mac address before c :=
            warranted_of_script attends.parsed course rfl (toLink_of_command path)
          exact ⟨nic, mac, address, attends, ownCommand_of_call warranted early path change⟩

end Pass

end LinkKeeper
