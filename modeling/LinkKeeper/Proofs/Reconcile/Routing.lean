import LinkKeeper.Proofs.Link.OwnLink
import LinkKeeper.Proofs.Reconcile.DeclaredRoutes

/-!
The last step of a pass: the routes of the network go to the link as a whole or not at all.

The routes are read between the last question to the store and the last call of the pass. By then the pass has
recorded and configured its link; but no call before that is about routes, and there is no call after it.

* `Pass.Handles`: what a pass makes of the routes of a network.
* `Pass.script_routing`, `Pass.handles_of_routeLines`: the way to the routing step, and the step.
* `Pass.handles_of_path`, `Pass.Handles.of_expands`: whole passes, and passes on a host down to their commands.
* `Pass.routes_whole_or_not_at_all`: the routes of a network are read, and then applied, as a whole.
-/

namespace LinkKeeper

open Net

/-! ### Calls and commands about routes -/

/-- Whether the call is one of the routing step. -/
def Call.ofRouting : Call → Bool
  | .readNetwork _ | .syncRoutes _ _ => true
  | _ => false

/-- Whether the command reads the routes of a link or changes one. -/
def IpCommand.aboutRoutes : IpCommand → Bool
  | .showRoutes _ _ | .replaceRoute _ _ | .deleteRoute _ _ => true
  | _ => false

/-- Whether the host is asked about its routes. -/
def NodeCall.aboutRoutes : NodeCall → Bool
  | .ask _ => false
  | .command c => c.aboutRoutes

theorem Call.syncs_eq_false_of {c : Call} (apart : c.ofRouting = false) : c.syncs = false := by
  cases c with
  | syncRoutes => cases apart
  | readInterface | writeInterface | writeStatus | readNetwork | readMetadata | tearDownLink | linkName
    | configureLink => rfl

/-- An operation that goes on with no command about routes runs none. -/
theorem Links.LooksUp.routeless {mac : String} {allowed : String → IpCommand → Prop} {events : List Links.Event}
    (looksUp : LooksUp mac allowed events) (apart : ∀ device c, allowed device c → c.aboutRoutes = false) :
    ∀ event ∈ events.map Pass.commandEvent, event.1.aboutRoutes = false := by
  obtain ⟨reply, rest, rfl, onward⟩ := looksUp
  rw [List.forall_mem_map]
  refine List.forall_mem_cons.mpr ⟨rfl, ?_⟩
  intro event mem
  obtain ⟨-, -, link, -, -, -, fits⟩ := onward event mem
  exact apart link.name event.1 fits

namespace Pass

section Hosts

variable {c d : Call} {answer : c.Answer} {given : d.Answer} {asked : List Event} {events : List NodeEvent}

/-- A call comes to a command about routes only if it gives a link its routes. -/
theorem routeless_of_path (apart : c.syncs = false) (path : c.onNode.Path events answer) :
    ∀ event ∈ events, event.1.aboutRoutes = false := by
  cases c with
  | syncRoutes => cases apart
  | readInterface | writeInterface | writeStatus | readNetwork | readMetadata =>
      rw [Program.path_query_iff.mp path]
      exact List.forall_mem_singleton.mpr rfl
  | tearDownLink mac address =>
      obtain ⟨commands, taken, rfl⟩ := path_onNode path
      refine (Links.looksUp_tearDown taken).routeless ?_
      rintro device c (rfl | rfl | rfl) <;> rfl
  | linkName mac =>
      obtain ⟨commands, taken, rfl⟩ := path_onNode path
      have looked : Links.LooksUp mac (fun _ _ => False) commands := Links.looksUp_name taken
      exact looked.routeless fun _ _ none => none.elim
  | configureLink mac address =>
      obtain ⟨commands, taken, rfl⟩ := path_onNode path
      refine (Links.looksUp_configure taken).routeless ?_
      rintro device c (rfl | rfl | ⟨stale, rfl⟩ | rfl) <;> rfl

theorem routeless_of_expands (expands : Program.Expands Call.onNode asked events)
    (apart : ∀ event ∈ asked, event.1.syncs = false) : ∀ event ∈ events, event.1.aboutRoutes = false := by
  induction expands with
  | nil => exact List.forall_mem_nil _
  | cons taken _ ih =>
      obtain ⟨own, later⟩ := List.forall_mem_cons.mp apart
      exact List.forall_mem_append.mpr ⟨routeless_of_path own taken, ih later⟩

/-- What the store or the metadata service is asked in the place of a call is that call. -/
theorem asked_of_path (path : c.onNode.Path events answer) (mem : ⟨.ask d, given⟩ ∈ events) :
    (⟨d, given⟩ : Event) = ⟨c, answer⟩ := by
  cases c with
  | readInterface | writeInterface | writeStatus | readNetwork | readMetadata =>
      rw [Program.path_query_iff.mp path] at mem
      cases List.mem_singleton.mp mem
      rfl
  | tearDownLink | linkName | configureLink | syncRoutes =>
      obtain ⟨commands, -, rfl⟩ := path_onNode path
      obtain ⟨command, -, same⟩ := List.mem_map.mp mem
      cases same

theorem asked_of_expands (expands : Program.Expands Call.onNode asked events) (mem : ⟨.ask d, given⟩ ∈ events) :
    ⟨d, given⟩ ∈ asked := by
  induction expands with
  | nil => cases mem
  | cons taken _ ih =>
      rcases List.mem_append.mp mem with own | later
      · rw [asked_of_path taken own]
        exact List.mem_cons_self
      · exact List.mem_cons_of_mem _ (ih later)

end Hosts

/-! ### The routing step -/

/-- The pass has been given the copy of the interface: it has read it, or it has got it back of a write. -/
inductive GivenCopy (events : List Event) (copy : NetworkInterface) : Prop where
  | read {name : String} (answered : ⟨.readInterface name, .ok (some copy)⟩ ∈ events)
  | released {nic : NetworkInterface} (answered : ⟨.writeInterface nic, .ok copy⟩ ∈ events)
  | recorded {nic : NetworkInterface} (answered : ⟨.writeStatus nic, .ok copy⟩ ∈ events)

/-- What a pass makes of the routes of a network: if one of them cannot be read, it fails for what is declared and the
link gets none, and else the link gets all of them, in order. -/
inductive Handles (network : PrivateNetwork) (result : Except KeeperError Outcome) (untouched : Prop)
    (given : List Route → Prop) : Prop where
  | withheld {r : RouteSpec} {e : KeeperError} (declared : r ∈ network.spec.routes) (unreadable : ¬ r.Readable)
      (told : desiredRoutes network = .error e) (fails : result = .error e) (data : e.retry = .data)
      (untouched : untouched)
  | applied {routes : List Route} (readable : ∀ r ∈ network.spec.routes, r.Readable)
      (told : desiredRoutes network = .ok routes) (given : given routes)

/-- The last call of the pass, and the only one of its kind, gives the link the routes. -/
def SyncsLast (mac : String) (result : Except KeeperError Outcome) (events : List Event) (routes : List Route) :
    Prop :=
  ∃ earlier reply, events = earlier ++ [⟨.syncRoutes mac routes, reply⟩] ∧
    (∀ event ∈ earlier, event.1.syncs = false) ∧ result = (reply.mapError .link).map fun _ => .done

/-- The pass ends with the commands that give the link the routes, and none before them is about routes. -/
def SyncsLastOnHost (mac : String) (result : Except KeeperError Outcome) (events : List NodeEvent)
    (routes : List Route) : Prop :=
  ∃ earlier commands reply, events = earlier ++ commands.map commandEvent ∧
    (∀ event ∈ earlier, event.1.aboutRoutes = false) ∧ Links.Path (Links.syncRoutes mac routes) commands reply ∧
      result = (reply.mapError .link).map fun _ => .done

section Routing

variable {settings : Settings} {key : ObjectKey} {mac owner : String} {address : Network} {nic : NetworkInterface}
  {st : PassState} {f : Findings} {network : PrivateNetwork} {events : List Event}
  {result : Except KeeperError Outcome} {found : Except StoreError (Option NetworkInterface)}

/-- Routes that cannot be read are an error of what is declared. -/
theorem unreadable_of_error {e : KeeperError} (told : desiredRoutes network = .error e) :
    e.retry = .data ∧ ∃ r ∈ network.spec.routes, ¬ r.Readable := by
  have reads := desiredRoutes_reads network
  rw [told] at reads
  cases reads with
  | @faulty earlier later r _ _ split _ faulty => exact ⟨rfl, r, by simp [split], faulty.not_readable⟩

theorem synced_of_line {routes : List Route} (course : Course f .done [.call (.syncRoutes mac routes)] events result) :
    SyncsLast mac result events routes := by
  obtain ⟨reply, rest, rfl, ⟨gives, ended⟩ | ⟨e, failure, rfl, rfl⟩⟩ := course_call_iff.mp course
  · obtain ⟨rfl, rfl⟩ := course_nil_iff.mp ended
    obtain rfl : reply = .ok () := gives
    exact ⟨[], .ok (), rfl, List.forall_mem_nil _, rfl⟩
  · refine ⟨[], reply, rfl, List.forall_mem_nil _, ?_⟩
    cases reply with
    | error cause =>
        cases failure
        rfl
    | ok => cases failure

theorem SyncsLast.append {first : List Event} {routes : List Route} (syncs : SyncsLast mac result events routes)
    (apart : ∀ event ∈ first, event.1.syncs = false) : SyncsLast mac result (first ++ events) routes := by
  obtain ⟨earlier, reply, rfl, once, ended⟩ := syncs
  exact ⟨first ++ earlier, reply, (List.append_assoc _ _ _).symm, List.forall_mem_append.mpr ⟨apart, once⟩, ended⟩

theorem Handles.append {first : List Event}
    (handles : Handles network result (∀ event ∈ events, event.1.syncs = false) (SyncsLast mac result events))
    (apart : ∀ event ∈ first, event.1.syncs = false) :
    Handles network result (∀ event ∈ first ++ events, event.1.syncs = false)
      (SyncsLast mac result (first ++ events)) := by
  cases handles with
  | withheld declared unreadable told fails data untouched =>
      exact .withheld declared unreadable told fails data (List.forall_mem_append.mpr ⟨apart, untouched⟩)
  | applied readable told given => exact .applied readable told (given.append apart)

theorem Handles.cons {event : Event}
    (handles : Handles network result (∀ event ∈ events, event.1.syncs = false) (SyncsLast mac result events))
    (apart : event.1.syncs = false) :
    Handles network result (∀ other ∈ event :: events, other.1.syncs = false)
      (SyncsLast mac result (event :: events)) := by
  have alone : ∀ other ∈ [event], other.1.syncs = false := List.forall_mem_singleton.mpr apart
  exact handles.append alone

/-- Once the network is there, its routes are read, and only if that succeeds they are given to the link. -/
theorem handles_of_lines
    (course : Course f .done
      [.check (fault? (desiredRoutes network)),
        .call (.syncRoutes mac ((desiredRoutes network).toOption.getD []))] events result) :
    Handles network result (∀ event ∈ events, event.1.syncs = false) (SyncsLast mac result events) := by
  cases told : desiredRoutes network with
  | error e =>
      rw [told] at course
      obtain ⟨data, r, declared, unreadable⟩ := unreadable_of_error told
      rcases course_check_iff.mp course with ⟨stands, -⟩ | ⟨cause, same, rfl, rfl⟩
      · cases stands
      · cases same
        exact .withheld declared unreadable told rfl data (List.forall_mem_nil _)
  | ok routes =>
      rw [told] at course
      rcases course_check_iff.mp course with ⟨-, last⟩ | ⟨cause, same, -, -⟩
      · exact .applied (desiredRoutes_ok_iff.mp ⟨routes, told⟩) told (synced_of_line last)
      · cases same

/-- The routing step asks for the network that owns the copy of the interface, and handles its routes. -/
theorem handles_of_routeLines {copy : NetworkInterface}
    (course : Course f .done (routeLines key mac copy f) events result)
    (reached : ⟨.readNetwork owner, .ok (some network)⟩ ∈ events) :
    copy.ownerNetwork? = some owner ∧
      Handles network result (∀ event ∈ events, event.1.syncs = false) (SyncsLast mac result events) := by
  unfold routeLines at course
  rcases course_check_iff.mp course with ⟨stands, asks⟩ | ⟨-, -, rfl, -⟩
  · obtain ⟨name, owned⟩ := Option.isSome_iff_exists.mp (demand_eq_none_iff.mp stands)
    rw [owned, Option.getD_some] at asks
    obtain ⟨answer, rest, rfl, outcome⟩ := course_call_iff.mp asks
    rcases List.mem_cons.mp reached with same | later
    · cases same
      refine ⟨owned, ?_⟩
      rcases outcome with ⟨gives, reads⟩ | ⟨e, failure, -, -⟩
      · have routes : f.routes owner = desiredRoutes network := by
          unfold Findings.routes
          rw [← Except.ok.inj gives]
        rw [routes] at reads
        exact (handles_of_lines reads).cons rfl
      · cases failure
    · rcases outcome with ⟨-, reads⟩ | ⟨-, -, rfl, -⟩
      · cases List.mem_singleton.mp (reads.calls_prefix.subset (List.mem_map_of_mem later))
      · cases later
  · cases reached

/-! ### The way to the routing step -/

/-- Which copy of the interface a pass goes on with after these calls. -/
inductive Findings.Hands (f : Findings) (nic : NetworkInterface) (calls : List Call) : NetworkInterface → Prop where
  | read : Hands f nic calls nic
  | released (copy : NetworkInterface) (written : .writeInterface copy ∈ calls) : Hands f nic calls f.written
  | recorded (copy : NetworkInterface) (written : .writeStatus copy ∈ calls) : Hands f nic calls f.recorded

theorem Findings.Hands.mono {calls more : List Call} {copy : NetworkInterface} (hands : f.Hands nic calls copy)
    (sub : calls ⊆ more) : f.Hands nic more copy := by
  cases hands with
  | read => exact .read
  | released copy written => exact .released copy (sub written)
  | recorded copy written => exact .recorded copy (sub written)

/-- The lines before those of the routing step. -/
def connectLines (mac : String) (address : Network) (st : PassState) (f : Findings) : List Line :=
  verifyLines mac f ++ (recordLines mac st f ++ [.call (.configureLink mac address)])

theorem convergeLines_eq : convergeLines key mac address st f =
    connectLines mac address st f ++ routeLines key mac (latest st f) f := by
  simp only [convergeLines, connectLines, List.append_assoc]

theorem callsOf_append (lines more : List Line) : callsOf (lines ++ more) = callsOf lines ++ callsOf more :=
  List.filterMap_append

theorem callsOf_connectLines : callsOf (connectLines mac address st f) =
    [.readMetadata, .linkName mac] ++
      ((if writesName st f then [.writeStatus (st.nic.withLinkName f.linkName)] else []) ++
        [.configureLink mac address]) := by
  unfold connectLines verifyLines
  rw [recordLines_eq]
  split <;> rfl

/-- No call before the routing step is about the routes, and the step works with the copy got last. -/
theorem connect_routing (mac : String) (address : Network) (st : PassState) {lines : List Line}
    (apart : ∀ c ∈ callsOf lines, c.ofRouting = false) (handed : f.Hands nic (callsOf lines) st.nic) :
    (∀ c ∈ callsOf (lines ++ connectLines mac address st f), c.ofRouting = false) ∧
      f.Hands nic (callsOf (lines ++ connectLines mac address st f)) (latest st f) := by
  rw [callsOf_append, callsOf_connectLines, List.forall_mem_append]
  unfold latest
  by_cases writes : writesName st f = true
  · rw [if_pos writes, if_pos writes]
    refine ⟨⟨apart, by simp [Call.ofRouting]⟩, ?_⟩
    exact .recorded (st.nic.withLinkName f.linkName) (by simp)
  · rw [if_neg writes, if_neg writes]
    exact ⟨⟨apart, by simp [Call.ofRouting]⟩, handed.mono (List.subset_append_left _ _)⟩

/-- A script is one without calls about the routes, and after that the routing step or nothing. -/
theorem script_routing (parsed : addressOf nic = .ok address) (settings : Settings) (key : ObjectKey) (mac : String)
    (f : Findings) :
    ∃ before routing, script settings key nic mac f = before ++ routing ∧
      (∀ c ∈ callsOf before, c.ofRouting = false) ∧
      (routing = [] ∨ ∃ copy, f.Hands nic (callsOf before) copy ∧ routing = routeLines key mac copy f) := by
  rw [script_of_address parsed]
  by_cases releases : (nic.isTerminating && nic.hasFinalizer) = true
  · rw [if_pos releases]
    have apart : ∀ c ∈ callsOf (releaseLines mac address nic), c.ofRouting = false := by
      simp [callsOf, releaseLines, Call.ofRouting]
    cases short : settings.endAfterTearDown with
    | true => exact ⟨releaseLines mac address nic, [], by simp, apart, .inl rfl⟩
    | false =>
        have handed : f.Hands nic (callsOf (releaseLines mac address nic)) f.written :=
          .released _ (List.mem_cons_of_mem _ List.mem_cons_self)
        obtain ⟨apart, handed⟩ := connect_routing mac address ⟨f.written, true⟩ apart handed
        exact ⟨_, _, by simp [convergeLines_eq], apart, .inr ⟨_, handed, rfl⟩⟩
  · rw [if_neg releases]
    have none : ∀ c ∈ callsOf [], c.ofRouting = false := List.forall_mem_nil _
    have handed : f.Hands nic (callsOf []) nic := .read
    obtain ⟨apart, handed⟩ := connect_routing mac address ⟨nic, false⟩ none handed
    exact ⟨_, _, convergeLines_eq, apart, .inr ⟨_, handed, rfl⟩⟩

/-- A copy that a pass goes on with is one that it has been given. -/
theorem Findings.Hands.givenCopy {lines : List Line} {first : List Event} {copy : NetworkInterface}
    (hands : f.Hands nic (callsOf lines) copy) (through : Course f () lines first (.ok ()))
    (found : ⟨.readInterface key.name, .ok (some nic)⟩ ∈ events) (sub : first ⊆ events) : GivenCopy events copy := by
  obtain ⟨calls, gives, -⟩ := through.eq_ok_iff.mp rfl
  rw [← calls] at hands
  cases hands with
  | read => exact .read found
  | released copy written =>
      obtain ⟨⟨c, answer⟩, mem, rfl⟩ := List.mem_map.mp written
      obtain rfl : answer = .ok f.written := gives _ mem
      exact .released (sub mem)
  | recorded copy written =>
      obtain ⟨⟨c, answer⟩, mem, rfl⟩ := List.mem_map.mp written
      obtain rfl : answer = .ok f.recorded := gives _ mem
      exact .recorded (sub mem)

/-- A pass that gets to a network handles its routes. -/
theorem handles_of_course (parsed : addressOf nic = .ok address)
    (course : Course f .done (script settings key nic mac f) events result)
    (reached : ⟨.readNetwork owner, .ok (some network)⟩ ∈ events) :
    (∃ copy, GivenCopy (⟨.readInterface key.name, .ok (some nic)⟩ :: events) copy ∧
        copy.ownerNetwork? = some owner) ∧
      Handles network result (∀ event ∈ events, event.1.syncs = false) (SyncsLast mac result events) := by
  obtain ⟨before, routing, split, apart, routed⟩ := script_routing parsed settings key mac f
  have early {first : List Event} {r : Except KeeperError Unit} (course : Course f () before first r) :
      ∀ event ∈ first, event.1.ofRouting = false :=
    fun event mem => apart event.1 (course.calls_prefix.subset (List.mem_map_of_mem mem))
  rw [split] at course
  rcases course.append_cases (b := ()) with ⟨e, fails, -⟩ | ⟨first, rest, rfl, through, later⟩
  · cases early fails _ reached
  · rcases List.mem_append.mp reached with mem | mem
    · cases early through _ mem
    · rcases routed with rfl | ⟨copy, handed, rfl⟩
      · obtain ⟨rfl, -⟩ := course_nil_iff.mp later
        cases mem
      · obtain ⟨owned, handles⟩ := handles_of_routeLines later mem
        refine ⟨⟨copy, ?_, owned⟩, handles.append fun event own => Call.syncs_eq_false_of (early through event own)⟩
        refine handed.givenCopy through List.mem_cons_self ?_
        exact fun event own => List.mem_cons_of_mem _ (List.mem_append_left _ own)

/-! ### Whole passes -/

/-- The pass has found an interface of its node with this hardware address, and has been given a copy of it that
belongs to the network. -/
structure Aims (settings : Settings) (key : ObjectKey) (mac owner : String) (events : List Event) : Prop where
  found : ∃ nic, ⟨.readInterface key.name, .ok (some nic)⟩ ∈ events ∧ nic.spec.nodeName = settings.nodeName ∧
    nic.macAddress? = some mac
  owned : ∃ copy, GivenCopy events copy ∧ copy.ownerNetwork? = some owner

/-- A pass that gets to a network handles its routes, for the link of its interface. -/
theorem handles_of_path (path : Path (reconcile settings key) events result)
    (reached : ⟨.readNetwork owner, .ok (some network)⟩ ∈ events) :
    ∃ mac, Aims settings key mac owner events ∧
      Handles network result (∀ event ∈ events, event.1.syncs = false) (SyncsLast mac result events) := by
  obtain ⟨found, rest, rfl, follows⟩ := path_reconcile path
  have later : ⟨.readNetwork owner, .ok (some network)⟩ ∈ rest := by
    rcases List.mem_cons.mp reached with same | mem
    · cases same
    · exact mem
  rcases follows.idle_or_attends with rfl | ⟨nic, mac, address, f, ⟨rfl, here, known, parsed⟩, course⟩
  · cases later
  · obtain ⟨owned, handles⟩ := handles_of_course parsed course later
    refine ⟨mac, ⟨⟨nic, List.mem_cons_self, here, known⟩, owned⟩, ?_⟩
    exact handles.cons rfl

end Routing

/-! ### Passes on a host -/

/-- What a pass on a host has asked the store and the metadata service. -/
def askedOf (events : List NodeEvent) : List Event :=
  events.filterMap fun
    | ⟨.ask c, answer⟩ => some ⟨c, answer⟩
    | ⟨.command _, _⟩ => none

theorem mem_askedOf {c : Call} {answer : c.Answer} {events : List NodeEvent} (mem : ⟨.ask c, answer⟩ ∈ events) :
    ⟨c, answer⟩ ∈ askedOf events := List.mem_filterMap.mpr ⟨_, mem, rfl⟩

section Expanded

variable {settings : Settings} {key : ObjectKey} {mac owner : String} {network : PrivateNetwork}
  {asked : List Event} {events : List NodeEvent} {result : Except KeeperError Outcome}

theorem Aims.of_expands (aims : Aims settings key mac owner asked)
    (expands : Program.Expands Call.onNode asked events) : Aims settings key mac owner (askedOf events) := by
  obtain ⟨⟨nic, found, here, known⟩, copy, given, owned⟩ := aims
  refine ⟨⟨nic, mem_askedOf (told_of_expands rfl expands found), here, known⟩, copy, ?_, owned⟩
  cases given with
  | read answered => exact .read (mem_askedOf (told_of_expands rfl expands answered))
  | released answered => exact .released (mem_askedOf (told_of_expands rfl expands answered))
  | recorded answered => exact .recorded (mem_askedOf (told_of_expands rfl expands answered))

theorem SyncsLast.of_expands {routes : List Route} (syncs : SyncsLast mac result asked routes)
    (expands : Program.Expands Call.onNode asked events) : SyncsLastOnHost mac result events routes := by
  obtain ⟨earlier, reply, rfl, once, ended⟩ := syncs
  obtain ⟨first, rest, rfl, early, late⟩ := expands.of_append
  cases late with
  | @cons _ _ own rest _ taken onward =>
      cases onward
      obtain ⟨commands, path, rfl⟩ := path_onNode taken
      exact ⟨first, commands, reply, by rw [List.append_nil], routeless_of_expands early once, path, ended⟩

theorem Handles.of_expands
    (handles : Handles network result (∀ event ∈ asked, event.1.syncs = false) (SyncsLast mac result asked))
    (expands : Program.Expands Call.onNode asked events) :
    Handles network result (∀ event ∈ events, event.1.aboutRoutes = false) (SyncsLastOnHost mac result events) := by
  cases handles with
  | withheld declared unreadable told fails data untouched =>
      exact .withheld declared unreadable told fails data (routeless_of_expands expands untouched)
  | applied readable told given => exact .applied readable told (given.of_expands expands)

end Expanded

/-- The routes of a network can be read just when the texts of each entry can; they are then one route per entry, and
else the first text that cannot be read is told. Every pass that gets to a network either gives its link exactly these
routes in its last call, or fails for what is declared without that call. On a host it then runs no command about
routes, not even one that reads them, whatever the commands and the other questions are answered with. -/
theorem routes_whole_or_not_at_all :
    (∀ network : PrivateNetwork, ReadsDeclared network (desiredRoutes network) ∧
      ((∃ routes, desiredRoutes network = .ok routes) ↔ ∀ r ∈ network.spec.routes, r.Readable)) ∧
    (∀ {σ : Type} (settings : Settings) (key : ObjectKey) (answer : (c : Call) → σ → c.Answer × σ) (s : σ)
        (owner : String) (network : PrivateNetwork),
      let events := Program.trace answer (reconcile settings key).run s
      let result := (Program.run answer (reconcile settings key).run s).1
      ⟨.readNetwork owner, .ok (some network)⟩ ∈ events → ∃ mac, Aims settings key mac owner events ∧
        Handles network result (∀ event ∈ events, event.1.syncs = false) (SyncsLast mac result events)) ∧
    ∀ {σ : Type} (settings : Settings) (key : ObjectKey) (answer : (q : NodeCall) → σ → q.Answer × σ) (s : σ)
        (owner : String) (network : PrivateNetwork),
      let events := Program.trace answer (hosted settings key) s
      let result := (Program.run answer (hosted settings key) s).1
      ⟨.ask (.readNetwork owner), .ok (some network)⟩ ∈ events → ∃ mac,
        Aims settings key mac owner (askedOf events) ∧
          Handles network result (∀ event ∈ events, event.1.aboutRoutes = false)
            (SyncsLastOnHost mac result events) := by
  refine ⟨fun network => ⟨desiredRoutes_reads network, desiredRoutes_ok_iff⟩, ?_, ?_⟩
  · intro σ settings key answer s owner network events result reached
    exact handles_of_path (Program.path_run answer _ s) reached
  · intro σ settings key answer s owner network events result reached
    obtain ⟨asked, path, expands⟩ := Program.path_expand (Program.path_run answer (hosted settings key) s)
    obtain ⟨mac, aims, handles⟩ := handles_of_path path (asked_of_expands expands reached)
    exact ⟨mac, aims.of_expands expands, handles.of_expands expands⟩

/-- A network whose second route has no gateway that can be read. -/
def strayNetwork : PrivateNetwork :=
  ⟨{ ObjectMeta.blank with name := some "net-a", resourceVersion := some "1" },
    ⟨none, [⟨"10.0.0.0/8", "192.168.0.1"⟩, ⟨" 10.1.0.0/16", "192.168.0"⟩]⟩⟩

/-- The node of an interface in this network, on which everything works. -/
def strayWorld : World :=
  { departingWorld with store := (MemoryStore.empty.putNetwork strayNetwork).put lingering }

set_option maxRecDepth 8000 in
theorem stray_route_withholds_all :
    let events := strayWorld.trace departingSettings departingKey
    (strayWorld.reconcile departingSettings departingKey).1 = .error (.invalidRoute "net-a" .via "192.168.0") ∧
      ∀ event ∈ events, event.1.syncs = false := by
  intro events
  have reached : ⟨.readNetwork "net-a", .ok (some strayNetwork)⟩ ∈ events := List.mem_of_getElem? (i := 7) rfl
  have told : desiredRoutes strayNetwork = .error (.invalidRoute "net-a" .via "192.168.0") := rfl
  obtain ⟨mac, -, handles⟩ :=
    routes_whole_or_not_at_all.2.1 departingSettings departingKey World.answer strayWorld "net-a" strayNetwork reached
  cases handles with
  | withheld _ _ same fails _ untouched =>
      cases told.symm.trans same
      exact ⟨fails, untouched⟩
  | applied _ same _ => cases told.symm.trans same

end Pass

end LinkKeeper
