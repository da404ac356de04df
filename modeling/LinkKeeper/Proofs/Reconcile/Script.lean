import LinkKeeper.Proofs.Reconcile.Paths

/-!
The script of a pass: which calls it makes, in which order, and where it can stop.

* `Pass.script`: the calls and checks of a pass over an object, told by what the object declares and
  by what the calls give.
* `Pass.Course`: a pass goes through a script up to the first call or check that fails.
* `Pass.path_reconcile`: every pass goes through its script, whatever its calls are answered with.
* `NetworkInterface.Told`: what the conditions in a script say of the fields of the interface.
* `Pass.trace_follows_script`: so does every run.
-/

namespace LinkKeeper

open Net

/-! ### What is told of an interface -/

namespace NetworkInterface

/-- What the conditions of a pass say of the fields of an interface. -/
structure Told (nic : NetworkInterface) : Prop where
  macAddress : ∀ mac, nic.macAddress? = some mac ↔ nic.status.bind InterfaceStatus.macAddress = some mac ∧ mac ≠ ""
  linkName : ∀ name, nic.linkName? = some name ↔ nic.status.bind InterfaceStatus.linkName = some name ∧ name ≠ ""
  isTerminating : nic.isTerminating = true ↔ nic.metadata.deletionTimestamp ≠ none
  hasFinalizer : nic.hasFinalizer = true ↔ ∃ l, nic.metadata.finalizers = some l ∧ interfaceFinalizer ∈ l
  /-- The network is that of the first owner of its kind. -/
  ownerNetwork : ∀ owner, nic.ownerNetwork? = some owner ↔
    ∃ earlier r later, nic.metadata.ownerReferences = some (earlier ++ r :: later) ∧ r.kind = networkKind ∧
      r.name = owner ∧ ∀ q ∈ earlier, q.kind ≠ networkKind
  address : ∀ address, addressOf nic = .ok address ↔
    Network.parse? (Text.trim nic.spec.address.toList) = some address
  malformed : ∀ e, addressOf nic = .error e ↔ Network.parse? (Text.trim nic.spec.address.toList) = none ∧
    e = .invalidAddress (nic.metadata.name.getD "") nic.spec.address

theorem nonempty_eq_some_iff {s : Option String} {t : String} : nonempty s = some t ↔ s = some t ∧ t ≠ "" := by
  simp [nonempty, Option.filter_eq_some_iff]

theorem hasFinalizer_iff {nic : NetworkInterface} :
    nic.hasFinalizer = true ↔ ∃ l, nic.metadata.finalizers = some l ∧ interfaceFinalizer ∈ l := by
  unfold hasFinalizer
  cases nic.metadata.finalizers <;> simp

theorem ownerNetwork?_eq_some_iff {nic : NetworkInterface} {owner : String} :
    nic.ownerNetwork? = some owner ↔
      ∃ earlier r later, nic.metadata.ownerReferences = some (earlier ++ r :: later) ∧ r.kind = networkKind ∧
        r.name = owner ∧ ∀ q ∈ earlier, q.kind ≠ networkKind := by
  unfold ownerNetwork?
  cases nic.metadata.ownerReferences with
  | none => simp
  | some owners =>
      simp only [Option.getD_some, Option.map_eq_some_iff, List.find?_eq_some_iff_append, decide_eq_true_eq,
        Option.some.injEq]
      constructor
      · rintro ⟨r, ⟨kind, earlier, later, rfl, others⟩, rfl⟩
        exact ⟨earlier, r, later, rfl, kind, rfl, by simpa using others⟩
      · rintro ⟨earlier, r, later, rfl, kind, rfl, others⟩
        exact ⟨r, ⟨kind, earlier, later, rfl, by simpa using others⟩, rfl⟩

theorem addressOf_cases (nic : NetworkInterface) :
    (∃ address, Network.parse? (Text.trim nic.spec.address.toList) = some address ∧ addressOf nic = .ok address) ∨
      Network.parse? (Text.trim nic.spec.address.toList) = none ∧
        addressOf nic = .error (.invalidAddress (nic.metadata.name.getD "") nic.spec.address) := by
  unfold addressOf
  cases Network.parse? (Text.trim nic.spec.address.toList) with
  | some address => exact .inl ⟨address, rfl, rfl⟩
  | none => exact .inr ⟨rfl, rfl⟩

theorem told (nic : NetworkInterface) : nic.Told where
  macAddress _ := nonempty_eq_some_iff
  linkName _ := nonempty_eq_some_iff
  isTerminating := Option.isSome_iff_ne_none
  hasFinalizer := hasFinalizer_iff
  ownerNetwork _ := ownerNetwork?_eq_some_iff
  address address := by
    rcases nic.addressOf_cases with ⟨found, read, same⟩ | ⟨unread, same⟩
    · rw [same, read, Except.ok.injEq, Option.some.injEq]
    · simp [same, unread]
  malformed e := by
    rcases nic.addressOf_cases with ⟨found, read, same⟩ | ⟨unread, same⟩
    · simp [same, read]
    · simp [same, unread, eq_comm]

end NetworkInterface

namespace Pass

/-! ### Scripts -/

/-- The error in a result, if it is one. -/
def fault? {ε α : Type} : Except ε α → Option ε
  | .error e => some e
  | .ok _ => none

/-- The error with which a pass ends when a call is answered like this. -/
def Event.failure? : Event → Option KeeperError
  | ⟨.readInterface _, answer⟩ => (fault? answer).map .store
  | ⟨.writeInterface _, answer⟩ => (fault? answer).map .store
  | ⟨.writeStatus _, answer⟩ => (fault? answer).map .store
  | ⟨.readNetwork _, answer⟩ => (fault? answer).map .store
  | ⟨.readMetadata, answer⟩ => (fault? answer).map .metadata
  | ⟨.tearDownLink _ _, answer⟩ => (fault? answer).map .link
  | ⟨.linkName _, answer⟩ => (fault? answer).map .link
  | ⟨.configureLink _ _, answer⟩ => (fault? answer).map .link
  | ⟨.syncRoutes _ _, answer⟩ => (fault? answer).map .link

/-- What the calls of a pass give when they succeed. -/
structure Findings where
  /-- The interface after the release of its finalizer. -/
  written : NetworkInterface
  document : InstanceDocument
  linkName : String
  /-- The interface after the name of its link has been recorded. -/
  recorded : NetworkInterface
  network : Option PrivateNetwork

/-- The call has succeeded and given what is found. -/
def Findings.Gives (f : Findings) : Event → Prop
  | ⟨.readInterface _, answer⟩ => fault? answer = none
  | ⟨.writeInterface _, answer⟩ => answer = .ok f.written
  | ⟨.writeStatus _, answer⟩ => answer = .ok f.recorded
  | ⟨.readNetwork _, answer⟩ => answer = .ok f.network
  | ⟨.readMetadata, answer⟩ => answer = .ok f.document
  | ⟨.tearDownLink _ _, answer⟩ => answer = .ok ()
  | ⟨.linkName _, answer⟩ => answer = .ok f.linkName
  | ⟨.configureLink _ _, answer⟩ => answer = .ok ()
  | ⟨.syncRoutes _ _, answer⟩ => answer = .ok ()

/-- The routes for a link in the network `owner`. -/
def Findings.routes (f : Findings) (owner : String) : Except KeeperError (List Route) :=
  match f.network with
  | none => .error (.noNetwork owner)
  | some network => desiredRoutes network

/-- A line of a script: a call, or a check with the error of a pass that does not stand it. -/
inductive Line where
  | call (c : Call)
  | check (failure : Option KeeperError)

/-- The calls of a script. -/
def callsOf (lines : List Line) : List Call :=
  lines.filterMap fun
    | .call c => some c
    | .check _ => none

/-- The error that stands for a condition, unless it holds. -/
def demand (condition : Bool) (e : KeeperError) : Option KeeperError := if condition then none else some e

/-- The lines that let an interface go: it is written without any occurrence of the finalizer, and else as it is. -/
def releaseLines (mac : String) (address : Network) (nic : NetworkInterface) : List Line :=
  [.call (.tearDownLink mac address),
    .call (.writeInterface
      { nic with metadata.finalizers := nic.metadata.finalizers.map (·.filter (· ≠ interfaceFinalizer)) })]

def verifyLines (mac : String) (f : Findings) : List Line :=
  [.call .readMetadata, .check (demand (f.document.hasInterface mac) (.notAttached mac))]

/-- The name is written after a release, and else when another one is recorded. -/
def writesName (s : PassState) (f : Findings) : Bool :=
  s.released || s.nic.linkName? ≠ some f.linkName

/-- The lines that record the name of a link: the interface is written with that name in its status, and else as it
is. -/
def recordLines (mac : String) (s : PassState) (f : Findings) : List Line :=
  [.call (.linkName mac)] ++
    if writesName s f then
      [.call (.writeStatus
        { s.nic with status := some ⟨s.nic.status.bind InterfaceStatus.macAddress, some f.linkName⟩ })]
    else []

theorem recordLines_eq (mac : String) (s : PassState) (f : Findings) : recordLines mac s f =
    [.call (.linkName mac)] ++
      if writesName s f then [.call (.writeStatus (s.nic.withLinkName f.linkName))] else [] := by
  unfold recordLines
  rw [← s.nic.status_withLinkName f.linkName]
  rfl

/-- The copy of the interface once the name of its link is recorded. -/
def latest (s : PassState) (f : Findings) : NetworkInterface := if writesName s f then f.recorded else s.nic

def routeLines (key : ObjectKey) (mac : String) (nic : NetworkInterface) (f : Findings) : List Line :=
  let owner := nic.ownerNetwork?.getD ""
  [.check (demand nic.ownerNetwork?.isSome (.noOwner key.name)),
    .call (.readNetwork owner),
    .check (fault? (f.routes owner)),
    .call (.syncRoutes mac ((f.routes owner).toOption.getD []))]

/-- The lines that bring a link into the declared state. -/
def convergeLines (key : ObjectKey) (mac : String) (address : Network) (s : PassState) (f : Findings) :
    List Line :=
  verifyLines mac f ++ (recordLines mac s f ++
    ([.call (.configureLink mac address)] ++ routeLines key mac (latest s f) f))

/-- The script of a pass over an interface of this node that has a hardware address. -/
def script (settings : Settings) (key : ObjectKey) (nic : NetworkInterface) (mac : String) (f : Findings) :
    List Line :=
  match addressOf nic with
  | .error e => [.check (some e)]
  | .ok address =>
    if nic.isTerminating && nic.hasFinalizer then
      releaseLines mac address nic ++
        if settings.endAfterTearDown then [] else convergeLines key mac address ⟨f.written, true⟩ f
    else convergeLines key mac address ⟨nic, false⟩ f

/-- A pass goes through the lines: every call gives what is found, and every check is stood, up to the
first that is not; its error is the result, or else what is asked for. -/
inductive Course {α : Type} (f : Findings) (result : α) :
    List Line → List Event → Except KeeperError α → Prop where
  | finished : Course f result [] [] (.ok result)
  | answered {c : Call} {answer : c.Answer} {lines : List Line} {events : List Event}
      {r : Except KeeperError α} (gives : f.Gives ⟨c, answer⟩)
      (onward : Course f result lines events r) :
      Course f result (.call c :: lines) (⟨c, answer⟩ :: events) r
  | failed {c : Call} {answer : c.Answer} {lines : List Line} {e : KeeperError}
      (failure : Event.failure? ⟨c, answer⟩ = some e) :
      Course f result (.call c :: lines) [⟨c, answer⟩] (.error e)
  | passed {lines : List Line} {events : List Event} {r : Except KeeperError α}
      (onward : Course f result lines events r) : Course f result (.check none :: lines) events r
  | refused {lines : List Line} {e : KeeperError} :
      Course f result (.check (some e) :: lines) [] (.error e)

/-- A pass performs a script: its calls are the first of the script, each but the last gives what is
found, and it is done just when it gets through the script; else it ends with the error of the first
call or check that fails. -/
structure Performs (f : Findings) (lines : List Line) (events : List Event)
    (result : Except KeeperError Outcome) : Prop where
  course : Course f .done lines events result
  calls : events.map Sigma.fst <+: callsOf lines
  succeeded : ∀ event ∈ events.dropLast, f.Gives event
  done_iff : result = .ok .done ↔
    events.map Sigma.fst = callsOf lines ∧ (∀ event ∈ events, f.Gives event) ∧
      ∀ failure, Line.check failure ∈ lines → failure = none

/-! ### What a course amounts to -/

theorem Findings.Gives.failure?_eq_none {f : Findings} {event : Event} (gives : f.Gives event) :
    event.failure? = none := by
  obtain ⟨c, answer⟩ := event
  cases c with
  | readInterface name =>
      have : fault? answer = none := gives
      simp [Event.failure?, this]
  | writeInterface | writeStatus | readNetwork | readMetadata | tearDownLink | linkName | configureLink
    | syncRoutes =>
      cases gives
      rfl

namespace Course

variable {α β : Type} {f : Findings} {a : α} {b : β} {lines more : List Line} {events later : List Event}
  {r : Except KeeperError α} {q : Except KeeperError β} {e : KeeperError}

/-- One script after another. -/
theorem append (first : Course f a lines events (.ok a)) (second : Course f b more later q) :
    Course f b (lines ++ more) (events ++ later) q := by
  generalize outcome : Except.ok a = r at first
  induction first with
  | finished => exact second
  | answered gives _ ih => exact .answered gives (ih outcome)
  | failed => cases outcome
  | passed _ ih => exact .passed (ih outcome)
  | refused => cases outcome

/-- A script that is not gone through ends every longer one. -/
theorem append_error (first : Course f a lines events (.error e)) :
    Course f b (lines ++ more) events (.error e) := by
  generalize outcome : Except.error e = r at first
  induction first with
  | finished => cases outcome
  | answered gives _ ih => exact .answered gives (ih outcome)
  | failed failure =>
      cases outcome
      exact .failed failure
  | passed _ ih => exact .passed (ih outcome)
  | refused =>
      cases outcome
      exact .refused

/-- A course of two scripts ends within the first, or goes through it and on with the second. -/
theorem append_cases {lines : List Line} {events : List Event} (course : Course f a (lines ++ more) events r) :
    (∃ e, Course f b lines events (.error e) ∧ r = .error e) ∨
      ∃ first rest, events = first ++ rest ∧ Course f b lines first (.ok b) ∧ Course f a more rest r := by
  induction lines generalizing events with
  | nil => exact .inr ⟨[], events, rfl, .finished, course⟩
  | cons line lines ih =>
      cases course with
      | answered gives onward =>
          rcases ih onward with ⟨e, fails, same⟩ | ⟨first, rest, rfl, through, later⟩
          · exact .inl ⟨e, .answered gives fails, same⟩
          · exact .inr ⟨_ :: first, rest, rfl, .answered gives through, later⟩
      | failed failure => exact .inl ⟨_, .failed failure, rfl⟩
      | passed onward =>
          rcases ih onward with ⟨e, fails, same⟩ | ⟨first, rest, rfl, through, later⟩
          · exact .inl ⟨e, .passed fails, same⟩
          · exact .inr ⟨first, rest, rfl, .passed through, later⟩
      | refused => exact .inl ⟨_, .refused, rfl⟩

/-- The calls of a course are the first of its script. -/
theorem calls_prefix (course : Course f a lines events r) :
    events.map Sigma.fst <+: callsOf lines := by
  induction course with
  | finished => exact List.prefix_refl _
  | answered _ _ ih => exact List.prefix_cons_inj _ |>.mpr ih
  | failed => exact List.prefix_cons_inj _ |>.mpr (List.nil_prefix)
  | passed _ ih => exact ih
  | refused => exact List.nil_prefix

/-- Every call of a course but the last has succeeded. -/
theorem gives_of_mem_dropLast (course : Course f a lines events r) :
    ∀ event ∈ events.dropLast, f.Gives event := by
  induction course with
  | finished => simp
  | failed => simp
  | answered gives _ ih =>
      intro event mem
      rename_i events _ _
      cases events with
      | nil => simp at mem
      | cons next others =>
          rw [List.dropLast_cons_cons] at mem
          rcases List.mem_cons.mp mem with rfl | mem
          · exact gives
          · exact ih event mem
  | passed _ ih => exact ih
  | refused => simp

/-- A course for another result. -/
theorem map (course : Course f a lines events r) : Course f b lines events (r.map fun _ => b) := by
  induction course with
  | finished => exact .finished
  | answered gives _ ih => exact .answered gives ih
  | failed failure => exact .failed failure
  | passed _ ih => exact .passed ih
  | refused => exact .refused

/-- A course that succeeds ends with what is asked for. -/
theorem eq_of_ok {x : α} (course : Course f a lines events (.ok x)) : x = a := by
  generalize outcome : Except.ok x = r at course
  induction course with
  | finished => exact Except.ok.inj outcome
  | answered _ _ ih => exact ih outcome
  | failed => cases outcome
  | passed _ ih => exact ih outcome
  | refused => cases outcome

/-- A course succeeds just when it makes all the calls of its script and everything goes well. -/
theorem eq_ok_iff (course : Course f a lines events r) :
    r = .ok a ↔
      events.map Sigma.fst = callsOf lines ∧ (∀ event ∈ events, f.Gives event) ∧
        ∀ failure, Line.check failure ∈ lines → failure = none := by
  induction course with
  | finished => simp [callsOf]
  | answered gives _ ih =>
      rw [ih]
      simp [callsOf, gives]
  | failed failure =>
      refine iff_of_false (fun same => nomatch same) ?_
      rintro ⟨-, gives, -⟩
      have none := (gives _ (List.mem_singleton.mpr rfl)).failure?_eq_none
      rw [failure] at none
      cases none
  | passed _ ih =>
      rw [ih]
      simp [callsOf]
  | refused =>
      refine iff_of_false (fun same => nomatch same) ?_
      rintro ⟨-, -, checks⟩
      cases checks _ (List.mem_cons_self)

/-- After a call that has failed there is nothing but its error. -/
theorem eq_error_of_failure {event : Event} {earlier : List Event} (course : Course f a lines events r)
    (split : events = earlier ++ event :: later) (failure : event.failure? = some e) :
    later = [] ∧ r = .error e := by
  induction course generalizing earlier with
  | finished => exact absurd split (by simp)
  | answered gives _ ih =>
      cases earlier with
      | nil =>
          obtain ⟨rfl, rfl⟩ := List.cons.inj split
          have none := gives.failure?_eq_none
          rw [failure] at none
          cases none
      | cons first others => exact ih (List.cons.inj split).2
  | failed found =>
      cases earlier with
      | nil =>
          obtain ⟨rfl, rfl⟩ := List.cons.inj split
          rw [failure] at found
          exact ⟨rfl, by rw [Option.some.inj found]⟩
      | cons first others => exact absurd (List.cons.inj split).2 (by simp)
  | passed _ ih => exact ih split
  | refused => exact absurd split (by simp)

/-- What a course of a pass amounts to. -/
theorem performs {result : Except KeeperError Outcome} (course : Course f .done lines events result) :
    Performs f lines events result where
  course := course
  calls := course.calls_prefix
  succeeded := course.gives_of_mem_dropLast
  done_iff := course.eq_ok_iff

end Course

/-! ### Every pass goes through its script -/

section Steps

variable {key : ObjectKey} {mac : String} {address : Network} {s : PassState} {events : List Event}
  {r : Except KeeperError PassState}

theorem course_tearDownLink (path : Path (step key mac address s .tearDownLink) events r) (f : Findings) :
    Course f s [.call (.tearDownLink mac address)] events r := by
  obtain ⟨q, called, rfl⟩ := path_replace path
  obtain ⟨answer, asked, rfl⟩ := path_call_iff.mp called
  obtain rfl := Program.path_query_iff.mp asked
  cases answer with
  | error e => exact .failed rfl
  | ok => exact .answered rfl .finished

theorem course_release (path : Path (step key mac address s .releaseFinalizer) events r) :
    ∃ written, ∀ f : Findings, f.written = written →
      Course f ⟨f.written, true⟩ [.call (.writeInterface s.nic.withoutFinalizer)] events r := by
  rcases path_call_bind_iff.mp path with ⟨e, asked, rfl⟩ | ⟨written, first, rest, rfl, asked, onward⟩
  · obtain rfl := Program.path_query_iff.mp asked
    exact ⟨s.nic, fun f _ => .failed rfl⟩
  · obtain rfl := Program.path_query_iff.mp asked
    obtain ⟨rfl, rfl⟩ := path_pure_iff.mp onward
    refine ⟨written, fun f found => ?_⟩
    subst found
    exact .answered rfl .finished

theorem course_verify (path : Path (step key mac address s .verifyAttached) events r) :
    ∃ document, ∀ f : Findings, f.document = document → Course f s (verifyLines mac f) events r := by
  obtain ⟨q, verified, rfl⟩ := path_replace path
  rcases path_call_bind_iff.mp verified with ⟨e, asked, rfl⟩ | ⟨document, first, rest, rfl, asked, onward⟩
  · obtain rfl := Program.path_query_iff.mp asked
    exact ⟨⟨none, none, []⟩, fun f _ => .failed rfl⟩
  · obtain rfl := Program.path_query_iff.mp asked
    refine ⟨document, fun f found => .map (a := ()) ?_⟩
    subst found
    by_cases attached : f.document.hasInterface mac = true
    · rw [if_pos attached] at onward
      obtain ⟨rfl, rfl⟩ := path_pure_iff.mp onward
      unfold verifyLines demand
      rw [if_pos attached]
      exact .answered rfl (.passed .finished)
    · rw [if_neg attached] at onward
      obtain ⟨rfl, rfl⟩ := path_throw_iff.mp onward
      unfold verifyLines demand
      rw [if_neg attached]
      exact .answered rfl .refused

theorem writesName_iff {f : Findings} :
    writesName s f = true ↔ ¬ (!s.released && s.nic.linkName? = some f.linkName) = true := by
  cases released : s.released <;> simp [writesName, released]

theorem course_recordLinkName (path : Path (step key mac address s .recordLinkName) events r) :
    ∃ linkName recorded, ∀ f : Findings, f.linkName = linkName → f.recorded = recorded →
      Course f { s with nic := latest s f } (recordLines mac s f) events r := by
  rcases path_call_bind_iff.mp path with ⟨e, asked, rfl⟩ | ⟨linkName, first, rest, rfl, asked, onward⟩
  · obtain rfl := Program.path_query_iff.mp asked
    exact ⟨"", s.nic, fun f _ _ => .failed rfl⟩
  · obtain rfl := Program.path_query_iff.mp asked
    by_cases skip : (!s.released && s.nic.linkName? = some linkName) = true
    · rw [if_pos skip] at onward
      obtain ⟨rfl, rfl⟩ := path_pure_iff.mp onward
      refine ⟨linkName, s.nic, fun f found _ => ?_⟩
      subst found
      have kept : ¬ writesName s f = true := fun writes => writesName_iff.mp writes skip
      unfold latest
      rw [recordLines_eq, if_neg kept, if_neg kept]
      exact .answered rfl .finished
    · rw [if_neg skip] at onward
      rcases path_call_bind_iff.mp onward with ⟨e, asked, rfl⟩ | ⟨recorded, early, late, rfl, asked, ended⟩
      · obtain rfl := Program.path_query_iff.mp asked
        refine ⟨linkName, s.nic, fun f found _ => ?_⟩
        subst found
        rw [recordLines_eq, if_pos (writesName_iff.mpr skip)]
        exact .answered rfl (.failed rfl)
      · obtain rfl := Program.path_query_iff.mp asked
        obtain ⟨rfl, rfl⟩ := path_pure_iff.mp ended
        refine ⟨linkName, recorded, fun f found foundRecorded => ?_⟩
        subst found foundRecorded
        unfold latest
        rw [recordLines_eq, if_pos (writesName_iff.mpr skip), if_pos (writesName_iff.mpr skip)]
        exact .answered rfl (.answered rfl .finished)

theorem course_configureLink (path : Path (step key mac address s .configureLink) events r) (f : Findings) :
    Course f s [.call (.configureLink mac address)] events r := by
  obtain ⟨q, called, rfl⟩ := path_replace path
  obtain ⟨answer, asked, rfl⟩ := path_call_iff.mp called
  obtain rfl := Program.path_query_iff.mp asked
  cases answer with
  | error e => exact .failed rfl
  | ok => exact .answered rfl .finished

theorem course_syncRoutes (path : Path (step key mac address s .syncRoutes) events r) :
    ∃ network, ∀ f : Findings, f.network = network → Course f s (routeLines key mac s.nic f) events r := by
  obtain ⟨q, synced, rfl⟩ := path_replace path
  unfold syncNetworkRoutes at synced
  unfold routeLines
  cases owned : s.nic.ownerNetwork? with
  | none =>
      rw [owned] at synced
      obtain ⟨rfl, rfl⟩ := path_throw_iff.mp synced
      exact ⟨none, fun f _ => .refused⟩
  | some owner =>
      rw [owned] at synced
      rcases path_call_bind_iff.mp synced with ⟨e, asked, rfl⟩ | ⟨network, first, rest, rfl, asked, onward⟩
      · obtain rfl := Program.path_query_iff.mp asked
        exact ⟨none, fun f _ => .passed (.failed rfl)⟩
      · obtain rfl := Program.path_query_iff.mp asked
        refine ⟨network, fun f found => .passed (.answered (congrArg Except.ok found.symm) ?_)⟩
        cases network with
        | none =>
            obtain ⟨rfl, rfl⟩ := path_throw_iff.mp onward
            have routes : f.routes owner = .error (.noNetwork owner) := by
              unfold Findings.routes
              rw [found]
            rw [Option.getD_some, routes]
            exact .refused
        | some network =>
            have routes : f.routes owner = desiredRoutes network := by
              unfold Findings.routes
              rw [found]
            rw [Option.getD_some, routes]
            dsimp only at onward
            cases declared : desiredRoutes network with
            | error e =>
                rw [declared] at onward
                obtain ⟨rfl, rfl⟩ := path_throw_iff.mp onward
                exact .refused
            | ok routes =>
                rw [declared] at onward
                obtain ⟨answer, asked, rfl⟩ := path_call_iff.mp onward
                obtain rfl := Program.path_query_iff.mp asked
                refine .passed ?_
                cases answer with
                | error e => exact .failed rfl
                | ok => exact .answered rfl .finished

theorem course_releaseSteps (path : Path (steps key mac address s releaseSteps) events r) :
    ∃ written, ∀ f : Findings, f.written = written →
      Course f ⟨f.written, true⟩ (releaseLines mac address s.nic) events r := by
  rcases path_bind_iff.mp path with ⟨e, taken, rfl⟩ | ⟨t, first, rest, rfl, taken, onward⟩
  · exact ⟨s.nic, fun f _ => (course_tearDownLink taken f).append_error⟩
  · have released : Path (step key mac address t .releaseFinalizer) rest r := path_bind_pure onward
    obtain ⟨written, course⟩ := course_release released
    refine ⟨written, fun f found => ?_⟩
    obtain rfl := (course_tearDownLink taken f).eq_of_ok
    exact (course_tearDownLink taken f).append (course f found)

/-- The last two steps. -/
theorem course_connect (path : Path (steps key mac address s [.configureLink, .syncRoutes]) events r) :
    ∃ network, ∀ f : Findings, f.network = network →
      Course f s ([.call (.configureLink mac address)] ++ routeLines key mac s.nic f) events r := by
  rcases path_bind_iff.mp path with ⟨e, configured, rfl⟩ | ⟨t, first, rest, rfl, configured, onward⟩
  · exact ⟨none, fun f _ => (course_configureLink configured f).append_error⟩
  · have synced : Path (step key mac address t .syncRoutes) rest r := path_bind_pure onward
    obtain ⟨network, course⟩ := course_syncRoutes synced
    refine ⟨network, fun f found => ?_⟩
    obtain rfl := (course_configureLink configured f).eq_of_ok
    exact (course_configureLink configured f).append (course f found)

/-- The last three steps. -/
theorem course_record_connect
    (path : Path (steps key mac address s [.recordLinkName, .configureLink, .syncRoutes]) events r) :
    ∃ linkName recorded network, ∀ f : Findings,
      f.linkName = linkName → f.recorded = recorded → f.network = network →
        Course f { s with nic := latest s f }
          (recordLines mac s f ++
            ([.call (.configureLink mac address)] ++ routeLines key mac (latest s f) f)) events r := by
  rcases path_bind_iff.mp path with ⟨e, resolved, rfl⟩ | ⟨t, first, rest, rfl, resolved, onward⟩
  · obtain ⟨linkName, recorded, course⟩ := course_recordLinkName resolved
    exact ⟨linkName, recorded, none, fun f name copy _ => (course f name copy).append_error⟩
  · obtain ⟨linkName, recorded, course⟩ := course_recordLinkName resolved
    obtain ⟨network, connected⟩ := course_connect onward
    refine ⟨linkName, recorded, network, fun f name copy routes => ?_⟩
    obtain rfl := (course f name copy).eq_of_ok
    exact (course f name copy).append (connected f routes)

theorem course_convergeSteps (path : Path (steps key mac address s convergeSteps) events r) :
    ∃ document linkName recorded network, ∀ f : Findings,
      f.document = document → f.linkName = linkName → f.recorded = recorded → f.network = network →
        Course f { s with nic := latest s f } (convergeLines key mac address s f) events r := by
  rcases path_bind_iff.mp path with ⟨e, verified, rfl⟩ | ⟨t, first, rest, rfl, verified, onward⟩
  · obtain ⟨document, course⟩ := course_verify verified
    exact ⟨document, "", s.nic, none, fun f attached _ _ _ => (course f attached).append_error⟩
  · obtain ⟨document, course⟩ := course_verify verified
    obtain ⟨linkName, recorded, network, connected⟩ := course_record_connect onward
    refine ⟨document, linkName, recorded, network, fun f attached name copy routes => ?_⟩
    obtain rfl := (course f attached).eq_of_ok
    exact (course f attached).append (connected f name copy routes)

end Steps

/-! ### The whole pass -/

/-- What a pass does once it has asked for the interface: nothing if that cannot be read, is gone or is
of another node, nothing but to wait if it has no hardware address, and else what its script says. -/
def Follows (settings : Settings) (key : ObjectKey) (events : List Event)
    (result : Except KeeperError Outcome) : Except StoreError (Option NetworkInterface) → Prop
  | .error e => events = [] ∧ result = .error (.store e)
  | .ok none => events = [] ∧ result = .ok .done
  | .ok (some nic) =>
    if nic.spec.nodeName ≠ settings.nodeName then events = [] ∧ result = .ok .done
    else
      match nic.macAddress? with
      | none => events = [] ∧ result = .ok (.requeueAfter settings.addressWait)
      | some mac => ∃ f : Findings, Performs f (script settings key nic mac f) events result

section Passes

variable {settings : Settings} {key : ObjectKey} {mac : String} {address : Network}
  {nic : NetworkInterface} {events : List Event}

/-- The steps of a pass over an interface that is let go. -/
theorem course_releasing {ends : Bool} {r : Except KeeperError PassState}
    (path : Path (steps key mac address ⟨nic, false⟩
      (releaseSteps ++ if ends then [] else convergeSteps)) events r) :
    ∃ (f : Findings) (t : PassState), Course f t
      (releaseLines mac address nic ++
        if ends then [] else convergeLines key mac address ⟨f.written, true⟩ f) events r := by
  rw [steps_append] at path
  rcases path_bind_iff.mp path with ⟨e, failed, rfl⟩ | ⟨t, first, rest, rfl, released, onward⟩
  · obtain ⟨written, course⟩ := course_releaseSteps failed
    let f : Findings := ⟨written, ⟨none, none, []⟩, "", nic, none⟩
    exact ⟨f, ⟨nic, false⟩, (course f rfl).append_error⟩
  · obtain ⟨written, course⟩ := course_releaseSteps released
    cases ends with
    | true =>
        obtain ⟨rfl, rfl⟩ := path_pure_iff.mp onward
        let f : Findings := ⟨written, ⟨none, none, []⟩, "", nic, none⟩
        have same : t = ⟨written, true⟩ := (course f rfl).eq_of_ok
        subst same
        exact ⟨f, _, (course f rfl).append .finished⟩
    | false =>
        obtain ⟨document, linkName, recorded, network, converged⟩ := course_convergeSteps onward
        let f : Findings := ⟨written, document, linkName, recorded, network⟩
        have same : t = ⟨written, true⟩ := (course f rfl).eq_of_ok
        subst same
        exact ⟨f, _, (course f rfl).append (converged f rfl rfl rfl rfl)⟩

theorem script_of_address (parsed : addressOf nic = .ok address) (f : Findings) :
    script settings key nic mac f =
      if nic.isTerminating && nic.hasFinalizer then
        releaseLines mac address nic ++
          if settings.endAfterTearDown then [] else convergeLines key mac address ⟨f.written, true⟩ f
      else convergeLines key mac address ⟨nic, false⟩ f := by
  unfold script
  rw [parsed]

/-- The steps that are planned for an interface are those of its script. -/
theorem course_steps {r : Except KeeperError PassState} (parsed : addressOf nic = .ok address)
    (path : Path (steps key mac address ⟨nic, false⟩ (Phase.steps settings nic)) events r) :
    ∃ (f : Findings) (t : PassState), Course f t (script settings key nic mac f) events r := by
  unfold Phase.steps Phase.releases at path
  by_cases releases : (nic.isTerminating && nic.hasFinalizer) = true
  · rw [if_pos releases] at path
    obtain ⟨f, t, course⟩ := course_releasing path
    refine ⟨f, t, ?_⟩
    rw [script_of_address parsed, if_pos releases]
    exact course
  · rw [if_neg releases] at path
    obtain ⟨document, linkName, recorded, network, converged⟩ := course_convergeSteps path
    let f : Findings := ⟨nic, document, linkName, recorded, network⟩
    refine ⟨f, ⟨latest ⟨nic, false⟩ f, false⟩, ?_⟩
    rw [script_of_address parsed, if_neg releases]
    exact converged f rfl rfl rfl rfl

theorem phase_foreign (elsewhere : nic.spec.nodeName ≠ settings.nodeName) :
    Phase.of settings nic = .ok .foreign := if_pos elsewhere

section Local

variable (here : nic.spec.nodeName = settings.nodeName)
include here

theorem phase_awaitingAddress (unknown : nic.macAddress? = none) :
    Phase.of settings nic = .ok .awaitingAddress := by
  unfold Phase.of
  rw [if_neg (not_not_intro here), unknown]

theorem phase_malformed {e : KeeperError} (known : nic.macAddress? = some mac)
    (malformed : addressOf nic = .error e) : Phase.of settings nic = .error e := by
  unfold Phase.of
  rw [if_neg (not_not_intro here), known, malformed]
  rfl

theorem phase_active (known : nic.macAddress? = some mac) (parsed : addressOf nic = .ok address) :
    Phase.of settings nic = .ok (.active ⟨mac, address, Phase.steps settings nic⟩) := by
  unfold Phase.of
  rw [if_neg (not_not_intro here), known, parsed]
  rfl

end Local

/-- Every pass asks for the interface first and then follows its script, whatever its calls are
answered with. -/
theorem path_reconcile {result : Except KeeperError Outcome}
    (path : Path (reconcile settings key) events result) :
    ∃ found rest, events = ⟨.readInterface key.name, found⟩ :: rest ∧
      Follows settings key rest result found := by
  rcases path_call_bind_iff.mp path with ⟨e, asked, rfl⟩ | ⟨found, first, rest, rfl, asked, onward⟩
  · obtain rfl := Program.path_query_iff.mp asked
    exact ⟨.error e, [], rfl, rfl, rfl⟩
  · obtain rfl := Program.path_query_iff.mp asked
    refine ⟨.ok found, rest, rfl, ?_⟩
    cases found with
    | none => exact path_pure_iff.mp onward
    | some nic =>
        unfold Follows
        dsimp only at onward ⊢
        by_cases here : nic.spec.nodeName = settings.nodeName
        · rw [if_neg (not_not_intro here)]
          cases known : nic.macAddress? with
          | none =>
              rw [phase_awaitingAddress here known] at onward
              exact path_pure_iff.mp onward
          | some mac =>
              cases parsed : addressOf nic with
              | error e =>
                  rw [phase_malformed here known parsed] at onward
                  obtain ⟨rfl, rfl⟩ := path_throw_iff.mp onward
                  refine ⟨⟨nic, ⟨none, none, []⟩, "", nic, none⟩, Course.performs ?_⟩
                  unfold script
                  rw [parsed]
                  exact .refused
              | ok address =>
                  rw [phase_active here known parsed] at onward
                  obtain ⟨q, stepped, rfl⟩ := path_replace onward
                  obtain ⟨f, t, course⟩ := course_steps parsed stepped
                  exact ⟨f, course.map.performs⟩
        · rw [if_pos here]
          rw [phase_foreign here] at onward
          exact path_pure_iff.mp onward

/-- Every run of a pass follows its script, whatever the store, the links and the metadata service
answer. The conditions in it look at the fields of the interface that has been read. -/
theorem trace_follows_script {σ : Type} (settings : Settings) (key : ObjectKey)
    (answer : (c : Call) → σ → c.Answer × σ) (s : σ) :
    ∃ found rest,
      Program.trace answer (reconcile settings key).run s = ⟨.readInterface key.name, found⟩ :: rest ∧
        Follows settings key rest (Program.run answer (reconcile settings key).run s).1 found ∧
        ∀ nic : NetworkInterface, nic.Told := by
  obtain ⟨found, rest, traced, follows⟩ := path_reconcile (Program.path_run answer _ s)
  exact ⟨found, rest, traced, follows, fun nic => nic.told⟩

end Passes

end Pass

end LinkKeeper
