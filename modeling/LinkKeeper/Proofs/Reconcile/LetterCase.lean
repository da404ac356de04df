import LinkKeeper.Proofs.Link.LetterCase
import LinkKeeper.Proofs.Store.LetterCase

/-!
The letter case of hardware addresses, and passes.

A pass reads hardware addresses in the status of its interface and in the document of the machine, and hands the first
on to the links. It compares them in one place of its own, without regard to letter case. So two passes whose calls are
answered the same up to letter case make the same calls up to letter case, and end alike.

* `Call.SameUpToCase`, `Pass.SameEvent`: calls, and calls with their answers, that differ in letter case at most.
* `Pass.alike_steps`, `Pass.alike_reconcile`: the steps, and whole passes, whatever their calls are answered with.
* `Pass.alike_hosted`: passes on hosts run the same commands.
-/

namespace LinkKeeper

open Net Program

/-! ### What a pass reads -/

/-- The interface with its hardware address in small letters. -/
def AttachedInterface.folded (a : AttachedInterface) : AttachedInterface :=
  { a with macAddress := foldCase a.macAddress }

namespace InstanceDocument

/-- The document with all hardware addresses in small letters. -/
def folded (d : InstanceDocument) : InstanceDocument :=
  { d with interfaces := d.interfaces.map AttachedInterface.folded }

theorem hasInterface_folded (d : InstanceDocument) (mac : String) : d.folded.hasInterface mac = d.hasInterface mac := by
  simp [hasInterface, folded, AttachedInterface.folded, sameHardwareAddress, Function.comp_def]

theorem hasInterface_congr {d e : InstanceDocument} {mac other : String} (same : d.folded = e.folded)
    (macs : foldCase mac = foldCase other) : d.hasInterface mac = e.hasInterface other := by
  rw [← hasInterface_folded d, same, hasInterface_folded]
  unfold hasInterface sameHardwareAddress
  rw [macs]

end InstanceDocument

namespace KeeperError

/-- The error with the hardware address that it tells in small letters. -/
def folded : KeeperError → KeeperError
  | link e => link e.folded
  | notAttached mac => notAttached (foldCase mac)
  | e => e

/-- How a failed pass is tried again does not depend on letter case. -/
theorem retry_folded (e : KeeperError) : e.folded.retry = e.retry := by
  cases e <;> rfl

end KeeperError

namespace Phase

/-- The phase with its hardware address in small letters. -/
def folded : Phase → Phase
  | active plan => active { plan with macAddress := foldCase plan.macAddress }
  | phase => phase

theorem of_folded (settings : Settings) (nic : NetworkInterface) :
    Phase.of settings nic.folded = (Phase.of settings nic).map folded := by
  unfold Phase.of
  rw [NetworkInterface.macAddress?_folded, NetworkInterface.spec_folded]
  by_cases elsewhere : nic.spec.nodeName ≠ settings.nodeName
  · rw [if_pos elsewhere, if_pos elsewhere]
    rfl
  · rw [if_neg elsewhere, if_neg elsewhere]
    cases nic.macAddress? with
    | none => rfl
    | some mac =>
        have parsed : addressOf nic.folded = addressOf nic := rfl
        rw [Option.map_some, parsed]
        cases addressOf nic <;> rfl

end Phase

/-! ### Calls -/

/-- The calls differ at most in the letter case of hardware addresses. -/
inductive Call.SameUpToCase : Call → Call → Prop where
  | readInterface (name : String) : SameUpToCase (.readInterface name) (.readInterface name)
  | writeInterface {nic other : NetworkInterface} (same : nic.folded = other.folded) :
      SameUpToCase (.writeInterface nic) (.writeInterface other)
  | writeStatus {nic other : NetworkInterface} (same : nic.folded = other.folded) :
      SameUpToCase (.writeStatus nic) (.writeStatus other)
  | readNetwork (name : String) : SameUpToCase (.readNetwork name) (.readNetwork name)
  | readMetadata : SameUpToCase .readMetadata .readMetadata
  | tearDownLink {mac other : String} (same : foldCase mac = foldCase other) (address : Network) :
      SameUpToCase (.tearDownLink mac address) (.tearDownLink other address)
  | linkName {mac other : String} (same : foldCase mac = foldCase other) :
      SameUpToCase (.linkName mac) (.linkName other)
  | configureLink {mac other : String} (same : foldCase mac = foldCase other) (address : Network) :
      SameUpToCase (.configureLink mac address) (.configureLink other address)
  | syncRoutes {mac other : String} (same : foldCase mac = foldCase other) (routes : List Route) :
      SameUpToCase (.syncRoutes mac routes) (.syncRoutes other routes)

namespace Pass

/-- Both answers to the call are the same, up to the letter case of hardware addresses. -/
def SameAnswer : (c : Call) → c.Answer → (d : Call) → d.Answer → Prop
  | .readInterface _, a, .readInterface _, b =>
    a.map (·.map NetworkInterface.folded) = b.map (·.map NetworkInterface.folded)
  | .writeInterface _, a, .writeInterface _, b => a.map NetworkInterface.folded = b.map NetworkInterface.folded
  | .writeStatus _, a, .writeStatus _, b => a.map NetworkInterface.folded = b.map NetworkInterface.folded
  | .readNetwork _, a, .readNetwork _, b => a = b
  | .readMetadata, a, .readMetadata, b => a.map InstanceDocument.folded = b.map InstanceDocument.folded
  | .tearDownLink _ _, a, .tearDownLink _ _, b => a.mapError LinkError.folded = b.mapError LinkError.folded
  | .linkName _, a, .linkName _, b => a.mapError LinkError.folded = b.mapError LinkError.folded
  | .configureLink _ _, a, .configureLink _ _, b => a.mapError LinkError.folded = b.mapError LinkError.folded
  | .syncRoutes _ _, a, .syncRoutes _ _, b => a.mapError LinkError.folded = b.mapError LinkError.folded
  | _, _, _, _ => False

/-- The calls and their answers differ at most in the letter case of hardware addresses. -/
def SameEvent (e f : Event) : Prop := e.1.SameUpToCase f.1 ∧ SameAnswer e.1 e.2 f.1 f.2

/-- Calls and answers are taken for the same if they differ at most in letter case. -/
def likeness : Likeness Call Call.Answer where
  question := Call.SameUpToCase
  event := SameEvent

/-- The errors differ at most in the letter case of a hardware address. -/
def SameError (e f : KeeperError) : Prop := e.folded = f.folded

/-- Both parts of passes make the same calls and end alike. -/
abbrev AlikeUpTo {α β : Type} (post : α → β → Prop) (x : PassProgram α) (y : PassProgram β) : Prop :=
  Alike likeness (Outcomes SameError post) x.run y.run

section Calls

variable {α β ε : Type} {wrap : ε → KeeperError} {post : α → β → Prop} {errors : ε → ε → Prop}
  {x : Program Call Call.Answer (Except ε α)} {y : Program Call Call.Answer (Except ε β)} {c d : Call}
  {give : c.Answer → Except ε α} {back : d.Answer → Except ε β} {nic other : NetworkInterface} {mac again : String}
  {address : Network}

/-- A single call. -/
theorem alike_call (same : c.SameUpToCase d) (asks : x = .ask c fun answer => .done (give answer))
    (asksOther : y = .ask d fun answer => .done (back answer))
    (answers : ∀ a b, SameAnswer c a d b → Outcomes errors post (give a) (back b))
    (wraps : ∀ e f, errors e f → SameError (wrap e) (wrap f)) : AlikeUpTo post (call wrap x) (call wrap y) := by
  subst asks asksOther
  refine .ask same fun a b alike => .done ?_
  have outcomes := answers a b alike.2
  generalize give a = p at outcomes
  generalize back b = q at outcomes
  cases outcomes with
  | ok holds => exact .ok holds
  | error same => exact .error (wraps _ _ same)

theorem alike_readInterface (name : String) :
    AlikeUpTo (fun a b => a.map NetworkInterface.folded = b.map NetworkInterface.folded) (readInterface name)
      (readInterface name) :=
  alike_call (.readInterface name) rfl rfl (fun _ _ => outcomes_of_map) fun _ _ => congrArg _

theorem alike_writeInterface (same : nic.folded = other.folded) :
    AlikeUpTo (fun a b => a.folded = b.folded) (writeInterface nic) (writeInterface other) :=
  alike_call (.writeInterface same) rfl rfl (fun _ _ => outcomes_of_map) fun _ _ => congrArg _

theorem alike_writeStatus (same : nic.folded = other.folded) :
    AlikeUpTo (fun a b => a.folded = b.folded) (writeStatus nic) (writeStatus other) :=
  alike_call (.writeStatus same) rfl rfl (fun _ _ => outcomes_of_map) fun _ _ => congrArg _

theorem alike_readNetwork (name : String) : AlikeUpTo Eq (readNetwork name) (readNetwork name) := by
  refine alike_call (.readNetwork name) rfl rfl ?_ fun _ _ => congrArg (KeeperError.folded ∘ KeeperError.store)
  rintro a _ rfl
  exact outcomes_iff_mapError.mpr rfl

theorem alike_readMetadata : AlikeUpTo (fun a b => a.folded = b.folded) readMetadata readMetadata :=
  alike_call .readMetadata rfl rfl (fun _ _ => outcomes_of_map) fun _ _ => congrArg _

section Links

variable (same : foldCase mac = foldCase again)
include same

theorem alike_tearDownLink : AlikeUpTo Eq (tearDownLink mac address) (tearDownLink again address) :=
  alike_call (.tearDownLink same address) rfl rfl (fun _ _ => outcomes_iff_mapError.mpr)
    fun _ _ => congrArg KeeperError.link

theorem alike_linkName : AlikeUpTo Eq (linkName mac) (linkName again) :=
  alike_call (.linkName same) rfl rfl (fun _ _ => outcomes_iff_mapError.mpr) fun _ _ => congrArg KeeperError.link

theorem alike_configureLink : AlikeUpTo Eq (configureLink mac address) (configureLink again address) :=
  alike_call (.configureLink same address) rfl rfl (fun _ _ => outcomes_iff_mapError.mpr)
    fun _ _ => congrArg KeeperError.link

theorem alike_syncRoutesCall (routes : List Route) : AlikeUpTo Eq (syncRoutes mac routes) (syncRoutes again routes) :=
  alike_call (.syncRoutes same routes) rfl rfl (fun _ _ => outcomes_iff_mapError.mpr)
    fun _ _ => congrArg KeeperError.link

end Links

end Calls

/-! ### Passes -/

/-- The steps have got the same so far, up to letter case. -/
structure SameState (first second : PassState) : Prop where
  released : first.released = second.released
  copies : first.nic.folded = second.nic.folded

section Steps

variable {key : ObjectKey} {mac again : String} {address : Network} {first second : PassState}

theorem alike_verifyAttached (same : foldCase mac = foldCase again) :
    AlikeUpTo Eq (verifyAttached mac) (verifyAttached again) := by
  refine alike_except_bind alike_readMetadata ?_
  intro document other documents
  rw [InstanceDocument.hasInterface_congr documents same]
  split
  · exact alike_pure rfl
  · exact alike_throw (congrArg KeeperError.notAttached same)

variable (states : SameState first second)
include states

theorem alike_release : AlikeUpTo SameState (release first) (release second) := by
  have copies : first.nic.withoutFinalizer.folded = second.nic.withoutFinalizer.folded :=
    congrArg NetworkInterface.withoutFinalizer states.copies
  refine alike_except_bind (alike_writeInterface copies) ?_
  intro written other same
  exact alike_pure ⟨rfl, same⟩

theorem alike_recordLinkName (same : foldCase mac = foldCase again) :
    AlikeUpTo SameState (recordLinkName mac first) (recordLinkName again second) := by
  refine alike_except_bind (alike_linkName same) ?_
  rintro name _ rfl
  rw [states.released, NetworkInterface.linkName?_congr states.copies]
  split
  · exact alike_pure states
  · have copies : (first.nic.withLinkName name).folded = (second.nic.withLinkName name).folded :=
      NetworkInterface.congr_folded states.copies (fun nic => (nic.withLinkName name).folded)
        fun nic => nic.withLinkName_folded name
    refine alike_except_bind (alike_writeStatus copies) ?_
    intro written other recorded
    exact alike_pure ⟨rfl, recorded⟩

theorem alike_syncNetworkRoutes (same : foldCase mac = foldCase again) :
    AlikeUpTo Eq (syncNetworkRoutes key mac first.nic) (syncNetworkRoutes key again second.nic) := by
  unfold syncNetworkRoutes
  rw [NetworkInterface.congr_folded states.copies NetworkInterface.ownerNetwork? fun _ => rfl]
  cases second.nic.ownerNetwork? with
  | none => exact alike_throw rfl
  | some owner =>
      refine alike_except_bind (alike_readNetwork owner) ?_
      rintro network _ rfl
      cases network with
      | none => exact alike_throw rfl
      | some network =>
          dsimp only
          cases desiredRoutes network with
          | error e => exact alike_throw rfl
          | ok routes => exact alike_syncRoutesCall same routes

/-- Every step goes the same way. -/
theorem alike_step (same : foldCase mac = foldCase again) (step : Step) :
    AlikeUpTo SameState (Pass.step key mac address first step) (Pass.step key again address second step) := by
  cases step with
  | tearDownLink => exact alike_except_bind (alike_tearDownLink same) fun _ _ _ => alike_pure states
  | releaseFinalizer => exact alike_release states
  | verifyAttached => exact alike_except_bind (alike_verifyAttached same) fun _ _ _ => alike_pure states
  | recordLinkName => exact alike_recordLinkName states same
  | configureLink => exact alike_except_bind (alike_configureLink same) fun _ _ _ => alike_pure states
  | syncRoutes => exact alike_except_bind (alike_syncNetworkRoutes states same) fun _ _ _ => alike_pure states

theorem alike_steps (same : foldCase mac = foldCase again) (planned : List Step) :
    AlikeUpTo SameState (steps key mac address first planned) (steps key again address second planned) := by
  induction planned generalizing first second with
  | nil => exact alike_pure states
  | cons next rest ih => exact alike_except_bind (alike_step states same next) fun _ _ states => ih states

end Steps

/-- Whole passes go the same way. -/
theorem alike_reconcile (settings : Settings) (key : ObjectKey) :
    AlikeUpTo Eq (reconcile settings key) (reconcile settings key) := by
  refine alike_except_bind (alike_readInterface key.name) ?_
  intro found again alike
  cases found with
  | none =>
      rw [Option.map_eq_none_iff.mp alike.symm]
      exact alike_pure rfl
  | some nic =>
      obtain ⟨other, rfl, copies⟩ := Option.map_eq_some_iff.mp alike.symm
      have phases : (Phase.of settings nic).map Phase.folded = (Phase.of settings other).map Phase.folded := by
        rw [← Phase.of_folded, ← Phase.of_folded, copies]
      dsimp only
      generalize Phase.of settings nic = phase at phases
      generalize Phase.of settings other = counterpart at phases
      cases outcomes_of_map phases with
      | @error e _ same => exact alike_throw (congrArg KeeperError.folded same)
      | @ok phase counterpart same =>
          cases phase with
          | foreign =>
              cases counterpart with
              | foreign => exact alike_pure rfl
              | awaitingAddress | active => cases same
          | awaitingAddress =>
              cases counterpart with
              | awaitingAddress => exact alike_pure rfl
              | foreign | active => cases same
          | active plan =>
              cases counterpart with
              | foreign | awaitingAddress => cases same
              | active counterpart =>
                  obtain ⟨mac, address, planned⟩ := plan
                  obtain ⟨again, _, _⟩ := counterpart
                  obtain ⟨macs, rfl, rfl⟩ := Plan.mk.inj (Phase.active.inj same)
                  have states : SameState ⟨nic, false⟩ ⟨other, false⟩ := ⟨rfl, copies.symm⟩
                  have ran : AlikeUpTo SameState (steps key mac address ⟨nic, false⟩ planned)
                      (steps key again address ⟨other, false⟩ planned) := alike_steps states macs planned
                  exact alike_except_bind ran fun _ _ _ => alike_pure rfl

/-! ### Passes on hosts -/

/-- What is asked differs at most in the letter case of hardware addresses; no command differs at all. -/
inductive SameNodeCall : NodeCall → NodeCall → Prop where
  | ask {c d : Call} (same : c.SameUpToCase d) : SameNodeCall (.ask c) (.ask d)
  | command (c : IpCommand) : SameNodeCall (.command c) (.command c)

/-- What is asked and answered differs at most in the letter case of hardware addresses; no command differs at all. -/
inductive SameNodeEvent : NodeEvent → NodeEvent → Prop where
  | ask {c d : Call} {a : c.Answer} {b : d.Answer} (same : SameEvent ⟨c, a⟩ ⟨d, b⟩) :
      SameNodeEvent ⟨.ask c, a⟩ ⟨.ask d, b⟩
  | command {c : IpCommand} {reply answer : IpReply} (same : Links.SameReply c reply answer) :
      SameNodeEvent ⟨.command c, reply⟩ ⟨.command c, answer⟩

/-- What is asked on a host, and what is answered, is taken for the same if it differs at most in letter case. -/
def nodeLikeness : Likeness NodeCall NodeCall.Answer where
  question := SameNodeCall
  event := SameNodeEvent

/-- The commands that have been run, in order. -/
def commandsOf (events : List NodeEvent) : List IpCommand :=
  events.filterMap fun
    | ⟨.ask _, _⟩ => none
    | ⟨.command c, _⟩ => some c

theorem commandsOf_congr {events others : List NodeEvent} (same : List.Forall₂ SameNodeEvent events others) :
    commandsOf events = commandsOf others := by
  induction same with
  | nil => rfl
  | cons one _ ih =>
      cases one with
      | ask => exact ih
      | @command c => exact congrArg (c :: ·) ih

theorem alike_ask {c d : Call} (same : c.SameUpToCase d) :
    Alike nodeLikeness (fun a b => SameEvent ⟨c, a⟩ ⟨d, b⟩) (query (A := NodeCall.Answer) (.ask c))
      (query (A := NodeCall.Answer) (.ask d)) := by
  refine .ask (.ask same) fun a b event => .done ?_
  cases event with
  | ask same => exact same

/-- An operation on a link, run on both hosts. -/
theorem alike_linkProgram {α : Type} {x y : LinkProgram α} (alike : Links.AlikeUpTo Eq x y) :
    Alike nodeLikeness (fun a b => a.mapError LinkError.folded = b.mapError LinkError.folded) x.onNode y.onNode := by
  refine (alike.expand ?_).mono fun _ _ => outcomes_iff_mapError.mp
  rintro c _ rfl
  refine .ask (.command c) fun reply answer event => .done ?_
  cases event with
  | command same => exact ⟨rfl, same⟩

/-- Each call is answered on both hosts by the same commands. -/
theorem alike_onNode {c d : Call} (same : c.SameUpToCase d) :
    Alike nodeLikeness (fun a b => SameEvent ⟨c, a⟩ ⟨d, b⟩) c.onNode d.onNode := by
  cases same with
  | readInterface name => exact alike_ask (.readInterface name)
  | writeInterface same => exact alike_ask (.writeInterface same)
  | writeStatus same => exact alike_ask (.writeStatus same)
  | readNetwork name => exact alike_ask (.readNetwork name)
  | readMetadata => exact alike_ask .readMetadata
  | tearDownLink same address =>
      exact (alike_linkProgram (Links.alike_tearDown same address)).mono fun _ _ ends =>
        ⟨.tearDownLink same address, ends⟩
  | linkName same =>
      exact (alike_linkProgram (Links.alike_name same)).mono fun _ _ ends => ⟨.linkName same, ends⟩
  | configureLink same address =>
      exact (alike_linkProgram (Links.alike_configure same address)).mono fun _ _ ends =>
        ⟨.configureLink same address, ends⟩
  | syncRoutes same routes =>
      exact (alike_linkProgram (Links.alike_syncRoutes same routes)).mono fun _ _ ends =>
        ⟨.syncRoutes same routes, ends⟩

/-- Whole passes on hosts go the same way. -/
theorem alike_hosted (settings : Settings) (key : ObjectKey) :
    Alike nodeLikeness (Outcomes SameError Eq) (hosted settings key) (hosted settings key) :=
  (alike_reconcile settings key).expand fun _ _ => alike_onNode

end Pass

end LinkKeeper
