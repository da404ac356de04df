import LinkKeeper.Proofs.Config.Values
import LinkKeeper.Proofs.Text.Trimming
import LinkKeeper.Startup

/-!
Which environments give a configuration.

An environment has to meet requirements that are looked at in order. One that meets all of them declares a
configuration; of any other one the first requirement that it does not meet is told.

* `Config.Declares`: the configuration that an environment declares, field by field.
* `Config.Requirement`: the requirements, with what is told of one that is not met.
* `Config.Checks`: a reader that looks at requirements in a row; `Config.ofEnvironment_checks` says so of the whole.
* `Config.ofEnvironment_accepts`: which environments are accepted, with which configuration, and what is told of the
  other ones.
-/

namespace LinkKeeper

open Net Text

namespace Config

variable {env : Environment}

/-! ### What an environment declares -/

/-- The configuration that an environment declares. -/
structure Declares (env : Environment) (c : Config) : Prop where
  nodeName : ∃ name, env "NODE_NAME" = some name ∧ c.nodeName.toList = trim name.toList
  named : c.nodeName ≠ ""
  workers : Worth env "RECONCILE_WORKERS" 4 IsWord c.workers
  someWorker : c.workers ≠ 0
  addressWait : Worth env "AWAITING_ADDRESS_REQUEUE_SECS" (.ofSeconds 1) IsSeconds c.addressWait
  leastBackoff : Worth env "BACKOFF_MIN_SECS" (.ofSeconds 1) IsSeconds c.leastBackoff
  greatestBackoff : Worth env "BACKOFF_MAX_SECS" (.ofSeconds 300) IsSeconds c.greatestBackoff
  ordered : c.leastBackoff ≤ c.greatestBackoff
  endAfterTearDown : Worth env "TEARDOWN_SHORT_CIRCUIT" false IsSwitch c.endAfterTearDown
  listenAt : Worth env "METRICS_ADDR" ⟨.v4 0, 0, 8080⟩ Written.Endpoint c.listenAt
  metadataUrl : c.metadataUrl = (env "METADATA_URL").getD "http://169.254.42.42"
  ipProgram : c.ipProgram = (env "IP_BINARY").getD "ip"

/-! ### Requirements -/

/-- What is asked of an environment. -/
inductive Requirement where
  | nodeName
  | workers
  | someWorker
  | addressWait
  | leastBackoff
  | greatestBackoff
  | orderedBackoff
  | endAfterTearDown
  | listenAt

namespace Requirement

/-- The order in which the requirements are looked at. -/
def inOrder : List Requirement :=
  [nodeName, workers, someWorker, addressWait, leastBackoff, greatestBackoff, orderedBackoff, endAfterTearDown,
    listenAt]

/-- The variable that a requirement is about, or the first of them. -/
def variableName : Requirement → String
  | nodeName => "NODE_NAME"
  | workers | someWorker => "RECONCILE_WORKERS"
  | addressWait => "AWAITING_ADDRESS_REQUEUE_SECS"
  | leastBackoff | orderedBackoff => "BACKOFF_MIN_SECS"
  | greatestBackoff => "BACKOFF_MAX_SECS"
  | endAfterTearDown => "TEARDOWN_SHORT_CIRCUIT"
  | listenAt => "METRICS_ADDR"

/-- The environment meets the requirement. -/
def Met (env : Environment) : Requirement → Prop
  | nodeName => ∃ name, env "NODE_NAME" = some name ∧ ∃ c ∈ name.toList, isBlank c = false
  | workers => Proper env "RECONCILE_WORKERS" IsWord
  | someWorker => ¬ Worth env "RECONCILE_WORKERS" 4 IsWord 0
  | addressWait => Proper env "AWAITING_ADDRESS_REQUEUE_SECS" IsSeconds
  | leastBackoff => Proper env "BACKOFF_MIN_SECS" IsSeconds
  | greatestBackoff => Proper env "BACKOFF_MAX_SECS" IsSeconds
  | orderedBackoff => ∀ least greatest, Worth env "BACKOFF_MIN_SECS" 1 IsWord least →
      Worth env "BACKOFF_MAX_SECS" 300 IsWord greatest → least ≤ greatest
  | endAfterTearDown => Proper env "TEARDOWN_SHORT_CIRCUIT" IsSwitch
  | listenAt => Proper env "METRICS_ADDR" Written.Endpoint

/-- What is told of a requirement that is not met. -/
def Tells (env : Environment) (e : ConfigError) : Requirement → Prop
  | nodeName => e = .noNodeName
  | someWorker => e = .noWorkers
  | orderedBackoff => ∃ least greatest, Worth env "BACKOFF_MIN_SECS" 1 IsWord least ∧
      Worth env "BACKOFF_MAX_SECS" 300 IsWord greatest ∧ e = .crossedBounds least greatest
  | endAfterTearDown => Faulty env "TEARDOWN_SHORT_CIRCUIT" NoSwitch e
  | listenAt => Faulty env "METRICS_ADDR" NoEndpoint e
  | workers => Faulty env "RECONCILE_WORKERS" NoNumber e
  | addressWait => Faulty env "AWAITING_ADDRESS_REQUEUE_SECS" NoNumber e
  | leastBackoff => Faulty env "BACKOFF_MIN_SECS" NoNumber e
  | greatestBackoff => Faulty env "BACKOFF_MAX_SECS" NoNumber e

/-- The variable is named at the front of what is told. -/
theorem Tells.names {e : ConfigError} {r : Requirement} (tells : r.Tells env e) :
    ∃ rest, e.message = r.variableName ++ rest := by
  cases r with
  | nodeName =>
      obtain rfl := tells
      exact ⟨" environment variable is required", by decide⟩
  | someWorker =>
      obtain rfl := tells
      exact ⟨" must be at least 1", by decide⟩
  | orderedBackoff =>
      obtain ⟨least, greatest, -, -, same⟩ := tells
      have front : "BACKOFF_MIN_SECS (" = "BACKOFF_MIN_SECS" ++ " (" := by decide
      rw [same]
      refine ⟨" (" ++ toString least ++ ") exceeds BACKOFF_MAX_SECS (" ++ toString greatest ++ ")", ?_⟩
      unfold ConfigError.message variableName
      simp only [front, String.append_assoc]
  | workers => exact Faulty.names tells
  | addressWait => exact Faulty.names tells
  | leastBackoff => exact Faulty.names tells
  | greatestBackoff => exact Faulty.names tells
  | endAfterTearDown => exact Faulty.names tells
  | listenAt => exact Faulty.names tells

end Requirement

/-! ### Readers of requirements -/

/-- The requirements are looked at in order: all are met and the result is as described, or the first one that is not
met is told. -/
def Checks {α : Type} (env : Environment) (requirements : List Requirement) (x : Except ConfigError α)
    (post : α → Prop) : Prop :=
  (∃ a, x = .ok a ∧ (∀ r ∈ requirements, r.Met env) ∧ post a) ∨
    ∃ e earlier r later, x = .error e ∧ requirements = earlier ++ r :: later ∧ (∀ q ∈ earlier, q.Met env) ∧
      ¬ r.Met env ∧ r.Tells env e

namespace Checks

variable {α β : Type} {r : Requirement} {later : List Requirement} {post : α → Prop} {after : β → Prop}

theorem pure {a : α} (holds : post a) : Checks env [] (pure a) post := .inl ⟨a, rfl, nofun, holds⟩

theorem bind {x : Except ConfigError α} {f : α → Except ConfigError β} (first : Checks env [r] x post)
    (onward : ∀ a, post a → Checks env later (f a) after) : Checks env (r :: later) (x >>= f) after := by
  rcases first with ⟨a, rfl, met, holds⟩ | ⟨e, earlier, q, rest, rfl, cut, -, unmet, tells⟩
  · have here : r.Met env := met r List.mem_cons_self
    rcases onward a holds with ⟨b, same, mets, ends⟩ | ⟨e, earlier, q, rest, same, rfl, mets, unmet, tells⟩
    · exact .inl ⟨b, same, List.forall_mem_cons.mpr ⟨here, mets⟩, ends⟩
    · exact .inr ⟨e, r :: earlier, q, rest, same, rfl, List.forall_mem_cons.mpr ⟨here, mets⟩, unmet, tells⟩
  · have lone : earlier = [] ∧ q = r := by
      cases earlier with
      | nil => exact ⟨rfl, (List.cons.inj cut).1.symm⟩
      | cons _ others => cases others <;> cases cut
    obtain ⟨rfl, rfl⟩ := lone
    exact .inr ⟨e, [], q, later, rfl, rfl, nofun, unmet, tells⟩

/-- A condition that is refused at once. -/
theorem guard {refused : Prop} [Decidable refused] {e : ConfigError} {onward : Unit → Except ConfigError α}
    (unmet : refused → ¬ r.Met env ∧ r.Tells env e) (met : ¬ refused → r.Met env)
    (accepted : ¬ refused → Checks env later (onward ()) post) :
    Checks env (r :: later) (if refused then throw e >>= onward else onward ()) post := by
  by_cases bad : refused
  · rw [if_pos bad]
    exact .inr ⟨e, [], r, later, rfl, rfl, nofun, unmet bad⟩
  · rw [if_neg bad]
    have first : Checks env [r] (Except.ok ()) fun _ => True :=
      .inl ⟨(), rfl, List.forall_mem_singleton.mpr (met bad), trivial⟩
    exact first.bind fun _ _ => accepted bad

/-- A variable is looked at. -/
theorem value {default : α} {name : String} {read : List Char → Except ValueFault α} {isText : List Char → α → Prop}
    {faulty : List Char → ValueFault → Prop} (decides : Decides read isText faulty)
    (meets : r.Met env ↔ Proper env name isText) (tells : ∀ e, Faulty env name faulty e → r.Tells env e) :
    Checks env [r] (valueOf env name default read) (Worth env name default isText) := by
  rcases valueOf_cases decides env name default with ⟨a, worth, proper, read⟩ | ⟨e, fault, improper, read⟩
  · exact .inl ⟨a, read, List.forall_mem_singleton.mpr (meets.mpr proper), worth⟩
  · exact .inr ⟨e, [], r, [], read, rfl, nofun, mt meets.mp improper, tells e fault⟩

end Checks

/-! ### The environment as a whole -/

theorem checks_nodeNameOf (env : Environment) :
    Checks env [.nodeName] (nodeNameOf env) fun given =>
      (∃ name, env "NODE_NAME" = some name ∧ given.toList = trim name.toList) ∧ given ≠ "" := by
  have shown (name : String) : (∃ c ∈ name.toList, isBlank c = false) ↔ trimmed name ≠ "" := by
    have blank : trimmed name = "" ↔ trim name.toList = [] := by
      rw [trimmed, ← String.toList_inj, String.toList_ofList]
      rfl
    rw [Ne, blank, trim_eq_nil_iff]
    simp
  unfold nodeNameOf
  cases given : env "NODE_NAME" with
  | none => exact .inr ⟨_, [], .nodeName, [], rfl, rfl, nofun, by simp [Requirement.Met, given], rfl⟩
  | some name =>
      dsimp only
      by_cases blank : trimmed name = ""
      · rw [if_pos blank]
        refine .inr ⟨_, [], .nodeName, [], rfl, rfl, nofun, ?_, rfl⟩
        rintro ⟨_, same, letter⟩
        obtain rfl := Option.some.inj (given.symm.trans same)
        exact (shown name).mp letter blank
      · rw [if_neg blank]
        refine .inl ⟨_, rfl, List.forall_mem_singleton.mpr ⟨name, given, (shown name).mpr blank⟩, ⟨name, rfl, ?_⟩,
          blank⟩
        exact String.toList_ofList

/-- What a number of seconds is worth, as a length of time. -/
theorem worth_seconds_iff {name : String} {n : Nat} {d : Duration} (small : n ≤ maxWord64) :
    Worth env name (.ofSeconds n) IsSeconds d ↔ ∃ m, Worth env name n IsWord m ∧ d.nanos = m * 1000000000 := by
  constructor
  · rintro (⟨unset, rfl⟩ | ⟨value, given, m, word, same⟩)
    · exact ⟨n, .inl ⟨unset, rfl⟩, nanos_ofSeconds small⟩
    · exact ⟨m, .inr ⟨value, given, word⟩, same⟩
  · rintro ⟨m, ⟨unset, rfl⟩ | ⟨value, given, word⟩, same⟩
    · exact .inl ⟨unset, Duration.ext_nanos (same.trans (nanos_ofSeconds small).symm)⟩
    · exact .inr ⟨value, given, m, word, same⟩

theorem Worth.unique {α : Type} {name : String} {default a b : α} {read : List Char → Except ValueFault α}
    {isText : List Char → α → Prop} {faulty : List Char → ValueFault → Prop} (decides : Decides read isText faulty)
    (worth : Worth env name default isText a) (other : Worth env name default isText b) : a = b :=
  Except.ok.inj (((valueOf_eq_ok_iff decides).mpr worth).symm.trans ((valueOf_eq_ok_iff decides).mpr other))

/-- The bounds of the waits are in order as numbers of seconds if they are as lengths of time. -/
theorem ordered_iff {least greatest : Duration}
    (low : Worth env "BACKOFF_MIN_SECS" (.ofSeconds 1) IsSeconds least)
    (high : Worth env "BACKOFF_MAX_SECS" (.ofSeconds 300) IsSeconds greatest) :
    (Requirement.orderedBackoff.Met env ↔ least ≤ greatest) ∧
      (¬ least ≤ greatest → Requirement.orderedBackoff.Tells env (.crossedBounds least.seconds greatest.seconds)) := by
  obtain ⟨l, worthL, nanosL⟩ := (worth_seconds_iff (by decide)).mp low
  obtain ⟨g, worthG, nanosG⟩ := (worth_seconds_iff (by decide)).mp high
  have order : least ≤ greatest ↔ l ≤ g := by
    rw [Duration.le_def, nanosL, nanosG]
    omega
  rw [order]
  refine ⟨⟨fun met => met l g worthL worthG, ?_⟩, fun _ => ⟨l, g, worthL, worthG, ?_⟩⟩
  · intro inOrder l' g' otherL otherG
    rwa [otherL.unique decides_readWord worthL, otherG.unique decides_readWord worthG]
  · simp [Duration.seconds, nanosL, nanosG]

theorem ofEnvironment_checks (env : Environment) :
    Checks env Requirement.inOrder (ofEnvironment env) (Declares env) := by
  unfold ofEnvironment Requirement.inOrder
  refine (checks_nodeNameOf env).bind fun name ⟨given, named⟩ => ?_
  refine (Checks.value (r := .workers) decides_readWord .rfl fun _ told => told).bind fun workers worthWorkers => ?_
  refine Checks.guard (r := .someWorker) ?_ ?_ fun someWorker => ?_
  · rintro rfl
    exact ⟨fun met => met worthWorkers, rfl⟩
  · intro someWorker none_left
    exact someWorker (worthWorkers.unique decides_readWord none_left)
  refine (Checks.value (r := .addressWait) decides_readSeconds .rfl fun _ told => told).bind fun wait worthWait => ?_
  refine (Checks.value (r := .leastBackoff) decides_readSeconds .rfl fun _ told => told).bind fun least worthLeast => ?_
  refine (Checks.value (r := .greatestBackoff) decides_readSeconds .rfl fun _ told => told).bind
    fun greatest worthGreatest => ?_
  obtain ⟨ordered, crossed⟩ := ordered_iff worthLeast worthGreatest
  refine Checks.guard (r := .orderedBackoff) ?_ ?_ fun kept => ?_
  · exact fun apart => ⟨mt ordered.mp apart, crossed apart⟩
  · exact fun kept => ordered.mpr (Decidable.not_not.mp kept)
  refine (Checks.value (r := .endAfterTearDown) decides_readSwitch .rfl fun _ told => told).bind fun off worthOff => ?_
  refine (Checks.value (r := .listenAt) decides_readEndpoint .rfl fun _ told => told).bind fun listen worthAt => ?_
  exact .pure ⟨given, named, worthWorkers, someWorker, worthWait, worthLeast, worthGreatest,
    Decidable.not_not.mp kept, worthOff, worthAt, rfl, rfl⟩

/-- What is declared is what is read. -/
theorem ofEnvironment_eq_ok_iff {c : Config} : ofEnvironment env = .ok c ↔ Declares env c := by
  constructor
  · intro read
    rcases ofEnvironment_checks env with ⟨d, same, -, declares⟩ | ⟨e, _, _, _, same, -⟩
    · obtain rfl := Except.ok.inj (same.symm.trans read)
      exact declares
    · cases same.symm.trans read
  · intro declares
    obtain ⟨name, given, shown⟩ := declares.nodeName
    have node : trimmed name = c.nodeName := by rw [trimmed, ← shown, String.ofList_toList]
    have read : nodeNameOf env = .ok c.nodeName := by
      unfold nodeNameOf
      rw [given]
      dsimp only
      rw [node, if_neg declares.named]
    have workers := (valueOf_eq_ok_iff decides_readWord).mpr declares.workers
    have wait := (valueOf_eq_ok_iff decides_readSeconds).mpr declares.addressWait
    have least := (valueOf_eq_ok_iff decides_readSeconds).mpr declares.leastBackoff
    have greatest := (valueOf_eq_ok_iff decides_readSeconds).mpr declares.greatestBackoff
    have off := (valueOf_eq_ok_iff decides_readSwitch).mpr declares.endAfterTearDown
    have listen := (valueOf_eq_ok_iff decides_readEndpoint).mpr declares.listenAt
    have url : (env "METADATA_URL").getD standardMetadataUrl = c.metadataUrl := declares.metadataUrl.symm
    have program : (env "IP_BINARY").getD "ip" = c.ipProgram := declares.ipProgram.symm
    unfold ofEnvironment
    rw [read, workers, wait, least, greatest, off, url, program]
    show (if c.workers = 0 then _ else _) = _
    rw [if_neg declares.someWorker]
    show (if ¬ c.leastBackoff ≤ c.greatestBackoff then _ else _) = _
    rw [if_neg (not_not_intro declares.ordered)]
    show (valueOf env "METRICS_ADDR" ⟨.v4 0, 0, 8080⟩ readEndpoint >>= _) = _
    rw [listen]
    rfl

/-! ### Environments that differ in blanks -/

/-- The variables whose values are trimmed. -/
def trimmedNames : List String :=
  ["NODE_NAME", "RECONCILE_WORKERS", "AWAITING_ADDRESS_REQUEUE_SECS", "BACKOFF_MIN_SECS", "BACKOFF_MAX_SECS",
    "TEARDOWN_SHORT_CIRCUIT", "METRICS_ADDR"]

/-- The second environment sets the variables as the first one does, with blanks around the values that are trimmed.
Any other variable may be set in it. -/
structure Pads (env padded : Environment) : Prop where
  blanks : ∀ name ∈ trimmedNames,
    Option.Rel (fun value wide => Padded value.toList wide.toList) (env name) (padded name)
  metadataUrl : padded "METADATA_URL" = env "METADATA_URL"
  ipProgram : padded "IP_BINARY" = env "IP_BINARY"

variable {padded : Environment}

theorem Pads.worth {α : Type} {name : String} {default a : α} {isText : List Char → α → Prop} (pads : Pads env padded)
    (among : name ∈ trimmedNames) (worth : Worth env name default isText a) : Worth padded name default isText a := by
  have related := pads.blanks name among
  rcases worth with ⟨unset, same⟩ | ⟨value, given, text⟩
  · rw [unset] at related
    cases later : padded name with
    | none => exact .inl ⟨later, same⟩
    | some wide =>
        rw [later] at related
        cases related
  · rw [given] at related
    cases later : padded name with
    | none =>
        rw [later] at related
        cases related
    | some wide =>
        rw [later] at related
        cases related with
        | some pad => exact .inr ⟨wide, later, by rwa [pad.trim_eq]⟩

/-- Blanks around the values and other variables change nothing of what is declared. -/
theorem Declares.of_pads {c : Config} (declares : Declares env c) (pads : Pads env padded) : Declares padded c where
  nodeName := by
    obtain ⟨name, given, shown⟩ := declares.nodeName
    have worth : Worth env "NODE_NAME" [] Eq (trim name.toList) := .inr ⟨name, given, rfl⟩
    rcases pads.worth (by decide) worth with ⟨-, none_left⟩ | ⟨wide, later, same⟩
    · have empty : c.nodeName = "" := String.toList_inj.mp (shown.trans none_left)
      exact absurd empty declares.named
    · exact ⟨wide, later, shown.trans same.symm⟩
  named := declares.named
  workers := pads.worth (by decide) declares.workers
  someWorker := declares.someWorker
  addressWait := pads.worth (by decide) declares.addressWait
  leastBackoff := pads.worth (by decide) declares.leastBackoff
  greatestBackoff := pads.worth (by decide) declares.greatestBackoff
  ordered := declares.ordered
  endAfterTearDown := pads.worth (by decide) declares.endAfterTearDown
  listenAt := pads.worth (by decide) declares.listenAt
  metadataUrl := by rw [declares.metadataUrl, pads.metadataUrl]
  ipProgram := by rw [declares.ipProgram, pads.ipProgram]

/-- A node with eight workers, in an environment where another program may be set and blanks may be around. -/
def eightWorkers (wide : Bool) : Environment
  | "NODE_NAME" => some (if wide then "\tnode-a " else "node-a")
  | "RECONCILE_WORKERS" => some (if wide then " +08\n" else "+08")
  | "HOME" => if wide then some "/root" else none
  | _ => none

/-- A least wait above the greatest one, which is not set, and an address that is none. -/
def loneLeast : Environment
  | "NODE_NAME" => some "node-a"
  | "BACKOFF_MIN_SECS" => some "301"
  | "METRICS_ADDR" => some "nowhere"
  | _ => none

/-- An environment is accepted exactly if it meets every requirement, and its configuration is then the declared one.
Of any other environment the first requirement that it does not meet is told, with the variable that it is about.
Blanks around trimmed values and other variables never change a configuration, and its waits after failures keep
both of their bounds. -/
theorem ofEnvironment_accepts (env : Environment) :
    (∀ c, ofEnvironment env = .ok c ↔ Declares env c) ∧
    ((∃ c, ofEnvironment env = .ok c) ↔ ∀ r ∈ Requirement.inOrder, r.Met env) ∧
    (∀ e, ofEnvironment env = .error e → ∃ earlier r later, Requirement.inOrder = earlier ++ r :: later ∧
      (∀ q ∈ earlier, q.Met env) ∧ ¬ r.Met env ∧ r.Tells env e ∧ (∃ rest, e.message = r.variableName ++ rest) ∧
        ∀ lack, Startup.failure env lack = .invalidConfig e.message) ∧
    (∀ padded, Pads env padded → ∀ c, ofEnvironment env = .ok c → ofEnvironment padded = .ok c) ∧
    ∀ c, ofEnvironment env = .ok c → c.backoff.least = c.leastBackoff ∧ c.backoff.greatest = c.greatestBackoff := by
  refine ⟨fun c => ofEnvironment_eq_ok_iff, ?_, ?_, ?_, ?_⟩
  · rcases ofEnvironment_checks env with ⟨c, same, met, -⟩ | ⟨e, earlier, r, later, same, order, -, unmet, -⟩
    · exact ⟨fun _ => met, fun _ => ⟨c, same⟩⟩
    · constructor
      · rintro ⟨c, read⟩
        cases same.symm.trans read
      · intro met
        refine absurd (met r ?_) unmet
        rw [order]
        exact List.mem_append_right _ List.mem_cons_self
  · intro e read
    rcases ofEnvironment_checks env with ⟨c, same, -⟩ | ⟨f, earlier, r, later, same, order, met, unmet, tells⟩
    · cases same.symm.trans read
    · obtain rfl := Except.error.inj (same.symm.trans read)
      refine ⟨earlier, r, later, order, met, unmet, tells, tells.names, ?_⟩
      intro lack
      unfold Startup.failure
      rw [read]
  · intro padded pads c read
    exact ofEnvironment_eq_ok_iff.mpr ((ofEnvironment_eq_ok_iff.mp read).of_pads pads)
  · intro c read
    have ordered := (ofEnvironment_eq_ok_iff.mp read).ordered
    refine ⟨rfl, Duration.ext_nanos ?_⟩
    show (max c.leastBackoff c.greatestBackoff).nanos = _
    rw [Duration.nanos_max, Nat.max_eq_right ordered]

theorem padded_accepted_and_crossed_refused :
    (∃ c, ofEnvironment (eightWorkers false) = .ok c ∧ c.workers = 8 ∧ ofEnvironment (eightWorkers true) = .ok c ∧
      c.backoff.greatest = c.greatestBackoff) ∧
    ofEnvironment loneLeast = .error (.crossedBounds 301 300) ∧ ¬ ∀ r ∈ Requirement.inOrder, r.Met loneLeast := by
  have pads : Pads (eightWorkers false) (eightWorkers true) := by
    refine ⟨?_, rfl, rfl⟩
    simp only [trimmedNames, List.forall_mem_cons]
    exact ⟨.some ⟨['\t'], [' '], rfl, List.all_eq_true.mp rfl, List.all_eq_true.mp rfl⟩,
      .some ⟨[' '], ['\n'], rfl, List.all_eq_true.mp rfl, List.all_eq_true.mp rfl⟩,
      .none, .none, .none, .none, .none, nofun⟩
  have accepted : ∃ c, ofEnvironment (eightWorkers false) = .ok c ∧ c.workers = 8 := ⟨_, rfl, rfl⟩
  have refused : ofEnvironment loneLeast = .error (.crossedBounds 301 300) := rfl
  obtain ⟨c, read, workers⟩ := accepted
  obtain ⟨-, -, -, blanks, bounds⟩ := ofEnvironment_accepts (eightWorkers false)
  obtain ⟨-, meets, -, -, -⟩ := ofEnvironment_accepts loneLeast
  refine ⟨⟨c, read, workers, blanks _ pads c read, (bounds c read).2⟩, refused, ?_⟩
  intro met
  obtain ⟨d, other⟩ := meets.mpr met
  cases refused.symm.trans other

end Config

end LinkKeeper
