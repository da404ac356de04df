import LinkKeeper.Proofs.Reconcile.Script
import LinkKeeper.Proofs.Store.Versions
import LinkKeeper.Reconcile.World

/-!
Passes while other writers are at work.

Between two calls of a pass anything may happen to the store. The store answers the calls that are made
to it; what the links of the host and the metadata service answer is left open.

* `Interleaved`: the runs of a pass with other writers at work between its calls.
* `Upholds`, `Pass.Ensures`: what a program does at each of its calls, and how it ends, in all such runs.
* `Upholds.sound`: what is shown call by call holds of the whole run.
* `World.interleaved`: a run that nobody disturbs is one of these runs.
-/

namespace LinkKeeper

/-- A call of a run with its answer, and the store when it was made and when it was answered. -/
structure Moment where
  call : Call
  answer : call.Answer
  before : MemoryStore
  after : MemoryStore

/-- The call with its answer. -/
def Moment.event (m : Moment) : Pass.Event := ⟨m.call, m.answer⟩

/-- Whether the call writes to the store. -/
def Call.isWrite : Call → Bool
  | .writeInterface _ | .writeStatus _ => true
  | _ => false

/-- How a call can be answered, and what it does to the store: the store answers for itself, and the
links and the metadata service answer as they like and leave it alone. -/
def Answered : (c : Call) → c.Answer → MemoryStore → MemoryStore → Prop
  | .readInterface name, answer, s, t => answer = .ok (s.getInterface name) ∧ t = s
  | .writeInterface nic, answer, s, t => answer = (s.update nic).1 ∧ t = (s.update nic).2
  | .writeStatus nic, answer, s, t => answer = (s.updateStatus nic).1 ∧ t = (s.updateStatus nic).2
  | .readNetwork name, answer, s, t => answer = .ok (s.getNetwork name) ∧ t = s
  | .readMetadata, _, s, t => t = s
  | .tearDownLink _ _, _, s, t => t = s
  | .linkName _, _, s, t => t = s
  | .configureLink _ _, _, s, t => t = s
  | .syncRoutes _ _, _, s, t => t = s

/-- A run of a program from a store, with the moments of its calls and its result. After each call
other writers do to the store what they like. -/
inductive Interleaved {α : Type} : Program Call Call.Answer α → MemoryStore → List Moment → α → Prop where
  | done {a : α} {s : MemoryStore} : Interleaved (.done a) s [] a
  | ask {c : Call} {next : c.Answer → Program Call Call.Answer α} {answer : c.Answer}
      {s t u : MemoryStore} {later : List Moment} {a : α}
      (answered : Answered c answer s t) (others : t.Reaches u)
      (onward : Interleaved (next answer) u later a) :
      Interleaved (.ask c next) s (⟨c, answer, s, t⟩ :: later) a

/-- A call that does not write leaves the store alone. -/
theorem Answered.same_of_idle {c : Call} {answer : c.Answer} {s t : MemoryStore}
    (answered : Answered c answer s t) (idle : c.isWrite = false) : t = s := by
  cases c with
  | writeInterface | writeStatus => cases idle
  | readInterface | readNetwork => exact answered.2
  | readMetadata | tearDownLink | linkName | configureLink | syncRoutes => exact answered

/-- A call changes the store like one of its users, or not at all. -/
theorem Answered.reaches {c : Call} {answer : c.Answer} {s t : MemoryStore}
    (answered : Answered c answer s t) : s.Reaches t := by
  cases c with
  | writeInterface nic =>
      obtain ⟨-, rfl⟩ := answered
      exact .single (.update nic)
  | writeStatus nic =>
      obtain ⟨-, rfl⟩ := answered
      exact .single (.updateStatus nic)
  | readInterface | readNetwork =>
      obtain ⟨-, rfl⟩ := answered
      exact .refl
  | readMetadata | tearDownLink | linkName | configureLink | syncRoutes =>
      obtain rfl := answered
      exact .refl

/-- A run takes a path of the program. -/
theorem Interleaved.path {α : Type} {p : Program Call Call.Answer α} {s : MemoryStore}
    {moments : List Moment} {a : α} (run : Interleaved p s moments a) :
    p.Path (moments.map Moment.event) a := by
  induction run with
  | done => exact .done
  | ask _ _ _ ih => exact .ask ih

/-! ### What a program upholds -/

/-- At every call of the program, made in a consistent store, `good` holds of the moments before and of
the moment itself, and in the end `post` holds, whatever the answers are and whatever other writers do. -/
def Upholds {α : Type} (good : List Moment → Moment → Prop)
    (post : List Moment → α → MemoryStore → Prop) :
    Program Call Call.Answer α → List Moment → MemoryStore → Prop
  | .done a, past, s => post past a s
  | .ask c next, past, s =>
    s.Consistent → ∀ answer t, Answered c answer s t →
      good past ⟨c, answer, s, t⟩ ∧
        ∀ u, t.Reaches u → Upholds good post (next answer) (past ++ [⟨c, answer, s, t⟩]) u

section Upholds

variable {α β : Type} {good : List Moment → Moment → Prop} {past : List Moment} {s : MemoryStore}

theorem Upholds.mono {post other : List Moment → α → MemoryStore → Prop} {p : Program Call Call.Answer α}
    (first : Upholds good post p past s) (weaker : ∀ past a s, post past a s → other past a s) :
    Upholds good other p past s := by
  induction p generalizing past s with
  | done a => exact weaker past a s first
  | ask c next ih =>
      intro consistent answer t answered
      obtain ⟨now, later⟩ := first consistent answer t answered
      exact ⟨now, fun u others => ih answer (later u others)⟩

/-- One program after another. -/
theorem Upholds.bind {post : List Moment → β → MemoryStore → Prop} {p : Program Call Call.Answer α}
    {f : α → Program Call Call.Answer β}
    (first : Upholds good (fun past a s => Upholds good post (f a) past s) p past s) :
    Upholds good post (p.bind f) past s := by
  induction p generalizing past s with
  | done a => exact first
  | ask c next ih =>
      intro consistent answer t answered
      obtain ⟨now, later⟩ := first consistent answer t answered
      exact ⟨now, fun u others => ih answer (later u others)⟩

/-- What a program upholds call by call holds of every moment of its runs, and of their ends. -/
theorem Upholds.sound {post : List Moment → α → MemoryStore → Prop} {p : Program Call Call.Answer α}
    {moments : List Moment} {a : α} (upholds : Upholds good post p past s) (consistent : s.Consistent)
    (run : Interleaved p s moments a) :
    (∀ earlier m later, moments = earlier ++ m :: later → good (past ++ earlier) m) ∧
      ∃ t, post (past ++ moments) a t := by
  induction run generalizing past with
  | done =>
      rw [List.append_nil]
      exact ⟨fun earlier m later split => absurd split (by simp), _, upholds⟩
  | ask answered others onward ih =>
      obtain ⟨now, rest⟩ := upholds consistent _ _ answered
      have reached := answered.reaches.trans others
      obtain ⟨each, t, ended⟩ := ih (rest _ others) (reached.consistent consistent)
      refine ⟨?_, t, by simpa using ended⟩
      intro earlier m later split
      cases earlier with
      | nil =>
          obtain ⟨rfl, rfl⟩ := List.cons.inj split
          rw [List.append_nil]
          exact now
      | cons first between =>
          obtain ⟨rfl, rfl⟩ := List.cons.inj split
          simpa using each between m later rfl

end Upholds

namespace Pass

/-- The same for a program that may fail. Nothing is asked of its end when it fails. -/
def Ensures {α : Type} (good : List Moment → Moment → Prop) (post : List Moment → α → MemoryStore → Prop)
    (x : PassProgram α) : List Moment → MemoryStore → Prop :=
  Upholds good (fun past r s => ∀ a, r = .ok a → post past a s) x.run

section Ensures

variable {α β : Type} {good : List Moment → Moment → Prop} {past : List Moment} {s : MemoryStore}

theorem ensures_pure {post : List Moment → α → MemoryStore → Prop} {a : α} (ended : post past a s) :
    Ensures good post (pure a) past s := by
  intro b same
  cases same
  exact ended

theorem ensures_throw {post : List Moment → α → MemoryStore → Prop} {e : KeeperError} :
    Ensures good post (throw e) past s := fun _ same => nomatch same

theorem ensures_bind {post : List Moment → β → MemoryStore → Prop} {x : PassProgram α}
    {f : α → PassProgram β}
    (first : Ensures good (fun past a s => Ensures good post (f a) past s) x past s) :
    Ensures good post (x >>= f) past s := by
  refine Upholds.bind (Upholds.mono first ?_)
  intro past r s ended
  cases r with
  | error e => exact fun _ same => nomatch same
  | ok a => exact ended a rfl

theorem Ensures.mono {post other : List Moment → α → MemoryStore → Prop} {x : PassProgram α}
    (first : Ensures good post x past s) (weaker : ∀ past a s, post past a s → other past a s) :
    Ensures good other x past s :=
  Upholds.mono first fun past _ s ended a same => weaker past a s (ended a same)

/-- A call whose failure is an error of the pass. -/
theorem ensures_call {ε : Type} {wrap : ε → KeeperError} {post : List Moment → α → MemoryStore → Prop}
    {p : Program Call Call.Answer (Except ε α)}
    (asked : Upholds good (fun past answer s => ∀ a, answer = .ok a → post past a s) p past s) :
    Ensures good post (call wrap p) past s := by
  refine Upholds.bind (Upholds.mono asked ?_)
  intro past answer s ended a same
  cases answer with
  | error e => cases same
  | ok b =>
      cases same
      exact ended _ rfl

/-- One call upholds what holds of it for each of its answers. -/
theorem upholds_query {c : Call} {post : List Moment → c.Answer → MemoryStore → Prop}
    (asked : s.Consistent → ∀ answer t, Answered c answer s t →
      good past ⟨c, answer, s, t⟩ ∧ ∀ u, t.Reaches u → post (past ++ [⟨c, answer, s, t⟩]) answer u) :
    Upholds good post (Program.query c) past s := asked

/-- So does a call that does not write, and the store is then as it was. -/
theorem upholds_idle {c : Call} {post : List Moment → c.Answer → MemoryStore → Prop}
    (idle : c.isWrite = false)
    (asked : s.Consistent → ∀ answer, Answered c answer s s →
      good past ⟨c, answer, s, s⟩ ∧ ∀ u, s.Reaches u → post (past ++ [⟨c, answer, s, s⟩]) answer u) :
    Upholds good post (Program.query c) past s := by
  refine upholds_query fun consistent answer t answered => ?_
  obtain rfl := answered.same_of_idle idle
  exact asked consistent answer answered

/-- What the planned steps uphold, whatever the pass finds, is upheld by the whole pass. -/
theorem ensures_reconcile {settings : Settings} {key : ObjectKey}
    (read : ∀ answer, good past ⟨.readInterface key.name, answer, s, s⟩)
    (planned : ∀ nic mac address u, s.Consistent → s.interfaces.get? key.name = some nic →
      nic.spec.nodeName = settings.nodeName → nic.macAddress? = some mac → addressOf nic = .ok address →
        s.Reaches u →
          Ensures good (fun _ _ _ => True) (steps key mac address ⟨nic, false⟩ (Phase.steps settings nic))
            (past ++ [⟨.readInterface key.name, .ok (some nic), s, s⟩]) u) :
    Ensures good (fun _ _ _ => True) (reconcile settings key) past s := by
  refine ensures_bind (ensures_call (upholds_idle rfl ?_))
  intro consistent answer answered
  refine ⟨read answer, fun u others found got => ?_⟩
  subst got
  have present : s.interfaces.get? key.name = found := (Except.ok.inj answered.1).symm
  cases found with
  | none => exact ensures_pure trivial
  | some nic =>
      dsimp only
      by_cases here : nic.spec.nodeName = settings.nodeName
      · cases known : nic.macAddress? with
        | none =>
            rw [phase_awaitingAddress here known]
            exact ensures_pure trivial
        | some mac =>
            cases parsed : addressOf nic with
            | error e =>
                rw [phase_malformed here known parsed]
                exact ensures_throw
            | ok address =>
                rw [phase_active here known parsed]
                have steps := planned nic mac address u consistent present here known parsed others
                exact ensures_bind (steps.mono fun _ _ _ _ => ensures_pure trivial)
      · rw [phase_foreign here]
        exact ensures_pure trivial

end Ensures

end Pass

/-! ### Runs that nobody disturbs -/

namespace World

variable {α : Type}

/-- The moments of an undisturbed run. -/
def moments : Program Call Call.Answer α → World → List Moment
  | .done _, _ => []
  | .ask c next, w =>
    let (reply, v) := World.answer c w
    ⟨c, reply, w.store, v.store⟩ :: moments (next reply) v

theorem answered (c : Call) (w : World) :
    Answered c (World.answer c w).1 w.store (World.answer c w).2.store := by
  cases c with
  | readInterface | readNetwork | writeInterface | writeStatus => exact ⟨rfl, rfl⟩
  | readMetadata | tearDownLink | linkName | configureLink | syncRoutes => rfl

/-- A run that nobody disturbs is one of the runs with other writers at work. -/
theorem interleaved (p : Program Call Call.Answer α) (w : World) :
    Interleaved p w.store (moments p w) (Program.run World.answer p w).1 := by
  induction p generalizing w with
  | done a => exact .done
  | ask c next ih => exact .ask (answered c w) .refl (ih _ _)

end World

end LinkKeeper
