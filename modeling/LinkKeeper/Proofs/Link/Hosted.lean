import LinkKeeper.Proofs.Reconcile.Paths
import LinkKeeper.Reconcile.World

/-!
Passes on a host: each call for a link is taken apart into the commands that it runs.

* `Program.expand`: a program with a program in the place of each of its questions.
* `Program.path_expand`, `Program.Expands.at_split`: a path through it goes through each of them in turn.
* `Pass.hosted`: a pass, down to its commands.
* `World.run_hosted`: in a world with the links of a host, a pass is run like that.
-/

namespace LinkKeeper

namespace Program

variable {Q R : Type} {A : Q → Type} {B : R → Type} {α σ : Type}

/-- The program with a program in the place of each of its questions. -/
def expand (f : (q : Q) → Program R B (A q)) : Program Q A α → Program R B α
  | done a => done a
  | ask q next => (f q).bind fun answer => (next answer).expand f

/-- Questions with their answers, and what is asked in the place of each, one after the other. -/
inductive Expands (f : (q : Q) → Program R B (A q)) :
    List ((q : Q) × A q) → List ((r : R) × B r) → Prop where
  | nil : Expands f [] []
  | cons {q : Q} {answer : A q} {first rest : List ((r : R) × B r)} {asked : List ((q : Q) × A q)}
      (taken : (f q).Path first answer) (onward : Expands f asked rest) :
      Expands f (⟨q, answer⟩ :: asked) (first ++ rest)

variable {f : (q : Q) → Program R B (A q)}

theorem path_expand {p : Program Q A α} {events : List ((r : R) × B r)} {a : α}
    (path : (p.expand f).Path events a) : ∃ asked, p.Path asked a ∧ Expands f asked events := by
  induction p generalizing events with
  | done b =>
      obtain ⟨rfl, rfl⟩ := path_done_iff.mp path
      exact ⟨[], .done, .nil⟩
  | ask q next ih =>
      obtain ⟨answer, first, rest, rfl, taken, onward⟩ := path_bind_iff.mp path
      obtain ⟨asked, path, expands⟩ := ih answer onward
      exact ⟨⟨q, answer⟩ :: asked, .ask path, .cons taken expands⟩

/-- Whatever is asked is asked in the place of one question, after what is asked for those before it. -/
theorem Expands.at_split {asked : List ((q : Q) × A q)} {events earlier later : List ((r : R) × B r)}
    {e : (r : R) × B r} (expands : Expands f asked events) (split : events = earlier ++ e :: later) :
    ∃ before q answer after first inner outer, asked = before ++ ⟨q, answer⟩ :: after ∧
      Expands f before first ∧ (f q).Path (inner ++ e :: outer) answer ∧ earlier = first ++ inner := by
  induction expands generalizing earlier with
  | nil => exact absurd split (by simp)
  | @cons q answer first rest asked taken onward ih =>
      rcases List.append_eq_append_iff.mp split with ⟨more, rfl, same⟩ | ⟨more, rfl, same⟩
      · obtain ⟨before, q', answer', after, first', inner, outer, rfl, expands, path, rfl⟩ := ih same
        exact ⟨⟨q, answer⟩ :: before, q', answer', after, first ++ first', inner, outer, rfl,
          .cons taken expands, path, (List.append_assoc _ _ _).symm⟩
      · cases more with
        | nil =>
            obtain ⟨before, q', answer', after, first', inner, outer, rfl, expands, path, empty⟩ :=
              @ih [] same.symm
            obtain ⟨rfl, rfl⟩ := List.append_eq_nil_iff.mp empty.symm
            refine ⟨⟨q, answer⟩ :: before, q', answer', after, earlier ++ [], [], outer, rfl, ?_, path, ?_⟩
            · rw [← List.append_nil (earlier ++ [])]
              exact .cons taken expands
            · simp
        | cons head tail =>
            obtain ⟨rfl, -⟩ := List.cons.inj same
            exact ⟨[], q, answer, asked, [], earlier, tail, rfl, .nil, taken, rfl⟩

/-- What is asked for two rows of questions is asked for the first and then for the second. -/
theorem Expands.of_append {before after : List ((q : Q) × A q)} {events : List ((r : R) × B r)}
    (expands : Expands f (before ++ after) events) :
    ∃ first rest, events = first ++ rest ∧ Expands f before first ∧ Expands f after rest := by
  induction before generalizing events with
  | nil => exact ⟨[], events, rfl, .nil, expands⟩
  | cons event before ih =>
      cases expands with
      | @cons _ _ own _ _ taken onward =>
          obtain ⟨first, rest, rfl, early, late⟩ := ih onward
          exact ⟨own ++ first, rest, (List.append_assoc _ _ _).symm, .cons taken early, late⟩

/-- Running the program is running the question's programs in the place of its questions. -/
theorem run_expand (answer : (r : R) → σ → B r × σ) (p : Program Q A α) (s : σ) :
    (p.expand f).run answer s = p.run (fun q s => (f q).run answer s) s := by
  induction p generalizing s with
  | done a => rfl
  | ask q next ih =>
      rw [expand, run_bind, ih]
      rfl

end Program

/-! ### Commands in the place of calls -/

/-- What a pass asks on a host: the store and the metadata service, or the host itself. -/
inductive NodeCall where
  | ask (c : Call)
  | command (c : IpCommand)

/-- What it is answered with. -/
abbrev NodeCall.Answer : NodeCall → Type
  | ask c => c.Answer
  | command _ => IpReply

/-- A question of a pass on a host, with its answer. -/
abbrev NodeEvent := (q : NodeCall) × q.Answer

/-- An operation on a link as part of a pass. -/
def LinkProgram.onNode {α : Type} (p : LinkProgram α) :
    Program NodeCall NodeCall.Answer (Except LinkError α) :=
  p.run.expand fun c => Program.query (A := NodeCall.Answer) (.command c)

/-- A call on a host. -/
def Call.onNode : (c : Call) → Program NodeCall NodeCall.Answer c.Answer
  | .readInterface name => Program.query (A := NodeCall.Answer) (.ask (.readInterface name))
  | .writeInterface nic => Program.query (A := NodeCall.Answer) (.ask (.writeInterface nic))
  | .writeStatus nic => Program.query (A := NodeCall.Answer) (.ask (.writeStatus nic))
  | .readNetwork name => Program.query (A := NodeCall.Answer) (.ask (.readNetwork name))
  | .readMetadata => Program.query (A := NodeCall.Answer) (.ask .readMetadata)
  | .tearDownLink mac address => (Links.tearDown mac address).onNode
  | .linkName mac => (Links.name mac).onNode
  | .configureLink mac address => (Links.configure mac address).onNode
  | .syncRoutes mac routes => (Links.syncRoutes mac routes).onNode

/-- A pass on a host. -/
def Pass.hosted (settings : Settings) (key : ObjectKey) :
    Program NodeCall NodeCall.Answer (Except KeeperError Outcome) :=
  (Pass.reconcile settings key).run.expand Call.onNode

namespace World

/-- What a world with the links of a host answers. -/
def nodeAnswer : (q : NodeCall) → World → q.Answer × World
  | .ask c, w => World.answer c w
  | .command c, w =>
    match w.links with
    | .scripted host => (host.answer c).map id fun host => { w with links := .scripted host }
    | .recorded _ => (.ok "", w)

theorem run_onNode {α : Type} (p : LinkProgram α) {w : World} {host : ScriptedHost}
    (hosted : w.links = .scripted host) :
    Program.run nodeAnswer p.onNode w =
      (host.runLink p).map id fun host => { w with links := .scripted host } := by
  unfold LinkProgram.onNode ScriptedHost.runLink
  rw [Program.run_expand]
  generalize p.run = program
  induction program generalizing w host with
  | done a =>
      rw [Program.run_done, Program.run_done, Prod.map, ← hosted]
      rfl
  | ask c next ih =>
      have answered : nodeAnswer (.command c) w =
          ((host.answer c).1, { w with links := .scripted (host.answer c).2 }) := by
        dsimp only [nodeAnswer]
        rw [hosted]
        rfl
      rw [Program.run_ask, Program.run_ask, Program.run_query, answered]
      exact ih _ rfl

/-- Each call is answered by running the commands that it comes to. -/
theorem answer_eq_run {w : World} {host : ScriptedHost} (hosted : w.links = .scripted host) (c : Call) :
    World.answer c w = Program.run nodeAnswer c.onNode w := by
  cases c with
  | readInterface | writeInterface | writeStatus | readNetwork | readMetadata => rfl
  | tearDownLink | linkName | configureLink | syncRoutes =>
      rw [Call.onNode, run_onNode _ hosted, World.answer, hosted]
      rfl

/-- The links stay those of a host. -/
theorem links_answer_scripted {w : World} {host : ScriptedHost} (hosted : w.links = .scripted host) (c : Call) :
    ∃ later, (World.answer c w).2.links = .scripted later := by
  cases c with
  | readInterface | writeInterface | writeStatus | readNetwork | readMetadata => exact ⟨host, hosted⟩
  | tearDownLink | linkName | configureLink | syncRoutes =>
      rw [World.answer, hosted]
      exact ⟨_, rfl⟩

/-- In a world with the links of a host a pass is run down to its commands. -/
theorem run_hosted {w : World} {host : ScriptedHost} (hosted : w.links = .scripted host) (settings : Settings)
    (key : ObjectKey) : Program.run nodeAnswer (Pass.hosted settings key) w = w.reconcile settings key := by
  unfold Pass.hosted World.reconcile
  rw [Program.run_expand]
  generalize (Pass.reconcile settings key).run = program
  induction program generalizing w host with
  | done a => rfl
  | ask c next ih =>
      obtain ⟨later, scripted⟩ := links_answer_scripted hosted c
      rw [Program.run_ask, Program.run_ask, ← answer_eq_run hosted]
      exact ih _ scripted

end World

end LinkKeeper
