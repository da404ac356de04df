import Mathlib.Data.List.Forall2
import LinkKeeper.Proofs.Link.OwnLink

/-!
Programs that go the same way up to what is taken for the same.

Which questions are taken for the same, and which answers to them, is a likeness. Two programs are alike if they ask
questions that are taken for the same and go on alike after answers that are. That is said of the programs alone. So it
holds of their runs in any two surroundings that answer alike.

* `Program.Alike`: programs that go the same way; `Program.Alike.bind`, `Program.Alike.expand`: how they are put
  together.
* `Program.Outcomes`: two results that may be errors; `Program.alike_except_bind`: programs that may fail.
* `Program.Alike.run`: two runs side by side.
-/

namespace LinkKeeper

namespace Program

variable {Q R : Type} {A : Q → Type} {B : R → Type} {α β γ δ ε σ τ : Type}

/-- Which questions are taken for the same, and which of them with which answers. -/
structure Likeness (Q : Type) (A : Q → Type) where
  question : Q → Q → Prop
  event : (q : Q) × A q → (q : Q) × A q → Prop

/-- The programs ask questions that are taken for the same, go on alike after answers that are, and end with results
for which `post` holds. -/
inductive Alike (like : Likeness Q A) (post : α → β → Prop) : Program Q A α → Program Q A β → Prop where
  | done {a : α} {b : β} (holds : post a b) : Alike like post (.done a) (.done b)
  | ask {q r : Q} {next : A q → Program Q A α} {other : A r → Program Q A β} (same : like.question q r)
      (onward : ∀ a b, like.event ⟨q, a⟩ ⟨r, b⟩ → Alike like post (next a) (other b)) :
      Alike like post (.ask q next) (.ask r other)

section Alike

variable {like : Likeness Q A} {post : α → β → Prop} {last : γ → δ → Prop} {x : Program Q A α} {y : Program Q A β}

theorem alike_query {q r : Q} {post : A q → A r → Prop} (same : like.question q r)
    (answers : ∀ a b, like.event ⟨q, a⟩ ⟨r, b⟩ → post a b) : Alike like post (query q) (query r) :=
  .ask same fun a b alike => .done (answers a b alike)

theorem Alike.bind {f : α → Program Q A γ} {g : β → Program Q A δ} (first : Alike like post x y)
    (onward : ∀ a b, post a b → Alike like last (f a) (g b)) : Alike like last (x.bind f) (y.bind g) := by
  induction first with
  | done holds => exact onward _ _ holds
  | ask same _ ih => exact .ask same ih

theorem Alike.mono {weaker : α → β → Prop} (alike : Alike like post x y) (weakens : ∀ a b, post a b → weaker a b) :
    Alike like weaker x y := by
  induction alike with
  | done holds => exact .done (weakens _ _ holds)
  | ask same _ ih => exact .ask same ih

/-- A program is like itself if it asks only what is taken for the same with the same answer alone. -/
theorem Asks.alike {allowed : Q → Prop} {x : Program Q A α} (asks : x.Asks allowed)
    (same : ∀ q, allowed q → like.question q q) (exact : ∀ q a b, allowed q → like.event ⟨q, a⟩ ⟨q, b⟩ → a = b) :
    Alike like Eq x x := by
  induction x with
  | done a => exact .done rfl
  | ask q next ih =>
      refine .ask (same q asks.1) ?_
      intro a b alike
      rw [exact q a b asks.1 alike]
      exact ih b (asks.2 b)

/-- Programs that are alike stay so with programs that are alike in the place of their questions. -/
theorem Alike.expand {inner : Likeness R B} {f g : (q : Q) → Program R B (A q)} (alike : Alike like post x y)
    (places : ∀ q r, like.question q r → Alike inner (fun a b => like.event ⟨q, a⟩ ⟨r, b⟩) (f q) (g r)) :
    Alike inner post (x.expand f) (y.expand g) := by
  induction alike with
  | done holds => exact .done holds
  | ask same _ ih => exact (places _ _ same).bind ih

end Alike

/-! ### Programs that may fail -/

/-- Both results are errors that are taken for the same, or neither is and `post` holds. -/
inductive Outcomes (errors : ε → ε → Prop) (post : α → β → Prop) : Except ε α → Except ε β → Prop where
  | ok {a : α} {b : β} (holds : post a b) : Outcomes errors post (.ok a) (.ok b)
  | error {e f : ε} (same : errors e f) : Outcomes errors post (.error e) (.error f)

theorem Outcomes.mono {errors weakerErrors : ε → ε → Prop} {post weaker : α → β → Prop} {p : Except ε α}
    {q : Except ε β} (outcomes : Outcomes errors post p q) (weakensErrors : ∀ e f, errors e f → weakerErrors e f)
    (weakens : ∀ a b, post a b → weaker a b) : Outcomes weakerErrors weaker p q := by
  cases outcomes with
  | ok holds => exact .ok (weakens _ _ holds)
  | error same => exact .error (weakensErrors _ _ same)

/-- Results that differ only in what is dropped from their errors. -/
theorem outcomes_iff_mapError {κ : Type} {drop : ε → κ} {p q : Except ε α} :
    Outcomes (fun e f => drop e = drop f) Eq p q ↔ p.mapError drop = q.mapError drop := by
  constructor
  · rintro (⟨rfl⟩ | same)
    · rfl
    · exact congrArg Except.error same
  · intro same
    cases p <;> cases q
    · exact .error (Except.error.inj same)
    · cases same
    · cases same
    · exact .ok (Except.ok.inj same)

/-- Results that differ only in what is dropped from them. -/
theorem outcomes_of_map {κ : Type} {drop : α → κ} {p q : Except ε α} (same : p.map drop = q.map drop) :
    Outcomes Eq (fun a b => drop a = drop b) p q := by
  cases p <;> cases q
  · exact .error (Except.error.inj same)
  · cases same
  · cases same
  · exact .ok (Except.ok.inj same)

section Failing

variable {like : Likeness Q A} {errors : ε → ε → Prop} {post : α → β → Prop} {last : γ → δ → Prop}
  {x : ExceptT ε (Program Q A) α} {y : ExceptT ε (Program Q A) β}

theorem alike_pure {a : α} {b : β} (holds : post a b) :
    Alike like (Outcomes errors post) (pure a : ExceptT ε (Program Q A) α).run
      (pure b : ExceptT ε (Program Q A) β).run :=
  .done (.ok holds)

theorem alike_throw {e f : ε} (same : errors e f) :
    Alike like (Outcomes errors post) (throw e : ExceptT ε (Program Q A) α).run
      (throw f : ExceptT ε (Program Q A) β).run :=
  .done (.error same)

theorem alike_except_bind {f : α → ExceptT ε (Program Q A) γ} {g : β → ExceptT ε (Program Q A) δ}
    (first : Alike like (Outcomes errors post) x.run y.run)
    (onward : ∀ a b, post a b → Alike like (Outcomes errors last) (f a).run (g b).run) :
    Alike like (Outcomes errors last) (x >>= f).run (y >>= g).run := by
  refine first.bind ?_
  rintro _ _ (holds | same)
  · exact onward _ _ holds
  · exact .done (.error same)

end Failing

/-! ### Two runs side by side -/

/-- Two surroundings answer what is taken for the same alike, as long as `level` holds between them, and keep it. -/
def Agree (like : Likeness Q A) (level : σ → τ → Prop) (left : (q : Q) → σ → A q × σ)
    (right : (q : Q) → τ → A q × τ) : Prop :=
  ∀ q r s t, like.question q r → level s t →
    like.event ⟨q, (left q s).1⟩ ⟨r, (right r t).1⟩ ∧ level (left q s).2 (right r t).2

/-- Runs of programs that are alike ask the same and are answered alike, and so are their results. -/
theorem Alike.run {like : Likeness Q A} {post : α → β → Prop} {level : σ → τ → Prop}
    {left : (q : Q) → σ → A q × σ} {right : (q : Q) → τ → A q × τ} {x : Program Q A α} {y : Program Q A β} {s : σ}
    {t : τ} (alike : Alike like post x y) (agree : Agree like level left right) (levels : level s t) :
    List.Forall₂ like.event (x.trace left s) (y.trace right t) ∧ post (x.run left s).1 (y.run right t).1 ∧
      level (x.run left s).2 (y.run right t).2 := by
  induction alike generalizing s t with
  | done holds => exact ⟨.nil, holds, levels⟩
  | ask same _ ih =>
      obtain ⟨answered, kept⟩ := agree _ _ s t same levels
      obtain ⟨events, results, ends⟩ := ih _ _ answered kept
      exact ⟨.cons answered events, results, ends⟩

end Program

end LinkKeeper
