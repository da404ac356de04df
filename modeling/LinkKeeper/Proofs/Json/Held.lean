import LinkKeeper.Proofs.Json.Doubles
import LinkKeeper.Proofs.Json.Kept

/-!
The documents that a program can hold, and what becomes of them when they are written and read again.

Numbers are held as whole ones of sixty-four bits or as doubles, and objects have their members in the order of their
names. All of this survives but the doubles: a reader may take the text of one for another.

* `Json.Held`, `Json.held_of_kept?`: what is kept of a document is held.
* `Json.zeroed`: a document but for its doubles.
* `Json.Rereads`, `Json.exists_rereads`: a document that is held is read again, and differs in doubles at most.
-/

namespace LinkKeeper

open Text

namespace JsonNumber

theorem Digits.takeWhole_le {d : Digits} (fits : d.significand ≤ maxWord64) (cs : List Char) :
    (d.takeWhole cs).significand ≤ maxWord64 := by
  induction cs generalizing d with
  | nil => exact fits
  | cons c cs ih =>
      unfold takeWhole
      dsimp only
      split
      · rename_i more
        exact ih more
      · exact fits

theorem Digits.takeFraction_le {d : Digits} (fits : d.significand ≤ maxWord64) (cs : List Char) :
    (d.takeFraction cs).significand ≤ maxWord64 := by
  induction cs generalizing d with
  | nil => exact fits
  | cons c cs ih =>
      unfold takeFraction
      dsimp only
      split
      · rename_i more
        exact ih more
      · exact fits

theorem takenDigits_le (n : JsonNumber) : n.takenDigits.significand ≤ maxWord64 :=
  Digits.takeFraction_le (Digits.takeWhole_le (Nat.zero_le _) _) _

/-- A number is kept as a whole one of sixty-four bits, or as a double. -/
theorem cases_of_kept? {n kept : JsonNumber} (keeps : n.kept? = some kept) :
    (∃ i, fitsWord i = true ∧ kept = ofInt i) ∨ ∃ x : Double, x.Finite ∧ kept = ofDouble n.negative x := by
  unfold kept? at keeps
  split at keeps
  · rename_i i whole
    cases keeps
    exact .inl ⟨i, (Option.filter_eq_some_iff.mp whole).2, rfl⟩
  · obtain ⟨x, read, rfl⟩ := Option.map_eq_some_iff.mp keeps
    exact .inr ⟨x, Digits.finite_of_toDouble? n.takenDigits_le read, rfl⟩

end JsonNumber

namespace Json

/-- The members are in the order of their names, and no two have the same. -/
def Rises (members : List (String × Json)) : Prop := members.Pairwise fun a b => compare a.1 b.1 = .lt

theorem rises_iff {members : List (String × Json)} :
    Rises members ↔ (members.map Prod.fst).Pairwise fun a b => compare a b = .lt := by
  unfold Rises
  rw [List.pairwise_map]

/-- A program can hold the document. -/
inductive Held : Json → Prop where
  | null : Held .null
  | bool (b : Bool) : Held (.bool b)
  | whole {i : Int} (fits : JsonNumber.fitsWord i = true) : Held (.number (.ofInt i))
  | double (negative : Bool) {x : Double} (finite : x.Finite) : Held (.number (.ofDouble negative x))
  | text (s : String) : Held (.text s)
  | array {items : List Json} (all : ∀ j ∈ items, Held j) : Held (.array items)
  | object {members : List (String × Json)} (rises : Rises members) (all : ∀ m ∈ members, Held m.2) :
      Held (.object members)

theorem Held.printable {j : Json} (held : j.Held) : j.Printable := by
  induction held with
  | null => exact .null
  | bool b => exact .bool b
  | whole => exact .number (JsonNumber.printable_ofInt _)
  | double => exact .number (JsonNumber.printable_ofDouble _ _)
  | text s => exact .text s
  | array _ ih => exact .array ih
  | object _ _ ih => exact .object ih

mutual

/-- What is kept of a document can be held. -/
theorem held_of_kept? : (j : Json) → ∀ {kept : Json}, j.kept? = some kept → kept.Held
  | .null, _, rfl => .null
  | .bool b, _, rfl => .bool b
  | .text s, _, rfl => .text s
  | .number n, _, keeps => by
      obtain ⟨number, keepsNumber, rfl⟩ := Option.map_eq_some_iff.mp keeps
      rcases JsonNumber.cases_of_kept? keepsNumber with ⟨i, fits, rfl⟩ | ⟨x, finite, rfl⟩
      · exact .whole fits
      · exact .double _ finite
  | .array items, _, keeps => by
      obtain ⟨kept, keepsItems, rfl⟩ := Option.map_eq_some_iff.mp keeps
      exact .array (held_of_keptItems items keepsItems)
  | .object members, _, keeps => by
      obtain ⟨kept, keepsMembers, rfl⟩ := Option.map_eq_some_iff.mp keeps
      obtain ⟨rises, all⟩ := held_of_keptMembers members keepsMembers .nil nofun
      exact .object rises all
  | .unreadable, _, keeps => nomatch keeps

theorem held_of_keptItems : (items : List Json) → ∀ {kept : List Json}, keptItems items = some kept →
    ∀ j ∈ kept, j.Held
  | [], _, rfl, _, mem => (List.not_mem_nil mem).elim
  | j :: rest, _, keeps, k, mem => by
      simp only [keptItems, Option.bind_eq_bind, Option.bind_eq_some_iff, Option.some.injEq] at keeps
      obtain ⟨first, keepsFirst, others, keepsOthers, rfl⟩ := keeps
      rcases List.mem_cons.mp mem with rfl | mem
      · exact held_of_kept? j keepsFirst
      · exact held_of_keptItems rest keepsOthers k mem

theorem held_of_keptMembers : (members : List (String × Json)) → ∀ {placed kept : List (String × Json)},
    keptMembers placed members = some kept → Rises placed → (∀ m ∈ placed, m.2.Held) →
      Rises kept ∧ ∀ m ∈ kept, m.2.Held
  | [], _, _, rfl, rises, all => ⟨rises, all⟩
  | (name, j) :: rest, placed, _, keeps, rises, all => by
      simp only [keptMembers, Option.bind_eq_bind, Option.bind_eq_some_iff] at keeps
      obtain ⟨first, keepsFirst, keepsOthers⟩ := keeps
      rw [placeMember_eq] at keepsOthers
      refine held_of_keptMembers rest keepsOthers (Table.rising_place name first rises) fun m mem => ?_
      rcases Table.mem_of_mem_place mem with rfl | mem
      · exact held_of_kept? j keepsFirst
      · exact all m mem

end

/-! ### Reading again -/

mutual

/-- The document with all its doubles set to zero; their signs stay. -/
def zeroed : Json → Json
  | .number n => .number (if n.toInt?.isSome then n else .ofDouble n.negative .zero)
  | .array items => .array (zeroedItems items)
  | .object members => .object (zeroedMembers members)
  | j => j

def zeroedItems : List Json → List Json
  | [] => []
  | j :: rest => j.zeroed :: zeroedItems rest

def zeroedMembers : List (String × Json) → List (String × Json)
  | [] => []
  | (name, j) :: rest => (name, j.zeroed) :: zeroedMembers rest

end

/-- A document is read again as another one, which differs in doubles at most, and not at all if there are none. -/
structure Rereads (j again : Json) : Prop where
  kept : j.kept? = some again
  zeroed : again.zeroed = j.zeroed
  whole : j.Whole → again = j

theorem zeroed_double (negative : Bool) (x : Double) :
    (Json.number (.ofDouble negative x)).zeroed = .number (.ofDouble negative .zero) := by
  rw [zeroed, JsonNumber.toInt?_ofDouble, JsonNumber.negative_ofDouble]
  rfl

theorem not_whole_double {negative : Bool} {x : Double} : ¬Whole (.number (.ofDouble negative x)) := by
  have whole_number {n : JsonNumber} (whole : Whole (.number n)) : ∃ i, n = .ofInt i := by
    cases whole with
    | number => exact ⟨_, rfl⟩
  intro whole
  obtain ⟨i, same⟩ := whole_number whole
  have none := JsonNumber.toInt?_ofDouble negative x
  rw [same, JsonNumber.toInt?_ofInt] at none
  cases none

/-- Items that all are read again. -/
theorem exists_keptItems {items : List Json} (each : ∀ j ∈ items, ∃ again, Rereads j again) :
    ∃ others, keptItems items = some others ∧ zeroedItems others = zeroedItems items ∧
      ((∀ j ∈ items, j.Whole) → others = items) := by
  induction items with
  | nil => exact ⟨[], rfl, rfl, fun _ => rfl⟩
  | cons j rest ih =>
      obtain ⟨⟨again, kept, zeroed, whole⟩, later⟩ := List.forall_mem_cons.mp each
      obtain ⟨others, keptOthers, zeroedOthers, wholeOthers⟩ := ih later
      refine ⟨again :: others, ?_, ?_, fun all => ?_⟩
      · simp [keptItems, kept, keptOthers]
      · rw [zeroedItems, zeroedItems, zeroed, zeroedOthers]
      · obtain ⟨first, all⟩ := List.forall_mem_cons.mp all
        rw [whole first, wholeOthers all]

/-- Members that all are read again, behind others that have been placed already. -/
theorem exists_keptMembers {placed members : List (String × Json)} (rises : Rises (placed ++ members))
    (each : ∀ m ∈ members, ∃ again, Rereads m.2 again) :
    ∃ others, keptMembers placed members = some (placed ++ others) ∧ zeroedMembers others = zeroedMembers members ∧
      ((∀ m ∈ members, m.2.Whole) → others = members) := by
  induction members generalizing placed with
  | nil => exact ⟨[], by simp [keptMembers], rfl, fun _ => rfl⟩
  | cons m rest ih =>
      obtain ⟨name, j⟩ := m
      obtain ⟨⟨again, kept, zeroed, whole⟩, later⟩ := List.forall_mem_cons.mp each
      have after : ∀ m ∈ placed, compare m.1 name = .lt := fun m mem =>
        (List.pairwise_append.mp rises).2.2 m mem (name, j) (by simp)
      -- The names stay the same, so the members are placed in the same order.
      have same : Rises ((placed ++ [(name, again)]) ++ rest) := by
        have names : Rises ((placed ++ [(name, j)]) ++ rest) := by rwa [← List.append_cons]
        rw [rises_iff] at names ⊢
        simpa using names
      obtain ⟨others, keptOthers, zeroedOthers, wholeOthers⟩ := ih same later
      refine ⟨(name, again) :: others, ?_, ?_, fun all => ?_⟩
      · rw [keptMembers, kept, Option.bind_eq_bind, Option.bind_some, placeMember_last again after, keptOthers,
          List.append_assoc]
        rfl
      · rw [zeroedMembers, zeroedMembers, zeroed, zeroedOthers]
      · obtain ⟨first, all⟩ := List.forall_mem_cons.mp all
        rw [whole first, wholeOthers all]

/-- A document that is held is read again. -/
theorem exists_rereads {j : Json} (held : j.Held) : ∃ again, Rereads j again := by
  induction held with
  | null => exact ⟨.null, rfl, rfl, fun _ => rfl⟩
  | bool b => exact ⟨.bool b, rfl, rfl, fun _ => rfl⟩
  | whole fits => exact ⟨_, congrArg (Option.map Json.number) (JsonNumber.kept?_ofInt fits), rfl, fun _ => rfl⟩
  | double negative finite =>
      obtain ⟨y, -, kept⟩ := JsonNumber.exists_kept?_ofDouble negative finite
      refine ⟨.number (.ofDouble negative y), congrArg (Option.map Json.number) kept, ?_, fun whole => ?_⟩
      · rw [zeroed_double, zeroed_double]
      · exact absurd whole not_whole_double
  | text s => exact ⟨.text s, rfl, rfl, fun _ => rfl⟩
  | array _ ih =>
      obtain ⟨others, kept, zeroed, whole⟩ := exists_keptItems ih
      refine ⟨.array others, congrArg (Option.map Json.array) kept, congrArg Json.array zeroed, fun all => ?_⟩
      cases all with
      | array all => exact congrArg Json.array (whole all)
  | object rises _ ih =>
      obtain ⟨others, kept, zeroed, whole⟩ := @exists_keptMembers [] _ rises ih
      refine ⟨.object others, congrArg (Option.map Json.object) kept, congrArg Json.object zeroed, fun all => ?_⟩
      cases all with
      | object all => exact congrArg Json.object (whole all)

end Json

end LinkKeeper
