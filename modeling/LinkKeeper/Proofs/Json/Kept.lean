import LinkKeeper.Json.Kept
import LinkKeeper.Proofs.Json.RoundTrip
import LinkKeeper.Table

/-!
What is kept of a document can be written again.

The order of the members and the form of the numbers may change on the way, so what is kept need not be the document
that was read. It has a text all the same, and is nested no deeper; and it changes no more when it is read again, unless
it holds doubles.

* `JsonNumber.printable_ofDouble`: the shortest form of a double.
* `Json.Keeps`, `Json.keeps_of_kept?`: what is known of the document that is kept.
* `Json.Whole`, `Json.kept?_kept`: what is kept of a document that is kept already.
-/

namespace LinkKeeper

open Text

namespace JsonNumber

theorem printable_ofInt (i : Int) : (ofInt i).Printable := fun _ none => nomatch none

/-- Digits can stand after the point. -/
theorem printable_of_digits {negative : Bool} {whole : Nat} {exponent : Option Int} {ds : List Char}
    (nonempty : ds ≠ []) (all : ∀ c ∈ ds, isDigit 10 c = true) :
    Printable ⟨negative, whole, some (String.ofList ds), exponent⟩ := by
  rintro f same
  obtain rfl := Option.some.inj same
  rw [String.toList_ofList]
  exact ⟨nonempty, all⟩

theorem printable_ofDouble (negative : Bool) (x : Double) : (ofDouble negative x).Printable := by
  have zero : ∀ c ∈ ['0'], isDigit 10 c = true := List.forall_mem_singleton.mpr (by decide)
  unfold ofDouble
  split
  · exact printable_of_digits (List.cons_ne_nil '0' []) zero
  · dsimp only
    generalize Decimal.shortest x = d
    have all := isDigit_of_mem_digits reads_ten (n := d.coefficient)
    have some_digits := digits_ne_nil 10 d.coefficient
    generalize digits 10 d.coefficient = ds at all some_digits
    -- The point is behind the digits, between them, or in front of them, or there is a power of ten.
    split
    · exact printable_of_digits (by simp) zero
    · rename_i short
      simp only [Bool.and_eq_true, decide_eq_true_eq, not_and] at short
      split
      · rename_i between
        simp only [Bool.and_eq_true, decide_eq_true_eq] at between
        refine printable_of_digits ?_ fun c mem => all c (List.mem_of_mem_drop mem)
        have more : (ds.length + d.scale).toNat < ds.length := by omega
        simpa using more
      · split
        · refine printable_of_digits (by simp [some_digits]) fun c mem => ?_
          rcases List.mem_append.mp mem with front | digit
          · rw [List.eq_of_mem_replicate front]
            decide
          · exact all c digit
        · split
          · exact fun _ none => nomatch none
          · rename_i several
            refine printable_of_digits (fun none => ?_) fun c mem => all c (List.mem_of_mem_drop mem)
            have positive := List.length_pos_iff.mpr some_digits
            have single := List.drop_eq_nil_iff.mp none
            omega

theorem printable_of_kept? {n kept : JsonNumber} (keeps : n.kept? = some kept) : kept.Printable := by
  unfold kept? at keeps
  split at keeps
  · cases keeps
    exact printable_ofInt _
  · obtain ⟨x, -, rfl⟩ := Option.map_eq_some_iff.mp keeps
    exact printable_ofDouble _ x

end JsonNumber

namespace Json

/-- What is known of a document that is kept of another. -/
structure Keeps (j kept : Json) : Prop where
  printable : kept.Printable
  depth : kept.depth ≤ j.depth

/-- Members are placed as the entries of a table are. -/
theorem placeMember_eq (name : String) (j : Json) (placed : List (String × Json)) :
    placeMember name j placed = Table.place name j placed := by
  induction placed with
  | nil => rfl
  | cons first rest ih =>
      obtain ⟨n, i⟩ := first
      unfold placeMember Table.place
      cases compare name n <;> simp [ih]

theorem depth_placeMember (name : String) (j : Json) (placed : List (String × Json)) :
    depthOfMembers (placeMember name j placed) ≤ max j.depth (depthOfMembers placed) := by
  induction placed with
  | nil => simp [placeMember, depthOfMembers]
  | cons first rest ih =>
      obtain ⟨n, i⟩ := first
      unfold placeMember
      split
      · simp only [depthOfMembers]
        omega
      · simp only [depthOfMembers]
        omega
      · simp only [depthOfMembers]
        omega

mutual

/-- What is kept of a document has a text, and is nested no deeper. -/
theorem keeps_of_kept? : (j : Json) → ∀ {kept : Json}, j.kept? = some kept → Keeps j kept
  | .null, _, rfl => ⟨.null, Nat.le_refl _⟩
  | .bool b, _, rfl => ⟨.bool b, Nat.le_refl _⟩
  | .text s, _, rfl => ⟨.text s, Nat.le_refl _⟩
  | .number n, _, keeps => by
      obtain ⟨number, keepsNumber, rfl⟩ := Option.map_eq_some_iff.mp keeps
      exact ⟨.number (JsonNumber.printable_of_kept? keepsNumber), Nat.le_refl _⟩
  | .array items, _, keeps => by
      obtain ⟨kept, keepsItems, rfl⟩ := Option.map_eq_some_iff.mp keeps
      obtain ⟨printable, depth⟩ := keeps_of_keptItems items keepsItems
      exact ⟨.array printable, Nat.succ_le_succ depth⟩
  | .object members, _, keeps => by
      obtain ⟨kept, keepsMembers, rfl⟩ := Option.map_eq_some_iff.mp keeps
      obtain ⟨printable, depth⟩ := keeps_of_keptMembers members keepsMembers
      refine ⟨.object fun m mem => printable m mem fun _ placed => (List.not_mem_nil placed).elim,
        Nat.succ_le_succ ?_⟩
      simpa [depthOfMembers] using depth
  | .unreadable, _, keeps => nomatch keeps

theorem keeps_of_keptItems : (items : List Json) → ∀ {kept : List Json}, keptItems items = some kept →
    (∀ j ∈ kept, j.Printable) ∧ depthOfItems kept ≤ depthOfItems items
  | [], _, rfl => ⟨fun _ mem => (List.not_mem_nil mem).elim, Nat.le_refl _⟩
  | j :: rest, _, keeps => by
      simp only [keptItems, Option.bind_eq_bind, Option.bind_eq_some_iff, Option.some.injEq] at keeps
      obtain ⟨first, keepsFirst, others, keepsOthers, rfl⟩ := keeps
      obtain ⟨printable, depth⟩ := keeps_of_kept? j keepsFirst
      obtain ⟨printableOthers, depthOthers⟩ := keeps_of_keptItems rest keepsOthers
      refine ⟨fun k mem => ?_, ?_⟩
      · rcases List.mem_cons.mp mem with rfl | mem
        · exact printable
        · exact printableOthers k mem
      · simp only [depthOfItems]
        omega

theorem keeps_of_keptMembers : (members : List (String × Json)) → ∀ {placed kept : List (String × Json)},
    keptMembers placed members = some kept →
      (∀ m ∈ kept, (∀ m ∈ placed, m.2.Printable) → m.2.Printable) ∧
        depthOfMembers kept ≤ max (depthOfMembers placed) (depthOfMembers members)
  | [], _, _, rfl => ⟨fun m mem all => all m mem, Nat.le_max_left _ _⟩
  | (name, j) :: rest, placed, _, keeps => by
      simp only [keptMembers, Option.bind_eq_bind, Option.bind_eq_some_iff] at keeps
      obtain ⟨first, keepsFirst, keepsOthers⟩ := keeps
      obtain ⟨printable, depth⟩ := keeps_of_kept? j keepsFirst
      obtain ⟨printableOthers, depthOthers⟩ := keeps_of_keptMembers rest keepsOthers
      have deeper := depth_placeMember name first placed
      refine ⟨fun m mem all => printableOthers m mem fun k placed => ?_, ?_⟩
      · rcases Table.mem_of_mem_place (placeMember_eq .. ▸ placed) with rfl | placed
        · exact printable
        · exact all k placed
      · simp only [depthOfMembers]
        omega

end

/-- Nothing but null is kept as null. -/
theorem ne_null_of_kept? {j kept : Json} (keeps : j.kept? = some kept) (present : j ≠ .null) : kept ≠ .null := by
  rintro rfl
  cases j with
  | null => exact present rfl
  | number | array | object =>
      obtain ⟨_, -, same⟩ := Option.map_eq_some_iff.mp keeps
      cases same
  | bool | text | unreadable => cases keeps

/-! ### What is kept already -/

/-- Every number in the document is a whole one that sixty-four bits can hold. -/
inductive Whole : Json → Prop where
  | null : Whole .null
  | bool (b : Bool) : Whole (.bool b)
  | number {i : Int} (fits : JsonNumber.fitsWord i = true) : Whole (.number (.ofInt i))
  | text (s : String) : Whole (.text s)
  | array {items : List Json} (all : ∀ j ∈ items, Whole j) : Whole (.array items)
  | object {members : List (String × Json)} (all : ∀ m ∈ members, Whole m.2) : Whole (.object members)

/-- Items that stay as they are. -/
theorem keptItems_self {items : List Json} (all : ∀ j ∈ items, j.kept? = some j) : keptItems items = some items := by
  induction items with
  | nil => rfl
  | cons j rest ih =>
      obtain ⟨first, later⟩ := List.forall_mem_cons.mp all
      simp [keptItems, first, ih later]

/-- A member whose name is after all the others is put at their end. -/
theorem placeMember_last {name : String} (j : Json) {placed : List (String × Json)}
    (after : ∀ m ∈ placed, compare m.1 name = .lt) : placeMember name j placed = placed ++ [(name, j)] := by
  induction placed with
  | nil => rfl
  | cons m rest ih =>
      obtain ⟨n, i⟩ := m
      obtain ⟨first, later⟩ := List.forall_mem_cons.mp after
      have behind : compare name n = .gt := Std.OrientedCmp.gt_of_lt first
      unfold placeMember
      rw [behind, ih later]
      rfl

/-- Members that stay as they are, in the order of their names. -/
theorem keptMembers_self {placed members : List (String × Json)}
    (rises : (placed ++ members).Pairwise fun a b => compare a.1 b.1 = .lt)
    (all : ∀ m ∈ members, m.2.kept? = some m.2) : keptMembers placed members = some (placed ++ members) := by
  induction members generalizing placed with
  | nil => simp [keptMembers]
  | cons m rest ih =>
      obtain ⟨name, j⟩ := m
      obtain ⟨first, later⟩ := List.forall_mem_cons.mp all
      have after : ∀ m ∈ placed, compare m.1 name = .lt := fun m mem =>
        (List.pairwise_append.mp rises).2.2 m mem (name, j) (by simp)
      rw [List.append_cons] at rises ⊢
      rw [keptMembers, first, Option.bind_eq_bind, Option.bind_some, placeMember_last j after]
      exact ih rises later

mutual

/-- What is kept of a document is kept as it is, unless there are doubles in it. -/
theorem kept?_kept : (j : Json) → ∀ {kept : Json}, j.kept? = some kept → kept.Whole → kept.kept? = some kept
  | .null, _, rfl, _ => rfl
  | .bool _, _, rfl, _ => rfl
  | .text _, _, rfl, _ => rfl
  | .number _, _, keeps, whole => by
      obtain ⟨_, -, rfl⟩ := Option.map_eq_some_iff.mp keeps
      cases whole with
      | number fits => exact congrArg (Option.map Json.number) (JsonNumber.kept?_ofInt fits)
  | .array items, _, keeps, whole => by
      obtain ⟨kept, keepsItems, rfl⟩ := Option.map_eq_some_iff.mp keeps
      cases whole with
      | array all =>
          have again := kept?_of_keptItems items keepsItems
          exact congrArg (Option.map Json.array) (keptItems_self fun j mem => again j mem (all j mem))
  | .object members, _, keeps, whole => by
      obtain ⟨kept, keepsMembers, rfl⟩ := Option.map_eq_some_iff.mp keeps
      cases whole with
      | object all =>
          obtain ⟨rises, again⟩ := kept?_of_keptMembers members keepsMembers .nil nofun
          exact congrArg (Option.map Json.object)
            (@keptMembers_self [] kept rises fun m mem => again m mem (all m mem))
  | .unreadable, _, keeps, _ => nomatch keeps

theorem kept?_of_keptItems : (items : List Json) → ∀ {kept : List Json}, keptItems items = some kept →
    ∀ j ∈ kept, j.Whole → j.kept? = some j
  | [], _, rfl, _, mem, _ => (List.not_mem_nil mem).elim
  | j :: rest, _, keeps, k, mem, whole => by
      simp only [keptItems, Option.bind_eq_bind, Option.bind_eq_some_iff, Option.some.injEq] at keeps
      obtain ⟨first, keepsFirst, others, keepsOthers, rfl⟩ := keeps
      rcases List.mem_cons.mp mem with rfl | mem
      · exact kept?_kept j keepsFirst whole
      · exact kept?_of_keptItems rest keepsOthers k mem whole

theorem kept?_of_keptMembers : (members : List (String × Json)) → ∀ {placed kept : List (String × Json)},
    keptMembers placed members = some kept → (placed.Pairwise fun a b => compare a.1 b.1 = .lt) →
      (∀ m ∈ placed, m.2.Whole → m.2.kept? = some m.2) →
        (kept.Pairwise fun a b => compare a.1 b.1 = .lt) ∧ ∀ m ∈ kept, m.2.Whole → m.2.kept? = some m.2
  | [], _, _, rfl, rises, all => ⟨rises, all⟩
  | (name, j) :: rest, placed, _, keeps, rises, all => by
      simp only [keptMembers, Option.bind_eq_bind, Option.bind_eq_some_iff] at keeps
      obtain ⟨first, keepsFirst, keepsOthers⟩ := keeps
      rw [placeMember_eq] at keepsOthers
      -- What has been placed rises and is kept already, which carries the induction along the members.
      refine kept?_of_keptMembers rest keepsOthers (Table.rising_place name first rises) fun m mem => ?_
      rcases Table.mem_of_mem_place mem with rfl | mem
      · exact kept?_kept j keepsFirst
      · exact all m mem

end

end Json

end LinkKeeper
