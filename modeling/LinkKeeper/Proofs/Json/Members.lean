import LinkKeeper.Json.Decoder

/-!
What a reader sees of an object.

A reader looks at the members under one name at a time, so the order of the names does not matter, and an object in
which some members have been exchanged is read the same but for them.

* `Json.under`: the documents under a name.
* `Json.lastOf_eq`, `Json.lookup_eq`, `Json.noneRepeated_iff`: the readers see nothing else.
* `Json.under_written`, `Json.lastOf_written`: what stands in an object that has been written.
* `Json.mergePatch`, `Json.under_mergeMembers`: merge patches as in RFC 7386.
-/

namespace LinkKeeper.Json

/-! ### The documents under a name -/

/-- The documents under a name, in order. -/
def under (name : String) (members : List (String × Json)) : List Json :=
  (members.filter fun m => m.1 = name).map Prod.snd

section Under

variable {α : Type} {name : String} {members others : List (String × Json)} {value : Decoder α}

@[simp] theorem under_nil (name : String) : under name [] = [] := rfl

theorem under_cons (name : String) (m : String × Json) (members : List (String × Json)) :
    under name (m :: members) = if m.1 = name then m.2 :: under name members else under name members := by
  unfold under
  rw [List.filter_cons]
  by_cases own : m.1 = name <;> simp [own]

theorem under_append (name : String) (members others : List (String × Json)) :
    under name (members ++ others) = under name members ++ under name others := by
  simp [under]

theorem under_of_not_mem (absent : name ∉ members.map Prod.fst) : under name members = [] := by
  unfold under
  rw [List.filter_eq_nil_iff.mpr, List.map_nil]
  intro m mem own
  exact absent (List.mem_map.mpr ⟨m, mem, of_decide_eq_true own⟩)

/-- A field of a metadata object is read from the documents under its name. -/
theorem lastOf_eq (members : List (String × Json)) (name : String) (value : Decoder α) :
    lastOf members name value = ((under name members).mapM (nullable value)).map fun occurrences =>
      occurrences.getLast?.join := by
  unfold lastOf under
  rw [List.mapM_map]
  show Option.bind ((members.filter fun m => m.1 = name).mapM fun m => nullable value m.2) _ =
    ((members.filter fun m => m.1 = name).mapM fun m => nullable value m.2).map _
  cases (members.filter fun m => m.1 = name).mapM fun m => nullable value m.2 <;> rfl

theorem lastOf_congr (same : under name members = under name others) :
    lastOf members name value = lastOf others name value := by
  rw [lastOf_eq, lastOf_eq, same]

theorem lastOf_of_none (absent : under name members = []) : lastOf members name value = some none := by
  rw [lastOf_eq, absent]
  rfl

theorem lastOf_of_single {j : Json} (single : under name members = [j]) :
    lastOf members name value = nullable value j := by
  rw [lastOf_eq, single]
  cases read : nullable value j <;> simp [read]

/-- A field of a record is read from the first document under its name. -/
theorem lookup_eq (name : String) (members : List (String × Json)) :
    members.lookup name = (under name members).head? := by
  induction members with
  | nil => rfl
  | cons m members ih =>
      obtain ⟨n, j⟩ := m
      rw [under_cons, List.lookup_cons]
      by_cases own : n = name
      · simp [own]
      · have other : (name == n) = false := beq_false_of_ne (Ne.symm own)
        simp [own, other, ih]

theorem noneRepeated_iff {known : List String} :
    noneRepeated known members = true ↔ ∀ name ∈ known, (under name members).length ≤ 1 := by
  simp [noneRepeated, under]

end Under

/-! ### Objects that have been written -/

/-- The members that are written for fields. -/
def written (fields : List (String × Option Json)) : List (String × Json) :=
  fields.filterMap fun f => f.2.map (f.1, ·)

section Written

variable {α : Type} {name : String} {fields : List (String × Option Json)}

theorem under_written_of_not_mem (absent : name ∉ fields.map Prod.fst) : under name (written fields) = [] := by
  apply under_of_not_mem
  intro mem
  obtain ⟨m, given, rfl⟩ := List.mem_map.mp mem
  obtain ⟨f, field, some⟩ := List.mem_filterMap.mp given
  obtain ⟨j, -, rfl⟩ := Option.map_eq_some_iff.mp some
  exact absent (List.mem_map.mpr ⟨f, field, rfl⟩)

/-- No name is written twice. -/
theorem distinct_written (distinct : (fields.map Prod.fst).Nodup) : ((written fields).map Prod.fst).Nodup := by
  induction fields with
  | nil => exact .nil
  | cons f rest ih =>
      obtain ⟨name, j⟩ := f
      obtain ⟨apart, later⟩ := List.nodup_cons.mp distinct
      cases j with
      | none => exact ih later
      | some j =>
          refine List.nodup_cons.mpr ⟨fun mem => apart ?_, ih later⟩
          obtain ⟨m, given, rfl⟩ := List.mem_map.mp mem
          obtain ⟨f, field, held⟩ := List.mem_filterMap.mp given
          obtain ⟨k, -, rfl⟩ := Option.map_eq_some_iff.mp held
          exact List.mem_map.mpr ⟨f, field, rfl⟩

/-- Under the name of a field stands what the field holds. -/
theorem under_written (distinct : (fields.map Prod.fst).Nodup) {j : Option Json} (mem : (name, j) ∈ fields) :
    under name (written fields) = j.toList := by
  induction fields with
  | nil => cases mem
  | cons f rest ih =>
      obtain ⟨apart, distinct⟩ := List.nodup_cons.mp distinct
      have front : written (f :: rest) = (f.2.map (f.1, ·)).toList ++ written rest := by
        unfold written
        cases field : f.2 <;> simp [field]
      rw [front, under_append]
      rcases List.mem_cons.mp mem with rfl | mem
      · rw [under_written_of_not_mem apart]
        cases j <;> simp [under_cons]
      · have other : f.1 ≠ name := by
          rintro rfl
          exact apart (List.mem_map.mpr ⟨_, mem, rfl⟩)
        rw [ih distinct mem]
        cases f.2 <;> simp [under_cons, other]

theorem lookup_written (distinct : (fields.map Prod.fst).Nodup) {j : Option Json} (mem : (name, j) ∈ fields) :
    (written fields).lookup name = j := by
  rw [lookup_eq, under_written distinct mem]
  cases j <;> rfl

/-- A field is read back if what it holds can be. -/
theorem lastOf_written (distinct : (fields.map Prod.fst).Nodup) {a : Option α} {form : α → Json}
    (mem : (name, a.map form) ∈ fields) {value : Decoder α}
    (reads : ∀ x, a = some x → nullable value (form x) = some (some x)) :
    lastOf (written fields) name value = some a := by
  have stands := under_written distinct mem
  cases a with
  | none => exact lastOf_of_none stands
  | some x => exact (lastOf_of_single stands).trans (reads x rfl)

end Written

/-! ### Merge patches -/

/-- The members of an object. -/
def members : Json → List (String × Json)
  | .object members => members
  | _ => []

/-- The members with those under a name exchanged for others. -/
def exchange (name : String) (js : List Json) (members : List (String × Json)) : List (String × Json) :=
  (members.filter fun m => m.1 ≠ name) ++ js.map (name, ·)

def isNull : Json → Bool
  | .null => true
  | _ => false

mutual

/-- The document after a merge patch: an object changes the members that it names, and takes those away for which it
has null; any other document takes the place of the old one. -/
def mergePatch (target : Json) : Json → Json
  | .object patch => .object (mergeMembers target.members patch)
  | patch => patch

def mergeMembers (target : List (String × Json)) : List (String × Json) → List (String × Json)
  | [] => target
  | (name, j) :: rest =>
    let merged := mergePatch ((target.lookup name).getD .null) j
    mergeMembers (exchange name (if j.isNull then [] else [merged]) target) rest

end

theorem under_map_self (name : String) (js : List Json) : under name (js.map (name, ·)) = js := by
  induction js with
  | nil => rfl
  | cons j rest ih =>
      rw [List.map_cons, under_cons, ih]
      simp

theorem under_map_of_ne {name other : String} (apart : other ≠ name) (js : List Json) :
    under other (js.map (name, ·)) = [] := by
  induction js with
  | nil => rfl
  | cons j rest ih =>
      rw [List.map_cons, under_cons, ih]
      simp [Ne.symm apart]

theorem under_exchange_self (name : String) (js : List Json) (members : List (String × Json)) :
    under name (exchange name js members) = js := by
  unfold exchange
  rw [under_append, under_of_not_mem (by simp), under_map_self, List.nil_append]

theorem under_exchange_of_ne {name other : String} (apart : other ≠ name) (js : List Json)
    (members : List (String × Json)) : under other (exchange name js members) = under other members := by
  have kept : under other (members.filter fun m => m.1 ≠ name) = under other members := by
    unfold under
    rw [List.filter_filter]
    congr 1
    refine List.filter_congr fun m _ => ?_
    by_cases own : m.1 = other <;> simp [own, apart]
  unfold exchange
  rw [under_append, kept, under_map_of_ne apart, List.append_nil]

/-- What stands under a name after a merge, if the patch repeats no name. -/
theorem under_mergeMembers {patch : List (String × Json)} (distinct : (patch.map Prod.fst).Nodup)
    (target : List (String × Json)) (name : String) :
    under name (mergeMembers target patch) =
      match patch.lookup name with
      | none => under name target
      | some j => if j.isNull then [] else [mergePatch ((target.lookup name).getD .null) j] := by
  induction patch generalizing target with
  | nil => rfl
  | cons m rest ih =>
      obtain ⟨n, j⟩ := m
      obtain ⟨apart, others⟩ := List.nodup_cons.mp distinct
      rw [mergeMembers, ih others]
      by_cases own : n = name
      · subst own
        -- The rest of the patch does not name it again.
        have absent : rest.lookup n = none := by
          rw [lookup_eq, under_of_not_mem apart]
          rfl
        rw [List.lookup_cons_self, absent]
        exact under_exchange_self _ _ _
      · have other : (name == n) = false := beq_false_of_ne (Ne.symm own)
        rw [List.lookup_cons, other, lookup_eq name (exchange _ _ _), under_exchange_of_ne (Ne.symm own), ← lookup_eq]

theorem lookup_mergeMembers {patch : List (String × Json)} (distinct : (patch.map Prod.fst).Nodup)
    (target : List (String × Json)) (name : String) :
    (mergeMembers target patch).lookup name =
      match patch.lookup name with
      | none => target.lookup name
      | some j => if j.isNull then none else some (mergePatch ((target.lookup name).getD .null) j) := by
  rw [lookup_eq, under_mergeMembers distinct]
  cases patch.lookup name with
  | none => exact (lookup_eq name target).symm
  | some j =>
      dsimp only
      split <;> rfl

/-- Null takes a member away, and a member that the patch does not name stays. -/
example :
    mergePatch (.object [("a", .text "b"), ("c", .bool true)]) (.object [("a", .null), ("d", .text "e")]) =
      .object [("c", .bool true), ("d", .text "e")] := by
  rfl

end LinkKeeper.Json
