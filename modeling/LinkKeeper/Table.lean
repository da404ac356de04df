/-!
Tables: finite maps whose entries stand in the order of their keys.

* `Table.get?_insert`, `Table.get?_erase`: what the two changes do to every key.
* `Table.ext_get?`: two tables with the same answers are the same table.
* `Table.mem_toList_iff`: the entries are the answered keys with their answers.
-/

namespace LinkKeeper

/-- A finite map, kept as entries with strictly rising keys. -/
structure Table (κ ν : Type) [Ord κ] where
  toList : List (κ × ν)
  rising : toList.Pairwise fun a b => compare a.1 b.1 = .lt

namespace Table

variable {κ ν : Type} [Ord κ]

/-- The table without entries. -/
def empty : Table κ ν := ⟨[], .nil⟩

instance : EmptyCollection (Table κ ν) := ⟨empty⟩

instance : Inhabited (Table κ ν) := ⟨empty⟩

/-- The number of entries. -/
def size (t : Table κ ν) : Nat := t.toList.length

/-- The keys in order. -/
def keys (t : Table κ ν) : List κ := t.toList.map Prod.fst

/-- The values in the order of their keys. -/
def values (t : Table κ ν) : List ν := t.toList.map Prod.snd

/-- The value under a key. -/
def lookup (k : κ) : List (κ × ν) → Option ν
  | [] => none
  | (j, v) :: rest => if compare k j = .eq then some v else lookup k rest

/-- The value under a key, if the table has one. -/
def get? (t : Table κ ν) (k : κ) : Option ν := lookup k t.toList

/-- The entries with the value under a key replaced, or put in its place. -/
def place (k : κ) (v : ν) : List (κ × ν) → List (κ × ν)
  | [] => [(k, v)]
  | (j, w) :: rest =>
    match compare k j with
    | .lt => (k, v) :: (j, w) :: rest
    | .eq => (k, v) :: rest
    | .gt => (j, w) :: place k v rest

theorem mem_of_mem_place {k : κ} {v : ν} {l : List (κ × ν)} {e : κ × ν} (h : e ∈ place k v l) :
    e = (k, v) ∨ e ∈ l := by
  induction l with
  | nil => simpa [place] using h
  | cons p rest ih =>
    obtain ⟨j, w⟩ := p
    unfold place at h
    split at h
    · simpa using h
    · simp only [List.mem_cons] at h ⊢
      exact h.imp id .inr
    · simp only [List.mem_cons] at h ⊢
      rcases h with rfl | h
      · exact .inr (.inl rfl)
      · exact (ih h).imp id .inr

variable [Std.TransOrd κ] [Std.LawfulEqOrd κ]

theorem rising_place (k : κ) (v : ν) {l : List (κ × ν)}
    (h : l.Pairwise fun a b => compare a.1 b.1 = .lt) :
    (place k v l).Pairwise fun a b => compare a.1 b.1 = .lt := by
  induction l with
  | nil => simp [place]
  | cons p rest ih =>
    obtain ⟨j, w⟩ := p
    obtain ⟨first, later⟩ := List.pairwise_cons.1 h
    unfold place
    split
    · rename_i lt
      refine List.pairwise_cons.2 ⟨?_, h⟩
      intro e mem
      rcases List.mem_cons.1 mem with rfl | mem
      · exact lt
      · exact Std.TransCmp.lt_trans lt (first e mem)
    · rename_i eq
      obtain rfl := Std.LawfulEqCmp.eq_of_compare eq
      exact List.pairwise_cons.2 ⟨first, later⟩
    · rename_i gt
      refine List.pairwise_cons.2 ⟨?_, ih later⟩
      intro e mem
      rcases mem_of_mem_place mem with rfl | mem
      · exact Std.OrientedCmp.lt_of_gt gt
      · exact first e mem

/-- The table with a value under a key. -/
def insert (t : Table κ ν) (k : κ) (v : ν) : Table κ ν :=
  ⟨place k v t.toList, rising_place k v t.rising⟩

/-- The table with nothing under a key. -/
def erase (t : Table κ ν) (k : κ) : Table κ ν :=
  ⟨t.toList.filter fun e => compare k e.1 != .eq, t.rising.filter _⟩

/-- The table of some entries; of two with the same key the later one counts. -/
def ofList (l : List (κ × ν)) : Table κ ν :=
  l.foldl (fun t e => t.insert e.1 e.2) ∅

omit [Std.TransOrd κ] [Std.LawfulEqOrd κ] in
@[simp] theorem get?_empty (k : κ) : (∅ : Table κ ν).get? k = none := rfl

/-! ### What the changes do to the answers -/

theorem lookup_place (k j : κ) (v : ν) (l : List (κ × ν)) :
    lookup j (place k v l) = if compare j k = .eq then some v else lookup j l := by
  induction l with
  | nil => simp [place, lookup]
  | cons p rest ih =>
    obtain ⟨i, w⟩ := p
    unfold place
    split
    · simp [lookup]
    · rename_i eq
      obtain rfl := Std.LawfulEqCmp.eq_of_compare eq
      simp only [lookup]
      split <;> simp_all
    · rename_i gt
      simp only [lookup, ih]
      by_cases ji : compare j i = .eq
      · obtain rfl := Std.LawfulEqCmp.eq_of_compare ji
        have : compare j k = .lt := Std.OrientedCmp.lt_of_gt gt
        simp [this]
      · simp [ji]

omit [Std.TransOrd κ] in
theorem lookup_filter [Std.OrientedOrd κ] (k j : κ) (l : List (κ × ν)) :
    lookup j (l.filter fun e => compare k e.1 != .eq) =
      if compare j k = .eq then none else lookup j l := by
  induction l with
  | nil => simp [lookup]
  | cons p rest ih =>
    obtain ⟨i, w⟩ := p
    by_cases ki : compare k i = .eq
    · obtain rfl := Std.LawfulEqCmp.eq_of_compare ki
      by_cases jk : compare j k = .eq <;> simp [ih, jk, lookup]
    · by_cases jk : compare j k = .eq
      · obtain rfl := Std.LawfulEqCmp.eq_of_compare jk
        simp [ki, lookup, ih]
      · simp [ki, lookup, ih, jk]

section Answers

variable [DecidableEq κ]

theorem get?_insert (t : Table κ ν) (k j : κ) (v : ν) :
    (t.insert k v).get? j = if j = k then some v else t.get? j := by
  simp [get?, insert, lookup_place]

theorem get?_erase (t : Table κ ν) (k j : κ) :
    (t.erase k).get? j = if j = k then none else t.get? j := by
  simp [get?, erase, lookup_filter]

end Answers

@[simp] theorem get?_insert_self (t : Table κ ν) (k : κ) (v : ν) : (t.insert k v).get? k = some v := by
  simp [get?, insert, lookup_place]

theorem get?_insert_of_ne (t : Table κ ν) {k j : κ} (ne : j ≠ k) (v : ν) :
    (t.insert k v).get? j = t.get? j := by
  simp [get?, insert, lookup_place, ne]

@[simp] theorem get?_erase_self (t : Table κ ν) (k : κ) : (t.erase k).get? k = none := by
  simp [get?, erase, lookup_filter]

theorem get?_erase_of_ne (t : Table κ ν) {k j : κ} (ne : j ≠ k) : (t.erase k).get? j = t.get? j := by
  simp [get?, erase, lookup_filter, ne]

/-! ### Entries and answers -/

omit [Std.TransOrd κ] in
theorem lookup_eq_some_iff [Std.OrientedOrd κ] {l : List (κ × ν)}
    (rising : l.Pairwise fun a b => compare a.1 b.1 = .lt) {k : κ} {v : ν} :
    lookup k l = some v ↔ (k, v) ∈ l := by
  induction l with
  | nil => simp [lookup]
  | cons p rest ih =>
    obtain ⟨j, w⟩ := p
    obtain ⟨first, later⟩ := List.pairwise_cons.1 rising
    by_cases kj : compare k j = .eq
    · obtain rfl := Std.LawfulEqCmp.eq_of_compare kj
      have absent : (k, v) ∉ rest := fun mem => by
        have := first _ mem
        simp at this
      simp [lookup, absent, eq_comm]
    · have ne : k ≠ j := fun h => kj (h ▸ Std.ReflCmp.compare_self)
      simp [lookup, kj, ih later, ne]

/-- The entries of a table are the keys with an answer, each with its answer. -/
theorem mem_toList_iff {t : Table κ ν} {k : κ} {v : ν} : (k, v) ∈ t.toList ↔ t.get? k = some v :=
  (lookup_eq_some_iff t.rising).symm

omit [Std.LawfulEqOrd κ] in
theorem eq_of_mem_iff : ∀ {l m : List (κ × ν)},
    l.Pairwise (fun a b => compare a.1 b.1 = .lt) → m.Pairwise (fun a b => compare a.1 b.1 = .lt) →
    (∀ e, e ∈ l ↔ e ∈ m) → l = m
  | [], [], _, _, _ => rfl
  | [], e :: _, _, _, same => absurd ((same e).2 (by simp)) (by simp)
  | e :: _, [], _, _, same => absurd ((same e).1 (by simp)) (by simp)
  | a :: l, b :: m, hl, hm, same => by
    obtain ⟨la, hl'⟩ := List.pairwise_cons.1 hl
    obtain ⟨mb, hm'⟩ := List.pairwise_cons.1 hm
    have ab : a = b := by
      rcases List.mem_cons.1 ((same a).1 (by simp)) with h | am
      · exact h
      rcases List.mem_cons.1 ((same b).2 (by simp)) with h | bl
      · exact h.symm
      · have := Std.TransCmp.lt_trans (mb a am) (la b bl)
        simp at this
    subst ab
    refine congrArg _ (eq_of_mem_iff hl' hm' fun e => ?_)
    constructor
    · intro el
      rcases List.mem_cons.1 ((same e).1 (List.mem_cons_of_mem _ el)) with rfl | h
      · have := la e el
        simp at this
      · exact h
    · intro em
      rcases List.mem_cons.1 ((same e).2 (List.mem_cons_of_mem _ em)) with rfl | h
      · have := mb e em
        simp at this
      · exact h

/-- Tables with the same answers are the same. -/
theorem ext_get? {t u : Table κ ν} (same : ∀ k, t.get? k = u.get? k) : t = u := by
  obtain ⟨l, hl⟩ := t
  obtain ⟨m, hm⟩ := u
  congr
  refine eq_of_mem_iff hl hm fun ⟨k, v⟩ => ?_
  rw [← lookup_eq_some_iff hl, ← lookup_eq_some_iff hm]
  exact iff_of_eq (congrArg (· = some v) (same k))

/-- A table is made of its entries. -/
theorem ofList_toList (t : Table κ ν) : ofList t.toList = t := by
  have collected (l : List (κ × ν)) (rising : l.Pairwise fun a b => compare a.1 b.1 = .lt) (u : Table κ ν) (k : κ) :
      (l.foldl (fun t e => t.insert e.1 e.2) u).get? k = (lookup k l).or (u.get? k) := by
    induction l generalizing u with
    | nil => rfl
    | cons e rest ih =>
        obtain ⟨j, w⟩ := e
        obtain ⟨first, later⟩ := List.pairwise_cons.mp rising
        rw [List.foldl_cons, ih later]
        by_cases own : compare k j = .eq
        · obtain rfl := Std.LawfulEqCmp.eq_of_compare own
          have absent : lookup k rest = none := by
            cases found : lookup k rest with
            | none => rfl
            | some v =>
                have less := first _ ((lookup_eq_some_iff later).mp found)
                simp at less
          simp [lookup, absent]
        · have apart : k ≠ j := by
            rintro rfl
            exact own Std.ReflCmp.compare_self
          rw [get?_insert_of_ne u apart]
          simp [lookup, own]
  refine ext_get? fun k => ?_
  unfold ofList
  rw [collected t.toList t.rising, get?_empty, Option.or_none]
  rfl

end Table

end LinkKeeper
