import LinkKeeper.Link.Route

/-!
The changes between two lists of routes are the two differences of the sets that the lists stand for.

Each difference has one order only: what is added stands as it first occurs in the list of what is wanted, and what
is removed is ascending. So the changes are told by the two sets and the order of what is wanted. How often and in
which order the routes that are present are listed does not matter, nor how a set of them is gone through.

* `InOrderOf`: the order of first occurrences; `InOrderOf.eq` says that it leaves no choice.
* `RouteChanges.Exact`: the two differences; `RouteChanges.Exact.eq` says that there is one pair of them only.
* `RouteChanges.gathered`: the changes as they are gathered from sets that are gone through in any order.
* `RouteChanges.between_is_difference`: the changes between any two lists.
-/

namespace LinkKeeper

open Net Std

/-! ### First occurrences -/

section FirstOccurrences

variable {α : Type} [BEq α] {items others among : List α} {a : α}

/-- The items stand in the order in which they first occur in another list. -/
def InOrderOf (among items : List α) : Prop := items.Pairwise fun a b => among.idxOf a < among.idxOf b

theorem InOrderOf.nodup (ordered : InOrderOf among items) : items.Nodup := by
  refine List.Pairwise.imp ?_ ordered
  rintro a _ before rfl
  exact Nat.lt_irrefl _ before

/-- There is one way only to put items in that order. -/
theorem InOrderOf.eq (ordered : InOrderOf among items) (too : InOrderOf among others)
    (same : ∀ a, a ∈ items ↔ a ∈ others) : items = others := by
  have permuted := (List.perm_ext_iff_of_nodup ordered.nodup too.nodup).mpr same
  refine permuted.eq_of_pairwise ?_ ordered too
  intro a b _ _ before after
  exact absurd before (Nat.lt_asymm after)

variable [LawfulBEq α]

theorem idxOf_cons_of_mem {b : α} (absent : a ∉ items) (mem : b ∈ items) (among : List α) :
    (a :: among).idxOf b = among.idxOf b + 1 := by
  have other : (a == b) = false := by
    refine beq_eq_false_iff_ne.mpr ?_
    rintro rfl
    exact absent mem
  rw [List.idxOf_cons, other, cond_false]

theorem InOrderOf.skip (ordered : InOrderOf among items) (absent : a ∉ items) : InOrderOf (a :: among) items := by
  refine List.Pairwise.imp_of_mem ?_ ordered
  intro b c first second before
  rw [idxOf_cons_of_mem absent first, idxOf_cons_of_mem absent second]
  exact Nat.succ_lt_succ before

theorem InOrderOf.cons (ordered : InOrderOf among items) (absent : a ∉ items) :
    InOrderOf (a :: among) (a :: items) := by
  refine List.pairwise_cons.mpr ⟨?_, ordered.skip absent⟩
  intro b mem
  rw [List.idxOf_cons_self, idxOf_cons_of_mem absent mem]
  exact Nat.succ_pos _

theorem inOrderOf_eraseDups_filter (p : α → Bool) (l : List α) : InOrderOf l (l.filter p).eraseDups := by
  induction l generalizing p with
  | nil => exact .nil
  | cons a rest ih =>
      cases counts : p a with
      | true =>
          rw [List.filter_cons_of_pos counts, List.eraseDups_cons, List.filter_filter]
          refine (ih _).cons ?_
          simp [List.mem_eraseDups]
      | false =>
          rw [List.filter_cons_of_neg (by simp [counts])]
          refine (ih p).skip ?_
          simp [List.mem_eraseDups, counts]

end FirstOccurrences

namespace RouteChanges

variable {installed desired present want : List Route} {c d : RouteChanges}

/-! ### The two differences -/

/-- The changes are the differences between what is present and what is wanted: what is missing in the order in
which it is wanted, and what is too much in ascending order. -/
structure Exact (present want : List Route) (c : RouteChanges) : Prop where
  add : ∀ r, r ∈ c.add ↔ r ∈ want ∧ r ∉ present
  inOrder : InOrderOf want c.add
  remove : ∀ r, r ∈ c.remove ↔ r ∈ present ∧ r ∉ want
  ascending : c.remove.Pairwise fun a b => Route.compare a b = .lt

theorem Exact.nodup_remove (exact : c.Exact present want) : c.remove.Nodup := by
  refine exact.ascending.imp ?_
  rintro a _ before rfl
  rw [Route.compare_eq_iff.mpr rfl] at before
  cases before

theorem eq_of_parts (add : c.add = d.add) (remove : c.remove = d.remove) : c = d := by
  cases c
  cases d
  exact congr (congrArg RouteChanges.mk add) remove

/-- The two sets and the order of what is wanted leave no choice. -/
theorem Exact.eq (exact : c.Exact present want) (too : d.Exact present want) : c = d := by
  refine eq_of_parts (exact.inOrder.eq too.inOrder fun r => (exact.add r).trans (too.add r).symm) ?_
  have permuted := (List.perm_ext_iff_of_nodup exact.nodup_remove too.nodup_remove).mpr fun r =>
    (exact.remove r).trans (too.remove r).symm
  refine permuted.eq_of_pairwise ?_ exact.ascending too.ascending
  intro a b _ _ before after
  have swapped : Route.compare a b = (Route.compare b a).swap := OrientedCmp.eq_swap
  rw [before, after] at swapped
  cases swapped

/-- How what is present is listed does not matter. -/
theorem Exact.congr (exact : c.Exact present want) (same : ∀ r, r ∈ installed ↔ r ∈ present) :
    c.Exact installed want where
  add r := by rw [exact.add, same]
  inOrder := exact.inOrder
  remove r := by rw [exact.remove, same]
  ascending := exact.ascending

/-- The changes lead from what is present to what is wanted. -/
theorem Exact.mem_after_iff (exact : c.Exact present want) (r : Route) :
    r ∈ present ∧ r ∉ c.remove ∨ r ∈ c.add ↔ r ∈ want := by
  rw [exact.add, exact.remove]
  by_cases there : r ∈ present <;> simp [there]

theorem Exact.eq_empty_iff (exact : c.Exact present want) :
    c.add = [] ∧ c.remove = [] ↔ ∀ r, r ∈ present ↔ r ∈ want := by
  simp only [List.eq_nil_iff_forall_not_mem, exact.add, exact.remove, not_and, Classical.not_not]
  constructor
  · rintro ⟨missing, extra⟩ r
    exact ⟨extra r, missing r⟩
  · intro same
    exact ⟨fun r => (same r).mpr, fun r => (same r).mp⟩

theorem ascending_mergeSort {routes : List Route} (nodup : routes.Nodup) :
    (routes.mergeSort fun a b => (Route.compare a b).isLE).Pairwise fun a b => Route.compare a b = .lt := by
  have total (a b : Route) : ((Route.compare a b).isLE || (Route.compare b a).isLE) = true := by
    have swapped : Route.compare b a = (Route.compare a b).swap := OrientedCmp.eq_swap
    rw [swapped]
    cases Route.compare a b <;> rfl
  have sorted := List.pairwise_mergeSort (fun _ _ _ => TransCmp.isLE_trans) total routes
  have apart := (List.mergeSort_perm routes fun a b => (Route.compare a b).isLE).nodup_iff.mpr nodup
  refine (sorted.and apart).imp ?_
  rintro a b ⟨before, other⟩
  cases order : Route.compare a b with
  | lt => rfl
  | eq => exact absurd (Route.compare_eq_iff.mp order) other
  | gt =>
      rw [order] at before
      cases before

theorem exact_between (installed desired : List Route) :
    (between installed desired).Exact (installed.map Route.normalized) (desired.map Route.normalized) where
  add _ := mem_add_iff
  inOrder := inOrderOf_eraseDups_filter _ _
  remove _ := mem_remove_iff
  ascending := ascending_mergeSort (inOrderOf_eraseDups_filter _ _).nodup

/-! ### Sets that are gone through -/

/-- The order names each of the routes once, and no other. -/
structure GoesThrough (order routes : List Route) : Prop where
  once : order.Nodup
  mem : ∀ r, r ∈ order ↔ r ∈ routes

/-- The routes that are not present and have not been seen before. -/
def unseen (present : List Route) : List Route → List Route → List Route
  | _, [] => []
  | seen, r :: rest =>
    if r ∈ present ∨ r ∈ seen then unseen present seen rest else r :: unseen present (r :: seen) rest

/-- The changes as they are gathered from a set of what is present and a set of what is wanted. -/
def gathered (present want desired : List Route) : RouteChanges where
  add := unseen present [] (desired.map Route.normalized)
  remove := (present.filter fun r => !want.contains r).mergeSort fun a b => (Route.compare a b).isLE

theorem unseen_eq (present seen routes : List Route) :
    unseen present seen routes = (routes.filter fun r => !present.contains r && !seen.contains r).eraseDups := by
  induction routes generalizing seen with
  | nil => rfl
  | cons r rest ih =>
      rw [unseen]
      by_cases known : r ∈ present ∨ r ∈ seen
      · rw [if_pos known, ih, List.filter_cons_of_neg]
        simpa [Classical.or_iff_not_imp_left] using known
      · rw [if_neg known, ih, List.filter_cons_of_pos (by simpa using known), List.eraseDups_cons,
          List.filter_filter]
        congr 3
        funext q
        by_cases same : q = r <;> simp [same]

theorem exact_gathered (first : GoesThrough present (installed.map Route.normalized))
    (second : GoesThrough want (desired.map Route.normalized)) :
    (gathered present want desired).Exact (installed.map Route.normalized) (desired.map Route.normalized) where
  add r := by simp [gathered, unseen_eq, List.mem_eraseDups, first.mem]
  inOrder := by
    rw [gathered, unseen_eq]
    exact inOrderOf_eraseDups_filter _ _
  remove r := by simp [gathered, List.mem_mergeSort, first.mem, second.mem]
  ascending := ascending_mergeSort (first.once.filter _)

/-! ### The changes between two lists -/

theorem between_congr {others : List Route}
    (same : ∀ r, r ∈ others.map Route.normalized ↔ r ∈ installed.map Route.normalized) :
    between others desired = between installed desired :=
  (exact_between others desired).eq ((exact_between installed desired).congr same)

theorem map_normalized_self {routes : List Route} (normal : ∀ r ∈ routes, r.normalized = r) :
    routes.map Route.normalized = routes :=
  (List.map_congr_left normal).trans (List.map_id _)

theorem normalized_of_mem {routes : List Route} : ∀ r ∈ routes.map Route.normalized, r.normalized = r := by
  intro r mem
  obtain ⟨q, -, rfl⟩ := List.mem_map.mp mem
  exact Route.normalized_normalized q

/-- The changes are the two differences. They are disjoint, lead to what is wanted, and are none just when nothing
else is there. How the routes are listed that are there does not matter, nor in which order sets of them are gone
through, nor whether the host bits have been cleared before; and once they are made there are none left. -/
theorem between_is_difference (installed desired : List Route) :
    let present := installed.map Route.normalized
    let want := desired.map Route.normalized
    let changes := between installed desired
    changes.Exact present want ∧ changes.add.Nodup ∧ changes.remove.Nodup ∧
      (∀ r ∈ changes.add, r ∉ changes.remove) ∧
      (∀ r, r ∈ present ∧ r ∉ changes.remove ∨ r ∈ changes.add ↔ r ∈ want) ∧
      (changes.add = [] ∧ changes.remove = [] ↔ ∀ r, r ∈ present ↔ r ∈ want) ∧
      (∀ others, (∀ r, r ∈ others ↔ r ∈ installed) → between others desired = changes) ∧
      (∀ first second, GoesThrough first present → GoesThrough second want →
        gathered first second desired = changes) ∧
      between present desired = changes ∧ between installed want = changes ∧
      ∀ later, (∀ r, r ∈ later ↔ r ∈ present ∧ r ∉ changes.remove ∨ r ∈ changes.add) →
        between later desired = ⟨[], []⟩ := by
  intro present want changes
  have exact : changes.Exact present want := exact_between installed desired
  have present_normal : present.map Route.normalized = present := map_normalized_self normalized_of_mem
  have want_normal : want.map Route.normalized = want := map_normalized_self normalized_of_mem
  refine ⟨exact, exact.inOrder.nodup, exact.nodup_remove, ?_, exact.mem_after_iff, exact.eq_empty_iff, ?_, ?_, ?_,
    ?_, ?_⟩
  · intro r added removed
    exact ((exact.remove r).mp removed).2 ((exact.add r).mp added).1
  · intro others same
    refine between_congr fun r => ?_
    simp only [List.mem_map, same]
  · intro first second through wanted
    exact (exact_gathered through wanted).eq exact
  · exact between_congr fun r => by rw [present_normal]
  · have again := exact_between installed want
    rw [want_normal] at again
    exact again.eq exact
  · intro later listed
    have mem (r : Route) : r ∈ later ↔ r ∈ want := (listed r).trans (exact.mem_after_iff r)
    have later_normal : later.map Route.normalized = later :=
      map_normalized_self fun r among => normalized_of_mem r ((mem r).mp among)
    have again := exact_between later desired
    rw [later_normal] at again
    obtain ⟨none_added, none_removed⟩ := again.eq_empty_iff.mpr mem
    exact eq_of_parts none_added none_removed

/-- A route through the gateway of its family. -/
def routeTo (address : Address) (length : Fin 33) : Route where
  destination.address := address
  destination.length := length
  destination.length_le := by cases address <;> simp only [Address.family, Family.width] <;> omega
  via :=
    match address with
    | .v4 _ => .v4 0xC0A80001
    | .v6 _ => .v6 0xFE800000000000000000000000000001

/-- A network with host bits that is listed twice, and one of the other family. -/
def scattered : List Route :=
  [routeTo (.v4 0x0A000007) 24, routeTo (.v6 0xFD000000000000000000000000000009) 32, routeTo (.v4 0x0A000009) 24]

/-- The first of them, and another network that is listed twice. -/
def wished : List Route :=
  [routeTo (.v4 0x0A010203) 16, routeTo (.v4 0x0A000000) 24, routeTo (.v4 0x0A010000) 16]

theorem scattered_difference :
    between scattered wished =
        ⟨[routeTo (.v4 0x0A010000) 16], [routeTo (.v6 0xFD000000000000000000000000000000) 32]⟩ ∧
      between scattered.reverse wished = between scattered wished ∧
      gathered [routeTo (.v6 0xFD000000000000000000000000000000) 32, routeTo (.v4 0x0A000000) 24]
        [routeTo (.v4 0x0A000000) 24, routeTo (.v4 0x0A010000) 16] wished = between scattered wished ∧
      between [routeTo (.v4 0x0A010000) 16, routeTo (.v4 0x0A000000) 24] wished = ⟨[], []⟩ := by
  obtain ⟨-, -, -, -, after, -, listed, through, -, -, again⟩ := between_is_difference scattered wished
  have both {a b : List Route} (into : ∀ r ∈ a, r ∈ b) (onto : ∀ r ∈ b, r ∈ a) (r : Route) : r ∈ a ↔ r ∈ b :=
    ⟨into r, onto r⟩
  have changes : between scattered wished =
      ⟨[routeTo (.v4 0x0A010000) 16], [routeTo (.v6 0xFD000000000000000000000000000000) 32]⟩ := by decide +kernel
  refine ⟨changes, listed _ fun r => List.mem_reverse, ?_, again _ fun r => ?_⟩
  · exact through _ _ ⟨by decide, both (by decide) (by decide)⟩ ⟨by decide, both (by decide) (by decide)⟩
  · rw [after]
    exact both (by decide) (by decide) r

end RouteChanges

end LinkKeeper
