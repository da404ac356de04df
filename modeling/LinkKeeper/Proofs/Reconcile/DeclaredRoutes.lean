import Mathlib.Data.List.Forall2
import LinkKeeper.Proofs.Link.Survey
import LinkKeeper.Reconcile.Plan

/-!
The routes that a network declares.

A declared route has two texts, read by two grammars. The routes of a network are read as a whole: if a text of one
entry cannot be read, no entry counts.

* `Net.Address.toNat_keepLeading`: clearing the host bits of an address, told by its number.
* `RouteSpec.Gives`: the route that an entry stands for; `RouteSpec.Faulty`: the text of it that cannot be read.
* `desiredRoutes_reads`: all entries are read, in order, or the first text that cannot be read is told.
-/

namespace LinkKeeper

open Net

/-- The number of bits that tell the hosts of the network apart. -/
def Net.Network.hostBits (n : Network) : Nat := n.family.width - n.length

/-- Of an address of either family the number is cut down to a multiple of the hosts in the network. -/
theorem Net.Address.toNat_keepLeading (len : Nat) (a : Address) :
    (a.keepLeading len).toNat =
      a.toNat / Nat.pow 2 (a.family.width - len) * Nat.pow 2 (a.family.width - len) := by
  have cut {width : Nat} (bits : BitVec width) (hosts : Nat) :
      (bits &&& (BitVec.allOnes width <<< hosts)).toNat = bits.toNat / Nat.pow 2 hosts * Nat.pow 2 hosts := by
    have smaller : bits.toNat / Nat.pow 2 hosts * Nat.pow 2 hosts < Nat.pow 2 width :=
      Nat.lt_of_le_of_lt (Nat.div_mul_le_self _ _) bits.isLt
    rw [← BitVec.shiftLeft_ushiftRight, BitVec.toNat_shiftLeft, BitVec.toNat_ushiftRight,
      Nat.shiftRight_eq_div_pow, Nat.shiftLeft_eq]
    exact Nat.mod_eq_of_lt smaller
  cases a with
  | v4 bits => exact cut bits (32 - len)
  | v6 bits => exact cut bits (128 - len)

namespace RouteSpec

/-- The destination as it is read, blanks around it apart. -/
def destination? (r : RouteSpec) : Option Network := Network.parse? (Text.trim r.destination.toList)

/-- The gateway as it is read, blanks around it apart. -/
def gateway? (r : RouteSpec) : Option Address := Address.parse? (Text.trim r.via.toList)

/-- Both texts can be read. -/
def Readable (r : RouteSpec) : Prop := (∃ d, r.destination? = some d) ∧ ∃ via, r.gateway? = some via

/-- The text that cannot be read; if neither can be, it is the destination. -/
inductive Faulty (r : RouteSpec) : RouteField → String → Prop where
  | destination (unreadable : r.destination? = none) : Faulty r .destination r.destination
  | via (readable : ∃ d, r.destination? = some d) (unreadable : r.gateway? = none) : Faulty r .via r.via

/-- The entry stands for the route: it has the declared gateway, and its destination is the declared network, of the
same family and prefix length, with the host bits cleared. -/
inductive Gives (r : RouteSpec) (route : Route) : Prop where
  | read {declared : Network} (read : r.destination? = some declared) (gateway : r.gateway? = some route.via)
      (normalized : route.normalized = route) (family : route.destination.family = declared.family)
      (length : route.destination.length = declared.length)
      (leading : route.destination.address.toNat =
        declared.address.toNat / Nat.pow 2 declared.hostBits * Nat.pow 2 declared.hostBits)

variable {r : RouteSpec} {field : RouteField} {name value : String}

theorem Faulty.not_readable (faulty : r.Faulty field value) : ¬ r.Readable := by
  rintro ⟨⟨d, read⟩, via, given⟩
  cases faulty with
  | destination unreadable => cases unreadable.symm.trans read
  | via _ unreadable => cases unreadable.symm.trans given

/-- An entry is read, or a text of it is told. -/
theorem routeOf_cases (name : String) (r : RouteSpec) :
    (r.Readable ∧ ∃ route, r.Gives route ∧ routeOf name r = .ok route) ∨
      ∃ field value, r.Faulty field value ∧ routeOf name r = .error (.invalidRoute name field value) := by
  unfold routeOf
  cases aimed : Network.parse? (Text.trim r.destination.toList) with
  | none => exact .inr ⟨_, _, .destination aimed, rfl⟩
  | some declared =>
      have read : r.destination? = some declared := aimed
      cases sent : Address.parse? (Text.trim r.via.toList) with
      | none => exact .inr ⟨_, _, .via ⟨declared, read⟩ sent, rfl⟩
      | some via =>
          have gateway : r.gateway? = some via := sent
          refine .inl ⟨⟨⟨declared, read⟩, via, gateway⟩, _, ?_, rfl⟩
          exact .read read gateway (Route.normalized_normalized _) (Network.family_truncated declared)
            (Network.length_truncated declared) (Address.toNat_keepLeading _ _)

theorem readable_iff : r.Readable ↔ ∃ route, routeOf name r = .ok route := by
  rcases routeOf_cases name r with ⟨readable, route, -, read⟩ | ⟨field, value, faulty, told⟩
  · exact iff_of_true readable ⟨route, read⟩
  · refine iff_of_false faulty.not_readable ?_
    rintro ⟨route, read⟩
    rw [told] at read
    cases read

end RouteSpec

/-- What is read in order stands in the order of the items. -/
theorem forall₂_of_mapM {α β ε : Type} {f : α → Except ε β} {items : List α} {results : List β}
    (read : items.mapM f = .ok results) : List.Forall₂ (fun a b => f a = .ok b) items results := by
  induction items generalizing results with
  | nil =>
      cases read
      exact .nil
  | cons x rest ih =>
      rw [List.mapM_cons] at read
      cases first : f x with
      | error e =>
          rw [first] at read
          cases read
      | ok b =>
          cases later : rest.mapM f with
          | error e =>
              rw [first, later] at read
              cases read
          | ok more =>
              rw [first, later] at read
              cases read
              exact .cons first (ih later)

/-- What the routes of a network are read as: each entry gives its route, in order, or the first text that cannot be
read is told as it stands in the declaration. -/
inductive ReadsDeclared (network : PrivateNetwork) : Except KeeperError (List Route) → Prop where
  | whole {routes : List Route} (readable : ∀ r ∈ network.spec.routes, r.Readable)
      (gives : List.Forall₂ RouteSpec.Gives network.spec.routes routes) : ReadsDeclared network (.ok routes)
  | faulty {earlier later : List RouteSpec} {r : RouteSpec} {field : RouteField} {value : String}
      (split : network.spec.routes = earlier ++ r :: later) (before : ∀ q ∈ earlier, q.Readable)
      (faulty : r.Faulty field value) :
      ReadsDeclared network (.error (.invalidRoute (network.metadata.name.getD "") field value))

theorem desiredRoutes_reads (network : PrivateNetwork) : ReadsDeclared network (desiredRoutes network) := by
  unfold desiredRoutes
  rcases mapM_ok_or_error (routeOf (network.metadata.name.getD "")) network.spec.routes with
    all | ⟨earlier, r, later, e, split, passed, fails, ends⟩
  · obtain ⟨routes, read, -, -⟩ := mapM_eq_pure all
    rw [read]
    refine .whole (fun r mem => RouteSpec.readable_iff.mpr (all r mem)) ?_
    refine (forall₂_of_mapM read).imp ?_
    intro r route own
    rcases RouteSpec.routeOf_cases (network.metadata.name.getD "") r with ⟨-, _, gives, same⟩ | ⟨_, _, -, told⟩
    · cases same.symm.trans own
      exact gives
    · cases told.symm.trans own
  · rw [ends]
    rcases RouteSpec.routeOf_cases (network.metadata.name.getD "") r with ⟨-, _, -, same⟩ | ⟨_, _, faulty, told⟩
    · cases same.symm.trans fails
    · cases told.symm.trans fails
      exact .faulty split (fun q mem => RouteSpec.readable_iff.mpr (passed q mem)) faulty

/-- The routes are read just when each entry can be. -/
theorem desiredRoutes_ok_iff {network : PrivateNetwork} :
    (∃ routes, desiredRoutes network = .ok routes) ↔ ∀ r ∈ network.spec.routes, r.Readable := by
  have reads := desiredRoutes_reads network
  generalize desiredRoutes network = read at reads
  cases reads with
  | whole readable => exact iff_of_true ⟨_, rfl⟩ readable
  | @faulty earlier later r _ _ split _ faulty =>
      refine iff_of_false (fun ⟨_, same⟩ => nomatch same) ?_
      intro all
      exact faulty.not_readable (all r (by simp [split]))

end LinkKeeper
