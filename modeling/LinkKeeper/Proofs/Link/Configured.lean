import LinkKeeper.Proofs.Link.HeldAddresses

/-!
What the addresses of a link come to.

An operation asks for the addresses once, and then takes the stale ones of the family out and puts the wanted one in.
As nothing is assumed of the state before, a call makes up for any earlier one, however that has ended: what calls
leave as it is, they leave so at every step.

* `AddressHost.Lawful.yields_configure`: the links and the addresses after the operation, in terms of those before it.
* `AddressHost.Spares`: what calls leave as it is; `AddressHost.Spares.answer` says so of a command, and
  `AddressHost.spares_of_calls` of calls in a row.
* `AddressHost.Configured`: what a host is like after the operation.
* `AddressHost.configure_converges`: that it comes to this, and that nothing is left to change then.
-/

namespace LinkKeeper

open Net

/-! ### The state after the operation -/

namespace Scopes

variable {address n : Network} {scopes : Scopes}

/-- Of one family no other address of global scope is there. -/
def cleared (scopes : Scopes) (address : Network) : Scopes := fun n =>
  if n.family = address.family ∧ n ≠ address ∧ scopes n = some "global" then none else scopes n

/-- The address is there with global scope, as the only one of its family. -/
def settled (scopes : Scopes) (address : Network) : Scopes := (scopes.cleared address).put address

theorem put_of_eq (there : scopes n = some "global") : scopes.put n = scopes := by
  funext m
  unfold put
  split
  · rename_i own
    rw [own, there]
  · rfl

theorem cleared_self : scopes.cleared address address = scopes address := if_neg fun stale => stale.2.1 rfl

/-- The addresses that are deleted are the stale ones. -/
theorem foldl_takeOut_stale {current : List Network} (mem : ∀ n, n ∈ current ↔ scopes n = some "global") :
    (current.filter fun n => n.family = address.family && n ≠ address).foldl takeOut scopes =
      scopes.cleared address := by
  funext n
  have stale : n ∈ current.filter (fun n => n.family = address.family && n ≠ address) ↔
      n.family = address.family ∧ n ≠ address ∧ scopes n = some "global" := by
    rw [List.mem_filter, mem, Bool.and_eq_true, decide_eq_true_eq, decide_eq_true_eq, and_comm, and_assoc]
  rw [foldl_takeOut, cleared]
  simp only [stale]

theorem settled_self : scopes.settled address address = some "global" := if_pos rfl

theorem settled_of_ne (other : n ≠ address) : scopes.settled address n = scopes.cleared address n := if_neg other

/-- The only global address of the family is the wanted one. -/
theorem settled_eq_global_iff (own : n.family = address.family) :
    scopes.settled address n = some "global" ↔ n = address := by
  by_cases same : n = address
  · rw [same, settled_self]
    simp
  · rw [settled_of_ne same, cleared]
    split <;> simp_all

/-- The addresses of the other family stay as they are. -/
theorem settled_of_family_ne (other : n.family ≠ address.family) : scopes.settled address n = scopes n := by
  have apart : n ≠ address := fun same => other (congrArg Network.family same)
  rw [settled_of_ne apart, cleared, if_neg fun stale => other stale.1]

section Narrow

variable {scope : String}

/-! The addresses of no global scope stay as they are, if an address that is put in or taken out is none of them. -/

theorem put_eq_some_iff (narrow : scope ≠ "global") (free : ∀ other, scopes address = some other → other = "global") :
    scopes.put address n = some scope ↔ scopes n = some scope := by
  unfold put
  split
  · rename_i own
    subst own
    constructor
    · intro global
      exact absurd (Option.some.inj global).symm narrow
    · intro there
      exact absurd (free scope there) narrow
  · rfl

theorem takeOut_eq_some_iff (narrow : scope ≠ "global")
    (free : ∀ other, scopes address = some other → other = "global") :
    scopes.takeOut address n = some scope ↔ scopes n = some scope := by
  unfold takeOut
  split
  · rename_i own
    subst own
    constructor
    · rintro ⟨⟩
    · intro there
      exact absurd (free scope there) narrow
  · rfl

theorem cleared_eq_some_iff (narrow : scope ≠ "global") :
    scopes.cleared address n = some scope ↔ scopes n = some scope := by
  unfold cleared
  split
  · rename_i stale
    simp [stale.2.2, Ne.symm narrow]
  · rfl

theorem settled_eq_some_iff (narrow : scope ≠ "global")
    (free : ∀ other, scopes address = some other → other = "global") :
    scopes.settled address n = some scope ↔ scopes n = some scope :=
  (put_eq_some_iff narrow fun other there => free other (cleared_self.symm.trans there)).trans
    (cleared_eq_some_iff narrow)

end Narrow

end Scopes

namespace AddressHost

variable {σ : Type} {h : AddressHost σ} {s t u : σ} {mac device : String} {link : LinkEntry} {address : Network}

/-- What the changes of addresses come to, where the global ones are known. -/
theorem Lawful.yields_addressChanges (lawful : h.Lawful) {current : List Network}
    (mem : ∀ n, n ∈ current ↔ h.scopes s device n = some "global") :
    h.Yields (Links.runAll (Links.addressChanges device address current)) s fun _ _ t =>
      h.links t = h.links s ∧ h.scopes t = Scopes.onLink device Scopes.settled (h.scopes s) address := by
  unfold Links.addressChanges
  rw [Links.runAll_append]
  refine LinkHost.yields_bind (LinkHost.yields_each (fun _ => rfl) fun n _ => lawful.deleteAddress n device) ?_
  rintro _ _ t ⟨rfl, links, removed⟩
  rw [Scopes.foldl_onLink, Scopes.onLink_congr (y := address) (Scopes.foldl_takeOut_stale mem)] at removed
  by_cases present : current.contains address = true
  · rw [if_pos present]
    refine LinkHost.yields_pure ⟨links, ?_⟩
    have there := (mem address).mp (List.contains_iff_mem.mp present)
    rw [removed]
    exact Scopes.onLink_congr (Scopes.put_of_eq (Scopes.cleared_self.trans there)).symm
  · rw [if_neg present]
    refine (LinkHost.yields_single (lawful.addAddress address device t)).mono ?_
    rintro _ _ u ⟨same, added⟩
    refine ⟨same.trans links, ?_⟩
    rw [added, removed, Scopes.onLink_onLink]
    exact Scopes.onLink_congr rfl

/-- The links and the addresses after the operation. -/
theorem Lawful.yields_configure (lawful : h.Lawful) (found : (h.links s).find? (·.hasAddress mac) = some link) :
    h.Yields (Links.configure mac address) s fun _ _ t =>
      h.links t = (if link.isUp then h.links s else (h.links s).map (.turned link.name "UP")) ∧
        h.scopes t = Scopes.onLink link.name Scopes.settled (h.scopes s) address := by
  refine LinkHost.yields_bind (LinkHost.yields_find (lawful.showLinks _) found) ?_
  rintro link _ t ⟨rfl, rfl, first⟩
  have raised : h.Yields (Links.runAll (if link.isUp then [] else [.setUp link.name])) t fun _ _ u =>
      h.links u = (if link.isUp then h.links s else (h.links s).map (.turned link.name "UP")) ∧
        h.scopes u = h.scopes s := by
    by_cases up : link.isUp = true
    · rw [if_pos up, if_pos up]
      exact LinkHost.yields_pure ⟨first.links, first.scopes⟩
    · rw [if_neg up, if_neg up]
      refine (LinkHost.yields_single (lawful.setUp link.name t)).mono ?_
      rintro _ _ u ⟨links, scopes⟩
      exact ⟨by rw [links, first.links], scopes.trans first.scopes⟩
  refine LinkHost.yields_bind raised ?_
  rintro _ _ u ⟨links, scopes⟩
  refine LinkHost.yields_bind lawful.yields_globalAddresses ?_
  rintro current _ v ⟨-, same, mem⟩
  rw [← same.scopes] at mem
  refine (lawful.yields_addressChanges mem).mono ?_
  rintro _ _ w ⟨kept, changed⟩
  exact ⟨kept.trans (same.links.trans links), by rw [changed, same.scopes, scopes]⟩

/-! ### What calls leave as it is -/

variable (h) in
/-- What calls leave as it is: of the links at most the state of the one, of its addresses those of no global scope
and those of the other family, and all addresses of the other links. -/
structure Spares (link : LinkEntry) (address : Network) (s t : σ) : Prop where
  links : h.links t = h.links s ∨ h.links t = (h.links s).map (.turned link.name "UP")
  narrow : ∀ n scope, scope ≠ "global" →
    (h.scopes t link.name n = some scope ↔ h.scopes s link.name n = some scope)
  otherFamily : ∀ n, n.family ≠ address.family → h.scopes t link.name n = h.scopes s link.name n
  elsewhere : ∀ device, device ≠ link.name → h.scopes t device = h.scopes s device

variable (h) in
/-- The host after the operation: the link is up, and the address is the only global one of its family. -/
structure Configured (mac : String) (link : LinkEntry) (address : Network) (s t : σ) : Prop
    extends h.Spares link address s t where
  up : (h.links t).find? (·.hasAddress mac) = some { link with state := some "UP" }
  otherLinks : (h.links t).filter (·.name ≠ link.name) = (h.links s).filter (·.name ≠ link.name)
  only : ∀ n, n.family = address.family → (h.scopes t link.name n = some "global" ↔ n = address)

/-- The commands that a call asks for in a host with these addresses: no address of another scope is deleted. -/
inductive Configures (link : LinkEntry) (address : Network) (scopes : Scopes) : IpCommand → Prop where
  | showLinks : Configures link address scopes .showLinks
  | showAddresses : Configures link address scopes (.showAddresses link.name)
  | setUp : Configures link address scopes (.setUp link.name)
  | addAddress : Configures link address scopes (.addAddress address link.name)
  | deleteAddress {n : Network} (own : n.family = address.family)
      (free : ∀ scope, scopes n = some scope → scope = "global") :
      Configures link address scopes (.deleteAddress n link.name)

section Spares

theorem Spares.of_same (same : h.Same s t) : h.Spares link address s t := by
  refine ⟨.inl same.links, ?_, ?_, ?_⟩ <;> simp only [same.scopes, implies_true]

theorem Spares.trans (first : h.Spares link address s t) (later : h.Spares link address t u) :
    h.Spares link address s u := by
  refine ⟨?_, ?_, ?_, ?_⟩
  · rcases later.links with same | turned
    · rw [same]
      exact first.links
    · right
      rcases first.links with same | already
      · rw [turned, same]
      · rw [turned, already, List.map_map]
        exact List.map_congr_left fun l _ => LinkEntry.turned_turned l
  · intro n scope other
    rw [later.narrow n scope other, first.narrow n scope other]
  · intro n other
    rw [later.otherFamily n other, first.otherFamily n other]
  · intro device apart
    rw [later.elsewhere device apart, first.elsewhere device apart]

/-- A change of the global addresses of the family on the link. -/
theorem Spares.of_change {α : Type} {change : Scopes → α → Scopes} {x : α}
    (links : h.links t = h.links s ∨ h.links t = (h.links s).map (.turned link.name "UP"))
    (scopes : h.scopes t = Scopes.onLink link.name change (h.scopes s) x)
    (narrow : ∀ n scope, scope ≠ "global" →
      (change (h.scopes s link.name) x n = some scope ↔ h.scopes s link.name n = some scope))
    (otherFamily : ∀ n, n.family ≠ address.family → change (h.scopes s link.name) x n = h.scopes s link.name n) :
    h.Spares link address s t := by
  refine ⟨links, ?_, ?_, ?_⟩
  · intro n scope other
    rw [scopes, Scopes.onLink_self, narrow n scope other]
  · intro n other
    rw [scopes, Scopes.onLink_self, otherFamily n other]
  · intro device apart
    rw [scopes, Scopes.onLink_of_ne apart]

/-- An address is of no other scope now if it has been of none. -/
theorem Spares.free (spares : h.Spares link address s t) {n : Network}
    (free : ∀ scope, h.scopes s link.name n = some scope → scope = "global") :
    ∀ scope, h.scopes t link.name n = some scope → scope = "global" := by
  intro scope there
  by_cases global : scope = "global"
  · exact global
  · exact free scope ((spares.narrow n scope global).mp there)

/-- The link is still the same one. -/
theorem Spares.find? (spares : h.Spares link address s t)
    (found : (h.links s).find? (·.hasAddress mac) = some link) :
    ∃ state, (h.links t).find? (·.hasAddress mac) = some { link with state := state } := by
  rcases spares.links with same | turned
  · exact ⟨link.state, same ▸ found⟩
  · refine ⟨some "UP", ?_⟩
    rw [turned, LinkEntry.find?_turned, found, Option.map_some, LinkEntry.turned_self]

/-- No command that a call asks for touches what calls leave as it is. -/
theorem Spares.answer (lawful : h.Lawful) (gentle : h.Gentle)
    (free : ∀ scope, h.scopes s link.name address = some scope → scope = "global") {c : IpCommand}
    (asked : Configures link address (h.scopes s link.name) c) (spares : h.Spares link address s t) :
    h.Spares link address s (h.answer c t).2 := by
  refine spares.trans ?_
  cases gives : h.answer c t with
  | mk reply u =>
      cases reply with
      | error e => exact .of_same (gentle _ _ _ _ gives)
      | ok text =>
          cases asked with
          | showLinks => exact .of_same (lawful.showLinks _ _ _ gives).1
          | showAddresses => exact .of_same (lawful.showAddresses _ _ _ _ gives).1
          | setUp =>
              obtain ⟨links, scopes⟩ := lawful.setUp _ _ _ _ gives
              refine ⟨.inr links, ?_, ?_, ?_⟩ <;> simp only [scopes, implies_true]
          | addAddress =>
              obtain ⟨links, scopes⟩ := lawful.addAddress _ _ _ _ _ gives
              refine .of_change (.inl links) scopes ?_ ?_
              · intro n scope narrow
                exact Scopes.put_eq_some_iff narrow (spares.free free)
              · intro n other
                exact if_neg fun own => other (congrArg Network.family own)
          | @deleteAddress m own free =>
              obtain ⟨links, scopes⟩ := lawful.deleteAddress _ _ _ _ _ gives
              refine .of_change (.inl links) scopes ?_ ?_
              · intro n scope narrow
                exact Scopes.takeOut_eq_some_iff narrow (spares.free free)
              · intro n other
                have apart : n ≠ m := fun same => other (same ▸ own)
                exact if_neg apart

/-- The changes of addresses are of this kind: an address that is there with global scope has been of no other. -/
theorem Spares.configures (spares : h.Spares link address s t) {current : List Network}
    (mem : ∀ n, n ∈ current ↔ h.scopes t link.name n = some "global") {c : IpCommand}
    (among : c ∈ Links.addressChanges link.name address current) :
    Configures link address (h.scopes s link.name) c := by
  rcases List.mem_append.mp among with deleted | added
  · obtain ⟨n, stale, rfl⟩ := List.mem_map.mp deleted
    obtain ⟨there, own⟩ := List.mem_filter.mp stale
    rw [Bool.and_eq_true, decide_eq_true_eq] at own
    refine .deleteAddress own.1 fun scope before => ?_
    by_cases wide : scope = "global"
    · exact wide
    · have now := (spares.narrow n scope wide).mpr before
      rw [(mem n).mp there] at now
      exact (Option.some.inj now).symm
  · split at added
    · cases added
    · rw [List.mem_singleton.mp added]
      exact .addAddress

/-- A call leaves all this as it is, however it ends. -/
theorem Spares.configure (lawful : h.Lawful) (gentle : h.Gentle)
    (found : (h.links s).find? (·.hasAddress mac) = some link)
    (free : ∀ scope, h.scopes s link.name address = some scope → scope = "global")
    (spares : h.Spares link address s t) : h.Spares link address s (h.run (Links.configure mac address) t).2 := by
  have keeps := fun c asked t => Spares.answer (c := c) (t := t) lawful gentle free asked
  obtain ⟨state, there⟩ := spares.find? found
  refine LinkHost.run_bind_keeps (LinkHost.run_keeps _ ?_ keeps spares) ?_
  · intro event mem
    rw [(Links.path_find (Program.path_run h.answer _ t)).looks event mem]
    exact .showLinks
  intro entry t' ran spares
  obtain ⟨rfl, -, -⟩ := (LinkHost.yields_find (lawful.showLinks _) there).of_ok (Links.heeds_find mac) ran
  refine LinkHost.run_bind_keeps (LinkHost.run_keeps _ ?_ keeps spares) ?_
  · intro event mem
    have among := (Links.path_runAll (Program.path_run h.answer _ t')).mem event mem
    split at among
    · cases among
    · rw [List.mem_singleton.mp among]
      exact .setUp
  intro _ u _ spares
  refine LinkHost.run_bind_keeps (LinkHost.run_keeps _ ?_ keeps spares) ?_
  · intro event mem
    obtain ⟨reply, traced, -⟩ := Links.path_globalAddresses (Program.path_run h.answer _ u)
    rw [LinkHost.trace, traced] at mem
    rw [List.mem_singleton.mp mem]
    exact .showAddresses
  intro current v ran same
  obtain ⟨-, -, global⟩ := lawful.yields_globalAddresses.of_ok (Links.heeds_globalAddresses _) ran
  refine LinkHost.run_keeps _ ?_ keeps same
  intro event mem
  exact spares.configures global ((Links.path_runAll (Program.path_run h.answer _ v)).mem event mem)

end Spares

theorem spares_of_calls (lawful : h.Lawful) (gentle : h.Gentle)
    (found : (h.links s).find? (·.hasAddress mac) = some link)
    (free : ∀ scope, h.scopes s link.name address = some scope → scope = "global")
    (calls : h.Calls (Links.configure mac address) s t) : h.Spares link address s t := by
  induction calls with
  | none => exact .of_same (.refl s)
  | again _ ih => exact ih.configure lawful gentle found free

/-! ### What the operation comes to -/

/-- After the operation the host is as it is to be, wherever earlier calls have left it. -/
theorem Spares.configured (spares : h.Spares link address s t)
    (found : (h.links s).find? (·.hasAddress mac) = some link)
    (free : ∀ scope, h.scopes s link.name address = some scope → scope = "global") (lawful : h.Lawful) :
    h.Yields (Links.configure mac address) t fun _ _ u => h.Configured mac link address s u := by
  obtain ⟨state, there⟩ := spares.find? found
  refine (lawful.yields_configure there).mono ?_
  rintro _ _ u ⟨links, scopes⟩
  have later : h.Spares link address t u := by
    refine .of_change ?_ scopes ?_ ?_
    · rw [links]
      split
      · exact .inl rfl
      · exact .inr rfl
    · intro n scope narrow
      exact Scopes.settled_eq_some_iff narrow (spares.free free)
    · intro n other
      exact Scopes.settled_of_family_ne other
  refine ⟨spares.trans later, ?_, ?_, ?_⟩
  · rw [links]
    split
    · rename_i up
      obtain rfl : state = some "UP" := of_decide_eq_true up
      exact there
    · rw [LinkEntry.find?_turned, there]
      exact congrArg some (LinkEntry.turned_self _ _)
  · rcases (spares.trans later).links with same | turned
    · rw [same]
    · rw [turned, LinkEntry.filter_turned]
  · intro n own
    rw [scopes, Scopes.onLink_self, Scopes.settled_eq_global_iff own]

/-- Nothing is left to change then. -/
theorem Configured.changes_eq_nil (configured : h.Configured mac link address s t) (lawful : h.Lawful) :
    h.changes (Links.configure mac address) t = [] := by
  refine LinkHost.changes_bind_eq_nil (LinkHost.changes_find mac t) ?_
  intro entry u ran
  obtain ⟨rfl, -, same⟩ := (LinkHost.yields_find (lawful.showLinks _) configured.up).of_ok (Links.heeds_find mac) ran
  refine LinkHost.changes_bind_eq_nil rfl ?_
  rintro _ _ ⟨⟩
  refine LinkHost.changes_bind_eq_nil (LinkHost.changes_globalAddresses _ _) ?_
  intro current v ran
  obtain ⟨-, -, mem⟩ := lawful.yields_globalAddresses.of_ok (Links.heeds_globalAddresses _) ran
  rw [same.scopes] at mem
  have none_stale : current.filter (fun n => n.family = address.family && n ≠ address) = [] := by
    rw [List.filter_eq_nil_iff]
    intro n there
    rw [Bool.and_eq_true, decide_eq_true_eq, decide_eq_true_eq]
    rintro ⟨own, other⟩
    exact other ((configured.only n own).mp ((mem n).mp there))
  have present : current.contains address = true :=
    List.contains_iff_mem.mpr ((mem address).mpr ((configured.only address rfl).mpr rfl))
  rw [Links.addressChanges, none_stale, if_pos present]
  rfl

/-- The operation ends with the link up and the address as its only global one of its family, with all else as it was,
and a second call has nothing to change. It does so after any calls before it too, however those have ended, if a
command that fails leaves the host as it is. -/
theorem configure_converges (lawful : h.Lawful) (found : (h.links s).find? (·.hasAddress mac) = some link)
    (free : ∀ scope, h.scopes s link.name address = some scope → scope = "global") :
    (h.Unfailing (Links.configure mac address) s →
      ∃ t, h.run (Links.configure mac address) s = (.ok (), t) ∧ h.Configured mac link address s t ∧
        h.changes (Links.configure mac address) t = []) ∧
      (h.Gentle → ∀ u, h.Calls (Links.configure mac address) s u → h.Unfailing (Links.configure mac address) u →
        ∃ t, h.run (Links.configure mac address) u = (.ok (), t) ∧ h.Configured mac link address s t ∧
          h.changes (Links.configure mac address) t = []) := by
  have comes {u : σ} (spares : h.Spares link address s u) (unfailing : h.Unfailing (Links.configure mac address) u) :
      ∃ t, h.run (Links.configure mac address) u = (.ok (), t) ∧ h.Configured mac link address s t ∧
        h.changes (Links.configure mac address) t = [] := by
    obtain ⟨_, t, ran, configured⟩ := spares.configured found free lawful unfailing
    exact ⟨t, ran, configured, configured.changes_eq_nil lawful⟩
  refine ⟨comes (.of_same (.refl s)), ?_⟩
  intro gentle u calls
  exact comes (spares_of_calls lawful gentle found free calls)

section Littered

open HeldAddresses

/-- The call for the link that is littered. -/
abbrev configureLittered : LinkProgram Unit := Links.configure "02:00:00:0A:BC:01" wanted

/-- A call in a littered state, and another one after it. -/
theorem littered_link_configured :
    (∃ t, host.run configureLittered littered = (.ok (), t) ∧
        host.Configured "02:00:00:0A:BC:01" litteredLink wanted littered t ∧
          host.changes configureLittered t = []) ∧
      ∃ t, host.run configureLittered (host.run configureLittered littered).2 = (.ok (), t) ∧
        host.Configured "02:00:00:0A:BC:01" litteredLink wanted littered t ∧
          host.changes configureLittered t = [] := by
  obtain ⟨comes, comesAgain⟩ := configure_converges lawful_host find?_littered free_littered
  have again (u : HeldAddresses) (calls : host.Calls configureLittered littered u) :
      host.Unfailing configureLittered u := by
    have spares := spares_of_calls lawful_host gentle_host find?_littered free_littered calls
    obtain ⟨state, there⟩ := spares.find? find?_littered
    exact unfailing_configure there (spares.free free_littered)
  have once : host.Calls configureLittered littered (host.run configureLittered littered).2 := .again .none
  exact ⟨comes (again _ .none), comesAgain gentle_host _ once (again _ once)⟩

end Littered

end AddressHost

end LinkKeeper
