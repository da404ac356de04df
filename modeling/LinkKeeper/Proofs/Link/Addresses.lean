import LinkKeeper.Proofs.Link.Convergence
import LinkKeeper.Proofs.Link.Runs

/-!
A host whose links have addresses.

The addresses of a link are a set of addresses with prefix lengths, each of which has one scope. What is assumed of
the commands stands in one place: how the links and the addresses of a link are reported, that setting a link up or
down changes what is reported of its state, and that an address is put in with global scope or is taken out, by
itself. Nothing is assumed of a command that fails.

* `AddressHost.Lawful`: the assumptions.
* `AddressEntry.network?_eq_some_iff`: which entry of a report tells an address of global scope.
* `AddressHost.Lawful.yields_globalAddresses`: what the report of the addresses of a link comes to.
-/

namespace LinkKeeper

open Net

/-! ### Addresses of a link -/

/-- The scope of each address that is there. -/
abbrev Scopes := Network → Option String

namespace Scopes

/-- An address is put in. -/
def put (scopes : Scopes) (n : Network) : Scopes := fun m => if m = n then some "global" else scopes m

/-- An address is taken out. -/
def takeOut (scopes : Scopes) (n : Network) : Scopes := fun m => if m = n then none else scopes m

/-- The addresses of one link change, and those of the other ones do not. -/
def onLink {α : Type} (device : String) (change : Scopes → α → Scopes) (all : String → Scopes) (x : α) :
    String → Scopes := fun d => if d = device then change (all d) x else all d

/-- How a report names a family. -/
def familyWord : Family → String
  | .v4 => "inet"
  | .v6 => "inet6"

/-- How an address is reported. The text can be any that is read as the address. -/
structure Shows (n : Network) (scope : String) (members : List (String × Json)) : Prop where
  once : Json.noneRepeated ["family", "local", "prefixlen", "scope"] members = true
  family : members.lookup "family" = some (.text (familyWord n.family))
  address : ∃ text, members.lookup "local" = some (.text text) ∧ Address.parse? text.toList = some n.address
  length : members.lookup "prefixlen" = some (.ofNat n.length)
  scope : members.lookup "scope" = some (.text scope)

/-- The items are the addresses, in any order. -/
structure Listed (scopes : Scopes) (items : List Json) : Prop where
  sound : ∀ item ∈ items, ∃ n scope members, scopes n = some scope ∧ item = .object members ∧ Shows n scope members
  complete : ∀ n scope, scopes n = some scope → ∃ members, .object members ∈ items ∧ Shows n scope members

/-- The text of a report that lists the addresses of a link. -/
def Told (scopes : Scopes) (device text : String) : Prop :=
  ∃ members items, Report.parse? some text = some [.object members] ∧
    Json.noneRepeated ["ifname", "addr_info"] members = true ∧
      members.lookup "ifname" = some (.text device) ∧ members.lookup "addr_info" = some (.array items) ∧
        scopes.Listed items

theorem foldl_takeOut (removed : List Network) (scopes : Scopes) (n : Network) :
    removed.foldl takeOut scopes n = if n ∈ removed then none else scopes n := by
  induction removed generalizing scopes with
  | nil => rfl
  | cons m rest ih =>
      rw [List.foldl_cons, ih, takeOut]
      by_cases own : n = m <;> by_cases later : n ∈ rest <;> simp [own, later]

section OnLink

variable {α β : Type} {device other : String} {change : Scopes → α → Scopes} {all : String → Scopes} {x : α}

theorem onLink_self : onLink device change all x device = change (all device) x := if_pos rfl

theorem onLink_of_ne (apart : other ≠ device) : onLink device change all x other = all other := if_neg apart

theorem foldl_onLink (items : List α) :
    items.foldl (onLink device change) all = onLink device (List.foldl change) all items := by
  induction items generalizing all with
  | nil =>
      funext d
      exact (ite_self _).symm
  | cons x rest ih =>
      funext d
      rw [List.foldl_cons, ih]
      unfold onLink
      by_cases own : d = device <;> simp [own]

/-- Only what becomes of the addresses of the link matters. -/
theorem onLink_congr {change' : Scopes → β → Scopes} {y : β} (same : change (all device) x = change' (all device) y) :
    onLink device change all x = onLink device change' all y := by
  refine funext fun d => ite_congr rfl ?_ fun _ => rfl
  rintro rfl
  exact same

theorem onLink_eq_self (same : change (all device) x = all device) : onLink device change all x = all := by
  refine funext fun d => ite_eq_right_iff.mpr ?_
  rintro rfl
  exact same

theorem onLink_onLink {change' : Scopes → β → Scopes} {y : β} :
    onLink device change' (onLink device change all x) y =
      onLink device (fun scopes (both : α × β) => change' (change scopes both.1) both.2) all (x, y) := by
  funext d
  unfold onLink
  by_cases own : d = device <;> simp [own]

end OnLink

end Scopes

/-! ### Entries -/

namespace AddressEntry

/-- The entry tells an address of global scope. -/
structure Tells (e : AddressEntry) (n : Network) : Prop where
  scope : e.scope = some "global"
  address : ∃ text, e.address = some text ∧ Address.parse? text.toList = some n.address
  length : e.length = some n.length

theorem network?_eq_some_iff {e : AddressEntry} {n : Network} : e.network? = some n ↔ e.Tells n := by
  have counts (global : e.scope = some "global") : e.network? = e.address.bind fun text =>
      (Address.parse? text.toList).bind fun address => e.length.bind (Network.ofLength? address) :=
    if_neg (not_not_intro global)
  constructor
  · intro told
    by_cases global : e.scope = some "global"
    · rw [counts global] at told
      obtain ⟨text, given, told⟩ := Option.bind_eq_some_iff.mp told
      obtain ⟨a, read, told⟩ := Option.bind_eq_some_iff.mp told
      obtain ⟨length, long, fits⟩ := Option.bind_eq_some_iff.mp told
      obtain ⟨rfl, rfl⟩ := Network.ofLength?_eq_some_iff.mp fits
      exact ⟨global, ⟨text, given, read⟩, long⟩
    · have passed : e.network? = none := if_pos global
      rw [passed] at told
      cases told
  · rintro ⟨global, ⟨text, given, read⟩, long⟩
    rw [counts global, given, long, Option.bind_some, read, Option.bind_some, Option.bind_some]
    exact Network.ofLength?_eq_some_iff.mpr ⟨rfl, rfl⟩

/-- An entry tells one address at most. -/
theorem Tells.unique {e : AddressEntry} {n m : Network} (tells : e.Tells n) (other : e.Tells m) : n = m :=
  Option.some.inj ((network?_eq_some_iff.mpr tells).symm.trans (network?_eq_some_iff.mpr other))

/-- An address is read back from its report. -/
theorem fromJson?_of_shows {n : Network} {scope : String} {members : List (String × Json)}
    (shows : Scopes.Shows n scope members) :
    ∃ text, fromJson? (.object members) = some ⟨Scopes.familyWord n.family, some text, some n.length, some scope⟩ ∧
      Address.parse? text.toList = some n.address := by
  obtain ⟨text, given, read⟩ := shows.address
  have short : n.length ≤ 255 := by
    have wide : n.address.family.width ≤ 255 := by cases n.address.family <;> decide
    exact Nat.le_trans n.length_le wide
  refine ⟨text, ?_, read⟩
  have record : Json.record? ["family", "local", "prefixlen", "scope"] (.object members) = some ⟨false, members⟩ :=
    if_pos shows.once
  have long : Json.nullable (Json.nat? 255) (.ofNat n.length) = some (some n.length) :=
    congrArg (Option.map some) (Json.nat?_ofNat short)
  unfold fromJson? Json.Fields.maybe Json.Fields.required Json.Fields.defaulted
  simp only [record, Option.bind_eq_bind, Option.bind_some, shows.family, given, shows.length, shows.scope, long]
  rfl

end AddressEntry

theorem LinkAddresses.fromJson?_of_lookups {members : List (String × Json)} {device : String} {items : List Json}
    {entries : List AddressEntry} (once : Json.noneRepeated ["ifname", "addr_info"] members = true)
    (name : members.lookup "ifname" = some (.text device)) (info : members.lookup "addr_info" = some (.array items))
    (read : items.mapM AddressEntry.fromJson? = some entries) :
    LinkAddresses.fromJson? (.object members) = some ⟨device, entries⟩ := by
  have record : Json.record? ["ifname", "addr_info"] (.object members) = some ⟨false, members⟩ := if_pos once
  unfold LinkAddresses.fromJson? Json.Fields.required Json.Fields.defaulted
  simp only [record, Option.bind_eq_bind, Option.bind_some, name, info, Json.list?, read]
  rfl

/-- The addresses of global scope are found out from a report that lists all of them. -/
theorem Scopes.Told.reads {scopes : Scopes} {device text : String} (told : scopes.Told device text) :
    ∃ reports, Report.parse? LinkAddresses.fromJson? text = some reports ∧
      ∀ n, n ∈ (reports.flatMap LinkAddresses.addresses).filterMap AddressEntry.network? ↔
        scopes n = some "global" := by
  obtain ⟨members, items, parsed, once, name, info, listed⟩ := told
  have each : ∀ item ∈ items, ∃ e, AddressEntry.fromJson? item = pure e := by
    intro item mem
    obtain ⟨n, scope, inside, -, rfl, shows⟩ := listed.sound item mem
    obtain ⟨text, read, -⟩ := AddressEntry.fromJson?_of_shows shows
    exact ⟨_, read⟩
  obtain ⟨entries, read, sources, reached⟩ := mapM_eq_pure each
  refine ⟨[⟨device, entries⟩], ?_, ?_⟩
  · rw [Report.parse?_of_items _ parsed, List.mapM_cons, LinkAddresses.fromJson?_of_lookups once name info read]
    rfl
  · intro n
    simp only [List.flatMap_cons, List.flatMap_nil, List.append_nil, List.mem_filterMap,
      AddressEntry.network?_eq_some_iff]
    constructor
    · rintro ⟨e, mem, tells⟩
      obtain ⟨item, among, same⟩ := sources e mem
      obtain ⟨m, scope, inside, there, rfl, shows⟩ := listed.sound item among
      obtain ⟨text, reads, address⟩ := AddressEntry.fromJson?_of_shows shows
      obtain rfl := Option.some.inj (reads.symm.trans same)
      obtain rfl : scope = "global" := Option.some.inj tells.scope
      have own : AddressEntry.Tells _ m := ⟨tells.scope, ⟨text, rfl, address⟩, rfl⟩
      rwa [tells.unique own]
    · intro there
      obtain ⟨inside, mem, shows⟩ := listed.complete n _ there
      obtain ⟨text, reads, address⟩ := AddressEntry.fromJson?_of_shows shows
      obtain ⟨e, among, same⟩ := reached _ mem
      obtain rfl := Option.some.inj (reads.symm.trans same)
      exact ⟨_, among, rfl, ⟨text, rfl, address⟩, rfl⟩

/-! ### Links -/

namespace LinkEntry

variable {mac device state : String} {links : List LinkEntry}

/-- A link of this name is reported in this state. -/
def turned (device state : String) (l : LinkEntry) : LinkEntry :=
  if l.name = device then { l with state := some state } else l

theorem turned_self (state : String) (l : LinkEntry) : turned l.name state l = { l with state := some state } :=
  if_pos rfl

@[simp] theorem name_turned (l : LinkEntry) : (turned device state l).name = l.name := by
  unfold turned
  split <;> rfl

@[simp] theorem hasAddress_turned (l : LinkEntry) : (turned device state l).hasAddress mac = l.hasAddress mac := by
  unfold turned
  split <;> rfl

@[simp] theorem turned_turned (l : LinkEntry) :
    turned device state (turned device state l) = turned device state l := by
  by_cases own : l.name = device <;> simp [turned, own]

/-- The link with a hardware address stays the same one. -/
theorem find?_turned : (links.map (turned device state)).find? (·.hasAddress mac) =
    (links.find? (·.hasAddress mac)).map (turned device state) := by
  rw [List.find?_map]
  exact congrArg (fun p => (links.find? p).map _) (funext hasAddress_turned)

/-- The links of other names stay as they are. -/
theorem filter_turned :
    (links.map (turned device state)).filter (·.name ≠ device) = links.filter (·.name ≠ device) := by
  induction links with
  | nil => rfl
  | cons l rest ih =>
      rw [List.map_cons, List.filter_cons, List.filter_cons, ih, name_turned]
      by_cases own : l.name = device
      · rw [if_neg (by simp [own]), if_neg (by simp [own])]
      · rw [turned, if_neg own]

end LinkEntry

/-! ### Hosts -/

/-- A host with the addresses of each link. -/
structure AddressHost (σ : Type) extends LinkHost σ where
  scopes : σ → String → Scopes

namespace AddressHost

variable {σ : Type} (h : AddressHost σ)

/-- The links and the addresses are the same. -/
structure Same (s t : σ) : Prop where
  links : h.links t = h.links s
  scopes : h.scopes t = h.scopes s

/-- What is assumed of the commands that are in use for addresses. Nothing is assumed of one that fails. -/
structure Lawful : Prop where
  /-- The report of the links gives the texts of each link, in order. -/
  showLinks : ∀ s text t, h.answer .showLinks s = (.ok text, t) → h.Same s t ∧ LinkEntry.Told (h.links s) text
  /-- The report of the addresses of a link lists them. -/
  showAddresses : ∀ device s text t, h.answer (.showAddresses device) s = (.ok text, t) → h.Same s t ∧
    (h.scopes s device).Told device text
  /-- A link that is set up is reported to be up. -/
  setUp : ∀ device s text t, h.answer (.setUp device) s = (.ok text, t) →
    h.links t = (h.links s).map (.turned device "UP") ∧ h.scopes t = h.scopes s
  /-- A link that is set down is reported to be down. -/
  setDown : ∀ device s text t, h.answer (.setDown device) s = (.ok text, t) →
    h.links t = (h.links s).map (.turned device "DOWN") ∧ h.scopes t = h.scopes s
  /-- An address is put in, with global scope. -/
  addAddress : ∀ n device s text t, h.answer (.addAddress n device) s = (.ok text, t) →
    h.links t = h.links s ∧ h.scopes t = Scopes.onLink device Scopes.put (h.scopes s) n
  /-- An address is taken out, and no other one. -/
  deleteAddress : ∀ n device s text t, h.answer (.deleteAddress n device) s = (.ok text, t) →
    h.links t = h.links s ∧ h.scopes t = Scopes.onLink device Scopes.takeOut (h.scopes s) n

/-- A command that fails leaves the links and the addresses as they are. -/
def Gentle : Prop := ∀ c s e t, h.answer c s = (.error e, t) → h.Same s t

variable {h} {s t u : σ} {mac device : String} {link : LinkEntry}

theorem Same.refl (s : σ) : h.Same s s := ⟨rfl, rfl⟩

theorem Same.trans (first : h.Same s t) (later : h.Same t u) : h.Same s u :=
  ⟨later.links.trans first.links, later.scopes.trans first.scopes⟩

/-- The addresses of global scope are found out. -/
theorem Lawful.yields_globalAddresses (lawful : h.Lawful) :
    h.Yields (Links.globalAddresses device) s fun current cs t =>
      cs = [] ∧ h.Same s t ∧ ∀ n, n ∈ current ↔ h.scopes s device n = some "global" := by
  have shown : h.Yields (Links.report LinkAddresses.fromJson? (.showAddresses device)) s fun reports cs t =>
      cs = [] ∧ h.Same s t ∧ ∀ n, n ∈ (reports.flatMap LinkAddresses.addresses).filterMap AddressEntry.network? ↔
        h.scopes s device n = some "global" := by
    refine LinkHost.yields_report rfl ?_
    intro text t answered
    obtain ⟨same, told⟩ := lawful.showAddresses device s text t answered
    obtain ⟨reports, read, mem⟩ := told.reads
    exact ⟨reports, read, rfl, same, mem⟩
  refine LinkHost.yields_bind shown ?_
  rintro reports _ t ⟨rfl, same, mem⟩
  exact LinkHost.yields_pure ⟨rfl, same, mem⟩

end AddressHost

end LinkKeeper
