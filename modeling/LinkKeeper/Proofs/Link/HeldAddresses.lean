import LinkKeeper.Proofs.Link.Addresses

/-!
A host that keeps the addresses of each link in a table.

It answers as is assumed of a host, so that what is proved of all of them is said of one at least. It refuses to put
in an address that is there, to take out one that is not, and to change a link that it does not have.

* `HeldAddresses.host`: the host.
* `HeldAddresses.lawful_host`: it is lawful.
* `HeldAddresses.unfailing_configure`: that it refuses nothing when a link is configured.
* `HeldAddresses.littered`: a state with stale addresses of both families.
-/

namespace LinkKeeper

open Net

/-- The links of a host, and the scope of each address of a link. -/
structure HeldAddresses where
  links : List LinkEntry
  held : String → Table Network String

namespace HeldAddresses

/-- How an address is reported. -/
def addressItem (n : Network) (scope : String) : Json :=
  .object [("family", .text (Scopes.familyWord n.family)), ("local", .text n.address.text),
    ("prefixlen", .ofNat n.length), ("scope", .text scope)]

/-- How the addresses of a link are reported. -/
def addressesItem (device : String) (held : Table Network String) : Json :=
  .object [("ifname", .text device), ("addr_info", .array (held.toList.map fun e => addressItem e.1 e.2))]

/-- The host has a link of this name. -/
def Has (s : HeldAddresses) (device : String) : Prop := ∃ l ∈ s.links, l.name = device

instance (s : HeldAddresses) (device : String) : Decidable (s.Has device) :=
  inferInstanceAs (Decidable (∃ l ∈ s.links, l.name = device))

/-- The commands that the host accepts. -/
def Accepts (s : HeldAddresses) : IpCommand → Prop
  | .showLinks => True
  | .showAddresses device | .setUp device | .setDown device => s.Has device
  | .addAddress n device => s.Has device ∧ (s.held device).get? n = none
  | .deleteAddress n device => s.Has device ∧ (s.held device).get? n ≠ none
  | .showRoutes _ _ | .replaceRoute _ _ | .deleteRoute _ _ => False

instance (s : HeldAddresses) : (c : IpCommand) → Decidable (s.Accepts c)
  | .showLinks => inferInstanceAs (Decidable True)
  | .showAddresses device | .setUp device | .setDown device => inferInstanceAs (Decidable (s.Has device))
  | .addAddress n device => inferInstanceAs (Decidable (s.Has device ∧ (s.held device).get? n = none))
  | .deleteAddress n device => inferInstanceAs (Decidable (s.Has device ∧ (s.held device).get? n ≠ none))
  | .showRoutes _ _ | .replaceRoute _ _ | .deleteRoute _ _ => inferInstanceAs (Decidable False)

/-- What a command prints. -/
def printed (s : HeldAddresses) : IpCommand → String
  | .showLinks => (Json.array (s.links.map wayOutLinkItem)).render
  | .showAddresses device => (Json.array [addressesItem device (s.held device)]).render
  | _ => ""

/-- The links of this name come into this state. -/
def turn (s : HeldAddresses) (device state : String) : HeldAddresses :=
  { s with links := s.links.map (.turned device state) }

/-- The link has these addresses from now on. -/
def hold (s : HeldAddresses) (device : String) (addresses : Table Network String) : HeldAddresses :=
  { s with held := fun d => if d = device then addresses else s.held d }

/-- The host after a command. -/
def after (s : HeldAddresses) : IpCommand → HeldAddresses
  | .setUp device => s.turn device "UP"
  | .setDown device => s.turn device "DOWN"
  | .addAddress n device => s.hold device ((s.held device).insert n "global")
  | .deleteAddress n device => s.hold device ((s.held device).erase n)
  | _ => s

/-- The host. It has no routes. -/
def host : AddressHost HeldAddresses where
  answer c s :=
    if s.Accepts c then (.ok (s.printed c), s.after c)
    else (.error (.command c.title "exit status: 2" "RTNETLINK answers: Invalid argument"), s)
  links := HeldAddresses.links
  routes _ _ := ⟨fun _ => none, fun _ _ entry => nomatch entry⟩
  scopes s device := (s.held device).get?

theorem answer_of_accepts {s : HeldAddresses} {c : IpCommand} (accepts : s.Accepts c) :
    host.answer c s = (.ok (s.printed c), s.after c) := if_pos accepts

theorem answered {s t : HeldAddresses} {c : IpCommand} {text : String}
    (answered : host.answer c s = (.ok text, t)) : text = s.printed c ∧ t = s.after c := by
  by_cases accepts : s.Accepts c
  · cases (answer_of_accepts accepts).symm.trans answered
    exact ⟨rfl, rfl⟩
  · rw [show host.answer c s = (.error _, s) from if_neg accepts] at answered
    cases answered

theorem shows_addressItem (n : Network) (scope : String) :
    ∃ members, addressItem n scope = .object members ∧ Scopes.Shows n scope members := by
  refine ⟨_, rfl, ?_, rfl, ⟨n.address.text, rfl, ?_⟩, rfl, rfl⟩
  · simp [Json.noneRepeated]
  · rw [Address.text, String.toList_ofList, Address.parse?_chars]

theorem printable_addressItem (n : Network) (scope : String) : (addressItem n scope).Printable := by
  refine .object ?_
  simp only [List.forall_mem_cons]
  exact ⟨.text _, .text _, Json.printable_ofInt _, .text _, List.forall_mem_nil _⟩

/-- The report of the addresses of a link is read back. -/
theorem parse?_addressesItem (device : String) (held : Table Network String) :
    Report.parse? some (Json.array [addressesItem device held]).render = some [addressesItem device held] := by
  refine Report.parse?_render (.array (List.forall_mem_singleton.mpr (.object ?_)))
  simp only [List.forall_mem_cons]
  exact ⟨.text _, Json.printable_forms fun e _ => printable_addressItem e.1 e.2, List.forall_mem_nil _⟩

theorem once_addressesItem (device : String) (info : Json) :
    Json.noneRepeated ["ifname", "addr_info"] [("ifname", .text device), ("addr_info", info)] = true := by
  simp [Json.noneRepeated]

theorem told_addressesItem (device : String) (held : Table Network String) :
    Scopes.Told held.get? device (Json.array [addressesItem device held]).render := by
  refine ⟨_, _, parse?_addressesItem device held, once_addressesItem device _, rfl, rfl, ?_, ?_⟩
  · intro item mem
    obtain ⟨⟨n, scope⟩, among, rfl⟩ := List.mem_map.mp mem
    obtain ⟨members, same, shows⟩ := shows_addressItem n scope
    exact ⟨n, scope, members, Table.mem_toList_iff.mp among, same, shows⟩
  · intro n scope there
    obtain ⟨members, same, shows⟩ := shows_addressItem n scope
    exact ⟨members, same ▸ List.mem_map_of_mem (Table.mem_toList_iff.mpr there), shows⟩

theorem scopes_hold {s : HeldAddresses} {device : String} {addresses : Table Network String} {α : Type}
    {change : Scopes → α → Scopes} {x : α} (changed : addresses.get? = change (s.held device).get? x) :
    host.scopes (s.hold device addresses) = Scopes.onLink device change (host.scopes s) x := by
  funext d
  by_cases own : d = device
  · subst own
    rw [Scopes.onLink_self]
    exact (congrArg Table.get? (if_pos rfl)).trans changed
  · rw [Scopes.onLink_of_ne own]
    exact congrArg Table.get? (if_neg own)

theorem lawful_host : host.Lawful where
  showLinks := by
    intro s text t shown
    obtain ⟨rfl, same⟩ := answered shown
    obtain rfl : s = t := same.symm
    exact ⟨.refl s, LinkEntry.told_render s.links⟩
  showAddresses := by
    intro device s text t shown
    obtain ⟨rfl, same⟩ := answered shown
    obtain rfl : s = t := same.symm
    exact ⟨.refl s, told_addressesItem device (s.held device)⟩
  setUp := by
    intro device s text t turned
    obtain ⟨-, rfl⟩ := answered turned
    exact ⟨rfl, rfl⟩
  setDown := by
    intro device s text t turned
    obtain ⟨-, rfl⟩ := answered turned
    exact ⟨rfl, rfl⟩
  addAddress := by
    intro n device s text t added
    obtain ⟨-, rfl⟩ := answered added
    exact ⟨rfl, scopes_hold (funext fun m => Table.get?_insert (s.held device) n m "global")⟩
  deleteAddress := by
    intro n device s text t taken
    obtain ⟨-, rfl⟩ := answered taken
    exact ⟨rfl, scopes_hold (funext fun m => Table.get?_erase (s.held device) n m)⟩

theorem gentle_host : host.Gentle := by
  intro c s e t refused
  by_cases accepts : s.Accepts c
  · cases (answer_of_accepts accepts).symm.trans refused
  · cases (show host.answer c s = (.error _, s) from if_neg accepts).symm.trans refused
    exact .refl s

/-! ### Runs without a failure -/

variable {s : HeldAddresses} {mac device : String} {link : LinkEntry} {address : Network}

theorem isOk_answer {c : IpCommand} (accepts : s.Accepts c) : (host.answer c s).1.isOk = true := by
  rw [answer_of_accepts accepts]
  rfl

/-- The addresses of a report, in order. -/
theorem exists_entries (entries : List (Network × String)) :
    ∃ read, (entries.map fun e => addressItem e.1 e.2).mapM AddressEntry.fromJson? = some read ∧
      read.filterMap AddressEntry.network? =
        entries.filterMap fun e => if e.2 = "global" then some e.1 else none := by
  induction entries with
  | nil => exact ⟨[], rfl, rfl⟩
  | cons e rest ih =>
      obtain ⟨n, scope⟩ := e
      obtain ⟨later, read, picked⟩ := ih
      obtain ⟨members, item, shows⟩ := shows_addressItem n scope
      obtain ⟨text, first, address⟩ := AddressEntry.fromJson?_of_shows shows
      have counts : AddressEntry.network? ⟨Scopes.familyWord n.family, some text, some n.length, some scope⟩ =
          if scope = "global" then some n else none := by
        by_cases global : scope = "global"
        · rw [if_pos global, AddressEntry.network?_eq_some_iff]
          exact ⟨congrArg some global, ⟨text, rfl, address⟩, rfl⟩
        · rw [if_neg global]
          exact if_pos fun same => global (Option.some.inj same)
      refine ⟨⟨Scopes.familyWord n.family, some text, some n.length, some scope⟩ :: later, ?_, ?_⟩
      · rw [List.map_cons, List.mapM_cons, item, first, read]
        rfl
      · rw [List.filterMap_cons, List.filterMap_cons, counts, picked]

theorem yields_globalAddresses : host.Yields (Links.globalAddresses device) s fun current _ t =>
    t = s ∧ current = (s.held device).toList.filterMap fun e => if e.2 = "global" then some e.1 else none := by
  obtain ⟨entries, read, picked⟩ := exists_entries (s.held device).toList
  have shown : host.Yields (Links.report LinkAddresses.fromJson? (.showAddresses device)) s fun reports _ t =>
      t = s ∧ reports = [⟨device, entries⟩] := by
    refine LinkHost.yields_report rfl ?_
    intro text t shown
    obtain ⟨rfl, same⟩ := answered shown
    have entered := LinkAddresses.fromJson?_of_lookups (once_addressesItem device _) rfl rfl read
    refine ⟨_, (Report.parse?_of_items _ (parse?_addressesItem device (s.held device))).trans ?_, same, rfl⟩
    rw [List.mapM_cons, addressesItem, entered]
    rfl
  refine LinkHost.yields_bind shown ?_
  rintro _ _ t ⟨rfl, rfl⟩
  exact LinkHost.yields_pure ⟨rfl, by simpa using picked⟩

/-- No address is found out twice. -/
theorem nodup_global (entries : Table Network String) :
    (entries.toList.filterMap fun e => if e.2 = "global" then some e.1 else none).Nodup := by
  unfold List.Nodup
  rw [List.pairwise_filterMap]
  refine entries.rising.imp ?_
  intro a b rising n first m second same
  have key := Option.some.inj (Option.ite_none_right_eq_some.mp first).2
  have other := Option.some.inj (Option.ite_none_right_eq_some.mp second).2
  rw [key, other, same] at rising
  simp at rising

/-- Addresses that are there can be taken out one after the other. -/
theorem unfailing_deletes {removed : List Network} (has : s.Has device) (distinct : removed.Nodup)
    (there : ∀ n ∈ removed, (s.held device).get? n ≠ none) :
    host.Unfailing (Links.runAll (removed.map (.deleteAddress · device))) s := by
  induction removed generalizing s with
  | nil => exact List.forall_mem_nil _
  | cons n rest ih =>
      obtain ⟨apart, distinct⟩ := List.nodup_cons.mp distinct
      obtain ⟨first, later⟩ := List.forall_mem_cons.mp there
      refine LinkHost.unfailing_bind (LinkHost.unfailing_run (isOk_answer ⟨has, first⟩)) ?_
      intro text t ran
      obtain ⟨-, rfl⟩ := answered ran
      refine ih has distinct ?_
      intro m mem
      have other : m ≠ n := fun same => apart (same ▸ mem)
      have kept : ((s.hold device ((s.held device).erase n)).held device).get? m = (s.held device).get? m :=
        (congrArg (Table.get? · m) (if_pos rfl)).trans (Table.get?_erase_of_ne _ other)
      exact fun gone => later m mem (kept.symm.trans gone)

/-- What is not there is not there after addresses have been taken out. -/
theorem yields_deletes (removed : List Network) :
    host.Yields (Links.runAll (removed.map (.deleteAddress · device))) s fun _ _ t =>
      t.links = s.links ∧ ∀ n, (s.held device).get? n = none → (t.held device).get? n = none := by
  refine (LinkHost.yields_each (fun _ => rfl) fun n _ => lawful_host.deleteAddress n device).mono ?_
  rintro _ _ t ⟨-, links, taken⟩
  refine ⟨links, ?_⟩
  intro n absent
  show host.scopes t device n = none
  rw [taken, Scopes.foldl_onLink, Scopes.onLink_self, Scopes.foldl_takeOut]
  exact (ite_congr rfl (fun _ => rfl) fun _ => absent).trans (ite_self none)

theorem Has.congr {t : HeldAddresses} (has : s.Has device) (links : t.links = s.links) : t.Has device := by
  obtain ⟨l, mem, name⟩ := has
  exact ⟨l, links ▸ mem, name⟩

theorem Has.turn {other state : String} (has : s.Has device) : (s.turn other state).Has device := by
  obtain ⟨l, mem, name⟩ := has
  exact ⟨_, List.mem_map_of_mem mem, (LinkEntry.name_turned l).trans name⟩

theorem has_of_find? (found : s.links.find? (·.hasAddress mac) = some link) : s.Has link.name :=
  ⟨link, List.mem_of_find?_eq_some found, rfl⟩

/-- The report of the links changes nothing at all. -/
theorem told_links (text : String) (t : HeldAddresses) (shown : host.answer .showLinks s = (.ok text, t)) :
    t = s ∧ LinkEntry.Told (host.links s) text :=
  ⟨(answered shown).2, (lawful_host.showLinks s text t shown).2⟩

theorem yields_find (found : s.links.find? (·.hasAddress mac) = some link) :
    host.Yields (Links.find mac) s fun entry _ t => entry = link ∧ t = s := by
  refine (LinkHost.yields_find told_links found).mono ?_
  rintro _ _ t ⟨same, -, kept⟩
  exact ⟨same, kept⟩

/-- The changes of the addresses of a link are refused by no host that has the link. -/
theorem unfailing_addressChanges {current : List Network} (has : s.Has device)
    (free : ∀ scope, (s.held device).get? address = some scope → scope = "global") (distinct : current.Nodup)
    (mem : ∀ n, n ∈ current ↔ (s.held device).get? n = some "global") :
    host.Unfailing (Links.runAll (Links.addressChanges device address current)) s := by
  unfold Links.addressChanges
  rw [Links.runAll_append]
  refine LinkHost.unfailing_bind (unfailing_deletes has (distinct.filter _) ?_) ?_
  · intro n stale gone
    have there := (mem n).mp (List.mem_filter.mp stale).1
    exact nomatch gone.symm.trans there
  · intro _ t ran
    obtain ⟨links, kept⟩ := (yields_deletes _).of_ok (Links.heeds_runAll _) ran
    split
    · exact List.forall_mem_nil _
    · rename_i absent
      have gone : (s.held device).get? address = none := by
        cases there : (s.held device).get? address with
        | none => rfl
        | some scope =>
            rw [free scope there] at there
            exact absurd (List.contains_iff_mem.mpr ((mem address).mpr there)) absent
      exact LinkHost.unfailing_single (isOk_answer ⟨has.congr links, kept address gone⟩)

/-- The host refuses nothing when a link is configured that it has. -/
theorem unfailing_configure (found : s.links.find? (·.hasAddress mac) = some link)
    (free : ∀ scope, (s.held link.name).get? address = some scope → scope = "global") :
    host.Unfailing (Links.configure mac address) s := by
  refine LinkHost.unfailing_bind (LinkHost.unfailing_find mac (isOk_answer trivial)) ?_
  intro entry t ran
  obtain ⟨rfl, rfl⟩ := (yields_find found).of_ok (Links.heeds_find mac) ran
  have has := has_of_find? found
  have raised : host.Unfailing (Links.runAll (if entry.isUp then [] else [.setUp entry.name])) t ∧
      host.Yields (Links.runAll (if entry.isUp then [] else [.setUp entry.name])) t
        fun _ _ u => u.Has entry.name ∧ u.held = t.held := by
    split
    · exact ⟨List.forall_mem_nil _, LinkHost.yields_pure ⟨has, rfl⟩⟩
    · refine ⟨LinkHost.unfailing_single (isOk_answer has), ?_⟩
      refine (LinkHost.yields_single fun text u turned => (answered turned).2).mono ?_
      rintro _ _ u rfl
      exact ⟨has.turn, rfl⟩
  refine LinkHost.unfailing_bind raised.1 ?_
  intro _ u ran
  obtain ⟨has, held⟩ := raised.2.of_ok (Links.heeds_runAll _) ran
  refine LinkHost.unfailing_bind (LinkHost.unfailing_globalAddresses (isOk_answer has)) ?_
  intro current v ran
  obtain ⟨-, -, mem⟩ := lawful_host.yields_globalAddresses.of_ok (Links.heeds_globalAddresses _) ran
  obtain ⟨rfl, listed⟩ := yields_globalAddresses.of_ok (Links.heeds_globalAddresses _) ran
  exact unfailing_addressChanges has (held ▸ free) (listed ▸ nodup_global _) mem

/-! ### A littered state -/

/-- The address that the link is to have. -/
def wanted : Network := ⟨.v4 0xC0A8000A, 24, by decide⟩

/-- An address that is left over. -/
def stale : Network := ⟨.v4 0x0A090909, 24, by decide⟩

/-- The link, which is down. -/
def litteredLink : LinkEntry := ⟨"ens5", some "02:00:00:0a:bc:01", some "DOWN"⟩

/-- The link has other addresses: the wanted one with another prefix length, one of each family, and two of no global
scope. Another link has the wanted address. -/
def littered : HeldAddresses where
  links := [⟨"lo", some "00:00:00:00:00:00", some "UNKNOWN"⟩, litteredLink,
    ⟨"ens6", some "02:00:00:0a:bc:02", some "UP"⟩]
  held device :=
    if device = "ens5" then
      .ofList [(⟨.v4 0xC0A8000A, 16, by decide⟩, "global"), (stale, "global"),
        (⟨.v4 0xA9FE0101, 16, by decide⟩, "link"),
        (⟨.v6 0x20010DB8000000000000000000000005, 64, by decide⟩, "global"),
        (⟨.v6 0xFE800000000000000000000000000001, 64, by decide⟩, "link")]
    else if device = "ens6" then .ofList [(wanted, "global")]
    else ∅

theorem find?_littered :
    (host.links littered).find? (·.hasAddress "02:00:00:0A:BC:01") = some litteredLink := by decide +kernel

theorem scopes_littered : host.scopes littered litteredLink.name wanted = none := by decide +kernel

theorem free_littered (scope : String) (there : host.scopes littered litteredLink.name wanted = some scope) :
    scope = "global" := by
  rw [scopes_littered] at there
  cases there

end HeldAddresses

end LinkKeeper
