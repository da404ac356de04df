import LinkKeeper.Proofs.Link.Addresses
import LinkKeeper.Proofs.Link.Survey
import LinkKeeper.Proofs.Text.Trimming
import LinkKeeper.Reconcile.Plan

/-!
What the operations put on a link is told back by the reports that they read.

The host reports a route with a word, a bare address or a network for its destination, and every address in its
usual text. Each of these texts is read as what it was written for, so a report that lists something wanted keeps
the operation that has read it from changing that thing.

* `RouteEntry.Lists`, `AddressEntry.Lists`: entries in the texts of the host.
* `IpCommand.OrdersRoute`, `IpCommand.OrdersAddress`: what the words of a command say to a reader of them.
* `Links.installed_is_read_back`: what is read back, and that what is listed and wanted is left alone.
-/

namespace LinkKeeper

open Net

/-! ### Entries -/

/-- The entry reports the route in the texts of the host, and not as the kernel's own. -/
structure RouteEntry.Lists (e : RouteEntry) (r : Route) : Prop where
  foreign : e.protocol ≠ some "kernel"
  gateway : e.gateway = some r.via.text
  destination : e.destination = RouteTable.destinationText r.destination

/-- The entry reports the address, with its prefix length, in the texts of the host. -/
structure AddressEntry.Lists (e : AddressEntry) (n : Network) : Prop where
  scope : e.scope = some "global"
  address : e.address = some n.address.text
  length : e.length = some n.length

namespace Net

theorem Address.parse?_text (a : Address) : Address.parse? a.text.toList = some a := by
  rw [Address.text, String.toList_ofList, Address.parse?_chars]

theorem Network.parse?_text (n : Network) : Network.parse? n.text.toList = some n := by
  rw [Network.text, String.toList_ofList, Network.parse?_chars]

theorem Network.isBlank_of_mem_chars {n : Network} : ∀ c ∈ n.chars, Text.isBlank c = false := by
  intro c mem
  rcases List.mem_append.mp mem with address | length
  · rcases Address.mem_chars_cases address with (rfl | rfl) | digit | digit
    · decide
    · decide
    · exact Text.isBlank_of_isDigit digit
    · exact Text.isBlank_of_isDigit digit
  · rcases List.mem_cons.mp length with rfl | digit
    · decide
    · exact Text.isBlank_of_isDigit (Text.isDigit_of_mem_digits Text.reads_ten _ digit)

end Net

/-- A route as a table can hold it is told by the entry that lists it. -/
theorem RouteEntry.Lists.tells {e : RouteEntry} {r : Route} (lists : e.Lists r) (fits : r.Fits) : e.Tells r where
  foreign := lists.foreign
  via := ⟨_, lists.gateway, Address.parse?_text r.via⟩
  destination := by
    have normal : r.destination.truncated = r.destination := congrArg Route.destination fits.normalized
    rw [lists.destination, fits.family, destination?_destinationText normal]

theorem AddressEntry.Lists.tells {e : AddressEntry} {n : Network} (lists : e.Lists n) : e.Tells n :=
  ⟨lists.scope, ⟨_, lists.address, Address.parse?_text n.address⟩, lists.length⟩

/-- Blanks around a declared address do not count. -/
theorem addressOf_of_padded {nic : NetworkInterface} {n : Network}
    (declared : Text.Padded n.chars nic.spec.address.toList) : addressOf nic = .ok n := by
  have trimmed : Text.trim nic.spec.address.toList = n.chars := by
    rw [declared.trim_eq, Text.trim_of_shown Network.isBlank_of_mem_chars]
  unfold addressOf
  rw [trimmed, Network.parse?_chars]

/-! ### Commands -/

namespace IpCommand

/-- The words tell the device to change the route: its destination is read as that of a declared route and of a
reported one, and its gateway as an address. -/
def OrdersRoute (c : IpCommand) (verb device : String) (r : Route) : Prop :=
  ∃ aim gateway, c.words = ["route", verb, aim, "via", gateway, "dev", device] ∧
    Network.parse? aim.toList = some r.destination ∧
    (∀ family, RouteEntry.destination? family aim = some r.destination) ∧
    Address.parse? gateway.toList = some r.via

/-- The words tell the device to change the address. -/
def OrdersAddress (c : IpCommand) (verb device : String) (n : Network) : Prop :=
  ∃ text, c.words = ["addr", verb, text, "dev", device] ∧ Network.parse? text.toList = some n

end IpCommand

/-- A destination with its prefix length is read whatever the family of the gateway. -/
theorem RouteEntry.destination?_text (family : Family) (d : Network) : destination? family d.text = some d := by
  have slash : '/' ∈ d.text.toList := by simpa [Network.text] using Network.slash_mem_chars d
  have other : d.text ≠ "default" := by
    intro same
    rw [same] at slash
    exact absurd slash (by decide)
  unfold destination?
  rw [if_neg other, if_pos (List.contains_iff_mem.mpr slash), Network.parse?_text]

namespace IpCommand

theorem ordersRoute_replaceRoute (r : Route) (device : String) :
    (replaceRoute r device).OrdersRoute "replace" device r :=
  ⟨_, _, rfl, Network.parse?_text _, fun family => RouteEntry.destination?_text family _, Address.parse?_text _⟩

theorem ordersRoute_deleteRoute (r : Route) (device : String) : (deleteRoute r device).OrdersRoute "del" device r :=
  ⟨_, _, rfl, Network.parse?_text _, fun family => RouteEntry.destination?_text family _, Address.parse?_text _⟩

theorem ordersAddress_addAddress (n : Network) (device : String) :
    (addAddress n device).OrdersAddress "add" device n := ⟨_, rfl, Network.parse?_text _⟩

theorem ordersAddress_deleteAddress (n : Network) (device : String) :
    (deleteAddress n device).OrdersAddress "del" device n := ⟨_, rfl, Network.parse?_text _⟩

end IpCommand

/-! ### Passes -/

namespace Links

variable {mac device : String} {events : List Event} {r : Except LinkError Unit}

theorem Reads.unique {α : Type} {entry : Json.Decoder α} {c : IpCommand} {reply : IpReply}
    {first second : Except LinkError (List α)} (reads : Reads entry c reply first)
    (other : Reads entry c reply second) : first = second := by
  cases reads <;> cases other <;> simp_all

section Routes

variable {family : Family} {reply : IpReply} {entries part : List RouteEntry} {routes : List Route} {route : Route}
  {e : RouteEntry}

/-- What one of the two reports lists is among the entries of the survey. -/
theorem ReadsInstalled.mem_of_listed (installed : ReadsInstalled device events (.ok entries)) {other : String}
    (asked : ⟨.showRoutes family other, reply⟩ ∈ events)
    (read : Reads RouteEntry.fromJson? (.showRoutes family other) reply (.ok part)) (listed : e ∈ part) :
    e ∈ entries := by
  cases installed with
  | both older newer =>
      cases older with
      | read older =>
          cases newer with
          | read newer =>
              rcases List.mem_cons.mp asked with same | asked
              · cases same
                cases read.unique older
                exact List.mem_append_left _ listed
              · cases List.mem_singleton.mp asked
                cases read.unique newer
                exact List.mem_append_right _ listed

/-- The link is looked up without a report of routes. -/
theorem Finds.showRoutes_notMem {outcome : Except LinkError LinkEntry} (finds : Finds mac events outcome) :
    ⟨.showRoutes family device, reply⟩ ∉ events := by
  intro mem
  have looked := finds.looks _ mem
  cases looked

/-- A wanted route that one of the reports lists is left alone. -/
theorem keeps_listed_route (path : Path (syncRoutes mac routes) events r)
    (asked : ⟨.showRoutes family device, reply⟩ ∈ events)
    (read : Reads RouteEntry.fromJson? (.showRoutes family device) reply (.ok part)) (listed : e ∈ part)
    (lists : e.Lists route) (fits : route.Fits) (wanted : route ∈ routes.map Route.normalized) :
    ∀ event ∈ events, ∀ other, event.1 ≠ .deleteRoute route other ∧ event.1 ≠ .replaceRoute route other := by
  obtain ⟨surveyed, changes, outcome, rfl, surveys, ends⟩ := path_syncRoutes path
  have asks := asks_of_survey surveys
  have early : ∀ event ∈ surveyed, ∀ other,
      event.1 ≠ .deleteRoute route other ∧ event.1 ≠ .replaceRoute route other := by
    rintro ⟨c, given⟩ mem other
    have unchanging := asks _ mem
    constructor <;> rintro rfl <;> cases unchanging
  rcases ends with ⟨_, -, rfl, -⟩ | ⟨link, entries, installed, rfl, tells, performs⟩
  · rwa [List.append_nil]
  · have surveyedAsked : ⟨.showRoutes family device, reply⟩ ∈ surveyed := by
      rcases List.mem_append.mp asked with asked | asked
      · exact asked
      · have change := performs.mem _ asked
        simp [routeCommands] at change
    have known : e ∈ entries := by
      cases surveys with
      | whole found installed =>
          rcases List.mem_append.mp surveyedAsked with looked | asked
          · exact absurd looked found.showRoutes_notMem
          · exact installed.mem_of_listed asked read listed
    have there : route ∈ installed.map Route.normalized :=
      List.mem_map.mpr ⟨route, (tells route).mpr ⟨e, known, lists.tells fits⟩, fits.normalized⟩
    refine List.forall_mem_append.mpr ⟨early, ?_⟩
    rintro ⟨c, given⟩ mem other
    constructor
    · rintro rfl
      exact (removed_of_performs performs mem).2.2 wanted
    · rintro rfl
      exact (added_of_performs performs mem).2.2 there

/-- Every change of a route says in its words that a wanted one is put in or that another one is taken out. -/
theorem orders_of_syncRoutes (path : Path (syncRoutes mac routes) events r) {event : Event} (mem : event ∈ events)
    (change : event.1.isChange = true) :
    ∃ route device, (route ∈ routes.map Route.normalized ∧ event.1.OrdersRoute "replace" device route) ∨
      (route ∉ routes.map Route.normalized ∧ event.1.OrdersRoute "del" device route) := by
  obtain ⟨surveyed, changes, outcome, rfl, surveys, ends⟩ := path_syncRoutes path
  rcases List.mem_append.mp mem with early | late
  · rw [asks_of_survey surveys event early] at change
    cases change
  · rcases ends with ⟨_, -, rfl, -⟩ | ⟨link, entries, installed, rfl, -, performs⟩
    · cases late
    · have command := performs.mem _ late
      obtain ⟨c, reply⟩ := event
      rcases List.mem_append.mp command with removal | addition
      · obtain ⟨route, removed, rfl⟩ := List.mem_map.mp removal
        exact ⟨route, link.name,
          .inr ⟨(RouteChanges.mem_remove_iff.mp removed).2, IpCommand.ordersRoute_deleteRoute _ _⟩⟩
      · obtain ⟨route, added, rfl⟩ := List.mem_map.mp addition
        exact ⟨route, link.name, .inl ⟨(RouteChanges.mem_add_iff.mp added).1, IpCommand.ordersRoute_replaceRoute _ _⟩⟩

end Routes

section Addresses

variable {reply : IpReply} {reports : List LinkAddresses} {address : Network} {e : AddressEntry}

/-- The addresses of global scope in a report. -/
abbrev globals (reports : List LinkAddresses) : List Network :=
  (reports.flatMap LinkAddresses.addresses).filterMap AddressEntry.network?

/-- A command from before the addresses are known. -/
def Prepares (c : IpCommand) : Prop := c = .showLinks ∨ ∃ device, c = .setUp device

/-- The link is set up without a look at its addresses, and then they are asked for once and changed. -/
theorem path_configure (path : Path (configure mac address) events r) :
    (∀ event ∈ events, Prepares event.1) ∨
      ∃ early device reply rest, events = early ++ ⟨.showAddresses device, reply⟩ :: rest ∧
        (∀ event ∈ early, Prepares event.1) ∧
        (rest = [] ∨ ∃ reports, Reads LinkAddresses.fromJson? (.showAddresses device) reply (.ok reports) ∧
          Performs (addressChanges device address (globals reports)) rest r) := by
  have found {looked : List Event} {outcome : Except LinkError LinkEntry} (asked : Path (find mac) looked outcome) :
      ∀ event ∈ looked, Prepares event.1 := fun event mem => .inl ((path_find asked).looks event mem)
  have turned {link : LinkEntry} {done : List Event} {outcome : Except LinkError Unit}
      (runs : Path (runAll (if link.isUp then [] else [.setUp link.name])) done outcome) :
      ∀ event ∈ done, Prepares event.1 := by
    intro event mem
    have command := (path_runAll runs).mem event mem
    split at command
    · cases command
    · exact .inr ⟨_, List.mem_singleton.mp command⟩
  rcases path_bind_iff.mp path with ⟨_, looked, -⟩ | ⟨link, looked, _, rfl, asked, onward⟩
  · exact .inl (found looked)
  · rcases path_bind_iff.mp onward with ⟨_, refused, -⟩ | ⟨_, done, _, rfl, ups, onward⟩
    · exact .inl (List.forall_mem_append.mpr ⟨found asked, turned refused⟩)
    · have early := List.forall_mem_append.mpr ⟨found asked, turned ups⟩
      refine .inr ?_
      rcases path_bind_iff.mp onward with ⟨_, told, -⟩ | ⟨current, _, rest, rfl, told, changes⟩
      · obtain ⟨reply, rfl, -⟩ := path_globalAddresses told
        exact ⟨looked ++ done, link.name, reply, [], (List.append_assoc _ _ _).symm, early, .inl rfl⟩
      · obtain ⟨reply, rfl, ⟨_, -, same⟩ | ⟨reports, reads, same⟩⟩ := path_globalAddresses told
        · cases same
        · cases same
          exact ⟨looked ++ done, link.name, reply, rest, (List.append_assoc _ _ _).symm, early,
            .inr ⟨reports, reads, path_runAll changes⟩⟩

theorem mem_addressChanges_iff {current : List Network} {c : IpCommand} :
    c ∈ addressChanges device address current ↔
      (∃ n ∈ current, n.family = address.family ∧ n ≠ address ∧ c = .deleteAddress n device) ∨
        address ∉ current ∧ c = .addAddress address device := by
  unfold addressChanges
  rw [List.mem_append, List.mem_map]
  refine or_congr ?_ ?_
  · simp only [List.mem_filter, Bool.and_eq_true, decide_eq_true_eq, and_assoc, eq_comm (a := c)]
  · by_cases held : address ∈ current <;> simp [held]

/-- A wanted address that the report lists is left alone. -/
theorem keeps_listed_address (path : Path (configure mac address) events r)
    (asked : ⟨.showAddresses device, reply⟩ ∈ events)
    (read : Reads LinkAddresses.fromJson? (.showAddresses device) reply (.ok reports))
    (listed : e ∈ reports.flatMap LinkAddresses.addresses) (lists : e.Lists address) :
    ∀ event ∈ events, ∀ other, event.1 ≠ .deleteAddress address other ∧ event.1 ≠ .addAddress address other := by
  have prepared {early : List Event} (prepares : ∀ event ∈ early, Prepares event.1) :
      ∀ event ∈ early, ∀ other, event.1 ≠ .deleteAddress address other ∧ event.1 ≠ .addAddress address other := by
    intro event mem other
    rcases prepares event mem with same | ⟨_, same⟩ <;> simp [same]
  have held : address ∈ globals reports :=
    List.mem_filterMap.mpr ⟨e, listed, AddressEntry.network?_eq_some_iff.mpr lists.tells⟩
  rcases path_configure path with early | ⟨early, own, told, rest, rfl, prepares, ends⟩
  · exact prepared early
  · refine List.forall_mem_append.mpr ⟨prepared prepares, List.forall_mem_cons.mpr ⟨by simp, ?_⟩⟩
    rcases ends with rfl | ⟨others, reads, performs⟩
    · exact List.forall_mem_nil _
    · have same : own = device ∧ told = reply := by
        rcases List.mem_append.mp asked with mem | mem
        · rcases prepares _ mem with same | ⟨_, same⟩ <;> cases same
        · rcases List.mem_cons.mp mem with same | mem
          · cases same
            exact ⟨rfl, rfl⟩
          · have command := mem_addressChanges_iff.mp (performs.mem _ mem)
            simp at command
      obtain ⟨rfl, rfl⟩ := same
      cases read.unique reads
      rintro ⟨c, given⟩ mem other
      have command := mem_addressChanges_iff.mp (performs.mem _ mem)
      constructor
      · rintro rfl
        rcases command with ⟨n, -, -, another, same⟩ | ⟨-, same⟩
        · cases same
          exact another rfl
        · cases same
      · rintro rfl
        rcases command with ⟨n, -, -, -, same⟩ | ⟨absent, -⟩
        · cases same
        · exact absent held

/-- Every change of an address says in its words that the wanted one is put in or that another one is taken out. -/
theorem orders_of_configure (path : Path (configure mac address) events r) {event : Event} (mem : event ∈ events)
    (change : event.1.isChange = true) :
    (∃ device, event.1 = .setUp device) ∨
      (∃ device, event.1.OrdersAddress "add" device address) ∨
        ∃ n device, n ≠ address ∧ event.1.OrdersAddress "del" device n := by
  have prepared (prepares : Prepares event.1) : ∃ device, event.1 = .setUp device := by
    rcases prepares with same | same
    · rw [same] at change
      cases change
    · exact same
  rcases path_configure path with early | ⟨early, device, reply, rest, rfl, prepares, ends⟩
  · exact .inl (prepared (early event mem))
  · rcases List.mem_append.mp mem with mem | mem
    · exact .inl (prepared (prepares event mem))
    · rcases List.mem_cons.mp mem with rfl | mem
      · cases change
      · rcases ends with rfl | ⟨reports, -, performs⟩
        · cases mem
        · rcases mem_addressChanges_iff.mp (performs.mem _ mem) with ⟨n, -, -, other, same⟩ | ⟨-, same⟩
          · rw [same]
            exact .inr (.inr ⟨n, device, other, IpCommand.ordersAddress_deleteAddress n device⟩)
          · rw [same]
            exact .inr (.inl ⟨device, IpCommand.ordersAddress_addAddress address device⟩)

end Addresses

/-! ### A link of the newer family -/

/-- The way out of the link. -/
def newerRoute : Route := ⟨⟨.v6 (BitVec.ofNat 128 0), 0, Nat.zero_le _⟩, .v6 0x20010DB8000000010000000000000001⟩

/-- The address of the link, which stands for one of the older family. -/
def newerAddress : Network := ⟨.v6 0xFFFF0A000001, 120, by decide⟩

/-- The entry of the way out. -/
def newerRouteEntry : RouteEntry := ⟨"default", some "2001:db8:0:1::1", none⟩

/-- The entry of the address. -/
def newerAddressEntry : AddressEntry := ⟨"inet6", some "::ffff:10.0.0.1", some 120, some "global"⟩

/-- An interface that declares the address with blanks around it. -/
def newerInterface : NetworkInterface :=
  ⟨ObjectMeta.blank, ⟨"node-a", "\t::ffff:10.0.0.1/120 \n"⟩, none⟩

/-- What the host prints. -/
def newerReport : IpCommand → String
  | .showLinks => Json.render <| .array [.object
      [("ifname", .text "ens5"), ("address", .text "02:00:00:0a:bc:01"), ("operstate", .text "UP")]]
  | .showRoutes .v6 _ => Json.render <| .array [.object
      [("dst", .text "default"), ("gateway", .text "2001:db8:0:1::1"), ("metric", .ofNat 1024)]]
  | .showAddresses _ => Json.render <| .array [.object [("ifname", .text "ens5"), ("addr_info", .array [.object
      [("family", .text "inet6"), ("local", .text "::ffff:10.0.0.1"), ("prefixlen", .ofNat 120),
        ("scope", .text "global")]])]]
  | _ => ""

/-- The host prints its reports, and nothing after a change. -/
def newerHost (c : IpCommand) (s : Unit) : IpReply × Unit := (.ok (newerReport c), s)

/-- What is put on a link is read back as it was meant. A listed route is told as itself, and a listed address as
the network that the same text declares with blanks around it; the words of every change are read as the wanted
thing that is put in, or as another one that is taken out; and whatever the commands give, a wanted route or
address that a report lists is not changed by the operation that has read the report. -/
theorem installed_is_read_back {σ : Type} (answer : IpCommand → σ → IpReply × σ) (s : σ) (mac : String)
    (routes : List Route) (address : Network) :
    (∀ (e : RouteEntry) (route : Route), e.Lists route → route.Fits → e.route? = .ok (some route)) ∧
    (∀ (e : AddressEntry) (n : Network) (nic : NetworkInterface), e.Lists n →
      Text.Padded n.chars nic.spec.address.toList → e.network? = some n ∧ addressOf nic = .ok n) ∧
    (∀ event ∈ Program.trace answer (syncRoutes mac routes).run s, event.1.isChange = true →
      ∃ route device, (route ∈ routes.map Route.normalized ∧ event.1.OrdersRoute "replace" device route) ∨
        (route ∉ routes.map Route.normalized ∧ event.1.OrdersRoute "del" device route)) ∧
    (∀ event ∈ Program.trace answer (configure mac address).run s, event.1.isChange = true →
      (∃ device, event.1 = .setUp device) ∨ (∃ device, event.1.OrdersAddress "add" device address) ∨
        ∃ n device, n ≠ address ∧ event.1.OrdersAddress "del" device n) ∧
    (∀ family device reply entries,
      ⟨.showRoutes family device, reply⟩ ∈ Program.trace answer (syncRoutes mac routes).run s →
      Reads RouteEntry.fromJson? (.showRoutes family device) reply (.ok entries) →
      ∀ e ∈ entries, ∀ route ∈ routes.map Route.normalized, e.Lists route → route.Fits →
        ∀ event ∈ Program.trace answer (syncRoutes mac routes).run s, ∀ other,
          event.1 ≠ .deleteRoute route other ∧ event.1 ≠ .replaceRoute route other) ∧
    ∀ device reply reports,
      ⟨.showAddresses device, reply⟩ ∈ Program.trace answer (configure mac address).run s →
      Reads LinkAddresses.fromJson? (.showAddresses device) reply (.ok reports) →
      ∀ e ∈ reports.flatMap LinkAddresses.addresses, e.Lists address →
        ∀ event ∈ Program.trace answer (configure mac address).run s, ∀ other,
          event.1 ≠ .deleteAddress address other ∧ event.1 ≠ .addAddress address other := by
  have syncing := Program.path_run answer (syncRoutes mac routes).run s
  have configuring := Program.path_run answer (configure mac address).run s
  refine ⟨?_, ?_, ?_, ?_, ?_, ?_⟩
  · intro e route lists fits
    exact (lists.tells fits).route?
  · intro e n nic lists declared
    exact ⟨AddressEntry.network?_eq_some_iff.mpr lists.tells, addressOf_of_padded declared⟩
  · intro event mem change
    exact orders_of_syncRoutes syncing mem change
  · intro event mem change
    exact orders_of_configure configuring mem change
  · intro family device reply entries asked read e listed route wanted lists fits
    exact keeps_listed_route syncing asked read listed lists fits wanted
  · intro device reply reports asked read e listed lists
    exact keeps_listed_address configuring asked read listed lists

theorem newer_link_read_back :
    newerRoute.Fits ∧ newerRouteEntry.Lists newerRoute ∧ newerRouteEntry.route? = .ok (some newerRoute) ∧
      newerAddressEntry.Lists newerAddress ∧ newerAddressEntry.network? = some newerAddress ∧
      addressOf newerInterface = .ok newerAddress ∧
      (∀ event ∈ Program.trace newerHost (syncRoutes "02:00:00:0A:BC:01" [newerRoute]).run (),
        ∀ other, event.1 ≠ .deleteRoute newerRoute other ∧ event.1 ≠ .replaceRoute newerRoute other) ∧
      ∀ event ∈ Program.trace newerHost (configure "02:00:00:0A:BC:01" newerAddress).run (),
        ∀ other, event.1 ≠ .deleteAddress newerAddress other ∧ event.1 ≠ .addAddress newerAddress other := by
  have fits : newerRoute.Fits := ⟨by decide, rfl⟩
  have listsRoute : newerRouteEntry.Lists newerRoute := ⟨by decide, by decide +kernel, by decide +kernel⟩
  have listsAddress : newerAddressEntry.Lists newerAddress := ⟨rfl, by decide +kernel, rfl⟩
  have declared : Text.Padded newerAddress.chars newerInterface.spec.address.toList :=
    ⟨['\t'], [' ', '\n'], by decide +kernel, List.all_eq_true.mp rfl, List.all_eq_true.mp rfl⟩
  have readRoutes : Reads RouteEntry.fromJson? (.showRoutes .v6 "ens5") (.ok (newerReport (.showRoutes .v6 "ens5")))
      (.ok [newerRouteEntry]) := .read (by decide +kernel) (by decide +kernel)
  have readAddresses : Reads LinkAddresses.fromJson? (.showAddresses "ens5") (.ok (newerReport (.showAddresses "ens5")))
      (.ok [⟨"ens5", [newerAddressEntry]⟩]) := .read (by decide +kernel) (by decide +kernel)
  have asked {α : Type} {p : LinkProgram α} {c : IpCommand}
      (runs : c ∈ (Program.trace newerHost p.run ()).map Sigma.fst) :
      ⟨c, .ok (newerReport c)⟩ ∈ Program.trace newerHost p.run () := by
    obtain ⟨⟨_, reply⟩, mem, rfl⟩ := List.mem_map.mp runs
    obtain ⟨_, told⟩ := Program.exists_of_mem_trace mem
    rwa [← show reply = .ok (newerReport _) from told]
  obtain ⟨told, declares, -, -, keepsRoute, keepsAddress⟩ :=
    installed_is_read_back newerHost () "02:00:00:0A:BC:01" [newerRoute] newerAddress
  obtain ⟨network, address⟩ := declares newerAddressEntry newerAddress newerInterface listsAddress declared
  refine ⟨fits, listsRoute, told _ _ listsRoute fits, listsAddress, network, address, ?_, ?_⟩
  · exact keepsRoute .v6 "ens5" _ _ (asked (by decide +kernel)) readRoutes newerRouteEntry List.mem_cons_self newerRoute
      (by decide) listsRoute fits
  · exact keepsAddress "ens5" _ _ (asked (by decide +kernel)) readAddresses newerAddressEntry (by simp) listsAddress

end Links

end LinkKeeper
