import LinkKeeper.Link.Synchronizer
import LinkKeeper.Proofs.Net.RoundTrip
import LinkKeeper.Proofs.Reconcile.Paths

/-!
A host as the operations on its links meet it.

What is assumed of a host stands in one place: how it reports its links and its routes, and what the two
commands that change routes do to the table of a link. A table has at most one gateway for each destination.

* `LinkHost.Lawful`: the assumptions.
* `RouteEntry.route?_of_shows`: an entry of a table is read back from its report.
* `LinkHost.Yields`: what an operation comes to as long as no command of it fails.
* `LinkHost.yields_find`, `LinkHost.Lawful.yields_installedRoutes`: what the operations find out.
-/

namespace LinkKeeper

open Net

/-! ### Reports -/

namespace Json

/-- The items of an array as they are. -/
theorem list?_some (items : List Json) : list? some (.array items) = some items := by
  have each : items.mapM (m := Option) (pure <| id ·) = pure (items.map id) := List.mapM_pure
  rwa [List.map_id] at each

/-- An object with these members, of which none is there twice: a text, or no member where nothing stands.
Others may be there too. -/
def HasTexts (fields : List (String × Option String)) (item : Json) : Prop :=
  ∃ members, item = .object members ∧ noneRepeated (fields.map Prod.fst) members = true ∧
    ∀ field ∈ fields, members.lookup field.1 = field.2.map .text

theorem record?_of_hasTexts {fields : List (String × Option String)} {item : Json}
    (texts : item.HasTexts fields) :
    ∃ f, record? (fields.map Prod.fst) item = some f ∧
      (∀ field ∈ fields, ∀ text, field.2 = some text → f.required field.1 text? = some text) ∧
      ∀ field ∈ fields, f.maybe field.1 text? = some field.2 := by
  obtain ⟨members, rfl, once, reads⟩ := texts
  refine ⟨⟨false, members⟩, if_pos once, ?_, ?_⟩
  · intro field mem text given
    unfold Fields.required
    rw [reads field mem, given]
    rfl
  · intro field mem
    unfold Fields.maybe Fields.defaulted
    dsimp only
    rw [reads field mem]
    cases field.2 <;> rfl

end Json

theorem LinkEntry.fromJson?_of_hasTexts {l : LinkEntry} {item : Json}
    (texts : item.HasTexts [("ifname", some l.name), ("address", l.macAddress), ("operstate", l.state)]) :
    LinkEntry.fromJson? item = some l := by
  obtain ⟨f, record, required, maybe⟩ := Json.record?_of_hasTexts texts
  have named := required ("ifname", some l.name) (by simp) l.name rfl
  have addressed := maybe ("address", l.macAddress) (by simp)
  have stated := maybe ("operstate", l.state) (by simp)
  unfold LinkEntry.fromJson?
  simp only [List.map_cons, List.map_nil] at record named addressed stated
  simp only [record, Option.bind_eq_bind, Option.bind_some, named, addressed, stated]

/-- The text of a report that gives the links in order. -/
def LinkEntry.Told (links : List LinkEntry) (text : String) : Prop :=
  ∃ item : LinkEntry → Json, Report.parse? some text = some (links.map item) ∧
    ∀ l, (item l).HasTexts [("ifname", some l.name), ("address", l.macAddress), ("operstate", l.state)]

theorem RouteEntry.fromJson?_of_hasTexts {e : RouteEntry} {item : Json}
    (texts : item.HasTexts [("dst", some e.destination), ("gateway", e.gateway), ("protocol", e.protocol)]) :
    RouteEntry.fromJson? item = some e := by
  obtain ⟨f, record, required, maybe⟩ := Json.record?_of_hasTexts texts
  have aimed := required ("dst", some e.destination) (by simp) e.destination rfl
  have sent := maybe ("gateway", e.gateway) (by simp)
  have made := maybe ("protocol", e.protocol) (by simp)
  unfold RouteEntry.fromJson?
  simp only [List.map_cons, List.map_nil] at record aimed sent made
  simp only [record, Option.bind_eq_bind, Option.bind_some, aimed, sent, made]

/-- A report of items is read item by item. -/
theorem Report.parse?_of_items {α : Type} {text : String} {items : List Json} (entry : Json.Decoder α)
    (holds : Report.parse? some text = some items) : Report.parse? entry text = items.mapM entry := by
  unfold Report.parse? at holds ⊢
  split at holds
  · rename_i blank
    obtain rfl := Option.some.inj holds
    rw [if_pos blank]
    rfl
  · rename_i written
    rw [if_neg written]
    obtain ⟨document, parsed, listed⟩ := Option.bind_eq_some_iff.mp holds
    rw [parsed]
    cases document with
    | array inside =>
        obtain rfl := Option.some.inj ((Json.list?_some inside).symm.trans listed)
        rfl
    | null | bool | number | text | object | unreadable => cases listed

/-- A report that gives the links is read as them. -/
theorem LinkEntry.Told.parse? {links : List LinkEntry} {text : String} (told : LinkEntry.Told links text) :
    Report.parse? LinkEntry.fromJson? text = some links := by
  obtain ⟨item, holds, texts⟩ := told
  have reads : LinkEntry.fromJson? ∘ item = fun l => pure (id l) :=
    funext fun l => LinkEntry.fromJson?_of_hasTexts (texts l)
  rw [Report.parse?_of_items _ holds, List.mapM_map, reads, List.mapM_pure, List.map_id]
  rfl

/-- A list is gone through to its end where each item can be read. -/
theorem mapM_eq_pure {α β : Type} {m : Type → Type} [Monad m] [LawfulMonad m] {f : α → m β} {items : List α}
    (each : ∀ x ∈ items, ∃ b, f x = pure b) :
    ∃ results, items.mapM f = pure results ∧ (∀ b ∈ results, ∃ x ∈ items, f x = pure b) ∧
      ∀ x ∈ items, ∃ b ∈ results, f x = pure b := by
  induction items with
  | nil => exact ⟨[], List.mapM_nil, by simp, by simp⟩
  | cons y rest ih =>
      obtain ⟨b, first⟩ := each y List.mem_cons_self
      obtain ⟨results, later, sources, reached⟩ := ih fun x mem => each x (List.mem_cons_of_mem _ mem)
      refine ⟨b :: results, by simp [first, later], ?_, ?_⟩
      · intro c mem
        rcases List.mem_cons.mp mem with rfl | mem
        · exact ⟨y, List.mem_cons_self, first⟩
        · obtain ⟨x, among, gives⟩ := sources c mem
          exact ⟨x, List.mem_cons_of_mem _ among, gives⟩
      · intro x mem
        rcases List.mem_cons.mp mem with rfl | mem
        · exact ⟨b, List.mem_cons_self, first⟩
        · obtain ⟨c, among, gives⟩ := reached x mem
          exact ⟨c, List.mem_cons_of_mem _ among, gives⟩

/-! ### Tables of routes -/

/-- A route as a table can hold it: the host bits of the destination are clear, and the gateway is of its
family. -/
structure Route.Fits (r : Route) : Prop where
  normalized : r.normalized = r
  family : r.via.family = r.destination.family

/-- The gateway of a destination, and whether the kernel has put it there. -/
structure Gateway where
  via : Address
  kernel : Bool
  deriving DecidableEq, Repr

/-- The gateway of each destination that has one. -/
abbrev Gateways := Network → Option Gateway

namespace Gateways

/-- A route is put in: it is the only one of its destination. -/
def put (gateways : Gateways) (r : Route) : Gateways :=
  fun d => if d = r.destination then some ⟨r.via, false⟩ else gateways d

/-- A route is taken out. -/
def takeOut (gateways : Gateways) (r : Route) : Gateways :=
  fun d => (gateways d).filter fun g => (⟨d, g.via⟩ : Route) ≠ r

end Gateways

/-- The routes of a link that go through gateways: at most one for each destination. -/
structure RouteTable where
  gateway? : Gateways
  fits : ∀ d g, gateway? d = some g → Route.Fits ⟨d, g.via⟩

namespace RouteTable

/-- The route is in the table, and the kernel has not put it there. -/
def Managed (t : RouteTable) (r : Route) : Prop := t.gateway? r.destination = some ⟨r.via, false⟩

/-- How the destination of a route is reported. -/
def destinationText (d : Network) : String :=
  if d.length = 0 then "default" else if d.length = d.family.width then d.address.text else d.text

/-- How an entry of a table is reported. -/
def Shows (d : Network) (g : Gateway) (item : Json) : Prop :=
  ∃ protocol, (protocol = some "kernel" ↔ g.kernel = true) ∧
    item.HasTexts [("dst", some (destinationText d)), ("gateway", some g.via.text), ("protocol", protocol)]

/-- The items are the entries of one family, in any order and among routes that go through no gateway. -/
structure Listed (t : RouteTable) (family : Family) (items : List Json) : Prop where
  sound : ∀ item ∈ items,
    (∃ d g, t.gateway? d = some g ∧ d.family = family ∧ Shows d g item) ∨
      ∃ text protocol, item.HasTexts [("dst", some text), ("gateway", none), ("protocol", protocol)]
  complete : ∀ d g, t.gateway? d = some g → d.family = family → ∃ item ∈ items, Shows d g item

end RouteTable

theorem Net.Network.everything_of_truncated {d : Network} (normal : d.truncated = d) (zero : d.length = 0) :
    everything d.family = d := by
  obtain ⟨a, length, fits⟩ := d
  obtain rfl : length = 0 := zero
  cases a with
  | v4 bits =>
      have cleared : bits &&& BitVec.allOnes 32 <<< 32 = bits :=
        Address.v4.inj (congrArg Network.address normal)
      obtain rfl : 0 = bits := by simpa using cleared
      rfl
  | v6 bits =>
      have cleared : bits &&& BitVec.allOnes 128 <<< 128 = bits :=
        Address.v6.inj (congrArg Network.address normal)
      obtain rfl : 0 = bits := by simpa using cleared
      rfl

namespace RouteEntry

/-- A reported destination is read back. -/
theorem destination?_destinationText {d : Network} (normal : d.truncated = d) :
    destination? d.family (RouteTable.destinationText d) = some d := by
  unfold destination? RouteTable.destinationText
  by_cases zero : d.length = 0
  · rw [if_pos zero, if_pos rfl, Network.everything_of_truncated normal zero]
  · rw [if_neg zero]
    by_cases full : d.length = d.family.width
    · have read := Address.parse?_chars d.address
      have other : d.address.text ≠ "default" := by
        intro same
        have chars : d.address.chars = "default".toList := by
          rw [← same, Address.text, String.toList_ofList]
        rw [chars] at read
        cases read
      have bare : d.address.text.toList.contains '/' = false := by
        simpa [Address.text] using Address.slash_notMem_chars d.address
      rw [if_pos full, if_neg other, bare, if_neg Bool.false_ne_true, Address.text, String.toList_ofList, read]
      obtain ⟨a, length, fits⟩ := d
      obtain rfl : length = a.family.width := full
      rfl
    · have slash := Network.slash_mem_chars d
      have other : d.text ≠ "default" := by
        intro same
        have chars : d.chars = "default".toList := by rw [← same, Network.text, String.toList_ofList]
        rw [chars] at slash
        exact absurd slash (by decide)
      have long : d.text.toList.contains '/' = true := by simpa [Network.text] using slash
      rw [if_neg full, if_neg other, if_pos long, Network.text, String.toList_ofList, Network.parse?_chars]

/-- An entry of a table is read back from its report, and left out if it is the kernel's. -/
theorem route?_of_shows {d : Network} {g : Gateway} {item : Json} (fits : Route.Fits ⟨d, g.via⟩)
    (shows : RouteTable.Shows d g item) :
    ∃ e, fromJson? item = some e ∧ e.route? = .ok (if g.kernel then none else some ⟨d, g.via⟩) := by
  obtain ⟨protocol, marked, texts⟩ := shows
  refine ⟨⟨RouteTable.destinationText d, some g.via.text, protocol⟩, fromJson?_of_hasTexts texts, ?_⟩
  unfold route?
  by_cases kernel : g.kernel = true
  · rw [if_pos (marked.mpr kernel), if_pos kernel]
  · have read : Address.parse? g.via.text.toList = some g.via := by
      rw [Address.text, String.toList_ofList, Address.parse?_chars]
    have destination := destination?_destinationText (congrArg Route.destination fits.normalized)
    rw [← fits.family] at destination
    rw [if_neg fun own => kernel (marked.mp own), if_neg kernel]
    simp only [read, destination]

end RouteEntry

section Listed

variable {table : RouteTable} {family : Family} {items : List Json}

/-- Every item of a report is read, and if it comes to a route, then to a managed one of the family. -/
theorem RouteTable.Listed.reads (listed : table.Listed family items) {item : Json} (mem : item ∈ items) :
    ∃ e r, RouteEntry.fromJson? item = some e ∧ e.route? = .ok r ∧
      ∀ route, r = some route → table.Managed route ∧ route.destination.family = family := by
  rcases listed.sound item mem with ⟨d, ⟨via, kernel⟩, entry, own, shows⟩ | ⟨text, protocol, texts⟩
  · obtain ⟨e, read, counts⟩ := RouteEntry.route?_of_shows (table.fits _ _ entry) shows
    refine ⟨e, _, read, counts, ?_⟩
    intro route same
    cases kernel with
    | true => cases same
    | false =>
        obtain rfl := Option.some.inj same
        exact ⟨entry, own⟩
  · have nowhere : RouteEntry.route? ⟨text, none, protocol⟩ = .ok none := by
      unfold RouteEntry.route?
      split <;> rfl
    exact ⟨_, none, RouteEntry.fromJson?_of_hasTexts texts, nowhere, fun _ same => nomatch same⟩

theorem Links.routesOf_eq (device : String) (entries : List RouteEntry) :
    routesOf device entries = (do
      let routes ← entries.mapM fun e => e.route?.mapError (LinkError.invalidValue device)
      pure (routes.filterMap id)) := by
  unfold routesOf
  congr
  funext e
  cases e.route? <;> rfl

/-- A report that lists the entries of a table comes to the managed routes of the family. -/
theorem RouteTable.Listed.routesOf (listed : table.Listed family items) (device : String) :
    ∃ entries routes, items.mapM RouteEntry.fromJson? = some entries ∧
      Links.routesOf device entries = .ok routes ∧
      ∀ r, r ∈ routes ↔ table.Managed r ∧ r.destination.family = family := by
  obtain ⟨entries, read, sources, reached⟩ := mapM_eq_pure (f := RouteEntry.fromJson?) fun item mem =>
    let ⟨e, _, read, _⟩ := listed.reads mem
    ⟨e, read⟩
  have counts : ∀ e ∈ entries, ∃ r, e.route? = .ok r ∧
      ∀ route, r = some route → table.Managed route ∧ route.destination.family = family := by
    intro e mem
    obtain ⟨item, among, same⟩ := sources e mem
    obtain ⟨e', r, read, counts, managed⟩ := listed.reads among
    rw [read] at same
    obtain rfl := Option.some.inj same
    exact ⟨r, counts, managed⟩
  have passes : ∀ e ∈ entries, ∃ r, e.route?.mapError (LinkError.invalidValue device) = pure r := by
    intro e mem
    obtain ⟨r, same, -⟩ := counts e mem
    exact ⟨r, by rw [same]; rfl⟩
  obtain ⟨options, counted, came, went⟩ := mapM_eq_pure passes
  refine ⟨entries, options.filterMap id, read, ?_, ?_⟩
  · rw [Links.routesOf_eq, counted]
    rfl
  · intro r
    rw [List.mem_filterMap]
    constructor
    · rintro ⟨_, mem, rfl⟩
      obtain ⟨e, among, gives⟩ := came _ mem
      obtain ⟨o, same, managed⟩ := counts e among
      rw [same] at gives
      exact managed r (Except.ok.inj gives)
    · rintro ⟨managed, own⟩
      obtain ⟨item, among, shows⟩ := listed.complete _ _ managed own
      obtain ⟨e, read, route⟩ := RouteEntry.route?_of_shows (table.fits _ _ managed) shows
      obtain ⟨e', mem, same⟩ := reached item among
      rw [read] at same
      obtain rfl := Option.some.inj same
      obtain ⟨o, mem, gives⟩ := went e mem
      rw [route] at gives
      obtain rfl := Except.ok.inj gives
      exact ⟨_, mem, rfl⟩

end Listed

/-! ### Hosts -/

/-- A host: how it answers commands, which links it has, and the table of routes of each. -/
structure LinkHost (σ : Type) where
  answer : IpCommand → σ → IpReply × σ
  links : σ → List LinkEntry
  routes : σ → String → RouteTable

namespace LinkHost

section Runs

variable {σ α β : Type} (h : LinkHost σ)

/-- The links and the routes are the same. -/
structure Same (s t : σ) : Prop where
  links : h.links t = h.links s
  routes : h.routes t = h.routes s

/-- What is assumed of the commands that are in use for routes. Nothing is assumed of one that fails. -/
structure Lawful : Prop where
  /-- The report of the links gives the texts of each link, in order. -/
  showLinks : ∀ s text t, h.answer .showLinks s = (.ok text, t) → h.Same s t ∧
    ∃ item : LinkEntry → Json, Report.parse? some text = some ((h.links s).map item) ∧
      ∀ l, (item l).HasTexts [("ifname", some l.name), ("address", l.macAddress), ("operstate", l.state)]
  /-- The report of the routes lists the entries of a family. -/
  showRoutes : ∀ family device s text t, h.answer (.showRoutes family device) s = (.ok text, t) → h.Same s t ∧
    ∃ items, Report.parse? some text = some items ∧ (h.routes s device).Listed family items
  /-- A route that fits is put in. -/
  replaceRoute : ∀ r device s text t, r.Fits → h.answer (.replaceRoute r device) s = (.ok text, t) →
    h.links t = h.links s ∧ (h.routes t device).gateway? = (h.routes s device).gateway?.put r
  /-- A route is taken out. -/
  deleteRoute : ∀ r device s text t, h.answer (.deleteRoute r device) s = (.ok text, t) →
    h.links t = h.links s ∧ (h.routes t device).gateway? = (h.routes s device).gateway?.takeOut r

/-- Runs an operation on the host. -/
def run (x : LinkProgram α) (s : σ) : Except LinkError α × σ := Program.run h.answer x.run s

/-- The commands of a run with what they give. -/
def trace (x : LinkProgram α) (s : σ) : List ((_ : IpCommand) × IpReply) := Program.trace h.answer x.run s

/-- The commands of a run that change the host. -/
def changes (x : LinkProgram α) (s : σ) : List IpCommand :=
  ((h.trace x s).map Sigma.fst).filter IpCommand.isChange

/-- No command of the run fails. -/
def Unfailing (x : LinkProgram α) (s : σ) : Prop := ∀ event ∈ h.trace x s, event.2.isOk = true

instance (x : LinkProgram α) (s : σ) : Decidable (h.Unfailing x s) :=
  inferInstanceAs (Decidable (∀ event ∈ h.trace x s, event.2.isOk = true))

/-- As long as no command of it fails, the operation ends well, with such a result, after such changes and in
such a state. -/
def Yields (x : LinkProgram α) (s : σ) (post : α → List IpCommand → σ → Prop) : Prop :=
  h.Unfailing x s → ∃ a t, h.run x s = (.ok a, t) ∧ post a (h.changes x s) t

variable {h} {x : LinkProgram α} {f : α → LinkProgram β} {s : σ} {c : IpCommand}

theorem Yields.mono {post weaker : α → List IpCommand → σ → Prop} (yields : h.Yields x s post)
    (implies : ∀ a cs t, post a cs t → weaker a cs t) : h.Yields x s weaker := by
  intro unfailing
  obtain ⟨a, t, ran, holds⟩ := yields unfailing
  exact ⟨a, t, ran, implies _ _ _ holds⟩

theorem yields_pure {a : α} {post : α → List IpCommand → σ → Prop} (holds : post a [] s) :
    h.Yields (pure a) s post := fun _ => ⟨a, s, rfl, holds⟩

theorem trace_bind : h.trace (x >>= f) s = h.trace x s ++
    match h.run x s with
    | (.ok a, t) => h.trace (f a) t
    | (.error _, _) => [] := by
  unfold trace run
  refine (Program.trace_bind h.answer x.run _ s).trans ?_
  congr 1
  cases Program.run h.answer x.run s with
  | mk outcome t => cases outcome <;> rfl

theorem run_bind {a : α} {t : σ} (first : h.run x s = (.ok a, t)) : h.run (x >>= f) s = h.run (f a) t :=
  Program.run_except_bind_ok first

/-- One operation after another. -/
theorem yields_bind {mid : α → List IpCommand → σ → Prop} {post : β → List IpCommand → σ → Prop}
    (first : h.Yields x s mid)
    (onward : ∀ a cs t, mid a cs t → h.Yields (f a) t fun b ds u => post b (cs ++ ds) u) :
    h.Yields (x >>= f) s post := by
  intro unfailing
  obtain ⟨a, t, ran, holds⟩ := first fun event mem => unfailing event (by simp [trace_bind, mem])
  have traced : h.trace (x >>= f) s = h.trace x s ++ h.trace (f a) t := by rw [trace_bind, ran]
  obtain ⟨b, u, ended, reached⟩ := onward _ _ _ holds fun event mem =>
    unfailing event (by simp [traced, mem])
  refine ⟨b, u, (run_bind ran).trans ended, ?_⟩
  unfold changes at reached ⊢
  rwa [traced, List.map_append, List.filter_append]

/-- One command. -/
theorem yields_run {post : String → List IpCommand → σ → Prop}
    (holds : ∀ text t, h.answer c s = (.ok text, t) → post text (if c.isChange then [c] else []) t) :
    h.Yields (Links.run c) s post := by
  intro unfailing
  have traced : h.trace (Links.run c) s = [⟨c, (h.answer c s).1⟩] := rfl
  have succeeds := unfailing ⟨c, (h.answer c s).1⟩ (by rw [traced]; exact List.mem_cons_self)
  obtain ⟨text, gives⟩ : ∃ text, (h.answer c s).1 = .ok text := by
    cases reply : (h.answer c s).1 with
    | error e => simp [reply, Except.isOk, Except.toBool] at succeeds
    | ok text => exact ⟨text, rfl⟩
  have answered : h.answer c s = (.ok text, (h.answer c s).2) := Prod.ext gives rfl
  have changed : h.changes (Links.run c) s = if c.isChange then [c] else [] := by
    unfold changes
    rw [traced]
    cases change : c.isChange <;> simp [change]
  refine ⟨text, (h.answer c s).2, answered, ?_⟩
  rw [changed]
  exact holds _ _ answered

/-- One report. -/
theorem yields_report {entry : Json.Decoder α} {post : List α → List IpCommand → σ → Prop}
    (asks : c.isChange = false)
    (holds : ∀ text t, h.answer c s = (.ok text, t) →
      ∃ entries, Report.parse? entry text = some entries ∧ post entries [] t) :
    h.Yields (Links.report entry c) s post := by
  have asked : h.Yields (Links.run c) s fun text cs t => cs = [] ∧ h.answer c s = (.ok text, t) := by
    refine yields_run ?_
    intro text t answered
    exact ⟨by rw [asks]; rfl, answered⟩
  refine yields_bind asked ?_
  rintro text _ t ⟨rfl, answered⟩
  obtain ⟨entries, parsed, reached⟩ := holds text t answered
  rw [parsed]
  exact yields_pure reached

end Runs

/-! ### What the operations find out -/

section Lookups

variable {σ : Type} {h : LinkHost σ} {s t u : σ} {mac device : String} {link : LinkEntry}

theorem Same.trans (first : h.Same s t) (later : h.Same t u) : h.Same s u :=
  ⟨later.links.trans first.links, later.routes.trans first.routes⟩

/-- The link with the hardware address is looked up, if the report of the links can be relied on. -/
theorem yields_find? {keeps : σ → Prop}
    (told : ∀ text t, h.answer .showLinks s = (.ok text, t) → keeps t ∧ LinkEntry.Told (h.links s) text) :
    h.Yields (Links.find? mac) s fun entry cs t =>
      entry = (h.links s).find? (·.hasAddress mac) ∧ cs = [] ∧ keeps t := by
  have shown : h.Yields (Links.report LinkEntry.fromJson? .showLinks) s
      fun entries cs t => entries = h.links s ∧ cs = [] ∧ keeps t := by
    refine yields_report rfl ?_
    intro text t answered
    obtain ⟨same, holds⟩ := told text t answered
    exact ⟨h.links s, holds.parse?, rfl, rfl, same⟩
  refine yields_bind shown ?_
  rintro _ _ t ⟨rfl, rfl, same⟩
  exact yields_pure ⟨rfl, rfl, same⟩

theorem yields_find {keeps : σ → Prop}
    (told : ∀ text t, h.answer .showLinks s = (.ok text, t) → keeps t ∧ LinkEntry.Told (h.links s) text)
    (found : (h.links s).find? (·.hasAddress mac) = some link) :
    h.Yields (Links.find mac) s fun entry cs t => entry = link ∧ cs = [] ∧ keeps t := by
  refine yields_bind (yields_find? told) ?_
  rintro _ _ t ⟨rfl, rfl, same⟩
  rw [found]
  exact yields_pure ⟨rfl, rfl, same⟩

/-- The managed routes of one family are found out. -/
theorem Lawful.yields_familyRoutes (lawful : h.Lawful) (family : Family) :
    h.Yields (Links.familyRoutes device family) s fun routes cs t => cs = [] ∧ h.Same s t ∧
      ∀ r, r ∈ routes ↔ (h.routes s device).Managed r ∧ r.destination.family = family := by
  have shown : h.Yields (Links.report RouteEntry.fromJson? (.showRoutes family device)) s fun entries cs t =>
      cs = [] ∧ h.Same s t ∧ ∃ routes, Links.routesOf device entries = .ok routes ∧
        ∀ r, r ∈ routes ↔ (h.routes s device).Managed r ∧ r.destination.family = family := by
    refine yields_report rfl ?_
    intro text t answered
    obtain ⟨same, items, holds, listed⟩ := lawful.showRoutes family device s text t answered
    obtain ⟨entries, routes, read, counted, mem⟩ := listed.routesOf device
    exact ⟨entries, (Report.parse?_of_items _ holds).trans read, rfl, same, routes, counted, mem⟩
  refine yields_bind shown ?_
  rintro entries _ t ⟨rfl, same, routes, counted, mem⟩ -
  rw [counted]
  exact ⟨routes, t, rfl, rfl, same, mem⟩

/-- The managed routes of a link are found out. -/
theorem Lawful.yields_installedRoutes (lawful : h.Lawful) :
    h.Yields (Links.installedRoutes device) s fun routes cs t => cs = [] ∧ h.Same s t ∧
      ∀ r, r ∈ routes ↔ (h.routes s device).Managed r := by
  refine yields_bind (lawful.yields_familyRoutes .v4) ?_
  rintro older _ t ⟨rfl, first, mem_older⟩
  refine yields_bind (lawful.yields_familyRoutes .v6) ?_
  rintro newer _ u ⟨rfl, later, mem_newer⟩
  refine yields_pure ⟨rfl, first.trans later, ?_⟩
  intro r
  rw [List.mem_append, mem_older, mem_newer, first.routes]
  cases r.destination.family <;> simp

end Lookups

end LinkHost

end LinkKeeper
