import LinkKeeper.Proofs.Json.Fields
import LinkKeeper.Proofs.Link.Host
import LinkKeeper.Reconcile.Plan

/-!
What the routes of a link come to.

An operation takes the managed routes out that are not wanted, and puts those in that are not there. A route
that is put in takes the place of any other one of its destination: so the routes of a link come to those that
are given just when these have one gateway for each destination. Else every call changes the table again.

* `LinkHost.Lawful.yields_syncRoutes`: the table after the operation, in terms of that before it.
* `RouteTable.Serves`, `RouteTable.Spares`: what it is like in any case.
* `LinkHost.Lawful.syncRoutes_carries_iff`: when it is exactly as given, and when nothing is left to change.
* `LinkHost.two_ways_out_not_carried`: a list of routes for which it is not.
-/

namespace LinkKeeper

open Net

theorem Route.eq_of_parts {r q : Route} (destination : r.destination = q.destination) (via : r.via = q.via) :
    r = q := by
  cases r
  cases q
  exact congr (congrArg Route.mk destination) via

/-! ### Changes of a table -/

/-- The last of the routes to the destination. -/
def lastTo (routes : List Route) (d : Network) : Option Route := routes.reverse.find? (·.destination = d)

theorem lastTo_cons (r : Route) (rest : List Route) (d : Network) :
    lastTo (r :: rest) d = (lastTo rest d).or (if r.destination = d then some r else none) := by
  unfold lastTo
  rw [List.reverse_cons, List.find?_append]
  by_cases own : r.destination = d <;> simp [own]

theorem mem_of_lastTo {routes : List Route} {d : Network} {r : Route} (last : lastTo routes d = some r) :
    r ∈ routes ∧ r.destination = d := by
  refine ⟨List.mem_reverse.mp (List.mem_of_find?_eq_some last), ?_⟩
  simpa using List.find?_some last

theorem ne_of_lastTo_eq_none {routes : List Route} {d : Network} (none_last : lastTo routes d = none) {r : Route}
    (mem : r ∈ routes) : r.destination ≠ d := by
  simpa using List.find?_eq_none.mp none_last r (List.mem_reverse.mpr mem)

namespace Gateways

theorem foldl_takeOut (removed : List Route) (gateways : Gateways) (d : Network) :
    removed.foldl takeOut gateways d = (gateways d).filter fun g => ⟨d, g.via⟩ ∉ removed := by
  induction removed generalizing gateways with
  | nil =>
      rw [List.foldl_nil]
      cases gateways d with
      | none => rfl
      | some g => simp [Option.filter]
  | cons r rest ih =>
      rw [List.foldl_cons, ih, takeOut, Option.filter_filter]
      simp

theorem foldl_put (added : List Route) (gateways : Gateways) (d : Network) :
    added.foldl put gateways d = ((lastTo added d).map fun r => ⟨r.via, false⟩).or (gateways d) := by
  induction added generalizing gateways with
  | nil => rfl
  | cons r rest ih =>
      rw [List.foldl_cons, ih, put, lastTo_cons]
      by_cases own : d = r.destination
      · cases lastTo rest d <;> simp [own]
      · cases lastTo rest d <;> simp [own, Ne.symm own]

end Gateways

/-- The gateway of each destination after the changes: removals come first. -/
def RouteChanges.gatewaysAfter (changes : RouteChanges) (gateways : Gateways) : Gateways :=
  changes.add.foldl Gateways.put (changes.remove.foldl Gateways.takeOut gateways)

theorem RouteChanges.gatewaysAfter_apply (changes : RouteChanges) (gateways : Gateways) (d : Network) :
    changes.gatewaysAfter gateways d =
      ((lastTo changes.add d).map fun r => ⟨r.via, false⟩).or
        ((gateways d).filter fun g => ⟨d, g.via⟩ ∉ changes.remove) := by
  rw [gatewaysAfter, Gateways.foldl_put, Gateways.foldl_takeOut]

theorem Links.runAll_append (first later : List IpCommand) :
    runAll (first ++ later) = runAll first >>= fun _ => runAll later := by
  induction first with
  | nil => exact (pure_bind _ _).symm
  | cons c rest ih => simp only [List.cons_append, runAll, ih, bind_assoc]

namespace LinkHost

variable {σ : Type} {h : LinkHost σ} {s : σ} {mac device : String} {link : LinkEntry} {routes : List Route}

/-- Commands that change one thing item by item and keep another, one after the other. -/
theorem yields_each {α β γ : Type} {items : List α} {command : α → IpCommand} {kept : σ → β} {view : σ → γ}
    {change : γ → α → γ} (changes : ∀ x, (command x).isChange = true)
    (acts : ∀ x ∈ items, ∀ s text t, h.answer (command x) s = (.ok text, t) →
      kept t = kept s ∧ view t = change (view s) x) :
    h.Yields (Links.runAll (items.map command)) s fun _ cs t =>
      cs = items.map command ∧ kept t = kept s ∧ view t = items.foldl change (view s) := by
  induction items generalizing s with
  | nil => exact yields_pure ⟨rfl, rfl, rfl⟩
  | cons x rest ih =>
      have one : h.Yields (Links.run (command x)) s fun _ cs t => cs = [command x] ∧ kept t = kept s ∧
          view t = change (view s) x := by
        refine yields_run ?_
        intro text t answered
        exact ⟨if_pos (changes x), acts x List.mem_cons_self s text t answered⟩
      refine yields_bind one ?_
      rintro _ _ t ⟨rfl, first, changed⟩
      refine (ih fun y mem => acts y (List.mem_cons_of_mem _ mem)).mono ?_
      rintro _ _ u ⟨rfl, same, later⟩
      exact ⟨rfl, same.trans first, by rw [later, changed, List.foldl_cons]⟩

/-- What the commands for changes do to the table. -/
theorem Lawful.yields_routeCommands (lawful : h.Lawful) (changes : RouteChanges)
    (fits : ∀ r ∈ changes.add, r.Fits) :
    h.Yields (Links.runAll (Links.routeCommands device changes)) s fun _ cs t =>
      cs = Links.routeCommands device changes ∧ h.links t = h.links s ∧
        (h.routes t device).gateway? = changes.gatewaysAfter (h.routes s device).gateway? := by
  have removals := fun r (_ : r ∈ changes.remove) => lawful.deleteRoute r device
  have additions := fun r mem s text t => lawful.replaceRoute r device s text t (fits r mem)
  unfold Links.routeCommands
  rw [Links.runAll_append]
  refine yields_bind (yields_each (fun _ => rfl) removals) ?_
  rintro _ _ t ⟨rfl, links, removed⟩
  refine (yields_each (fun _ => rfl) additions).mono ?_
  rintro _ _ u ⟨rfl, same, added⟩
  refine ⟨rfl, same.trans links, ?_⟩
  rw [added, removed]
  rfl

/-- The table after the operation, and the commands that change it. -/
theorem Lawful.yields_syncRoutes (lawful : h.Lawful)
    (found : (h.links s).find? (·.hasAddress mac) = some link)
    (families : ∀ r ∈ routes, r.via.family = r.destination.family) :
    h.Yields (Links.syncRoutes mac routes) s fun _ cs t =>
      h.links t = h.links s ∧ ∃ installed,
        (∀ r, r ∈ installed ↔ (h.routes s link.name).Managed r) ∧
          cs = Links.routeCommands link.name (.between installed routes) ∧
            (h.routes t link.name).gateway? =
              (RouteChanges.between installed routes).gatewaysAfter (h.routes s link.name).gateway? := by
  refine yields_bind (yields_find (lawful.showLinks s) found) ?_
  rintro _ _ t ⟨rfl, rfl, first⟩
  refine yields_bind lawful.yields_installedRoutes ?_
  rintro installed _ u ⟨rfl, later, mem⟩
  have same := first.trans later
  rw [first.routes] at mem
  have fits : ∀ r ∈ (RouteChanges.between installed routes).add, r.Fits := by
    intro r added
    obtain ⟨q, given, rfl⟩ := List.mem_map.mp (RouteChanges.mem_add_iff.mp added).1
    exact ⟨Route.normalized_normalized q, (families q given).trans (Network.family_truncated _).symm⟩
  refine (lawful.yields_routeCommands _ fits).mono ?_
  rintro _ _ v ⟨rfl, links, table⟩
  rw [same.routes] at table
  exact ⟨links.trans same.links, installed, mem, rfl, table⟩

end LinkHost

/-! ### What the table is like -/

/-- No two of the routes send one destination through different gateways. -/
def OneGateway (routes : List Route) : Prop :=
  ∀ r ∈ routes, ∀ q ∈ routes, r.normalized.destination = q.normalized.destination → r.via = q.via

namespace RouteTable

variable {table later : RouteTable} {installed routes : List Route}

/-- The managed routes are exactly the given ones. -/
def Carries (t : RouteTable) (routes : List Route) : Prop :=
  ∀ r, t.Managed r ↔ r ∈ routes.map Route.normalized

/-- Every managed route is a given one, and each destination of a given route has a managed one. -/
structure Serves (t : RouteTable) (routes : List Route) : Prop where
  given : ∀ r, t.Managed r → r ∈ routes.map Route.normalized
  served : ∀ r ∈ routes.map Route.normalized, ∃ q, t.Managed q ∧ q.destination = r.destination

/-- Where no route is given for a destination, what the kernel has put there is the same before and after. -/
def Spares (before later : RouteTable) (routes : List Route) : Prop :=
  ∀ d via, (∀ r ∈ routes.map Route.normalized, r.destination ≠ d) →
    (later.gateway? d = some ⟨via, true⟩ ↔ before.gateway? d = some ⟨via, true⟩)

theorem normalized_of_managed {r : Route} (managed : table.Managed r) : r.normalized = r :=
  (table.fits _ _ managed).normalized

/-- A managed route is one of those that have been found. -/
theorem mem_normalized_iff (mem : ∀ r, r ∈ installed ↔ table.Managed r) (r : Route) :
    r ∈ installed.map Route.normalized ↔ table.Managed r := by
  rw [List.mem_map]
  constructor
  · rintro ⟨q, among, rfl⟩
    have managed := (mem q).mp among
    rwa [normalized_of_managed managed]
  · intro managed
    exact ⟨r, (mem r).mpr managed, normalized_of_managed managed⟩

/-- The changes from the managed routes to the given ones leave a table that serves these. -/
theorem serves_of_gatewaysAfter (mem : ∀ r, r ∈ installed ↔ table.Managed r)
    (after : later.gateway? = (RouteChanges.between installed routes).gatewaysAfter table.gateway?) :
    later.Serves routes := by
  constructor
  -- A managed route has been put in last, or it was there before and has not been taken out.
  · intro r managed
    rw [Managed, after, RouteChanges.gatewaysAfter_apply] at managed
    cases last : lastTo (RouteChanges.between installed routes).add r.destination with
    | some q =>
        obtain ⟨added, aimed⟩ := mem_of_lastTo last
        rw [last] at managed
        have via : q.via = r.via := congrArg Gateway.via (Option.some.inj managed)
        rw [← Route.eq_of_parts aimed via]
        exact (RouteChanges.mem_add_iff.mp added).1
    | none =>
        rw [last, Option.map_none, Option.none_or, Option.filter_eq_some_iff] at managed
        obtain ⟨present, stays⟩ := managed
        have kept : r ∉ (RouteChanges.between installed routes).remove := of_decide_eq_true stays
        rw [RouteChanges.mem_remove_iff, not_and, mem_normalized_iff mem] at kept
        exact Classical.not_not.mp (kept present)
  -- Where nothing is put in for a destination, the given route is there already.
  · intro r given
    cases last : lastTo (RouteChanges.between installed routes).add r.destination with
    | some q =>
        refine ⟨q, ?_, (mem_of_lastTo last).2⟩
        rw [Managed, after, RouteChanges.gatewaysAfter_apply, (mem_of_lastTo last).2, last]
        rfl
    | none =>
        have present : table.Managed r := by
          rw [← mem_normalized_iff mem]
          apply Classical.not_not.mp
          intro absent
          exact ne_of_lastTo_eq_none last (RouteChanges.mem_add_iff.mpr ⟨given, absent⟩) rfl
        refine ⟨r, ?_, rfl⟩
        rw [Managed, after, RouteChanges.gatewaysAfter_apply, last, present, Option.map_none, Option.none_or,
          Option.filter_eq_some_iff]
        exact ⟨rfl, decide_eq_true fun removed => (RouteChanges.mem_remove_iff.mp removed).2 given⟩

/-- They leave the kernel's routes alone. -/
theorem spares_of_gatewaysAfter (mem : ∀ r, r ∈ installed ↔ table.Managed r)
    (after : later.gateway? = (RouteChanges.between installed routes).gatewaysAfter table.gateway?) :
    table.Spares later routes := by
  intro d via unnamed
  have none_added : lastTo (RouteChanges.between installed routes).add d = none := by
    cases last : lastTo (RouteChanges.between installed routes).add d with
    | none => rfl
    | some q =>
        obtain ⟨added, aimed⟩ := mem_of_lastTo last
        exact absurd aimed (unnamed q (RouteChanges.mem_add_iff.mp added).1)
  rw [after, RouteChanges.gatewaysAfter_apply, none_added, Option.map_none, Option.none_or,
    Option.filter_eq_some_iff]
  refine ⟨And.left, ?_⟩
  intro kernel
  refine ⟨kernel, decide_eq_true ?_⟩
  intro removed
  have managed := (mem_normalized_iff mem _).mp (RouteChanges.mem_remove_iff.mp removed).1
  rw [Managed, kernel] at managed
  cases managed

/-- A table that serves the given routes carries them just when they have one gateway for a destination. -/
theorem Serves.carries_iff (serves : table.Serves routes) : table.Carries routes ↔ OneGateway routes := by
  constructor
  · intro carries r given q other same
    have first := (carries r.normalized).mpr (List.mem_map_of_mem given)
    have second := (carries q.normalized).mpr (List.mem_map_of_mem other)
    rw [Managed, same, second] at first
    exact (congrArg Gateway.via (Option.some.inj first)).symm
  · intro one r
    refine ⟨serves.given r, ?_⟩
    intro given
    obtain ⟨q, managed, aimed⟩ := serves.served r given
    obtain ⟨r', mem, rfl⟩ := List.mem_map.mp given
    obtain ⟨q', among, rfl⟩ := List.mem_map.mp (serves.given q managed)
    rwa [← Route.eq_of_parts aimed (one q' among r' mem aimed)]

/-- There is nothing left to change in such a table just when it carries them. -/
theorem Serves.routeCommands_eq_nil_iff (serves : table.Serves routes)
    (mem : ∀ r, r ∈ installed ↔ table.Managed r) (device : String) :
    Links.routeCommands device (.between installed routes) = [] ↔ table.Carries routes := by
  have none_removed : (RouteChanges.between installed routes).remove = [] := by
    rw [List.eq_nil_iff_forall_not_mem]
    intro r removed
    obtain ⟨present, unwanted⟩ := RouteChanges.mem_remove_iff.mp removed
    exact unwanted (serves.given r ((mem_normalized_iff mem r).mp present))
  unfold Links.routeCommands
  rw [none_removed, List.map_nil, List.nil_append, List.map_eq_nil_iff, List.eq_nil_iff_forall_not_mem]
  simp only [RouteChanges.mem_add_iff, mem_normalized_iff mem, not_and, Classical.not_not]
  constructor
  · intro present r
    exact ⟨serves.given r, present r⟩
  · intro carries r given
    exact (carries r).mpr given

end RouteTable

/-! ### A network with two gateways -/

/-- The route to a network through one of its two gateways. -/
def wayOut (second : Bool) : Route :=
  ⟨⟨.v4 0x0A000000, 8, by decide⟩, .v4 (if second then 0xC0A80002 else 0xC0A80001)⟩

/-- The only link of the host. -/
def wayOutLink : LinkEntry := ⟨"ens5", some "02:00:00:0a:bc:01", some "UP"⟩

/-- How the gateway is written. -/
def wayOutGateway (second : Bool) : String := if second then "192.168.0.2" else "192.168.0.1"

/-- A network that declares these ways out. -/
def wayOutNetwork (ways : List Bool) : PrivateNetwork :=
  ⟨{ ObjectMeta.blank with name := some "net-a" },
    ⟨none, ways.map fun second => ⟨"10.0.0.0/8", wayOutGateway second⟩⟩⟩

theorem desiredRoutes_wayOutNetwork (ways : List Bool) :
    desiredRoutes (wayOutNetwork ways) = .ok (ways.map wayOut) := by
  have each : routeOf "net-a" ∘ (fun second => ⟨"10.0.0.0/8", wayOutGateway second⟩) =
      fun second => pure (wayOut second) := by
    funext second
    cases second <;> rfl
  show List.mapM (routeOf "net-a") (ways.map _) = _
  rw [List.mapM_map, each, List.mapM_pure]
  rfl

/-- The table of the link, with a way out or without one. -/
def wayOutTable (way : Option Bool) : RouteTable where
  gateway? d :=
    if d = (wayOut false).destination then way.map fun second => ⟨(wayOut second).via, false⟩ else none
  fits := by
    intro d g entry
    split at entry
    · rename_i same
      subst same
      obtain ⟨second, -, rfl⟩ := Option.map_eq_some_iff.mp entry
      cases second <;> exact ⟨by decide, rfl⟩
    · cases entry

/-- How the link is reported. -/
def wayOutLinkItem (l : LinkEntry) : Json :=
  .ofFields
    [("ifname", some (.text l.name)), ("address", l.macAddress.map .text), ("operstate", l.state.map .text)]

/-- How a way out is reported. -/
def wayOutItem (second : Bool) : Json :=
  .object [("dst", .text "10.0.0.0/8"), ("gateway", .text (wayOutGateway second)), ("flags", .array [])]

/-- What the commands print that this host accepts, and the way out after them. -/
def wayOutAccepts (way : Option Bool) : IpCommand → Option (String × Option Bool)
  | .showLinks => some ((Json.array [wayOutLinkItem wayOutLink]).render, way)
  | .showRoutes family device =>
    if device = wayOutLink.name then
      some ((Json.array (if family = .v4 then way.toList.map wayOutItem else [])).render, way)
    else none
  | .replaceRoute r device =>
    if device = wayOutLink.name then ([false, true].find? (wayOut · = r)).map fun second => ("", some second)
    else none
  | .deleteRoute r device =>
    if device = wayOutLink.name ∧ way.map wayOut = some r then some ("", none) else none
  | _ => none

/-- A host that has this link only, and accepts these routes only. -/
def wayOutHost : LinkHost (Option Bool) where
  answer c way :=
    match wayOutAccepts way c with
    | some (text, later) => (.ok text, later)
    | none => (.error (.command c.title "exit status: 2" "RTNETLINK answers: Invalid argument"), way)
  links _ := [wayOutLink]
  routes way device := wayOutTable (if device = wayOutLink.name then way else none)

/-- The operation on the link, asked for these ways out. -/
def syncWaysOut (ways : List Bool) : LinkProgram Unit :=
  Links.syncRoutes "02:00:00:0A:BC:01" (ways.map wayOut)

/-- A written report is read back. -/
theorem Report.parse?_render {items : List Json} (printable : (Json.array items).Printable) :
    Report.parse? some (Json.array items).render = some items := by
  have written : (Text.trim (Json.array items).renderChars).isEmpty = false := by
    rw [List.isEmpty_eq_false_iff]
    intro blank
    exact absurd (Text.trim_eq_nil_iff.mp blank '[' List.mem_cons_self) (by decide)
  unfold Report.parse?
  rw [Json.parse?_render printable, Json.render, String.toList_ofList, written]
  exact Json.list?_some items

/-- The written report of the links gives them. -/
theorem LinkEntry.told_render (links : List LinkEntry) :
    LinkEntry.Told links (Json.array (links.map wayOutLinkItem)).render := by
  refine ⟨wayOutLinkItem, Report.parse?_render (Json.printable_forms fun l _ => Json.printable_ofFields ?_), ?_⟩
  · simp only [List.forall_mem_cons]
    exact ⟨Json.printable_some (.text _), Json.printable_map fun _ _ => .text _,
      Json.printable_map fun _ _ => .text _, List.forall_mem_nil _⟩
  · rintro ⟨name, mac, state⟩
    refine ⟨_, rfl, ?_, ?_⟩ <;> cases mac <;> cases state <;> simp [Json.noneRepeated, List.lookup_cons]

theorem parse?_wayOutItems (way : Option Bool) :
    Report.parse? some (Json.array (way.toList.map wayOutItem)).render = some (way.toList.map wayOutItem) := by
  refine Report.parse?_render (Json.printable_forms ?_)
  rintro second -
  cases second <;> decide

theorem wayOut_shown (second : Bool) :
    RouteTable.Shows (wayOut second).destination ⟨(wayOut second).via, false⟩ (wayOutItem second) := by
  have destination : RouteTable.destinationText (wayOut second).destination = "10.0.0.0/8" := by
    cases second <;> decide +kernel
  have via : (wayOut second).via.text = wayOutGateway second := by cases second <;> decide +kernel
  refine ⟨none, by simp, _, rfl, by simp [Json.noneRepeated], ?_⟩
  simp [destination, via, List.lookup_cons]

theorem wayOutTable_eq_some_iff {way : Option Bool} {d : Network} {g : Gateway} :
    (wayOutTable way).gateway? d = some g ↔
      ∃ second, way = some second ∧ d = (wayOut second).destination ∧ g = ⟨(wayOut second).via, false⟩ := by
  by_cases own : d = (wayOut false).destination
  · subst own
    cases way with
    | none => simp [wayOutTable]
    | some second =>
        have same : (wayOut false).destination = (wayOut second).destination := rfl
        simp [wayOutTable, same, eq_comm]
  · have other : ∀ second, d ≠ (wayOut second).destination := fun _ => own
    simp [wayOutTable, own, other]

theorem wayOutHost_accepts {c : IpCommand} {way later : Option Bool} {text : String}
    (answered : wayOutHost.answer c way = (.ok text, later)) : wayOutAccepts way c = some (text, later) := by
  simp only [wayOutHost] at answered
  split at answered
  · rename_i accepts
    cases answered
    exact accepts
  · cases answered

theorem lawful_wayOutHost : wayOutHost.Lawful where
  showLinks := by
    intro way text t answered
    cases wayOutHost_accepts answered
    exact ⟨⟨rfl, rfl⟩, LinkEntry.told_render [wayOutLink]⟩
  showRoutes := by
    intro family device way text t answered
    obtain ⟨own, shown⟩ := Option.ite_none_right_eq_some.mp (wayOutHost_accepts answered)
    cases shown
    have table : wayOutHost.routes way device = wayOutTable way := congrArg wayOutTable (if_pos own)
    rw [table]
    cases family with
    | v4 =>
        refine ⟨⟨rfl, rfl⟩, _, parse?_wayOutItems way, ?_, ?_⟩
        · intro item mem
          obtain ⟨second, present, rfl⟩ := List.mem_map.mp mem
          have entry := wayOutTable_eq_some_iff.mpr ⟨second, Option.mem_toList.mp present, rfl, rfl⟩
          exact .inl ⟨_, _, entry, rfl, wayOut_shown second⟩
        · intro d g entry _
          obtain ⟨second, rfl, rfl, rfl⟩ := wayOutTable_eq_some_iff.mp entry
          exact ⟨wayOutItem second, List.mem_cons_self, wayOut_shown second⟩
    | v6 =>
        refine ⟨⟨rfl, rfl⟩, [], parse?_wayOutItems none, ?_, ?_⟩
        · intro item mem
          cases mem
        · intro d g entry newer
          obtain ⟨second, -, rfl, -⟩ := wayOutTable_eq_some_iff.mp entry
          cases newer
  replaceRoute := by
    intro r device way text t _ answered
    obtain ⟨own, put⟩ := Option.ite_none_right_eq_some.mp (wayOutHost_accepts answered)
    obtain ⟨second, known, same⟩ := Option.map_eq_some_iff.mp put
    cases same
    obtain rfl : wayOut second = r := by simpa using List.find?_some known
    refine ⟨rfl, ?_⟩
    funext d
    have aimed : (wayOut second).destination = (wayOut false).destination := rfl
    simp only [wayOutHost, own, if_true, wayOutTable, Gateways.put, aimed]
    split <;> rfl
  deleteRoute := by
    intro r device way text t answered
    obtain ⟨⟨own, known⟩, gone⟩ := Option.ite_none_right_eq_some.mp (wayOutHost_accepts answered)
    cases gone
    obtain ⟨second, rfl, rfl⟩ := Option.map_eq_some_iff.mp known
    refine ⟨rfl, ?_⟩
    funext d
    simp only [wayOutHost, own, if_true, wayOutTable, Gateways.takeOut]
    split
    · rename_i aimed
      subst aimed
      simp [Option.filter, wayOut]
    · rfl

/-! ### What the operation comes to -/

namespace LinkHost

variable {σ : Type} {h : LinkHost σ} {s : σ} {mac : String} {link : LinkEntry} {routes : List Route}

/-- The operation leaves a table that serves the given routes, with the kernel's own ones as they were. It
carries exactly the given ones, and a second call has nothing to change, just when no two of them send one
destination through different gateways. -/
theorem Lawful.syncRoutes_carries_iff (lawful : h.Lawful)
    (found : (h.links s).find? (·.hasAddress mac) = some link)
    (families : ∀ r ∈ routes, r.via.family = r.destination.family)
    (unfailing : h.Unfailing (Links.syncRoutes mac routes) s) :
    ∃ t, h.run (Links.syncRoutes mac routes) s = (.ok (), t) ∧
      (h.routes t link.name).Serves routes ∧ (h.routes s link.name).Spares (h.routes t link.name) routes ∧
        ((h.routes t link.name).Carries routes ↔ OneGateway routes) ∧
          (h.Unfailing (Links.syncRoutes mac routes) t →
            (h.changes (Links.syncRoutes mac routes) t = [] ↔ OneGateway routes)) := by
  obtain ⟨_, t, ran, links, installed, mem, -, after⟩ := lawful.yields_syncRoutes found families unfailing
  have serves := RouteTable.serves_of_gatewaysAfter mem after
  refine ⟨t, ran, serves, RouteTable.spares_of_gatewaysAfter mem after, serves.carries_iff, ?_⟩
  intro again
  obtain ⟨_, _, -, -, present, mem, changes, -⟩ := lawful.yields_syncRoutes (links ▸ found) families again
  rw [changes, serves.routeCommands_eq_nil_iff mem, serves.carries_iff]

theorem one_way_out_carried :
    desiredRoutes (wayOutNetwork [false]) = .ok ([false].map wayOut) ∧
      wayOutHost.run (syncWaysOut [false]) (some true) = (.ok (), some false) ∧
        (wayOutHost.routes (some false) "ens5").Carries ([false].map wayOut) ∧
          wayOutHost.changes (syncWaysOut [false]) (some false) = [] := by
  have found : (wayOutHost.links (some true)).find? (·.hasAddress "02:00:00:0A:BC:01") = some wayOutLink := by
    decide +kernel
  have families : ∀ r ∈ [false].map wayOut, r.via.family = r.destination.family := by decide
  have one : OneGateway ([false].map wayOut) := by
    intro r given q other _
    rw [List.mem_singleton.mp given, List.mem_singleton.mp other]
  have first : wayOutHost.Unfailing (syncWaysOut [false]) (some true) := by decide +kernel
  have again : wayOutHost.Unfailing (syncWaysOut [false]) (some false) := by decide +kernel
  have reached : (wayOutHost.run (syncWaysOut [false]) (some true)).2 = some false := by decide +kernel
  obtain ⟨t, ran, -, -, carries, quiet⟩ := lawful_wayOutHost.syncRoutes_carries_iff found families first
  obtain rfl : t = some false := (congrArg Prod.snd ran).symm.trans reached
  exact ⟨desiredRoutes_wayOutNetwork _, ran, carries.mpr one, (quiet again).mpr one⟩

/-- Of two ways out one is carried at a time, and a second call changes which. -/
theorem two_ways_out_not_carried :
    desiredRoutes (wayOutNetwork [false, true]) = .ok ([false, true].map wayOut) ∧
      (∀ r ∈ [false, true].map wayOut, r.via.family = r.destination.family) ∧
        wayOutHost.Unfailing (syncWaysOut [false, true]) none ∧
          wayOutHost.run (syncWaysOut [false, true]) none = (.ok (), some true) ∧
            ¬ (wayOutHost.routes (some true) "ens5").Carries ([false, true].map wayOut) ∧
              wayOutHost.changes (syncWaysOut [false, true]) (some true) =
                [.replaceRoute (wayOut false) "ens5"] := by
  have found : (wayOutHost.links none).find? (·.hasAddress "02:00:00:0A:BC:01") = some wayOutLink := by
    decide +kernel
  have families : ∀ r ∈ [false, true].map wayOut, r.via.family = r.destination.family := by decide
  have unfailing : wayOutHost.Unfailing (syncWaysOut [false, true]) none := by decide +kernel
  have reached : (wayOutHost.run (syncWaysOut [false, true]) none).2 = some true := by decide +kernel
  obtain ⟨_, t, ran, -⟩ := lawful_wayOutHost.yields_syncRoutes found families unfailing
  obtain rfl : t = some true := (congrArg Prod.snd ran).symm.trans reached
  refine ⟨desiredRoutes_wayOutNetwork _, families, unfailing, ran, ?_, by decide +kernel⟩
  intro carries
  have other := (carries (wayOut false)).mpr (by decide)
  cases other

end LinkHost

end LinkKeeper
