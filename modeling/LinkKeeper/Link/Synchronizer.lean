import LinkKeeper.Link.Command
import LinkKeeper.Link.Report
import LinkKeeper.Program

/-!
The four operations on the link with a given hardware address.

Each reads the state of the host first and asks only for the changes that are missing, so that it can
be repeated. An operation is a program over the commands: nothing is assumed of the answers.

* `Links.tearDown`: takes the address off the link and sets it down; a link that is gone needs nothing.
* `Links.name`: the name of the link.
* `Links.configure`: sets the link up with the address as its only global one of its family.
* `Links.syncRoutes`: makes the link carry exactly the given routes.
-/

namespace LinkKeeper

open Net

/-- A program over the commands that may fail. -/
abbrev LinkProgram := ExceptT LinkError (Program IpCommand fun _ => IpReply)

namespace Links

/-- Runs a command. -/
def run (c : IpCommand) : LinkProgram String := ExceptT.mk (Program.query c)

/-- Runs a command and reads its report. -/
def report {α : Type} (entry : Json.Decoder α) (c : IpCommand) : LinkProgram (List α) := do
  match Report.parse? entry (← run c) with
  | some entries => pure entries
  | none => throw (.decode c.title)

/-- The first reported link with the hardware address. -/
def find? (mac : String) : LinkProgram (Option LinkEntry) := do
  let links ← report LinkEntry.fromJson? .showLinks
  pure (links.find? fun l => l.hasAddress mac)

/-- The first reported link with the hardware address; it is an error if there is none. -/
def find (mac : String) : LinkProgram LinkEntry := do
  match ← find? mac with
  | some link => pure link
  | none => throw (.notFound mac)

/-- The first reported link with the hardware address, or none. That there is none is the one error that is
not passed on. -/
def findUnlessGone (mac : String) : LinkProgram (Option LinkEntry) :=
  tryCatch (do pure (some (← find mac))) fun
    | .notFound _ => pure none
    | e => throw e

/-- The addresses of global scope on a link. -/
def globalAddresses (device : String) : LinkProgram (List Network) := do
  let entries ← report LinkAddresses.fromJson? (.showAddresses device)
  pure ((entries.flatMap LinkAddresses.addresses).filterMap AddressEntry.network?)

/-- The routes among the entries; the first value that cannot be read is an error. -/
def routesOf (device : String) (entries : List RouteEntry) : Except LinkError (List Route) := do
  let routes ← entries.mapM fun e =>
    match e.route? with
    | .ok r => .ok r
    | .error value => .error (.invalidValue device value)
  pure (routes.filterMap id)

/-- The routes of one family that go through a gateway on the link. -/
def familyRoutes (device : String) (family : Family) : LinkProgram (List Route) := do
  let entries ← report RouteEntry.fromJson? (.showRoutes family device)
  ExceptT.mk (pure (routesOf device entries))

/-- The routes that go through a gateway on the link. -/
def installedRoutes (device : String) : LinkProgram (List Route) := do
  let older ← familyRoutes device .v4
  let newer ← familyRoutes device .v6
  pure (older ++ newer)

/-- Runs commands one after the other; the first that fails ends them. -/
def runAll : List IpCommand → LinkProgram Unit
  | [] => pure ()
  | c :: rest => do
    let _ ← run c
    runAll rest

/-- Takes the address off the link and sets the link down. If no link has the hardware address,
there is nothing to do. -/
def tearDown (mac : String) (address : Network) : LinkProgram Unit := do
  match ← findUnlessGone mac with
  | none => pure ()
  | some link =>
    let current ← globalAddresses link.name
    runAll ((if current.contains address then [.deleteAddress address link.name] else []) ++
      [.setDown link.name])

/-- The name of the link with the hardware address. -/
def name (mac : String) : LinkProgram String := do
  pure (← find mac).name

/-- The commands that leave the address as the only one of its family among the current ones. -/
def addressChanges (device : String) (address : Network) (current : List Network) : List IpCommand :=
  ((current.filter fun n => n.family = address.family && n ≠ address).map (.deleteAddress · device)) ++
    (if current.contains address then [] else [.addAddress address device])

/-- Sets the link up, and leaves the address as its only global one of its family. -/
def configure (mac : String) (address : Network) : LinkProgram Unit := do
  let link ← find mac
  runAll (if link.isUp then [] else [.setUp link.name])
  let current ← globalAddresses link.name
  runAll (addressChanges link.name address current)

/-- The commands that make the changes: removals first, then additions. -/
def routeCommands (device : String) (changes : RouteChanges) : List IpCommand :=
  changes.remove.map (.deleteRoute · device) ++ changes.add.map (.replaceRoute · device)

/-- Makes the routes through gateways on the link exactly the given ones. -/
def syncRoutes (mac : String) (routes : List Route) : LinkProgram Unit := do
  let link ← find mac
  let installed ← installedRoutes link.name
  runAll (routeCommands link.name (.between installed routes))

end Links

end LinkKeeper
