import LinkKeeper.Link.Error
import LinkKeeper.Link.Route

/-!
The commands by which the host is asked about its links and told to change them.

* `IpCommand.line`: how a command is written.
* `IpCommand.isChange`, `IpCommand.device?`: which commands change the host, and the link that they
  name.
-/

namespace LinkKeeper

open Net

/-- A question to the host about its links, or a change of one. -/
inductive IpCommand where
  | showLinks
  | showAddresses (device : String)
  | showRoutes (family : Family) (device : String)
  | setUp (device : String)
  | setDown (device : String)
  | addAddress (address : Network) (device : String)
  | deleteAddress (address : Network) (device : String)
  | replaceRoute (route : Route) (device : String)
  | deleteRoute (route : Route) (device : String)
  deriving DecidableEq, Repr

namespace IpCommand

/-- The option that limits a report to a family. -/
def familyOption : Family → String
  | .v4 => "-4"
  | .v6 => "-6"

/-- The words of the command after the name of the program. -/
def words : IpCommand → List String
  | showLinks => ["-j", "link", "show"]
  | showAddresses dev => ["-j", "addr", "show", "dev", dev]
  | showRoutes family dev => ["-j", familyOption family, "route", "show", "dev", dev]
  | setUp dev => ["link", "set", "dev", dev, "up"]
  | setDown dev => ["link", "set", "dev", dev, "down"]
  | addAddress a dev => ["addr", "add", a.text, "dev", dev]
  | deleteAddress a dev => ["addr", "del", a.text, "dev", dev]
  | replaceRoute r dev => ["route", "replace", r.destination.text, "via", r.via.text, "dev", dev]
  | deleteRoute r dev => ["route", "del", r.destination.text, "via", r.via.text, "dev", dev]

/-- The words with a space between them. -/
def line (c : IpCommand) : String := " ".intercalate c.words

/-- The line with the name of the program in front. -/
def title (c : IpCommand) : String := "ip " ++ c.line

/-- Whether the command changes the host. -/
def isChange : IpCommand → Bool
  | showLinks | showAddresses _ | showRoutes _ _ => false
  | _ => true

/-- The link that the command names. -/
def device? : IpCommand → Option String
  | showLinks => none
  | showAddresses dev | showRoutes _ dev | setUp dev | setDown dev | addAddress _ dev
  | deleteAddress _ dev | replaceRoute _ dev | deleteRoute _ dev => some dev

end IpCommand

/-- What a command gives: what it has printed, or why it failed. -/
abbrev IpReply := Except LinkError String

end LinkKeeper
