import LinkKeeper.Net.Address

/-!
Reading addresses, networks and endpoints.

Two grammars are in use. Gateways and the addresses that the host reports are read by the strict
one; the addresses and destinations that people declare with a prefix length are read by the
lenient one. They differ in two decisions only, which `Grammar` records.

* `Grammar.strict`, `Grammar.lenient`: the two grammars.
* `Address.parse?`, `Network.parse?`, `Endpoint.parse?`: read a whole text.
-/

namespace LinkKeeper.Net

open Text

/-- What the grammars of addresses decide differently. -/
structure Grammar where
  /-- Whether an octet may be written with zeros in front. -/
  leadingZeros : Bool
  /-- Whether the double colon may stand for no group at all. -/
  emptyGap : Bool

/-- Octets have no zeros in front, and a double colon stands for at least one group. -/
def Grammar.strict : Grammar := ⟨false, false⟩

/-- Octets have up to three digits, and a double colon may stand for nothing. -/
def Grammar.lenient : Grammar := ⟨true, true⟩

namespace Read

/-- Reads the digits at the front: at most `limit` of them if there is a limit. -/
def number (base : Nat) (limit : Option Nat) (leadingZeros : Bool) (cs : List Char) :
    Option (Nat × List Char) :=
  let (ds, rest) := spanDigits base cs
  if ds.isEmpty || limit.any (· < ds.length) ||
      (!leadingZeros && ds.head? == some '0' && 1 < ds.length) then none
  else some (ofDigits base ds, rest)

/-- Reads one given character. -/
def char (c : Char) : List Char → Option (List Char)
  | d :: cs => if d = c then some cs else none
  | [] => none

/-- Reads a number below 256. -/
def octet (g : Grammar) (cs : List Char) : Option (Nat × List Char) := do
  let (n, rest) ← number 10 (some 3) g.leadingZeros cs
  if n < 256 then some (n, rest) else none

/-- Reads four octets with points between them. -/
def quad (g : Grammar) (cs : List Char) : Option (List Nat × List Char) := do
  let (a, cs) ← octet g cs
  let (b, cs) ← octet g (← char '.' cs)
  let (c, cs) ← octet g (← char '.' cs)
  let (d, cs) ← octet g (← char '.' cs)
  some ([a, b, c, d], cs)

/-- A run of groups: their values, whether the last two were written as four octets, and what
follows. -/
structure Run where
  groups : List Nat
  endsInQuad : Bool
  rest : List Char

/-- Reads at most `room` groups with colons between them, as far as they go. While there is room for
two groups, they may be written as four octets, and end the run. -/
def run (g : Grammar) : (room : Nat) → (first : Bool) → List Char → Run
  | 0, _, cs => ⟨[], false, cs⟩
  | room + 1, first, cs =>
    match if first then some cs else char ':' cs with
    | none => ⟨[], false, cs⟩
    | some body =>
      match if room = 0 then none else quad g body with
      | some (os, rest) =>
        ⟨[os.getD 0 0 * 256 + os.getD 1 0, os.getD 2 0 * 256 + os.getD 3 0], true, rest⟩
      | none =>
        match number 16 (some 4) true body with
        | none => ⟨[], false, cs⟩
        | some (n, rest) =>
          let more := run g room false rest
          ⟨n :: more.groups, more.endsInQuad, more.rest⟩

/-- Reads an address of the older family. -/
def v4 (g : Grammar) (cs : List Char) : Option (Address × List Char) := do
  let (os, rest) ← quad g cs
  some (.v4 (Address.ofPieces 8 32 os), rest)

/-- Reads an address of the newer family: eight groups, or fewer with a double colon in the place of
the missing ones, which are zero. -/
def v6 (g : Grammar) (cs : List Char) : Option (Address × List Char) :=
  let head := run g 8 true cs
  if head.groups.length = 8 then some (.v6 (Address.ofPieces 16 128 head.groups), head.rest)
  else if head.endsInQuad then none
  else
    match head.rest with
    | ':' :: ':' :: cs =>
      let room := 8 - head.groups.length - (if g.emptyGap then 0 else 1)
      let tail := run g room true cs
      let gap := List.replicate (8 - head.groups.length - tail.groups.length) 0
      some (.v6 (Address.ofPieces 16 128 (head.groups ++ gap ++ tail.groups)), tail.rest)
    | _ => none

/-- Reads an address of either family. -/
def address (g : Grammar) (cs : List Char) : Option (Address × List Char) :=
  v4 g cs <|> v6 g cs

/-- Reads an address, a slash and a prefix length of at most `digits` digits. -/
def network (read : List Char → Option (Address × List Char)) (digits : Nat) (cs : List Char) :
    Option (Network × List Char) := do
  let (a, cs) ← read cs
  let (l, cs) ← number 10 (some digits) true (← char '/' cs)
  let n ← Network.ofLength? a l
  some (n, cs)

/-- The value, when nothing follows it. -/
def whole {α : Type} : Option (α × List Char) → Option α
  | some (a, []) => some a
  | _ => none

/-- Reads a colon and a port. -/
def port (cs : List Char) : Option (Nat × List Char) := do
  let (n, cs) ← number 10 none true (← char ':' cs)
  if n < 65536 then some (n, cs) else none

/-- Reads a percent sign and the number of a zone, or nothing. -/
def zone (cs : List Char) : Nat × List Char :=
  match char '%' cs >>= number 10 none true with
  | some (n, rest) => if n < 0x100000000 then (n, rest) else (0, cs)
  | none => (0, cs)

/-- Reads an address of the newer family between brackets, with its zone, and a port. -/
def bracketed (cs : List Char) : Option (Endpoint × List Char) := do
  let (a, cs) ← v6 .strict (← char '[' cs)
  let (z, cs) := zone cs
  let (p, cs) ← port (← char ']' cs)
  some (⟨a, z, p⟩, cs)

/-- Reads an address of the older family and a port. -/
def plain (cs : List Char) : Option (Endpoint × List Char) := do
  let (a, cs) ← v4 .strict cs
  let (p, cs) ← port cs
  some (⟨a, 0, p⟩, cs)

end Read

/-- Reads an address by the strict grammar. -/
def Address.parse? (cs : List Char) : Option Address :=
  Read.whole (Read.address .strict cs)

/-- Reads an address with a prefix length by the lenient grammar. -/
def Network.parse? (cs : List Char) : Option Network :=
  Read.whole (Read.network (Read.v4 .lenient) 2 cs <|> Read.network (Read.v6 .lenient) 3 cs)

/-- Reads an address with a port. -/
def Endpoint.parse? (cs : List Char) : Option Endpoint :=
  Read.whole (Read.plain cs <|> Read.bracketed cs)

end LinkKeeper.Net
