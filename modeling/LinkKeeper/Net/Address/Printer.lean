import LinkKeeper.Net.Address

/-!
Writing addresses, networks and endpoints.

An address of the newer family is written in small hexadecimal letters; its longest run of two or
more zero groups, the first of equally long ones, is written as a double colon. Only an address that
stands for one of the older family ends in four octets.

* `longestZeroRun`: where the double colon goes.
* `Address.text`, `Network.text`, `Endpoint.text`: the written forms.
-/

namespace LinkKeeper.Net

open Text

/-- The texts one after the other with a separator between them. -/
def joined (separator : Char) : List (List Char) → List Char
  | [] => []
  | [t] => t
  | t :: ts => t ++ separator :: joined separator ts

/-- The length of the run of zeros at the front. -/
def leadingZeros (gs : List (BitVec 16)) : Nat :=
  (gs.takeWhile (· = 0)).length

/-- The start and the length of the longest run of zero groups, of equally long ones the first. -/
def longestZeroRun (gs : List (BitVec 16)) : Nat × Nat :=
  (List.range gs.length).foldl
    (fun best i =>
      let here := leadingZeros (gs.drop i)
      if best.2 < here then (i, here) else best)
    (0, 0)

/-- The octets with points between them. -/
def quadText (bits : BitVec 32) : List Char :=
  joined '.' ((Address.octets bits).map fun o => digits 10 o.toNat)

/-- The groups with colons between them. -/
def groupsText (gs : List (BitVec 16)) : List Char :=
  joined ':' (gs.map fun g => digits 16 g.toNat)

/-- The address of the older family that an address of the newer one stands for. -/
def mapped? (bits : BitVec 128) : Option (BitVec 32) :=
  if bits.extractLsb' 32 96 = 0xffff then some (bits.extractLsb' 0 32) else none

/-- The written form of an address of the newer family. -/
def v6Text (bits : BitVec 128) : List Char :=
  match mapped? bits with
  | some inner => "::ffff:".toList ++ quadText inner
  | none =>
    let gs := Address.groups bits
    let (start, length) := longestZeroRun gs
    if 1 < length then groupsText (gs.take start) ++ "::".toList ++ groupsText (gs.drop (start + length))
    else groupsText gs

namespace Address

def chars : Address → List Char
  | .v4 bits => quadText bits
  | .v6 bits => v6Text bits

def text (a : Address) : String := String.ofList a.chars

end Address

namespace Network

def chars (n : Network) : List Char :=
  n.address.chars ++ '/' :: digits 10 n.length

def text (n : Network) : String := String.ofList n.chars

end Network

namespace Endpoint

/-- The written form of an endpoint: the newer family stands in brackets, with its zone unless that
is zero. -/
def chars (e : Endpoint) : List Char :=
  let port := ':' :: digits 10 e.port
  match e.address with
  | .v4 _ => e.address.chars ++ port
  | .v6 _ =>
    let zone := if e.zone = 0 then [] else '%' :: digits 10 e.zone
    '[' :: e.address.chars ++ zone ++ ']' :: port

def text (e : Endpoint) : String := String.ofList e.chars

end Endpoint

end LinkKeeper.Net
