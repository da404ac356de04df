import LinkKeeper.Http.Target
import LinkKeeper.Net.Address.Parser

/-!
The hosts of addresses that people write.

The text of a host is repaired first: octets written with a percent sign are read, letters are made
small, the wide forms of characters are replaced by the plain ones, and what does not show is
dropped. When the last part of the outcome is a number, the host is an address of the older family.

* `Host.parse?`: the host that a text stands for.
* `Host.ipv4?`: an address of up to four parts, of which the last one fills all octets that are left.
-/

namespace LinkKeeper.Http

open Text

/-- A host: an address, or a name that has yet to be looked up. -/
inductive Host where
  | address (a : Net.Address)
  | name (text : String)
  deriving DecidableEq, Repr

namespace Host

/-- The characters that are dropped from a host. -/
def droppedRanges : List (Nat × Nat) :=
  [(0xAD, 0xAD), (0x34F, 0x34F), (0x180B, 0x180D), (0x180F, 0x180F), (0x200B, 0x200B),
    (0x2060, 0x2060), (0x2064, 0x2064), (0xFE00, 0xFE0F), (0xFEFF, 0xFEFF), (0x1BCA0, 0x1BCA3),
    (0xE0100, 0xE01EF)]

/-- The characters that a point may be written as. -/
def pointForms : List Nat := [0x3002, 0xFF0E, 0xFF61]

/-- The forms of numbers that are one character: the first and the last of a row, and the number that
the first one stands for. -/
def numberForms : List (Nat × Nat × Nat) :=
  [(0xB2, 0xB3, 2), (0xB9, 0xB9, 1), (0x2070, 0x2070, 0), (0x2074, 0x2079, 4), (0x2080, 0x2089, 0),
    (0x2460, 0x2473, 1), (0x24EA, 0x24EA, 0), (0x3251, 0x325F, 21), (0x32B1, 0x32BF, 36),
    (0x1D7CE, 0x1D7D7, 0), (0x1D7D8, 0x1D7E1, 0), (0x1D7E2, 0x1D7EB, 0), (0x1D7EC, 0x1D7F5, 0),
    (0x1D7F6, 0x1D7FF, 0), (0x1FBF0, 0x1FBF9, 0)]

/-- The wide form of a character stands this far behind the plain one. -/
def wideShift : Nat := 0xFEE0

/-- What a character of a host stands for. -/
def plainForm (c : Char) : List Char :=
  let n := c.toNat
  if droppedRanges.any fun r => r.1 ≤ n && n ≤ r.2 then []
  else if pointForms.contains n then ['.']
  else if 0xFF01 ≤ n && n ≤ 0xFF5E then [(Char.ofNat (n - wideShift)).toLower]
  else
    match numberForms.find? fun r => r.1 ≤ n && n ≤ r.2.1 with
    | some (first, _, value) => digits 10 (n - first + value)
    | none => [c.toLower]

/-- Whether a character cannot stand in a host. -/
def isForbidden (c : Char) : Bool :=
  c.toNat ≤ 0x20 || "\x7f#%/:<>?@[\\]^|".toList.contains c || c = Octets.replacement

/-- The number that a part of an address stands for: it is hexadecimal after 0x and octal after 0. -/
def part? : List Char → Option Nat
  | [] => none
  | '0' :: 'x' :: ds => if ds.all (isDigit 16) then some (ofDigits 16 ds) else none
  | '0' :: ds => if ds.all (isDigit 8) then some (ofDigits 8 ds) else none
  | ds => if ds.all (isDigit 10) then some (ofDigits 10 ds) else none

/-- The parts of a host, without the empty one after a point at the end. -/
def parts (cs : List Char) : List (List Char) :=
  let all := Target.cutAt (· = '.') cs
  if all.getLast? = some [] then all.dropLast else all

/-- Whether the last part of a host is a number. -/
def endsInNumber (cs : List Char) : Bool :=
  match (parts cs).getLast? with
  | some (c :: last) => (c :: last).all (isDigit 10) || (part? (c :: last)).isSome
  | _ => false

/-- The address of numbers that stand for an octet each, but for the last one, which stands for all
octets that are left. -/
def ofNumbers? (numbers : List Nat) : Option Net.Address :=
  let octets := numbers.dropLast
  let last := numbers.getLast?.getD 0
  if numbers.length ≤ 4 ∧ octets.all (· < 256) ∧ last < Nat.pow 256 (4 - octets.length) then
    some (.v4 (BitVec.ofNat 32
      (octets.foldl (fun n o => n * 256 + o) 0 * Nat.pow 256 (4 - octets.length) + last)))
  else none

/-- The address that the parts of a host stand for. -/
def ipv4? (cs : List Char) : Option Net.Address :=
  (parts cs).mapM part? >>= ofNumbers?

/-- The host that a text stands for: an address of the newer family stands between brackets. -/
def parse? (cs : List Char) : Option Host :=
  match cs with
  | '[' :: cs =>
    if cs.getLast? = some ']' then
      (Net.Read.whole (Net.Read.v6 .strict cs.dropLast)).map .address
    else none
  | cs =>
    let plain := (Octets.decode (Target.writtenOctets cs)).flatMap plainForm
    if plain.isEmpty || plain.any isForbidden then none
    else if endsInNumber plain then (ipv4? plain).map .address
    else some (.name (String.ofList plain))

end Host

end LinkKeeper.Http
