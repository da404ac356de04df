import LinkKeeper.Text.Number

/-!
Addresses of the two families, and networks.

A network is an address with a prefix length: it keeps the host bits of the address, which
`Network.truncated` clears.

* `Network.truncated_truncated`: clearing the host bits twice is clearing them once.
* `Network.compare_eq_iff`, `Address.compare_eq_iff`: the order tells different values apart.
-/

namespace LinkKeeper.Net

/-- The two address families. -/
inductive Family where
  | v4
  | v6
  deriving DecidableEq, Repr

/-- The number of bits in an address of the family. -/
def Family.width : Family → Nat
  | .v4 => 32
  | .v6 => 128

/-- An address of a host. -/
inductive Address where
  | v4 (bits : BitVec 32)
  | v6 (bits : BitVec 128)
  deriving DecidableEq, Repr

namespace Address

def family : Address → Family
  | .v4 _ => .v4
  | .v6 _ => .v6

/-- The address as a number. -/
def toNat : Address → Nat
  | .v4 bits => bits.toNat
  | .v6 bits => bits.toNat

/-- The four octets of an address of the older family, first octet first. -/
def octets (bits : BitVec 32) : List (BitVec 8) :=
  [bits.extractLsb' 24 8, bits.extractLsb' 16 8, bits.extractLsb' 8 8, bits.extractLsb' 0 8]

/-- The eight groups of an address of the newer family, first group first. -/
def groups (bits : BitVec 128) : List (BitVec 16) :=
  (List.range 8).map fun i => bits.extractLsb' (16 * (7 - i)) 16

/-- The word made of pieces of `width` bits, the first piece on top. -/
def ofPieces (width total : Nat) (pieces : List Nat) : BitVec total :=
  BitVec.ofNat total (pieces.foldl (fun n p => n * Nat.pow 2 width + p) 0)

/-- The address with only its `len` leading bits kept. -/
def keepLeading (len : Nat) : Address → Address
  | .v4 bits => .v4 (bits &&& (BitVec.allOnes 32 <<< (32 - len)))
  | .v6 bits => .v6 (bits &&& (BitVec.allOnes 128 <<< (128 - len)))

/-- The older family comes first; within a family addresses are ordered as numbers. -/
def compare : Address → Address → Ordering
  | .v4 a, .v4 b => Ord.compare a.toNat b.toNat
  | .v4 _, .v6 _ => .lt
  | .v6 _, .v4 _ => .gt
  | .v6 a, .v6 b => Ord.compare a.toNat b.toNat

instance : Ord Address := ⟨Address.compare⟩

theorem compare_eq_iff {a b : Address} : compare a b = .eq ↔ a = b := by
  cases a <;> cases b <;> simp [compare, BitVec.toNat_inj]

theorem compare_eq_compareLex : compare = compareLex (compareOn fun a => a.family.width) (compareOn toNat) := by
  funext a b
  cases a <;> cases b <;> rfl

instance : Std.TransCmp compare := compare_eq_compareLex ▸ inferInstance

instance : Std.TransOrd Address := inferInstanceAs (Std.TransCmp compare)

@[simp] theorem family_keepLeading (len : Nat) (a : Address) : (a.keepLeading len).family = a.family := by
  cases a <;> rfl

@[simp] theorem keepLeading_keepLeading (len : Nat) (a : Address) :
    (a.keepLeading len).keepLeading len = a.keepLeading len := by
  cases a <;> simp [keepLeading, BitVec.and_assoc]

end Address

/-- An address with the length of the prefix that its network shares. -/
structure Network where
  address : Address
  length : Nat
  length_le : length ≤ address.family.width
  deriving DecidableEq, Repr

namespace Network

def family (n : Network) : Family := n.address.family

/-- The network of an address and a prefix length, when the length fits the family. -/
def ofLength? (address : Address) (length : Nat) : Option Network :=
  if h : length ≤ address.family.width then some ⟨address, length, h⟩ else none

/-- The network that holds one host only. -/
def host (address : Address) : Network :=
  ⟨address, address.family.width, Nat.le_refl _⟩

/-- The network of every address of a family. -/
def everything : Family → Network
  | .v4 => ⟨.v4 0, 0, Nat.zero_le _⟩
  | .v6 => ⟨.v6 0, 0, Nat.zero_le _⟩

/-- The network with the host bits of its address cleared. -/
def truncated (n : Network) : Network :=
  ⟨n.address.keepLeading n.length, n.length, by simpa using n.length_le⟩

/-- Networks are ordered by address, then by prefix length. -/
def compare (a b : Network) : Ordering :=
  (Address.compare a.address b.address).then (Ord.compare a.length b.length)

instance : Ord Network := ⟨Network.compare⟩

theorem compare_eq_iff {a b : Network} : compare a b = .eq ↔ a = b := by
  obtain ⟨_, _, _⟩ := a
  obtain ⟨_, _, _⟩ := b
  simp [compare, Ordering.then_eq_eq, Address.compare_eq_iff]

instance : Std.TransCmp compare :=
  inferInstanceAs (Std.TransCmp (compareLex (compareOn address) (compareOn length)))

instance : Std.TransOrd Network := inferInstanceAs (Std.TransCmp compare)

instance : Std.LawfulEqOrd Network where
  eq_of_compare := compare_eq_iff.mp

@[simp] theorem truncated_truncated (n : Network) : n.truncated.truncated = n.truncated := by
  simp [truncated]

@[simp] theorem length_truncated (n : Network) : n.truncated.length = n.length := rfl

@[simp] theorem family_truncated (n : Network) : n.truncated.family = n.family := by
  simp [truncated, family]

theorem ofLength?_eq_some_iff {a : Address} {l : Nat} {n : Network} :
    ofLength? a l = some n ↔ n.address = a ∧ n.length = l := by
  obtain ⟨b, m, h⟩ := n
  by_cases hl : l ≤ a.family.width
  · simp [ofLength?, hl, eq_comm]
  · simp only [ofLength?, hl, dite_false, reduceCtorEq, false_iff, not_and]
    rintro rfl rfl
    exact hl h

end Network

/-- An address with a port, and for the newer family the number of the zone it is used in. -/
structure Endpoint where
  address : Address
  zone : Nat
  port : Nat
  deriving DecidableEq, Repr

end LinkKeeper.Net
