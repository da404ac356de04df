import LinkKeeper.Decimal.Nearest
import LinkKeeper.Json.Value
import LinkKeeper.Text.Number

/-!
What a reader keeps of a document whose parts it has no use for.

Members are kept in the order of their names. A whole number is kept as it is when sixty-four bits
can hold it. Any other number is kept as a double, which is not always the nearest one: the reader
takes in the digits that fit into sixty-four bits, drops the others, and makes up for the point and
for the power of ten by one multiplication or division.

* `JsonNumber.kept?`: the number that is kept, unless it is too large.
* `Json.kept?`: the document that is kept, unless some part of it has no value.
-/

namespace LinkKeeper

open Text

namespace JsonNumber

/-- The digits of a number as far as they fit into sixty-four bits, and the power of ten that makes
up for the others and for the point. -/
structure Digits where
  significand : Nat
  exponent : Int
  deriving DecidableEq, Repr

namespace Digits

/-- Takes in the digits before the point. From the first one on that does not fit, they are dropped
and counted. -/
def takeWhole (d : Digits) : List Char → Digits
  | [] => d
  | c :: cs =>
    let n := d.significand * 10 + ofDigits 10 [c]
    if n ≤ maxWord64 then takeWhole ⟨n, d.exponent⟩ cs else ⟨d.significand, d.exponent + (cs.length + 1)⟩

/-- Takes in the digits after the point. From the first one on that does not fit, they are dropped. -/
def takeFraction (d : Digits) : List Char → Digits
  | [] => d
  | c :: cs =>
    let n := d.significand * 10 + ofDigits 10 [c]
    if n ≤ maxWord64 then takeFraction ⟨n, d.exponent - 1⟩ cs else d

/-- A power of ten as a double, which is exact or the nearest one. -/
def tenTo? (n : Nat) : Option Double := Double.nearest? (Nat.pow 10 n) 1

/-- The double for a significand below `2 ^ 64` and a power of ten. Two divisions at most are made:
past those nothing is left. -/
def toDouble? (d : Digits) : Option Double := do
  let f ← Double.nearest? d.significand 1
  let places := d.exponent.natAbs
  if 0 ≤ d.exponent then
    if d.significand = 0 then some f
    else if places ≤ 308 then f.times? (← tenTo? places)
    else none
  else if places ≤ 308 then f.over? (← tenTo? places)
  else if places ≤ 616 then (← f.over? (← tenTo? 308)).over? (← tenTo? (places - 308))
  else some .zero

end Digits

/-- The digits of a number that a reader takes in. -/
def takenDigits (n : JsonNumber) : Digits :=
  let d := (Digits.mk 0 (n.exponent.getD 0)).takeWhole (digits 10 n.whole)
  d.takeFraction (n.fraction.getD "").toList

/-- The shortest form of a double that reads back. From five zeros after the point on, and from
seventeen digits before it on, it has a power of ten. -/
def ofDouble (negative : Bool) (x : Double) : JsonNumber :=
  if x.mantissa = 0 then ⟨negative, 0, some "0", none⟩
  else
    let d := Decimal.shortest x
    let ds := digits 10 d.coefficient
    let places : Int := ds.length + d.scale
    if 0 ≤ d.scale && places ≤ 16 then
      ⟨negative, d.coefficient * Nat.pow 10 d.scale.toNat, some "0", none⟩
    else if 0 < places && places ≤ 16 then
      ⟨negative, ofDigits 10 (ds.take places.toNat), some (String.ofList (ds.drop places.toNat)), none⟩
    else if -5 < places && places ≤ 0 then
      ⟨negative, 0, some (String.ofList (List.replicate places.natAbs '0' ++ ds)), none⟩
    else
      ⟨negative, ofDigits 10 (ds.take 1),
        if ds.length = 1 then none else some (String.ofList (ds.drop 1)), some (places - 1)⟩

/-- Whether sixty-four bits can hold a whole number, with a sign or without one. -/
def fitsWord (i : Int) : Bool := -0x8000000000000000 ≤ i && i ≤ maxWord64

/-- The number that is kept, unless it is too large for a double. -/
def kept? (n : JsonNumber) : Option JsonNumber :=
  match n.toInt?.filter fitsWord with
  | some i => some (ofInt i)
  | none => n.takenDigits.toDouble?.map (ofDouble n.negative)

/-- A whole number of sixty-four bits is kept as it is. -/
theorem kept?_ofInt {i : Int} (fits : fitsWord i = true) : (ofInt i).kept? = some (ofInt i) := by
  simp only [kept?, toInt?_ofInt, Option.filter_some, fits, if_true]

end JsonNumber

namespace Json

/-- Puts a member into members that stand in the order of their names, over one of the same name. -/
def placeMember (name : String) (j : Json) : List (String × Json) → List (String × Json)
  | [] => [(name, j)]
  | (n, i) :: rest =>
    match compare name n with
    | .lt => (name, j) :: (n, i) :: rest
    | .eq => (name, j) :: rest
    | .gt => (n, i) :: placeMember name j rest

mutual

/-- The document that is kept: the members of each object are in the order of their names, and of
repeated ones the last is kept. There is none if a text is unreadable or a number too large. -/
def kept? : Json → Option Json
  | .number n => n.kept?.map .number
  | .array items => (keptItems items).map .array
  | .object members => (keptMembers [] members).map .object
  | .unreadable => none
  | j => some j

def keptItems : List Json → Option (List Json)
  | [] => some []
  | j :: rest => do
    let j ← j.kept?
    let rest ← keptItems rest
    some (j :: rest)

def keptMembers (placed : List (String × Json)) : List (String × Json) → Option (List (String × Json))
  | [] => some placed
  | (name, j) :: rest => do
    let j ← j.kept?
    keptMembers (placeMember name j placed) rest

end

end Json

end LinkKeeper
