/-!
The shortest decimal that reads back as a given double.

A double stands for every real number that is nearer to it than to its neighbours. Of the decimals
in that range those with the fewest digits are taken, and of these the nearest one.

* `Decimal.shortest`: tries one digit, then two, and so on; seventeen always are enough.
* `Decimal.chars`: the decimal without a power of ten, however many zeros that takes.
-/

namespace LinkKeeper

/-- The number `coefficient · 10 ^ scale`. -/
structure Decimal where
  coefficient : Nat
  scale : Int
  deriving DecidableEq, Repr

/-- A positive double: the number `mantissa · 2 ^ power`. -/
structure Double where
  mantissa : Nat
  power : Int
  /-- Whether the next smaller double is only half as far away as the next greater one. -/
  isBoundary : Bool
  deriving DecidableEq, Repr

namespace Double

/-- The parts of a float that is neither zero nor infinite nor no number; its sign is dropped. -/
def ofFloat (x : Float) : Double :=
  let bits := x.toBits.toNat
  let fraction := bits % 0x10000000000000
  let exponent := bits / 0x10000000000000 % 0x800
  if exponent = 0 then ⟨fraction, -1074, false⟩
  else ⟨0x10000000000000 + fraction, Int.ofNat exponent - 1075, fraction = 0 && 1 < exponent⟩

/-- Four times the value as a quotient, so that a quarter of the distance between doubles is whole. -/
def quadruple (x : Double) : Nat × Nat :=
  if 0 ≤ x.power then (4 * x.mantissa * Nat.pow 2 x.power.toNat, 1)
  else (4 * x.mantissa, Nat.pow 2 (-x.power).toNat)

end Double

namespace Decimal

/-- The number of digits before the point of a quotient; it is not positive when zeros follow the
point. -/
def magnitude (num den : Nat) : Int :=
  if den ≤ num then Int.ofNat (Nat.toDigits 10 (num / den)).length
  else
    let zeros := (Nat.toDigits 10 (den / num)).length - 1
    if num * Nat.pow 10 zeros = den then 1 - Int.ofNat zeros else -Int.ofNat zeros

/-- Whether a point reads back as the double, given in the same unit as its value and as a quarter
of its distance to the next greater double. The ends of the range do when the mantissa is even. -/
def readsBack (x : Double) (value quarter point : Nat) : Bool :=
  let least := value - (if x.isBoundary then quarter else 2 * quarter)
  let greatest := value + 2 * quarter
  if x.mantissa % 2 = 0 then least ≤ point && point ≤ greatest
  else least < point && point < greatest

/-- Of the two decimals with `count` digits around the double the nearer one that reads back, if
there is one. -/
def ofLength? (x : Double) (count : Nat) : Option Decimal :=
  let (num, den) := x.quadruple
  let scale := magnitude num (4 * den) - Int.ofNat count
  -- All lengths are counted in one unit, so small that they are whole numbers.
  let value := num * Nat.pow 10 (-scale).toNat
  let quarter := num / x.mantissa / 4 * Nat.pow 10 (-scale).toNat
  let step := 4 * den * Nat.pow 10 scale.toNat
  let below := value / step
  let down := value - below * step
  let up := (below + 1) * step - value
  match readsBack x value quarter (below * step), readsBack x value quarter ((below + 1) * step) with
  | false, false => none
  | true, false => some ⟨below, scale⟩
  | false, true => some ⟨below + 1, scale⟩
  | true, true =>
    if down < up || (down = up && below % 2 = 0) then some ⟨below, scale⟩ else some ⟨below + 1, scale⟩

/-- The shortest decimal that reads back as the double. -/
def shortest (x : Double) : Decimal :=
  ((List.range 17).findSome? fun n => ofLength? x (n + 1)).getD ⟨0, 0⟩

/-- The decimal written with a point and without a power of ten. -/
def chars (d : Decimal) : List Char :=
  let ds := Nat.toDigits 10 d.coefficient
  if 0 ≤ d.scale then ds ++ List.replicate d.scale.toNat '0'
  else
    let places := (-d.scale).toNat
    if places < ds.length then
      ds.take (ds.length - places) ++ '.' :: ds.drop (ds.length - places)
    else '0' :: '.' :: List.replicate (places - ds.length) '0' ++ ds

end Decimal

/-- The written form of a float that is not negative. -/
def floatText (x : Float) : String :=
  if x == 0 then "0"
  else if x.isNaN then "NaN"
  else if x.isInf then "inf"
  else String.ofList (Decimal.shortest (.ofFloat x)).chars

end LinkKeeper
