import LinkKeeper.Decimal.Shortest

/-!
The double nearest to a quotient.

Doubles are computed with as the standard for them asks: exactly at first, and then rounded to the nearest one, of
two that are equally near to the one with an even mantissa. Signs are left to the caller.

* `Double.nearest?`: the nearest double, unless the quotient is too large.
* `Double.times?`, `Double.over?`: products and quotients of doubles.
-/

namespace LinkKeeper.Double

/-- The double for zero. -/
def zero : Double := ⟨0, -1074, false⟩

/-- The power of two that one unit of the mantissa stands for in the doubles around a quotient. -/
def unit (num den : Nat) : Int :=
  let near := (Nat.log2 num : Int) - Nat.log2 den
  let least := if num * Nat.pow 2 (-near).toNat < den * Nat.pow 2 near.toNat then near - 1 else near
  max (least - 52) (-1074)

/-- The whole number nearest to a quotient, and of two the even one. -/
def roundEven (num den : Nat) : Nat :=
  let below := num / den
  let past := 2 * (num % den)
  if den < past || (past = den && below % 2 = 1) then below + 1 else below

/-- The double nearest to a quotient that is not negative, unless it is too large. -/
def nearest? (num den : Nat) : Option Double :=
  if num = 0 then some zero
  else
    let power := unit num den
    let rounded := roundEven (num * Nat.pow 2 (-power).toNat) (den * Nat.pow 2 power.toNat)
    -- Rounding up may lead to the next power of two.
    let (mantissa, power) :=
      if rounded = 0x20000000000000 then (0x10000000000000, power + 1) else (rounded, power)
    if power ≤ 971 then some ⟨mantissa, power, mantissa = 0x10000000000000 && -1074 < power⟩ else none

/-- The value as a quotient. -/
def ratio (x : Double) : Nat × Nat :=
  (x.mantissa * Nat.pow 2 x.power.toNat, Nat.pow 2 (-x.power).toNat)

/-- The product, unless it is too large. -/
def times? (x y : Double) : Option Double := nearest? (x.ratio.1 * y.ratio.1) (x.ratio.2 * y.ratio.2)

/-- The quotient, unless it is too large. -/
def over? (x y : Double) : Option Double := nearest? (x.ratio.1 * y.ratio.2) (x.ratio.2 * y.ratio.1)

end LinkKeeper.Double
