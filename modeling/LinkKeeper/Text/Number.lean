/-!
Whole numbers in decimal or hexadecimal digits.

* `digit?`: the value of a digit in a base.
* `readBounded`: a decimal number with an upper bound, with the cause when there is none.
-/

namespace LinkKeeper.Text

/-- The value of a digit: letters stand for ten and more, in either case. -/
def digit? (base : Nat) (c : Char) : Option Nat :=
  let value :=
    if '0' ≤ c ∧ c ≤ '9' then c.toNat - '0'.toNat
    else if 'a' ≤ c ∧ c ≤ 'z' then c.toNat - 'a'.toNat + 10
    else if 'A' ≤ c ∧ c ≤ 'Z' then c.toNat - 'A'.toNat + 10
    else base
  if value < base then some value else none

/-- Whether the character is a digit in the base. -/
def isDigit (base : Nat) (c : Char) : Bool :=
  (digit? base c).isSome

/-- The number that the digits stand for, most significant first. -/
def ofDigits (base : Nat) (cs : List Char) : Nat :=
  cs.foldl (fun n c => n * base + (digit? base c).getD 0) 0

/-- The digits of a number in a base of at most sixteen, most significant first, in small letters. -/
def digits (base : Nat) (n : Nat) : List Char :=
  Nat.toDigits base n

/-- Splits a text after its leading digits. -/
def spanDigits (base : Nat) (cs : List Char) : List Char × List Char :=
  (cs.takeWhile (isDigit base), cs.dropWhile (isDigit base))

/-- Why a text is no number of the asked kind. -/
inductive NumberError where
  | empty
  | invalidDigit
  | tooLarge
  deriving DecidableEq, Repr

/-- How the fault is told to the user. -/
def NumberError.message : NumberError → String
  | .empty => "cannot parse integer from empty string"
  | .invalidDigit => "invalid digit found in string"
  | .tooLarge => "number too large to fit in target type"

/-- Reads digits from the left, and stops at the first character that is no digit or takes the number
past the bound. -/
def readDigits (bound : Nat) : Nat → List Char → Except NumberError Nat
  | n, [] => .ok n
  | n, c :: cs =>
    match digit? 10 c with
    | none => .error .invalidDigit
    | some d => if bound < n * 10 + d then .error .tooLarge else readDigits bound (n * 10 + d) cs

/-- Reads a decimal number of at most `bound`, which may have a plus sign in front. -/
def readBounded (bound : Nat) : List Char → Except NumberError Nat
  | [] => .error .empty
  | ['+'] => .error .invalidDigit
  | '+' :: cs => readDigits bound 0 cs
  | cs => readDigits bound 0 cs

/-- The largest number of sixty-four bits. -/
def maxWord64 : Nat := 0xFFFFFFFFFFFFFFFF

/-- The largest number of thirty-two bits. -/
def maxWord32 : Nat := 0xFFFFFFFF

end LinkKeeper.Text
