import LinkKeeper.Text.Number

/-!
Texts of the host. They are made of octets; each is kept as the character of its number, so that
what is ASCII reads as usual.

* `Raw.ofString`, `Raw.octets`: from a text and to the octets.
* `Raw.readInteger`: a whole number in the notations of programming, with what follows it.
-/

namespace LinkKeeper

/-- A text of the host: every character has a number below 256. -/
abbrev Raw := List Char

namespace Raw

open Text

def ofString (s : String) : Raw := s.toUTF8.toList.map fun b => Char.ofNat b.toNat

def octets (r : Raw) : List Nat := r.map Char.toNat

/-- The octet that a number stands for, which counts on from zero after 255. -/
def octet (n : Nat) : Char := Char.ofNat (n % 256)

/-- A number in decimal digits. -/
def ofNat (n : Nat) : Raw := digits 10 n

def ofInt (i : Int) : Raw := if i < 0 then '-' :: digits 10 i.natAbs else digits 10 i.natAbs

/-- Whether a character is a blank for the host. -/
def isBlank (c : Char) : Bool := c = ' ' || (9 ≤ c.toNat && c.toNat ≤ 13)

/-- Whether a character can stand in a name. -/
def isNameChar (c : Char) : Bool := c.isAlphanum || c = '_'

/-- Whether a text is a name. -/
def isName (r : Raw) : Bool :=
  match r with
  | [] => false
  | c :: _ => !c.isDigit && r.all isNameChar

/-- The digits of a whole number, with its base: it is hexadecimal after 0x and octal after 0. -/
def spanNumeral (r : Raw) : Nat × Raw × Raw :=
  match r with
  | '0' :: x :: d :: rest =>
    if (x = 'x' || x = 'X') && isDigit 16 d then (16, spanDigits 16 (d :: rest))
    else (8, spanDigits 8 r)
  | '0' :: _ => (8, spanDigits 8 r)
  | _ => (10, spanDigits 10 r)

/-- Reads a whole number after blanks and a sign, and gives what follows it. Without any digits
nothing is read. -/
def readInteger (r : Raw) : Int × Raw :=
  let body := r.dropWhile isBlank
  let (negative, numeral) := match body with
    | '-' :: rest => (true, rest)
    | '+' :: rest => (false, rest)
    | rest => (false, rest)
  let (base, ds, rest) := spanNumeral numeral
  if ds.isEmpty then (0, r)
  else
    let n : Int := ofDigits base ds
    (if negative then -n else n, rest)

end Raw

end LinkKeeper
