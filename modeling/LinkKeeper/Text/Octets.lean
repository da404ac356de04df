/-!
Reading octets as text. What is no character is read as the replacement character, one for each
longest start of a character that does not go on.

* `Octets.decode`: the text of any octets.
* `Octets.decode_cons_ascii`: the octet of an ASCII character stands for it.
-/

namespace LinkKeeper.Text.Octets

/-- What stands for octets that are no character. -/
def replacement : Char := '\uFFFD'

/-- The number of octets of the character that an octet begins, with the range of the second one; no
octet but these begins a character of several. -/
def lead? (b : Nat) : Option (Nat × Nat × Nat) :=
  if 0xC2 ≤ b ∧ b ≤ 0xDF then some (2, 0x80, 0xBF)
  else if b = 0xE0 then some (3, 0xA0, 0xBF)
  else if b = 0xED then some (3, 0x80, 0x9F)
  else if 0xE1 ≤ b ∧ b ≤ 0xEF then some (3, 0x80, 0xBF)
  else if b = 0xF0 then some (4, 0x90, 0xBF)
  else if 0xF1 ≤ b ∧ b ≤ 0xF3 then some (4, 0x80, 0xBF)
  else if b = 0xF4 then some (4, 0x80, 0x8F)
  else none

/-- Whether an octet goes on with a character. -/
def isTail (b : Nat) : Bool := 0x80 ≤ b && b ≤ 0xBF

/-- How many of the octets after the first one belong to the character that it begins. -/
def tails (count low high : Nat) (rest : List Nat) : Nat :=
  match rest with
  | [] => 0
  | b :: more =>
    if low ≤ b ∧ b ≤ high then 1 + ((more.take (count - 2)).takeWhile isTail).length else 0

/-- The bits of the first octet that belong to the number of the character. -/
def leadBits (count b : Nat) : Nat := b % Nat.pow 2 (7 - count)

/-- The character of complete octets. -/
def assemble (count b : Nat) (rest : List Nat) : Char :=
  Char.ofNat (rest.foldl (fun n t => n * 64 + t % 64) (leadBits count b))

/-- Reads octets from the left; `fuel` bounds their number. -/
def decodeWithin : (fuel : Nat) → List Nat → List Char
  | 0, _ => []
  | _, [] => []
  | fuel + 1, b :: rest =>
    if b < 0x80 then Char.ofNat b :: decodeWithin fuel rest
    else
      match lead? b with
      | none => replacement :: decodeWithin fuel rest
      | some (count, low, high) =>
        let n := tails count low high rest
        let c := if n + 1 = count then assemble count b (rest.take n) else replacement
        c :: decodeWithin fuel (rest.drop n)

/-- The text of the octets. -/
def decode (bytes : List Nat) : List Char := decodeWithin bytes.length bytes

theorem decode_cons_ascii {b : Nat} (ascii : b < 0x80) (rest : List Nat) :
    decode (b :: rest) = Char.ofNat b :: decode rest := by
  simp [decode, decodeWithin, ascii]

end LinkKeeper.Text.Octets
