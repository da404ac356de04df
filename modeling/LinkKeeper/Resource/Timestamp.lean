import LinkKeeper.Text.Blank
import LinkKeeper.Text.Number

/-!
Points in time, to the second, in universal time.

Times are written as a date, the letter T, a time of day and the letter Z. They are read from more
texts than that: blanks may stand between the parts, a year may have a sign, and the distance to
universal time may be given instead of the letter. A fraction of a second is read and dropped.

* `Timestamp.text`, `Timestamp.parse?`: writing and reading.
* `Timestamp.shifted`: the same point in time, for a clock that goes ahead by some minutes.
-/

namespace LinkKeeper

open Text

/-- A second of universal time; the second 60 is a leap second. -/
structure Timestamp where
  year : Int
  month : Nat
  day : Nat
  hour : Nat
  minute : Nat
  second : Nat
  deriving DecidableEq, Repr

namespace Timestamp

/-- Whether the year has a leap day. -/
def isLeapYear (year : Int) : Bool :=
  year % 4 = 0 && (year % 100 ≠ 0 || year % 400 = 0)

/-- The number of days of a month. -/
def daysIn (year : Int) (month : Nat) : Nat :=
  match month with
  | 2 => if isLeapYear year then 29 else 28
  | 4 | 6 | 9 | 11 => 30
  | _ => 31

/-- The date after another. -/
def nextDate (year : Int) (month day : Nat) : Int × Nat × Nat :=
  if day < daysIn year month then (year, month, day + 1)
  else if month < 12 then (year, month + 1, 1)
  else (year + 1, 1, 1)

/-- The date before another. -/
def previousDate (year : Int) (month day : Nat) : Int × Nat × Nat :=
  if 1 < day then (year, month, day - 1)
  else if 1 < month then (year, month - 1, daysIn year (month - 1))
  else (year - 1, 12, 31)

/-- The point in time at which a clock shows `t` that goes `ahead` minutes, less than a day, ahead of
universal time. -/
def shifted (t : Timestamp) (ahead : Int) : Timestamp :=
  let minutes := (t.hour * 60 + t.minute : Int) - ahead
  let (year, month, day) :=
    if minutes < 0 then previousDate t.year t.month t.day
    else if 1440 ≤ minutes then nextDate t.year t.month t.day
    else (t.year, t.month, t.day)
  let ofDay := (minutes % 1440).toNat
  ⟨year, month, day, ofDay / 60, ofDay % 60, t.second⟩

/-- The number with zeros in front up to the width. -/
def padded (width n : Nat) : List Char :=
  let ds := digits 10 n
  List.replicate (width - ds.length) '0' ++ ds

/-- The year in four digits; one that does not fit has a sign and as many digits as it needs. -/
def yearChars (year : Int) : List Char :=
  if 0 ≤ year ∧ year ≤ 9999 then padded 4 year.toNat
  else (if year < 0 then '-' else '+') :: padded 4 year.natAbs

def chars (t : Timestamp) : List Char :=
  yearChars t.year ++ '-' :: padded 2 t.month ++ '-' :: padded 2 t.day ++
    'T' :: padded 2 t.hour ++ ':' :: padded 2 t.minute ++ ':' :: padded 2 t.second ++ ['Z']

def text (t : Timestamp) : String := String.ofList t.chars

/-! ### Reading -/

/-- Skips blanks. -/
def skipBlanks (cs : List Char) : List Char := cs.dropWhile isBlank

/-- Reads a number of at most `width` digits. -/
def readNumber (width : Nat) (cs : List Char) : Option (Nat × List Char) :=
  let ds := (cs.take width).takeWhile (isDigit 10)
  if ds.isEmpty then none else some (ofDigits 10 ds, cs.drop ds.length)

/-- Reads a character after blanks. -/
def readMark (mark : Char) (cs : List Char) : Option (List Char) :=
  match skipBlanks cs with
  | c :: rest => if c = mark then some rest else none
  | [] => none

/-- Reads a year: four digits at most, or any number of digits after a sign. -/
def readYear (cs : List Char) : Option (Int × List Char) :=
  match skipBlanks cs with
  | '-' :: cs => (readNumber cs.length cs).map fun (n, rest) => (-(n : Int), rest)
  | '+' :: cs => (readNumber cs.length cs).map fun (n, rest) => ((n : Int), rest)
  | cs => (readNumber 4 cs).map fun (n, rest) => ((n : Int), rest)

/-- Reads a number of at most two digits after blanks. -/
def readPair (cs : List Char) : Option (Nat × List Char) :=
  readNumber 2 (skipBlanks cs)

/-- Skips a point and the digits after it, or nothing. -/
def skipFraction : List Char → Option (List Char)
  | '.' :: cs => if cs.head?.any (isDigit 10) then some (cs.dropWhile (isDigit 10)) else none
  | cs => some cs

/-- The number of exactly two digits. -/
def twoDigits (a b : Char) : Option Nat :=
  if isDigit 10 a && isDigit 10 b then some (ofDigits 10 [a, b]) else none

/-- Reads the hours and minutes that a clock goes ahead or behind, with colons and blanks between
them, as minutes. -/
def readDistance (cs : List Char) : Option (Nat × List Char) :=
  match cs with
  | a :: b :: rest => do
    let hours ← twoDigits a b
    match rest.dropWhile fun c => c = ':' || isBlank c with
    | c :: d :: rest =>
      let minutes ← twoDigits c d
      if minutes < 60 then some (hours * 60 + minutes, rest) else none
    | _ => none
  | _ => none

/-- Reads how many minutes a clock goes ahead of universal time. -/
def readZone (cs : List Char) : Option (Int × List Char) :=
  match cs with
  | 'Z' :: rest | 'z' :: rest => some (0, rest)
  | '+' :: rest => (readDistance rest).map fun (m, rest) => ((m : Int), rest)
  | '-' :: rest | '−' :: rest => (readDistance rest).map fun (m, rest) => (-(m : Int), rest)
  | u :: t :: c :: rest =>
    if [u, t, c].map Char.toUpper = ['U', 'T', 'C'] then some (0, rest) else none
  | _ => none

/-- The years that dates may have. -/
def yearInRange (year : Int) : Bool := -262143 ≤ year && year ≤ 262142

/-- Whether there is such a date and such a time of day. -/
def isValid (t : Timestamp) : Bool :=
  yearInRange t.year && 1 ≤ t.month && t.month ≤ 12 && 1 ≤ t.day && t.day ≤ daysIn t.year t.month &&
    t.hour < 24 && t.minute < 60 && t.second ≤ 60

/-- Reads a point in time. -/
def readChars (cs : List Char) : Option Timestamp := do
  let (year, cs) ← readYear cs
  let (month, cs) ← readPair (← readMark '-' cs)
  let (day, cs) ← readPair (← readMark '-' cs)
  let cs ← match cs with
    | 't' :: cs | 'T' :: cs | ' ' :: cs => some cs
    | _ => none
  let (hour, cs) ← readPair cs
  let (minute, cs) ← readPair (← readMark ':' cs)
  let (second, cs) ← readPair (← readMark ':' cs)
  let (ahead, cs) ← readZone (skipBlanks (← skipFraction cs))
  let t : Timestamp := ⟨year, month, day, hour, minute, second⟩
  if t.isValid && ahead.natAbs < 1440 && (skipBlanks cs).isEmpty then
    (some (t.shifted ahead)).filter fun t => yearInRange t.year
  else none

/-- The point in time that a text stands for. -/
def parse? (s : String) : Option Timestamp := readChars s.toList

/-- A clock that shows universal time needs no shift. -/
theorem shifted_zero {t : Timestamp} (hour : t.hour < 24) (minute : t.minute < 60) :
    t.shifted 0 = t := by
  obtain ⟨y, mo, d, h, m, s⟩ := t
  simp only at hour minute
  have low : ¬ ((h : Int) * 60 + m < 0) := by omega
  have high : ¬ (1440 ≤ (h : Int) * 60 + m) := by omega
  have ofDay : (((h : Int) * 60 + m) % 1440).toNat = h * 60 + m := by omega
  have hours : (h * 60 + m) / 60 = h := by omega
  have minutes : (h * 60 + m) % 60 = m := by omega
  simp only [shifted, Int.sub_zero, if_neg low, if_neg high, ofDay, hours, minutes]

end Timestamp

end LinkKeeper
