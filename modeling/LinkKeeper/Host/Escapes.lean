import LinkKeeper.Host.Raw

/-!
Backslash escapes in the texts that programs are asked to print.

* `Escapes.next`: what stands after a backslash.
* `Escapes.expand`: a text with its escapes replaced, as far as it is to be printed.
-/

namespace LinkKeeper

/-- Which escapes a program knows besides letters and octal numbers. -/
structure Escapes where
  /-- Hexadecimal numbers and the numbers of characters. -/
  hexadecimal : Bool
  /-- Whether a number of a character is known, and a hexadecimal number has to have digits. -/
  strict : Bool
  /-- Whether a zero may stand in front of three octal digits. -/
  leadingZero : Bool
  /-- Whether the letter c ends all printing. -/
  stops : Bool
  /-- Whether a double quote is an escape. -/
  quote : Bool
  /-- Whether a character that is no escape is printed with its backslash, and not looked at again. -/
  takesUnknown : Bool
  deriving DecidableEq, Repr

/-- What an escape stands for, with what follows it. -/
inductive Escaped where
  | text (printed rest : Raw)
  /-- Nothing more is printed. -/
  | stop
  | fault (message : String)

namespace Escapes

open Text

/-- The character that a letter stands for. -/
def letter? : Char → Option Char
  | 'a' => some '\x07'
  | 'b' => some '\x08'
  | 'e' => some '\x1b'
  | 'f' => some '\x0c'
  | 'n' => some '\n'
  | 'r' => some '\r'
  | 't' => some '\t'
  | 'v' => some '\x0b'
  | '\\' => some '\\'
  | _ => none

/-- The octet of at most `width` digits at the front, with what follows them. -/
def number (base width : Nat) (cs : Raw) : Raw × Raw :=
  let ds := (cs.take width).takeWhile (isDigit base)
  ([Raw.octet (ofDigits base ds)], cs.drop ds.length)

/-- A character given by its number. The host prints plain ones only, and writes out the others. -/
def character (mark : Char) (width : Nat) (cs : Raw) : Escaped :=
  let ds := cs.take width
  if ds.length < width || !ds.all (isDigit 16) then .fault "missing hexadecimal number in escape"
  else
    let n := ofDigits 16 ds
    if 0xD800 ≤ n ∧ n ≤ 0xDFFF then
      .fault ("invalid universal character name \\" ++ mark.toString ++ String.ofList (ds.map Char.toLower))
    else if n < 0x80 then .text [Char.ofNat n] (cs.drop width)
    else .text ('\\' :: mark :: ds.map Char.toUpper) (cs.drop width)

/-- What stands after a backslash. -/
def next (e : Escapes) : Raw → Escaped
  | [] => .text ['\\'] []
  | c :: cs =>
    if c = 'c' && e.stops then .stop
    else if c = '"' && e.quote then .text ['"'] cs
    else if c = 'x' && e.hexadecimal && (e.strict || cs.head?.any (isDigit 16)) then
      if cs.head?.any (isDigit 16) then
        let (printed, rest) := number 16 2 cs
        .text printed rest
      else .fault "missing hexadecimal number in escape"
    else if c = 'u' && e.strict then character 'u' 4 cs
    else if c = 'U' && e.strict then character 'U' 8 cs
    else if isDigit 8 c then
      let (printed, rest) := if c = '0' && e.leadingZero then number 8 3 cs else number 8 3 (c :: cs)
      .text printed rest
    else
      match letter? c with
      | some printed => .text [printed] cs
      | none => if e.takesUnknown then .text ['\\', c] cs else .text ['\\'] (c :: cs)

/-- A text with its escapes replaced, how printing goes on after it (with nothing, when it is to
stop), and a fault that ends it; `fuel` bounds the number of characters. -/
def expand (e : Escapes) : (fuel : Nat) → Raw → Raw × Bool × Option String
  | 0, _ => ([], false, none)
  | _, [] => ([], false, none)
  | fuel + 1, '\\' :: cs =>
    match e.next cs with
    | .stop => ([], true, none)
    | .fault message => ([], true, some message)
    | .text printed rest => (expand e fuel rest).map (printed ++ ·) id
  | fuel + 1, c :: cs => (expand e fuel cs).map (c :: ·) id

end Escapes

end LinkKeeper
