import LinkKeeper.Json.Value
import LinkKeeper.Text.Number

/-!
Reading JSON text.

The reader keeps repeated members, and puts no bound on the nesting. An escape that leaves half a
surrogate pair alone does not fail; what holds it is read as `Json.unreadable`.

* `Json.parse?`: reads a whole text.
* `readPieces`, `assemble`: a quoted text is read as characters and escaped code units first, which
  are then put together.
-/

namespace LinkKeeper.Json

open Text

/-- Skips spaces, tabs and line ends. -/
def skipSpace (cs : List Char) : List Char :=
  cs.dropWhile fun c => c = ' ' || c = '\n' || c = '\t' || c = '\r'

/-- A part of a quoted text: a character, or a code unit of sixteen bits given by its number. -/
inductive Piece where
  | char (c : Char)
  | unit (n : Nat)

/-- The character that a backslash and a letter stand for. -/
def escaped? : Char → Option Char
  | '"' => some '"'
  | '\\' => some '\\'
  | '/' => some '/'
  | 'b' => some '\x08'
  | 'f' => some '\x0c'
  | 'n' => some '\n'
  | 'r' => some '\r'
  | 't' => some '\t'
  | _ => none

/-- The number of four hexadecimal digits. -/
def codeUnit? (ds : List Char) : Option Nat :=
  if ds.all (isDigit 16) then some (ofDigits 16 ds) else none

/-- Reads the rest of a quoted text, up to the closing quote. -/
def readPieces : List Char → Option (List Piece × List Char)
  | [] => none
  | '"' :: rest => some ([], rest)
  | '\\' :: 'u' :: a :: b :: c :: d :: rest => do
    let n ← codeUnit? [a, b, c, d]
    let (ps, rest) ← readPieces rest
    some (.unit n :: ps, rest)
  | '\\' :: e :: rest => do
    let c ← escaped? e
    let (ps, rest) ← readPieces rest
    some (.char c :: ps, rest)
  | c :: rest => do
    if c.toNat < 0x20 || c = '\\' then none
    let (ps, rest) ← readPieces rest
    some (.char c :: ps, rest)

/-- Whether the code unit is the first half of a surrogate pair. -/
def isHighHalf (n : Nat) : Bool := 0xD800 ≤ n && n ≤ 0xDBFF

/-- Whether the code unit is the second half of a surrogate pair. -/
def isLowHalf (n : Nat) : Bool := 0xDC00 ≤ n && n ≤ 0xDFFF

/-- The text of the pieces, unless half of a surrogate pair stands alone. -/
def assemble : List Piece → Option (List Char)
  | [] => some []
  | .char c :: ps => (assemble ps).map (c :: ·)
  | .unit n :: ps =>
    if isHighHalf n then
      match ps with
      | .unit m :: ps =>
        if isLowHalf m then
          (assemble ps).map (Char.ofNat (0x10000 + (n - 0xD800) * 0x400 + (m - 0xDC00)) :: ·)
        else none
      | _ => none
    else if isLowHalf n then none
    else (assemble ps).map (Char.ofNat n :: ·)

/-- Reads one or more digits. -/
def readDigits (cs : List Char) : Option (List Char × List Char) :=
  let (ds, rest) := spanDigits 10 cs
  if ds.isEmpty then none else some (ds, rest)

/-- Reads digits without a zero in front of others. -/
def readWhole : List Char → Option (Nat × List Char)
  | '0' :: rest => if rest.head?.any (isDigit 10) then none else some (0, rest)
  | cs => (readDigits cs).map fun (ds, rest) => (ofDigits 10 ds, rest)

/-- Reads a point and digits, or nothing. -/
def readFraction : List Char → Option (Option String × List Char)
  | '.' :: cs => (readDigits cs).map fun (ds, rest) => (some (String.ofList ds), rest)
  | cs => some (none, cs)

/-- Reads a power of ten, or nothing. -/
def readExponent : List Char → Option (Option Int × List Char)
  | e :: cs =>
    if e = 'e' || e = 'E' then
      let (negative, cs) :=
        match cs with
        | '+' :: cs => (false, cs)
        | '-' :: cs => (true, cs)
        | cs => (false, cs)
      (readDigits cs).map fun (ds, rest) =>
        let n : Int := ofDigits 10 ds
        (some (if negative then -n else n), rest)
    else some (none, e :: cs)
  | [] => some (none, [])

/-- Reads a number. -/
def readNumber (cs : List Char) : Option (JsonNumber × List Char) := do
  let (negative, cs) :=
    match cs with
    | '-' :: cs => (true, cs)
    | cs => (false, cs)
  let (whole, cs) ← readWhole cs
  let (fraction, cs) ← readFraction cs
  let (exponent, cs) ← readExponent cs
  some (⟨negative, whole, fraction, exponent⟩, cs)

/-- Reads a fixed word. -/
def readWord (word : List Char) (cs : List Char) : Option (List Char) :=
  if word.isPrefixOf cs then some (cs.drop word.length) else none

mutual

/-- Reads a document; `fuel` bounds the number of its parts. -/
def readValue : (fuel : Nat) → List Char → Option (Json × List Char)
  | 0, _ => none
  | fuel + 1, cs =>
    match skipSpace cs with
    | '"' :: cs => (readPieces cs).map fun (ps, rest) =>
      (((assemble ps).map fun s => Json.text (String.ofList s)).getD .unreadable, rest)
    | '[' :: cs =>
      match skipSpace cs with
      | ']' :: rest => some (.array [], rest)
      | cs => (readItems fuel cs).map fun (items, rest) => (.array items, rest)
    | '{' :: cs =>
      match skipSpace cs with
      | '}' :: rest => some (.object [], rest)
      | cs => (readMembers fuel cs).map fun (members, rest) =>
        ((members.map Json.object).getD .unreadable, rest)
    | 'n' :: cs => (readWord ['u', 'l', 'l'] cs).map fun rest => (.null, rest)
    | 't' :: cs => (readWord ['r', 'u', 'e'] cs).map fun rest => (.bool true, rest)
    | 'f' :: cs => (readWord ['a', 'l', 's', 'e'] cs).map fun rest => (.bool false, rest)
    | cs => (readNumber cs).map fun (n, rest) => (.number n, rest)

/-- Reads the items of an array up to its end. -/
def readItems : (fuel : Nat) → List Char → Option (List Json × List Char)
  | 0, _ => none
  | fuel + 1, cs =>
    match readValue fuel cs with
    | none => none
    | some (j, rest) =>
      match skipSpace rest with
      | ',' :: rest => (readItems fuel rest).map fun (items, rest) => (j :: items, rest)
      | ']' :: rest => some ([j], rest)
      | _ => none

/-- Reads the members of an object up to its end; there are none to speak of when a name is
unreadable. -/
def readMembers : (fuel : Nat) → List Char → Option (Option (List (String × Json)) × List Char)
  | 0, _ => none
  | fuel + 1, cs =>
    match skipSpace cs with
    | '"' :: cs =>
      match readPieces cs with
      | none => none
      | some (ps, rest) =>
        match skipSpace rest with
        | ':' :: rest =>
          match readValue fuel rest with
          | none => none
          | some (j, rest) =>
            let first := (assemble ps).map fun name => (String.ofList name, j)
            match skipSpace rest with
            | ',' :: rest => (readMembers fuel rest).map fun (members, rest) =>
              (do some ((← first) :: (← members)), rest)
            | '}' :: rest => some (first.map ([·]), rest)
            | _ => none
        | _ => none
    | _ => none

end

/-- Reads a text that holds one document and blanks around it. -/
def parse? (text : String) : Option Json :=
  match readValue (text.toList.length + 1) text.toList with
  | some (j, rest) => if (skipSpace rest).isEmpty then some j else none
  | none => none

end LinkKeeper.Json
