import LinkKeeper.Host.Escapes

/-!
Formats, and the texts and numbers that are printed by them.

A format is used again and again until no argument is left. There are two dialects: one of the program
that stands alone, and one of the shell.

* `Formats.print`: what a format prints.
* `Formats.Directive.integer`, `Formats.Directive.text`: the form of one argument.
-/

namespace LinkKeeper

/-- What a program has printed, what it has complained of, and its status. -/
structure Printed where
  output : Raw
  complaints : List Raw
  status : Nat
  deriving DecidableEq, Repr

/-- Who reads a format. -/
inductive FormatDialect where
  | standalone
  | shell
  deriving DecidableEq, Repr

namespace FormatDialect

/-- The escapes in a format. -/
def escapes : FormatDialect → Escapes
  | standalone => ⟨true, true, false, true, true, true⟩
  | shell => ⟨false, false, false, false, false, false⟩

/-- The escapes in an argument that is printed with its escapes replaced. -/
def argumentEscapes : FormatDialect → Escapes
  | standalone => ⟨true, true, true, true, true, true⟩
  | shell => ⟨false, false, true, true, false, false⟩

/-- The status of a program that has read no further than a fault. -/
def faultStatus : FormatDialect → Nat
  | standalone => 1
  | shell => 2

end FormatDialect

namespace Formats

open Text

/-- A text between quotes, for a complaint. -/
def quoted (r : Raw) : Raw :=
  let form (c : Char) : Raw :=
    match c with
    | '\'' => ['\\', '\'']
    | '\\' => ['\\', '\\']
    | c =>
      match [('\x07', 'a'), ('\x08', 'b'), ('\x0c', 'f'), ('\n', 'n'), ('\r', 'r'), ('\t', 't'),
        ('\x0b', 'v')].lookup c with
      | some letter => ['\\', letter]
      | none =>
        if c.toNat < 0x20 || 0x7F ≤ c.toNat then
          '\\' :: [c.toNat / 64, c.toNat / 8 % 8, c.toNat % 8].map Nat.digitChar
        else [c]
  '\'' :: r.flatMap form ++ ['\'']

/-- One directive of a format. -/
structure Directive where
  flags : Raw
  width : Nat
  precision : Option Nat
  conversion : Char
  deriving DecidableEq, Repr

namespace Directive

/-- A text with blanks up to the width. -/
def padded (d : Directive) (r : Raw) : Raw :=
  let blanks := List.replicate (d.width - r.length) ' '
  if d.flags.contains '-' then r ++ blanks else blanks ++ r

/-- The form of a text. -/
def text (d : Directive) (r : Raw) : Raw :=
  d.padded (match d.precision with
    | some n => r.take n
    | none => r)

/-- Whether a number is printed with its sign. -/
def isSigned (d : Directive) : Bool := d.conversion = 'd' || d.conversion = 'i'

/-- The digits of a number, at least as many as the precision asks for. -/
def numerals (d : Directive) (n : Nat) : Raw :=
  let base := if d.conversion = 'o' then 8 else if d.conversion = 'x' || d.conversion = 'X' then 16 else 10
  let ds := if n = 0 && d.precision = some 0 then [] else digits base n
  let ds := List.replicate (d.precision.getD 1 - ds.length) '0' ++ ds
  let ds := if d.conversion = 'o' && d.flags.contains '#' && ds.head? ≠ some '0' then '0' :: ds else ds
  if d.conversion = 'X' then ds.map Char.toUpper else ds

/-- What stands in front of the digits of a number. -/
def sign (d : Directive) (i : Int) : Raw :=
  if d.isSigned then
    if i < 0 then ['-'] else if d.flags.contains '+' then ['+']
    else if d.flags.contains ' ' then [' '] else []
  else if d.flags.contains '#' && i ≠ 0 && (d.conversion = 'x' || d.conversion = 'X') then
    ['0', d.conversion]
  else []

/-- The form of a number. -/
def integer (d : Directive) (i : Int) : Raw :=
  let front := d.sign i
  let ds := d.numerals i.natAbs
  if d.flags.contains '0' && !d.flags.contains '-' && d.precision.isNone then
    front ++ List.replicate (d.width - front.length - ds.length) '0' ++ ds
  else d.padded (front ++ ds)

end Directive

/-! ### Arguments -/

/-- How far the printing has come. -/
structure Progress where
  arguments : List Raw
  output : Raw
  complaints : List Raw
  failed : Bool

namespace Progress

def put (p : Progress) (r : Raw) : Progress := { p with output := p.output ++ r }

def complain (p : Progress) (message : Raw) : Progress := { p with complaints := p.complaints ++ [message] }

/-- A complaint that makes the program fail in the end. -/
def fail (p : Progress) (message : Raw) : Progress := { p.complain message with failed := true }

/-- The next argument, if there is one. -/
def pop (p : Progress) : Option Raw × Progress := (p.arguments.head?, { p with arguments := p.arguments.tail })

end Progress

/-- What is said of an argument from a place on. -/
def complaint (dialect : FormatDialect) (argument : Raw) (said : String × String) : Raw :=
  match dialect with
  | .standalone => quoted argument ++ ": ".toList ++ said.1.toList
  | .shell => argument ++ ": ".toList ++ said.2.toList

/-- The largest number with a sign and without one. -/
def greatest (signed : Bool) : Int := if signed then 0x7FFFFFFFFFFFFFFF else 0xFFFFFFFFFFFFFFFF

/-- The number that an argument stands for. A quote in front asks for the number of a character. -/
def number (dialect : FormatDialect) (signed : Bool) (argument : Option Raw) (p : Progress) :
    Int × Progress :=
  match argument with
  | none => (0, p)
  | some argument =>
    match dialect, argument with
    | .standalone, q :: c :: rest =>
      if q = '\'' || q = '"' then
        let more := "warning: ".toList ++ rest ++
          ": character(s) following character constant have been ignored".toList
        (c.toNat, if rest.isEmpty then p else p.complain more)
      else plain argument
    | .shell, q :: rest =>
      if q = '\'' || q = '"' then ((rest.head?.map Char.toNat).getD 0, p) else plain argument
    | _, _ => plain argument
where
  /-- A number in digits. -/
  plain (argument : Raw) : Int × Progress :=
    let (i, rest) := Raw.readInteger argument
    if i < (if signed then -greatest true - 1 else -greatest false) || greatest signed < i then
      let said := "Numerical result out of range"
      (if i < 0 && signed then -greatest true - 1 else greatest signed,
        p.fail (complaint dialect argument (said, said)))
    else
      let value := if i < 0 && !signed then i + greatest false + 1 else i
      if rest.isEmpty then (value, p)
      else if rest = argument then
        (0, p.fail (complaint dialect argument ("expected a numeric value", "expected numeric value")))
      else
        (value, p.fail (complaint dialect argument
          ("value not completely converted", "not completely converted")))

/-! ### Directives -/

/-- Reads a width or a precision: digits, or a star for the next argument. -/
def measure (dialect : FormatDialect) (cs : Raw) (p : Progress) : Option Int × Raw × Progress :=
  match cs with
  | '*' :: rest =>
    let (argument, p) := p.pop
    let (i, p) := number dialect true argument p
    (some i, rest, p)
  | cs =>
    let (ds, rest) := spanDigits 10 cs
    (if ds.isEmpty then none else some (ofDigits 10 ds : Int), rest, p)

/-- Reads the rest of a directive: its flags, its width and its precision, the letters that tell of a
size, and the conversion, which may be missing. -/
def directive (dialect : FormatDialect) (cs : Raw) (p : Progress) : Directive × Bool × Raw × Progress :=
  let known := match dialect with
    | .standalone => "-+ #0'I".toList
    | .shell => "-+ #0".toList
  let flags := cs.takeWhile known.contains
  let (width, cs, p) := measure dialect (cs.drop flags.length) p
  let (precision, cs, p) := match cs with
    | '.' :: rest =>
      let (n, rest, p) := measure dialect rest p
      (some (n.getD 0), rest, p)
    | cs => (none, cs, p)
  let sizes := match dialect with
    | .standalone => "lLhjtz".toList
    | .shell => []
  let cs := cs.dropWhile sizes.contains
  let flags := if (width.getD 0) < 0 then '-' :: flags else flags
  let precise := (precision.filter (0 ≤ ·)).map Int.toNat
  (⟨flags, (width.getD 0).natAbs, precise, cs.head?.getD '\x00'⟩, precision.isSome, cs.tail, p)

/-- Whether a directive is one of the dialect. -/
def isKnown (dialect : FormatDialect) (d : Directive) (precise : Bool) : Bool :=
  match dialect with
  | .shell => "diouxXcsb".toList.contains d.conversion
  | .standalone =>
    let grouped := d.flags.contains '\'' || d.flags.contains 'I'
    let allowed (among : String) (barred : Bool) := among.toList.contains d.conversion && !barred
    allowed "diu" (d.flags.contains '#') || allowed "oxX" grouped ||
      allowed "c" (grouped || precise || d.flags.any ['#', '0'].contains) ||
      allowed "s" (grouped || d.flags.any ['#', '0'].contains)

/-- How one use of a format ends. -/
inductive Ending where
  | complete
  /-- All printing stops. -/
  | stopped
  | fault (message : Raw)

/-- Prints an argument by a directive. -/
def convert (dialect : FormatDialect) (d : Directive) (p : Progress) : Progress × Ending :=
  let (argument, p) := p.pop
  match d.conversion with
  | 's' => (p.put (d.text (argument.getD [])), .complete)
  | 'c' => (p.put ({ d with precision := none }.text [((argument.bind List.head?).getD '\x00')]), .complete)
  | 'b' =>
    let r := argument.getD []
    match dialect.argumentEscapes.expand (r.length + 1) r with
    | (printed, _, some message) => (p.put printed, .fault message.toList)
    | (printed, stopped, none) => (p.put (d.text printed), if stopped then .stopped else .complete)
  | _ =>
    let (i, p) := number dialect d.isSigned argument p
    (p.put (d.integer i), .complete)

/-- Uses a format once; `fuel` bounds the number of characters. -/
def useOnce (dialect : FormatDialect) : (fuel : Nat) → Raw → Progress → Progress × Ending
  | 0, _, p => (p, .complete)
  | _, [], p => (p, .complete)
  | fuel + 1, '\\' :: cs, p =>
    match dialect.escapes.next cs with
    | .stop => (p, .stopped)
    | .fault message => (p, .fault message.toList)
    | .text printed rest => useOnce dialect fuel rest (p.put printed)
  | fuel + 1, '%' :: '%' :: cs, p => useOnce dialect fuel cs (p.put ['%'])
  | fuel + 1, '%' :: cs, p =>
    let bare := dialect = .standalone && cs.head? = some 'b'
    let (d, precise, rest, q) := directive dialect cs p
    if bare || isKnown dialect d precise then
      match convert dialect d q with
      | (q, .complete) => useOnce dialect fuel rest q
      | ended => ended
    else
      let written := '%' :: cs.take (cs.length - rest.length)
      match dialect with
      | .standalone => (q, .fault (written ++ ": invalid conversion specification".toList))
      | .shell =>
        if d.conversion = '\x00' then (q, .fault "missing format character".toList)
        else (q, .fault (written ++ ": invalid directive".toList))
  | fuel + 1, c :: cs, p => useOnce dialect fuel cs (p.put [c])

/-- Uses a format until no argument is left, or once if it takes none. -/
def useAll (dialect : FormatDialect) (format : Raw) : (rounds : Nat) → Progress → Progress × Ending
  | 0, p => (p, .complete)
  | rounds + 1, p =>
    match useOnce dialect (format.length + 1) format p with
    | (q, .complete) =>
      if q.arguments.isEmpty || q.arguments.length = p.arguments.length then (q, .complete)
      else useAll dialect format rounds q
    | ended => ended

/-- What a format prints with its arguments. -/
def print (dialect : FormatDialect) (format : Raw) (arguments : List Raw) : Printed :=
  match useAll dialect format (arguments.length + 1) ⟨arguments, [], [], false⟩ with
  | (p, .fault message) => ⟨p.output, p.complaints ++ [message], dialect.faultStatus⟩
  | (p, .stopped) => ⟨p.output, p.complaints, if dialect = .shell && p.failed then 1 else 0⟩
  | (p, .complete) =>
    let p := match dialect, p.arguments with
      | .standalone, argument :: _ =>
        p.complain ("warning: ignoring excess arguments, starting with ".toList ++ quoted argument)
      | _, _ => p
    ⟨p.output, p.complaints, if p.failed then 1 else 0⟩

end Formats

end LinkKeeper
