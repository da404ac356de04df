import LinkKeeper.Host.Shell.Syntax

/-!
The tokens of a script.

* `Cursor.token`: the next token. At the end of a line the texts that were announced on it are read.
* `readWord`: a word up to its end, with its quotes and what is to be put into it.
-/

namespace LinkKeeper.Shell

open Text

/-- Why a script cannot be read. -/
abbrev SyntaxFault := String

/-- A text that stands on the lines after the one that asks for it. -/
structure Announced where
  index : Nat
  delimiter : Raw
  stripsTabs : Bool

/-- How far a script has been read. -/
structure Cursor where
  rest : Raw
  line : Nat
  announced : List Announced
  /-- The texts so far, by the number of their place. -/
  texts : List (Nat × Raw)

inductive Token where
  | ended
  | newline
  | operator (sign : String)
  /-- The operator of a redirection, with the descriptor in front of it. -/
  | redirect (descriptor : Option Nat) (sign : String)
  | word (w : Word)
  deriving DecidableEq

/-- The operators, the longer ones first. -/
def operators : List String := ["&&", "||", ";;", ";", "&", "|", "(", ")"]

/-- The operators of redirections, the longer ones first. -/
def redirections : List String := ["<<-", "<<", "<&", "<>", "<", ">>", ">&", ">|", ">"]

/-- The first of some texts that stands at the front. -/
def leading? (among : List String) (cs : Raw) : Option (String × Raw) :=
  (among.find? fun s => s.toList.isPrefixOf cs).map fun s => (s, cs.drop s.length)

/-- Whether a character ends a word outside of quotes. -/
def endsWord (c : Char) : Bool := " \t\n;&|<>()".toList.contains c

/-! ### Words -/

/-- How a word is read on. -/
inductive Quoting where
  | bare
  | single
  | double
  /-- As in a text that stands on lines of its own. -/
  | lines
  deriving DecidableEq

/-- Puts more in front of what has been read. -/
def prepend (front : Raw) (read : Raw × Raw) : Raw × Raw := (front ++ read.1, read.2)

/-- The text up to the bracket that closes it, and what follows, or whether the text ends inside of
quotes. Quotes hide brackets. -/
def readBalanced (opening closing : Char) : (depth : Nat) → Quoting → Raw → Except Bool (Raw × Raw)
  | _, quoting, [] => .error (quoting ≠ .bare)
  | depth, .single, c :: cs =>
    (readBalanced opening closing depth (if c = '\'' then .bare else .single) cs).map (prepend [c])
  | depth, quoting, '\\' :: c :: cs =>
    (readBalanced opening closing depth quoting cs).map (prepend ['\\', c])
  | depth, .double, c :: cs =>
    (readBalanced opening closing depth (if c = '"' then .bare else .double) cs).map (prepend [c])
  | depth, quoting, c :: cs =>
    if c = '\'' then (readBalanced opening closing depth .single cs).map (prepend [c])
    else if c = '"' then (readBalanced opening closing depth .double cs).map (prepend [c])
    else if c = closing then
      if depth = 0 then .ok ([], cs)
      else (readBalanced opening closing (depth - 1) quoting cs).map (prepend [c])
    else
      (readBalanced opening closing (if c = opening then depth + 1 else depth) quoting cs).map (prepend [c])

/-- The text up to the closing backquote, with the backslashes in front of some characters dropped. -/
def readBackquoted (double : Bool) : Raw → Option (Raw × Raw)
  | [] => none
  | '\x60' :: cs => some ([], cs)
  | '\\' :: c :: cs =>
    let dropped := ['$', '\x60', '\\'].contains c || (double && c = '"')
    (readBackquoted double cs).map (prepend (if dropped then [c] else ['\\', c]))
  | c :: cs => (readBackquoted double cs).map (prepend [c])

/-- The parameters whose names are no letters. -/
def specialParameters : Raw := "@*#?-$!".toList

/-- The treatment that stands after the name of a parameter. -/
def treatmentOf (cs : Raw) : Treatment :=
  let repair? : Char → Option Repair
    | '-' => some .default
    | '=' => some .assign
    | '?' => some .complain
    | '+' => some .instead
    | _ => none
  match cs with
  | [] => .plain
  | '%' :: '%' :: w => .trim true true w
  | '%' :: w => .trim true false w
  | '#' :: '#' :: w => .trim false true w
  | '#' :: w => .trim false false w
  | ':' :: c :: w =>
    match repair? c with
    | some kind => .repair kind true w
    | none => .unknown
  | c :: w =>
    match repair? c with
    | some kind => .repair kind false w
    | none => .unknown

/-- The name of a parameter at the front, and what follows it. -/
def readName (cs : Raw) : Raw × Raw :=
  match cs with
  | [] => ([], [])
  | c :: rest =>
    if specialParameters.contains c then ([c], rest)
    else if c.isDigit then spanDigits 10 cs
    else (cs.takeWhile Raw.isNameChar, cs.dropWhile Raw.isNameChar)

/-- The expansion between braces. -/
def bracedExpansion (cs : Raw) : Expansion :=
  match cs with
  | '#' :: c :: rest =>
    let (name, more) := readName (c :: rest)
    if more.isEmpty && !name.isEmpty then .parameter name .length
    else .parameter ['#'] (treatmentOf (c :: rest))
  | _ =>
    let (name, more) := readName cs
    .parameter name (if name.isEmpty then .unknown else treatmentOf more)

/-- Reads what is put in after a dollar sign; `none` if the sign stands for itself. -/
def readExpansion (quoted : Bool) (cs : Raw) : Except SyntaxFault (Option (Expansion × Raw)) :=
  match cs with
  | '(' :: '(' :: rest =>
    match readBalanced '(' ')' 0 .bare rest with
    | .ok (inner, ')' :: rest) => .ok (some (.arithmetic inner, rest))
    | _ => .error "Missing '))'"
  | '(' :: rest =>
    match readBalanced '(' ')' 0 .bare rest with
    | .ok (inner, rest) => .ok (some (.output inner, rest))
    | .error inQuotes =>
      .error (if inQuotes then "Unterminated quoted string" else "end of file unexpected (expecting \")\")")
  | '\x7b' :: rest =>
    match readBalanced '\x7b' '\x7d' 0 .bare rest with
    | .ok (inner, rest) => .ok (some (bracedExpansion inner, rest))
    | .error _ => .error (if quoted then "Unterminated quoted string" else "Missing '\x7d'")
  | cs =>
    -- Without braces one digit is a name.
    let (name, rest) := match cs with
      | c :: rest => if c.isDigit then ([c], rest) else readName cs
      | [] => ([], [])
    .ok (if name.isEmpty then none else some (.parameter name .plain, rest))

/-- Reads a word up to its end, or a whole text that ends nowhere before; `fuel` bounds the number of
characters. -/
def readWord (whole : Bool) : (fuel : Nat) → Quoting → Raw → Except SyntaxFault (Word × Raw)
  | 0, _, cs => .ok ([], cs)
  | _, .bare, [] => .ok ([], [])
  | _, .lines, [] => .ok ([], [])
  | _, _, [] => .error "Unterminated quoted string"
  | fuel + 1, quoting, c :: cs =>
    let goOn (quoting : Quoting) (first : List Part) (rest : Raw) : Except SyntaxFault (Word × Raw) :=
      (readWord whole fuel quoting rest).map fun (w, rest) => (first ++ w, rest)
    let quoted := quoting ≠ .bare
    match quoting, c with
    | .bare, '\'' => goOn .single [.quote] cs
    | .bare, '"' => goOn .double [.quote] cs
    | .single, '\'' => goOn .bare [] cs
    | .double, '"' => goOn .bare [] cs
    | .single, c => goOn .single [.char c true] cs
    | _, '\\' =>
      match cs with
      | [] => goOn quoting [.char '\\' true] []
      | '\n' :: cs => goOn quoting [] cs
      | d :: cs =>
        if !quoted then goOn quoting [.char d true] cs
        else if ['$', '\x60', '\\'].contains d || (d = '"' && quoting = .double) then
          goOn quoting [.char d true] cs
        else goOn quoting [.char '\\' true, .char d true] cs
    | _, '$' =>
      match readExpansion (quoting = .double) cs with
      | .error e => .error e
      | .ok (some (e, rest)) => goOn quoting [.expand e quoted] rest
      | .ok none => goOn quoting [.char '$' quoted] cs
    | _, '\x60' =>
      match readBackquoted (quoting = .double) cs with
      | some (script, rest) => goOn quoting [.expand (.output script) quoted] rest
      | none => .error "EOF in backquote substitution"
    | .bare, c => if endsWord c && !whole then .ok ([], c :: cs) else goOn .bare [.char c false] cs
    | _, c => goOn quoting [.char c true] cs

/-! ### Tokens -/

namespace Cursor

/-- The beginning of a script. -/
def ofScript (script : Raw) : Cursor := ⟨script, 1, [], []⟩

/-- The cursor after a part of the script. -/
def goTo (c : Cursor) (rest : Raw) : Cursor :=
  let read := c.rest.take (c.rest.length - rest.length)
  { c with rest, line := c.line + read.count '\n' }

/-- Reads the lines of an announced text. -/
def readLines (a : Announced) : (fuel : Nat) → Raw → Raw × Raw
  | 0, cs => ([], cs)
  | _, [] => ([], [])
  | fuel + 1, cs =>
    let line := cs.takeWhile (· ≠ '\n')
    let rest := (cs.dropWhile (· ≠ '\n')).drop 1
    let line := if a.stripsTabs then line.dropWhile (· = '\t') else line
    let broken := cs.contains '\n'
    if line = a.delimiter then ([], rest)
    else prepend (if broken then line ++ ['\n'] else line) (readLines a fuel rest)

/-- Reads the announced texts, which begin here. -/
def takeTexts (c : Cursor) : Cursor :=
  c.announced.foldl
    (fun c a =>
      let (text, rest) := readLines a (c.rest.length + 1) c.rest
      { c.goTo rest with texts := (a.index, text) :: c.texts })
    { c with announced := [] }

/-- Skips blanks, comments and broken lines; `fuel` bounds the number of characters. -/
def skip : (fuel : Nat) → Raw → Raw
  | fuel + 1, ' ' :: cs | fuel + 1, '\t' :: cs | fuel + 1, '\\' :: '\n' :: cs => skip fuel cs
  | fuel + 1, '#' :: cs => skip fuel (cs.dropWhile (· ≠ '\n'))
  | _, cs => cs

/-- The next token. -/
def token (c : Cursor) : Except SyntaxFault (Token × Cursor) :=
  let c := c.goTo (skip (c.rest.length + 1) c.rest)
  match c.rest with
  | [] => .ok (.ended, c)
  | '\n' :: rest => .ok (.newline, (c.goTo rest).takeTexts)
  | d :: rest =>
    match leading? redirections c.rest, if d.isDigit then leading? redirections rest else none with
    | some (sign, rest), _ => .ok (.redirect none sign, c.goTo rest)
    | none, some (sign, rest) => .ok (.redirect (some (d.toNat - '0'.toNat)) sign, c.goTo rest)
    | none, none =>
      match leading? operators c.rest with
      | some (sign, rest) => .ok (.operator sign, c.goTo rest)
      | none => (readWord false (c.rest.length + 1) .bare c.rest).map fun (w, rest) => (.word w, c.goTo rest)

end Cursor

end LinkKeeper.Shell
