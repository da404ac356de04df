import LinkKeeper.Host.Shell.Arithmetic
import LinkKeeper.Host.Shell.Lexer
import LinkKeeper.Host.Shell.Pattern
import LinkKeeper.Host.Shell.State

/-!
What the words of a command become: parameters, the output of commands and the values of expressions
are put in, and what has been put in outside of quotes is split into fields.

* `Fields.ofWord`: the fields of a word.
* `Fields.text`, `Fields.pattern`: a word that is not split.
-/

namespace LinkKeeper.Shell

namespace Fields

/-- A part of a word in which everything has been put in. -/
inductive Piece where
  | char (c : Char) (quoted : Bool)
  /-- A character that was put in outside of quotes: it may stand between two fields. -/
  | soft (c : Char)
  /-- A quote was here: the field is there even if it is empty. -/
  | quote
  /-- A field ends here. -/
  | gap
  /-- There were no arguments to put in between quotes. -/
  | nothing
  deriving DecidableEq

/-- How commands are run whose output is put in. -/
abbrev Runner := Raw → Run Unit

/-- The pieces of a value. -/
def piecesOf (quoted : Bool) (value : Raw) : List Piece :=
  value.map fun c => if quoted then .char c true else .soft c

/-- The characters of pieces. -/
def characters (pieces : List Piece) : Raw :=
  pieces.filterMap fun
    | .char c _ | .soft c => some c
    | .gap => some ' '
    | _ => none

/-- The output of a script without the line ends behind it. -/
def output (run : Runner) (script : Raw) : Run Raw := do
  let (ending, written) ← Run.captured do
    modify fun s => { s with tested := false }
    run script
  match ending with
  | .exited n => modify fun s => { s with substituted := some n.toNat }
  | .killed signal => throw (.killed signal)
  return ((written.filter (· ≠ '\x00')).reverse.dropWhile (· = '\n')).reverse

/-- The arguments, each as a field of its own. -/
def arguments (joined quoted : Bool) : Run (List Piece) := do
  let s ← get
  if joined && quoted then
    return piecesOf true ((s.separators.take 1).intercalate s.arguments)
  else if quoted then
    if s.arguments.isEmpty then return [.nothing]
    else return [Piece.gap, .quote].intercalate (s.arguments.map (piecesOf true))
  else return [Piece.gap].intercalate (s.arguments.map (piecesOf false))

/-- What is wrong with a parameter that is not set. -/
def refuseUnset {α : Type} (name : Raw) : Run α :=
  Run.failAtLarge (name ++ ": parameter not set".toList)

/-- The value of a parameter, which may have to be set. -/
def value (name : Raw) : Run Raw := do
  let s ← get
  match s.parameter? name with
  | some r => return r
  | none =>
    if s.options.contains 'u' && !specialParameters.contains (name.head?.getD '@') then refuseUnset name
    else return []

/-- The parts of a word that is kept as it is written. -/
def readKept (quoted : Bool) (r : Raw) : Run Word :=
  match readWord true (r.length + 1) (if quoted then .lines else .bare) r with
  | .ok (w, _) => return w
  | .error message => Run.failAtLarge ("Syntax error: ".toList ++ message.toList)

mutual

/-- The pieces of a word; `fuel` bounds how deep words stand in one another. -/
def pieces (run : Runner) : (fuel : Nat) → Word → Run (List Piece)
  | 0, _ => return []
  | fuel + 1, w => w.foldlM (fun done part => return done ++ (← piecesOfPart run fuel part)) []

/-- The pieces of a part of a word. -/
def piecesOfPart (run : Runner) : (fuel : Nat) → Part → Run (List Piece)
  | _, .char c quoted => return [.char c quoted]
  | _, .quote => return [.quote]
  | 0, _ => return []
  | _, .expand (.output script) quoted => return piecesOf quoted (← output run script)
  | fuel + 1, .expand (.arithmetic expression) quoted => do
    let w ← readKept true expression
    let expression := characters (← pieces run fuel w)
    let s ← get
    match Arithmetic.evaluate (fun name => (s.parameter? name).getD []) expression with
    | .error e => Run.failAtLarge (e.message expression)
    | .ok (i, assigned) =>
      assigned.reverse.forM fun (name, r) => Run.assign name r
      return piecesOf quoted (Raw.ofInt i)
  | fuel + 1, .expand (.parameter name treatment) quoted => do
    let s ← get
    let all := name = ['@'] || name = ['*']
    let plain : Run (List Piece) := do
      if all then arguments (name = ['*']) quoted else return piecesOf quoted (← value name)
    let present (emptyToo : Bool) : Bool := (s.parameter? name).any fun r => !(emptyToo && r.isEmpty)
    let instead (r : Raw) : Run (List Piece) := do
      let w ← readKept quoted r
      return (← pieces run fuel w).map fun
        | .char c false => if quoted then .char c true else .soft c
        | p => p
    match treatment with
    | .plain => plain
    | .unknown => Run.failAtLarge "Bad substitution".toList
    | .length => return piecesOf quoted (Raw.ofNat (← value name).length)
    | .trim atEnd longest r =>
      let whole ← value name
      let p := (← pieces run fuel (← readKept false r)).filterMap fun
        | .char c q => some (c, q)
        | .soft c => some (c, false)
        | _ => none
      return piecesOf quoted (Pattern.trim p atEnd longest whole)
    | .repair .instead emptyToo r => if present emptyToo then instead r else return []
    | .repair .default emptyToo r => if present emptyToo then plain else instead r
    | .repair .assign emptyToo r =>
      if present emptyToo then plain
      else if !Raw.isName name then Run.failAtLarge (name ++ ": bad variable name".toList)
      else do
        Run.assign name (characters (← instead r))
        plain
    | .repair .complain emptyToo r =>
      if present emptyToo then plain
      else if r.isEmpty then
        Run.failAtLarge (name ++
          (if emptyToo then ": parameter not set or null" else ": parameter not set").toList)
      else do
        let said := characters (← instead r)
        Run.failAtLarge (name ++ ": ".toList ++ said)

end

/-- The pieces of a word. -/
def piecesOfWord (run : Runner) (w : Word) : Run (List Piece) := pieces run 1000 w

/-- A word that is not split. -/
def text (run : Runner) (w : Word) : Run Raw := return characters (← piecesOfWord run w)

/-- A pattern. -/
def pattern (run : Runner) (w : Word) : Run Pattern :=
  return (← piecesOfWord run w).filterMap fun
    | .char c q => some (c, q)
    | .soft c => some (c, false)
    | _ => none

/-- Splits pieces into fields. A blank separator counts only between fields, and together with another
one it is one. -/
def split (separators : Raw) (current : Option Raw) (blankBefore : Bool) : List Piece → List Raw
  | [] => current.toList
  | .char c _ :: ps => split separators (some (current.getD [] ++ [c])) false ps
  | .quote :: ps => split separators (some (current.getD [])) false ps
  | .nothing :: ps => split separators current blankBefore ps
  | .gap :: ps => current.toList ++ split separators none false ps
  | .soft c :: ps =>
    if !separators.contains c then split separators (some (current.getD [] ++ [c])) false ps
    else if [' ', '\t', '\n'].contains c then
      current.toList ++ split separators none (blankBefore || current.isSome) ps
    else
      (if current.isNone && blankBefore then [] else [current.getD []]) ++ split separators none false ps

/-- The fields of a word. -/
def ofWord (run : Runner) (w : Word) : Run (List Raw) := do
  let ps ← piecesOfWord run w
  let ps := if ps.contains .nothing then ps.filter (· ≠ .quote) else ps
  return split (← get).separators none false ps

end Fields

end LinkKeeper.Shell
