import LinkKeeper.Host.Condition
import LinkKeeper.Host.Formats
import LinkKeeper.Host.Shell.Parser
import LinkKeeper.Host.Shell.State

/-!
The commands that a shell runs by itself, those apart that run other commands.

* `Builtins.find?`: the command of a name.
-/

namespace LinkKeeper.Shell

namespace Builtins

open Text

/-- A command, given its arguments. -/
abbrev Builtin := List Raw → Run Unit

/-- The number that is a word in decimal digits, if it is not too large. -/
def number? (w : Raw) : Option Nat :=
  if w.isEmpty || !(w.all Char.isDigit) then none
  else if ofDigits 10 w ≤ 0x7FFFFFFF then some (ofDigits 10 w) else none

/-- The number that is a word; any other word is a fault. -/
def number (w : Raw) : Run Nat :=
  match number? w with
  | some n => return n
  | none => Run.fail 2 ("Illegal number: ".toList ++ w)

/-- Writes to the output, which may be closed. -/
def put (r : Raw) : Run Unit := do
  Run.setStatus 0
  if !(← Run.write 1 r) then
    Run.complain (((← get).caller.getD []) ++ ": I/O error".toList)
    Run.setStatus 1

/-- The escapes that are always replaced. -/
def escapes : Escapes := FormatDialect.shell.argumentEscapes

def echo : Builtin
  | ['-', 'n'] :: words => put (line words).1
  | words => do
    let (printed, stopped) := line words
    put (if stopped then printed else printed ++ ['\n'])
where
  /-- The words with their escapes replaced, and whether printing stops there. -/
  line (words : List Raw) : Raw × Bool :=
    let written := [' '].intercalate words
    let (printed, stopped, _) := escapes.expand (written.length + 1) written
    (printed, stopped)

def printf : Builtin
  | [] => usage
  | w :: rest =>
    match w, rest with
    | ['-', '-'], [] => usage
    | ['-', '-'], format :: rest => printAll format rest
    | '-' :: c :: _, _ => Run.fail 2 ("Illegal option -".toList ++ [c])
    | format, rest => printAll format rest
where
  usage : Run Unit := Run.fail 2 "usage: printf format [arg ...]".toList
  /-- Prints by a format. -/
  printAll (format : Raw) (rest : List Raw) : Run Unit := do
    let p := Formats.print .shell format rest
    p.complaints.forM Run.complain
    put p.output
    if p.status ≠ 0 then Run.setStatus p.status

/-- Tests a condition. -/
def test (words : List Raw) : Run Unit :=
  match Condition.holds? words with
  | .ok b => Run.setStatus (if b then 0 else 1)
  | .error fault => Run.fail 2 fault

def bracket (words : List Raw) : Run Unit :=
  if words.getLast? = some [']'] then test words.dropLast else Run.fail 2 "missing ]".toList

/-- The status that is asked for, or the last one. -/
def statusOf : List Raw → Run Nat
  | [] => return (← get).status
  | w :: _ => number w

def exit (arguments : List Raw) : Run Unit := do throw (.exits (← statusOf arguments))

def leave (arguments : List Raw) : Run Unit := do
  Run.setStatus (← statusOf arguments)
  throw .returns

/-- Leaves loops, as many as there are at most. -/
def leaveLoops (goesOn : Bool) (arguments : List Raw) : Run Unit := do
  let count ← match arguments with
    | [] => pure 1
    | w :: _ => number w
  if count = 0 then Run.fail 2 ("Illegal number: ".toList ++ arguments.head?.getD [])
  let loops := (← get).loops
  Run.setStatus 0
  if loops ≠ 0 then throw (.leavesLoops (min count loops) goesOn)

/-- Drops arguments from the front. -/
def shift (arguments : List Raw) : Run Unit := do
  let count ← match arguments with
    | [] => pure 1
    | w :: _ => number w
  if (← get).arguments.length < count then Run.fail 2 "can't shift that many".toList
  modify fun s => { s with arguments := s.arguments.drop count, status := 0 }

/-- The names of the options with their letters. -/
def optionNames : List (String × Char) :=
  [("errexit", 'e'), ("noglob", 'f'), ("noexec", 'n'), ("xtrace", 'x'), ("verbose", 'v'),
    ("noclobber", 'C'), ("allexport", 'a'), ("notify", 'b'), ("nounset", 'u'), ("ignoreeof", 'I'),
    ("monitor", 'm'), ("stdin", 's'), ("interactive", 'i'), ("vi", 'V'), ("emacs", 'E')]

/-- Turns options on or off by their letters. What else is given is left over, and whether the letter
for a script is among them is told. -/
def setOptions (mayRun : Bool) : List Raw → Run (List Raw × Bool × Bool)
  | [] => return ([], false, false)
  | w :: rest => do
    match w with
    | sign :: letters =>
      if sign ≠ '-' && sign ≠ '+' then return (w :: rest, false, false)
      else if letters.isEmpty then return (rest, false, false)
      else if letters = ['-'] then return (rest, false, true)
      else
        let mut named := false
        let mut runs := false
        for c in letters do
          if c = 'o' then named := true
          else if c = 'c' && mayRun then runs := true
          else change (sign = '-') c
        if named then
          match rest with
          | name :: more =>
            match optionNames.lookup (String.ofList name) with
            | some c => change (sign = '-') c
            | none => Run.fail 2 ("Illegal option -o ".toList ++ name)
            let (left, alsoRuns, ended) ← setOptions mayRun more
            return (left, runs || alsoRuns, ended)
          | [] => return ([], runs, false)
        let (left, alsoRuns, ended) ← setOptions mayRun rest
        return (left, runs || alsoRuns, ended)
    | [] => return (w :: rest, false, false)
where
  /-- Turns one option on or off. -/
  change (on : Bool) (c : Char) : Run Unit := do
    if !(optionNames.any (·.2 = c)) then Run.fail 2 ("Illegal option -".toList ++ [c])
    modify fun s =>
      let others := s.options.filter (· ≠ c)
      { s with options := if on then others ++ [c] else others }

/-- Sets options and arguments. -/
def setAll (words : List Raw) : Run Unit := do
  let (left, _, ended) ← setOptions false words
  Run.setStatus 0
  if !left.isEmpty || ended then modify fun s => { s with arguments := left }

/-- The name of a variable and the value that it is to have. -/
def nameAndValue (w : Raw) : Run (Raw × Option Raw) := do
  let name := w.takeWhile (· ≠ '=')
  if !Raw.isName name then Run.fail 2 (name ++ ": bad variable name".toList)
  return (name, if name.length < w.length then some (w.drop (name.length + 1)) else none)

/-- Gives variables values, and marks them. -/
def declare (mark : Raw → State → State) (words : List Raw) : Run Unit := do
  for w in words.filter fun w => w.head? ≠ some '-' do
    let (name, value) ← nameAndValue w
    if let some value := value then Run.assign name value
    modify (mark name)
  Run.setStatus 0

/-- Makes variables belong to the function that is running. -/
def declareLocal (words : List Raw) : Run Unit := do
  if (← get).locals.isEmpty then Run.fail 2 "not in a function".toList
  for w in words do
    let (name, value) ← nameAndValue w
    modify fun s =>
      let former := (name, s.bindings.lookup name)
      { s with locals := match s.locals with
        | inner :: outer => (former :: inner) :: outer
        | [] => [] }
    if let some value := value then Run.assign name value
  Run.setStatus 0

def unset (words : List Raw) : Run Unit := do
  let (functions, names) := match words with
    | ['-', 'f'] :: names => (true, names)
    | ['-', 'v'] :: names => (false, names)
    | names => (false, names)
  for name in names do
    if functions then modify fun s => { s with functions := s.functions.filter (·.1 ≠ name) }
    else
      if !Raw.isName name then Run.fail 2 (name ++ ": bad variable name".toList)
      if (← get).frozen.contains name then Run.fail 2 (name ++ ": is read only".toList)
      modify (·.unbind name)
  Run.setStatus 0

/-- Cuts a line into values for variables; the last one takes all that is left. -/
def cut (separators : Raw) : (names : List Raw) → Raw → List (Raw × Raw)
  | [], _ => []
  | name :: more, r =>
    let blank (c : Char) : Bool := separators.contains c && [' ', '\t', '\n'].contains c
    let r := r.dropWhile blank
    if more.isEmpty then [(name, (r.reverse.dropWhile blank).reverse)]
    else
      let field := r.takeWhile (!separators.contains ·)
      let rest := (r.drop field.length).dropWhile blank
      let rest := match rest with
        | c :: after =>
          if separators.contains c && !([' ', '\t', '\n'].contains c) then after else rest
        | [] => []
      (name, field) :: cut separators more rest

/-- Reads a line into variables. A backslash hides what comes after it. -/
def read (words : List Raw) : Run Unit := do
  let (plain, names) := match words with
    | ['-', 'r'] :: names => (true, names)
    | names => (false, names)
  if names.isEmpty then Run.fail 2 "arg count".toList
  if let some wrong := names.find? (!Raw.isName ·) then
    Run.fail 2 (wrong ++ ": bad variable name".toList)
  let (line, ended) ← if plain then Run.readLine 0 else joined 1000 []
  for (name, value) in cut (← get).separators names line do Run.assign name value
  Run.setStatus (if ended then 0 else 1)
where
  /-- Reads lines that are joined by backslashes; `fuel` bounds their number. -/
  joined : (fuel : Nat) → Raw → Run (Raw × Bool)
    | 0, r => return (r, false)
    | fuel + 1, r => do
      let (line, ended) ← Run.readLine 0
      let (line, open?) := unescape line
      if open? && ended then joined fuel (r ++ line) else return (r ++ line, ended)
  /-- A line without its backslashes, and whether one is the last of its characters. -/
  unescape : Raw → Raw × Bool
    | [] => ([], false)
    | ['\\'] => ([], true)
    | '\\' :: c :: cs => (unescape cs).map (c :: ·) id
    | c :: cs => (unescape cs).map (c :: ·) id

/-! ### Signals -/

/-- The name of a signal, or its number if it has no name here. -/
def signalName (n : Nat) : Raw :=
  if n = 0 then "EXIT".toList
  else if n = 34 then "RTMIN".toList
  else if n = 64 then "RTMAX".toList
  else if 34 < n && n < 50 then "RTMIN+".toList ++ Raw.ofNat (n - 34)
  else if 50 ≤ n && n < 64 then "RTMAX-".toList ++ Raw.ofNat (64 - n)
  else
    match signalNames[n - 1]? with
    | some "STKFLT" | none => Raw.ofNat n
    | some name => name.toList

/-- The number of a signal, given by its number or its name. -/
def signal? (w : Raw) : Option Nat :=
  if w.all Char.isDigit then (number? w).filter (· ≤ 64)
  else (List.range 65).find? fun n => signalName n = w.map Char.toUpper

/-- The signals that a process does not mind: those for children, going on, urgent input and the size
of the window. -/
def harmless : List Nat := [17, 18, 23, 28]

/-- Takes a signal. -/
def receive (n : Nat) : Run Unit := do
  let s ← get
  match if n = 9 then none else s.traps.lookup n with
  | some [] => return
  | some _ => set { s with pending := s.pending ++ [n] }
  | none =>
    if let some signal := Signal.ofNumber? n then
      if !harmless.contains n then throw (.killed signal)

/-- Sends a signal to processes. None is known but the shell itself. -/
def send (n : Nat) (words : List Raw) : Run Unit := do
  let words := if words.head? = some "--".toList then words.tail else words
  if words.isEmpty then usage
  Run.setStatus 0
  for w in words do
    -- A dash in front asks for a group of processes, and there is none.
    let grouped := w.head? = some '-'
    if (← number (if grouped then w.tail else w)) = State.processNumber && !grouped then receive n
    else
      Run.complain "No such process\n".toList
      Run.setStatus 1
where
  usage : Run Unit :=
    Run.fail 2 ("Usage: kill [-s sigspec | -signum | -sigspec] [pid | job]... or\n" ++
      "kill -l [exitstatus]").toList

def kill (words : List Raw) : Run Unit := do
  match words with
  | ['-', 'l'] :: rest => list rest
  | ['-', 's'] :: name :: rest =>
    match signal? name with
    | some n => send n rest
    | none => Run.fail 2 ("invalid signal number or name: ".toList ++ name)
  | ['-', 's'] :: [] => Run.fail 2 "No arg for -s option".toList
  | ['-', '-'] :: _ => send 15 words
  | ('-' :: c :: name) :: rest =>
    match signal? (c :: name) with
    | some n => send n rest
    | none => Run.fail 2 ("Illegal option -".toList ++ [c])
  | _ => send 15 words
where
  /-- Lists the signals, or names the one that a status tells of. -/
  list : List Raw → Run Unit
    | [] => put ((List.range 65).flatMap fun n =>
        (if n = 0 then ['0'] else signalName n) ++ ['\n'])
    | w :: _ => do
      let n ← number w
      let n := if 128 < n then n - 128 else n
      if 0 < n && n ≤ 64 then put (signalName n ++ ['\n'])
      else Run.fail 2 ("invalid signal number or exit status: ".toList ++ w)

/-- Says what is to be done on signals. -/
def trap (words : List Raw) : Run Unit := do
  let words := if words.head? = some "--".toList then words.tail else words
  Run.setStatus 0
  match words with
  | [] =>
    let traps := (← get).traps
    put ((List.range 65).flatMap fun n =>
      match traps.lookup n with
      | some action => "trap -- ".toList ++ quoted action ++ [' '] ++ signalName n ++ ['\n']
      | none => [])
  | [w] => setAll none [w]
  | action :: signals => setAll (if action = ['-'] then none else some action) signals
where
  /-- A text between quotes. -/
  quoted (r : Raw) : Raw :=
    '\'' :: r.flatMap (fun c => if c = '\'' then "'\"'\"'".toList else [c]) ++ ['\'']
  /-- Sets or drops what is done on each of some signals. -/
  setAll (action : Option Raw) (signals : List Raw) : Run Unit := do
    for w in signals do
      match signal? w with
      | some n =>
        modify fun s =>
          let others := s.traps.filter (·.1 ≠ n)
          { s with traps := match action with
            | some a => (n, a) :: others
            | none => others }
      | none =>
        let _ ← Run.write 2 ("trap: ".toList ++ w ++ ": bad trap\n".toList)
        Run.setStatus 1

/-! ### Directories -/

def changeDirectory (words : List Raw) : Run Unit := do
  match words.filter fun w => w.head? ≠ some '-' with
  | [] => Run.setStatus 0
  | w :: _ =>
    let path := String.ofList w
    let s ← get
    let path := if path.startsWith "/" then path else s.directory ++ "/" ++ path
    match HostFiles.open? path, HostFiles.placeOf path with
    | .ok .directory, .ok place =>
      set { s with directory := "/" ++ "/".intercalate place, status := 0 }
    | _, _ => Run.fail 2 ("can't cd to ".toList ++ w)

def printDirectory : Builtin := fun _ => do put ((← get).directory.toList ++ ['\n'])

/-- The statuses of commands in the background, all of which have ended. -/
def wait (words : List Raw) : Run Unit := do
  let background := (← get).background
  let statuses ← words.mapM fun w => do
    let n ← number w
    let place := State.processNumber + background.length - n
    return if n ≤ State.processNumber then 127 else background.getD place 127
  Run.setStatus (statuses.getLast?.getD 0)

/-- The commands by their names. -/
def all : List (String × Builtin) :=
  [(":", fun _ => Run.setStatus 0), ("true", fun _ => Run.setStatus 0),
    ("false", fun _ => Run.setStatus 1), ("echo", echo), ("printf", printf), ("test", test),
    ("[", bracket), ("exit", exit), ("return", leave), ("break", leaveLoops false),
    ("continue", leaveLoops true), ("shift", shift), ("set", setAll),
    ("export", declare fun name s => { s with exported := name :: s.exported.filter (· ≠ name) }),
    ("readonly", declare fun name s => { s with frozen := name :: s.frozen }),
    ("local", declareLocal), ("unset", unset), ("read", read), ("kill", kill), ("trap", trap),
    ("cd", changeDirectory), ("pwd", printDirectory), ("wait", wait),
    ("hash", fun _ => Run.setStatus 0), ("alias", fun _ => Run.setStatus 0),
    ("jobs", fun _ => Run.setStatus 0)]

/-- The command of a name. -/
def find? (name : Raw) : Option Builtin := all.lookup (String.ofList name)

end Builtins

end LinkKeeper.Shell
