import LinkKeeper.Host.Programs
import LinkKeeper.Host.Shell.Builtins
import LinkKeeper.Host.Shell.Fields

/-!
Running a shell: its commands, and the programs and shells that they start.

* `Shell.run`: what a shell writes that is started under a name, and how it ends.
-/

namespace LinkKeeper.Shell

/-- What is run. -/
inductive Task where
  | script (text : Raw)
  | command (c : Command)

/-- How tasks are run that come up in another one. -/
abbrev Worker := Task → Run Unit

namespace Worker

/-- How scripts are run whose output is put into words. -/
def runner (again : Worker) : Fields.Runner := fun text => again (.script text)

/-! ### Scripts -/

/-- Runs the commands from a place in a script on, line by line. -/
def lines (again : Worker) : (fuel : Nat) → (ran : Bool) → Cursor → Run Unit
  | 0, _, _ => return
  | fuel + 1, ran, c => do
    if c.isDone then
      if !ran then Run.setStatus 0
      return
    match c.nextLine with
    | .error (line, message) =>
      modify fun s => { s with line }
      Run.fail 2 ("Syntax error: ".toList ++ message.toList)
    | .ok (.sequence [], c) => lines again fuel ran c
    | .ok (command, c) =>
      modify fun s => { s with texts := c.texts }
      if !(← get).options.contains 'n' then again (.command command)
      lines again fuel true c

/-- Runs a script. -/
def script (again : Worker) (text : Raw) : Run Unit := do
  lines again (text.length + 2) false { Cursor.ofScript text with texts := (← get).texts }

/-- Does what is to be done on the signals that have come. -/
def handleSignals (again : Worker) : Run Unit := do
  let s ← get
  set { s with pending := [] }
  for n in s.pending do
    if let some action := s.traps.lookup n then
      again (.script action)
      Run.setStatus s.status

/-- Runs something as a whole process, and then what is to be done at its end. -/
def toItsEnd (again : Worker) (action : Run Unit) : Run Unit := do
  let leave ← tryCatch (action *> return none) fun l => return some l
  let status ← match leave with
    | some (.exits n) => pure n
    | some (.killed n) => throw (.killed n)
    | _ => pure (← get).status
  modify fun s => { s with status, caller := none }
  let traps := (← get).traps
  if let some last := traps.lookup 0 then
    modify fun s => { s with traps := traps.filter (·.1 ≠ 0) }
    again (.script last)
  throw (.exits status)

/-- Runs something as a part of the shell that goes its own way: it keeps the signals that are not to be
minded, but nothing that is to be done on others. -/
def subshell (again : Worker) (action : Run Unit) : Run Unit := do
  modify fun s => { s with traps := s.traps.filter fun t => t.1 ≠ 0 && t.2.isEmpty }
  toItsEnd again action

/-! ### Redirections -/

/-- What a descriptor is to stand for. -/
inductive Goal where
  | file (reads : Bool) (path : Raw)
  | like (descriptor : Option Nat)
  | text (r : Raw)

/-- What a redirection asks for, with its words read. -/
def goal (again : Worker) (r : Redirect) : Run (Nat × Goal) := do
  match r.target with
  | .fileToRead w => return (r.descriptor, .file true (← Fields.text again.runner w))
  | .fileToWrite w => return (r.descriptor, .file false (← Fields.text again.runner w))
  | .descriptor w =>
    match ← Fields.text again.runner w with
    | ['-'] => return (r.descriptor, .like none)
    | [c] =>
      if c.isDigit then return (r.descriptor, .like (some (c.toNat - '0'.toNat)))
      else Run.failAtLarge "Syntax error: Bad fd number".toList
    | _ => Run.failAtLarge "Syntax error: Bad fd number".toList
  | .text index expands =>
    let text := ((← get).texts.lookup index).getD []
    if !expands then return (r.descriptor, .text text)
    match readWord true (text.length + 1) .lines text with
    | .ok (w, _) => return (r.descriptor, .text (← Fields.text again.runner w))
    | .error message => Run.failAtLarge ("Syntax error: ".toList ++ message.toList)

/-- The descriptor that a path leads to. -/
def descriptorAt? (path : Raw) : Option Nat :=
  [("/dev/stdin", 0), ("/dev/stdout", 1), ("/dev/stderr", 2), ("/dev/fd/0", 0), ("/dev/fd/1", 1),
    ("/dev/fd/2", 2), ("/proc/self/fd/0", 0), ("/proc/self/fd/1", 1),
    ("/proc/self/fd/2", 2)].lookup (String.ofList path)

/-- Opens a file, or tells why it cannot be opened. -/
def openFile (reads : Bool) (path : Raw) : Run Endpoint := do
  let refuse (why : String) : Run Endpoint :=
    Run.failAtLarge ((if reads then "cannot open " else "cannot create ").toList ++ path ++
      ": ".toList ++ why.toList)
  let s ← get
  match (descriptorAt? path).bind fun n => s.descriptors.lookup n with
  | some e => return e
  | none =>
    let parent := ((path.reverse.dropWhile (· ≠ '/')).reverse)
    match HostFiles.open? (String.ofList path), HostFiles.open? (String.ofList parent) with
    | .ok .directory, _ => if reads then return .void else refuse "Is a directory"
    | .ok _, _ => return .void
    | .error .noSuchFile, .ok .directory => if reads then refuse "No such file" else return .void
    | .error .nameTooLong, _ => refuse "File name too long"
    | .error _, _ => refuse (if reads then "No such file" else "Directory nonexistent")

/-- Redirects a descriptor. -/
def redirect (descriptor : Nat) (g : Goal) : Run Unit := do
  let become (e : Endpoint) : Run Unit :=
    modify fun s => { s with descriptors := (descriptor, e) :: s.descriptors.filter (·.1 ≠ descriptor) }
  match g with
  | .file reads path => become (← openFile reads path)
  | .text r => become (← Run.sourceOf r)
  | .like none => modify fun s => { s with descriptors := s.descriptors.filter (·.1 ≠ descriptor) }
  | .like (some n) =>
    match (← get).descriptors.lookup n with
    | some e => become e
    | none => Run.failAtLarge (Raw.ofNat n ++ ": Bad file descriptor".toList)

/-- Redirects descriptors, and tells whether that could be done. -/
def redirectAll (again : Worker) (rs : List Redirect) : Run Bool := do
  let goals ← rs.mapM again.goal
  tryCatch
    (do
      for (descriptor, g) in goals do redirect descriptor g
      return true)
    fun
      | .failed => return false
      | l => throw l

/-- Does something with redirected descriptors, which are as before afterwards. -/
def redirecting (again : Worker) (rs : List Redirect) (action : Bool → Run Unit) : Run Unit := do
  let saved := (← get).descriptors
  Run.withState id (fun s => { s with descriptors := saved }) do action (← redirectAll again rs)

/-! ### Programs -/

/-- What the shell says when a signal has killed a process that it waits for. -/
def causeOfDeath (signal : Signal) : Option String :=
  [(1, "Hangup"), (3, "Quit"), (4, "Illegal instruction"), (5, "Trace/breakpoint trap"), (6, "Aborted"),
    (7, "Bus error"), (8, "Floating point exception"), (9, "Killed"), (10, "User defined signal 1"),
    (11, "Segmentation fault"), (12, "User defined signal 2"), (14, "Alarm clock"),
    (15, "Terminated")].lookup signal.number

/-- Runs a shell that has just been started: its arguments are options and a script, the name of a file
that holds one, or nothing if the script is to be read. -/
def startShell (again : Worker) (name : Raw) (arguments : List Raw) : Run Unit := do
  modify fun s => { State.initial with
    name, sinks := s.sinks, sources := s.sources, descriptors := s.descriptors, directory := s.directory,
    exported := s.exported, bindings := s.bindings.filter fun b => s.exported.contains b.1,
    traps := s.traps.filter fun t => t.1 ≠ 0 && t.2.isEmpty }
  toItsEnd again do
    let (left, runs, _) ← Builtins.setOptions true arguments
    match left, runs with
    | [], true => Run.fail 2 "-c requires an argument".toList
    | text :: rest, true =>
      modify fun s => { s with name := rest.head?.getD name, arguments := rest.tail }
      again (.script text)
    | [], false => again (.script (← Run.readAll 0))
    | file :: rest, false =>
      modify fun s => { s with name := file, arguments := rest }
      match HostFiles.open? (String.ofList file) with
      | .ok _ => return
      | .error _ =>
        modify fun s => { s with name }
        Run.fail 2 ("cannot open ".toList ++ file ++ ": No such file".toList)

/-- Runs a program, as a process of its own if it is a shell. -/
def runProgram (again : Worker) (name : Raw) (arguments : List Raw) (p : HostProgram) : Run ProcessEnd := do
  let reads := p = .concatenate && (arguments.isEmpty || arguments.contains ['-'])
  let input ← if reads then Run.readAll 0 else pure []
  match Programs.print? name arguments input p with
  | none => Run.isolated (startShell again name arguments)
  | some printed =>
    for complaint in printed.complaints do
      let _ ← Run.write 2 (name ++ ": ".toList ++ complaint ++ ['\n'])
    let _ ← Run.write 1 printed.output
    return .exited (.ofNat printed.status)

/-- Runs the program that a name stands for. -/
def runNamed (again : Worker) (name : Raw) (arguments : List Raw) : Run ProcessEnd := do
  let refuse (status : UInt8) (why : String) : Run ProcessEnd := do
    Run.complain (name ++ ": ".toList ++ why.toList)
    return .exited status
  if name.isEmpty then refuse 127 "Permission denied"
  else
    match HostFiles.command? (String.ofList name) with
    | .ok p => runProgram again name arguments p
    | .error .noSuchFile | .error .notADirectory => refuse 127 "not found"
    | .error fault => refuse 126 fault.describe.1

/-- Runs the program that a name stands for, and waits for it. -/
def waitFor (again : Worker) (name : Raw) (arguments : List Raw) : Run Unit := do
  match ← runNamed again name arguments with
  | .exited n => Run.setStatus n.toNat
  | .killed signal =>
    if let some cause := causeOfDeath signal then
      let _ ← Run.write 2 (cause.toList ++ ['\n'])
    Run.setStatus (128 + signal.number)

/-! ### Commands -/

/-- Calls a function. -/
def call (again : Worker) (body : Command) (arguments : List Raw) : Run Unit := do
  let outer ← get
  let restore (s : State) : State :=
    let s := (s.locals.head?.getD []).foldl
      (fun s former => match former.2 with
        | some value => s.bind former.1 value
        | none => s.unbind former.1) s
    { s with arguments := outer.arguments, loops := outer.loops, locals := outer.locals }
  Run.withState (fun s => { s with arguments, loops := 0, locals := [] :: s.locals }) restore
    (tryCatch (again (.command body)) fun
      | .returns => return
      | l => throw l)

/-- Where a command is found. -/
inductive Found where
  | builtin (special : Bool) (run : Builtins.Builtin)
  | function (body : Command)
  | program

/-- Runs a program in place of the shell, or redirects for good. -/
def replace (again : Worker) (words : List Raw) : Run Unit := do
  match words with
  | [] => Run.setStatus 0
  | name :: arguments =>
    match ← runNamed again name arguments with
    | .exited n => throw (.exits n.toNat)
    | .killed signal => throw (.killed signal)

/-- Runs a file as a part of the script. No file with commands in it is known. -/
def runFile (words : List Raw) : Run Unit := do
  match words with
  | [] => Run.setStatus 0
  | name :: _ =>
    match HostFiles.open? (String.ofList name) with
    | .ok _ => Run.setStatus 0
    | .error _ =>
      if name.contains '/' then Run.fail 2 ("cannot open ".toList ++ name ++ ": No such file".toList)
      else Run.fail 2 (name ++ ": not found".toList)

/-- What a name stands for. -/
def find (again : Worker) (functions : List (Raw × Command)) (name : Raw) : Found :=
  let special := specialCommands.contains (String.ofList name)
  if name = "eval".toList then
    .builtin true fun words => again (.script ([' '].intercalate words))
  else if name = "exec".toList then .builtin true (replace again)
  else if name = ['.'] then .builtin true runFile
  else
    match Builtins.find? name, functions.lookup name with
    | some b, none => .builtin special b
    | some b, some body => if special then .builtin true b else .function body
    | none, some body => .function body
    | none, none => .program

/-- Says what a name stands for, in short or in a sentence. -/
def describe (again : Worker) (inShort : Bool) (name : Raw) : Run Unit := do
  let say (r : Raw) : Run Unit := Builtins.put (r ++ ['\n'])
  let sentence (r : String) : Run Unit := say (if inShort then name else name ++ r.toList)
  if keywords.contains (String.ofList name) then sentence " is a shell keyword"
  else
    match find again (← get).functions name with
    | .builtin true _ => sentence " is a special shell builtin"
    | .builtin false _ => sentence " is a shell builtin"
    | .function _ => sentence " is a shell function"
    | .program =>
      match HostFiles.command? (String.ofList name) with
      | .ok _ =>
        let path := if name.contains '/' then name else "/usr/bin/".toList ++ name
        say (if inShort then path else name ++ " is ".toList ++ path)
      | .error _ =>
        if !inShort then say (name ++ ": not found".toList)
        Run.setStatus 127

/-- Says what names stand for. -/
def describeAll (again : Worker) (names : List Raw) : Run Unit := do
  let mut known := true
  for name in names do
    describe again false name
    if (← get).status ≠ 0 then known := false
  Run.setStatus (if known then 0 else 127)

/-- Runs a command by its name, and not a function. -/
def runBuiltin (again : Worker) (special : Bool) (name : Raw) (run : Run Unit) : Run Unit := do
  modify fun s => { s with caller := some name }
  tryCatch run fun
    | .failed => if special then throw .failed else return
    | l => throw l
  modify fun s => { s with caller := none }
  handleSignals again

/-- Runs a command, with its words read. -/
def runWords (again : Worker) (plainly : Bool) (name : Raw) (words : List Raw) : Run Unit := do
  let functions := (← get).functions
  match find again (if plainly then [] else functions) name with
  | .builtin special run => runBuiltin again (special && !plainly) name (run words)
  | .function body => call again body words
  | .program =>
    if name = "type".toList then describeAll again words else waitFor again name words

/-- Runs a command by the command for that. -/
def runByName (again : Worker) : List Raw → Run Unit
  | [] => Run.setStatus 0
  | ['-', 'v'] :: words => match words with
    | w :: _ => describe again true w
    | [] => Run.setStatus 0
  | ['-', 'p'] :: name :: words | ['-', '-'] :: name :: words => runWords again true name words
  | ('-' :: c :: _) :: _ =>
    runBuiltin again false "command".toList (Run.fail 2 ("Illegal option -".toList ++ [c]))
  | name :: words => runWords again true name words

/-- Shows a command before it is run, if that is asked for. -/
def trace (assignments : List (Raw × Raw)) (words : List Raw) : Run Unit := do
  if (← get).options.contains 'x' then
    let shown := assignments.map fun (name, value) => name ++ '=' :: value
    let _ ← Run.write 2 ("+ ".toList ++ [' '].intercalate (shown ++ words) ++ ['\n'])

/-- Runs a simple command. -/
def simple (again : Worker) (assignments : List (Raw × Word)) (words : List Word) (rs : List Redirect) :
    Run Unit := do
  modify fun s => { s with caller := none, substituted := none }
  let fields ← words.foldlM (fun done w => return done ++ (← Fields.ofWord again.runner w)) []
  let assignAll : Run (List (Raw × Raw)) := assignments.mapM fun (name, w) => do
    let value ← Fields.text again.runner w
    Run.assign name value
    return (name, value)
  match fields with
  | [] =>
    redirecting again rs fun opened => do
      if opened then
        trace (← assignAll) []
        Run.setStatus ((← get).substituted.getD 0)
      else Run.setStatus 2
  | name :: words =>
    let lasting := name = "exec".toList && words.isEmpty
    let special := specialCommands.contains (String.ofList name)
    let body (opened : Bool) : Run Unit := do
      if !opened then
        Run.setStatus 2
        if special then throw .failed
      else
        let former ← get
        trace (← assignAll) fields
        -- What a command is given for itself is exported to it, and is gone afterwards.
        let names := assignments.map Prod.fst
        let restore (s : State) : State :=
          names.foldl
            (fun s name => match former.bindings.lookup name with
              | some value => s.bind name value
              | none => s.unbind name)
            { s with exported := former.exported }
        Run.withState (fun s => { s with exported := if special then s.exported else s.exported ++ names })
          (if special then id else restore)
          (if name = "command".toList then runByName again words else runWords again false name words)
    if lasting then body (← redirectAll again rs) else redirecting again rs body

/-- Runs something whose failure is looked at. -/
def tested (again : Worker) (c : Command) : Run Unit := do
  let former := (← get).tested
  Run.withState (fun s => { s with tested := true }) (fun s => { s with tested := former })
    (again (.command c))

/-- Ends the shell after a failure that nobody looks at, if that is asked for. -/
def checkFailure : Run Unit := do
  let s ← get
  if s.options.contains 'e' && !s.tested && s.status ≠ 0 then throw (.exits s.status)

/-- Runs one round of a loop, and tells whether it is the last one. -/
def round (action : Run Unit) : Run Bool := do
  let outer := (← get).loops
  Run.withState (fun s => { s with loops := outer + 1 }) (fun s => { s with loops := outer })
    (tryCatch (action *> return false) fun
      | .leavesLoops count goesOn =>
        if count ≤ 1 then return !goesOn else throw (.leavesLoops (count - 1) goesOn)
      | l => throw l)

/-- Runs a loop as long as a test succeeds, or fails; `fuel` bounds the number of rounds. -/
def whileLoop (again : Worker) (whileFailing : Bool) (test body : Command) :
    (fuel : Nat) → (last : Nat) → Run Unit
  | 0, _ => throw (.killed .kill)
  | fuel + 1, last => do
    let mut finished := false
    let ended ← round (tested again test)
    if ended then return
    if ((← get).status = 0) = whileFailing then finished := true
    if finished then Run.setStatus last
    else if !(← round (again (.command body))) then
      whileLoop again whileFailing test body fuel (← get).status

/-- Runs a loop over words. -/
def forLoop (again : Worker) (name : Raw) (body : Command) : List Raw → Run Unit
  | [] => return
  | w :: ws => do
    Run.assign name w
    if !(← round (again (.command body))) then forLoop again name body ws

/-- Runs the commands of a pipeline, each of which reads what the one before has written. -/
def pipe (again : Worker) (input : Option Raw) : List Command → Run Unit
  | [] => return
  | c :: rest => do
    let action : Run Unit := do
      if let some text := input then
        let e ← Run.sourceOf text
        modify fun s => { s with descriptors := (0, e) :: s.descriptors }
      subshell again (again (.command c))
    if rest.isEmpty then Run.take (← Run.isolated action)
    else
      let (ending, written) ← Run.captured action
      Run.take ending
      pipe again (some written) rest

/-- Runs the first arm of a choice that a text fits to. -/
def choose (again : Worker) (subject : Raw) : List (List Word × Command) → Run Unit
  | [] => Run.setStatus 0
  | (patterns, body) :: rest => do
    let fits ← patterns.anyM fun w => return (← Fields.pattern again.runner w).accepts subject
    if fits then
      Run.setStatus 0
      again (.command body)
    else choose again subject rest

/-- The greatest number of rounds of a loop. -/
def greatestRounds : Nat := 1000000

/-- Runs a command. -/
def command (again : Worker) : Command → Run Unit
  | .simple line assignments words rs => do
    modify fun s => { s with line }
    simple again assignments words rs
    checkFailure
  | .pipeline negated cs => do
    let former := (← get).tested
    Run.withState (fun s => { s with tested := former || negated }) (fun s => { s with tested := former }) do
      match cs with
      | [c] => again (.command c)
      | cs => pipe again none cs
    if negated then Run.setStatus (if (← get).status = 0 then 1 else 0) else checkFailure
  | .both first second => do
    tested again first
    if (← get).status = 0 then again (.command second)
  | .either first second => do
    tested again first
    if (← get).status ≠ 0 then again (.command second)
  | .sequence cs => cs.forM fun c => again (.command c)
  | .background c => do
    let status := match ← Run.isolated (subshell again (again (.command c))) with
      | .exited n => n.toNat
      | .killed signal => 128 + signal.number
    modify fun s => { s with background := status :: s.background, status := 0 }
  | .subshell body rs => do
    let ending ← Run.isolated <| redirecting again rs fun opened =>
      if opened then subshell again (again (.command body)) else throw (.exits 2)
    Run.take ending
    checkFailure
  | .group body rs => redirecting again rs fun opened =>
      if opened then again (.command body) else Run.setStatus 2
  | .conditional test yes no rs => redirecting again rs fun opened => do
      if !opened then Run.setStatus 2
      else
        tested again test
        if (← get).status = 0 then again (.command yes)
        else
          match no with
          | some c => again (.command c)
          | none => Run.setStatus 0
  | .repeated whileFailing test body rs => redirecting again rs fun opened =>
      if opened then whileLoop again whileFailing test body greatestRounds 0 else Run.setStatus 2
  | .each name words body rs => redirecting again rs fun opened => do
      if !opened then Run.setStatus 2
      else
        let fields ← match words with
          | some ws => ws.foldlM (fun done w => return done ++ (← Fields.ofWord again.runner w)) []
          | none => pure (← get).arguments
        Run.setStatus 0
        forLoop again name body fields
  | .choice subject arms rs => redirecting again rs fun opened => do
      if opened then choose again (← Fields.text again.runner subject) arms else Run.setStatus 2
  | .define name body => modify fun s =>
      { s with functions := (name, body) :: s.functions.filter (·.1 ≠ name), status := 0 }

end Worker

/-- Runs a task; `fuel` bounds how deep tasks stand in one another. -/
def Task.run : (fuel : Nat) → Task → Run Unit
  | 0, _ => throw (.killed .segmentationFault)
  | fuel + 1, .script text => Worker.script (Task.run fuel) text
  | fuel + 1, .command c => Worker.command (Task.run fuel) c

/-- How deep tasks may stand in one another. -/
def greatestDepth : Nat := 100000

/-- What a shell writes that is started under a name with arguments, and how it ends. -/
def run (name : Raw) (arguments : List Raw) : ProcessRun :=
  let (ending, s) := (Run.isolated (Worker.startShell (Task.run greatestDepth) name arguments)).run State.initial
  let written (i : Nat) : List Nat := Raw.octets (s.sinks.getD i [])
  ⟨written 0, written 1, ending⟩

end LinkKeeper.Shell
