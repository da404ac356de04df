import LinkKeeper.Host.Process
import LinkKeeper.Host.Shell.Syntax

/-!
What a shell keeps while it runs a script, and the ways in which a command is left.

* `Run`: what a command does: it changes the state, and it may be left before its end.
* `State.parameter?`: the value of a parameter.
* `Run.write`, `Run.complain`, `Run.fail`: output, and faults that are told of.
-/

namespace LinkKeeper.Shell

/-- What a descriptor stands for. -/
inductive Endpoint where
  | void
  /-- Keeps what is written, by the number of its place. -/
  | sink (index : Nat)
  /-- Gives what is read, by the number of its place. -/
  | source (index : Nat)
  deriving DecidableEq, Repr

/-- Why a command is left before its end. -/
inductive Leave where
  | exits (status : Nat)
  | killed (signal : Signal)
  /-- A fault that has been told of. -/
  | failed
  /-- Leaves a number of loops, and goes on with the next round of the last one or not. -/
  | leavesLoops (count : Nat) (goesOn : Bool)
  | returns
  deriving DecidableEq, Repr

structure State where
  name : Raw
  arguments : List Raw
  /-- The number of the line that is run. -/
  line : Nat
  /-- The command that faults are told of for. -/
  caller : Option Raw
  bindings : List (Raw × Raw)
  exported : List Raw
  frozen : List Raw
  functions : List (Raw × Command)
  /-- The texts in the scripts, by the number of their place. -/
  texts : List (Nat × Raw)
  status : Nat
  /-- The status of the last command whose output was put into a word of this one. -/
  substituted : Option Nat
  descriptors : List (Nat × Endpoint)
  sinks : List Raw
  sources : List Raw
  /-- The letters of the options that are on. -/
  options : Raw
  /-- What is done on a signal, or at the end for zero. -/
  traps : List (Nat × Raw)
  /-- The signals that have come and are still to be acted on. -/
  pending : List Nat
  /-- The statuses of the commands in the background, the latest one first. -/
  background : List Nat
  loops : Nat
  /-- The former values of the variables of each function that is running. -/
  locals : List (List (Raw × Option Raw))
  /-- Whether the failure of a command is looked at. -/
  tested : Bool
  directory : String

/-- What a command does. -/
abbrev Run := ExceptT Leave (StateM State)

namespace State

/-- The number of the process. -/
def processNumber : Nat := 4242

/-- A shell that has just been started, with its two outputs. -/
def initial : State where
  name := []
  arguments := []
  line := 0
  caller := none
  bindings := [("PATH".toList, "/usr/local/sbin:/usr/local/bin:/usr/sbin:/usr/bin:/sbin:/bin".toList)]
  exported := ["PATH".toList]
  frozen := []
  functions := []
  texts := []
  status := 0
  substituted := none
  descriptors := [(0, .void), (1, .sink 0), (2, .sink 1)]
  sinks := [[], []]
  sources := []
  options := []
  traps := []
  pending := []
  background := []
  loops := 0
  locals := []
  tested := false
  directory := "/"

/-- The characters between which the fields of a value stand. -/
def separators (s : State) : Raw := (s.bindings.lookup "IFS".toList).getD [' ', '\t', '\n']

/-- The value of a parameter, if it is set. -/
def parameter? (s : State) (name : Raw) : Option Raw :=
  match name with
  | ['?'] => some (Raw.ofNat s.status)
  | ['#'] => some (Raw.ofNat s.arguments.length)
  | ['$'] => some (Raw.ofNat processNumber)
  | ['-'] => some ("ubaCEVvxsnmiIfe".toList.filter s.options.contains)
  | ['!'] =>
    if s.background.isEmpty then none else some (Raw.ofNat (processNumber + s.background.length))
  | ['@'] => if s.arguments.isEmpty then none else some ([' '].intercalate s.arguments)
  | ['*'] =>
    if s.arguments.isEmpty then none else some ((s.separators.take 1).intercalate s.arguments)
  | _ =>
    if name.all Char.isDigit then
      match Text.ofDigits 10 name with
      | 0 => some s.name
      | n + 1 => s.arguments[n]?
    else s.bindings.lookup name

/-- What stands in front of what is told of. -/
def title (s : State) : Raw :=
  let caller := match s.caller with
    | some c => c ++ ": ".toList
    | none => []
  s.name ++ ": ".toList ++ Raw.ofNat s.line ++ ": ".toList ++ caller

/-- Gives a variable a value. -/
def bind (s : State) (name value : Raw) : State :=
  { s with bindings := (name, value) :: s.bindings.filter (·.1 ≠ name) }

def unbind (s : State) (name : Raw) : State :=
  { s with bindings := s.bindings.filter (·.1 ≠ name), exported := s.exported.filter (· ≠ name) }

end State

namespace Run

/-- Writes to a descriptor, and tells whether it is open for that. -/
def write (descriptor : Nat) (r : Raw) : Run Bool := do
  match (← get).descriptors.lookup descriptor with
  | some (.sink i) =>
    modify fun s => { s with sinks := s.sinks.modify i (· ++ r) }
    return true
  | some .void => return true
  | _ => return r.isEmpty

/-- Reads all that a descriptor gives. -/
def readAll (descriptor : Nat) : Run Raw := do
  let s ← get
  match s.descriptors.lookup descriptor with
  | some (.source i) =>
    set { s with sources := s.sources.set i [] }
    return s.sources.getD i []
  | _ => return []

/-- Reads a line, and tells whether it had an end. -/
def readLine (descriptor : Nat) : Run (Raw × Bool) := do
  let s ← get
  match s.descriptors.lookup descriptor with
  | some (.source i) =>
    let text := s.sources.getD i []
    let line := text.takeWhile (· ≠ '\n')
    set { s with sources := s.sources.set i (text.drop (line.length + 1)) }
    return (line, line.length < text.length)
  | _ => return ([], false)

def setStatus (n : Nat) : Run Unit := modify fun s => { s with status := n }

/-- Tells of a fault. -/
def complain (message : Raw) : Run Unit := do
  let _ ← write 2 ((← get).title ++ message ++ ['\n'])

/-- Tells of a fault that ends a command. -/
def fail {α : Type} (status : Nat) (message : Raw) : Run α := do
  complain message
  setStatus status
  throw .failed

/-- Tells of a fault for no command in particular. -/
def failAtLarge {α : Type} (message : Raw) : Run α := do
  modify fun s => { s with caller := none }
  fail 2 message

/-- Gives a variable a value, unless it is to keep the one that it has. -/
def assign (name value : Raw) : Run Unit := do
  let s ← get
  if s.frozen.contains name then fail 2 (name ++ ": is read only".toList)
  set (s.bind name value)

/-- Does something with changes to the state that are undone afterwards. -/
def withState {α : Type} (change restore : State → State) (action : Run α) : Run α := do
  modify change
  let a ← tryCatch action fun l => do
    modify restore
    throw l
  modify restore
  return a

/-- Runs something as a process of its own. Only what is read and written stays. -/
def isolated (action : Run Unit) : StateM State ProcessEnd := do
  let saved ← get
  let left ← action.run
  let s ← get
  set { saved with sinks := s.sinks, sources := s.sources }
  return match left with
    | .error (.exits n) => .exited (.ofNat n)
    | .error (.killed signal) => .killed signal
    | _ => .exited (.ofNat s.status)

/-- Runs something as a process of its own, and gives what it has written, too. -/
def captured (action : Run Unit) : StateM State (ProcessEnd × Raw) := do
  let place := (← get).sinks.length
  modify fun s => { s with sinks := s.sinks ++ [[]] }
  let ending ← isolated do
    modify fun s => { s with descriptors := (1, .sink place) :: s.descriptors }
    action
  let text := (← get).sinks.getD place []
  modify fun s => { s with sinks := s.sinks.take place }
  return (ending, text)

/-- Takes the status of a part of the shell. What kills the part is meant for the shell. -/
def take (ending : ProcessEnd) : Run Unit :=
  match ending with
  | .exited n => setStatus n.toNat
  | .killed signal => throw (.killed signal)

/-- Something that can be read from a text. -/
def sourceOf (text : Raw) : Run Endpoint := do
  let place := (← get).sources.length
  modify fun s => { s with sources := s.sources ++ [text] }
  return .source place

end Run

end LinkKeeper.Shell
