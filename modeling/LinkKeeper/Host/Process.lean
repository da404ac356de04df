/-!
Processes of the host: why one cannot be started, and how one ends.

* `HostFault.message`: how the host tells of a fault.
* `ProcessEnd.text`: how the end of a process is told.
-/

namespace LinkKeeper

/-- Why the host does not do what it is asked for. -/
inductive HostFault where
  | noSuchFile
  | argumentsTooLong
  | permissionDenied
  | notADirectory
  | nameTooLong
  | addressInUse
  /-- A text that is to be given to the host has a zero octet in it, which would end it. -/
  | zeroOctet
  deriving DecidableEq, Repr

/-- The name of the fault, with its number if the host has one for it. -/
def HostFault.describe : HostFault → String × Option Nat
  | noSuchFile => ("No such file or directory", some 2)
  | argumentsTooLong => ("Argument list too long", some 7)
  | permissionDenied => ("Permission denied", some 13)
  | notADirectory => ("Not a directory", some 20)
  | nameTooLong => ("File name too long", some 36)
  | addressInUse => ("Address already in use", some 98)
  | zeroOctet => ("nul byte found in provided data", none)

/-- How the fault is told. -/
def HostFault.message (f : HostFault) : String :=
  match f.describe with
  | (name, some number) => name ++ " (os error " ++ toString number ++ ")"
  | (name, none) => name

/-- The signals, in the order of their numbers from one on. -/
def signalNames : List String :=
  ["HUP", "INT", "QUIT", "ILL", "TRAP", "ABRT", "BUS", "FPE", "KILL", "USR1", "SEGV", "USR2", "PIPE",
    "ALRM", "TERM", "STKFLT", "CHLD", "CONT", "STOP", "TSTP", "TTIN", "TTOU", "URG", "XCPU", "XFSZ",
    "VTALRM", "PROF", "WINCH", "IO", "PWR", "SYS"]

/-- A signal, by its number. -/
structure Signal where
  number : Nat
  positive : 0 < number
  le : number ≤ 64
  deriving DecidableEq, Repr

namespace Signal

/-- The signal with a number. -/
def ofNumber? (n : Nat) : Option Signal :=
  if there : 0 < n ∧ n ≤ 64 then some ⟨n, there.1, there.2⟩ else none

/-- The signal that cannot be minded. -/
def kill : Signal := ⟨9, by decide, by decide⟩

/-- The signal for memory that a process does not have. -/
def segmentationFault : Signal := ⟨11, by decide, by decide⟩

end Signal

/-- How a process ends: its status is one octet. -/
inductive ProcessEnd where
  | exited (code : UInt8)
  | killed (signal : Signal)
  deriving DecidableEq, Repr

namespace ProcessEnd

/-- Whether the process has done what it was asked for. -/
def isSuccess (e : ProcessEnd) : Bool := e = exited 0

/-- How the end is told. -/
def text : ProcessEnd → String
  | exited code => "exit status: " ++ toString code.toNat
  | killed signal =>
    "signal: " ++ toString signal.number ++
      (match signalNames[signal.number - 1]? with
        | some name => " (SIG" ++ name ++ ")"
        | none => "")

end ProcessEnd

/-- What a process has written to its two outputs, and how it has ended. -/
structure ProcessRun where
  output : List Nat
  errors : List Nat
  ending : ProcessEnd
  deriving DecidableEq, Repr

end LinkKeeper
