import LinkKeeper.Host.Process
import LinkKeeper.Link.Error
import LinkKeeper.Text.Blank
import LinkKeeper.Text.Octets

/-!
Running the program that lists and changes the links of the host.

* `Invocation.read`: what the program has printed, or why it failed.
-/

namespace LinkKeeper

/-- A program with its arguments. -/
structure Invocation where
  program : String
  arguments : List String
  deriving DecidableEq, Repr

namespace Invocation

/-- The program and its arguments with a space after the program. -/
def line (i : Invocation) : String := i.program ++ " " ++ " ".intercalate i.arguments

/-- What the run of the program amounts to: its output if it succeeds, or else how it has ended and
what it complained of. -/
def read (i : Invocation) : Except HostFault ProcessRun → Except LinkError String
  | .error fault => .error (.spawn i.line fault.message)
  | .ok run =>
    if run.ending.isSuccess then .ok (String.ofList (Text.Octets.decode run.output))
    else
      .error (.command i.line run.ending.text
        (String.ofList (Text.trim (Text.Octets.decode run.errors))))

end Invocation

end LinkKeeper
