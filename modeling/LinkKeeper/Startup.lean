import LinkKeeper.Config
import LinkKeeper.Host.Process
import LinkKeeper.Text.Quoted

/-!
The start of the keeper, as far as it can fail.

* `Startup.failure`: why a start ends, when it finds no cluster or cannot serve its pages.
* `Startup.report?`: the line in which the end is told.
-/

namespace LinkKeeper

/-- What the keeper lacks when it starts with a good configuration. -/
inductive Lack where
  /-- It is told of no cluster. -/
  | cluster (cause : String)
  /-- It cannot listen where its pages are to be served. -/
  | endpoint (fault : HostFault)
  deriving DecidableEq, Repr

namespace Startup

/-- The error with which a start ends. The configuration is read first. -/
def failure (env : Environment) (lack : Lack) : KeeperError :=
  match Config.ofEnvironment env with
  | .error e => .invalidConfig e.message
  | .ok _ =>
    match lack with
    | .cluster cause => .cluster cause
    | .endpoint fault =>
      .watch ("Probe server error: " ++ ((KeeperError.server fault.message).message?.getD ""))

/-- The line in which an error that consists of a text is told at the end. -/
def report? : KeeperError → Option String
  | .invalidConfig fault => some ("Error: InvalidConfig(" ++ Text.Quoted.encode fault ++ ")")
  | .watch cause => some ("Error: Watch(" ++ Text.Quoted.encode cause ++ ")")
  | _ => none

end Startup

end LinkKeeper
