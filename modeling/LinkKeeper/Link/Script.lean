import LinkKeeper.Link.Command
import LinkKeeper.Link.Synchronizer
import LinkKeeper.Table

/-!
A host whose answers to commands are written down beforehand.

* `ScriptedHost.answer`: the answer to a command; one that is not written down prints nothing.
* `ScriptedHost.runLink`: runs an operation on a link against the written answers.
-/

namespace LinkKeeper

/-- The answer to a command. -/
inductive ScriptedAnswer where
  | prints (output : String)
  | cannotStart (cause : String)
  | fails (status complaint : String)
  deriving DecidableEq, Repr

/-- The written answers by command line, and the lines of the commands so far, oldest first. -/
structure ScriptedHost where
  answers : Table String ScriptedAnswer
  lines : List String

namespace ScriptedHost

/-- A host with these answers that has run no command. -/
def ofList (answers : List (String × ScriptedAnswer)) : ScriptedHost := ⟨.ofList answers, []⟩

/-- Writes down an answer, in the place of an earlier one. -/
def setAnswer (h : ScriptedHost) (line : String) (a : ScriptedAnswer) : ScriptedHost :=
  { h with answers := h.answers.insert line a }

/-- What a written answer amounts to. -/
def reply (c : IpCommand) : ScriptedAnswer → IpReply
  | .prints output => .ok output
  | .cannotStart cause => .error (.spawn c.title cause)
  | .fails status complaint => .error (.command c.title status complaint)

/-- Answers a command and notes it. -/
def answer (c : IpCommand) (h : ScriptedHost) : IpReply × ScriptedHost :=
  (reply c ((h.answers.get? c.line).getD (.prints "")), { h with lines := h.lines ++ [c.line] })

/-- Runs an operation on a link. -/
def runLink {α : Type} (h : ScriptedHost) (p : LinkProgram α) : Except LinkError α × ScriptedHost :=
  Program.run answer (ExceptT.run p) h

end ScriptedHost

end LinkKeeper
