import LinkKeeper.Resource.Definition
import LinkKeeper.Startup
import LinkKeeper.Yaml.Printer

/-!
The command line.

With the word `definitions` the definitions of the two kinds of object are printed. Without it the
configuration is read from the environment of the process and the keeper is started. What the keeper
does once it runs is said by the modules for passes, watches and probes; no cluster is reached from
here, so every start ends with an error.

* `main`: one run of the program.
-/

namespace LinkKeeper

/-- The variables of this process that the configuration is read from. -/
def processEnvironment : IO Environment := do
  let found ← Config.variableNames.mapM fun name => do return (name, ← IO.getEnv name)
  return fun name => (found.lookup name).join

/-- Starts the keeper, and tells why the start has ended. -/
def start : IO UInt32 := do
  let e := Startup.failure (← processEnvironment) (.cluster "no cluster is configured")
  IO.eprintln ((Startup.report? e).getD ("Error: " ++ e.message?.getD ""))
  return 1

/-- Prints the definitions of the two kinds of object. -/
def printDefinitions : IO UInt32 := do
  IO.print (Yaml.stream (ResourceDefinition.all.map ResourceDefinition.toJson))
  return 0

end LinkKeeper

/-- One run of the program. -/
def main (arguments : List String) : IO UInt32 :=
  if arguments = ["definitions"] then LinkKeeper.printDefinitions else LinkKeeper.start
