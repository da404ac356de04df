/-!
What can go wrong with a link of the host.
-/

namespace LinkKeeper

/-- Why a link could not be read or changed. -/
inductive LinkError where
  /-- The command could not be started. -/
  | spawn (line cause : String)
  /-- The command ran and failed. -/
  | command (line status complaint : String)
  /-- What the command printed is no report. -/
  | decode (line : String)
  /-- No link has the hardware address. -/
  | notFound (macAddress : String)
  /-- A reported value is no address. -/
  | invalidValue (link value : String)
  /-- The operation has been told to fail. -/
  | injected (text : String)
  deriving DecidableEq, Repr

/-- How the error is told. -/
def LinkError.message : LinkError → String
  | .spawn line cause => "failed to run " ++ line ++ ": " ++ cause
  | .command line status complaint => line ++ " exited with " ++ status ++ ": " ++ complaint
  | .decode line => "failed to decode output of " ++ line
  | .notFound mac => "no link found with hardware address " ++ mac
  | .invalidValue link value => "invalid value reported for " ++ link ++ ": " ++ value
  | .injected text => text

end LinkKeeper
