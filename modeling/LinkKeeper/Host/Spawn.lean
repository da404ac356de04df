import LinkKeeper.Host.Shell.Process

/-!
Starting a program of a bare host.

* `HostFiles.spawn`: what the program of a name writes and how it ends, or why it cannot be started.
-/

namespace LinkKeeper

namespace HostFiles

/-- An argument has fewer octets than this. -/
def argumentLimit : Nat := 131072

/-- What a program writes that is started under a name with arguments, and how it ends. -/
def execute (name : String) (arguments : List String) (p : HostProgram) : ProcessRun :=
  let title := Raw.ofString name
  let words := arguments.map Raw.ofString
  match Programs.print? title words [] p with
  | some printed =>
    let complaints := printed.complaints.flatMap fun c => title ++ ": ".toList ++ c ++ ['\n']
    ⟨Raw.octets printed.output, Raw.octets complaints, .exited (.ofNat printed.status)⟩
  | none => Shell.run title words

/-- Starts the program of a name. -/
def spawn (name : String) (arguments : List String) : Except HostFault ProcessRun :=
  if (name :: arguments).any fun s => s.toList.contains '\x00' then .error .zeroOctet
  else
    (command? name).bind fun p =>
      if arguments.any fun s => argumentLimit ≤ s.utf8ByteSize then .error .argumentsTooLong
      else .ok (execute name arguments p)

end HostFiles

end LinkKeeper
