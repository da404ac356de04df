import LinkKeeper.Host.Process

/-!
The files of a bare host, and the ways to them.

* `HostFiles.open?`: what a path leads to, or why it leads nowhere.
* `HostFiles.command?`: the program that a name stands for, which may be looked for in the usual
  directories.
-/

namespace LinkKeeper

/-- The programs. -/
inductive HostProgram where
  | echo
  | succeed
  | fail
  | printf
  | concatenate
  | sleep
  | test
  | shell
  deriving DecidableEq, Repr

/-- What a path leads to. -/
inductive HostFile where
  | directory
  | program (p : HostProgram)
  /-- The device that is empty and takes whatever is written to it. -/
  | void
  /-- A file that is not looked into. -/
  | plain
  deriving DecidableEq, Repr

namespace HostFiles

/-- The programs by the names of their files. -/
def programs : List (String × HostProgram) :=
  [("echo", .echo), ("true", .succeed), ("false", .fail), ("printf", .printf), ("cat", .concatenate),
    ("sleep", .sleep), ("test", .test), ("[", .test), ("sh", .shell), ("dash", .shell)]

/-- The directories, from the top. -/
def directories : List (List String) :=
  [[], ["usr"], ["usr", "bin"], ["usr", "sbin"], ["usr", "lib"], ["usr", "share"], ["usr", "local"],
    ["usr", "local", "bin"], ["usr", "local", "sbin"], ["etc"], ["tmp"], ["dev"], ["proc"], ["sys"],
    ["var"], ["var", "lib"], ["var", "log"], ["var", "tmp"], ["root"], ["home"], ["opt"], ["run"],
    ["mnt"], ["media"], ["srv"], ["boot"]]

/-- The directories that stand elsewhere. -/
def links : List (String × List String) :=
  [("bin", ["usr", "bin"]), ("sbin", ["usr", "sbin"]), ("lib", ["usr", "lib"])]

/-- Files that are no programs. -/
def plainFiles : List (List String) :=
  [["etc", "passwd"], ["etc", "group"], ["etc", "shadow"], ["etc", "hostname"], ["etc", "hosts"],
    ["etc", "resolv.conf"], ["etc", "fstab"], ["etc", "profile"], ["etc", "os-release"],
    ["dev", "zero"], ["dev", "full"], ["dev", "random"], ["dev", "urandom"], ["dev", "tty"],
    ["proc", "cpuinfo"], ["proc", "meminfo"], ["proc", "version"]]

/-- The file at a place, given by the names on the way from the top. -/
def fileAt? (place : List String) : Option HostFile :=
  if directories.contains place then some .directory
  else if place = ["dev", "null"] then some .void
  else if plainFiles.contains place then some .plain
  else if place.dropLast = ["usr", "bin"] then (programs.lookup (place.getLast?.getD "")).map .program
  else none

/-- How many octets a name may have. -/
def longestName : Nat := 255

/-- A path has fewer octets than this. -/
def pathLimit : Nat := 4096

/-- Where one name leads to from a directory. -/
def stepFrom (place : List String) (name : String) : List String :=
  if name = ".." then place.dropLast
  else if place.isEmpty then (links.lookup name).getD [name]
  else place ++ [name]

/-- Goes on along names from a place. -/
def follow (place : List String) : List String → Except HostFault (List String)
  | [] => if (fileAt? place).isSome then .ok place else .error .noSuchFile
  | name :: rest =>
    match fileAt? place with
    | some .directory =>
      if longestName < name.utf8ByteSize then .error .nameTooLong
      else follow (if name = "" ∨ name = "." then place else stepFrom place name) rest
    | some _ => .error .notADirectory
    | none => .error .noSuchFile

/-- The place that a path leads to, given by the names on the way from the top. A path that does not
begin there begins in an empty directory. -/
def placeOf (path : String) : Except HostFault (List String) :=
  if path = "" then .error .noSuchFile
  else if pathLimit ≤ path.utf8ByteSize then .error .nameTooLong
  else follow (if path.startsWith "/" then [] else ["srv"]) ((path.toList.splitOn '/').map String.ofList)

/-- What a path leads to. -/
def open? (path : String) : Except HostFault HostFile :=
  (placeOf path).bind fun place =>
    match fileAt? place with
    | some file => .ok file
    | none => .error .noSuchFile

/-- The program at a path. -/
def programAt (path : String) : Except HostFault HostProgram :=
  (open? path).bind fun
    | .program p => .ok p
    | _ => .error .permissionDenied

/-- The directories in which programs are looked for. -/
def searched : List String :=
  ["/usr/local/sbin", "/usr/local/bin", "/usr/sbin", "/usr/bin", "/sbin", "/bin"]

/-- Looks for a program in directories. A file that is found but is no program is told of in the end. -/
def search (name : String) (missed : HostFault) : List String → Except HostFault HostProgram
  | [] => .error missed
  | d :: rest =>
    match programAt (d ++ "/" ++ name) with
    | .ok p => .ok p
    | .error .permissionDenied => search name .permissionDenied rest
    | .error .nameTooLong => .error .nameTooLong
    | .error _ => search name missed rest

/-- The program that a name stands for; one without a slash is looked for. -/
def command? (name : String) : Except HostFault HostProgram :=
  if name = "" then .error .noSuchFile
  else if name.toList.contains '/' then programAt name
  else search name .noSuchFile searched

end HostFiles

end LinkKeeper
