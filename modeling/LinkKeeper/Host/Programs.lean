import LinkKeeper.Host.Condition
import LinkKeeper.Host.Formats

/-!
The programs of a bare host, the shell apart.

* `Programs.print?`: what a program prints when it is started under a name.
-/

namespace LinkKeeper

namespace Programs

/-- The escapes that are replaced on request. -/
def echoEscapes : Escapes := ⟨true, false, true, true, false, true⟩

/-- Prints words with a blank between them. The options in front of them are single letters: no line
end behind them, with escapes, and without. -/
def echo (escaped ended : Bool) : List Raw → Raw
  | [] => if ended then ['\n'] else []
  | ('-' :: c :: letters) :: words =>
    let options := c :: letters
    if options.all ['n', 'e', 'E'].contains then
      let escaped := options.foldl (fun b l => (l = 'n' && b) || l = 'e') escaped
      echo escaped (ended && !options.contains 'n') words
    else line escaped ended (('-' :: c :: letters) :: words)
  | words => line escaped ended words
where
  /-- Prints words. -/
  line (escaped ended : Bool) (words : List Raw) : Raw :=
    let written := [' '].intercalate words
    if escaped then
      let (printed, stopped, _) := echoEscapes.expand (written.length + 1) written
      if ended && !stopped then printed ++ ['\n'] else printed
    else if ended then written ++ ['\n'] else written

/-- Where help is to be found. -/
def hint (name : Raw) : Raw := "\nTry '".toList ++ name ++ " --help' for more information.".toList

/-- Prints the contents of files one after the other, or what is read. -/
def concatenate (input : Raw) (files : List Raw) : Printed :=
  (if files.isEmpty then [['-']] else files).foldl
    (fun done file =>
      let fail (why : String) : Printed :=
        { done with complaints := done.complaints ++ [file ++ ": ".toList ++ why.toList], status := 1 }
      if file = ['-'] then { done with output := done.output ++ input }
      else
        match HostFiles.open? (String.ofList file) with
        | .ok .directory => fail "Is a directory"
        | .ok _ => done
        | .error fault => fail fault.describe.1)
    ⟨[], [], 0⟩

/-- Whether a word is a span of time: a decimal number that may be followed by a unit. -/
def isSpan (w : Raw) : Bool :=
  let (whole, rest) := Text.spanDigits 10 w
  let (parts, rest) := match rest with
    | '.' :: rest => Text.spanDigits 10 rest
    | rest => ([], rest)
  !(whole ++ parts).isEmpty && (rest.isEmpty || ["s", "m", "h", "d"].contains (String.ofList rest))

/-- Waits, which takes no time here. -/
def sleep (name : Raw) (spans : List Raw) : Printed :=
  match spans, spans.filter (!isSpan ·) with
  | [], _ => ⟨[], ["missing operand".toList ++ hint name], 1⟩
  | _, [] => ⟨[], [], 0⟩
  | _, wrong =>
    let told := wrong.map fun w => "invalid time interval ".toList ++ Formats.quoted w
    ⟨[], told.dropLast ++ told.getLast?.toList.map (· ++ hint name), 1⟩

/-- Tests a condition. Under the name of a bracket, the last word is the other one. -/
def test (name : Raw) (words : List Raw) : Printed :=
  let bracket := name.getLast? = some '['
  if bracket && words.getLast? ≠ some [']'] then ⟨[], ["missing ]".toList], 2⟩
  else
    match Condition.holds? (if bracket then words.dropLast else words) with
    | .ok b => ⟨[], [], if b then 0 else 1⟩
    | .error fault => ⟨[], [fault], 2⟩

/-- Prints by a format, which may stand behind two dashes. -/
def printf (name : Raw) (arguments : List Raw) : Printed :=
  match if arguments.head? = some "--".toList then arguments.tail else arguments with
  | [] => ⟨[], ["missing operand".toList ++ hint name], 1⟩
  | format :: rest => Formats.print .standalone format rest

/-- What a program prints that is started under a name, with its arguments and what it can read. The
shell has to run its script for that. -/
def print? (name : Raw) (arguments : List Raw) (input : Raw) : HostProgram → Option Printed
  | .echo => some ⟨echo false true arguments, [], 0⟩
  | .succeed => some ⟨[], [], 0⟩
  | .fail => some ⟨[], [], 1⟩
  | .printf => some (printf name arguments)
  | .concatenate => some (concatenate input arguments)
  | .sleep => some (sleep name arguments)
  | .test => some (test name arguments)
  | .shell => none

end Programs

end LinkKeeper
