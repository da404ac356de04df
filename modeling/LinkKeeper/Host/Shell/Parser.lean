import LinkKeeper.Host.Shell.Lexer

/-!
The commands of a script, read one line at a time: what stands on a line is run before the next one
is read.

* `Cursor.nextLine`: the commands on the next line.
-/

namespace LinkKeeper.Shell

/-- Reading a script, which may meet a fault on a line. -/
abbrev Reader := StateT Cursor (Except (Nat × SyntaxFault))

/-- The words that have a meaning where a command begins. -/
def keywords : List String :=
  ["!", "case", "do", "done", "elif", "else", "esac", "fi", "for", "if", "in", "then", "until", "while",
    "\x7b", "\x7d"]

/-- The marks that end a list of commands. -/
def closers : List String :=
  [")", ";;", "do", "done", "elif", "else", "esac", "fi", "then", "\x7d"]

/-- The commands that are part of the language: no function has the name of one. -/
def specialCommands : List String :=
  [".", ":", "break", "continue", "eval", "exec", "exit", "export", "readonly", "return", "set",
    "shift", "times", "trap", "unset"]

namespace Token

/-- The keyword or the operator that a token is where a command begins. -/
def mark? : Token → Option String
  | .operator sign => some sign
  | .word w => (w.plain?.map String.ofList).filter keywords.contains
  | _ => none

/-- How a token is told of. -/
def title (atCommand : Bool) (t : Token) : String :=
  match t, t.mark? with
  | .operator sign, _ => "\"" ++ sign ++ "\""
  | .word _, some keyword => if atCommand then "\"" ++ keyword ++ "\"" else "word"
  | .word _, none => "word"
  | .ended, _ => "end of file"
  | .newline, _ => "newline"
  | .redirect _ _, _ => "redirection"

/-- Whether a token ends a list of commands. -/
def closes (t : Token) : Bool := t.mark?.any closers.contains

end Token

namespace Reader

def fault {α : Type} (message : SyntaxFault) : Reader α := do throw ((← get).line, message)

/-- The fault of a token that cannot stand where it stands. -/
def unexpected {α : Type} (t : Token) (atCommand : Bool) (expected : Option String) : Reader α :=
  fault (t.title atCommand ++ " unexpected" ++
    match expected with
    | some name => " (expecting " ++ name ++ ")"
    | none => "")

/-- The next token. What is wrong with one shows at the end of the script. -/
def next : Reader Token := fun c =>
  match c.token with
  | .ok read => .ok read
  | .error message => .error (c.line + c.rest.count '\n', message)

/-- The next token, which is left where it is. -/
def peek : Reader Token := do
  let c ← get
  let t ← next
  set c
  return t

/-- Skips line ends; `fuel` bounds their number. -/
def skipLines : (fuel : Nat) → Reader Unit
  | 0 => return
  | fuel + 1 => do
    let c ← get
    if (← next) = .newline then skipLines fuel else set c

/-- Skips line ends if they do not count. -/
def reachCommand (acrossLines : Bool) : Reader Unit := do
  if acrossLines then skipLines ((← get).rest.length + 1)

/-- Reads a keyword or an operator, perhaps on a later line. -/
def expect (mark : String) (acrossLines : Bool) : Reader Unit := do
  reachCommand acrossLines
  let t ← next
  if t.mark? ≠ some mark then unexpected t true (some ("\"" ++ mark ++ "\""))

/-- Reads an operator if it comes next. -/
def takes (sign : String) : Reader Bool := do
  let c ← get
  if (← next) = .operator sign then return true
  set c
  return false

/-- Reads a word. -/
def word (expected : Option String) : Reader Word := do
  match ← next with
  | .word w => return w
  | t => unexpected t false expected

/-- Reads what a redirection goes to. -/
def redirectTarget (descriptor : Option Nat) (sign : String) : Reader Redirect := do
  let w ← word none
  let descriptor := descriptor.getD (if sign.startsWith "<" then 0 else 1)
  let here := sign = "<<" ∨ sign = "<<-"
  if here then
    let c ← get
    let index := c.texts.length + c.announced.length
    let announced : Announced := ⟨index, w.characters, sign = "<<-"⟩
    set { c with announced := c.announced ++ [announced] }
    return ⟨descriptor, .text index (!w.isQuoted)⟩
  else if sign.endsWith "&" then return ⟨descriptor, .descriptor w⟩
  else return ⟨descriptor, if sign = "<" then .fileToRead w else .fileToWrite w⟩

/-- Reads redirections as far as they go. -/
def redirects : (fuel : Nat) → Reader (List Redirect)
  | 0 => return []
  | fuel + 1 => do
    let c ← get
    match ← next with
    | .redirect descriptor sign =>
      let r ← redirectTarget descriptor sign
      return r :: (← redirects fuel)
    | _ =>
      set c
      return []

/-- Reads words as far as they go. -/
def words : (fuel : Nat) → Reader (List Word)
  | 0 => return []
  | fuel + 1 => do
    let c ← get
    match ← next with
    | .word w => return w :: (← words fuel)
    | _ =>
      set c
      return []

/-- Reads the other patterns of an arm, up to the bracket. -/
def patterns : (fuel : Nat) → Reader (List Word)
  | 0 => return []
  | fuel + 1 => do
    match ← next with
    | .operator ")" => return []
    | .operator "|" =>
      let w ← word none
      return w :: (← patterns fuel)
    | t => unexpected t false (some "\")\"")

/-- The name that a loop gives to words. -/
def loopName : Reader Raw := do
  match ← next with
  | .word w =>
    match w.plain?.filter Raw.isName with
    | some name => return name
    | none => fault "Bad for loop variable"
  | _ => fault "Bad for loop variable"

/-- The words that a loop runs over, or none for the arguments. -/
def loopWords : Reader (Option (List Word)) := do
  reachCommand true
  let c ← get
  let t ← next
  if t.mark? = some "in" then
    let ws ← words (c.rest.length + 1)
    match ← next with
    | .newline | .operator ";" => return some ws
    | t => unexpected t false none
  else
    if t ≠ .operator ";" then set c
    return none

/-- A simple command as far as it has been read. -/
structure Simple where
  line : Nat
  assignments : List (Raw × Word)
  words : List Word
  redirects : List Redirect

/-- The name and the value of a word that is an assignment. -/
def assignment? (w : Word) : Option (Raw × Word) :=
  let name := w.takeWhile fun
    | .char c false => c ≠ '='
    | _ => false
  match Word.plain? name, w.drop name.length with
  | some name, .char '=' false :: value => if Raw.isName name then some (name, value) else none
  | _, _ => none

/-- The end of a construct, and the redirections after it. -/
def closing (mark : String) : Reader (List Redirect) := do
  expect mark false
  redirects ((← get).rest.length + 1)

mutual

/-- Reads the parts of a simple command; `fuel` bounds the number of tokens. -/
def simple : (fuel : Nat) → Simple → Reader Command
  | 0, _ => fault "out of memory"
  | fuel + 1, s => do
    let c ← get
    match ← next with
    | .word w =>
      match if s.words.isEmpty then assignment? w else none with
      | some a => simple fuel { s with assignments := s.assignments ++ [a] }
      | none => simple fuel { s with words := s.words ++ [w] }
    | .redirect descriptor sign =>
      let r ← redirectTarget descriptor sign
      simple fuel { s with redirects := s.redirects ++ [r] }
    | .operator "(" =>
      match s with
      | ⟨_, [], [name], []⟩ =>
        expect ")" false
        let name := name.characters
        if !Raw.isName name || specialCommands.contains (String.ofList name) then
          fault "Bad function name"
        return .define name (← command fuel true)
      | _ => unexpected (.operator "(") true none
    | _ =>
      set c
      return .simple s.line s.assignments s.words s.redirects

/-- Reads a command. -/
def command : (fuel : Nat) → (acrossLines : Bool) → Reader Command
  | 0, _ => fault "out of memory"
  | fuel + 1, acrossLines => do
    reachCommand acrossLines
    let c ← get
    let t ← next
    match t, t.mark? with
    | _, some "if" =>
      let (test, yes, no) ← conditional fuel
      return .conditional test yes no (← closing "fi")
    | _, some "while" =>
      let (test, body) ← loop fuel
      return .repeated false test body (← closing "done")
    | _, some "until" =>
      let (test, body) ← loop fuel
      return .repeated true test body (← closing "done")
    | _, some "for" =>
      let name ← loopName
      let ws ← loopWords
      expect "do" true
      let body ← list fuel false false
      return .each name ws body (← closing "done")
    | _, some "case" =>
      let subject ← word (some "word")
      expect "in" true
      let arms ← arms fuel
      return .choice subject arms (← closing "esac")
    | _, some "(" =>
      let body ← list fuel false false
      return .subshell body (← closing ")")
    | _, some "\x7b" =>
      let body ← list fuel false false
      return .group body (← closing "\x7d")
    | .word _, none | .redirect _ _, _ =>
      set c
      simple fuel ⟨c.line, [], [], []⟩
    | t, _ => unexpected t true none

/-- Reads the rest of a conditional command, up to its end. -/
def conditional : (fuel : Nat) → Reader (Command × Command × Option Command)
  | 0 => fault "out of memory"
  | fuel + 1 => do
    let test ← list fuel false false
    expect "then" false
    let yes ← list fuel false false
    match (← peek).mark? with
    | some "elif" =>
      let _ ← next
      let (test', yes', no') ← conditional fuel
      return (test, yes, some (.conditional test' yes' no' []))
    | some "else" =>
      let _ ← next
      return (test, yes, some (← list fuel false false))
    | _ => return (test, yes, none)

/-- Reads the rest of a loop, up to its end. -/
def loop : (fuel : Nat) → Reader (Command × Command)
  | 0 => fault "out of memory"
  | fuel + 1 => do
    let test ← list fuel false false
    expect "do" false
    let body ← list fuel false false
    return (test, body)

/-- Reads the arms of a choice, up to its end. -/
def arms : (fuel : Nat) → Reader (List (List Word × Command))
  | 0 => fault "out of memory"
  | fuel + 1 => do
    reachCommand true
    if (← peek).mark? = some "esac" then return []
    let _ ← takes "("
    let first ← match ← next with
      | .word w => pure w
      | _ => pure []
    let more ← patterns ((← get).rest.length + 1)
    let body ← list fuel false true
    reachCommand true
    match (← peek).mark? with
    | some "esac" => return [(first :: more, body)]
    | some ";;" =>
      let _ ← next
      return (first :: more, body) :: (← arms fuel)
    | _ =>
      let t ← next
      unexpected t true (some "\";;\"")

/-- Reads commands with bars between them. -/
def pipes : (fuel : Nat) → (acrossLines : Bool) → Reader (List Command)
  | 0, _ => fault "out of memory"
  | fuel + 1, acrossLines => do
    let first ← command fuel acrossLines
    if ← takes "|" then return first :: (← pipes fuel true) else return [first]

/-- Reads a pipeline. -/
def pipeline : (fuel : Nat) → (acrossLines : Bool) → Reader Command
  | 0, _ => fault "out of memory"
  | fuel + 1, acrossLines => do
    reachCommand acrossLines
    if (← peek).mark? = some "!" then
      let _ ← next
      return .pipeline true (← pipes fuel false)
    match ← pipes fuel false with
    | [single] => return single
    | cs => return .pipeline false cs

/-- Reads the pipelines that depend on the ones before. -/
def dependent : (fuel : Nat) → Command → Reader Command
  | 0, _ => fault "out of memory"
  | fuel + 1, first => do
    if ← takes "&&" then dependent fuel (.both first (← pipeline fuel true))
    else if ← takes "||" then dependent fuel (.either first (← pipeline fuel true))
    else return first

/-- Reads a list of commands: those on one line, or all up to a mark that closes the list. -/
def list : (fuel : Nat) → (oneLine mayBeEmpty : Bool) → Reader Command
  | 0, _, _ => fault "out of memory"
  | fuel + 1, oneLine, mayBeEmpty => do
    reachCommand (!oneLine)
    let t ← peek
    if t = .ended ∨ t = .newline then
      let _ ← next
      return .sequence []
    if mayBeEmpty && !oneLine && t.closes then return .sequence []
    let first ← dependent fuel (← pipeline fuel false)
    let goesOn ← match ← peek with
      | .operator "&" | .operator ";" | .newline | .ended => pure true
      | t => if oneLine then next *> unexpected t false none else pure false
    if !goesOn then return .sequence [first]
    let background ← takes "&"
    if !background then
      let _ ← takes ";"
    let first := if background then .background first else first
    match ← list fuel oneLine true with
    | .sequence more => return .sequence (first :: more)
    | other => return .sequence [first, other]

end

end Reader

namespace Cursor

/-- The commands on the next line; an empty line has none. -/
def nextLine (c : Cursor) : Except (Nat × SyntaxFault) (Command × Cursor) :=
  (Reader.list (8 * (c.rest.length + 4)) true false).run c

/-- Whether nothing but blanks and comments is left. -/
def isDone (c : Cursor) : Bool := (skip (c.rest.length + 1) c.rest).isEmpty

end Cursor

end LinkKeeper.Shell
