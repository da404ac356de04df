import LinkKeeper.Host.Raw

/-!
Scripts of the command language: words, redirections and commands.

What is put in for a part of a word is kept as it is written, and read once it is needed.
-/

namespace LinkKeeper.Shell

/-- What a parameter is replaced by when it is not as it should be. -/
inductive Repair where
  | default
  | assign
  | complain
  /-- What stands in its place when it is there. -/
  | instead
  deriving DecidableEq, Repr

/-- What is done with the value of a parameter. -/
inductive Treatment where
  | plain
  | length
  /-- A repair of a parameter that is not set, or that is empty if that counts too. -/
  | repair (kind : Repair) (emptyToo : Bool) (word : Raw)
  /-- Cuts off the shortest or the longest part at an end that matches a pattern. -/
  | trim (atEnd longest : Bool) (pattern : Raw)
  /-- There is no such treatment. -/
  | unknown
  deriving DecidableEq, Repr

/-- What is put into a word. -/
inductive Expansion where
  | parameter (name : Raw) (treatment : Treatment)
  | output (script : Raw)
  | arithmetic (expression : Raw)
  deriving DecidableEq, Repr

/-- A part of a word. -/
inductive Part where
  | char (c : Char) (quoted : Bool)
  /-- A quote begins: the word is there even if it is empty. -/
  | quote
  | expand (e : Expansion) (quoted : Bool)
  deriving DecidableEq, Repr

abbrev Word := List Part

/-- What a descriptor is redirected to. -/
inductive RedirectTarget where
  | fileToRead (name : Word)
  | fileToWrite (name : Word)
  /-- Another descriptor, or none at all for a dash. -/
  | descriptor (number : Word)
  /-- A text in the script, by the number of its place there. -/
  | text (index : Nat) (expands : Bool)
  deriving DecidableEq, Repr

structure Redirect where
  descriptor : Nat
  target : RedirectTarget
  deriving DecidableEq, Repr

/-- A command. -/
inductive Command where
  | simple (line : Nat) (assignments : List (Raw × Word)) (words : List Word) (redirects : List Redirect)
  | pipeline (negated : Bool) (commands : List Command)
  | both (first second : Command)
  | either (first second : Command)
  | sequence (commands : List Command)
  | background (command : Command)
  | subshell (body : Command) (redirects : List Redirect)
  | group (body : Command) (redirects : List Redirect)
  | conditional (test yes : Command) (no : Option Command) (redirects : List Redirect)
  /-- Runs as long as the test succeeds, or fails. -/
  | repeated (whileFailing : Bool) (test body : Command) (redirects : List Redirect)
  /-- Runs for each of some words, or of the arguments. -/
  | each (name : Raw) (words : Option (List Word)) (body : Command) (redirects : List Redirect)
  | choice (subject : Word) (arms : List (List Word × Command)) (redirects : List Redirect)
  | define (name : Raw) (body : Command)
  deriving Inhabited

namespace Word

/-- The text of a word that has no quotes and no expansions in it. -/
def plain? : Word → Option Raw
  | [] => some []
  | .char c false :: rest => (plain? rest).map (c :: ·)
  | _ => none

/-- The characters of a word, without looking at its expansions. -/
def characters (w : Word) : Raw :=
  w.filterMap fun
    | .char c _ => some c
    | _ => none

/-- Whether a word has quotes in it. -/
def isQuoted (w : Word) : Bool :=
  w.any fun
    | .char _ q => q
    | .quote => true
    | .expand _ q => q

end Word

end LinkKeeper.Shell
