import LinkKeeper.Host.Raw

/-!
Patterns of the command language.

* `Pattern.accepts`: whether a whole text is of the form of a pattern.
* `Pattern.trim`: a text without the part at an end that matches.
-/

namespace LinkKeeper.Shell

/-- A pattern: characters, each with whether it stands for nothing but itself. -/
abbrev Pattern := List (Char × Bool)

namespace Pattern

/-- The classes of characters by their names. -/
def classes : List (String × (Char → Bool)) :=
  [("alpha", Char.isAlpha), ("digit", Char.isDigit), ("alnum", Char.isAlphanum), ("upper", Char.isUpper),
    ("lower", Char.isLower), ("space", Raw.isBlank), ("blank", fun c => c = ' ' || c = '\t'),
    ("xdigit", Text.isDigit 16), ("punct", fun c => isGraphic c && !c.isAlphanum),
    ("print", fun c => c = ' ' || isGraphic c), ("graph", isGraphic),
    ("cntrl", fun c => c.toNat < 0x20 || c.toNat = 0x7F)]
where
  /-- Whether a character is seen. -/
  isGraphic (c : Char) : Bool := 0x20 < c.toNat && c.toNat < 0x7F

/-- The characters that stand between brackets: whether one is among them, and what follows. The first
is never the closing bracket; `fuel` bounds the number of characters. -/
def set? : (fuel : Nat) → (first : Bool) → Pattern → Option ((Char → Bool) × Pattern)
  | 0, _, _ => none
  | _, _, [] => none
  | fuel + 1, first, (c, q) :: p =>
    if c = ']' && !q && !first then some (fun _ => false, p)
    else
      match named? ((c, q) :: p) with
      | some (test, p) => (set? fuel false p).map (alsoBy test)
      | none =>
        match p with
        | ('-', false) :: (d, r) :: p =>
          if d = ']' && !r then (set? fuel false (('-', true) :: (d, r) :: p)).map (alsoBy (· = c))
          else (set? fuel false p).map (alsoBy fun x => c ≤ x && x ≤ d)
        | p => (set? fuel false p).map (alsoBy (· = c))
where
  /-- Adds characters to those that have been read. -/
  alsoBy (test : Char → Bool) (read : (Char → Bool) × Pattern) : (Char → Bool) × Pattern :=
    (fun x => test x || read.1 x, read.2)
  /-- A class given by its name. -/
  named? (p : Pattern) : Option ((Char → Bool) × Pattern) :=
    classes.findSome? fun (name, test) =>
      let written := ("[:" ++ name ++ ":]").toList
      if written = (p.take written.length).map Prod.fst then some (test, p.drop written.length) else none

/-- Whether a whole text is of the form of a pattern; `fuel` bounds the length of the pattern. -/
def acceptsWithin : (fuel : Nat) → Pattern → Raw → Bool
  | 0, _, cs => cs.isEmpty
  | _, [], cs => cs.isEmpty
  | fuel + 1, ('*', false) :: p, cs => (List.range (cs.length + 1)).any fun n => acceptsWithin fuel p (cs.drop n)
  | fuel + 1, ('?', false) :: p, cs => !cs.isEmpty && acceptsWithin fuel p cs.tail
  | fuel + 1, ('[', false) :: p, cs =>
    let (negated, inner) := match p with
      | ('!', false) :: inner => (true, inner)
      | _ => (false, p)
    match set? (inner.length + 1) true inner, cs with
    | some (test, p), c :: cs => test c ≠ negated && acceptsWithin fuel p cs
    | some _, [] => false
    | none, c :: cs => c = '[' && acceptsWithin fuel p cs
    | none, [] => false
  | fuel + 1, (d, _) :: p, cs => cs.head? = some d && acceptsWithin fuel p cs.tail

/-- Whether a whole text is of the form of a pattern. -/
def accepts (p : Pattern) (cs : Raw) : Bool := acceptsWithin (p.length + 1) p cs

/-- A text without the shortest or the longest part at its end, or at its beginning, that matches. -/
def trim (p : Pattern) (atEnd longest : Bool) (cs : Raw) : Raw :=
  let sizes := List.range (cs.length + 1)
  let sizes := if longest then sizes.reverse else sizes
  let parted (n : Nat) : Raw × Raw :=
    if atEnd then (cs.drop (cs.length - n), cs.take (cs.length - n)) else (cs.take n, cs.drop n)
  match sizes.find? fun n => p.accepts (parted n).1 with
  | some n => (parted n).2
  | none => cs

end Pattern

end LinkKeeper.Shell
