import LinkKeeper.Http.Host

/-!
Addresses of documents, as people write them.

An address is repaired on the way: tabs and line ends are dropped, steps to the same or to the parent
directory are taken, and characters that cannot stand in a request are written as octets.

* `Url.parse?`: the host of an address, its port, and what a request for it asks for.
* `Url.resolve_nil`, `Url.resolve_plain`: without such steps every segment of a path is kept.
-/

namespace LinkKeeper.Http

open Text

/-- An address: a port is given when it is not the usual one, and the target is as it stands in the
first line of a request. -/
structure Url where
  host : Host
  port : Option Nat
  target : String
  deriving DecidableEq, Repr

namespace Url

/-- The spellings of a point in a path. -/
def points : List String := [".", "%2e", "%2E"]

/-- Whether a segment stands for the directory that it stands in. -/
def isSame (segment : List Char) : Bool := points.contains (String.ofList segment)

/-- Whether a segment stands for the parent of the directory that it stands in. -/
def isParent (segment : List Char) : Bool :=
  points.any fun p => points.any fun q => p ++ q = String.ofList segment

/-- The segments of a path after the ones that lead to it, both innermost first. A step at the end
leads to a directory, which has no name. -/
def resolve (outer : List (List Char)) : List (List Char) → List (List Char)
  | [] => outer
  | segment :: rest =>
    let closed (outer : List (List Char)) := if rest.isEmpty then [] :: outer else outer
    if isParent segment then resolve (closed outer.tail) rest
    else if isSame segment then resolve (closed outer) rest
    else resolve (segment :: outer) rest

@[simp] theorem resolve_nil (outer : List (List Char)) : resolve outer [] = outer := rfl

theorem resolve_plain {segments : List (List Char)} (outer : List (List Char))
    (plain : ∀ s ∈ segments, isParent s = false ∧ isSame s = false) :
    resolve outer segments = segments.reverse ++ outer := by
  induction segments generalizing outer with
  | nil => simp
  | cons s rest ih =>
    have first := plain s (by simp)
    have others : ∀ t ∈ rest, isParent t = false ∧ isSame t = false :=
      fun t h => plain t (List.mem_cons_of_mem _ h)
    simp [resolve, first.1, first.2, ih _ others]

/-- The path with its steps taken. -/
def resolved (path : List Char) : List Char :=
  let segments := Target.cutAt (fun c => c = '/' || c = '\\') path
  let inner := if path.isEmpty then segments else segments.tail
  (resolve [] (inner.map (Target.escape "\"#<>?\x60\x7b\x7d".toList.contains))).reverse.flatMap ('/' :: ·)

/-- What a request asks for, given what stands after the host of an address. -/
def targetOf (cs : List Char) : String :=
  let (path, rest) := cs.span fun c => c ≠ '?' && c ≠ '#'
  let query := rest.takeWhile (· ≠ '#')
  String.ofList
    (resolved path ++
      match query with
      | [] => []
      | mark :: query => mark :: Target.escape "\"#<>'".toList.contains query)

/-- Whether a character ends the host of an address with its port. -/
def endsAuthority (c : Char) : Bool := "/\\?#".toList.contains c

/-- Splits a host from the port after it: a colon between brackets belongs to the host. -/
def splitPort : (inside : Bool) → List Char → List Char × List Char
  | _, [] => ([], [])
  | inside, c :: cs =>
    if c = ':' && !inside then ([], cs)
    else
      let inside := if c = '[' then true else if c = ']' then false else inside
      (splitPort inside cs).map (c :: ·) id

/-- The port that digits stand for, if they do; without any there is none. -/
def portOf? (ds : List Char) : Option (Option Nat) :=
  if ds.all (isDigit 10) then
    if ds.isEmpty then some none
    else if ofDigits 10 ds < 65536 then some (some (ofDigits 10 ds))
    else none
  else none

/-- The ports that are meant when none is given. -/
def usualPort? : List Char → Option Nat
  | ['h', 't', 't', 'p'] => some 80
  | ['h', 't', 't', 'p', 's'] => some 443
  | _ => none

/-- Reads an address. What stands before the last at sign of its host is a user. -/
def parse? (url : String) : Option Url := do
  let cs := url.toList.filter fun c => c ≠ '\t' && c ≠ '\n' && c ≠ '\r'
  let usual ← usualPort? ((cs.takeWhile (· ≠ ':')).map Char.toLower)
  let cs := ((cs.dropWhile (· ≠ ':')).drop 1).dropWhile fun c => c = '/' || c = '\\'
  let (authority, rest) := cs.span fun c => !endsAuthority c
  let (host, port) := splitPort false ((Target.cutAt (· = '@') authority).getLast?.getD [])
  let host ← Host.parse? host
  let port ← portOf? port
  some ⟨host, port.filter (· ≠ usual), targetOf rest⟩

end Url

end LinkKeeper.Http
