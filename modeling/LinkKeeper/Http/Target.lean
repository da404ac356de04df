import LinkKeeper.Text.Number
import LinkKeeper.Text.Octets

/-!
What a request asks for: a path and a query.

A target that is put together by a program is taken as it is, or refused.

* `Target.read?`: the path and the query of a target, if its characters can stand there.
* `Target.escape`: writes characters that cannot stand in a target as octets.
-/

namespace LinkKeeper.Http

/-- A path, and the names and values of a query. -/
structure Target where
  path : String
  query : List (String × String)
  deriving DecidableEq, Repr

namespace Target

open Text

/-- The octets of a character. -/
def octetsOf (c : Char) : List Nat := c.toString.toUTF8.toList.map UInt8.toNat

/-- An octet as a percent sign and two digits. -/
def escapedOctet (b : Nat) : List Char :=
  '%' :: [b / 16, b % 16].flatMap fun d => (digits 16 d).map Char.toUpper

/-- The text with some of its characters, and all that are not ASCII, written as octets. -/
def escape (unsafeChar : Char → Bool) (cs : List Char) : List Char :=
  cs.flatMap fun c =>
    if unsafeChar c || c.toNat ≤ 0x20 || 0x7F ≤ c.toNat then (octetsOf c).flatMap escapedOctet else [c]

/-- Cuts a text at every character of a kind. -/
def cutAt (isCut : Char → Bool) : List Char → List (List Char)
  | [] => [[]]
  | c :: cs =>
    if isCut c then [] :: cutAt isCut cs
    else
      match cutAt isCut cs with
      | first :: rest => (c :: first) :: rest
      | [] => [[c]]

/-- Whether a character can stand in a path as it is. -/
def isPathChar (c : Char) : Bool :=
  0x20 < c.toNat && !"<>\x60\x7f".toList.contains c

/-- Whether a character can stand in a query as it is. -/
def isQueryChar (c : Char) : Bool :=
  0x20 < c.toNat && !"\"<>\x7f".toList.contains c

/-- How many octets a target may have. -/
def longest : Nat := 65534

/-- The octets that a text is written for: a percent sign and two digits stand for one. -/
def writtenOctets : List Char → List Nat
  | [] => []
  | '%' :: a :: b :: cs =>
    if isDigit 16 a && isDigit 16 b then ofDigits 16 [a, b] :: writtenOctets cs
    else 0x25 :: writtenOctets (a :: b :: cs)
  | c :: cs => octetsOf c ++ writtenOctets cs

/-- A name or a value in a query, where a plus stands for a blank. -/
def queryText (cs : List Char) : String :=
  String.ofList (Octets.decode (writtenOctets (cs.map fun c => if c = '+' then ' ' else c)))

/-- The names and values in a query. -/
def pairs (query : List Char) : List (String × String) :=
  ((cutAt (· = '&') query).filter (!·.isEmpty)).map fun cs =>
    (queryText (cs.takeWhile (· ≠ '=')), queryText ((cs.dropWhile (· ≠ '=')).drop 1))

/-- The path and the query of a target, if its characters can stand there. -/
def read? (cs : List Char) : Option Target :=
  let (path, rest) := (cs.takeWhile (· ≠ '#')).span (· ≠ '?')
  let query := rest.drop 1
  if (String.ofList cs).utf8ByteSize ≤ longest && path.all isPathChar && query.all isQueryChar then
    some ⟨String.ofList path, pairs query⟩
  else none

end Target

end LinkKeeper.Http
