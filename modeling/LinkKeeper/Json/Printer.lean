import LinkKeeper.Json.Value
import LinkKeeper.Text.Number

/-!
Writing JSON text without blanks.

* `Json.render`: the written form of a document.
* `escape`: quotes, backslashes and control characters are escaped, all else stands for itself.
-/

namespace LinkKeeper.Json

open Text

/-- How a character stands in a quoted text. -/
def escape (c : Char) : List Char :=
  match c with
  | '"' => ['\\', '"']
  | '\\' => ['\\', '\\']
  | '\x08' => ['\\', 'b']
  | '\x0c' => ['\\', 'f']
  | '\n' => ['\\', 'n']
  | '\r' => ['\\', 'r']
  | '\t' => ['\\', 't']
  | c =>
    if c.toNat < 0x20 then
      ['\\', 'u', '0', '0', Nat.digitChar (c.toNat / 16), Nat.digitChar (c.toNat % 16)]
    else [c]

/-- A text between quotes. -/
def quoted (s : String) : List Char :=
  '"' :: s.toList.flatMap escape ++ ['"']

/-- The written form of a number. -/
def renderNumber (n : JsonNumber) : List Char :=
  (if n.negative then ['-'] else []) ++ digits 10 n.whole ++
    (match n.fraction with | none => [] | some f => '.' :: f.toList) ++
    (match n.exponent with | none => [] | some e => 'e' :: (toString e).toList)

mutual

/-- The written form of a document. -/
def renderChars : Json → List Char
  | .null => "null".toList
  | .bool b => if b then "true".toList else "false".toList
  | .number n => renderNumber n
  | .text s => quoted s
  | .array items => '[' :: renderItems items
  | .object members => '{' :: renderMembers members
  | .unreadable => "null".toList

def renderItems : List Json → List Char
  | [] => [']']
  | [j] => j.renderChars ++ [']']
  | j :: rest => j.renderChars ++ ',' :: renderItems rest

def renderMembers : List (String × Json) → List Char
  | [] => ['\x7d']
  | [(name, j)] => quoted name ++ ':' :: j.renderChars ++ ['\x7d']
  | (name, j) :: rest => quoted name ++ ':' :: j.renderChars ++ ',' :: renderMembers rest

end

def render (j : Json) : String := String.ofList j.renderChars

end LinkKeeper.Json
