import LinkKeeper.Text.Number
import LinkKeeper.Text.Unprintable

/-!
Texts between quotes, as they are shown in messages: every character that does not show is written
by its number.

* `Quoted.encode`: the text between quotes.
-/

namespace LinkKeeper.Text.Quoted

/-- How a character stands between the quotes. -/
def escape (c : Char) : List Char :=
  match c with
  | '"' => ['\\', '"']
  | '\\' => ['\\', '\\']
  | '\n' => ['\\', 'n']
  | '\r' => ['\\', 'r']
  | '\t' => ['\\', 't']
  | '\x00' => ['\\', '0']
  | c => if isUnprintable c then ['\\', 'u', '\x7b'] ++ digits 16 c.toNat ++ ['\x7d'] else [c]

/-- The text between quotes. -/
def encode (s : String) : String :=
  String.ofList ('"' :: s.toList.flatMap escape ++ ['"'])

end LinkKeeper.Text.Quoted
