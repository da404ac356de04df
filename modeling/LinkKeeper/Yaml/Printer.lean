import LinkKeeper.Json.Printer

/-!
Writing documents as YAML.

Members and items stand on lines of their own; the items of an array stand at the depth of its name.
Texts are written as they are where that cannot be misread, and between single quotes elsewhere.

* `Yaml.lines`: the lines of a document.
* `Yaml.stream`: documents with separators between them.
-/

namespace LinkKeeper.Yaml

/-- The characters that cannot begin a text written as it is. -/
def indicators : List Char :=
  ['-', '?', ':', ',', '[', ']', '\x7b', '\x7d', '#', '&', '*', '!', '|', '>', '\'', '"', '%', '@', '\x60']

/-- The words that would be read as something else than a text. -/
def reserved : List String :=
  ["null", "Null", "NULL", "~", "true", "True", "TRUE", "false", "False", "FALSE", "y", "Y", "n", "N",
    "yes", "Yes", "YES", "no", "No", "NO", "on", "On", "ON", "off", "Off", "OFF"]

/-- Whether a colon in the text would end a name, or a number sign begin a comment. -/
def hasBreak : List Char → Bool
  | [] => false
  | [':'] => true
  | ':' :: ' ' :: _ => true
  | ' ' :: '#' :: _ => true
  | _ :: cs => hasBreak cs

/-- Whether the text would be read as a number. -/
def looksNumeric (cs : List Char) : Bool :=
  match cs with
  | c :: rest => c.isDigit || ((c = '+' || c = '.') && rest.head?.any Char.isDigit)
  | [] => false

/-- Whether the text can be written as it is. -/
def isPlain (s : String) : Bool :=
  let cs := s.toList
  match cs with
  | [] => false
  | c :: _ =>
    !indicators.contains c && c != ' ' && cs.getLast? != some ' ' && !hasBreak cs &&
      !reserved.contains s && !looksNumeric cs && cs.all fun c => 0x20 ≤ c.toNat

/-- A text on one line. -/
def scalar (s : String) : String :=
  if isPlain s then s
  else "'" ++ String.ofList (s.toList.flatMap fun c => if c = '\'' then ['\'', '\''] else [c]) ++ "'"

/-- The lines of an item, the first one behind a dash. -/
def dashed : List String → List String
  | [] => []
  | first :: more => ("- " ++ first) :: more.map ("  " ++ ·)

mutual

/-- The lines of a document. -/
def lines : Json → List String
  | .array [] => ["[]"]
  | .object [] => ["\x7b\x7d"]
  | .array items => itemLines items
  | .object members => memberLines members
  | .text s => [scalar s]
  | j => [j.render]

/-- The lines of the items of an array. -/
def itemLines : List Json → List String
  | [] => []
  | j :: rest => dashed (lines j) ++ itemLines rest

/-- The lines of the members of an object. -/
def memberLines : List (String × Json) → List String
  | [] => []
  | (name, .array (j :: js)) :: rest =>
    (scalar name ++ ":") :: itemLines (j :: js) ++ memberLines rest
  | (name, .object (m :: ms)) :: rest =>
    (scalar name ++ ":") :: (memberLines (m :: ms)).map ("  " ++ ·) ++ memberLines rest
  | (name, j) :: rest => (lines j).map (scalar name ++ ": " ++ ·) ++ memberLines rest

end

/-- Documents with separators between them; every line ends with a line end. -/
def stream (documents : List Json) : String :=
  "---\n".intercalate (documents.map fun j => String.join ((lines j).map (· ++ "\n")))

end LinkKeeper.Yaml
