import LinkKeeper.Json.Value
import LinkKeeper.Table

/-!
Reading values out of JSON documents.

A decoder gives the value of a document, or nothing when the document has another shape. Two kinds
of objects occur. A record is what this program defines: an object in which no known field is
repeated, or an array of its fields in order. A metadata object is defined elsewhere: only an object
will do, and of a repeated field the last one counts. In both, fields that are not known are skipped.

* `Fields.required`, `Fields.optional`, `Fields.defaulted`: the three kinds of fields.
-/

namespace LinkKeeper.Json

/-- A reader of documents. -/
abbrev Decoder (α : Type) := Json → Option α

def text? : Decoder String
  | .text s => some s
  | _ => none

def bool? : Decoder Bool
  | .bool b => some b
  | _ => none

/-- A whole number between two bounds. -/
def int? (least greatest : Int) : Decoder Int
  | .number n => n.toInt?.filter fun i => least ≤ i && i ≤ greatest
  | _ => none

/-- A whole number of sixty-four bits with a sign. -/
def int64? : Decoder Int := int? (-0x8000000000000000) 0x7FFFFFFFFFFFFFFF

/-- A whole number from zero to a bound. -/
def nat? (bound : Nat) : Decoder Nat := fun j => (int? 0 bound j).map Int.toNat

/-- An array whose items all can be read. -/
def list? {α : Type} (item : Decoder α) : Decoder (List α)
  | .array items => items.mapM item
  | _ => none

/-- A value that may be absent: null stands for absence. -/
def nullable {α : Type} (value : Decoder α) : Decoder (Option α)
  | .null => some none
  | j => (value j).map some

/-- An object whose members are all texts; of a repeated name the last member counts. -/
def textTable? : Decoder (Table String String)
  | .object members =>
    members.foldl (fun t m => do some ((← t).insert m.1 (← text? m.2))) (some ∅)
  | _ => none

/-- The fields of a record. -/
structure Fields where
  /-- Whether they are given by position. -/
  byPosition : Bool
  given : List (String × Json)

/-- Whether no known name occurs twice among the members. -/
def noneRepeated (known : List String) (members : List (String × Json)) : Bool :=
  known.all fun name => (members.filter fun m => m.1 = name).length ≤ 1

/-- The fields of a record: an object that repeats no known name, or an array of no more items than
there are fields. -/
def record? (known : List String) : Decoder Fields
  | .object members => if noneRepeated known members then some ⟨false, members⟩ else none
  | .array items =>
    if items.length ≤ known.length then some ⟨true, known.zip items⟩ else none
  | _ => none

namespace Fields

variable {α : Type}

/-- A field that has to be there. -/
def required (f : Fields) (name : String) (value : Decoder α) : Option α :=
  f.given.lookup name >>= value

/-- A field with a value for the case that it is not there. -/
def defaulted (f : Fields) (name : String) (default : α) (value : Decoder α) : Option α :=
  match f.given.lookup name with
  | none => some default
  | some j => value j

/-- A field that may be null or absent. -/
def maybe (f : Fields) (name : String) (value : Decoder α) : Option (Option α) :=
  f.defaulted name none (nullable value)

/-- A field that may be null, and absent in an object but not in an array. -/
def optional (f : Fields) (name : String) (value : Decoder α) : Option (Option α) :=
  if f.byPosition then f.required name (nullable value) else f.maybe name value

end Fields

/-- The members of a metadata object. -/
def members? : Decoder (List (String × Json))
  | .object members => some members
  | _ => none

/-- A field of a metadata object: every occurrence has to be readable or null, and the last one
counts. -/
def lastOf {α : Type} (members : List (String × Json)) (name : String) (value : Decoder α) :
    Option (Option α) := do
  let occurrences ← (members.filter fun m => m.1 = name).mapM fun m => nullable value m.2
  some occurrences.getLast?.join

/-! ### Writing records -/

/-- An object of the fields that are there. -/
def ofFields (fields : List (String × Option Json)) : Json :=
  .object (fields.filterMap fun f => f.2.map (f.1, ·))

/-- An array of texts. -/
def ofTexts (texts : List String) : Json :=
  .array (texts.map .text)

/-- An object whose members are texts. -/
def ofTextTable (t : Table String String) : Json :=
  .object (t.toList.map fun e => (e.1, .text e.2))

/-- A text, or null for absence. -/
def ofText? : Option String → Json
  | some s => .text s
  | none => .null

end LinkKeeper.Json
