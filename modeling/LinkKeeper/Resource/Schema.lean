import LinkKeeper.Json.Decoder

/-!
Schemas: what the values of a field may be, as the cluster checks it before it stores an object.

* `Schema.accepts`: whether a document is a value of a schema.
* `Schema.toJson`: how a schema is published.
-/

namespace LinkKeeper

open Json

/-- The values of a field. -/
inductive Schema where
  /-- A text, or null where that is allowed. -/
  | text (description : String) (nullable : Bool)
  /-- A list; where a default is given the field may be left out. -/
  | list (description : String) (hasDefault : Bool) (items : Schema)
  /-- An object with these fields, of which some are required. -/
  | record (title description : Option String) (nullable : Bool) (fields : List (String × Schema))
      (required : List String)

namespace Schema

mutual

/-- Whether a document is a value of the schema. Fields that are not known are allowed. -/
def accepts : Schema → Json → Bool
  | text _ nullable, j =>
    match j with
    | .text _ => true
    | .null => nullable
    | _ => false
  | list _ _ items, j =>
    match j with
    | .array l => l.all fun i => items.accepts i
    | _ => false
  | record _ _ nullable fields required, j =>
    match j with
    | .object members => required.all (fun name => (members.lookup name).isSome) &&
        fieldsAccept members fields
    | .null => nullable
    | _ => false

/-- Whether every known field among the members has a value of its schema. -/
def fieldsAccept (members : List (String × Json)) : List (String × Schema) → Bool
  | [] => true
  | (name, s) :: rest =>
    (match members.lookup name with
      | some j => s.accepts j
      | none => true) && fieldsAccept members rest

end

/-- A mark that is only written when it is set. -/
def flag (b : Bool) : Option Json := if b then some (.bool true) else none

mutual

/-- The published form, with its members in the order of their names. -/
def toJson : Schema → Json
  | text description nullable =>
    ofFields
      [("description", some (.text description)), ("nullable", flag nullable),
        ("type", some (.text "string"))]
  | list description hasDefault items =>
    ofFields
      [("default", if hasDefault then some (.array []) else none),
        ("description", some (.text description)),
        ("items", some items.toJson),
        ("type", some (.text "array"))]
  | record title description nullable fields required =>
    ofFields
      [("description", description.map .text),
        ("nullable", flag nullable),
        ("properties", some (.object (fieldsToJson fields))),
        ("required", if required.isEmpty then none else some (ofTexts required)),
        ("title", title.map .text),
        ("type", some (.text "object"))]

def fieldsToJson : List (String × Schema) → List (String × Json)
  | [] => []
  | (name, s) :: rest => (name, s.toJson) :: fieldsToJson rest

end

end Schema

end LinkKeeper
