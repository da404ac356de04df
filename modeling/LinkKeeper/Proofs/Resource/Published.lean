import LinkKeeper.Proofs.Json.Members
import LinkKeeper.Resource.Definition

/-!
What a published schema says to its reader.

A cluster is told of a schema by a document, and goes by the keywords in it. A keyword that is not among those known
here is not ignored but fails, so that none can be overlooked.

* `Json.validates`: whether a document is valid for a published schema.
* `Schema.validates_toJson`: the published form of a schema says the same as the schema.
* `Json.openApiSchema?`: the schema in a definition.
-/

namespace LinkKeeper

open Json

namespace Json

/-- Whether a document is of the type with a name. -/
def hasType (name : Json) (j : Json) : Bool :=
  match name, j with
  | .text "string", .text _ => true
  | .text "array", .array _ => true
  | .text "object", .object _ => true
  | _, _ => false

/-- Whether an object has members under all these names; any other document does not need them. -/
def hasAll (names : Json) (j : Json) : Bool :=
  match names, j with
  | .array names, .object members => names.all fun n =>
    match n with
    | .text name => (members.lookup name).isSome
    | _ => false
  | .array _, _ => true
  | _, _ => false

mutual

/-- Whether a document is valid for a published schema; null is if the schema is nullable. -/
def validates : Json → Json → Bool
  | .object keywords, .null =>
    match keywords.lookup "nullable" with
    | some (.bool b) => b
    | _ => false
  | .object keywords, j => holdAll keywords j
  | _, _ => false
termination_by structural schema => schema

/-- Whether what the keywords ask for holds of a document. -/
def holdAll : List (String × Json) → Json → Bool
  | [], _ => true
  | (keyword, argument) :: rest, j =>
    (match keyword with
      | "type" => hasType argument j
      | "required" => hasAll argument j
      | "items" =>
        match j with
        | .array l => l.all fun i => argument.validates i
        | _ => true
      | "properties" =>
        match j with
        | .object members => argument.validatesMembers members
        | _ => true
      | "nullable" | "default" | "title" | "description" => true
      | _ => false) && holdAll rest j

/-- Whether the members of an object are valid, each for the schema that is given under its name. -/
def validatesMembers : Json → List (String × Json) → Bool
  | .object properties, members => validatesProperties properties members
  | _, _ => false

def validatesProperties : List (String × Json) → List (String × Json) → Bool
  | [], _ => true
  | (name, schema) :: rest, members =>
    (match members.lookup name with
      | some j => schema.validates j
      | none => true) && validatesProperties rest members

end

/-- The schema of the first version in a definition. -/
def openApiSchema? (definition : Json) : Option Json := do
  let spec ← definition.member? "spec"
  let versions ← spec.member? "versions"
  let version ← match versions with
    | .array l => l.head?
    | _ => none
  let schema ← version.member? "schema"
  schema.member? "openAPIV3Schema"

end Json

namespace Schema

/-- Keywords that are left out ask for nothing. -/
theorem holdAll_written (keyword : String) (argument : Option Json) (others : List (String × Option Json)) (j : Json) :
    holdAll (written ((keyword, argument) :: others)) j =
      ((argument.all fun a => holdAll [(keyword, a)] j) && holdAll (written others) j) := by
  cases argument with
  | none => rfl
  | some a =>
      have nothing : holdAll [] j = true := rfl
      show holdAll ((keyword, a) :: written others) j = _
      rw [Option.all_some, holdAll.eq_def (_ :: _), holdAll.eq_def [_]]
      dsimp only
      rw [nothing, Bool.and_true]

/-- Null is valid where the schema says so. -/
theorem validates_null {keywords : List (String × Option Json)} (distinct : (keywords.map Prod.fst).Nodup)
    {nullable : Bool} (mem : ("nullable", flag nullable) ∈ keywords) :
    validates (.object (written keywords)) .null = nullable := by
  rw [validates, lookup_written distinct mem]
  cases nullable <;> rfl

/-- All names that an array asks for are there. -/
theorem hasAll_ofTexts (names : List String) (members : List (String × Json)) :
    hasAll (ofTexts names) (.object members) = names.all fun name => (members.lookup name).isSome := by
  simp [hasAll, ofTexts, List.all_map, Function.comp_def]

section Record

variable (title description : Option String) (nullable : Bool) (fields : List (String × Schema))
  (required : List String)

/-- The keywords of a record. -/
def recordKeywords : List (String × Option Json) :=
  [("description", description.map .text),
    ("nullable", flag nullable),
    ("properties", some (.object (fieldsToJson fields))),
    ("required", if required.isEmpty then none else some (ofTexts required)),
    ("title", title.map .text),
    ("type", some (.text "object"))]

theorem toJson_record :
    (record title description nullable fields required).toJson =
      .object (written (recordKeywords title description nullable fields required)) := by
  rw [toJson]
  rfl

theorem distinct_recordKeywords : ((recordKeywords title description nullable fields required).map Prod.fst).Nodup :=
  (by decide : ["description", "nullable", "properties", "required", "title", "type"].Nodup)

/-- Of the keywords of a record three ask for something. -/
theorem holdAll_record (j : Json) :
    holdAll (written (recordKeywords title description nullable fields required)) j =
      (holdAll [("properties", .object (fieldsToJson fields))] j &&
        (((if required.isEmpty then none else some (ofTexts required)).all fun a => holdAll [("required", a)] j) &&
          hasType (.text "object") j)) := by
  have nothing (keyword : String) (argument : Option Json) (known : ∀ a, holdAll [(keyword, a)] j = true) :
      (argument.all fun a => holdAll [(keyword, a)] j) = true := by
    cases argument with
    | none => rfl
    | some a => exact known a
  have last : holdAll (written [("type", some (.text "object"))]) j = hasType (.text "object") j := Bool.and_true _
  unfold recordKeywords
  rw [holdAll_written, holdAll_written, holdAll_written, holdAll_written, holdAll_written, last,
    nothing "description" _ fun _ => rfl, nothing "nullable" _ fun _ => rfl, nothing "title" _ fun _ => rfl]
  rfl

end Record

mutual

/-- The published form of a schema accepts the same documents. -/
theorem validates_toJson : (s : Schema) → ∀ j : Json, s.toJson.validates j = s.accepts j
  | text description nullable, j => by
      cases nullable <;> cases j <;> rfl
  | list description hasDefault items, j => by
      have each : items.toJson.validates = items.accepts := funext (validates_toJson items)
      cases j with
      | array l => cases hasDefault <;> simp [toJson, ofFields, validates, holdAll, hasType, accepts, each]
      | _ => cases hasDefault <;> rfl
  | record title description nullable fields required, j => by
      rw [toJson_record]
      cases j with
      | null =>
          rw [accepts]
          exact validates_null (distinct_recordKeywords ..) (by simp [recordKeywords])
      | object members =>
          have properties : holdAll [("properties", .object (fieldsToJson fields))] (.object members) =
              fieldsAccept members fields :=
            (Bool.and_true _).trans (validatesProperties_toJson fields members)
          have names : ((if required.isEmpty then none else some (ofTexts required)).all fun a =>
              holdAll [("required", a)] (.object members)) =
                required.all fun name => (members.lookup name).isSome := by
            cases required with
            | nil => rfl
            | cons name names => exact (Bool.and_true _).trans (hasAll_ofTexts (name :: names) members)
          show holdAll _ _ = _
          rw [holdAll_record, properties, names, accepts]
          exact (congrArg (fieldsAccept members fields && ·) (Bool.and_true _)).trans (Bool.and_comm _ _)
      | _ =>
          show holdAll _ _ = _
          rw [holdAll_record]
          exact (congrArg _ (Bool.and_false _)).trans (Bool.and_false _)

theorem validatesProperties_toJson : (fields : List (String × Schema)) → ∀ members : List (String × Json),
    validatesProperties (fieldsToJson fields) members = fieldsAccept members fields
  | [], _ => by rw [fieldsToJson, validatesProperties, fieldsAccept]
  | (name, s) :: rest, members => by
      rw [fieldsToJson, validatesProperties, fieldsAccept]
      refine congr (congrArg and ?_) (validatesProperties_toJson rest members)
      cases members.lookup name with
      | none => rfl
      | some j => exact validates_toJson s j

end

end Schema

end LinkKeeper
