/-!
JSON documents.

* `Json.depth`: how deep the arrays and objects of a document are nested.
* `Json.member?`: the member of an object under a name.
-/

namespace LinkKeeper

/-- A number as it is written: the digits after the point and the power of ten are kept apart. -/
structure JsonNumber where
  negative : Bool
  whole : Nat
  fraction : Option String
  exponent : Option Int
  deriving DecidableEq, Repr

/-- A JSON document. -/
inductive Json where
  | null
  | bool (b : Bool)
  | number (n : JsonNumber)
  | text (s : String)
  | array (items : List Json)
  | object (members : List (String × Json))
  /-- A text or an object with a name in which an escape leaves half a surrogate pair alone. It is
  well formed, but it has no value: a reader that does not skip it fails. -/
  | unreadable
  deriving Repr, Inhabited

namespace JsonNumber

/-- The number as a whole one, when it is written without a fraction and without a power of ten.
A negative zero is no whole number. -/
def toInt? (n : JsonNumber) : Option Int :=
  match n.fraction, n.exponent with
  | none, none =>
    if n.negative then (if n.whole = 0 then none else some (-(n.whole : Int))) else some n.whole
  | _, _ => none

/-- A whole number. -/
def ofInt (i : Int) : JsonNumber := ⟨i < 0, i.natAbs, none, none⟩

theorem toInt?_ofInt (i : Int) : (ofInt i).toInt? = some i := by
  by_cases h : i < 0
  · have nonzero : i.natAbs ≠ 0 := by omega
    have size : (i.natAbs : Int) = -i := by omega
    simp only [toInt?, ofInt, h, decide_true, if_true, nonzero, if_false, size, Int.neg_neg]
  · have size : (i.natAbs : Int) = i := by omega
    simp only [toInt?, ofInt, h, decide_false, Bool.false_eq_true, if_false, size]

end JsonNumber

namespace Json

/-- A whole number as a document. -/
def ofNat (n : Nat) : Json := .number (.ofInt n)

mutual

/-- How many arrays and objects stand inside each other. -/
def depth : Json → Nat
  | .array items => depthOfItems items + 1
  | .object members => depthOfMembers members + 1
  | _ => 0

def depthOfItems : List Json → Nat
  | [] => 0
  | j :: rest => max j.depth (depthOfItems rest)

def depthOfMembers : List (String × Json) → Nat
  | [] => 0
  | (_, j) :: rest => max j.depth (depthOfMembers rest)

end

/-- The member under a name; of repeated ones the first. -/
def member? (name : String) : Json → Option Json
  | .object members => members.lookup name
  | _ => none

end Json

end LinkKeeper
