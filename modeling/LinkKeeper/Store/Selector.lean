import LinkKeeper.Resource.NetworkInterface

/-!
Selectors: which objects a list asks for, told by their labels.

A selector is a text of terms with commas between them. A term with an equals sign asks for a label
with a value, split at the first such sign; a term without one asks for a label with any value.

* `Selector.ofNetwork`: the selector of the interfaces in a network.
* `Selector.selects`: whether an object with some labels is asked for.
-/

namespace LinkKeeper

namespace Selector

/-- The parts of a text between the occurrences of a character. -/
def splitAt (separator : Char) : List Char → List (List Char)
  | [] => [[]]
  | c :: cs =>
    match splitAt separator cs with
    | [] => [[c]]
    | part :: parts => if c = separator then [] :: part :: parts else (c :: part) :: parts

/-- What one term asks for. -/
inductive Term where
  /-- The label has this value. -/
  | equals (label value : String)
  /-- The object has the label. -/
  | has (label : String)
  deriving DecidableEq, Repr

/-- Reads a term. -/
def termOf (cs : List Char) : Term :=
  match cs.dropWhile (· ≠ '=') with
  | [] => .has (String.ofList cs)
  | _ :: value => .equals (String.ofList (cs.takeWhile (· ≠ '='))) (String.ofList value)

/-- The terms of a selector; empty ones ask for nothing. -/
def terms (selector : String) : List Term :=
  ((splitAt ',' selector.toList).filter fun cs => !cs.isEmpty).map termOf

/-- Whether labels satisfy a term. -/
def Term.holds (labels : Table String String) : Term → Bool
  | equals label value => labels.get? label = some value
  | has label => (labels.get? label).isSome

/-- Whether an object with the labels is asked for. -/
def selects (selector : String) (labels : Table String String) : Bool :=
  (terms selector).all (Term.holds labels)

/-- The selector of the interfaces in a network. -/
def ofNetwork (name : String) : String := networkLabel ++ "=" ++ name

theorem splitAt_of_not_mem {separator : Char} {cs : List Char} (absent : separator ∉ cs) :
    splitAt separator cs = [cs] := by
  induction cs with
  | nil => rfl
  | cons c cs ih =>
    simp only [List.mem_cons, not_or] at absent
    simp [splitAt, ih absent.2, Ne.symm absent.1]

/-- A label without an equals sign is read back with its value, whatever signs that holds. -/
theorem termOf_equals {label : List Char} (plain : '=' ∉ label) (value : List Char) :
    termOf (label ++ '=' :: value) = .equals (String.ofList label) (String.ofList value) := by
  have skip : (label ++ '=' :: value).dropWhile (· ≠ '=') = '=' :: value := by
    induction label with
    | nil => simp
    | cons c cs ih =>
      simp only [List.mem_cons, not_or] at plain
      simpa [Ne.symm plain.1] using ih plain.2
  have keep : (label ++ '=' :: value).takeWhile (· ≠ '=') = label := by
    induction label with
    | nil => simp
    | cons c cs ih =>
      simp only [List.mem_cons, not_or] at plain
      rw [List.cons_append, List.dropWhile_cons_of_pos (by simpa using Ne.symm plain.1)] at skip
      simpa [Ne.symm plain.1] using ih plain.2 skip
  simp only [termOf, skip, keep]

end Selector

end LinkKeeper
