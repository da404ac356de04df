/-!
Keys: which object a pass is about.

* `ObjectKey.of?`: the key of a named object; an absent namespace is the empty one.
* `ObjectKey.text`: how a key is shown.
-/

namespace LinkKeeper

/-- The name and the namespace of an object. -/
structure ObjectKey where
  name : String
  namespaceName : String
  deriving DecidableEq, Repr, Inhabited

namespace ObjectKey

/-- The key of an object with these optional parts. -/
def of? (name namespaceName : Option String) : Option ObjectKey :=
  name.map fun n => ⟨n, namespaceName.getD ""⟩

/-- The name alone, or after the namespace if there is one. -/
def text (k : ObjectKey) : String :=
  if k.namespaceName = "" then k.name else k.namespaceName ++ "/" ++ k.name

/-- Keys are ordered by name, then by namespace. -/
instance : Ord ObjectKey :=
  ⟨compareLex (compareOn ObjectKey.name) (compareOn ObjectKey.namespaceName)⟩

theorem compare_def (a b : ObjectKey) :
    compare a b = (compare a.name b.name).then (compare a.namespaceName b.namespaceName) := rfl

instance : Std.TransOrd ObjectKey :=
  inferInstanceAs
    (Std.TransCmp (compareLex (compareOn ObjectKey.name) (compareOn ObjectKey.namespaceName)))

instance : Std.LawfulEqOrd ObjectKey where
  eq_of_compare := by
    intro a b h
    obtain ⟨_, _⟩ := a
    obtain ⟨_, _⟩ := b
    rw [compare_def, Ordering.then_eq_eq] at h
    simpa using And.intro (Std.LawfulEqCmp.eq_of_compare h.1) (Std.LawfulEqCmp.eq_of_compare h.2)

end ObjectKey

end LinkKeeper
