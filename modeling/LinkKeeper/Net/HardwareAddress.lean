/-!
Hardware addresses are compared without regard to the case of ASCII letters.

* `sameHardwareAddress_iff`: two addresses are the same when their folded forms are equal.
* `foldCase_foldCase`: folding twice is folding once.
-/

namespace LinkKeeper.Net

/-- The text with its ASCII letters made small. -/
def foldCase (s : String) : String := String.ofList (s.toList.map Char.toLower)

/-- Whether two texts name the same hardware address. -/
def sameHardwareAddress (a b : String) : Bool := foldCase a = foldCase b

theorem sameHardwareAddress_iff {a b : String} :
    sameHardwareAddress a b = true ↔ foldCase a = foldCase b := by
  simp [sameHardwareAddress]

theorem toLower_toLower (c : Char) : c.toLower.toLower = c.toLower := by
  unfold Char.toLower
  split
  · rename_i capital
    split
    · rename_i still
      have := capital.1
      have := capital.2
      have := still.2
      simp [UInt32.le_iff_toNat_le, UInt32.toNat_add] at *
      omega
    · rfl
  · rfl

@[simp] theorem foldCase_foldCase (s : String) : foldCase (foldCase s) = foldCase s := by
  simp only [foldCase, String.toList_ofList, List.map_map, Function.comp_def, toLower_toLower]

end LinkKeeper.Net
