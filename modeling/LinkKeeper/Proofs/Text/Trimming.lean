import LinkKeeper.Text.Blank
import LinkKeeper.Text.Number

/-!
Blanks around a text do not matter where it is trimmed, and a text without blanks is its own trimmed form.

* `Text.Padded`, `Text.Padded.trim_eq`: a text with blanks around it.
* `Text.isBlank_of_isDigit`: no digit of any base is blank.
-/

namespace LinkKeeper.Text

variable {cs padded : List Char} {c : Char}

/-- The second text is the first one with blanks around it. -/
def Padded (cs padded : List Char) : Prop :=
  ∃ front back, padded = front ++ cs ++ back ∧ (∀ c ∈ front, isBlank c = true) ∧ ∀ c ∈ back, isBlank c = true

theorem trim_append_blanks {back : List Char} (behind : ∀ c ∈ back, isBlank c = true) (cs : List Char) :
    trim (cs ++ back) = trim cs := by
  induction back generalizing cs with
  | nil => rw [List.append_nil]
  | cons c rest ih =>
      obtain ⟨first, later⟩ := List.forall_mem_cons.mp behind
      rw [List.append_cons, ih later, trim_append_blank first]

theorem trim_blanks_append {front : List Char} (ahead : ∀ c ∈ front, isBlank c = true) (cs : List Char) :
    trim (front ++ cs) = trim cs := by
  induction front with
  | nil => rfl
  | cons c rest ih =>
      obtain ⟨first, later⟩ := List.forall_mem_cons.mp ahead
      rw [List.cons_append, trim_cons_blank first, ih later]

theorem Padded.trim_eq (pads : Padded cs padded) : trim padded = trim cs := by
  obtain ⟨front, back, rfl, ahead, behind⟩ := pads
  rw [trim_append_blanks behind, trim_blanks_append ahead]

theorem trim_of_shown (shown : ∀ c ∈ cs, isBlank c = false) : trim cs = cs := by
  have whole {ds : List Char} (shown : ∀ c ∈ ds, isBlank c = false) : ds.dropWhile isBlank = ds := by
    cases ds with
    | nil => rfl
    | cons d ds => simp [shown d]
  unfold trim trimEnd
  rw [whole shown, whole, List.reverse_reverse]
  intro c mem
  exact shown c (List.mem_reverse.mp mem)

/-- The digits of every base are among the letters and the ten digits. -/
theorem toNat_of_isDigit_base {base : Nat} (digit : isDigit base c = true) : 48 ≤ c.toNat ∧ c.toNat ≤ 122 := by
  unfold isDigit digit? at digit
  dsimp only at digit
  split at digit
  · rename_i own
    obtain ⟨low, high⟩ := own
    have low : 48 ≤ c.toNat := low
    have high : c.toNat ≤ 57 := high
    omega
  · split at digit
    · rename_i own
      obtain ⟨low, high⟩ := own
      have low : 97 ≤ c.toNat := low
      have high : c.toNat ≤ 122 := high
      omega
    · split at digit
      · rename_i own
        obtain ⟨low, high⟩ := own
        have low : 65 ≤ c.toNat := low
        have high : c.toNat ≤ 90 := high
        omega
      · simp at digit

theorem isBlank_of_isDigit {base : Nat} (digit : isDigit base c = true) : isBlank c = false := by
  obtain ⟨low, high⟩ := toNat_of_isDigit_base digit
  simp [isBlank, blankRanges]
  omega

end LinkKeeper.Text
