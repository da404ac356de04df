/-!
Blank characters and trimming.

Names, addresses and numbers that people write into an environment or into an object may be
padded with blanks; they are trimmed before they are read.

* `isBlank_of_isWhitespace`: every character that core calls white space is blank here.
* `trim_append_blank`, `trim_cons_blank`: padding changes nothing.
* `trim_eq_nil_iff`: only a text of blanks is trimmed to nothing.
-/

namespace LinkKeeper.Text

/-- The ranges of characters with the property White_Space of the Unicode standard. -/
def blankRanges : List (Nat × Nat) :=
  [(0x09, 0x0D), (0x20, 0x20), (0x85, 0x85), (0xA0, 0xA0), (0x1680, 0x1680), (0x2000, 0x200A),
    (0x2028, 0x2029), (0x202F, 0x202F), (0x205F, 0x205F), (0x3000, 0x3000)]

/-- A character is blank when it has the property White_Space. -/
def isBlank (c : Char) : Bool :=
  blankRanges.any fun r => r.1 ≤ c.toNat && c.toNat ≤ r.2

theorem isBlank_of_isWhitespace {c : Char} (h : c.isWhitespace = true) : isBlank c = true := by
  simp only [Char.isWhitespace, Bool.or_eq_true, decide_eq_true_eq] at h
  rcases h with ((rfl | rfl) | rfl) | rfl <;> decide

/-- A text without the blanks at its end. -/
def trimEnd (cs : List Char) : List Char :=
  (cs.reverse.dropWhile isBlank).reverse

/-- A text without the blanks at its two ends. -/
def trim (cs : List Char) : List Char :=
  trimEnd (cs.dropWhile isBlank)

/-- The trimmed form of a string. -/
def trimmed (s : String) : String :=
  String.ofList (trim s.toList)

theorem trimEnd_append_blank {c : Char} (blank : isBlank c = true) (cs : List Char) :
    trimEnd (cs ++ [c]) = trimEnd cs := by
  simp [trimEnd, blank]

theorem trim_cons_blank {c : Char} (blank : isBlank c = true) (cs : List Char) :
    trim (c :: cs) = trim cs := by
  simp [trim, blank]

theorem trim_append_blank {c : Char} (blank : isBlank c = true) (cs : List Char) :
    trim (cs ++ [c]) = trim cs := by
  unfold trim
  induction cs with
  | nil => simp [trimEnd, blank]
  | cons d cs ih =>
    by_cases h : isBlank d = true
    · simpa [h] using ih
    · simp only [List.cons_append, List.dropWhile_cons, h]
      exact trimEnd_append_blank blank (d :: cs)

/-- Only a text of blanks has nothing left when it is trimmed. -/
theorem trim_eq_nil_iff {cs : List Char} : trim cs = [] ↔ ∀ c ∈ cs, isBlank c = true := by
  induction cs with
  | nil => simp [trim, trimEnd]
  | cons d cs ih =>
    by_cases h : isBlank d = true
    · rw [trim_cons_blank h, ih]
      simp [h]
    · constructor
      · intro nothing
        have last : d ∈ (d :: cs).reverse.dropWhile isBlank := by
          have kept : ∀ xs : List Char, d ∈ (xs ++ [d]).dropWhile isBlank := by
            intro xs
            induction xs with
            | nil => simp [h]
            | cons x xs ih => by_cases hx : isBlank x = true <;> simp [hx, ih]
          simpa using kept cs.reverse
        have gone : (d :: cs).reverse.dropWhile isBlank = [] := by
          simpa [trim, trimEnd, h] using nothing
        rw [gone] at last
        exact absurd last List.not_mem_nil
      · intro all
        exact absurd (all d (by simp)) h

end LinkKeeper.Text
