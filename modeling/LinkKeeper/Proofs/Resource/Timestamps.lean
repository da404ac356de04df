import LinkKeeper.Proofs.Net.Digits
import LinkKeeper.Resource.Timestamp

/-!
Points in time are read back from their texts.

More texts are read than are written, and what is read from any of them is a date and a time of day that there are.

* `Timestamp.readNumber_padded`: numbers with zeros in front.
* `Timestamp.parse?_text`: a point in time is read back from its text.
* `Timestamp.isValid_of_parse?`: what is read from any text is a point in time.
-/

namespace LinkKeeper

/-- The first of two readers has read something. -/
theorem bind_of_some {α β : Type} {x : Option α} {a : α} {f : α → Option β} (read : x = some a) : (x >>= f) = f a := by
  rw [read]
  rfl

namespace Timestamp

open Text

/-! ### Numbers of a width -/

theorem ofDigits_padded (width n : Nat) : ofDigits 10 (padded width n) = n := by
  have zeros (k : Nat) (cs : List Char) : ofDigits 10 (List.replicate k '0' ++ cs) = ofDigits 10 cs := by
    induction k with
    | zero => rfl
    | succ k ih => exact ih
  exact (zeros _ _).trans (ofDigits_digits reads_ten n)

theorem isDigit_of_mem_padded {width n : Nat} : ∀ c ∈ padded width n, isDigit 10 c = true := by
  intro c mem
  rcases List.mem_append.mp mem with zero | digit
  · rw [List.eq_of_mem_replicate zero]
    decide
  · exact isDigit_of_mem_digits reads_ten c digit

theorem padded_ne_nil (width n : Nat) : padded width n ≠ [] := by
  simp [padded, digits_ne_nil]

theorem length_padded {width n : Nat} (positive : 0 < width) (small : n < Nat.pow 10 width) :
    (padded width n).length = width := by
  have short : (digits 10 n).length ≤ width := (Nat.length_toDigits_le_iff (by decide) positive).mpr small
  simp only [padded, List.length_append, List.length_replicate]
  omega

/-- A number is read up to its end, or up to the width. -/
theorem readNumber_append {width : Nat} {ds rest : List Char} (nonempty : ds ≠ [])
    (all : ∀ c ∈ ds, isDigit 10 c = true) (short : ds.length ≤ width)
    (stops : ds.length = width ∨ EndsDigits 10 rest) :
    readNumber width (ds ++ rest) = some (ofDigits 10 ds, rest) := by
  have taken : ((ds ++ rest).take width).takeWhile (isDigit 10) = ds := by
    rw [List.take_append, List.take_of_length_le short, List.takeWhile_append_of_pos all]
    rcases stops with full | ends
    · simp [full]
    · cases rest with
      | nil => simp
      | cons c cs =>
          have stop := ends c rfl
          cases width - ds.length <;> simp [stop]
  unfold readNumber
  rw [taken]
  simp [nonempty]

theorem readNumber_padded {width n : Nat} (positive : 0 < width) (small : n < Nat.pow 10 width) (rest : List Char) :
    readNumber width (padded width n ++ rest) = some (n, rest) := by
  have length := length_padded positive small
  rw [readNumber_append (padded_ne_nil width n) isDigit_of_mem_padded (Nat.le_of_eq length) (.inl length),
    ofDigits_padded]

/-! ### The parts of a text -/

theorem toNat_of_isDigit {c : Char} (digit : isDigit 10 c = true) : 48 ≤ c.toNat ∧ c.toNat ≤ 57 := by
  by_cases decimal : '0' ≤ c ∧ c ≤ '9'
  · exact decimal
  · have large : digit? 10 c = none := by
      unfold digit?
      rw [if_neg decimal, if_neg]
      split
      · omega
      · split <;> omega
    simp [isDigit, large] at digit

theorem skipBlanks_cons {c : Char} (shown : isBlank c = false) (cs : List Char) : skipBlanks (c :: cs) = c :: cs := by
  simp [skipBlanks, shown]

/-- No blank is skipped in front of a digit. -/
theorem skipBlanks_digits {ds : List Char} (nonempty : ds ≠ []) (all : ∀ c ∈ ds, isDigit 10 c = true)
    (rest : List Char) : skipBlanks (ds ++ rest) = ds ++ rest := by
  cases ds with
  | nil => exact absurd rfl nonempty
  | cons d ds =>
      have shown : isBlank d = false := by
        obtain ⟨low, high⟩ := toNat_of_isDigit (all d (by simp))
        simp [isBlank, blankRanges]
        omega
      exact skipBlanks_cons shown _

theorem readMark_cons {mark : Char} (shown : isBlank mark = false) (rest : List Char) :
    readMark mark (mark :: rest) = some rest := by
  simp [readMark, skipBlanks_cons shown]

theorem readPair_padded {n : Nat} (small : n < 100) (rest : List Char) :
    readPair (padded 2 n ++ rest) = some (n, rest) := by
  unfold readPair
  rw [skipBlanks_digits (padded_ne_nil 2 n) isDigit_of_mem_padded]
  exact readNumber_padded (by decide) small rest

theorem readYear_yearChars (year : Int) {rest : List Char} (ends : EndsDigits 10 rest) :
    readYear (yearChars year ++ rest) = some (year, rest) := by
  unfold yearChars
  by_cases plain : 0 ≤ year ∧ year ≤ 9999
  · rw [if_pos plain]
    have size : (year.toNat : Int) = year := by omega
    have small : year.toNat < Nat.pow 10 4 := by show year.toNat < 10000; omega
    have read := readNumber_padded (by decide) small rest
    have shown := skipBlanks_digits (padded_ne_nil 4 year.toNat) isDigit_of_mem_padded rest
    cases written : padded 4 year.toNat with
    | nil => exact absurd written (padded_ne_nil _ _)
    | cons d ds =>
        have digit : isDigit 10 d = true := isDigit_of_mem_padded d (by rw [written]; simp)
        have unsigned : d ≠ '-' ∧ d ≠ '+' := by
          constructor <;> (rintro rfl; revert digit; decide)
        rw [written, List.cons_append] at read shown
        simp [readYear, shown, unsigned, read, size]
  · rw [if_neg plain]
    have read := @readNumber_append (padded 4 year.natAbs ++ rest).length _ rest (padded_ne_nil 4 year.natAbs)
      isDigit_of_mem_padded (by simp) (.inr ends)
    rw [ofDigits_padded] at read
    by_cases negative : year < 0
    · have size : -(year.natAbs : Int) = year := by omega
      have shown (cs : List Char) : skipBlanks ('-' :: cs) = '-' :: cs := skipBlanks_cons (by decide) cs
      rw [if_pos negative, List.cons_append]
      unfold readYear
      rw [shown]
      show (readNumber _ (padded 4 year.natAbs ++ rest)).map _ = _
      rw [read, Option.map_some]
      exact congrArg (fun year => some (year, rest)) size
    · have size : (year.natAbs : Int) = year := by omega
      have shown (cs : List Char) : skipBlanks ('+' :: cs) = '+' :: cs := skipBlanks_cons (by decide) cs
      rw [if_neg negative, List.cons_append]
      unfold readYear
      rw [shown]
      show (readNumber _ (padded 4 year.natAbs ++ rest)).map _ = _
      rw [read, Option.map_some]
      exact congrArg (fun year => some (year, rest)) size

/-! ### Whole texts -/

theorem daysIn_bounds (year : Int) (month : Nat) : 28 ≤ daysIn year month ∧ daysIn year month ≤ 31 := by
  unfold daysIn
  split
  · split <;> decide
  all_goals decide

/-- The parts of a point in time. -/
theorem isValid_iff {t : Timestamp} :
    t.isValid = true ↔ yearInRange t.year = true ∧ 1 ≤ t.month ∧ t.month ≤ 12 ∧ 1 ≤ t.day ∧
      t.day ≤ daysIn t.year t.month ∧ t.hour < 24 ∧ t.minute < 60 ∧ t.second ≤ 60 := by
  simp only [isValid, Bool.and_eq_true, decide_eq_true_eq, and_assoc]

/-- A point in time is read back from its text. -/
theorem parse?_text {t : Timestamp} (valid : t.isValid = true) : parse? t.text = some t := by
  obtain ⟨year, month, day, hour, minute, second⟩ := t
  have parts := isValid_iff.mp valid
  obtain ⟨inRange, -, months, -, days, hours, minutes, seconds⟩ := parts
  dsimp only at months days hours minutes seconds inRange
  have dash (rest : List Char) : EndsDigits 10 ('-' :: rest) := by
    rintro c head
    obtain rfl := Option.some.inj head
    decide
  have short := (daysIn_bounds year month).2
  have unshifted := shifted_zero (t := ⟨year, month, day, hour, minute, second⟩) hours minutes
  have read : readChars (chars ⟨year, month, day, hour, minute, second⟩) =
      some ⟨year, month, day, hour, minute, second⟩ := by
    have hyphen : isBlank '-' = false := by decide
    have colon : isBlank ':' = false := by decide
    unfold chars readChars
    simp only [List.append_assoc, List.cons_append]
    refine (bind_of_some (readYear_yearChars year (dash _))).trans ?_
    refine (bind_of_some (readMark_cons hyphen _)).trans ?_
    refine (bind_of_some (readPair_padded (by omega) _)).trans ?_
    refine (bind_of_some (readMark_cons hyphen _)).trans ?_
    refine (bind_of_some (readPair_padded (by omega) _)).trans ?_
    refine (bind_of_some (readPair_padded (by omega) _)).trans ?_
    refine (bind_of_some (readMark_cons colon _)).trans ?_
    refine (bind_of_some (readPair_padded (by omega) _)).trans ?_
    refine (bind_of_some (readMark_cons colon _)).trans ?_
    refine (bind_of_some (readPair_padded (by omega) _)).trans ?_
    show (if Timestamp.isValid ⟨year, month, day, hour, minute, second⟩ && true && true then
      (some (Timestamp.shifted ⟨year, month, day, hour, minute, second⟩ 0)).filter fun t => yearInRange t.year
        else none) = _
    rw [valid, unshifted]
    simp [inRange]
  simp [parse?, text, read]

/-- Whether there is such a date. -/
structure IsDate (date : Int × Nat × Nat) : Prop where
  month : 1 ≤ date.2.1 ∧ date.2.1 ≤ 12
  day : 1 ≤ date.2.2 ∧ date.2.2 ≤ daysIn date.1 date.2.1

section Dates

variable {year : Int} {month day : Nat} (date : IsDate (year, month, day))
include date

theorem isDate_nextDate : IsDate (nextDate year month day) := by
  obtain ⟨⟨low, high⟩, first, last⟩ := date
  have some_day := (daysIn_bounds year (month + 1)).1
  unfold nextDate
  split
  · exact ⟨⟨low, high⟩, by dsimp only; omega, by assumption⟩
  · split
    · exact ⟨⟨by dsimp only; omega, by dsimp only; omega⟩, Nat.le_refl 1, by dsimp only; omega⟩
    · have some_day := (daysIn_bounds (year + 1) 1).1
      exact ⟨⟨Nat.le_refl 1, by dsimp only; omega⟩, Nat.le_refl 1, by dsimp only; omega⟩

theorem isDate_previousDate : IsDate (previousDate year month day) := by
  obtain ⟨⟨low, high⟩, first, last⟩ := date
  dsimp only at low high first last
  have some_day := (daysIn_bounds year (month - 1)).1
  unfold previousDate
  split
  · exact ⟨⟨low, high⟩, by dsimp only; omega, by dsimp only; omega⟩
  · split
    · exact ⟨⟨by dsimp only; omega, by dsimp only; omega⟩, by dsimp only; omega, Nat.le_refl _⟩
    · exact ⟨⟨by dsimp only; omega, Nat.le_refl 12⟩, by dsimp only; omega, Nat.le_refl 31⟩

end Dates

/-- A clock that goes ahead shows a date that there is: the same one, or the one before or after it. -/
theorem isValid_shifted {t : Timestamp} (valid : t.isValid = true) (ahead : Int)
    (inRange : yearInRange (t.shifted ahead).year = true) : (t.shifted ahead).isValid = true := by
  obtain ⟨year, month, day, hour, minute, second⟩ := t
  obtain ⟨-, low, high, first, last, -, -, seconds⟩ := isValid_iff.mp valid
  have date : IsDate (year, month, day) := ⟨⟨low, high⟩, first, last⟩
  refine isValid_iff.mpr ⟨inRange, ?_⟩
  unfold shifted
  dsimp only
  generalize (hour : Int) * 60 + minute - ahead = minutes
  have clock : (minutes % 1440).toNat / 60 < 24 ∧ (minutes % 1440).toNat % 60 < 60 := by omega
  have shown : IsDate
      (if minutes < 0 then previousDate year month day
        else if 1440 ≤ minutes then nextDate year month day else (year, month, day)) := by
    split
    · exact isDate_previousDate date
    · split
      · exact isDate_nextDate date
      · exact date
  exact ⟨shown.month.1, shown.month.2, shown.day.1, shown.day.2, clock.1, clock.2, seconds⟩

/-- Nothing but points in time comes out. -/
def Gives (x : Option Timestamp) : Prop := ∀ t, x = some t → t.isValid = true

theorem gives_bind {α : Type} {x : Option α} {f : α → Option Timestamp} (each : ∀ a, Gives (f a)) :
    Gives (x >>= f) := by
  intro t read
  obtain ⟨a, -, read⟩ := Option.bind_eq_some_iff.mp read
  exact each a t read

theorem gives_readChars (cs : List Char) : Gives (readChars cs) := by
  unfold readChars
  refine gives_bind fun year => gives_bind fun dash => gives_bind fun month => gives_bind fun dash =>
    gives_bind fun day => ?_
  dsimp only
  split
  -- However the date and the time of day are set apart, the rest is read the same way.
  all_goals
    refine gives_bind fun time => gives_bind fun hour => gives_bind fun colon => gives_bind fun minute =>
      gives_bind fun colon => gives_bind fun second => gives_bind fun fraction => gives_bind fun zone => ?_
    split
    · rename_i checked
      intro t shown
      obtain ⟨same, inRange⟩ := Option.filter_eq_some_iff.mp shown
      cases same
      simp only [Bool.and_eq_true] at checked
      exact isValid_shifted checked.1.1 _ inRange
    · exact fun _ none => nomatch none

/-- What is read from a text is a point in time. -/
theorem isValid_of_parse? {s : String} {t : Timestamp} (read : parse? s = some t) : t.isValid = true :=
  gives_readChars s.toList t read

end Timestamp

end LinkKeeper
