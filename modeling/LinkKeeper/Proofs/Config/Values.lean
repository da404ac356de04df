import LinkKeeper.Config
import LinkKeeper.Proofs.Net.Endpoints
import Mathlib.Data.List.TakeWhile
import Mathlib.Tactic.SplitIfs

/-!
Which texts are the value of a variable.

A number is told by its digits, however it is read; so is why a text is none. A variable that is not set has its
default, and the text of one that is set is trimmed first.

* `Text.IsWord`, `Text.WordFault`: numbers of sixty-four bits, and what is wrong with other texts.
* `Text.readBounded_eq`: a number is read at once, though its digits are looked at one by one.
* `Config.IsSeconds`, `Config.IsSwitch`: the other values.
* `Config.Decides`: a reader told by the texts that it accepts and by what it reports of the other ones.
* `Config.valueOf_cases`: a variable has a value, or the fault in its text is reported.
-/

namespace LinkKeeper

open Net

/-! ### Numbers -/

namespace Text

variable {bound n : Nat} {cs : List Char}

/-- The text without a plus sign in front. -/
def unsigned : List Char → List Char
  | '+' :: cs => cs
  | cs => cs

/-- One or more decimal digits, maybe after a plus sign, that stand for a number of sixty-four bits. -/
def IsWord (cs : List Char) (n : Nat) : Prop := Spells 10 (unsigned cs) n ∧ n ≤ maxWord64

/-- What is wrong with a text that is no such number: it is empty, its digits up to the first other character are too
large a number, or there are none or another character. -/
inductive WordFault : List Char → NumberError → Prop where
  | empty : WordFault [] .empty
  | tooLarge {cs : List Char} (large : maxWord64 < ofDigits 10 ((unsigned cs).takeWhile (isDigit 10))) :
      WordFault cs .tooLarge
  | invalidDigit {cs : List Char} (written : cs ≠ [])
      (small : ofDigits 10 ((unsigned cs).takeWhile (isDigit 10)) ≤ maxWord64)
      (other : unsigned cs = [] ∨ ∃ c ∈ unsigned cs, isDigit 10 c = false) : WordFault cs .invalidDigit

/-- Digits that are read one by one pass the bound if those up to the first other character do. -/
theorem readDigits_eq (fits : n ≤ bound) (cs : List Char) :
    readDigits bound n cs =
      if bound < ofDigitsAfter n (cs.takeWhile (isDigit 10)) then .error .tooLarge
      else if cs.all (isDigit 10) then .ok (ofDigitsAfter n cs)
      else .error .invalidDigit := by
  induction cs generalizing n with
  | nil => simp [readDigits, ofDigitsAfter, Nat.not_lt.mpr fits]
  | cons c cs ih =>
      rw [readDigits]
      cases digit : digit? 10 c with
      | none =>
          have other : isDigit 10 c = false := by rw [isDigit, digit]; rfl
          simp [other, ofDigitsAfter, Nat.not_lt.mpr fits]
      | some d =>
          have own : isDigit 10 c = true := by rw [isDigit, digit]; rfl
          have step (ds : List Char) : ofDigitsAfter n (c :: ds) = ofDigitsAfter (n * 10 + d) ds := by
            simp [ofDigitsAfter, digit]
          dsimp only
          rw [List.takeWhile_cons_of_pos own, step, step]
          by_cases large : bound < n * 10 + d
          · rw [if_pos large, if_pos (Nat.lt_of_lt_of_le large (le_ofDigitsAfter _ _))]
          · rw [if_neg large, ih (Nat.not_lt.mp large)]
            simp [own]

theorem readBounded_eq (bound : Nat) (cs : List Char) :
    readBounded bound cs =
      if cs = [] then .error .empty
      else if bound < ofDigits 10 ((unsigned cs).takeWhile (isDigit 10)) then .error .tooLarge
      else if unsigned cs ≠ [] ∧ (unsigned cs).all (isDigit 10) then .ok (ofDigits 10 (unsigned cs))
      else .error .invalidDigit := by
  have digits {ds : List Char} (some_digits : ds ≠ []) : readDigits bound 0 ds =
      if bound < ofDigits 10 (ds.takeWhile (isDigit 10)) then .error .tooLarge
      else if ds ≠ [] ∧ ds.all (isDigit 10) then .ok (ofDigits 10 ds)
      else .error .invalidDigit := by
    have same (es : List Char) : ofDigitsAfter 0 es = ofDigits 10 es := rfl
    rw [readDigits_eq (Nat.zero_le bound) ds, same, same]
    simp only [ne_eq, some_digits, not_false_eq_true, true_and]
  unfold readBounded
  split
  · rfl
  · simp [unsigned, ofDigits]
  · rename_i ds lone
    have some_digits : ds ≠ [] := fun none_left => lone (by rw [none_left])
    rw [if_neg (by simp)]
    exact digits some_digits
  · rename_i written lone signed
    have plain : unsigned cs = cs := by
      unfold unsigned
      split
      · rename_i ds
        exact absurd rfl (signed ds)
      · rfl
    rw [if_neg written, plain]
    exact digits written

theorem readBounded_eq_ok_iff : readBounded maxWord64 cs = .ok n ↔ IsWord cs n := by
  rw [readBounded_eq]
  constructor
  · intro read
    split_ifs at read with empty large proper
    obtain rfl := Except.ok.inj read
    have all := List.all_eq_true.mp proper.2
    rw [List.takeWhile_eq_self_iff.mpr all] at large
    exact ⟨⟨proper.1, all, rfl⟩, Nat.not_lt.mp large⟩
  · rintro ⟨spells, small⟩
    have written : cs ≠ [] := by
      rintro rfl
      exact spells.nonempty rfl
    have proper : unsigned cs ≠ [] ∧ (unsigned cs).all (isDigit 10) = true :=
      ⟨spells.nonempty, List.all_eq_true.mpr spells.digits⟩
    rw [if_neg written, List.takeWhile_eq_self_iff.mpr spells.digits, spells.value, if_neg (Nat.not_lt.mpr small),
      if_pos proper]

theorem readBounded_eq_error_iff {fault : NumberError} :
    readBounded maxWord64 cs = .error fault ↔ WordFault cs fault := by
  rw [readBounded_eq]
  constructor
  · intro read
    split_ifs at read with empty large proper <;> obtain rfl := Except.error.inj read
    · rw [empty]
      exact .empty
    · exact .tooLarge large
    · refine .invalidDigit empty (Nat.not_lt.mp large) ?_
      simpa [← or_iff_not_imp_left] using proper
  · rintro (_ | large | ⟨written, small, other⟩)
    · rfl
    · have written : cs ≠ [] := by
        rintro rfl
        exact absurd large (by decide)
      rw [if_neg written, if_pos large]
    · have improper : ¬(unsigned cs ≠ [] ∧ (unsigned cs).all (isDigit 10) = true) := by
        simpa [← or_iff_not_imp_left] using other
      rw [if_neg written, if_neg (Nat.not_lt.mpr small), if_neg improper]

end Text

/-! ### Values -/

namespace Config

open Text

/-- A number of seconds, as a length of time. -/
def IsSeconds (cs : List Char) (d : Duration) : Prop := ∃ n, IsWord cs n ∧ d.nanos = n * 1000000000

/-- A switch that is on or off. -/
inductive IsSwitch : List Char → Bool → Prop where
  | on : IsSwitch "true".toList true
  | off : IsSwitch "false".toList false

/-- Seconds that are a number of sixty-four bits fit into a length of time. -/
theorem nanos_ofSeconds {n : Nat} (small : n ≤ maxWord64) : (Duration.ofSeconds n).nanos = n * 1000000000 := by
  have fits : n * 1000000000 ≤ Duration.limit := by
    unfold Duration.limit
    unfold maxWord64 at small
    omega
  exact Nat.min_eq_left fits

/-- A reader accepts these texts, with these values, and reports this of the other ones. -/
structure Decides {α : Type} (read : List Char → Except ValueFault α) (isText : List Char → α → Prop)
    (faulty : List Char → ValueFault → Prop) : Prop where
  ok : ∀ cs a, read cs = .ok a ↔ isText cs a
  error : ∀ cs fault, read cs = .error fault ↔ faulty cs fault

/-- What is reported of a text that is no number. -/
def NoNumber (cs : List Char) (fault : ValueFault) : Prop := ∃ cause, WordFault cs cause ∧ fault = .number cause

/-- What is reported of a text that is no switch. -/
def NoSwitch (cs : List Char) (fault : ValueFault) : Prop := (∀ b, ¬ IsSwitch cs b) ∧ fault = .noSwitch

/-- What is reported of a text that is no address with a port. -/
def NoEndpoint (cs : List Char) (fault : ValueFault) : Prop := (∀ e, ¬ Written.Endpoint cs e) ∧ fault = .noEndpoint

theorem decides_readWord : Decides readWord IsWord NoNumber where
  ok cs n := by
    rw [← readBounded_eq_ok_iff, readWord]
    cases readBounded maxWord64 cs <;> simp [Except.mapError]
  error cs fault := by
    simp only [NoNumber, ← readBounded_eq_error_iff]
    rw [readWord]
    cases readBounded maxWord64 cs <;> simp [Except.mapError, eq_comm]

theorem decides_readSeconds : Decides readSeconds IsSeconds NoNumber where
  ok cs d := by
    unfold readSeconds IsSeconds
    simp only [← decides_readWord.ok]
    cases read : readWord cs with
    | error fault => simp [Except.map]
    | ok n =>
        have small : n ≤ maxWord64 := ((decides_readWord.ok cs n).mp read).2
        simp only [Except.map, Except.ok.injEq, exists_eq_left']
        rw [← nanos_ofSeconds small, eq_comm]
        exact ⟨fun same => congrArg _ same, Duration.ext_nanos⟩
  error cs fault := by
    rw [← decides_readWord.error, readSeconds]
    cases readWord cs <;> simp [Except.map]

theorem readSwitch_eq_ok_iff {cs : List Char} {b : Bool} : readSwitch cs = .ok b ↔ IsSwitch cs b := by
  unfold readSwitch
  constructor
  · intro read
    split_ifs at read with on off
    · obtain rfl := Except.ok.inj read
      rw [on]
      exact .on
    · obtain rfl := Except.ok.inj read
      rw [off]
      exact .off
  · rintro (_ | _) <;> decide

theorem decides_readSwitch : Decides readSwitch IsSwitch NoSwitch where
  ok _ _ := readSwitch_eq_ok_iff
  error cs fault := by
    simp only [NoSwitch, ← readSwitch_eq_ok_iff]
    unfold readSwitch
    split_ifs <;> simp [eq_comm]

theorem decides_readEndpoint : Decides readEndpoint Written.Endpoint NoEndpoint where
  ok cs e := by
    rw [← Endpoint.parse?_eq_some_iff, readEndpoint]
    cases Endpoint.parse? cs <;> simp
  error cs fault := by
    simp only [NoEndpoint, ← Endpoint.parse?_eq_some_iff]
    rw [readEndpoint]
    cases Endpoint.parse? cs <;> simp [eq_comm]

/-! ### Variables -/

section Variables

variable {α : Type} {env : Environment} {name : String} {default : α} {read : List Char → Except ValueFault α}
  {isText : List Char → α → Prop} {faulty : List Char → ValueFault → Prop}

/-- What a variable is worth: its default if it is not set, and else what its trimmed text says. -/
def Worth (env : Environment) (name : String) (default : α) (isText : List Char → α → Prop) (a : α) : Prop :=
  (env name = none ∧ a = default) ∨ ∃ value, env name = some value ∧ isText (trim value.toList) a

/-- The variable is not set, or its trimmed text is of its kind. -/
def Proper (env : Environment) (name : String) (isText : List Char → α → Prop) : Prop :=
  ∀ value, env name = some value → ∃ a, isText (trim value.toList) a

/-- The fault in the text of the variable, told with the text as it is. -/
def Faulty (env : Environment) (name : String) (faulty : List Char → ValueFault → Prop) (e : ConfigError) : Prop :=
  ∃ value fault, env name = some value ∧ faulty (trim value.toList) fault ∧ e = .badValue name value fault

/-- The variable is named at the front of what is told. -/
theorem Faulty.names {e : ConfigError} (fault : Faulty env name faulty e) : ∃ rest, e.message = name ++ rest := by
  obtain ⟨value, cause, -, -, same⟩ := fault
  rw [same]
  refine ⟨" has invalid value '" ++ value ++ "': " ++ cause.message, ?_⟩
  unfold ConfigError.message
  simp only [String.append_assoc]

theorem valueOf_eq_ok_iff (decides : Decides read isText faulty) {a : α} :
    valueOf env name default read = .ok a ↔ Worth env name default isText a := by
  unfold valueOf Worth
  simp only [← decides.ok]
  cases env name with
  | none => simp [eq_comm]
  | some value => cases shown : read (trim value.toList) <;> simp [Except.mapError, shown]

/-- A variable has a value, or the fault in its text is reported. -/
theorem valueOf_cases (decides : Decides read isText faulty) (env : Environment) (name : String) (default : α) :
    (∃ a, Worth env name default isText a ∧ Proper env name isText ∧ valueOf env name default read = .ok a) ∨
      ∃ e, Faulty env name faulty e ∧ ¬ Proper env name isText ∧ valueOf env name default read = .error e := by
  unfold Worth Proper Faulty valueOf
  simp only [← decides.ok, ← decides.error]
  cases env name with
  | none => exact .inl ⟨default, .inl ⟨rfl, rfl⟩, nofun, rfl⟩
  | some value =>
      cases shown : read (trim value.toList) with
      | ok a =>
          refine .inl ⟨a, .inr ⟨value, rfl, shown⟩, ?_, congrArg (Except.mapError _) shown⟩
          rintro _ ⟨⟩
          exact ⟨a, shown⟩
      | error fault =>
          refine .inr ⟨_, ⟨value, fault, rfl, shown, rfl⟩, ?_, congrArg (Except.mapError _) shown⟩
          intro proper
          obtain ⟨a, read⟩ := proper value rfl
          rw [shown] at read
          cases read

end Variables

end Config

end LinkKeeper
