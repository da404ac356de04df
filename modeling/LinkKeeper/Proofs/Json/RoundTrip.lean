import LinkKeeper.Json.Parser
import LinkKeeper.Json.Printer
import LinkKeeper.Proofs.Net.Digits

/-!
A document is read back from the text that is written for it.

Not every document has a text: a part without a value has none, and a fraction has to be digits. The reader is run
on the written form of a document with other text after it, which must not go on with a number.

* `Json.Printable`: the documents that have a text.
* `Json.readPieces_quoted`: quoted texts.
* `Json.readNumber_render`: numbers.
* `Json.readValue_render`: documents, whatever stands after them.
* `Json.parse?_render`: whole texts.
-/

namespace LinkKeeper

open Text

/-- A fraction is written in digits. -/
def JsonNumber.Printable (n : JsonNumber) : Prop :=
  ∀ f, n.fraction = some f → f.toList ≠ [] ∧ ∀ c ∈ f.toList, isDigit 10 c = true

namespace Json

/-- A document that has a text. -/
inductive Printable : Json → Prop where
  | null : Printable .null
  | bool (b : Bool) : Printable (.bool b)
  | number {n : JsonNumber} (digits : n.Printable) : Printable (.number n)
  | text (s : String) : Printable (.text s)
  | array {items : List Json} (all : ∀ j ∈ items, Printable j) : Printable (.array items)
  | object {members : List (String × Json)} (all : ∀ m ∈ members, Printable m.2) : Printable (.object members)

instance (n : JsonNumber) : Decidable n.Printable :=
  match written : n.fraction with
  | none => .isTrue fun _ same => nomatch written ▸ same
  | some f =>
    decidable_of_iff (f.toList ≠ [] ∧ f.toList.all (isDigit 10) = true)
      ⟨fun digits _ same => Option.some.inj (written ▸ same) ▸ digits.imp_right List.all_eq_true.mp,
        fun printable => (printable f written).imp_right List.all_eq_true.mpr⟩

mutual

instance decidePrintable : (j : Json) → Decidable j.Printable
  | .null => .isTrue .null
  | .bool b => .isTrue (.bool b)
  | .number n =>
    if digits : n.Printable then .isTrue (.number digits) else .isFalse fun | .number own => digits own
  | .text s => .isTrue (.text s)
  | .array items =>
    match decideItems items with
    | .isTrue all => .isTrue (.array all)
    | .isFalse bad => .isFalse fun | .array all => bad all
  | .object members =>
    match decideMembers members with
    | .isTrue all => .isTrue (.object all)
    | .isFalse bad => .isFalse fun | .object all => bad all
  | .unreadable => .isFalse nofun

def decideItems : (items : List Json) → Decidable (∀ j ∈ items, j.Printable)
  | [] => .isTrue nofun
  | j :: rest =>
    match decidePrintable j, decideItems rest with
    | .isTrue first, .isTrue later => .isTrue (List.forall_mem_cons.mpr ⟨first, later⟩)
    | .isFalse first, _ => .isFalse fun all => first (all j (by simp))
    | _, .isFalse later => .isFalse fun all => later (List.forall_mem_cons.mp all).2

def decideMembers : (members : List (String × Json)) → Decidable (∀ m ∈ members, m.2.Printable)
  | [] => .isTrue nofun
  | (name, j) :: rest =>
    match decidePrintable j, decideMembers rest with
    | .isTrue first, .isTrue later => .isTrue (List.forall_mem_cons.mpr ⟨first, later⟩)
    | .isFalse first, _ => .isFalse fun all => first (all (name, j) (by simp))
    | _, .isFalse later => .isFalse fun all => later (List.forall_mem_cons.mp all).2

end

/-! ### Quoted texts -/

theorem codeUnit?_control {n : Nat} (control : n < 0x20) :
    codeUnit? ['0', '0', Nat.digitChar (n / 16), Nat.digitChar (n % 16)] = some n := by
  have all : ∀ n < 0x20, codeUnit? ['0', '0', Nat.digitChar (n / 16), Nat.digitChar (n % 16)] = some n := by
    decide
  exact all n control

/-- A written character is read as a piece that stands for it. -/
theorem readPieces_escape (c : Char) :
    ∃ p, (∀ ps, assemble (p :: ps) = (assemble ps).map (c :: ·)) ∧
      ∀ rest, readPieces (escape c ++ rest) = (readPieces rest).map fun (ps, rest) => (p :: ps, rest) := by
  have plain (ps : List Piece) : assemble (.char c :: ps) = (assemble ps).map (c :: ·) := rfl
  unfold escape
  split
  case h_8 quote backslash _ _ _ _ _ =>
    split
    · rename_i control
      refine ⟨.unit c.toNat, ?_, ?_⟩
      · intro ps
        have high : isHighHalf c.toNat = false := by
          simp only [isHighHalf, Bool.and_eq_false_iff, decide_eq_false_iff_not]
          omega
        have low : isLowHalf c.toNat = false := by
          simp only [isLowHalf, Bool.and_eq_false_iff, decide_eq_false_iff_not]
          omega
        -- The reader of a code unit looks at the piece after it.
        rcases ps with _ | ⟨p | p, ps⟩ <;> simp [assemble, high, low, Char.ofNat_toNat]
      · intro rest
        show readPieces ('\\' :: 'u' :: '0' :: '0' :: _ :: _ :: rest) = _
        rw [readPieces, codeUnit?_control control]
        cases readPieces rest <;> rfl
    · rename_i shown
      refine ⟨.char c, plain, ?_⟩
      intro rest
      show readPieces (c :: rest) = _
      rw [readPieces.eq_5 c rest (fun h => quote h) (fun _ _ _ _ _ h _ => backslash h) fun _ _ h _ => backslash h]
      have taken : (decide (c.toNat < 32) || decide (c = '\\')) = false := by
        simpa using ⟨Nat.le_of_not_lt shown, fun h => backslash h⟩
      rw [taken]
      cases readPieces rest <;> rfl
  all_goals
    refine ⟨.char _, plain, fun rest => ?_⟩
    show readPieces ('\\' :: _ :: rest) = _
    rw [readPieces.eq_4 _ _ (fun _ _ _ _ _ h _ => absurd h (by decide))]
    cases readPieces rest <;> rfl

/-- A quoted text is read as pieces that are put together to it. -/
theorem readPieces_quoted (cs rest : List Char) :
    ∃ ps, assemble ps = some cs ∧ readPieces (cs.flatMap escape ++ '"' :: rest) = some (ps, rest) := by
  induction cs with
  | nil => exact ⟨[], rfl, rfl⟩
  | cons c cs ih =>
      obtain ⟨ps, assembled, read⟩ := ih
      obtain ⟨p, stands, escaped⟩ := readPieces_escape c
      refine ⟨p :: ps, ?_, ?_⟩
      · rw [stands, assembled]
        rfl
      · rw [List.flatMap_cons, List.append_assoc, escaped, read]
        rfl

/-! ### Numbers -/

/-- The text does not go on with a number. -/
def EndsNumber (rest : List Char) : Prop :=
  ∀ c, rest.head? = some c → isDigit 10 c = false ∧ c ≠ '.' ∧ c ≠ 'e' ∧ c ≠ 'E'

theorem EndsNumber.digits {rest : List Char} (ends : EndsNumber rest) : EndsDigits 10 rest :=
  fun c head => (ends c head).1

theorem readDigits_append {ds rest : List Char} (nonempty : ds ≠ []) (all : ∀ c ∈ ds, isDigit 10 c = true)
    (ends : EndsDigits 10 rest) : readDigits (ds ++ rest) = some (ds, rest) := by
  have stop : rest.takeWhile (isDigit 10) = [] ∧ rest.dropWhile (isDigit 10) = rest := by
    cases rest with
    | nil => exact ⟨rfl, rfl⟩
    | cons c cs => simp [ends c rfl]
  unfold readDigits spanDigits
  rw [List.takeWhile_append_of_pos all, List.dropWhile_append_of_pos all, stop.1, stop.2, List.append_nil]
  simp [nonempty]

theorem readWhole_digits (n : Nat) {rest : List Char} (ends : EndsDigits 10 rest) :
    readWhole (digits 10 n ++ rest) = some (n, rest) := by
  have all := isDigit_of_mem_digits reads_ten (n := n)
  by_cases zero : n = 0
  · subst zero
    show (if rest.head?.any (isDigit 10) then none else some (0, rest)) = _
    cases rest with
    | nil => rfl
    | cons c cs => simp [ends c rfl]
  · have read := readDigits_append (digits_ne_nil 10 n) all ends
    have front := head?_digits_ne_zero reads_ten zero
    unfold readWhole
    split
    · rename_i tail same
      cases written : digits 10 n with
      | nil => exact absurd written (digits_ne_nil 10 n)
      | cons d ds =>
          rw [written] at same front
          exact absurd (congrArg some (List.cons.inj same).1) front
    · rw [read]
      simp [ofDigits_digits reads_ten]

/-- The written form of a fraction. -/
def renderFraction (fraction : Option String) : List Char :=
  match fraction with | none => [] | some f => '.' :: f.toList

/-- The written form of a power of ten. -/
def renderExponent (exponent : Option Int) : List Char :=
  match exponent with | none => [] | some e => 'e' :: (toString e).toList

/-- A whole number is written in its digits, after a sign if it is negative. -/
theorem toList_toString (e : Int) :
    (toString e).toList = if e < 0 then '-' :: digits 10 e.natAbs else digits 10 e.natAbs := by
  cases e with
  | ofNat n => exact Nat.toList_repr
  | negSucc n =>
      rw [if_pos (Int.negSucc_lt_zero n)]
      show (Int.repr (.negSucc n)).toList = '-' :: digits 10 (n + 1)
      simp [Int.repr, digits]

theorem readExponent_render (exponent : Option Int) {rest : List Char} (ends : EndsNumber rest) :
    readExponent (renderExponent exponent ++ rest) = some (exponent, rest) := by
  cases exponent with
  | none =>
      cases rest with
      | nil => rfl
      | cons c cs =>
          obtain ⟨-, -, small, large⟩ := ends c rfl
          simp [renderExponent, readExponent, small, large]
  | some e =>
      have all := isDigit_of_mem_digits reads_ten (n := e.natAbs)
      have read := readDigits_append (digits_ne_nil 10 e.natAbs) all ends.digits
      have size := ofDigits_digits reads_ten e.natAbs
      show readExponent ('e' :: ((toString e).toList ++ rest)) = _
      rw [toList_toString]
      by_cases negative : e < 0
      · have value : -(e.natAbs : Int) = e := by omega
        rw [if_pos negative]
        show ((readDigits (digits 10 e.natAbs ++ rest)).map fun x => (some (-(ofDigits 10 x.1 : Int)), x.2)) = _
        rw [read, Option.map_some, size, value]
      · have value : (e.natAbs : Int) = e := by omega
        rw [if_neg negative]
        cases written : digits 10 e.natAbs with
        | nil => exact absurd written (digits_ne_nil 10 _)
        | cons d ds =>
            rw [written] at all read size
            have digit := all d (by simp)
            have signed : d ≠ '+' ∧ d ≠ '-' := by
              constructor <;> (rintro rfl; revert digit; decide)
            rw [List.cons_append] at read ⊢
            simp [readExponent, signed, read, size, value]

theorem readFraction_render {fraction : Option String}
    (printable : ∀ f, fraction = some f → f.toList ≠ [] ∧ ∀ c ∈ f.toList, isDigit 10 c = true) {rest : List Char}
    (ends : EndsDigits 10 rest) (point : rest.head? ≠ some '.') :
    readFraction (renderFraction fraction ++ rest) = some (fraction, rest) := by
  cases fraction with
  | none =>
      cases rest with
      | nil => rfl
      | cons c cs =>
          have other : c ≠ '.' := fun same => point (congrArg some same)
          simp [renderFraction, readFraction, other]
  | some f =>
      obtain ⟨nonempty, all⟩ := printable f rfl
      show (readDigits (f.toList ++ rest)).map _ = _
      rw [readDigits_append nonempty all ends]
      simp

/-- No digit stands in front of what comes after the digits of a number. -/
theorem endsDigits_cons {c : Char} (plain : isDigit 10 c = false) (rest : List Char) : EndsDigits 10 (c :: rest) := by
  rintro d head
  rwa [← Option.some.inj head]

/-- The first character of the digits of a number. -/
theorem digits_eq_cons (n : Nat) : ∃ d ds, digits 10 n = d :: ds ∧ isDigit 10 d = true := by
  cases written : digits 10 n with
  | nil => exact absurd written (digits_ne_nil 10 n)
  | cons d ds => exact ⟨d, ds, rfl, isDigit_of_mem_digits reads_ten (n := n) d (by simp [written])⟩

/-- A number is read back from its written form. -/
theorem readNumber_render {n : JsonNumber} (printable : n.Printable) {rest : List Char} (ends : EndsNumber rest) :
    readNumber (renderNumber n ++ rest) = some (n, rest) := by
  obtain ⟨negative, whole, fraction, exponent⟩ := n
  have last := readExponent_render exponent ends
  have beforePower : EndsDigits 10 (renderExponent exponent ++ rest) ∧
      (renderExponent exponent ++ rest).head? ≠ some '.' := by
    cases exponent with
    | none => exact ⟨ends.digits, fun point => (ends _ point).2.1 rfl⟩
    | some e => exact ⟨endsDigits_cons (by decide) _, fun point => absurd (Option.some.inj point) (by decide)⟩
  have middle := readFraction_render printable beforePower.1 beforePower.2
  have beforeFraction : EndsDigits 10 (renderFraction fraction ++ (renderExponent exponent ++ rest)) := by
    cases fraction with
    | none => exact beforePower.1
    | some f => exact endsDigits_cons (by decide) _
  have first := readWhole_digits whole beforeFraction
  have written : renderNumber ⟨negative, whole, fraction, exponent⟩ ++ rest =
      (if negative then ['-'] else []) ++
        (digits 10 whole ++ (renderFraction fraction ++ (renderExponent exponent ++ rest))) := by
    show (((_ ++ digits 10 whole) ++ renderFraction fraction) ++ renderExponent exponent) ++ rest = _
    rw [List.append_assoc, List.append_assoc, List.append_assoc]
  rw [written]
  cases negative with
  | true => simp [readNumber, first, middle, last]
  | false =>
      obtain ⟨d, ds, front, digit⟩ := digits_eq_cons whole
      have unsigned : d ≠ '-' := by
        rintro rfl
        revert digit
        decide
      rw [front, List.cons_append] at first ⊢
      simp [readNumber, unsigned, first, middle, last]

/-! ### Documents -/

/-- The first character of a document. -/
structure Opens (c : Char) : Prop where
  shown : c ≠ ' ' ∧ c ≠ '\n' ∧ c ≠ '\t' ∧ c ≠ '\r'
  item : c ≠ ']'

theorem skipSpace_cons {c : Char} (opens : Opens c) (cs : List Char) : skipSpace (c :: cs) = c :: cs := by
  obtain ⟨⟨blank, line, tab, back⟩, -⟩ := opens
  simp [skipSpace, blank, line, tab, back]

theorem opens_digit {c : Char} (digit : isDigit 10 c = true) : Opens c := by
  refine ⟨⟨?_, ?_, ?_, ?_⟩, ?_⟩ <;> (rintro rfl; revert digit; decide)

theorem renderNumber_eq_cons (n : JsonNumber) :
    ∃ c cs, renderNumber n = c :: cs ∧ (c = '-' ∨ isDigit 10 c = true) := by
  obtain ⟨negative, whole, fraction, exponent⟩ := n
  cases negative with
  | true => exact ⟨'-', _, rfl, .inl rfl⟩
  | false =>
      obtain ⟨d, ds, front, digit⟩ := digits_eq_cons whole
      refine ⟨d, ds ++ renderFraction fraction ++ renderExponent exponent, ?_, .inr digit⟩
      simp only [renderNumber, front]
      rfl

/-- What stands in front of a document. -/
theorem renderChars_eq_cons (j : Json) : ∃ c cs, j.renderChars = c :: cs ∧ Opens c := by
  cases j with
  | null => exact ⟨'n', _, rfl, by decide, by decide⟩
  | bool b => cases b <;> exact ⟨_, _, rfl, by decide, by decide⟩
  | number n =>
      obtain ⟨c, cs, written, sign | digit⟩ := renderNumber_eq_cons n
      · exact ⟨c, cs, written, by subst sign; exact ⟨by decide, by decide⟩⟩
      · exact ⟨c, cs, written, opens_digit digit⟩
  | text s => exact ⟨'"', _, rfl, by decide, by decide⟩
  | array items => exact ⟨'[', _, rfl, by decide, by decide⟩
  | object members => exact ⟨'\x7b', _, rfl, by decide, by decide⟩
  | unreadable => exact ⟨'n', _, rfl, by decide, by decide⟩

theorem renderItems_eq_cons (j : Json) (others : List Json) :
    ∃ c cs, renderItems (j :: others) = c :: cs ∧ Opens c := by
  obtain ⟨c, cs, written, opens⟩ := renderChars_eq_cons j
  cases others with
  | nil => exact ⟨c, cs ++ [']'], by simp [renderItems, written], opens⟩
  | cons next others => exact ⟨c, cs ++ ',' :: renderItems (next :: others), by simp [renderItems, written], opens⟩

theorem renderMembers_eq_cons (m : String × Json) (others : List (String × Json)) :
    ∃ cs, renderMembers (m :: others) = '"' :: cs := by
  obtain ⟨name, j⟩ := m
  cases others with
  | nil => exact ⟨_, rfl⟩
  | cons next others => exact ⟨_, rfl⟩

/-- The document is read back, given enough fuel, whatever stands after it. -/
def ReadsBack (j : Json) : Prop :=
  ∀ fuel rest, j.renderChars.length < fuel → EndsNumber rest → readValue fuel (j.renderChars ++ rest) = some (j, rest)

theorem endsNumber_comma (rest : List Char) : EndsNumber (',' :: rest) := by
  rintro c head
  obtain rfl := Option.some.inj head
  decide

theorem endsNumber_bracket (rest : List Char) : EndsNumber (']' :: rest) := by
  rintro c head
  obtain rfl := Option.some.inj head
  decide

theorem endsNumber_brace (rest : List Char) : EndsNumber ('\x7d' :: rest) := by
  rintro c head
  obtain rfl := Option.some.inj head
  decide

/-- The items of an array are read up to its end. -/
theorem readItems_render {items : List Json} (nonempty : items ≠ []) (reads : ∀ j ∈ items, ReadsBack j) :
    ∀ fuel rest, (renderItems items).length < fuel →
      readItems fuel (renderItems items ++ rest) = some (items, rest) := by
  induction items with
  | nil => exact absurd rfl nonempty
  | cons j others ih =>
      intro fuel rest enough
      obtain ⟨fuel, rfl⟩ : ∃ less, fuel = less + 1 := ⟨fuel - 1, by omega⟩
      have own := reads j (by simp)
      cases others with
      | nil =>
          simp only [renderItems, List.length_append, List.length_singleton] at enough
          have first := own fuel (']' :: rest) (by omega) (endsNumber_bracket rest)
          simp [renderItems, readItems, first, skipSpace]
      | cons next others =>
          simp only [renderItems, List.length_append, List.length_cons] at enough
          have first := own fuel (',' :: (renderItems (next :: others) ++ rest)) (by omega) (endsNumber_comma _)
          have later := ih (by simp) (fun k mem => reads k (List.mem_cons_of_mem _ mem)) fuel rest (by omega)
          simp [renderItems, readItems, first, later, skipSpace]

/-- The members of an object are read up to its end. -/
theorem readMembers_render {members : List (String × Json)} (nonempty : members ≠ [])
    (reads : ∀ m ∈ members, ReadsBack m.2) :
    ∀ fuel rest, (renderMembers members).length < fuel →
      readMembers fuel (renderMembers members ++ rest) = some (some members, rest) := by
  induction members with
  | nil => exact absurd rfl nonempty
  | cons m others ih =>
      obtain ⟨name, j⟩ := m
      intro fuel rest enough
      obtain ⟨fuel, rfl⟩ : ∃ less, fuel = less + 1 := ⟨fuel - 1, by omega⟩
      have own := reads (name, j) (by simp)
      cases others with
      | nil =>
          simp only [renderMembers, List.length_append, List.length_cons] at enough
          have first := own fuel ('\x7d' :: rest) (by dsimp only; omega) (endsNumber_brace rest)
          obtain ⟨ps, assembled, read⟩ :=
            readPieces_quoted name.toList (':' :: (j.renderChars ++ '\x7d' :: rest))
          simp [renderMembers, readMembers, quoted, first, read, assembled, skipSpace]
      | cons next others =>
          simp only [renderMembers, List.length_append, List.length_cons] at enough
          have first := own fuel (',' :: (renderMembers (next :: others) ++ rest)) (by dsimp only; omega)
            (endsNumber_comma _)
          have later := ih (by simp) (fun k mem => reads k (List.mem_cons_of_mem _ mem)) fuel rest (by omega)
          obtain ⟨ps, assembled, read⟩ :=
            readPieces_quoted name.toList (':' :: (j.renderChars ++ ',' :: (renderMembers (next :: others) ++ rest)))
          simp [renderMembers, readMembers, quoted, first, later, read, assembled, skipSpace]

/-- A document is read back from its written form, whatever stands after it. -/
theorem readValue_render {j : Json} (printable : j.Printable) : j.ReadsBack := by
  induction printable with
  | null =>
      rintro (_ | fuel) rest enough -
      · simp at enough
      · rfl
  | bool b =>
      rintro (_ | fuel) rest enough -
      · simp at enough
      · cases b <;> rfl
  | text s =>
      rintro (_ | fuel) rest enough -
      · simp at enough
      · obtain ⟨ps, assembled, read⟩ := readPieces_quoted s.toList rest
        simp [renderChars, readValue, quoted, skipSpace, read, assembled]
  | @number n digits =>
      rintro (_ | fuel) rest enough ends
      · simp at enough
      · have read := readNumber_render digits ends
        obtain ⟨c, cs, written, front⟩ := renderNumber_eq_cons n
        have opens : Opens c := by
          rcases front with rfl | digit
          · exact ⟨by decide, by decide⟩
          · exact opens_digit digit
        have other : c ≠ '"' ∧ c ≠ '[' ∧ c ≠ '\x7b' ∧ c ≠ 'n' ∧ c ≠ 't' ∧ c ≠ 'f' := by
          rcases front with rfl | digit
          · decide
          · refine ⟨?_, ?_, ?_, ?_, ?_, ?_⟩ <;> (rintro rfl; revert digit; decide)
        rw [written, List.cons_append] at read
        rw [renderChars, written, List.cons_append]
        simp [readValue, skipSpace_cons opens, other, read]
  | @array items all ih =>
      rintro (_ | fuel) rest enough -
      · simp at enough
      · cases items with
        | nil => simp [renderChars, renderItems, readValue, skipSpace]
        | cons j others =>
            have read := readItems_render (List.cons_ne_nil j others) ih fuel rest
              (Nat.lt_of_succ_lt_succ enough)
            obtain ⟨c, cs, written, opens⟩ := renderItems_eq_cons j others
            rw [written, List.cons_append] at read
            have inside := skipSpace_cons opens (cs ++ rest)
            have start : skipSpace ('[' :: (c :: (cs ++ rest))) = '[' :: (c :: (cs ++ rest)) :=
              skipSpace_cons ⟨by decide, by decide⟩ _
            rw [renderChars, written, List.cons_append, List.cons_append]
            simp [readValue, start, inside, opens.item, read]
  | @object members all ih =>
      rintro (_ | fuel) rest enough -
      · simp at enough
      · cases members with
        | nil => simp [renderChars, renderMembers, readValue, skipSpace]
        | cons m others =>
            have read := readMembers_render (List.cons_ne_nil m others) ih fuel rest
              (Nat.lt_of_succ_lt_succ enough)
            obtain ⟨cs, written⟩ := renderMembers_eq_cons m others
            rw [written, List.cons_append] at read
            rw [renderChars, written, List.cons_append, List.cons_append]
            simp [readValue, skipSpace, read]

/-- A document is read back from its text. -/
theorem parse?_render {j : Json} (printable : j.Printable) : parse? j.render = some j := by
  have ends : EndsNumber [] := fun _ head => nomatch head
  have read := readValue_render printable (j.renderChars.length + 1) [] (Nat.lt_succ_self _) ends
  rw [List.append_nil] at read
  simp [parse?, render, read, skipSpace]

end Json

end LinkKeeper
