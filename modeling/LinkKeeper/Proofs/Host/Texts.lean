import LinkKeeper.Host.Formats
import LinkKeeper.Host.Shell.Pattern

/-!
What is printed by formats, and what is of the form of a pattern.

The functions that read texts take a number that bounds their rounds. What they read gets shorter in each round, so
that the number counts for nothing as long as it is not below the length of the text.

* `Escapes.expand_congr`, `Formats.useOnce_congr`: the bounds of escapes and formats are not met.
* `Escapes.expand_plain`, `Formats.print_plain`: what has no marks in it is printed as it is.
* `Formats.print_strings`: the texts of all arguments, one after the other.
* `Shell.Pattern.accepts_quoted`, `Shell.Pattern.trim_quoted`: a quoted text stands for itself and for nothing else.
-/

namespace LinkKeeper

/-! ### Escapes -/

namespace Escapes

variable {e : Escapes} {c : Char} {cs printed rest : Raw} {fuel more : Nat}

theorem character_suffix {mark : Char} {width : Nat} (given : character mark width cs = .text printed rest) :
    rest <:+ cs := by
  unfold character at given
  dsimp only at given
  split at given
  · cases given
  · split at given
    · cases given
    · split at given <;> cases given <;> exact List.drop_suffix _ _

theorem number_suffix (base width : Nat) (cs : Raw) : (number base width cs).2 <:+ cs := List.drop_suffix _ _

/-- Reading goes on within what stands behind the backslash. -/
theorem next_suffix (given : e.next cs = .text printed rest) : rest <:+ cs := by
  cases cs with
  | nil =>
      cases given
      exact List.suffix_refl _
  | cons c cs =>
      rw [next] at given
      split at given
      · cases given
      split at given
      · cases given
        exact List.suffix_cons _ _
      split at given
      · split at given
        · cases given
          exact (number_suffix 16 2 cs).trans (List.suffix_cons _ _)
        · cases given
      split at given
      · exact (character_suffix given).trans (List.suffix_cons _ _)
      split at given
      · exact (character_suffix given).trans (List.suffix_cons _ _)
      split at given
      · by_cases zero : (c = '0' && e.leadingZero) = true
        · rw [if_pos zero] at given
          cases given
          exact (number_suffix 8 3 cs).trans (List.suffix_cons _ _)
        · rw [if_neg zero] at given
          cases given
          exact number_suffix 8 3 (c :: cs)
      split at given
      · cases given
        exact List.suffix_cons _ _
      · split at given <;> cases given
        · exact List.suffix_cons _ _
        · exact List.suffix_refl _

theorem expand_cons (own : c ≠ '\\') :
    e.expand (fuel + 1) (c :: cs) = (e.expand fuel cs).map (c :: ·) id := by
  rw [expand]
  exact own

/-- The bound is not met as long as it is not below the length of the text. -/
theorem expand_congr (enough : cs.length ≤ fuel) (also : cs.length ≤ more) : e.expand fuel cs = e.expand more cs := by
  induction fuel generalizing cs more with
  | zero =>
      obtain rfl := List.length_eq_zero_iff.mp (Nat.le_zero.mp enough)
      cases more <;> rfl
  | succ fuel ih =>
      cases cs with
      | nil => cases more <;> rfl
      | cons c cs =>
          cases more with
          | zero => cases also
          | succ more =>
              have fits : cs.length ≤ fuel := Nat.le_of_succ_le_succ enough
              have fitsToo : cs.length ≤ more := Nat.le_of_succ_le_succ also
              by_cases mark : c = '\\'
              · subst mark
                rw [expand, expand]
                cases given : e.next cs with
                | stop => rfl
                | fault message => rfl
                | text printed rest =>
                    have shorter := (next_suffix given).length_le
                    dsimp only
                    rw [ih (Nat.le_trans shorter fits) (Nat.le_trans shorter fitsToo)]
              · rw [expand_cons mark, expand_cons mark, ih fits fitsToo]

/-- A text without a backslash is printed as it is. -/
theorem expand_plain (plain : '\\' ∉ cs) (enough : cs.length ≤ fuel) : e.expand fuel cs = (cs, false, none) := by
  induction cs generalizing fuel with
  | nil => cases fuel <;> rfl
  | cons c cs ih =>
      obtain ⟨own, others⟩ := not_or.mp (mt List.mem_cons.mpr plain)
      cases fuel with
      | zero => cases enough
      | succ fuel =>
          rw [expand_cons (Ne.symm own), ih others (Nat.le_of_succ_le_succ enough)]
          rfl

end Escapes

/-! ### Formats -/

namespace Formats

variable {dialect : FormatDialect} {c : Char} {cs : Raw} {fuel more : Nat} {p : Progress}

theorem measure_suffix (dialect : FormatDialect) (cs : Raw) (p : Progress) : (measure dialect cs p).2.1 <:+ cs := by
  unfold measure
  split
  · exact List.suffix_cons _ _
  · exact List.dropWhile_suffix _

/-- Reading goes on within what stands behind the percent sign. -/
theorem directive_suffix (dialect : FormatDialect) (cs : Raw) (p : Progress) :
    (directive dialect cs p).2.2.1 <:+ cs := by
  unfold directive
  extract_lets known flags
  have front := measure_suffix dialect (cs.drop flags.length) p
  generalize measure dialect (cs.drop flags.length) p = width at front ⊢
  obtain ⟨width, left, q⟩ := width
  have within : left <:+ cs := front.trans (List.drop_suffix _ _)
  dsimp only
  refine ((List.tail_suffix _).trans (List.dropWhile_suffix _)).trans ?_
  split
  · exact (measure_suffix dialect _ q).trans ((List.suffix_cons _ _).trans within)
  · exact within

theorem useOnce_cons (escape : c ≠ '\\') (mark : c ≠ '%') :
    useOnce dialect (fuel + 1) (c :: cs) p = useOnce dialect fuel cs (p.put [c]) := by
  rw [useOnce]
  · exact escape
  · exact fun _ same _ => mark same
  · exact mark

/-- The bound is not met as long as it is not below the length of the format. -/
theorem useOnce_congr (enough : cs.length ≤ fuel) (also : cs.length ≤ more) :
    useOnce dialect fuel cs p = useOnce dialect more cs p := by
  induction fuel generalizing cs more p with
  | zero =>
      obtain rfl := List.length_eq_zero_iff.mp (Nat.le_zero.mp enough)
      cases more <;> rfl
  | succ fuel ih =>
      cases cs with
      | nil => cases more <;> rfl
      | cons c cs =>
          cases more with
          | zero => cases also
          | succ more =>
              have fits : cs.length ≤ fuel := Nat.le_of_succ_le_succ enough
              have fitsToo : cs.length ≤ more := Nat.le_of_succ_le_succ also
              have onward {rest : Raw} (within : rest <:+ cs) (p : Progress) :
                  useOnce dialect fuel rest p = useOnce dialect more rest p :=
                ih (Nat.le_trans within.length_le fits) (Nat.le_trans within.length_le fitsToo)
              by_cases escape : c = '\\'
              · subst escape
                rw [useOnce, useOnce]
                cases given : dialect.escapes.next cs with
                | stop => rfl
                | fault message => rfl
                | text printed rest => exact onward (Escapes.next_suffix given) _
              by_cases mark : c = '%'
              · subst mark
                by_cases twice : cs.head? = some '%'
                · obtain ⟨rest, rfl⟩ := List.head?_eq_some_iff.mp twice
                  rw [useOnce, useOnce]
                  exact onward (List.suffix_cons _ _) _
                · have once : ∀ rest, cs = '%' :: rest → False := by
                    rintro rest rfl
                    exact twice rfl
                  rw [useOnce, useOnce]
                  · have within := directive_suffix dialect cs p
                    generalize directive dialect cs p = read at within ⊢
                    obtain ⟨d, precise, rest, q⟩ := read
                    dsimp only
                    split
                    · cases convert dialect d q with
                      | mk q ending =>
                          cases ending with
                          | complete => exact onward within q
                          | stopped => rfl
                          | fault message => rfl
                    · rfl
                  · exact once
                  · exact once
              · rw [useOnce_cons escape mark, useOnce_cons escape mark]
                exact onward (List.suffix_refl _) _

/-- A format without marks is printed as it is, and takes no argument. -/
theorem useOnce_plain (escape : '\\' ∉ cs) (mark : '%' ∉ cs) (enough : cs.length ≤ fuel) :
    useOnce dialect fuel cs p = (p.put cs, .complete) := by
  induction cs generalizing fuel p with
  | nil =>
      have same : p.put [] = p := by
        unfold Progress.put
        rw [List.append_nil]
      rw [same]
      cases fuel <;> rfl
  | cons c cs ih =>
      obtain ⟨noEscape, noEscapes⟩ := not_or.mp (mt List.mem_cons.mpr escape)
      obtain ⟨noMark, noMarks⟩ := not_or.mp (mt List.mem_cons.mpr mark)
      cases fuel with
      | zero => cases enough
      | succ fuel =>
          rw [useOnce_cons (Ne.symm noEscape) (Ne.symm noMark), ih noEscapes noMarks (Nat.le_of_succ_le_succ enough)]
          unfold Progress.put
          rw [List.append_assoc]
          rfl

/-- What has no marks in it is printed as it is, and once, whatever the arguments are. -/
theorem print_plain (dialect : FormatDialect) {format : Raw} (escape : '\\' ∉ format) (mark : '%' ∉ format)
    (arguments : List Raw) :
    (print dialect format arguments).output = format ∧ (print dialect format arguments).status = 0 := by
  have once : useAll dialect format (arguments.length + 1) ⟨arguments, [], [], false⟩ =
      ((⟨arguments, [], [], false⟩ : Progress).put format, .complete) := by
    rw [useAll, useOnce_plain escape mark (Nat.le_succ _)]
    exact if_pos (by simp [Progress.put])
  unfold print
  rw [once]
  dsimp only
  split <;> exact ⟨rfl, rfl⟩

/-! #### Texts -/

theorem directive_string (dialect : FormatDialect) (p : Progress) :
    directive dialect ['s'] p = (⟨[], 0, none, 's'⟩, false, [], p) := by
  cases dialect
  · rfl
  · rfl

theorem text_string (r : Raw) : (⟨[], 0, none, 's'⟩ : Directive).text r = r := by
  simp [Directive.text, Directive.padded]

/-- Each use of the format takes one argument. -/
theorem useOnce_string (dialect : FormatDialect) (p : Progress) :
    useOnce dialect 3 ['%', 's'] p =
      ({ p with arguments := p.arguments.tail }.put (p.arguments.head?.getD []), .complete) := by
  have known : isKnown dialect ⟨[], 0, none, 's'⟩ false = true := by cases dialect <;> rfl
  have converted : convert dialect ⟨[], 0, none, 's'⟩ p =
      ({ p with arguments := p.arguments.tail }.put
        ((⟨[], 0, none, 's'⟩ : Directive).text (p.arguments.head?.getD [])), .complete) := rfl
  rw [useOnce, directive_string]
  · dsimp only
    rw [if_pos (Bool.or_eq_true_iff.mpr (.inr known)), converted, text_string]
    rfl
  · nofun

theorem useAll_string (dialect : FormatDialect) (arguments : List Raw) {rounds : Nat}
    (enough : arguments.length < rounds) (output : Raw) (complaints : List Raw) (failed : Bool) :
    useAll dialect ['%', 's'] rounds ⟨arguments, output, complaints, failed⟩ =
      (⟨[], output ++ arguments.flatten, complaints, failed⟩, .complete) := by
  induction arguments generalizing rounds output with
  | nil =>
      cases rounds with
      | zero => cases enough
      | succ rounds =>
          rw [useAll, show (['%', 's'] : Raw).length + 1 = 3 from rfl, useOnce_string]
          rfl
  | cons argument arguments ih =>
      cases rounds with
      | zero => cases enough
      | succ rounds =>
          rw [useAll, show (['%', 's'] : Raw).length + 1 = 3 from rfl, useOnce_string]
          cases arguments with
          | nil =>
              rw [List.flatten_singleton]
              rfl
          | cons next others =>
              rw [List.flatten_cons, ← List.append_assoc]
              refine (if_neg ?_).trans (ih (Nat.lt_of_succ_lt_succ enough) (output ++ argument))
              simp [Progress.put]

/-- A format for one text prints those of all arguments, one after the other. -/
theorem print_strings (dialect : FormatDialect) (arguments : List Raw) :
    print dialect ['%', 's'] arguments = ⟨arguments.flatten, [], 0⟩ := by
  unfold print
  rw [useAll_string dialect arguments (Nat.lt_succ_self _)]
  cases dialect <;> rfl

end Formats

/-! ### Patterns -/

namespace Shell.Pattern

variable {fuel : Nat} {p : Pattern} {cs r : Raw}

/-- Every other character stands for itself. -/
theorem acceptsWithin_char {x : Char × Bool} (star : x ≠ ('*', false)) (single : x ≠ ('?', false))
    (bracket : x ≠ ('[', false)) :
    acceptsWithin (fuel + 1) (x :: p) cs = (decide (cs.head? = some x.1) && acceptsWithin fuel p cs.tail) := by
  obtain ⟨c, q⟩ := x
  rw [acceptsWithin]
  · rintro rfl rfl
    exact star rfl
  · rintro rfl rfl
    exact single rfl
  · rintro rfl rfl
    exact bracket rfl

theorem acceptsWithin_quoted (enough : r.length ≤ fuel) :
    acceptsWithin fuel (r.map (·, true)) cs = true ↔ cs = r := by
  induction r generalizing fuel cs with
  | nil => cases fuel <;> exact List.isEmpty_iff
  | cons c r ih =>
      cases fuel with
      | zero => cases enough
      | succ fuel =>
          rw [List.map_cons, acceptsWithin_char (by simp) (by simp) (by simp), Bool.and_eq_true_iff,
            decide_eq_true_iff, ih (Nat.le_of_succ_le_succ enough)]
          cases cs <;> simp

/-- A quoted text stands for itself and for nothing else. -/
theorem accepts_quoted : accepts (r.map (·, true)) cs = true ↔ cs = r :=
  acceptsWithin_quoted (by simp)

/-- A quoted text that is at the end is taken off, be it the shortest or the longest part that is looked for. -/
theorem trim_quoted (longest : Bool) : trim (r.map (·, true)) true longest (cs ++ r) = cs := by
  have only {n : Nat} (le : n ≤ (cs ++ r).length) :
      accepts (r.map (·, true)) ((cs ++ r).drop ((cs ++ r).length - n)) = true ↔ n = r.length := by
    rw [accepts_quoted]
    constructor
    · intro same
      have counted := congrArg List.length same
      rw [List.length_drop] at counted
      omega
    · rintro rfl
      rw [List.length_append, Nat.add_sub_cancel, List.drop_left]
  have sizes (n : Nat) : n ∈ (if longest then (List.range ((cs ++ r).length + 1)).reverse
      else List.range ((cs ++ r).length + 1)) ↔ n ≤ (cs ++ r).length := by
    split
    · rw [List.mem_reverse, List.mem_range, Nat.lt_succ_iff]
    · rw [List.mem_range, Nat.lt_succ_iff]
  unfold trim
  dsimp only
  simp only [if_true]
  split
  · rename_i n found
    have le := (sizes n).mp (List.mem_of_find?_eq_some found)
    have accepted := List.find?_some found
    obtain rfl := (only le).mp accepted
    rw [List.length_append, Nat.add_sub_cancel, List.take_left]
  · rename_i missed
    have there : r.length ≤ (cs ++ r).length := by simp
    exact absurd ((only there).mpr rfl) (List.find?_eq_none.mp missed _ ((sizes _).mpr there))

end Shell.Pattern

end LinkKeeper
