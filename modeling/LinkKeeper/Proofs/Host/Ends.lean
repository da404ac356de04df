import LinkKeeper.Host.Spawn
import LinkKeeper.Link.Invocation
import LinkKeeper.Proofs.Net.Digits

/-!
How the processes of the host end, and what is told of it.

A process ends with a status of one octet or by a signal. The text that tells of it is part of the failure of a command,
and the end can be read off it.

* `ProcessEnd.text_injective`: no two ends are told alike.
* `Programs.status_le`: what the programs that stand alone end with.
* `Invocation.read_eq_ok_iff`, `Invocation.ending_of_read`: when a command has not failed, and what its failure tells.
-/

namespace LinkKeeper

open Text

namespace ProcessEnd

theorem toList_text_exited (code : UInt8) :
    (exited code).text.toList = "exit status: ".toList ++ (digits 10 code.toNat ++ []) := by
  have written : (toString code.toNat).toList = digits 10 code.toNat := Nat.toList_repr
  rw [text, String.toList_append, written, List.append_nil]

/-- The name of a signal is told behind its number. -/
theorem exists_toList_text_killed (signal : Signal) :
    ∃ rest, EndsDigits 10 rest ∧
      (killed signal).text.toList = "signal: ".toList ++ (digits 10 signal.number ++ rest) := by
  have written : (toString signal.number).toList = digits 10 signal.number := Nat.toList_repr
  refine ⟨_, ?_, by rw [text, String.toList_append, String.toList_append, written, List.append_assoc]⟩
  cases signalNames[signal.number - 1]? with
  | none => exact nofun
  | some name =>
      intro c front
      simp only [String.toList_append, List.append_assoc] at front
      cases front
      decide

/-- The number of an end stands in its text. -/
theorem number_unique {n m : Nat} {rest more : List Char} (ends : EndsDigits 10 rest) (stops : EndsDigits 10 more)
    (same : digits 10 n ++ rest = digits 10 m ++ more) : n = m := by
  have first : spanDigits 10 (digits 10 n ++ rest) = (digits 10 n, rest) :=
    spanDigits_eq_iff.mpr ⟨rfl, (spells_digits reads_ten n).digits, ends⟩
  have second : spanDigits 10 (digits 10 n ++ rest) = (digits 10 m, more) :=
    spanDigits_eq_iff.mpr ⟨same, (spells_digits reads_ten m).digits, stops⟩
  have written : digits 10 n = digits 10 m := congrArg Prod.fst (first.symm.trans second)
  rw [← (spells_digits reads_ten n).value, written, (spells_digits reads_ten m).value]

/-- No two ends are told alike. -/
theorem text_injective : Function.Injective text := by
  have nothing : EndsDigits 10 [] := nofun
  intro first second same
  have same := congrArg String.toList same
  cases first with
  | exited code =>
      cases second with
      | exited other =>
          rw [toList_text_exited, toList_text_exited] at same
          exact congrArg exited (UInt8.toNat_inj.mp (number_unique nothing nothing (List.append_cancel_left same)))
      | killed signal =>
          obtain ⟨rest, -, told⟩ := exists_toList_text_killed signal
          rw [toList_text_exited, told] at same
          cases same
  | killed signal =>
      obtain ⟨rest, ends, told⟩ := exists_toList_text_killed signal
      cases second with
      | exited code =>
          rw [toList_text_exited, told] at same
          cases same
      | killed other =>
          obtain ⟨more, stops, toldToo⟩ := exists_toList_text_killed other
          rw [told, toldToo] at same
          have number := number_unique ends stops (List.append_cancel_left same)
          cases signal
          cases other
          cases number
          rfl

end ProcessEnd

/-! ### Programs -/

namespace Programs

theorem status_concatenate_le (input : Raw) (files : List Raw) : (concatenate input files).status ≤ 2 := by
  refine List.foldlRecOn (motive := fun done : Printed => done.status ≤ 2) _ _ (Nat.zero_le 2) ?_
  intro done le file _
  dsimp only
  split
  · exact le
  · split
    · exact Nat.le_succ 1
    · exact le
    · exact Nat.le_succ 1

theorem status_sleep_le (name : Raw) (spans : List Raw) : (sleep name spans).status ≤ 2 := by
  unfold sleep
  split
  · exact Nat.le_succ 1
  · exact Nat.zero_le 2
  · exact Nat.le_succ 1

theorem status_test_le (name : Raw) (words : List Raw) : (test name words).status ≤ 2 := by
  unfold test
  dsimp only
  split
  · exact Nat.le_refl 2
  · split
    · rename_i b _
      cases b
      · exact Nat.le_succ 1
      · exact Nat.zero_le 2
    · exact Nat.le_refl 2

theorem status_print_le (dialect : FormatDialect) (format : Raw) (arguments : List Raw) :
    (Formats.print dialect format arguments).status ≤ 2 := by
  have flag (b : Bool) : (if b then 1 else 0) ≤ 2 := by cases b <;> decide
  unfold Formats.print
  split
  · cases dialect
    · exact Nat.le_succ 1
    · exact Nat.le_refl 2
  · exact flag _
  · exact flag _

theorem status_printf_le (name : Raw) (arguments : List Raw) : (printf name arguments).status ≤ 2 := by
  unfold printf
  split
  · exact Nat.le_succ 1
  · exact status_print_le _ _ _

/-- A program that stands alone ends with a status of at most two. -/
theorem status_le {name input : Raw} {arguments : List Raw} {p : HostProgram} {printed : Printed}
    (prints : print? name arguments input p = some printed) : printed.status ≤ 2 := by
  cases p with
  | echo | succeed => cases prints; exact Nat.zero_le 2
  | fail => cases prints; exact Nat.le_succ 1
  | printf => cases prints; exact status_printf_le _ _
  | concatenate => cases prints; exact status_concatenate_le _ _
  | sleep => cases prints; exact status_sleep_le _ _
  | test => cases prints; exact status_test_le _ _
  | shell => cases prints

end Programs

namespace HostFiles

variable {name : String} {arguments : List String} {p : HostProgram} {printed : Printed}

theorem output_execute (prints : Programs.print? (Raw.ofString name) (arguments.map Raw.ofString) [] p = some printed) :
    (execute name arguments p).output = Raw.octets printed.output := by
  unfold execute
  dsimp only
  rw [prints]

/-- The octet that a program which stands alone ends with is its status. -/
theorem code_execute (prints : Programs.print? (Raw.ofString name) (arguments.map Raw.ofString) [] p = some printed) :
    ∃ code : UInt8, (execute name arguments p).ending = .exited code ∧ code.toNat = printed.status := by
  have small := Programs.status_le prints
  refine ⟨.ofNat printed.status, ?_, ?_⟩
  · unfold execute
    dsimp only
    rw [prints]
  · rw [UInt8.toNat_ofNat']
    omega

end HostFiles

/-! ### Commands -/

namespace Invocation

variable {i : Invocation} {outcome : Except HostFault ProcessRun} {text : String} {run other : ProcessRun}
  {e : LinkError}

/-- A command succeeds if its program has run and has ended with zero, and then gives what was written. -/
theorem read_eq_ok_iff : i.read outcome = .ok text ↔
    ∃ run, outcome = .ok run ∧ run.ending = .exited 0 ∧ text = String.ofList (Octets.decode run.output) := by
  cases outcome with
  | error fault => simp [read]
  | ok run =>
      unfold read ProcessEnd.isSuccess
      dsimp only
      by_cases ended : run.ending = .exited 0
      · simp [ended, eq_comm]
      · simp [ended]

/-- The failure of a command tells how its program has ended. -/
theorem ending_of_read (failed : i.read (.ok run) = .error e) (again : i.read (.ok other) = .error e) :
    run.ending = other.ending := by
  unfold read at failed again
  dsimp only at failed again
  split at failed
  · cases failed
  · split at again
    · cases again
    · cases failed
      simp only [Except.error.injEq, LinkError.command.injEq] at again
      exact (ProcessEnd.text_injective again.2.1).symm

end Invocation

end LinkKeeper
