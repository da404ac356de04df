import LinkKeeper.Host.Files

/-!
Which names stand for programs.

A name without a slash is looked for in the usual directories. Whatever is found there is one of the known programs,
under its own name: no name leads out of a directory and back to another program.

* `HostFiles.exists_of_follow`: a way leads through directories to something that is there.
* `HostFiles.command?_eq_ok_iff`: the names of programs.
-/

namespace LinkKeeper

namespace HostFiles

variable {name last path : String} {place q : List String} {names : List String} {p : HostProgram}

/-! ### Ways -/

theorem follow_nil : follow place [] = .ok q ↔ q = place ∧ (fileAt? place).isSome = true := by
  rw [follow]
  split
  · rename_i there
    rw [Except.ok.injEq, and_iff_left there, eq_comm]
  · rename_i missing
    exact iff_of_false nofun fun both => missing both.2

theorem follow_cons : follow place (name :: names) = .ok q ↔
    fileAt? place = some .directory ∧ name.utf8ByteSize ≤ longestName ∧
      follow (if name = "" ∨ name = "." then place else stepFrom place name) names = .ok q := by
  rw [follow]
  cases fileAt? place with
  | none => simp
  | some file =>
      cases file with
      | directory =>
          dsimp only
          split
          · rename_i long
            exact iff_of_false nofun fun all => absurd all.2.1 (Nat.not_le.mpr long)
          · rename_i short
            exact ⟨fun found => ⟨rfl, Nat.le_of_not_lt short, found⟩, fun all => all.2.2⟩
      | program | void | plain => simp

/-- The last step of a way is made in a directory. -/
theorem exists_of_follow (found : follow place (names ++ [last]) = .ok q) :
    ∃ parent, fileAt? parent = some .directory ∧
      q = if last = "" ∨ last = "." then parent else stepFrom parent last := by
  induction names generalizing place with
  | nil =>
      obtain ⟨directory, -, rest⟩ := follow_cons.mp found
      exact ⟨place, directory, (follow_nil.mp rest).1⟩
  | cons name names ih => exact ih (follow_cons.mp found).2.2

/-! ### Programs -/

theorem fileAt?_eq_program (there : fileAt? place = some (.program p)) :
    place.dropLast = ["usr", "bin"] ∧ programs.lookup (place.getLast?.getD "") = some p := by
  unfold fileAt? at there
  split at there
  · cases there
  split at there
  · cases there
  split at there
  · cases there
  split at there
  · rename_i parent
    obtain ⟨q, found, same⟩ := Option.map_eq_some_iff.mp there
    cases same
    exact ⟨parent, found⟩
  · cases there

theorem mem_directories (there : fileAt? place = some .directory) : place ∈ directories := by
  unfold fileAt? at there
  split at there
  · rename_i known
    exact List.contains_iff_mem.mp known
  split at there
  · cases there
  split at there
  · cases there
  split at there
  · obtain ⟨q, -, same⟩ := Option.map_eq_some_iff.mp there
    cases same
  · cases there

/-- A step that leads from a directory to a program is made by its name. -/
theorem lookup_of_step (directory : fileAt? place = some .directory)
    (there : fileAt? (stepFrom place name) = some (.program p)) : programs.lookup name = some p := by
  obtain ⟨parent, found⟩ := fileAt?_eq_program there
  unfold stepFrom at parent found
  split at parent
  · have shallow : ∀ place ∈ directories, place.dropLast.dropLast ≠ ["usr", "bin"] := by decide
    exact absurd parent (shallow place (mem_directories directory))
  · rename_i other
    rw [if_neg other] at found
    split at parent
    · have shallow : ∀ entry ∈ links, entry.2.dropLast ≠ ["usr", "bin"] := by decide
      cases linked : links.lookup name with
      | none =>
          rw [linked] at parent
          cases parent
      | some target =>
          rw [linked] at parent
          obtain ⟨earlier, later, listed, -⟩ := List.lookup_eq_some_iff.mp linked
          exact absurd parent (shallow (name, target) (listed ▸ List.mem_append_right _ List.mem_cons_self))
    · rename_i deep
      rw [if_neg deep] at found
      rwa [List.getLast?_concat, Option.getD_some] at found

theorem programAt_eq_ok (found : programAt path = .ok p) :
    ∃ place, placeOf path = .ok place ∧ fileAt? place = some (.program p) := by
  unfold programAt open? at found
  cases placed : placeOf path with
  | error fault =>
      rw [placed] at found
      cases found
  | ok place =>
      rw [placed] at found
      refine ⟨place, rfl, ?_⟩
      simp only [Except.bind] at found
      cases there : fileAt? place with
      | none =>
          rw [there] at found
          cases found
      | some file =>
          rw [there] at found
          cases file <;> cases found
          rfl

theorem placeOf_eq_ok (found : placeOf path = .ok place) :
    ∃ start, follow start ((path.toList.splitOn '/').map String.ofList) = .ok place := by
  unfold placeOf at found
  split at found
  · cases found
  split at found
  · cases found
  · exact ⟨_, found⟩

theorem lookup_of_programAt (plain : '/' ∉ name.toList) (directory : String)
    (found : programAt (directory ++ "/" ++ name) = .ok p) : programs.lookup name = some p := by
  obtain ⟨place, placed, there⟩ := programAt_eq_ok found
  obtain ⟨start, follows⟩ := placeOf_eq_ok placed
  have parts : ((directory ++ "/" ++ name).toList.splitOn '/').map String.ofList =
      (directory.toList.splitOn '/').map String.ofList ++ [name] := by
    have cut : (directory ++ "/" ++ name).toList = directory.toList ++ '/' :: name.toList := by simp
    rw [cut, List.splitOn_append_cons_self, List.splitOn_eq_singleton plain, List.map_append, List.map_singleton,
      String.ofList_toList]
  rw [parts] at follows
  obtain ⟨parent, listed, rfl⟩ := exists_of_follow follows
  split at there
  · cases listed.symm.trans there
  · exact lookup_of_step listed there

theorem exists_of_search {missed : HostFault} {directories : List String}
    (found : search name missed directories = .ok p) : ∃ d ∈ directories, programAt (d ++ "/" ++ name) = .ok p := by
  induction directories generalizing missed with
  | nil => cases found
  | cons d rest ih =>
      have later {missed : HostFault} (found : search name missed rest = .ok p) :
          ∃ other ∈ d :: rest, programAt (other ++ "/" ++ name) = .ok p := by
        obtain ⟨other, mem, there⟩ := ih found
        exact ⟨other, List.mem_cons_of_mem _ mem, there⟩
      rw [search] at found
      split at found
      · cases found
        exact ⟨d, List.mem_cons_self, by assumption⟩
      · exact later found
      · cases found
      · exact later found

/-- A name without a slash stands for a program just when it is the name of one. -/
theorem command?_eq_ok_iff (plain : '/' ∉ name.toList) : command? name = .ok p ↔ programs.lookup name = some p := by
  constructor
  · intro found
    unfold command? at found
    split at found
    · cases found
    split at found
    · rename_i slash
      exact absurd (List.contains_iff_mem.mp slash) plain
    · obtain ⟨d, -, there⟩ := exists_of_search found
      exact lookup_of_programAt plain d there
  · intro known
    have all : ∀ entry ∈ programs, (command? entry.1).toOption = some entry.2 := by decide +kernel
    obtain ⟨earlier, later, listed, -⟩ := List.lookup_eq_some_iff.mp known
    have told := all (name, p) (listed ▸ List.mem_append_right _ List.mem_cons_self)
    cases found : command? name with
    | error fault =>
        rw [found] at told
        cases told
    | ok other =>
        rw [found] at told
        exact congrArg _ (Option.some.inj told)

end HostFiles

end LinkKeeper
