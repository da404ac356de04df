import LinkKeeper.Proofs.Host.Ends
import LinkKeeper.Proofs.Host.Paths
import LinkKeeper.Proofs.Host.Processes
import LinkKeeper.Proofs.Host.Texts
import LinkKeeper.Proofs.Link.Addresses
import LinkKeeper.Proofs.Link.Runs

/-!
Hosts that are asked through a program.

Each command is a run of the program, so what it gives is read off how the run has ended. On the bare host, no program
knows of links: whatever program the commands are given to, the report of the links cannot be had or is empty. The
program is not there, ends with a fault, repeats its words, or prints nothing. So nothing there is asked for to be
changed, and the operations that need a link fail.

* `LinkHost.RunsProgram`: the hosts; `LinkHost.Plain`: what none of them fails with.
* `HostFiles.linkHost`: the bare host, with the program that the commands are given to.
* `HostFiles.reports_no_link`: what the report of the links comes to.
* `HostFiles.only_asks`: what the operations do then.
-/

namespace LinkKeeper

/-- A run of a program does not fail with that there is no link of a hardware address. -/
theorem Invocation.read_ne_notFound (i : Invocation) (outcome : Except HostFault ProcessRun) (gone : String) :
    i.read outcome ≠ .error (.notFound gone) := by
  cases outcome with
  | error fault => exact nofun
  | ok run =>
      unfold read
      dsimp only
      split <;> exact nofun

namespace LinkHost

variable {σ : Type} {h : LinkHost σ}

variable (h) in
/-- The list of the links does not fail with that there is no link of a hardware address. -/
def Plain : Prop := ∀ s gone, (h.answer .showLinks s).1 ≠ .error (.notFound gone)

variable (h) in
/-- The host is asked through a program: each reply is what is read of a run of it, or of why it did not start. -/
def RunsProgram (program : String) : Prop :=
  ∀ c s, ∃ outcome, (h.answer c s).1 = (⟨program, c.words⟩ : Invocation).read outcome

theorem RunsProgram.plain {program : String} (runs : h.RunsProgram program) : h.Plain := by
  intro s gone failed
  obtain ⟨outcome, read⟩ := runs .showLinks s
  exact Invocation.read_ne_notFound _ outcome gone (read.symm.trans failed)

end LinkHost

/-! ### What programs print -/

namespace Programs

/-- Files are not looked into. -/
theorem output_concatenate (files : List Raw) : (concatenate [] files).output = [] := by
  refine List.foldlRecOn (motive := fun done : Printed => done.output = []) _ _ rfl ?_
  intro done nothing file _
  dsimp only
  split
  · exact (List.append_nil _).trans nothing
  · split <;> exact nothing

theorem output_test (name : Raw) (words : List Raw) : (test name words).output = [] := by
  unfold test
  dsimp only
  split
  · rfl
  · split <;> rfl

theorem status_sleep {w : Raw} (wrong : isSpan w = false) (name : Raw) {spans : List Raw} (mem : w ∈ spans) :
    (sleep name spans).status = 1 := by
  have kept : w ∈ spans.filter (!isSpan ·) := List.mem_filter.mpr ⟨mem, by rw [wrong]; rfl⟩
  unfold sleep
  split
  · cases mem
  · rename_i none
    rw [none] at kept
    cases kept
  · rfl

end Programs

namespace HostFiles

open Links Net

theorem fits_none (d : Network) (g : Gateway) (entry : none = some g) : Route.Fits ⟨d, g.via⟩ := by
  cases entry

/-- The host whose commands are runs of a program. It has no links, and nothing on it changes. -/
def linkHost (program : String) : AddressHost Unit where
  answer c s := ((⟨program, c.words⟩ : Invocation).read (spawn program c.words), s)
  links _ := []
  routes _ _ := ⟨fun _ => none, fits_none⟩
  scopes _ _ _ := none

variable {program : String} {p : HostProgram}

theorem runsProgram_linkHost : (linkHost program).RunsProgram program := fun _ _ => ⟨_, rfl⟩

/-! ### Programs that are asked for the links -/

/-- The words by which the links are asked for. -/
theorem words_showLinks : IpCommand.showLinks.words.map Raw.ofString = [['-', 'j'], "link".toList, "show".toList] := by
  decide +kernel

/-- A program that stands alone and is asked for the links prints nothing or its words, or ends with a fault. -/
theorem print_showLinks {name : Raw} {printed : Printed}
    (prints : Programs.print? name (IpCommand.showLinks.words.map Raw.ofString) [] p = some printed) :
    printed.status ≠ 0 ∨ printed.output ∈ [[], "-j".toList, "-j link show\n".toList] := by
  rw [words_showLinks] at prints
  cases p with
  | echo =>
      cases prints
      exact .inr (by decide +kernel)
  | succeed =>
      cases prints
      exact .inr List.mem_cons_self
  | fail =>
      cases prints
      exact .inl Nat.one_ne_zero
  | printf =>
      cases prints
      have plain : Programs.printf name [['-', 'j'], "link".toList, "show".toList] =
          Formats.print .standalone ['-', 'j'] ["link".toList, "show".toList] := by
        unfold Programs.printf
        rw [if_neg (by decide +kernel)]
      rw [plain, (Formats.print_plain .standalone (by decide) (by decide) _).1]
      exact .inr (List.mem_cons_of_mem _ List.mem_cons_self)
  | concatenate =>
      cases prints
      exact .inr (by rw [Programs.output_concatenate]; exact List.mem_cons_self)
  | sleep =>
      cases prints
      exact .inl (by rw [Programs.status_sleep (by decide +kernel) name List.mem_cons_self]; exact Nat.one_ne_zero)
  | test =>
      cases prints
      exact .inr (by rw [Programs.output_test]; exact List.mem_cons_self)
  | shell => cases prints

/-- The shell does not know the option by which the links are asked for. -/
theorem ending_shell (name : Raw) :
    (Shell.run name (IpCommand.showLinks.words.map Raw.ofString)).ending = .exited 2 := by
  rw [words_showLinks]
  exact Shell.ending_run (by decide) (by decide) name [] _

theorem exists_execute {name : String} {arguments : List String} {run : ProcessRun}
    (spawned : spawn name arguments = .ok run) : ∃ p, run = execute name arguments p := by
  unfold spawn at spawned
  split at spawned
  · cases spawned
  · cases found : command? name with
    | error fault =>
        rw [found] at spawned
        cases spawned
    | ok p =>
        rw [found] at spawned
        refine ⟨p, ?_⟩
        simp only [Except.bind] at spawned
        split at spawned <;> cases spawned
        rfl

/-- What has been printed if the links have been asked for without a fault. -/
theorem output_of_spawn {run : ProcessRun} (spawned : spawn program IpCommand.showLinks.words = .ok run)
    (ended : run.ending = .exited 0) :
    run.output ∈ [[], "-j".toList, "-j link show\n".toList].map Raw.octets := by
  obtain ⟨p, rfl⟩ := exists_execute spawned
  cases printed : Programs.print? (Raw.ofString program) (IpCommand.showLinks.words.map Raw.ofString) [] p with
  | none =>
      have shell : execute program IpCommand.showLinks.words p =
          Shell.run (Raw.ofString program) (IpCommand.showLinks.words.map Raw.ofString) := by
        unfold execute
        dsimp only
        rw [printed]
      rw [shell, ending_shell] at ended
      cases ended
  | some given =>
      obtain ⟨code, ends, status⟩ := code_execute printed
      rw [output_execute printed]
      cases ends.symm.trans ended
      exact List.mem_map_of_mem ((print_showLinks printed).resolve_left fun failed => failed status.symm)

/-- The report of the links cannot be had or is empty. -/
theorem reports_no_link (program : String) {links : List LinkEntry}
    (read : Reads LinkEntry.fromJson? .showLinks ((linkHost program).answer .showLinks ()).1 (.ok links)) :
    links = [] := by
  obtain ⟨text, reply, parsed⟩ := read.parse?
  obtain ⟨run, spawned, ended, rfl⟩ := Invocation.read_eq_ok_iff.mp reply
  have printed := output_of_spawn spawned ended
  simp only [List.map_cons, List.map_nil, List.mem_cons, List.not_mem_nil, or_false] at printed
  have garbled : ∀ words ∈ ["-j", "-j link show\n"],
      Report.parse? LinkEntry.fromJson? (String.ofList (Text.Octets.decode (Raw.octets words.toList))) = none := by
    decide +kernel
  rcases printed with same | same | same <;> rw [same] at parsed
  · exact (Option.some.inj ((if_pos rfl : Report.parse? LinkEntry.fromJson? "" = some []).symm.trans parsed)).symm
  · cases (garbled _ List.mem_cons_self).symm.trans parsed
  · cases (garbled _ (List.mem_cons_of_mem _ List.mem_cons_self)).symm.trans parsed

/-- What is not the name of a program cannot be started. -/
theorem exists_fault {name : String} (plain : '/' ∉ name.toList) (unknown : programs.lookup name = none)
    (arguments : List String) : ∃ fault, spawn name arguments = .error fault := by
  unfold spawn
  split
  · exact ⟨_, rfl⟩
  · cases found : command? name with
    | error fault => exact ⟨fault, rfl⟩
    | ok p =>
        rw [command?_eq_ok_iff plain, unknown] at found
        cases found

/-! ### Operations on the bare host -/

/-- The one command that is run on the host, with what it gives. -/
def asked (program : String) : List Event := [⟨.showLinks, ((linkHost program).answer .showLinks ()).1⟩]

variable {α : Type} {mac : String} {address : Network} {x : LinkProgram α}

/-- A link that is looked up is not found; if the report could not be had, that is why. -/
theorem finds_nothing {outcome : Except LinkError LinkEntry}
    (finds : Finds mac ((linkHost program).trace x ()) outcome) :
    (linkHost program).trace x () = asked program ∧
      ∃ e, outcome = .error e ∧ ∀ why, ((linkHost program).answer .showLinks ()).1 = .error why → e = why := by
  have given (reply : IpReply) (mem : ⟨.showLinks, reply⟩ ∈ (linkHost program).trace x ()) :
      reply = ((linkHost program).answer .showLinks ()).1 := by
    obtain ⟨_, gives⟩ := Program.exists_of_mem_trace mem
    exact gives
  generalize (linkHost program).trace x () = events at finds given
  cases finds with
  | unread unread =>
      obtain rfl := given _ List.mem_cons_self
      refine ⟨rfl, _, rfl, fun why failed => ?_⟩
      rw [failed] at unread
      cases unread
      rfl
  | absent read absent =>
      obtain rfl := given _ List.mem_cons_self
      refine ⟨rfl, _, rfl, fun why failed => ?_⟩
      rw [failed] at read
      cases read
  | found read found =>
      obtain rfl := given _ List.mem_cons_self
      obtain rfl := reports_no_link program read
      cases found

/-- What needs a link fails. -/
theorem find_only_asks (f : LinkEntry → LinkProgram α) :
    (linkHost program).trace (find mac >>= f) () = asked program ∧
      ∃ e, (linkHost program).run (find mac >>= f) () = (.error e, ()) := by
  have path := Program.path_run (linkHost program).answer (find mac).run ()
  obtain ⟨traced, e, failed, -⟩ := finds_nothing (path_find path)
  have ran : (linkHost program).run (find mac) () = (.error e, ()) := Prod.ext failed rfl
  refine ⟨?_, e, LinkHost.run_bind_error ran⟩
  rw [LinkHost.trace_bind, ran, List.append_nil]
  exact traced

/-- That no link is found is forgiven, and no other error. -/
theorem findUnlessGone_only_asks :
    (linkHost program).trace (findUnlessGone mac) () = asked program ∧
      ∃ r, (linkHost program).run (findUnlessGone mac) () = (r, ()) ∧ (r = .ok none ∨ ∃ e, r = .error e) ∧
        ∀ why, ((linkHost program).answer .showLinks ()).1 = .error why → r = .error why := by
  have path := Program.path_run (linkHost program).answer (findUnlessGone mac).run ()
  rcases path_findUnlessGone path with ⟨link, finds, -⟩ | ⟨gone, finds, same⟩ | ⟨e, finds, -, same⟩
  · obtain ⟨-, e, failed, -⟩ := finds_nothing finds
    cases failed
  · obtain ⟨traced, e, failed, reason⟩ := finds_nothing finds
    cases failed
    refine ⟨traced, _, Prod.ext same rfl, .inl rfl, fun why refused => ?_⟩
    obtain rfl := reason why refused
    exact absurd refused (runsProgram_linkHost.plain () gone)
  · obtain ⟨traced, e, failed, reason⟩ := finds_nothing finds
    cases failed
    exact ⟨traced, _, Prod.ext same rfl, .inr ⟨_, rfl⟩, fun why refused => congrArg _ (reason why refused)⟩

theorem tearDown_only_asks : (linkHost program).trace (tearDown mac address) () = asked program := by
  obtain ⟨traced, r, ran, rfl | ⟨e, rfl⟩, -⟩ := findUnlessGone_only_asks
  all_goals
    refine LinkHost.trace_bind.trans ?_
    rw [ran, traced]
    exact List.append_nil _

/-- A link is not torn down if the program that it is asked for through cannot be started. -/
theorem tearDown_unstarted {fault : HostFault} (missing : spawn program IpCommand.showLinks.words = .error fault) :
    (linkHost program).run (tearDown mac address) () =
      (.error (.spawn (⟨program, IpCommand.showLinks.words⟩ : Invocation).line fault.message), ()) := by
  obtain ⟨-, r, ran, -, reason⟩ := findUnlessGone_only_asks
  obtain rfl := reason _ (congrArg (Invocation.read _) missing)
  exact LinkHost.run_bind_error ran

/-- All that the operations do is to ask for the links, and those that need one fail. -/
theorem only_asks (program mac : String) (address : Network) (routes : List Route) :
    (linkHost program).trace (tearDown mac address) () = asked program ∧
      ((linkHost program).trace (Links.name mac) () = asked program ∧
        ∃ e, (linkHost program).run (Links.name mac) () = (.error e, ())) ∧
      ((linkHost program).trace (configure mac address) () = asked program ∧
        ∃ e, (linkHost program).run (configure mac address) () = (.error e, ())) ∧
      (linkHost program).trace (syncRoutes mac routes) () = asked program ∧
        ∃ e, (linkHost program).run (syncRoutes mac routes) () = (.error e, ()) :=
  ⟨tearDown_only_asks, find_only_asks _, find_only_asks _, find_only_asks _⟩

end HostFiles

end LinkKeeper
