import LinkKeeper.Proofs.Reconcile.Alone

/-!
What a pass makes of the interface that is stored.

A pass may stop before or after either of its writes. However far it gets, what it leaves is on the way
to the same end: `NetworkInterface.aim` tells that end from any of the states before it.

* `Pass.Progress`: how far a pass over an interface of this node has got.
* `Pass.Working.progress`: every undisturbed pass gets that far, and changes nothing else in the store.
* `Pass.Progress.aim_of_error`, `Pass.Progress.aim_of_done`: a pass that fails does not change the aim, and
  one that is done has reached it.
-/

namespace LinkKeeper

open Net

namespace NetworkInterface

/-- The interface as a pass goes on with it: without the finalizer if it is to be let go. -/
def freed (nic : NetworkInterface) : NetworkInterface := if Phase.releases nic then nic.withoutFinalizer else nic

/-- What passes make of the interface in the end, up to its version. -/
def aim (settings : Settings) (link : String) (nic : NetworkInterface) : Option NetworkInterface :=
  if nic.departs then none
  else if Phase.releases nic && settings.endAfterTearDown then some nic.withoutFinalizer.unversioned
  else some (nic.freed.withLinkName link).unversioned

section Aim

variable {settings : Settings} {link : String} {nic other : NetworkInterface}

theorem freed_of_releases (releases : Phase.releases nic = true) : nic.freed = nic.withoutFinalizer := if_pos releases

theorem freed_of_stays (stays : Phase.releases nic = false) : nic.freed = nic := if_neg (by simp [stays])

theorem releases_freed (nic : NetworkInterface) : Phase.releases nic.freed = false := by
  cases releases : Phase.releases nic with
  | true =>
      rw [freed_of_releases releases]
      exact releases_withoutFinalizer nic
  | false =>
      rw [freed_of_stays releases]
      exact releases

/-- The aim of an interface that is not to be let go, or no longer. -/
theorem aim_of_stays (stays : Phase.releases nic = false) :
    nic.aim settings link = some (nic.withLinkName link).unversioned := by
  unfold aim departs
  rw [freed_of_stays stays, stays]
  rfl

theorem withLinkName_withLinkName (nic : NetworkInterface) (link : String) :
    (nic.withLinkName link).withLinkName link = nic.withLinkName link := rfl

theorem withLinkName_of_unversioned (same : nic.unversioned = other.unversioned) :
    (nic.withLinkName link).unversioned = (other.withLinkName link).unversioned :=
  show nic.unversioned.withLinkName link = other.unversioned.withLinkName link from
    congrArg (·.withLinkName link) same

end Aim

end NetworkInterface

namespace Pass

/-- How far a pass over the interface has got when it ends with the result: what is stored now. -/
inductive Progress (settings : Settings) (link : String) (nic : NetworkInterface) :
    Except KeeperError Outcome → Option NetworkInterface → Prop where
  | unchanged {e : KeeperError} : Progress settings link nic (.error e) (some nic)
  | departed {r : Except KeeperError Outcome} (departs : nic.departs = true) : Progress settings link nic r none
  | released {e : KeeperError} {now : NetworkInterface} (releases : Phase.releases nic = true)
      (remains : nic.departs = false) (long : settings.endAfterTearDown = false)
      (keeps : Moment.Keeps nic now) (same : now.unversioned = nic.withoutFinalizer.unversioned) :
      Progress settings link nic (.error e) (some now)
  | ended {now : NetworkInterface} (releases : Phase.releases nic = true) (remains : nic.departs = false)
      (short : settings.endAfterTearDown = true) (keeps : Moment.Keeps nic now)
      (same : now.unversioned = nic.withoutFinalizer.unversioned) :
      Progress settings link nic (.ok .done) (some now)
  | recorded {r : Except KeeperError Outcome} {now : NetworkInterface} (remains : nic.departs = false)
      (goesOn : (Phase.releases nic && settings.endAfterTearDown) = false) (keeps : Moment.Keeps nic now)
      (same : now.unversioned = (nic.freed.withLinkName link).unversioned) :
      Progress settings link nic r (some now)

section Progress

variable {settings : Settings} {link : String} {nic : NetworkInterface} {now : Option NetworkInterface}
  {r : Except KeeperError Outcome}

/-- What is stored after a pass is what was there, or an interface that is not to be let go. -/
theorem Progress.stays {now : NetworkInterface} {e : KeeperError}
    (progress : Progress settings link nic (.error e) (some now)) :
    now = nic ∨ Phase.releases now = false ∧ Moment.Keeps nic now ∧ nic.departs = false ∧
      (Phase.releases nic && settings.endAfterTearDown) = false := by
  cases progress with
  | unchanged => exact .inl rfl
  | released _ remains long keeps same =>
      exact .inr ⟨(NetworkInterface.releases_of_unversioned same).trans
        (NetworkInterface.releases_withoutFinalizer nic), keeps, remains, by simp [long]⟩
  | recorded remains goesOn keeps same =>
      exact .inr ⟨(NetworkInterface.releases_of_unversioned same).trans (NetworkInterface.releases_freed nic),
        keeps, remains, goesOn⟩

theorem Progress.keeps {now : NetworkInterface} (progress : Progress settings link nic r (some now)) :
    Moment.Keeps nic now := by
  cases progress with
  | unchanged => exact ⟨rfl, rfl, rfl⟩
  | released _ _ _ keeps | ended _ _ _ keeps | recorded _ _ keeps => exact keeps

/-- A pass that fails does not change the aim. -/
theorem Progress.aim_of_error {e : KeeperError} (progress : Progress settings link nic (.error e) now) :
    (now.bind fun nic => nic.aim settings link) = nic.aim settings link := by
  cases progress with
  | unchanged => rfl
  | departed departs => exact (if_pos departs).symm
  | @released _ now releases remains long keeps same =>
      have stays : Phase.releases now = false :=
        (NetworkInterface.releases_of_unversioned same).trans (NetworkInterface.releases_withoutFinalizer nic)
      rw [Option.bind_some, NetworkInterface.aim_of_stays stays, NetworkInterface.withLinkName_of_unversioned same]
      unfold NetworkInterface.aim
      rw [if_neg (by simp [remains]), if_neg (by simp [long]), NetworkInterface.freed_of_releases releases]
  | @recorded _ now remains goesOn keeps same =>
      have stays : Phase.releases now = false :=
        (NetworkInterface.releases_of_unversioned same).trans (NetworkInterface.releases_freed nic)
      rw [Option.bind_some, NetworkInterface.aim_of_stays stays, NetworkInterface.withLinkName_of_unversioned same,
        NetworkInterface.withLinkName_withLinkName]
      unfold NetworkInterface.aim
      rw [if_neg (by simp [remains]), if_neg (by simp [goesOn])]

/-- A pass that is done has reached the aim. -/
theorem Progress.aim_of_done (progress : Progress settings link nic (.ok .done) now) :
    now.map NetworkInterface.unversioned = nic.aim settings link := by
  unfold NetworkInterface.aim
  cases progress with
  | departed departs => exact (if_pos departs).symm
  | ended releases remains short keeps same =>
      rw [if_neg (by simp [remains]), if_pos (by simp [releases, short]), Option.map_some, same]
  | recorded remains goesOn keeps same =>
      rw [if_neg (by simp [remains]), if_neg (by simp [goesOn]), Option.map_some, same]

end Progress

/-! ### What comes of an undisturbed pass -/

section Undisturbed

variable {settings : Settings} {key : ObjectKey} {mac link : String} {address : Network}
  {nic : NetworkInterface} {st : PassState} {s t : MemoryStore} {events : List Event}
  {r : Except KeeperError Outcome}

/-- The steps that bring a link into the declared state write its name or nothing. -/
theorem Convergence.written (convergence : Convergence mac address st s events r t)
    (holds : Holds key.name s st)
    (resolves : ∀ name, ⟨.linkName mac, .ok name⟩ ∈ events → name = link) :
    (∃ e, r = .error e ∧ s.Rewritten t key.name (s.getInterface key.name)) ∨
      ∃ now, s.Accepted key.name st.nic now t ∧ now.unversioned = (st.nic.withLinkName link).unversioned ∧
        s.Rewritten t key.name (some now) := by
  cases convergence with
  | unverified | unresolved => exact .inl ⟨_, rfl, .refl s key.name⟩
  | unrecorded _ _ refused => exact .inl ⟨_, rfl, MemoryStore.rewritten_of_refused (.inr refused)⟩
  | unconnected _ recording | connected _ recording =>
      obtain rfl := resolves _ (List.mem_cons_of_mem _ List.mem_cons_self)
      exact .inr ⟨_, recording.stored holds⟩

/-- How far an undisturbed pass gets. -/
theorem Working.progress (working : Working settings mac address nic s events r t) (consistent : s.Consistent)
    (present : s.getInterface key.name = some nic)
    (resolves : ∀ name, ⟨.linkName mac, .ok name⟩ ∈ events → name = link) :
    ∃ now, s.Rewritten t key.name now ∧ Progress settings link nic r now := by
  cases working with
  | untorn => exact ⟨_, .refl s key.name, by rw [present]; exact .unchanged⟩
  | unreleased _ refused =>
      exact ⟨_, MemoryStore.rewritten_of_refused (.inl refused), by rw [present]; exact .unchanged⟩
  | converging stays convergence =>
      have remains : nic.departs = false := by simp [NetworkInterface.departs, stays]
      rcases convergence.written (.of_read consistent present) resolves with
        ⟨e, rfl, rewritten⟩ | ⟨now, accepted, same, rewritten⟩
      · exact ⟨_, rewritten, by rw [present]; exact .unchanged⟩
      · refine ⟨_, rewritten, .recorded remains (by simp [stays]) accepted.keeps ?_⟩
        rw [same, NetworkInterface.freed_of_stays stays]
  | ended releases short accepted =>
      obtain ⟨-, keeps, same, rewritten⟩ := Holds.of_release consistent present releases accepted
      cases remains : nic.departs with
      | true => exact ⟨_, rewritten, by rw [if_pos remains]; exact .departed remains⟩
      | false =>
          refine ⟨_, rewritten, ?_⟩
          rw [if_neg (by simp [remains])]
          exact .ended releases remains short keeps same
  | @released written u _ later _ releases long accepted convergence =>
      obtain ⟨holds, keeps, same, rewritten⟩ := Holds.of_release consistent present releases accepted
      rcases convergence.written holds (fun name mem => resolves name (List.mem_append_right [_, _] mem)) with
        ⟨e, rfl, unwritten⟩ | ⟨now, recorded, also, onward⟩
      · refine ⟨_, rewritten.trans unwritten, ?_⟩
        rw [rewritten.now]
        cases remains : nic.departs with
        | true => exact .departed remains
        | false => exact .released releases remains long keeps same
      · -- What has been written again was there, so the interface has not gone.
        have there := rewritten.now.symm.trans recorded.present
        cases remains : nic.departs with
        | true =>
            rw [if_pos remains] at there
            cases there
        | false =>
            refine ⟨_, rewritten.trans onward, .recorded remains (by simp [long]) (keeps.trans recorded.keeps) ?_⟩
            rw [also, NetworkInterface.freed_of_releases releases]
            exact NetworkInterface.withLinkName_of_unversioned same

end Undisturbed

end Pass

end LinkKeeper
