import Replica.Proofs.Rounds
/-!
# Why a run has no result

Whatever stops a run has one cause, and it can be found in what the run leaves.

* **The remote tree.**  Any of its services may give a failure of its own (`Remote.Raises`), with
  which the run then ends (`Remote.Raised`).
* **The local directory.**  `LocalDirectory.Refuses` says how an operation on a path is refused:
  mostly as a condition that stops the run, but a question that the system does not answer comes
  through as it is (`LocalDirectory.refuses_of_made`, and likewise for the other operations).
* **Walks.**  `Walk.Cause` has one rule for each part of a walk that can fail: the levels, a
  listing, one child, and the way back up.  Every course that is stopped has such a cause
  (`Walk.Course.cause`).  The conditions among the causes are those of `Walk.Condition`.
* **Runs.**  The cause of a stopped run is that of the walk that was stopped
  (`Run.Rounds.cause`), unless the run did not get as far as to its walks.
-/

namespace Replica

variable {σ : Type}

/-! ## The remote tree -/

/-- A failure that one of the services of a remote tree gives, in some state. -/
inductive Remote.Raises (r : Remote σ) (f : Failure) : Prop where
  /-- The storages cannot be listed. -/
  | storages {other : σ} {files : FileSystem} {w : World σ}
    (answer : r.listStorages other files = (.error f, w))
  /-- A container cannot be listed. -/
  | children {storage : Int} {container : Option Int} {other : σ} {files : FileSystem}
    {w : World σ} (answer : r.listChildren storage container other files = (.error f, w))
  /-- A file cannot be asked for. -/
  | fetch {file : Node} {target : Path} {other : σ} {files : FileSystem} {w : World σ}
    (answer : r.fetch file target other files = (.error f, w))

/-- The last that a world has seen is a service of the remote tree that gave this failure. -/
inductive Remote.Raised (r : Remote σ) (f : Failure) (w' : World σ) : Prop where
  /-- The storages were asked for. -/
  | storages {other : σ} {files : FileSystem} {w : World σ}
    (answer : r.listStorages other files = (.error f, w))
    (left : w'.files = w.files ∧ w'.other = w.other)
  /-- A container was listed. -/
  | children {storage : Int} {container : Option Int} {other : σ} {files : FileSystem}
    {w : World σ} {standing : Standing} {earlier : List (Standing × Step)}
    (steps : w'.steps = (standing, .listing storage container) :: earlier)
    (answer : r.listChildren storage container other files = (.error f, w))
    (left : w'.files = w.files ∧ w'.other = w.other)
  /-- A file was asked for. -/
  | fetch {file : Node} {target : Path} {other : σ} {files : FileSystem} {w : World σ}
    {standing : Standing} {earlier : List (Standing × Step)}
    (steps : w'.steps = (standing, .fetching file target) :: earlier)
    (answer : r.fetch file target other files = (.error f, w))
    (left : w'.files = w.files ∧ w'.other = w.other)

/-! ## The local directory -/

/-- The problems that keep a yes-or-no question from being answered: a name is too long, or a
directory on the way may not be looked into. -/
inductive FileProblem.Unanswered : FileProblem → Prop where
  | nameTooLong : Unanswered .nameTooLong
  | denied : Unanswered .denied

/-- A yes-or-no question fails only over these. -/
lemma FileSystem.eq_of_isDirectory_error {files : FileSystem} {path : Path} {fault : PathFault}
    (h : files.isDirectory path = .error fault) :
    ∃ problem : FileProblem, problem.Unanswered ∧ fault = .system problem := by
  rw [FileSystem.isDirectory, FileSystem.ask] at h
  split at h <;> cases h
  · exact ⟨_, .nameTooLong, rfl⟩
  · exact ⟨_, .denied, rfl⟩

namespace LocalDirectory

/-- How an operation of a local directory on a path is refused. -/
inductive Refuses (files : FileSystem) (path : Path) : Failure → Prop where
  /-- The directory cannot be made, entered or left. -/
  | directory (fault : DirectoryFault) : Refuses files path (.abort (.directory fault))
  /-- The entry cannot be inspected. -/
  | inspection (fault : DirectoryFault) : Refuses files path (.abort (.inspection fault))
  /-- The path holds the null character. -/
  | nullCharacter (null : path.hasNull = true) : Refuses files path .nullCharacter
  /-- The system does not say whether the path leads to a directory. -/
  | unanswered {problem : FileProblem} (system : problem.Unanswered)
    (question : files.isDirectory path = .error (.system problem)) :
    Refuses files path (.file problem path.text)

variable {d : LocalDirectory} {root : Path} {above : List String} {name : String}
  {files : FileSystem} {path : Path} {f : Failure}

/-- A question that fails is refused as it is. -/
lemma refuses_of_isDirectory {fault : PathFault} (h : files.isDirectory path = .error fault) :
    Refuses files path (.ofPathFault path fault) := by
  obtain ⟨problem, hproblem, rfl⟩ := FileSystem.eq_of_isDirectory_error h
  exact .unanswered hproblem h

/-- Only a path that holds the null character is kept from the system. -/
lemma hasNull_of_resolve {access : FileSystem.Access}
    (h : files.resolve access path = .error .nullCharacter) : path.hasNull = true := by
  by_contra hnull
  rw [FileSystem.resolve] at h
  rw [if_neg hnull] at h
  split_ifs at h
  · cases h
  · split at h <;> cases h

lemma refuses_of_made (h : d.made name files = .error f) : Refuses files (d.pathFor name) f := by
  rw [made] at h
  split at h
  · cases h
  · rename_i hmake
    cases h
    rw [FileSystem.makeDirectory] at hmake
    split at hmake <;> cases hmake
    exact .nullCharacter (hasNull_of_resolve ‹_›)
  · split at h
    · cases h
    · cases h
      exact .directory _
    · rename_i hdirectory
      cases h
      exact refuses_of_isDirectory hdirectory
  · cases h
    exact .directory _

lemma refuses_of_entered (h : d.entered name files = .error f) :
    Refuses files (d.pathFor name) f := by
  rw [entered] at h
  split at h
  · cases h
  · cases h
    exact .directory _
  · rename_i hdirectory
    cases h
    exact refuses_of_isDirectory hdirectory

lemma refuses_of_left (h : left ⟨root, above ++ [name]⟩ files = .error f) :
    Refuses files (pathFor ⟨root, above⟩ name) f := by
  have hcurrent : current ⟨root, above ++ [name]⟩ = pathFor ⟨root, above⟩ name := by
    simp [current, pathFor]
  rw [left] at h
  rw [hcurrent] at h
  split at h
  · cases h
    exact .directory _
  · split at h
    · cases h
    · cases h
      exact .directory _
    · rename_i hdirectory
      cases h
      exact refuses_of_isDirectory hdirectory

lemma refuses_of_inspected (h : d.inspected name files = .error f) :
    Refuses files (d.pathFor name) f := by
  rw [inspected] at h
  split at h
  · cases h
  · cases h
  · rename_i hsize
    cases h
    rw [FileSystem.sizeOf] at hsize
    split at hsize <;> cases hsize
    rename_i hentry
    rw [FileSystem.entryOf] at hentry
    split at hentry <;> cases hentry
    exact .nullCharacter (hasNull_of_resolve ‹_›)
  · cases h
    exact .inspection _

end LocalDirectory

/-! ## Walks -/

namespace Walk

variable {p : Plan σ} {root : Path} {storage : Int} {above : List String} {ids : List Int}
  {a a' : Account σ}

/-- What stopped a walk, with what it left. -/
inductive Cause (p : Plan σ) (root : Path) : Stop → Account σ → Prop where
  /-- A folder was entered and no level was left to go through it. -/
  | tooDeep {a : Account σ} {standing standing' : Standing} {id : Int} {name : String}
    {earlier : List (Standing × Step)}
    (steps : a.steps = (standing, .entered id name) :: earlier) :
    Cause p root ⟨.tooDeep, standing'⟩ a
  /-- A listing failed. -/
  | unlisted {storage : Int} {container : Option Int} {a : Account σ} {f : Failure} {w : World σ}
    {standing standing' : Standing}
    (answer : p.remote.listChildren storage container a.other a.files = (.error f, w)) :
    Cause p root ⟨f, standing'⟩ (a.listing standing storage container w)
  /-- A child stopped the run. -/
  | halted {above : List String} {ids : List Int} {child : Node} {f : Failure} {a a' : Account σ}
    (names : ∀ n ∈ above, isSegment n = true)
    (halt : Halt p root above ids child (a.note (spot above ids) (.taken child)) f a') :
    Cause p root ⟨f, spot above ids⟩ a'
  /-- A directory was gone when it was to be left. -/
  | lost {above : List String} {ids : List Int} {name : String} {f : Failure} {a : Account σ}
    (names : ∀ n ∈ above ++ [name], isSegment n = true)
    (left : LocalDirectory.left ⟨root, above ++ [name]⟩ a.files = .error f) :
    Cause p root ⟨f, ⟨above, above ++ [name], ids⟩⟩ a

/-- **Every course that is stopped has a cause**, unless no level was left for the container that
it starts with. -/
theorem Course.cause {task : Task} {result : Except Stop Unit} {stop : Stop}
    (hc : Course p root storage task above ids a result a')
    (hnames : ∀ n ∈ above, isSegment n = true) (hstop : result = .error stop) :
    Cause p root stop a' ∨
      (∃ container, task = .container 0 container) ∧ stop.failure = .tooDeep ∧ a' = a := by
  induction hc with
  | tooDeep =>
    cases hstop
    exact .inr ⟨⟨_, rfl⟩, rfl, rfl⟩
  | unlisted answer =>
    cases hstop
    exact .inl (.unlisted answer)
  | listed _ _ ih =>
    rcases ih hnames hstop with hcause | ⟨⟨_, htask⟩, -⟩
    · exact .inl hcause
    · cases htask
  | done => cases hstop
  | next _ _ _ ih =>
    rcases ih hnames hstop with hcause | ⟨⟨_, htask⟩, -⟩
    · exact .inl hcause
    · cases htask
  | stopped _ ih =>
    rcases ih hnames hstop with hcause | ⟨⟨_, htask⟩, -⟩
    · exact .inl hcause
    · cases htask
  | deed _ => cases hstop
  | halt hh =>
    cases hstop
    exact .inl (.halted hnames hh)
  | through hcalls _ _ _ _ _ back ih =>
    cases back with
    | back _ => cases hstop
    | lost hleft =>
      cases hstop
      exact .inl (.lost (usable_concat hnames hcalls.segment) hleft)
    | stopped =>
      rcases ih (usable_concat hnames hcalls.segment) hstop with hcause | ⟨-, hdeep, rfl⟩
      · exact .inl hcause
      · obtain ⟨f, standing⟩ := stop
        cases hdeep
        exact .inl (.tooDeep rfl)

/-- The conditions on which a walk stops by itself. -/
inductive Condition (p : Plan σ) (root : Path) : Abort → Account σ → Prop where
  /-- The local directory refuses an operation. -/
  | directory {a : Account σ} (fault : DirectoryFault) : Condition p root (.directory fault) a
  /-- An entry of it cannot be inspected. -/
  | inspection {a : Account σ} (fault : DirectoryFault) : Condition p root (.inspection fault) a
  /-- A folder comes up that the walk is inside of. -/
  | cycle {above : List String} {ids : List Int} {child : Node} {a : Account σ}
    (folder : child.isContainer = true) (inside : child.id ∈ ids) :
    Condition p root (.cycle child.id (Trail.pathOf above))
      (a.note (spot above ids) (.taken child))
  /-- A file cannot be fetched, once too often. -/
  | tooMany {above : List String} {ids : List Int} {child : Node} {target : Path} {a : Account σ}
    {w : World σ} (answer : p.remote.fetch child target a.other a.files = (.ok false, w))
    (exceeded : a.missed.budget.exceeded = true) :
    Condition p root (.tooManyFailures (a.budget.failures + 1) a.budget.threshold)
      (a.failed p above ids child target w)

/-- The local directory refuses with a condition of its own. -/
lemma Condition.of_refuses {files : FileSystem} {path : Path} {f : Failure} {c : Abort}
    (h : LocalDirectory.Refuses files path f) (hf : f = .abort c) : Condition p root c a := by
  cases h with
  | directory fault =>
    cases hf
    exact .directory fault
  | inspection fault =>
    cases hf
    exact .inspection fault
  | nullCharacter _ | unanswered _ => cases hf

/-- A condition on which a walk stops is one of its own, or the remote tree gave it. -/
lemma Cause.condition {stop : Stop} {w' : World σ} (hc : Cause p root stop a)
    (hw : a.Describes w') {c : Abort} (hf : stop.failure = .abort c) :
    p.remote.Raised stop.failure w' ∨ Condition p root c a := by
  obtain ⟨hfiles, hother, hsteps⟩ := hw
  cases hc with
  | tooDeep _ => cases hf
  | unlisted answer => exact .inl (.children hsteps answer ⟨hfiles, hother⟩)
  | lost _ hleft => exact .inr (.of_refuses (LocalDirectory.refuses_of_left hleft) hf)
  | halted _ hh =>
    cases hh with
    | unreadable _ | unnamedFolder _ _ _ | oversized _ _ _ | unnamedFile _ _ _ => cases hf
    | cycle _ hfolder hinside =>
      cases hf
      exact .inr (.cycle hfolder hinside)
    | notMade _ _ _ hmade => exact .inr (.of_refuses (LocalDirectory.refuses_of_made hmade) hf)
    | notEntered _ _ _ _ hentered =>
      exact .inr (.of_refuses (LocalDirectory.refuses_of_entered hentered) hf)
    | notInspected _ _ hinspected =>
      exact .inr (.of_refuses (LocalDirectory.refuses_of_inspected hinspected) hf)
    | fetchFailed _ answer => exact .inl (.fetch hsteps answer ⟨hfiles, hother⟩)
    | tooMany _ answer hexceeded =>
      cases hf
      exact .inr (.tooMany answer hexceeded)

end Walk

/-! ## Runs -/

namespace Run

open Walk (Account)

variable {p : Plan σ} {a a' : Account σ}

/-- The cause of a run that is stopped is that of the walk that was stopped, unless walks go down
no level at all, or a storage cannot be introduced. -/
theorem Rounds.cause {storages : List Storage} {f : Failure}
    (hr : Rounds p storages a (.error f) a') :
    (∃ stop b b', Walk.Cause p.walk p.destination stop b' ∧ stop.failure = f ∧
        a' = b'.since b) ∨
      (p.depth = 0 ∧ f = .tooDeep ∧ a'.steps = a.steps) ∨
      ∃ storage ∈ storages, ∃ line, p.untold? storage = some line ∧
        f = .value (.unwritable line) := by
  have hlast := hr.last (I := fun b => p.depth = 0 → b.steps = a.steps) (fun _ => rfl)
    fun _ b b' _ walk hdepth => by
      rw [hdepth] at walk
      cases walk
  rcases hlast with ⟨hresult, -⟩ | ⟨storage, b, b', stop, hb, walk, hresult, rfl⟩ |
    ⟨⟨storage, hmem, line, huntold, hresult⟩, -⟩
  · cases hresult
  · cases hresult
    rcases walk.cause (by simp) rfl with hcause | ⟨⟨container, htask⟩, hdeep, rfl⟩
    · exact .inl ⟨stop, b, b', hcause, rfl, rfl⟩
    · have hdepth : p.depth = 0 := by
        injection htask
      exact .inr (.inl ⟨hdepth, hdeep, hb hdepth⟩)
  · cases hresult
    exact .inr (.inr ⟨storage, hmem, line, huntold, rfl⟩)

/-- A refused destination is no condition that stops a run. -/
lemma Plan.checked_ne_abort {files : FileSystem} {c : Abort} :
    p.checked files ≠ .error (.abort c) := by
  intro h
  rw [Plan.checked] at h
  split at h
  · cases ‹PathFault› <;> cases h
  · cases h
  · split at h
    · cases ‹PathFault› <;> cases h
    · cases h
    · cases h

/-- A condition on which a run stops is one of its walks', or the remote tree gave it. -/
theorem Ends.condition {result : Except Failure RunStatistics} {w' : World σ}
    (he : Ends p a result a') (hw : a'.Describes w') {c : Abort}
    (hresult : result = .error (.abort c)) :
    p.remote.Raised (.abort c) w' ∨
      ∃ a₁, Walk.Condition p.walk p.destination c a₁ ∧ a₁.Describes w' ∧
        a₁.budget = a'.budget := by
  cases he with
  | refused hchecked =>
    cases hresult
    exact (Plan.checked_ne_abort hchecked).elim
  | unlisted _ answer =>
    cases hresult
    exact .inl (.storages answer ⟨hw.1, hw.2.1⟩)
  | unwritten _ _ _ _ | undrawn _ _ _ _ | veiled _ _ _ _ _ _ => cases hresult
  | @walked storages w result a' _ _ _ rounds =>
    cases result with
    | ok u => cases hresult
    | error f =>
      cases hresult
      rcases rounds.cause with ⟨stop, b, b', hcause, hstop, rfl⟩ | ⟨-, hdeep, -⟩ |
        ⟨_, -, _, -, hvalue⟩
      · have hcondition := hcause.condition hw hstop
        rw [hstop] at hcondition
        exact hcondition.imp_right fun hcondition => ⟨b', hcondition, hw, rfl⟩
      · cases hdeep
      · cases hvalue

end Run

end Replica
