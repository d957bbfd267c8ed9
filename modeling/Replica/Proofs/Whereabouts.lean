import Replica.Proofs.Cycles
/-!
# Where a stopped walk stands

A condition that stops a run is reported twice, each time with a place: the report of the run takes
it from the trail, and the condition itself, where it names one, from the local directory.  The two
records of a walk are moved one after the other, so it matters between which two moves the walk was
stopped.

* **Stops.**  `Walk.Strands` has one rule for each place at which a walk can fail, with where it
  stands then.  A walk fails in the directory that it is in by its local directory
  (`Walk.Course.strands`), and that is also the one that a condition names.
* **Walks.**  `Walk.perform_locates` says when the trail names the same directory: always, except
  over a directory that is gone when it is to be left.  Its name is off the trail by then, as
  `Walk.strays_on_leaving` shows.
-/

namespace Replica

variable {σ : Type}

/-- The directory that a condition names, relative to the destination, if it names one. -/
def Abort.context? : Abort → Option String
  | .directory fault | .inspection fault => some fault.context
  | .cycle _ context => some context
  | .trail _ | .tooManyFailures .. => none

/-- The condition names no other directory than the one with these names on the way to it. -/
def Abort.Concerns (c : Abort) (parts : List String) : Prop :=
  ∀ context ∈ c.context?, context = Trail.pathOf parts

/-- Only the destination itself has no names on the way to it. -/
lemma Trail.eq_nil_of_pathOf {parts : List String} (h : pathOf parts = "") : parts = [] := by
  cases parts with
  | nil => rfl
  | cons part rest =>
    have hslash : '/' ∈ (pathOf (part :: rest)).toList := by simp [pathOf]
    rw [h] at hslash
    cases hslash

namespace LocalDirectory

variable {d : LocalDirectory} {root : Path} {above : List String} {name : String}
  {files : FileSystem} {c : Abort}

/-- A fault of a local directory names that directory. -/
lemma concerns_fault (d : LocalDirectory) (problem : DirectoryProblem) (name : String) :
    (Abort.directory (d.fault problem name)).Concerns d.parts ∧
      (Abort.inspection (d.fault problem name)).Concerns d.parts := by
  constructor <;> rintro - ⟨rfl⟩ <;> rfl

lemma concerns_of_made (h : d.made name files = .error (.abort c)) : c.Concerns d.parts := by
  rw [made] at h
  split at h
  · cases h
  · cases h
  · split at h
    · cases h
    · cases h
      exact (d.concerns_fault _ _).1
    · rename_i fault _
      cases fault <;> cases h
  · cases h
    exact (d.concerns_fault _ _).1

lemma concerns_of_entered (h : d.entered name files = .error (.abort c)) : c.Concerns d.parts := by
  rw [entered] at h
  split at h
  · cases h
  · cases h
    exact (d.concerns_fault _ _).1
  · rename_i fault _
    cases fault <;> cases h

lemma concerns_of_inspected (h : d.inspected name files = .error (.abort c)) :
    c.Concerns d.parts := by
  rw [inspected] at h
  split at h <;> cases h
  exact (d.concerns_fault _ _).2

/-- A directory that stops the run when it is to be left is gone. -/
lemma eq_vanished_of_left (h : left ⟨root, above ++ [name]⟩ files = .error (.abort c)) :
    c = .directory (fault ⟨root, above ++ [name]⟩ .vanished name) := by
  rw [left] at h
  dsimp only at h
  rw [List.getLast?_concat] at h
  dsimp only at h
  split at h
  · cases h
  · cases h
    rfl
  · rename_i fault _
    cases fault <;> cases h

end LocalDirectory

namespace Walk

open Run (samplePlan sampleWorld sampleDevice sampleFolder)

variable {p : Plan σ} {root : Path} {storage : Int} {above : List String} {ids : List Int}
  {a a' : Account σ} {standing : Standing} {c : Abort}

/-! ## Stops -/

/-- What fails when a walk is stopped, with where it stands then and the account that it leaves. -/
inductive Strands (p : Plan σ) (root : Path) (storage : Int) :
    Standing → Failure → Account σ → Prop where
  /-- There is no level left for what is in the directory. -/
  | level {above : List String} {ids : List Int} {a : Account σ} :
    Strands p root storage (spot above ids) .tooDeep a
  /-- The listing for the directory fails. -/
  | listing {above : List String} {ids : List Int} {container : Option Int} {a : Account σ}
    {f : Failure} {w : World σ}
    (answer : p.remote.listChildren storage container a.other a.files = (.error f, w)) :
    Strands p root storage (spot above ids) f (a.listing (spot above ids) storage container w)
  /-- A child stops the run in the directory. -/
  | child {above : List String} {ids : List Int} {child : Node} {a a' : Account σ} {f : Failure}
    (halt : Halt p root above ids child (a.note (spot above ids) (.taken child)) f a') :
    Strands p root storage (spot above ids) f a'
  /-- The directory is gone when it is to be left, and its name is off the trail. -/
  | leaving {above : List String} {name : String} {ids : List Int} {a : Account σ} {f : Failure}
    (left : LocalDirectory.left ⟨root, above ++ [name]⟩ a.files = .error f) :
    Strands p root storage ⟨above, above ++ [name], ids⟩ f a

/-- **Every course that is stopped is stopped at one of these places.** -/
theorem Course.strands {task : Task} {result : Except Stop Unit} {stop : Stop}
    (hc : Course p root storage task above ids a result a') (hstop : result = .error stop) :
    Strands p root storage stop.standing stop.failure a' := by
  induction hc with
  | tooDeep =>
    cases hstop
    exact .level
  | unlisted answer =>
    cases hstop
    exact .listing answer
  | listed _ _ ih => exact ih hstop
  | done => cases hstop
  | next _ _ _ ih => exact ih hstop
  | stopped _ ih => exact ih hstop
  | deed _ => cases hstop
  | halt hh =>
    cases hstop
    exact .child hh
  | through _ _ _ _ _ _ back ih =>
    cases back with
    | back _ => cases hstop
    | lost hleft =>
      cases hstop
      exact .leaving hleft
    | stopped => exact ih hstop

/-- The trail names the directory that the walk is in, unless that is gone. -/
lemma Strands.agreement (hs : Strands p root storage standing (.abort c) a) :
    standing.segments = standing.parts ∨
      ∃ fault, c = .directory fault ∧ fault.problem = .vanished ∧
        standing.parts = standing.segments ++ [fault.name] := by
  cases hs with
  | listing _ | child _ => exact .inl rfl
  | leaving hleft => exact .inr ⟨_, LocalDirectory.eq_vanished_of_left hleft, rfl, rfl⟩

/-- A condition names the directory that the walk is in, unless the remote tree gave it. -/
lemma Strands.concerns (hs : Strands p root storage standing (.abort c) a) {w' : World σ}
    (hw : a.Describes w') : p.remote.Raised (.abort c) w' ∨ c.Concerns standing.parts := by
  obtain ⟨hfiles, hother, hsteps⟩ := hw
  cases hs with
  | listing answer => exact .inl (.children hsteps answer ⟨hfiles, hother⟩)
  | leaving hleft =>
    rw [LocalDirectory.eq_vanished_of_left hleft]
    exact .inr (LocalDirectory.concerns_fault _ _ _).1
  | child hh =>
    cases hh with
    | cycle _ _ _ =>
      refine .inr ?_
      rintro - ⟨rfl⟩
      rfl
    | notMade _ _ _ hmade => exact .inr (LocalDirectory.concerns_of_made hmade)
    | notEntered _ _ _ _ hentered => exact .inr (LocalDirectory.concerns_of_entered hentered)
    | notInspected _ _ hinspected => exact .inr (LocalDirectory.concerns_of_inspected hinspected)
    | fetchFailed _ answer => exact .inl (.fetch hsteps answer ⟨hfiles, hother⟩)
    | tooMany _ _ _ => exact .inr nofun

/-! ## Walks -/

/-- **A walk that stops knows where it is.**  Take any walk over any remote tree, whatever happens
to the files meanwhile, that starts with the trail and the local directory in agreement.  If a
condition stops it, then something failed in the directory that it is in by its local directory, and
the condition names no other one, unless the remote tree itself gave it.  The trail names this
directory too, and so does the report of the run; only over a directory that is gone when it is to
be left the trail names the one above. -/
theorem perform_locates (p : Plan σ) (walk : Walk) (hwalk : walk.trail.path = walk.place.relative)
    (storage : Int) (container : Option Int) (w : World σ) {condition : Abort} {walk' : Walk}
    {w' : World σ}
    (hrun : (p.perform walk storage container).run w =
      (.ok (.error (.abort condition), walk'), w')) :
    (Strands p walk.place.root storage walk'.standing (.abort condition) (accountOf walk' w') ∨
        condition = .trail (.startedInside walk.trail.path) ∧ walk' = walk ∧ w' = w) ∧
      (p.remote.Raised (.abort condition) w' ∨ condition.Concerns walk'.place.parts) ∧
      (walk'.trail.path = walk'.place.relative ∨
        ∃ fault, condition = .directory fault ∧ fault.problem = .vanished ∧
          walk'.place.parts = walk'.trail.segments ++ [fault.name]) ∧
      ∀ (s : Storage) (v : World σ), (Run.reportAbort s walk' (.abort condition)).run v =
        (.ok (), v.add (.logged ⟨.error, .run, "Aborting mirror in storage " ++ toString s.id ++
          " at '" ++ walk'.trail.path ++ "': " ++ condition.message⟩)) := by
  by_cases htop : walk.trail = .empty
  · have hparts : walk.place.parts = walk.trail.segments := by
      rw [htop] at hwalk ⊢
      exact Trail.eq_nil_of_pathOf hwalk.symm
    obtain ⟨r, hresult, hstanding, hcourse⟩ := standing_of_perform hparts htop hrun
    rcases r with ⟨f, standing⟩ | u
    · obtain rfl : .abort condition = f := Except.error.inj hresult
      obtain rfl : standing = walk'.standing := hstanding _ rfl
      have hstrands := hcourse.strands rfl
      refine ⟨.inl hstrands, hstrands.concerns ⟨rfl, rfl, rfl⟩, ?_, fun _ _ => rfl⟩
      exact hstrands.agreement.imp_left fun hagree => congrArg Trail.pathOf hagree
    · cases hresult
  · rw [perform_eq, run_start_of_inside htop] at hrun
    cases hrun
    exact ⟨.inr ⟨rfl, rfl, rfl⟩, .inr nofun, .inl hwalk, fun _ _ => rfl⟩

/-- A walk ends as its outcome says. -/
lemma perform_of_toOption {walk : Walk} {container : Option Int} {w : World σ}
    {outcome : Except Failure Unit × Walk}
    (h : ((p.perform walk storage container).run w).1.toOption = some outcome) :
    (p.perform walk storage container).run w =
      (.ok outcome, ((p.perform walk storage container).run w).2) := by
  rw [perform_eq] at h ⊢
  rw [Option.some.inj h]

/-- The walk over the device with a loop is stopped inside of the folder that comes up again, and
everything names that folder. -/
theorem perform_locates_loop :
    ∃ w', (loopPlan.perform loopStart 7 none).run sampleWorld =
        (.ok (.error (.abort (.cycle 1 "a/")), loopEnd), w') ∧
      Strands loopPlan loopStart.place.root 7 loopEnd.standing (.abort (.cycle 1 "a/"))
        (accountOf loopEnd w') ∧
      loopEnd.place.parts = ["a"] ∧ loopEnd.trail.path = loopEnd.place.relative := by
  have hresult : ((loopPlan.perform loopStart 7 none).run sampleWorld).1.toOption =
      some (.error (.abort (.cycle 1 "a/")), loopEnd) := by
    decide +kernel
  have hrun := perform_of_toOption hresult
  obtain ⟨hstrands, -, hagree, -⟩ := perform_locates loopPlan loopStart rfl 7 none sampleWorld hrun
  refine ⟨_, hrun, ?_, rfl, ?_⟩
  · rcases hstrands with hstrands | ⟨hinside, -⟩
    · exact hstrands
    · cases hinside
  · rcases hagree with hagree | ⟨_, hfault, -⟩
    · exact hagree
    · cases hfault

/-- A device with a folder that removes its own directory when it is listed. -/
def vanishingDevice : InMemory :=
  { sampleDevice with
    nodes := [sampleFolder]
    effects := [(some 1, [.remove ⟨.relative, ["d", "a"]⟩])] }

/-- A walk over it. -/
def vanishingPlan : Plan (List String) := { samplePlan.walk with remote := vanishingDevice.remote }

/-- Where it is stopped. -/
def vanishingEnd : Walk :=
  { loopStart with
    place := ⟨samplePlan.destination, ["a"]⟩
    statistics := { directories := 1 } }

/-- **The trail may be one step ahead**: the directory is gone when it is to be left, so the trail
is back at the destination and the local directory is not.  The condition names the latter. -/
theorem strays_on_leaving :
    ∃ condition w', (vanishingPlan.perform loopStart 7 none).run sampleWorld =
        (.ok (.error (.abort condition), vanishingEnd), w') ∧
      loopStart.trail.path = loopStart.place.relative ∧
      condition.context? = some "a/" ∧ vanishingEnd.place.relative = "a/" ∧
      vanishingEnd.trail.path = "" := by
  have hresult : ((vanishingPlan.perform loopStart 7 none).run sampleWorld).1.toOption =
      some (.error (.abort (.directory ⟨.vanished, "a", "d/a", "a/"⟩)), vanishingEnd) := by
    decide +kernel
  exact ⟨_, _, perform_of_toOption hresult, rfl, rfl, rfl, rfl⟩

end Walk

end Replica
