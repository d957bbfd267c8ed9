import Replica.Proofs.Agenda
import Replica.Proofs.Causes
import Replica.Proofs.Confinement
/-!
# How many failures a run tolerates

A file that cannot be fetched is counted, and the run goes on with the next child.  The count is
one for the whole run, whatever storage and whatever depth the file is at, and the run stops with
the first failure that is one more than it tolerates.

* **Tallies.**  `misses` counts the failed fetches among the steps of a run.  `Tally` says that
  the budget holds that count and that none of them was one too many; `Spent` is what is left when
  one was.  Every course keeps a tally or spends it (`Walk.Course.tally`).
* **Runs.**  `run_tolerates` puts this together with the order of the steps.
-/

namespace Replica

variable {σ : Type}

/-- Whether a step is a fetch that failed. -/
def Step.isMiss : Step → Bool
  | .fetched success => !success
  | _ => false

/-- The number of fetches that failed. -/
def misses (steps : List (Standing × Step)) : Nat := steps.countP (·.2.isMiss)

@[simp] lemma misses_cons_fetched_false (standing : Standing) (steps : List (Standing × Step)) :
    misses ((standing, .fetched false) :: steps) = misses steps + 1 :=
  List.countP_cons_of_pos (by rfl)

lemma misses_cons_of_not {what : Step} (h : what.isMiss = false) (standing : Standing)
    (steps : List (Standing × Step)) : misses ((standing, what) :: steps) = misses steps :=
  List.countP_cons_of_neg (by simp [h])

/-- No failed fetch among the steps is one too many. -/
def Tolerated (max : Int) (steps : List (Standing × Step)) : Prop :=
  ∀ standing earlier, (standing, .fetched false) :: earlier <:+ steps →
    (misses earlier + 1 : Nat) ≤ max

namespace Tolerated

variable {max : Int} {steps : List (Standing × Step)}

lemma nil : Tolerated max [] := fun _ _ h => by simpa using List.suffix_nil.mp h

/-- One more step, which is no failed fetch. -/
lemma cons (h : Tolerated max steps) (standing : Standing) {what : Step}
    (hwhat : what.isMiss = false) : Tolerated max ((standing, what) :: steps) := by
  intro standing' earlier hsuffix
  rcases List.suffix_cons_iff.mp hsuffix with heq | hsuffix
  · cases heq
    cases hwhat
  · exact h standing' earlier hsuffix

/-- One more failed fetch, which is not one too many. -/
lemma miss (h : Tolerated max steps) (standing : Standing)
    (hmax : (misses steps + 1 : Nat) ≤ max) :
    Tolerated max ((standing, .fetched false) :: steps) := by
  intro standing' earlier hsuffix
  rcases List.suffix_cons_iff.mp hsuffix with heq | hsuffix
  · cases heq
    exact hmax
  · exact h standing' earlier hsuffix

end Tolerated

namespace Walk

variable {p : Plan σ} {root : Path} {storage : Int} {above : List String} {ids : List Int}
  {child : Node} {a a' : Account σ} {base : List (Standing × Step)} {max : Int} {what : Step}

/-- The budget holds the number of failed fetches since `base`, and none was one too many. -/
def Tally (base : List (Standing × Step)) (max : Int) (a : Account σ) : Prop :=
  ∃ new, a.steps = new ++ base ∧ a.budget = ⟨max, misses new⟩ ∧ Tolerated max new

/-- The newest step is a failed fetch, and the first that was one too many. -/
def Spent (p : Plan σ) (base : List (Standing × Step)) (max : Int) (a : Account σ) : Prop :=
  ∃ standing new, a.steps = (standing, .fetched false) :: new ++ base ∧ Tolerated max new ∧
    max < (misses new + 1 : Nat) ∧ a.budget = ⟨max, misses new + 1⟩ ∧
    ∃ file target other files w, new.head? = some (standing, .fetching file target) ∧
      p.remote.fetch file target other files = (.ok false, w) ∧ a.files = w.files ∧
      a.other = p.remote.forgetErrors w.other

namespace Tally

/-- Only the steps and the budget matter. -/
lemma congr (h : Tally base max a) (hsteps : a'.steps = a.steps) (hbudget : a'.budget = a.budget) :
    Tally base max a' := by
  rw [Tally, hsteps, hbudget]
  exact h

lemma note (h : Tally base max a) (standing : Standing) (hwhat : what.isMiss = false) :
    Tally base max (a.note standing what) := by
  obtain ⟨new, hsteps, hbudget, htolerated⟩ := h
  refine ⟨(standing, what) :: new, ?_, ?_, htolerated.cons standing hwhat⟩
  · rw [Account.note_steps, hsteps, List.cons_append]
  · rw [Account.note_budget, hbudget, misses_cons_of_not hwhat]

lemma listing (h : Tally base max a) (standing : Standing) (container : Option Int)
    (w : World σ) : Tally base max (a.listing standing storage container w) :=
  have hlisting : Tally base max (a.note standing (.listing storage container)) := h.note _ rfl
  hlisting.congr rfl rfl

lemma looked (h : Tally base max a) : Tally base max (a.looked above ids child) :=
  have hcounted : Tally base max (a.count fun c => { c with files := c.files + 1 }) :=
    h.congr rfl rfl
  hcounted.note _ rfl

lemma compared (h : Tally base max a) : Tally base max (a.compared above ids child) :=
  h.looked.note _ rfl

lemma asked (h : Tally base max a) (target : Path) (w : World σ) :
    Tally base max (a.asked above ids child target w) :=
  (h.compared.note _ rfl).congr rfl rfl

/-- A failed fetch keeps the tally if it is not one too many, and spends it otherwise. -/
lemma failed (h : Tally base max a) (above : List String) (ids : List Int) {target : Path}
    {w : World σ} (answer : p.remote.fetch child target a.other a.files = (.ok false, w)) :
    if a.missed.budget.exceeded then Spent p base max (a.failed p above ids child target w)
    else Tally base max (a.failed p above ids child target w) := by
  have hcompared : Tally base max (a.compared above ids child) := h.compared
  obtain ⟨new, hsteps, hbudget, htolerated⟩ := hcompared
  let asked := (spot above ids, Step.fetching child target) :: new
  have hasked : Tolerated max asked := htolerated.cons _ rfl
  have hmisses : misses asked = misses new := misses_cons_of_not rfl _ _
  have hfailed : (a.failed p above ids child target w).steps =
      (spot above ids, .fetched false) :: asked ++ base := by
    show (_, _) :: (_, _) :: (a.compared above ids child).steps = _
    rw [hsteps]
    rfl
  have hspent : (a.failed p above ids child target w).budget = ⟨max, misses asked + 1⟩ := by
    show Budget.mk (a.compared above ids child).budget.threshold
      ((a.compared above ids child).budget.failures + 1) = _
    rw [hbudget, hmisses]
  have hexceeded : a.missed.budget.exceeded = decide (max < (misses asked + 1 : Nat)) := by
    show (a.failed p above ids child target w).budget.exceeded = _
    rw [hspent]
    rfl
  rw [hexceeded]
  by_cases hmax : max < (misses asked + 1 : Nat)
  · rw [if_pos (decide_eq_true hmax)]
    exact ⟨_, asked, hfailed, hasked, hmax, hspent, child, target, _, _, w, rfl, answer, rfl, rfl⟩
  · rw [if_neg (by simpa using hmax)]
    refine ⟨(spot above ids, .fetched false) :: asked, hfailed, ?_,
      hasked.miss _ (by omega)⟩
    rw [hspent, misses_cons_fetched_false]

/-- While the tally is kept, the budget is not exceeded after a failed fetch. -/
lemma exceeded_eq_false (h : Tally base max a) {standing : Standing}
    {earlier : List (Standing × Step)}
    (hsteps : a.steps = (standing, .fetched false) :: earlier ++ base) :
    a.budget.exceeded = false := by
  obtain ⟨new, hnew, hbudget, htolerated⟩ := h
  obtain rfl := List.append_cancel_right (hsteps.symm.trans hnew)
  have hmax := htolerated standing earlier (List.suffix_refl _)
  rw [hbudget, misses_cons_fetched_false]
  simpa [Budget.exceeded] using hmax

end Tally

/-! ## Courses -/

/-- A child that is not gone through keeps the tally. -/
lemma Deed.tally (hd : Deed p root above ids child a a') (h : Tally base max a) :
    Tally base max a' := by
  cases hd with
  | passOver _ => exact h.congr rfl rfl
  | skip _ | leaveOut _ => exact h.compared.congr rfl rfl
  | fetch _ _ => exact ((h.asked _ _).note _ rfl).congr rfl rfl
  | miss _ answer htolerated =>
    have hfailed := h.failed above ids answer
    rwa [htolerated, if_neg Bool.false_ne_true] at hfailed

/-- A child that stops the run keeps the tally, unless it spends it. -/
lemma Halt.tally {f : Failure} (hh : Halt p root above ids child a f a') (h : Tally base max a) :
    Tally base max a' ∨
      Spent p base max a' ∧
        f = .abort (.tooManyFailures a'.budget.failures a'.budget.threshold) := by
  cases hh with
  | unreadable _ | cycle _ _ _ | unnamedFolder _ _ _ | notMade _ _ _ _ => exact .inl h
  | notEntered _ _ _ _ _ => exact .inl (h.congr rfl rfl)
  | oversized _ _ _ | unnamedFile _ _ _ => exact .inl h.looked
  | notInspected _ _ _ => exact .inl h.compared
  | fetchFailed _ _ => exact .inl (h.asked _ _)
  | tooMany _ answer hexceeded =>
    have hfailed := h.failed above ids answer
    rw [hexceeded, if_pos rfl] at hfailed
    exact .inr ⟨hfailed, rfl⟩

/-- **Every course keeps the tally**, or is stopped by the failure that spends it. -/
theorem Course.tally {task : Task} {result : Except Stop Unit}
    (hc : Course p root storage task above ids a result a') (h : Tally base max a) :
    Tally base max a' ∨ Spent p base max a' ∧ ∃ stop, result = .error stop ∧
      stop.failure = .abort (.tooManyFailures a'.budget.failures a'.budget.threshold) := by
  induction hc with
  | tooDeep | done => exact .inl h
  | unlisted _ => exact .inl (h.listing _ _ _)
  | listed _ _ ih => exact ih (((h.listing _ _ _).note _ rfl).congr rfl rfl)
  | next _ _ ih₁ ih₂ =>
    rcases ih₁ h with h₁ | ⟨-, _, hstop, -⟩
    · exact ih₂ h₁
    · cases hstop
  | stopped _ ih => exact ih h
  | deed hd => exact .inl (hd.tally (h.note _ rfl))
  | halt hh => exact (hh.tally (h.note _ rfl)).imp_right fun ⟨hspent, hf⟩ => ⟨hspent, _, rfl, hf⟩
  | @through levels child name files above ids a below a₁ result a' _ _ _ _ _ _ back ih =>
    have htaken : Tally base max ((a.note (spot above ids) (.taken child)).withFiles files) :=
      (h.note _ rfl).congr rfl rfl
    rcases ih ((htaken.note _ rfl).congr rfl rfl) with h₁ | ⟨hspent, stop, rfl, hf⟩
    · cases back with
      | back _ => exact .inl (h₁.note _ rfl)
      | lost _ | stopped => exact .inl h₁
    · cases back with
      | stopped => exact .inr ⟨hspent, stop, rfl, hf⟩

/-- A walk that is stopped right after a fetch had gone back up, unless the budget is exceeded. -/
lemma Cause.of_fetched {stop : Stop} (hc : Cause p root stop a) {standing : Standing}
    {success : Bool} {earlier : List (Standing × Step)}
    (hsteps : a.steps = (standing, .fetched success) :: earlier) :
    a.budget.exceeded = true ∨ stop.standing.parts ≠ stop.standing.segments ∧
      LocalDirectory.left ⟨root, stop.standing.parts⟩ a.files = .error stop.failure := by
  cases hc with
  | tooDeep hentered =>
    rw [hentered] at hsteps
    cases hsteps
  | unlisted _ => cases hsteps
  | lost _ hleft => exact .inr ⟨by simp, hleft⟩
  | halted _ hh =>
    cases hh with
    | unreadable _ | cycle _ _ _ | unnamedFolder _ _ _ | notMade _ _ _ _ | notEntered _ _ _ _ _
    | oversized _ _ _ | unnamedFile _ _ _ | notInspected _ _ _ | fetchFailed _ _ => cases hsteps
    | tooMany _ _ hexceeded => exact .inl hexceeded

end Walk

/-! ## Runs -/

namespace Agenda

/-- An agenda tells the names on the way down. -/
lemma Names.unique {agenda : Agenda} {names names' : List String} (h : agenda.Names names)
    (h' : agenda.Names names') : names = names' := by
  have hinjective : ∀ x y, Json.string x = Json.string y → x = y := fun _ _ heq => by
    injection heq
  exact (List.map_inj_right hinjective).mp (h.descent.symm.trans h'.descent)

end Agenda

namespace Run

open Walk (Account Tally Spent)

variable {p : Plan σ} {a a' : Account σ} {result : Except Failure RunStatistics}

/-- A run ends before its rounds, or as they do if its display draws its last description. -/
lemma Ends.closed (he : Ends p a result a') :
    a'.steps = a.steps ∧ a'.budget = a.budget ∨
      ∃ a₁ storages r, a₁.steps = a.steps ∧ a₁.budget = a.budget ∧ Rounds p storages a₁ r a' ∧
        result = p.closed (descriptionAfter a.steps a'.steps)
          (r.map fun _ => ⟨a'.statistics, storages.length⟩) := by
  cases he with
  | refused | unlisted | unwritten | undrawn => exact .inl ⟨rfl, rfl⟩
  | @walked _ w _ _ _ _ _ rounds _ hlast =>
    exact .inr ⟨(a.answered w).forgotten p.walk, _, _, rfl, rfl, rounds,
      (Plan.closed_of_drawn hlast _).symm⟩
  | @veiled _ w _ _ _ _ _ _ rounds _ hlast =>
    exact .inr ⟨(a.answered w).forgotten p.walk, _, _, rfl, rfl, rounds,
      (Plan.closed_of_undrawn hlast _).symm⟩

/-- The condition that a run stops on is none that its display has put in the place of another
end. -/
lemma Plan.of_closed_eq_abort {description : String} {c : Abort}
    (h : p.closed description result = .error (.abort c)) : result = .error (.abort c) := by
  rcases hdrawn : p.undrawn? description with _ | cause
  · rwa [closed_of_drawn hdrawn] at h
  · rw [closed_of_undrawn hdrawn] at h
    cases h

/-- **Every run keeps the tally**, or is stopped by the failure that spends it. -/
theorem Ends.tally (he : Ends p a result a') (hbudget : a.budget = .ofThreshold p.maxFailures) :
    Tally a.steps p.maxFailures a' ∨ Spent p.walk a.steps p.maxFailures a' ∧
      result = p.closed (descriptionAfter a.steps a'.steps)
        (.error (.abort (.tooManyFailures a'.budget.failures a'.budget.threshold))) := by
  have hstart : Tally a.steps p.maxFailures a := ⟨[], rfl, hbudget, .nil⟩
  rcases he.closed with ⟨hsteps, hsame⟩ |
    ⟨a₁, storages, r, hsteps, hsame, rounds, rfl⟩
  · exact .inl (hstart.congr hsteps hsame)
  · have hkeep : ∀ {storage b b' result}, Tally a.steps p.maxFailures b →
        Walk.Course p.walk p.destination storage (.container p.depth none) [] [] b.afresh result
          b' → Tally a.steps p.maxFailures (b'.since b) ∨
            Spent p.walk a.steps p.maxFailures (b'.since b) ∧ ∃ stop, result = .error stop ∧
              stop.failure = .abort (.tooManyFailures b'.budget.failures b'.budget.threshold) :=
      fun hb walk => walk.tally (hb.congr rfl rfl)
    have hlast := rounds.last (I := Tally a.steps p.maxFailures) (hstart.congr hsteps hsame)
      fun storage b b' hb walk => by
        rcases hkeep hb walk with hended | ⟨-, stop, hstop, -⟩
        · exact hended
        · cases hstop
    rcases hlast with ⟨-, hended⟩ | ⟨storage, b, b', stop, hb, walk, rfl, rfl⟩ | ⟨-, hended⟩
    · exact .inl hended
    · refine (hkeep hb walk).imp_right fun ⟨hspent, stop', hstop, hf⟩ => ⟨hspent, ?_⟩
      cases hstop
      rw [hf]
      rfl
    · exact .inl hended

/-- The ways in which a run is over that has nothing left to do in its directory. -/
inductive Over (p : Plan σ) (parts : List String) (files : FileSystem) :
    Except Failure RunStatistics → Prop where
  /-- It returns. -/
  | returned (s : RunStatistics) : Over p parts files (.ok s)
  /-- The directory is gone that it was to leave. -/
  | lost {f : Failure} (left : LocalDirectory.left ⟨p.destination, parts⟩ files = .error f) :
    Over p parts files (.error f)
  /-- The next storage cannot be introduced. -/
  | untold {storage : Storage} {line : Text.Unwritable}
    (untold : p.untold? storage = some line) :
    Over p parts files (.error (.value (.unwritable line)))

/-- A run whose last step is a fetch had no sibling left.  It returned, or the directory was gone
that it was to leave, or the next storage could not be introduced, or the fetch was one too many. -/
theorem Ends.idle (he : Ends p a result a') {standing : Standing} {success : Bool}
    {earlier : List (Standing × Step)}
    (hsteps : a'.steps = (standing, .fetched success) :: earlier ++ a.steps) :
    a'.budget.exceeded = true ∨ (Agenda.ofSteps earlier).waiting = [] ∧
      ∃ ending, Over p standing.parts a'.files ending ∧
        result = p.closed (descriptionAfter a.steps a'.steps) ending := by
  have hnone : a'.steps ≠ a.steps := by
    intro heq
    have hlength := congrArg List.length (hsteps.symm.trans heq)
    simp at hlength
    omega
  -- what the agenda is then, and where the walk stands
  have hagenda : ∀ {agenda : Agenda}, Recorded a.steps agenda a'.steps →
      agenda = Agenda.ofSteps earlier ∧ agenda.Names standing.parts := by
    rintro agenda ⟨new, hnew, rfl, horderly⟩
    obtain rfl : (standing, .fetched success) :: earlier = new :=
      List.append_cancel_right (hsteps.symm.trans hnew)
    obtain ⟨hparts, hnames, -, -⟩ := horderly earlier standing _ (List.suffix_refl _)
    exact ⟨rfl, hparts ▸ hnames⟩
  rcases he.closed with ⟨hsame, -⟩ | ⟨a₁, storages, r, hstart, -, rounds, rfl⟩
  · exact absurd hsame hnone
  · have hlast := rounds.last
      (I := fun b => Between a.steps b ∧ (p.depth = 0 → b.steps = a.steps))
      ⟨.start hstart, fun _ => hstart⟩ fun storage b b' hb walk => by
        refine ⟨hb.1.next walk, fun hdepth => ?_⟩
        rw [hdepth] at walk
        cases walk
    rcases hlast with ⟨rfl, ⟨agenda, hm, -, hwaiting⟩, -⟩ |
      ⟨storage, b, b', ⟨f, stood⟩, ⟨hb, hdepth⟩, walk, rfl, rfl⟩ |
      ⟨⟨storage, -, line, huntold, rfl⟩, ⟨agenda, hm, -, hwaiting⟩, -⟩
    · obtain ⟨rfl, -⟩ := hagenda hm.recorded
      exact .inr ⟨hwaiting, _, .returned _, rfl⟩
    · obtain ⟨agenda, hrecorded, -, hlost⟩ := hb.walk walk
      obtain ⟨rfl, hnames⟩ := hagenda hrecorded
      rcases walk.cause (by simp) rfl with hcause | ⟨⟨container, htask⟩, -, rfl⟩
      · exact (hcause.of_fetched hsteps).imp_right fun ⟨hne, hleft⟩ => by
          obtain ⟨hwaiting, hstood⟩ := hlost _ rfl hne
          rw [hnames.unique hstood]
          exact ⟨hwaiting, _, .lost hleft, rfl⟩
      · have hzero : p.depth = 0 := by
          injection htask
        exact absurd (hdepth hzero) hnone
    · obtain ⟨rfl, -⟩ := hagenda hm.recorded
      exact .inr ⟨hwaiting, _, .untold huntold, rfl⟩

/-- The first failed fetch that is one too many, if there is one, is the last step of the run. -/
lemma Ends.last_of_exceeding (he : Ends p a result a')
    (hbudget : a.budget = .ofThreshold p.maxFailures) {new earlier : List (Standing × Step)}
    {standing : Standing} (hsteps : a'.steps = new ++ a.steps)
    (hmiss : (standing, .fetched false) :: earlier <:+ new)
    (hmax : p.maxFailures < (misses earlier + 1 : Nat)) :
    new = (standing, .fetched false) :: earlier ∧
      result = p.closed (descriptionAfter a.steps a'.steps)
        (.error (.abort (.tooManyFailures (misses earlier + 1) p.maxFailures))) ∧
      ∃ file target other files v, earlier.head? = some (standing, .fetching file target) ∧
        p.remote.fetch file target other files = (.ok false, v) ∧ a'.files = v.files ∧
        a'.other = p.remote.forgetErrors v.other := by
  have hnot : ∀ {steps}, Tolerated p.maxFailures steps →
      ¬(standing, .fetched false) :: earlier <:+ steps := by
    intro steps htolerated hsuffix
    have := htolerated _ _ hsuffix
    omega
  rcases he.tally hbudget with ⟨new', hnew, -, htolerated⟩ |
    ⟨⟨standing', earlier', hnew, htolerated, -, hspent, hfetch⟩, hresult⟩
  · obtain rfl := List.append_cancel_right (hsteps.symm.trans hnew)
    exact absurd hmiss (hnot htolerated)
  · obtain rfl := List.append_cancel_right (hsteps.symm.trans hnew)
    rcases List.suffix_cons_iff.mp hmiss with heq | hmiss
    · cases heq
      rw [hspent] at hresult
      exact ⟨rfl, hresult, hfetch⟩
    · exact absurd hmiss (hnot htolerated)

/-- A run that stops over its failures stops at one that is one too many, unless the remote tree
says so. -/
lemma Ends.exceeding_of_tooMany (he : Ends p a result a')
    (hbudget : a.budget = .ofThreshold p.maxFailures) {new : List (Standing × Step)}
    (hsteps : a'.steps = new ++ a.steps) {w' : World σ} (hw : a'.Describes w') {failures : Nat}
    {threshold : Int} (hresult : result = .error (.abort (.tooManyFailures failures threshold))) :
    p.remote.Raised (.abort (.tooManyFailures failures threshold)) w' ∨
      ∃ standing earlier, new = (standing, .fetched false) :: earlier ∧
        p.maxFailures < (misses earlier + 1 : Nat) ∧ failures = misses earlier + 1 ∧
        threshold = p.maxFailures := by
  refine (he.condition hw hresult).imp_right fun ⟨a₁, hcondition, hw₁, hbudget₁⟩ => ?_
  rcases he.tally hbudget with htally |
    ⟨⟨standing, earlier, hnew, -, hmax, hspent, -⟩, hresult'⟩
  · -- the last failed fetch would be one too many, and all are tolerated
    have ⟨new', hnew, hmisses, _⟩ := htally
    obtain rfl := List.append_cancel_right (hsteps.symm.trans hnew)
    have hsame : a₁.steps = new ++ a.steps := hw₁.2.2.symm.trans (hw.2.2.trans hsteps)
    cases hcondition with
    | tooMany _ hexceeded =>
      cases new with
      | nil =>
        have hzero := congrArg Budget.failures (hbudget₁.trans hmisses)
        cases hzero
      | cons x earlier =>
        injection hsame with hx
        subst hx
        have hkept := htally.exceeded_eq_false hsteps
        rw [← hbudget₁] at hkept
        exact absurd (hexceeded.symm.trans hkept) (by simp)
  · obtain rfl := List.append_cancel_right (hsteps.symm.trans hnew)
    rw [hspent, hresult] at hresult'
    cases Plan.of_closed_eq_abort hresult'.symm
    exact ⟨standing, earlier, rfl, hmax, rfl, rfl⟩

/-- The device of the sample with more files, none of which can be fetched. -/
def unreadableDevice : InMemory where
  nodes := [sampleFolder, sampleFile, ⟨4, some 1, 7, .string "other", .file, some 3, .null⟩,
    ⟨5, none, 7, .string "third", .file, some 3, .null⟩]
  storages := [.object [("id", .int 7)]]
  failingLists := []
  failingFetches := [2, 4, 5]
  errorsPerFailure := 1
  effects := []

/-- A run over it that tolerates one failure. -/
def impatientPlan : Plan (List String) :=
  { samplePlan with remote := unreadableDevice.remote, maxFailures := 1 }

end Run

end Replica
