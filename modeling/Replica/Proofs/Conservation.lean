import Mathlib.Algebra.GroupWithZero.Nat
import Replica.Proofs.Tolerance
import Replica.Proofs.Tours
/-!
# What a run counts

The counts of a run are raised in several places of a walk and summed up over the walks.  That
nothing gets lost on the way and nothing is counted twice is shown for the tours of the run, by
induction on each of them.

* **Tours.**  Every child of every listing is counted (`Tour.listed_eq`), every file by what became
  of it (`Tour.files_eq`), and every question to the remote tree belongs to one count
  (`Tour.listing_eq`, `Tour.fetching_eq`).
* **Budgets.**  A tour spends the budget by as many failures as it counts (`Walk.Makes.budget`), so
  the walks of a run share one budget.
* **Runs.**  `Run.Conserved` collects the laws, and `Run.run_conserves` says that every run that
  returns obeys them.
-/

namespace Replica

variable {σ : Type}

/-! ## Tours -/

namespace Tour

variable (t : Tour)

/-- Every child of every listing is counted, and counted once. -/
lemma listed_eq : (t.listings.map List.length).sum + t.children.length =
    t.counts.invalid + t.counts.directories + t.counts.files := by
  induction t with
  | done => rfl
  | leaf child fate rest ih =>
    cases fate <;> simp [listings, children, counts, Fate.counts] <;> omega
  | folder child below rest ih₁ ih₂ =>
    simp [listings, children, counts]
    omega

/-- Every file is counted by what became of it. -/
lemma files_eq : t.counts.files =
    t.counts.skips + t.counts.abstracts + t.counts.downloads + t.counts.failures := by
  induction t with
  | done => rfl
  | leaf child fate rest ih =>
    cases fate <;> simp [counts, Fate.counts] <;> omega
  | folder child below rest ih₁ ih₂ =>
    simp [counts]
    omega

/-- A listing is asked for in each folder gone through. -/
lemma listing_eq (root : Path) (storage : Int) (above : List String) :
    (t.calls root storage above).countP (·.isListing) = t.counts.directories := by
  induction t generalizing above with
  | done => rfl
  | leaf child fate rest ih =>
    cases fate <;> simp [calls, counts, Fate.calls, Fate.counts, ih]
  | folder child below rest ih₁ ih₂ =>
    simp [calls, counts, List.countP_cons, ih₁, ih₂]
    omega

/-- A content is asked for with each file fetched or missed. -/
lemma fetching_eq (root : Path) (storage : Int) (above : List String) :
    (t.calls root storage above).countP (!·.isListing) =
      t.counts.downloads + t.counts.failures := by
  induction t generalizing above with
  | done => rfl
  | leaf child fate rest ih =>
    cases fate <;> simp [calls, counts, Fate.calls, Fate.counts, ih] <;> omega
  | folder child below rest ih₁ ih₂ =>
    simp [calls, counts, ih₁, ih₂]
    omega

end Tour

/-! ## Budgets -/

namespace Walk

variable {p : Plan σ} {root : Path} {storage : Int} {above : List String} {ids : List Int}
  {t : Tour} {x x' : Position σ}

/-- A tour spends its failures, and no more than are tolerated. -/
lemma Makes.budget (h : Makes p root storage above ids t x x') :
    x'.budget = ⟨x.budget.threshold, x.budget.failures + t.counts.failures⟩ ∧
      (t.counts.failures = 0 ∨ (x'.budget.failures : Int) ≤ x'.budget.threshold) := by
  induction h with
  | done => exact ⟨rfl, .inl rfl⟩
  | @leaf _ _ _ fate rest x x₁ x' hmeets _ ih =>
    obtain ⟨hbudget, hmax⟩ := ih
    rw [Tour.counts, Statistics.add_failures]
    cases hmeets with
    | unusable | upToDate | leftOut | fetched =>
      simpa [Fate.counts] using ⟨hbudget, hmax⟩
    | missed _ _ _ _ htolerated =>
      dsimp only at hbudget
      rw [hbudget] at hmax ⊢
      have hone : Fate.missed.counts.failures = 1 := rfl
      refine ⟨by rw [hone, Nat.add_assoc], .inr ?_⟩
      dsimp only at hmax ⊢
      omega
  | @folder _ _ _ below rest _ _ x x₁ x' _ _ _ _ _ _ _ _ _ ih₁ ih₂ =>
    obtain ⟨hbudget₁, hmax₁⟩ := ih₁
    obtain ⟨hbudget₂, hmax₂⟩ := ih₂
    have hlisted : ∀ w, (x.listed p w).budget = x.budget := fun _ => rfl
    rw [hlisted] at hbudget₁
    rw [hbudget₁] at hmax₁ hbudget₂
    rw [hbudget₂] at hmax₂ ⊢
    dsimp only at hmax₁ hmax₂ ⊢
    simp only [Tour.counts, Statistics.add_failures, Nat.zero_add]
    refine ⟨by rw [Nat.add_assoc], ?_⟩
    omega

end Walk

namespace Run

open Walk (Account Position openedSteps spot)

variable {p : Plan σ} {tours : List (Storage × Tour)} {x x' : Position σ}

/-- The walks of a run spend its failures, and no more than are tolerated. -/
lemma Makes.budget (h : Makes p tours x x') :
    x'.budget = ⟨x.budget.threshold, x.budget.failures + (total tours).failures⟩ ∧
      ((total tours).failures = 0 ∨ (x'.budget.failures : Int) ≤ x'.budget.threshold) := by
  induction h with
  | done => exact ⟨rfl, .inl rfl⟩
  | @next storage tour rest w x x₁ x' _ walk _ ih =>
    obtain ⟨hbudget₁, hmax₁⟩ := walk.budget
    obtain ⟨hbudget₂, hmax₂⟩ := ih
    have hlisted : (x.listed p.walk w).budget = x.budget := rfl
    rw [hlisted] at hbudget₁
    rw [hbudget₁] at hmax₁ hbudget₂
    rw [hbudget₂] at hmax₂ ⊢
    have htotal : (total ((storage, tour) :: rest)).failures =
        tour.counts.failures + (total rest).failures := rfl
    dsimp only at hmax₁ hmax₂ ⊢
    rw [htotal]
    refine ⟨by rw [Nat.add_assoc], ?_⟩
    omega

/-! ## Runs -/

/-- The laws of conservation for what the walks of a run record and count. -/
structure Conserved (steps : List (Standing × Step)) (s : RunStatistics) : Prop where
  /-- Every child of every listing is counted, and counted once. -/
  listed : ((listings steps).map List.length).sum =
    s.total.invalid + s.total.directories + s.total.files
  /-- Every file is counted by what became of it. -/
  files : s.total.files = s.total.skips + s.total.abstracts + s.total.downloads + s.total.failures
  /-- The top of each storage is listed, and each folder gone through. -/
  listing : (calls steps).countP (·.isListing) = s.storages + s.total.directories
  /-- The content is asked for of each file that is fetched or missed. -/
  fetching : (calls steps).countP (!·.isListing) = s.total.downloads + s.total.failures

/-- The order of the steps does not matter. -/
lemma Conserved.reverse {steps : List (Standing × Step)} {s : RunStatistics}
    (h : Conserved steps.reverse s) : Conserved steps s where
  listed := by simpa using h.listed
  files := h.files
  listing := by simpa using h.listing
  fetching := by simpa using h.fetching

/-- What the walks of a run record and count is conserved. -/
lemma conserved_record (p : Plan σ) (tours : List (Storage × Tour)) :
    Conserved (record p tours) ⟨total tours, tours.length⟩ := by
  induction tours with
  | nil => exact ⟨rfl, rfl, rfl, rfl⟩
  | cons x rest ih =>
    obtain ⟨storage, t⟩ := x
    obtain ⟨hlisted, hfiles, hlisting, hfetching⟩ := ih
    have hcalls : calls (record p ((storage, t) :: rest)) =
        .listing storage.id none :: t.calls p.destination storage.id [] ++
          calls (record p rest) := by
      simp [record, openedSteps, calls_cons, Step.call?, Tour.calls_steps]
    have hlistings : listings (record p ((storage, t) :: rest)) =
        t.children :: t.listings ++ listings (record p rest) := by
      simp [record, openedSteps, listings_cons, Step.listed?, Tour.listings_steps]
    have htotal : total ((storage, t) :: rest) = t.counts + total rest := rfl
    have hlisted' := t.listed_eq
    have hfiles' := t.files_eq
    have hlisting' := t.listing_eq p.destination storage.id []
    have hfetching' := t.fetching_eq p.destination storage.id []
    dsimp only at hlisted hfiles hlisting hfetching
    constructor
    · simp [hlistings, htotal]
      omega
    · simp [htotal]
      omega
    · simp [hcalls, htotal, List.countP_cons]
      omega
    · simp [hcalls, htotal]
      omega

/-- A walk hands its budget on with its own failures on top. -/
lemma budget_of_walkStorage {budget : Budget} {storage : Storage} {walk : Walk} {w w' : World σ}
    (hrun : (walkStorage p budget storage).run w = (.ok walk, w')) :
    walk.budget = ⟨budget.threshold, budget.failures + walk.statistics.failures⟩ := by
  have hwalk := ensures_walkStorage p storage
    (⟨w.files, w.other, w.steps, {}, budget⟩ : Account σ) w ⟨rfl, rfl, rfl⟩
  rw [hrun] at hwalk
  obtain ⟨t, v, levels, -, -, htracks⟩ := hwalk.2.tracks
  have hcounts : walk.statistics = t.counts := htracks.counts.trans (zero_add _)
  rw [hcounts]
  exact htracks.makes.budget.1

/-- **Every run that returns accounts for every entry.**  Whatever the remote tree answers and
whatever is on the local disk, a run that returns has made a tour of every chosen storage, and its
steps are those of the tours: each child of each listing gets its turn once, in the order in which
it was given, and a folder is gone through before the next child.  The statistics are what the
tours count, and nothing gets lost or is counted twice.  The failures are those of the budget that
all walks share, and they are tolerated. -/
theorem run_conserves (p : Plan σ) (w : World σ) {s : RunStatistics} {w' : World σ}
    (hrun : (start p).run w = (.ok s, w')) :
    (∃ storages v tours x new, p.remote.listStorages w.other w.files = (.ok storages, v) ∧
      tours.map Prod.fst = p.chosen storages ∧
      Makes p tours ⟨v.files, p.remote.forgetErrors v.other, .ofThreshold p.maxFailures⟩ x ∧
      w'.files = x.files ∧ w'.steps = new ++ w.steps ∧ new.reverse = record p tours ∧
      s = ⟨total tours, tours.length⟩ ∧ Conserved new s ∧
      x.budget = ⟨p.maxFailures, s.total.failures⟩ ∧
      ((s.total.failures : Int) ≤ p.maxFailures ∨ s.total.failures = 0)) ∧
    ∀ budget storage u walk u', (walkStorage p budget storage).run u = (.ok walk, u') →
      walk.budget = ⟨budget.threshold, budget.failures + walk.statistics.failures⟩ := by
  refine ⟨?_, fun budget storage u walk u' => budget_of_walkStorage⟩
  obtain ⟨storages, v, tours, x, answer, hstorages, hmakes, hfiles, hsteps, rfl, -⟩ :=
    tours_of_run hrun
  obtain ⟨hbudget, hmax⟩ := hmakes.budget
  refine ⟨storages, v, tours, x, (record p tours).reverse, answer, hstorages, hmakes, hfiles,
    hsteps, List.reverse_reverse _, rfl, Conserved.reverse ?_, ?_, ?_⟩
  · rw [List.reverse_reverse]
    exact conserved_record p tours
  · rw [hbudget]
    exact congrArg _ (Nat.zero_add _)
  · rw [hbudget] at hmax
    simp only [Budget.ofThreshold] at hmax
    show ((total tours).failures : Int) ≤ p.maxFailures ∨ (total tours).failures = 0
    omega

/-- A run returns if it has a result. -/
lemma returns_of_toOption {w : World σ} {s : RunStatistics}
    (h : ((start p).run w).1.toOption = some s) :
    (start p).run w = (.ok s, ((start p).run w).2) := by
  rcases hrun : (start p).run w with ⟨f | s', w'⟩ <;> rw [hrun] at h <;> cases h
  rfl

/-- A device with an unusable name and three files, of which one cannot be fetched. -/
def mixedDevice : InMemory :=
  { unreadableDevice with
    nodes := sampleTrap :: unreadableDevice.nodes
    failingFetches := [4] }

/-- A run that copies it. -/
def mixedPlan : Plan (List String) := { samplePlan with remote := mixedDevice.remote }

/-- It returns, and accounts for the five entries. -/
theorem run_conserves_sample :
    ∃ new, ((start mixedPlan).run sampleWorld).2.steps = new ∧
      Conserved new ⟨⟨1, 3, 2, 0, 1, 0, 1⟩, 1⟩ := by
  have hreturns : ((start mixedPlan).run sampleWorld).1.toOption =
      some ⟨⟨1, 3, 2, 0, 1, 0, 1⟩, 1⟩ := by
    decide +kernel
  obtain ⟨⟨_, _, _, _, new, -, -, -, -, hsteps, -, -, hconserved, -⟩, -⟩ :=
    run_conserves mixedPlan sampleWorld (returns_of_toOption hreturns)
  exact ⟨new, hsteps.trans (List.append_nil new), hconserved⟩

end Run

end Replica
