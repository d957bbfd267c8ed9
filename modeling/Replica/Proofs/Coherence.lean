import Replica.Proofs.Agenda
import Replica.Proofs.Causes
import Replica.Proofs.Confinement
/-!
# The trail and the local directory

A walk keeps two records of where it is, the trail and the local directory, and moves them one
after the other.  They never come apart: at every step of every run both hold the names of the
folders that are being gone through, whatever the remote tree answers and whatever happens to the
files meanwhile.  So the checks of a walk on its own records always pass, and a walk that ends is
back where it started.
-/

namespace Replica

variable {σ : Type}

namespace Run

open Procedure (Ensures Preserves)

/-- A walk that ends is back at the destination, by its trail and by its local directory. -/
lemma ensures_walkStorage_back (p : Plan σ) (budget : Budget) (storage : Storage) :
    Ensures (fun _ => True) (walkStorage p budget storage)
      (fun walk _ => walk.trail.segments = [] ∧ walk.place.parts = []) (fun _ _ => True) := by
  refine Ensures.bind (Preserves.ensures (I := fun _ => True) fun _ _ => trivial) fun _ => ?_
  intro w _
  obtain ⟨result, walk, w', hrun, -, -, hback⟩ :=
    Walk.run_perform p.walk p.destination budget storage.id none w
  rw [Procedure.run_bind, hrun]
  cases result with
  | ok u =>
    obtain ⟨htrail, hplace⟩ := hback rfl
    show walk.trail.segments = [] ∧ walk.place.parts = []
    rw [htrail, hplace]
    exact ⟨rfl, rfl⟩
  | error stop =>
    have hsaid : Ensures (fun _ => True)
        (reportAbort storage walk stop.failure >>= fun _ =>
          (Procedure.fail stop.failure : Action σ Walk))
        (fun walk _ => walk.trail.segments = [] ∧ walk.place.parts = []) (fun _ _ => True) :=
      Ensures.bind ((silent_reportAbort _ _ _).ensures (Q := fun _ => True)) fun _ =>
        Ensures.fail fun _ _ => trivial
    exact hsaid w' trivial

/-- **The trail and the local directory never come apart.**  At every step of a run, over any
remote tree and in any world, both hold the same names, each of them usable: those of the folders
that are being gone through.  The run does not stop over its trail, unless that is what the remote
tree itself gave as its last answer, and every walk that ends leaves both empty. -/
theorem run_coherent (p : Plan σ) (w : World σ) {result : Except Failure RunStatistics}
    {w' : World σ} (hrun : (start p).run w = (result, w')) :
    (∃ new, w'.steps = new ++ w.steps ∧
      ∀ earlier standing what, (standing, what) :: earlier <:+ new →
        standing.segments = standing.parts ∧
        standing.segments.map Json.string =
          (Agenda.ofSteps ((standing, what) :: earlier)).descent.map Node.name ∧
        ∀ n ∈ standing.segments, isSegment n = true) ∧
    (∀ fault, result = .error (.abort (.trail fault)) →
      p.remote.Raised (.abort (.trail fault)) w') ∧
    ∀ budget storage v walk v', (walkStorage p budget storage).run v = (.ok walk, v') →
      walk.trail.segments = [] ∧ walk.place.parts = [] := by
  obtain ⟨a', hends, hdescribes⟩ := ends_of_run hrun
  obtain ⟨agenda, new, hsteps, -, horderly⟩ := hends.orderly
  refine ⟨⟨new, hdescribes.2.2.trans hsteps, fun earlier standing what hsuffix => ?_⟩,
    fun fault hresult => ?_,
    fun budget storage v walk v' hwalk => ?_⟩
  · obtain ⟨hparts, ⟨hdescent, husable⟩, -, -⟩ := horderly earlier standing what hsuffix
    exact ⟨hparts.symm, hdescent.symm, husable⟩
  · rcases hends.condition hdescribes hresult with hraised | ⟨a₁, hcondition, -⟩
    · exact hraised
    · -- a walk has no such condition of its own
      cases hcondition
  · have hback := ensures_walkStorage_back p budget storage v trivial
    rw [hwalk] at hback
    exact hback

/-- The sample returns, so its trail was never misused, and everything that it recorded was in its
place. -/
theorem run_coherent_sample :
    ((start samplePlan).run sampleWorld).1 = .ok ⟨⟨1, 1, 1, 0, 0, 0, 1⟩, 1⟩ ∧
      ∃ new, ((start samplePlan).run sampleWorld).2.steps = new ++ sampleWorld.steps ∧
        ∀ earlier standing what, (standing, what) :: earlier <:+ new →
          standing.segments = standing.parts ∧
          standing.segments.map Json.string =
            (Agenda.ofSteps ((standing, what) :: earlier)).descent.map Node.name ∧
          ∀ n ∈ standing.segments, isSegment n = true :=
  ⟨by decide +kernel, (run_coherent samplePlan sampleWorld (Prod.eta _).symm).1⟩

end Run

end Replica
