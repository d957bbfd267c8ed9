import Replica.Proofs.Census
/-!
# What the display of a run says

While a run goes on, the display names the file that is looked at; in the end it has to draw the
name of the last one.  A display that cannot draw it keeps the run from returning, so what holds of
runs that return depends on which files those are.

* **Sights.**  Over listings that do not change, the files that a walk looks at are files of the
  census with usable names, in their order (`Hierarchy.sights`).
* **Runs.**  The last description of a run that goes through its storages is determined by the
  hierarchy (`Run.Rounds.descriptionAfter_eq`).  `Plan.Draws` says that the display draws what it
  has to, and `Plan.DrawsLike` that it draws whatever another one does.
-/

namespace Replica

variable {σ τ : Type}

/-! ## Sights -/

/-- The path under which a node is looked at, if it is a file with a usable name. -/
def Node.sight? (above : List String) (n : Node) : Option String :=
  if n.isContainer = false ∧ isUsableName n.name = .ok true then
    some (Trail.pathOf above ++ n.name.display)
  else none

lemma Node.sight?_of_folder {above : List String} {n : Node} (hfolder : n.isContainer = true) :
    n.sight? above = none :=
  if_neg fun h => by
    rw [hfolder] at h
    cases h.1

lemma Node.sight?_of_unusable {above : List String} {n : Node}
    (hname : isUsableName n.name = .ok false) : n.sight? above = none :=
  if_neg fun h => by
    rw [hname] at h
    cases h.2

lemma Node.sight?_of_calls {above : List String} {n : Node} {name : String}
    (hfile : n.isContainer = false) (hcalls : n.Calls name) :
    n.sight? above = some (Trail.pathOf above ++ n.name.display) :=
  if_pos ⟨hfile, by rw [hcalls.text, isUsableName, hcalls.segment]⟩

/-- The paths of the files with usable names among these entries. -/
def sightsAmong (entries : List (List String × Node)) : List String :=
  entries.filterMap fun x => x.2.sight? x.1

/-- The paths of the files of storages, down to a level. -/
def Hierarchy.sights (h : Hierarchy) (levels : Nat) (storages : List Storage) : List String :=
  sightsAmong (storages.flatMap fun s => h.census s.id levels none [])

@[simp] lemma visits_append (steps steps' : List (Standing × Step)) :
    visits (steps ++ steps') = visits steps ++ visits steps' :=
  List.filterMap_append

@[simp] lemma visits_reverse (steps : List (Standing × Step)) :
    visits steps.reverse = (visits steps).reverse :=
  List.filterMap_reverse

/-- A child that is not gone through is looked at if it is a file with a usable name. -/
lemma Tour.Fits.visits_steps {child : Node} {fate : Fate} (hfits : Tour.Fits child fate)
    (root : Path) (above : List String) (standing : Standing) :
    visits ((fate.steps root above child).map (standing, ·)) = (child.sight? above).toList := by
  rcases hfits with ⟨rfl, hname⟩ | ⟨hfate, hfile, hcalls⟩
  · rw [Node.sight?_of_unusable hname]
    rfl
  · rw [Node.sight?_of_calls hfile hcalls]
    cases fate with
    | unusable => exact absurd rfl hfate
    | upToDate | leftOut | fetched | missed => rfl

/-- A tour of a hierarchy looks at the files with usable names among its entries. -/
lemma Tour.IsOf.visits_steps {h : Hierarchy} {storage : Int} {t : Tour} (ht : t.IsOf h storage)
    (root : Path) (above : List String) (ids : List Int) :
    visits (t.steps root storage above ids) = sightsAmong (t.entries above) := by
  induction ht generalizing above ids with
  | done => rfl
  | @leaf child fate rest hfits _ ih =>
    have hchild := hfits.visits_steps root above (Walk.spot above ids)
    have htaken : visits ((Step.taken child :: fate.steps root above child).map
        (Walk.spot above ids, ·)) = (child.sight? above).toList := hchild
    rw [steps, visits_append, htaken, ih, entries, sightsAmong, sightsAmong, List.filterMap_cons]
    cases child.sight? above <;> rfl
  | @folder child below rest hfolder hcalls hchildren _ _ ih₁ ih₂ =>
    have hsight : child.sight? above = none := Node.sight?_of_folder hfolder
    rw [entries, sightsAmong, List.filterMap_cons, hsight, List.filterMap_append]
    refine (visits_append _ _).trans (congrArg₂ (· ++ ·) (ih₁ _ _) (ih₂ above ids))

/-! ## Runs -/

namespace Run

open Walk (Account)

variable {p : Plan σ} {q : Plan τ} {h : Hierarchy} {a a' : Account σ} {storages : List Storage}

/-- The walks of a run that end have looked at the files of their storages. -/
lemma visits_record {tours : List (Storage × Tour)} (ht : ∀ x ∈ tours, Toured p h x.1 x.2) :
    visits (record p tours) = h.sights p.depth (tours.map Prod.fst) := by
  induction tours with
  | nil => rfl
  | cons x rest ih =>
    rw [List.forall_mem_cons] at ht
    have hhere := ht.1.isOf.visits_steps p.destination [] []
    rw [ht.1.entries_eq] at hhere
    rw [List.map_cons, Hierarchy.sights, List.flatMap_cons, sightsAmong, List.filterMap_append]
    exact (visits_append _ _).trans (congrArg₂ (· ++ ·) hhere (ih ht.2))

/-- The description of the activity after files were looked at. -/
def descriptionOf (paths : List String) : String :=
  (paths.getLast?.map Event.checking).getD firstDescription

/-- The last description depends on the steps of the run alone. -/
lemma descriptionAfter_append (before new : List (Standing × Step)) :
    descriptionAfter before (new ++ before) = descriptionOf (visits new.reverse) := by
  rw [descriptionAfter, descriptionOf, visits_append, visits_reverse, List.getLast?_reverse]
  cases visits new with
  | nil => exact descriptionAfter_self before
  | cons path rest => exact if_pos (by simp)

/-- **The last description of a run is that of the last file of its storages.** -/
lemma Rounds.descriptionAfter_eq (hlists : p.remote.Lists h) {result : Except Failure Unit}
    (hr : Rounds p storages a result a') (hresult : result = .ok ()) :
    descriptionAfter a.steps a'.steps = descriptionOf (h.sights p.depth storages) := by
  obtain ⟨tours, rfl, hmakes, hsteps, -, hheight⟩ := hr.tracks hresult
  rw [hsteps, descriptionAfter_append, List.reverse_reverse,
    visits_record (hmakes.toured hlists hheight)]

/-- The display of a run over these listings draws what it shows at first and what it has to draw
in the end, and the storages can be introduced. -/
structure Plan.Draws (p : Plan σ) (h : Hierarchy) : Prop where
  first : p.undrawn? firstDescription = none
  last : p.undrawn? (descriptionOf (h.sights p.depth (p.chosen h.storages))) = none
  told : ∀ s ∈ p.chosen h.storages, p.untold? s = none

/-- A display that is not shown need not draw anything, and then nothing is introduced. -/
lemma Plan.draws_of_hidden (hhidden : p.showsActivity = false) (h : Hierarchy) : p.Draws h := by
  have hnone : ∀ description, p.undrawn? description = none := by
    intro description
    rw [Plan.undrawn?, hhidden]
    rfl
  refine ⟨hnone _, hnone _, fun s _ => ?_⟩
  rw [Plan.untold?, hhidden, if_neg Bool.false_ne_true]

/-- The display of the one run draws whatever the display of the other draws, and the one run
introduces the storages that the other does. -/
structure Plan.DrawsLike (q : Plan τ) (p : Plan σ) : Prop where
  drawn : ∀ description, p.undrawn? description = none → q.undrawn? description = none
  told : ∀ s, p.untold? s = none → q.untold? s = none

/-- Such a display draws what it has to if the other one does and both runs are through the same
storages. -/
lemma Plan.Draws.like (hd : p.Draws h) (hq : q.DrawsLike p) (hdepth : q.depth = p.depth)
    (hchosen : q.chosen h.storages = p.chosen h.storages) : q.Draws h := by
  refine ⟨hq.drawn _ hd.first, ?_, fun s hs => hq.told s (hd.told s (hchosen ▸ hs))⟩
  rw [hdepth, hchosen]
  exact hq.drawn _ hd.last

end Run

end Replica
