import Replica.Proofs.Replication
/-!
# The limits of a run

The system takes no path of more than 4095 bytes and lets nobody look into a closed directory, no
number of more than 4300 digits is written, and a walk goes down a bounded number of levels.  These
are the limits that `WithinLimits` speaks of.

* **Necessity.**  `Ends.withinLimits` shows that a run that returns was within the limits, so in
  an ordinary setting there is nothing else to stop it but what it has to show (`run_returns_iff`).
* **Beyond the limits.**  For each limit there is a run that is stopped by nothing but that limit.
-/

namespace Replica.Run

open Walk (Account Passable)

variable {σ : Type} {p : Plan σ} {h : Hierarchy} {top : Location} {a a' : Account σ}

/-- A run that returns was within the limits. -/
lemma Ends.withinLimits (hlists : p.remote.Lists h) (hs : Setting p h a.files top)
    (hdelivers : p.remote.Delivers h) {s : RunStatistics}
    (hends : Ends p a (.ok s) a') (hstart : a.statistics.failures = 0) :
    WithinLimits p h a.files top := by
  obtain ⟨habsent, a₁, -, -, -, -, hrounds, -⟩ := hends.rounds hlists
  have hpass : ∀ {above n}, h.Met (p.chosen h.storages) above n →
      Passable p.walk p.destination top a.files above n := fun hmet =>
    (hends.passes hlists hs hdelivers.isTruthful hstart
      (hends.failures_eq hlists hs hdelivers hstart) hmet).1
  refine ⟨fun above n name hmet hcalls => ?_, fun above n name hmet hcalls =>
      ((hpass hmet).takes name hcalls).isOpen, hrounds.depth_pos rfl,
    fun above n name hmet => (hpass hmet).level name, fun id hid => ?_⟩
  · have hfits := ((hpass hmet).takes name hcalls).fits
    rw [← Path.below_below]
    exact hfits.1
  · obtain ⟨text, htext⟩ := habsent id hid
    rw [storageText] at htext
    split_ifs at htext with hlong
    exact Nat.le_of_not_lt hlong

/-- **The limits are all there is.**  In an ordinary setting a run returns exactly if it is within
the limits, its display draws what it has to, and its storages can be introduced. -/
theorem run_returns_iff (p : Plan σ) {h : Hierarchy} (hlists : p.remote.Lists h)
    (hdelivers : p.remote.Delivers h) (w : World σ) {top : Location}
    (hs : Setting p h w.files top) (ho : Ordinary p h w.files top) :
    (∃ s w', (start p).run w = (.ok s, w')) ↔ WithinLimits p h w.files top ∧ p.Draws h := by
  obtain ⟨result, w', a', hrun, hends, -, -, -⟩ := run_start p w
  constructor
  · rintro ⟨s, w'', hok⟩
    obtain rfl : result = .ok s := (Prod.ext_iff.mp (hrun.symm.trans hok)).1
    exact ⟨hends.withinLimits hlists hs hdelivers rfl, hends.draws hlists⟩
  · rintro ⟨hl, hdraws⟩
    obtain ⟨s, rfl⟩ := hends.progress hlists hs hdelivers hdraws
      (fun above n hmet => ⟨ho.passable hl hmet, fun name => ho.noFile above n name hmet⟩) hl.depth
      fun id hid => hl.exists_storageText hid
    exact ⟨s, w', hrun⟩

/-! ## Beyond the limits -/

/-- An ordinary setting in which a run into the directory `d` does not return. -/
def Stuck (p : Plan (List String)) (h : Hierarchy) (w : World (List String)) : Prop :=
  p.remote.Lists h ∧ p.remote.Delivers h ∧ Setting p h w.files ["d"] ∧
    Ordinary p h w.files ["d"] ∧ ¬∃ s w', (start p).run w = (.ok s, w')

lemma stuck {p : Plan (List String)} {w : World (List String)} (hlists : p.remote.Lists h)
    (hdelivers : p.remote.Delivers h) (hs : Setting p h w.files ["d"])
    (ho : Ordinary p h w.files ["d"])
    (hlimits : ¬(WithinLimits p h w.files ["d"] ∧ p.Draws h)) : Stuck p h w := by
  refine ⟨hlists, hdelivers, hs, ho, ?_⟩
  rwa [run_returns_iff p hlists hdelivers w hs ho]

/-- A path to the directory `d` that leaves and enters it again many times. -/
def windingPath : Nat → Path
  | 0 => ⟨.relative, ["d"]⟩
  | turns + 1 => (windingPath turns).below ["..", "d"]

lemma windingPath_names_ne_nil (turns : Nat) : (windingPath turns).names ≠ [] := by
  cases turns <;> simp [windingPath]

lemma byteSize_windingPath (turns : Nat) :
    (windingPath turns).text.utf8ByteSize = 1 + 5 * turns := by
  induction turns with
  | zero => rfl
  | succ turns ih =>
    rw [windingPath, Path.byteSize_text_below (windingPath_names_ne_nil turns) (by simp), ih,
      show ("/".intercalate ["..", "d"]).utf8ByteSize = 4 from rfl]
    omega

lemma advance_windingPath (turns : Nat) :
    sampleWorld.files.advance .target [] (windingPath turns).names =
      .ok (.inl (.found ["d"] .directory)) := by
  induction turns with
  | zero => rfl
  | succ turns ih =>
    have hup : sampleWorld.files.advance .target [] ((windingPath turns).names ++ [".."]) =
        .ok (.inl (.found [] .directory)) :=
      (FileSystem.advance_append .target (by decide) _ _ ih).1 _ rfl
    have hdown : sampleWorld.files.advance .target []
        ((windingPath turns).names ++ [".."] ++ ["d"]) = .ok (.inl (.found ["d"] .directory)) :=
      (FileSystem.advance_append .target (by decide) _ _ hup).1 _ rfl
    rw [windingPath, Path.names_below, ← hdown, List.append_assoc]
    rfl

lemma hasNull_windingPath (turns : Nat) : (windingPath turns).hasNull = false := by
  induction turns with
  | zero => rfl
  | succ turns ih =>
    simp only [Path.hasNull, windingPath, Path.names_below, List.any_append] at ih ⊢
    rw [ih]
    rfl

lemma windingPath_leads {turns : Nat} (hturns : turns ≤ 818) :
    sampleWorld.files.Leads (windingPath turns) ["d"] := by
  rw [FileSystem.leads_iff]
  refine ⟨hasNull_windingPath turns, ?_, ?_⟩
  · rw [byteSize_windingPath, FileSystem.maxPathBytes]
    omega
  · exact .ends (FileSystem.advance_eq_ok.mp (advance_windingPath turns))

/-- The run of the sample into a directory whose path is 4091 bytes long. -/
def windingPlan : Plan (List String) := { samplePlan with destination := windingPath 818 }

/-- The run of the sample for a storage whose number has 4301 digits. -/
def absentPlan : Plan (List String) := { samplePlan with storages := some [10 ^ 4300] }

/-- The run of the sample by a walk that goes down one level. -/
def shallowPlan : Plan (List String) := { samplePlan with depth := 1 }

/-- The world of the sample when nobody may look into the destination. -/
def closedWorld : World (List String) :=
  { sampleWorld with files := { sampleWorld.files with closed := [["d"]] } }

lemma closedWorld_setting : Setting samplePlan sampleHierarchy closedWorld.files ["d"] where
  leads := by
    rw [FileSystem.Leads]
    decide +kernel
  linkFree := sampleWorld_linkFree
  acyclic := (sample_setting (p := samplePlan) sampleWorld_leads).acyclic
  unique := (sample_setting (p := samplePlan) sampleWorld_leads).unique
  noDirectory := (sample_setting (p := samplePlan) sampleWorld_leads).noDirectory

lemma closedWorld_ordinary : Ordinary samplePlan sampleHierarchy closedWorld.files ["d"] where
  names := (sample_ordinary (p := samplePlan)).names
  sizes := (sample_ordinary (p := samplePlan)).sizes
  noFile := (sample_ordinary (p := samplePlan)).noFile

/-- The run of the sample with a display that is shown and cannot draw the path of its file. -/
def veiledPlan : Plan (List String) :=
  { samplePlan with
    console := .standard
    display :=
      { Display.blank with
        fault? := fun description =>
          if description = "Checking a/file" then some "no such tag" else none } }

/-- A device with nothing on its storage, which is described by a surrogate. -/
def mutedDevice : InMemory :=
  { sampleDevice with
    nodes := []
    storages := [.object [("id", .int 7), ("description", .ofPoints [0xD800])]] }

/-- What it holds. -/
def mutedHierarchy : Hierarchy := mutedDevice.hierarchy [⟨7, .ofPoints [0xD800], .null, .null⟩]

/-- A run that copies it and says so. -/
def mutedPlan : Plan (List String) :=
  { samplePlan with
    remote := mutedDevice.remote
    console := .standard }

lemma muted_not_meets {storage : Int} {container : Option Int} {above : List String} {n : Node} :
    ¬mutedHierarchy.Meets storage container above n := by
  intro hmeets
  cases hmeets with
  | here hlisted => cases hlisted
  | deeper hlisted => cases hlisted

lemma muted_not_met {above : List String} {n : Node} {P : Prop}
    (hmet : mutedHierarchy.Met (mutedPlan.chosen mutedHierarchy.storages) above n) : P := by
  obtain ⟨s, -, hmeets⟩ := hmet
  exact (muted_not_meets hmeets).elim

lemma muted_setting : Setting mutedPlan mutedHierarchy sampleWorld.files ["d"] where
  leads := sampleWorld_leads
  linkFree := sampleWorld_linkFree
  acyclic storage c hpath := by
    obtain ⟨d, -, n, hlisted, -⟩ := Relation.TransGen.tail'_iff.mp hpath
    cases hlisted
  unique _ _ _ _ hn := muted_not_met hn
  noDirectory _ _ _ hn := muted_not_met hn

lemma muted_ordinary : Ordinary mutedPlan mutedHierarchy sampleWorld.files ["d"] where
  names _ _ hn := muted_not_met hn
  sizes _ _ hn := muted_not_met hn
  noFile _ _ _ hn := muted_not_met hn

end Replica.Run
