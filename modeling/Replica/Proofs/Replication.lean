import Replica.Proofs.Confinement
import Replica.Proofs.Descriptions
import Replica.Proofs.Progress
import Replica.Proofs.Sizes
/-!
# What a run leaves

The walks of a run follow each other, so what holds of courses holds of rounds and of runs.

* **Settings.**  `Setting` is what most results about whole runs suppose of the device and of the
  destination, and `Ordinary` is what it takes besides for a run to succeed.
* **Returning.**  `Ends.progress` shows that a run over passable nodes returns without a failure,
  and `Ends.passes` that a run that returned without one has passed every node.
* **Replicas.**  If the device does not change, what the run leaves is determined by the hierarchy
  and by what was there before, location by location.
-/

namespace Replica.Run

open FileSystem (LinkFree Preserves)
open Walk (Account Advances Passable Passes Replicated Task)

variable {σ : Type} {p : Plan σ} {h : Hierarchy} {top : Location} {before : FileSystem}
  {met : List String → Node → Prop} {a a' : Account σ} {storages : List Storage}

section Rounds

variable (hdir : NoDirectory met top before)
  (hunique : Unique met) (hlists : p.remote.Lists h)
include hdir hunique hlists

/-- If contents are delivered, the walks of a run that end do so without a failure. -/
lemma Rounds.failures_eq (hdelivers : p.remote.Delivers h) {result : Except Failure Unit}
    (hr : Rounds p storages a result a') (hresult : result = .ok ())
    (hmet : ∀ s ∈ storages, h.Covered s.id met (.container p.depth none) [])
    (hu : Underway met (p.walk.Settles h) top before a.files)
    (hfoot : Foothold a.files p.destination top []) :
    a'.statistics.failures = a.statistics.failures := by
  induction hr with
  | done => rfl
  | @next storage rest a a₁ a' result _ walk _ ih =>
    have hhere := hmet storage List.mem_cons_self
    have hfail₁ := walk.failures_eq hlists hdelivers hunique hdir hhere hu hfoot
    obtain ⟨hadvances, -⟩ := walk.completed hdir hunique hlists hdelivers.isTruthful hfail₁ hhere
      hu hfoot
    have hfail₂ := ih hresult (fun s hs => hmet s (List.mem_cons_of_mem _ hs)) hadvances.underway
      (hfoot.preserved hadvances.preserves hadvances.linkFree)
    refine hfail₂.trans ?_
    show a.statistics.failures + a₁.statistics.failures = a.statistics.failures
    rw [hfail₁]
    rfl
  | stopped | untold => cases hresult

/-- The walks of a run over passable nodes end if their storages can be introduced. -/
lemma Rounds.progress (hdelivers : p.remote.Delivers h)
    (hfile : NoFile met top before)
    (hacyclic : ∀ storage c, ¬Relation.TransGen (h.Holds storage) c c)
    (hpass : ∀ above n, met above n → Passable p.walk p.destination top before above n)
    {result : Except Failure Unit} (hr : Rounds p storages a result a')
    (hdepth : storages ≠ [] → 0 < p.depth) (htold : ∀ s ∈ storages, p.untold? s = none)
    (hmet : ∀ s ∈ storages, h.Covered s.id met (.container p.depth none) [])
    (hu : Underway met (p.walk.Settles h) top before a.files)
    (hfoot : Foothold a.files p.destination top []) :
    result = .ok () := by
  induction hr with
  | done => rfl
  | @next storage rest a a₁ a' result _ walk _ ih =>
    have hhere := hmet storage List.mem_cons_self
    have hfail := walk.failures_eq hlists hdelivers hunique hdir hhere hu hfoot
    obtain ⟨hadvances, -⟩ := walk.completed hdir hunique hlists hdelivers.isTruthful hfail hhere
      hu hfoot
    exact ih (fun _ => hdepth (by simp)) (fun s hs => htold s (List.mem_cons_of_mem _ hs))
      (fun s hs => hmet s (List.mem_cons_of_mem _ hs)) hadvances.underway
      (hfoot.preserved hadvances.preserves hadvances.linkFree)
  | @stopped storage rest a a₁ stop _ walk =>
    cases walk.progress hlists hdelivers hunique hdir hfile (hacyclic storage.id) hpass
      (hmet storage List.mem_cons_self) hu hfoot rfl (Nat.zero_add _)
      (hdepth (by simp))
  | @untold storage _ _ _ huntold =>
    rw [htold storage List.mem_cons_self] at huntold
    cases huntold

/-- The walks of a run that end without a failure have passed every node. -/
lemma Rounds.passes (htruth : p.remote.IsTruthful h) {result : Except Failure Unit}
    (hr : Rounds p storages a result a') (hresult : result = .ok ())
    (hfail : a'.statistics.failures = a.statistics.failures)
    (hmet : ∀ s ∈ storages, h.Covered s.id met (.container p.depth none) [])
    (hu : Underway met (p.walk.Settles h) top before a.files)
    (hfoot : Foothold a.files p.destination top []) :
    ∀ s ∈ storages, ∀ above n, h.Meets s.id none above n →
      Passes p.walk p.destination top a.files above n := by
  induction hr with
  | done => simp
  | @next storage rest a a₁ a' result _ walk others ih =>
    have hle := others.failures_le
    simp only [Account.since_statistics, Statistics.add_failures] at hle
    have hhere := hmet storage List.mem_cons_self
    have hfail₁ : a₁.statistics.failures = 0 := by omega
    obtain ⟨hadvances, -⟩ := walk.completed hdir hunique hlists htruth hfail₁ hhere hu hfoot
    intro s hs above n hn
    rcases List.mem_cons.mp hs with rfl | hs
    · exact walk.passes hdir hunique hlists htruth hfail₁ hhere hu hfoot (Nat.zero_add _) above n hn
    · refine (ih hresult ?_ (fun s hs => hmet s (List.mem_cons_of_mem _ hs)) hadvances.underway
        (hfoot.preserved hadvances.preserves hadvances.linkFree) s hs above n hn).of_preserves
        hadvances.preserves
      show a'.statistics.failures = a.statistics.failures + a₁.statistics.failures
      omega
  | stopped | untold => cases hresult

end Rounds

/-- A walk that ends had a level for the top. -/
lemma Rounds.depth_pos {result : Except Failure Unit} (hr : Rounds p storages a result a')
    (hresult : result = .ok ()) (hne : storages ≠ []) : 0 < p.depth := by
  cases hr with
  | done => exact absurd rfl hne
  | next _ walk _ => exact walk.levels_pos
  | stopped | untold => cases hresult

/-- The rounds of a run that ends introduce every storage. -/
lemma Rounds.told {result : Except Failure Unit} (hr : Rounds p storages a result a')
    (hresult : result = .ok ()) : ∀ s ∈ storages, p.untold? s = none := by
  induction hr with
  | done => exact List.forall_mem_nil _
  | next htold _ _ ih => exact List.forall_mem_cons.mpr ⟨htold, ih hresult⟩
  | stopped | untold => cases hresult

/-! ## Settings -/

/-- A device whose containers are not below themselves, and a destination without links below it,
such that no file shares its place with another node or with a directory. -/
structure Setting (p : Plan σ) (h : Hierarchy) (files : FileSystem) (top : Location) : Prop where
  leads : files.Leads p.destination top
  linkFree : files.LinkFree top
  acyclic : ∀ storage c, ¬Relation.TransGen (h.Holds storage) c c
  unique : Unique (h.Met (p.chosen h.storages))
  noDirectory : ∀ above n name, h.Met (p.chosen h.storages) above n → n.Calls name →
    n.isContainer = false → files.get? (top ++ above ++ [name]) ≠ some .directory

/-- Names that are texts of at most 255 bytes, declared sizes of at most 63 binary digits, and no
file at the place of a folder. -/
structure Ordinary (p : Plan σ) (h : Hierarchy) (files : FileSystem) (top : Location) : Prop where
  names : ∀ above n, h.Met (p.chosen h.storages) above n →
    ∃ name, n.name = .string name ∧ name.utf8ByteSize ≤ FileSystem.maxNameBytes
  sizes : ∀ above n, h.Met (p.chosen h.storages) above n →
    ∀ size, n.declaredSize = some size → size < 2 ^ 63
  noFile : ∀ above n name, h.Met (p.chosen h.storages) above n → n.Calls name →
    n.isContainer = true → ∀ c m, files.get? (top ++ above ++ [name]) ≠ some (.file c m)

/-- Contents of exactly the declared size, with abstract files left out. -/
structure Sized (p : Plan σ) (h : Hierarchy) : Prop where
  noAbstract : p.includeAbstract = false
  declared : ∀ above n name, h.Met (p.chosen h.storages) above n → n.Calls name →
    n.kind = .file → n.declaredSize = some ((h.body n).length : Int)

/-- Paths of at most 4095 bytes, directories that may be looked into, a level left for every folder,
and numbers that can be written if no storage has them. -/
structure WithinLimits (p : Plan σ) (h : Hierarchy) (files : FileSystem) (top : Location) :
    Prop where
  paths : ∀ above n name, h.Met (p.chosen h.storages) above n → n.Calls name →
    (p.destination.below (above ++ [name])).text.utf8ByteSize ≤ FileSystem.maxPathBytes
  permitted : ∀ above n name, h.Met (p.chosen h.storages) above n → n.Calls name →
    top ++ above ∉ files.closed
  depth : p.chosen h.storages ≠ [] → 0 < p.depth
  levels : ∀ above n name, h.Met (p.chosen h.storages) above n → n.Calls name →
    n.isContainer = true → above.length + 1 < p.depth
  absent : ∀ id ∈ p.absent h.storages, (natDigits id.natAbs).length ≤ Numeral.maxDecimalDigits

/-- Two runs are to copy the same into the same place. -/
structure Plan.Matches {τ : Type} (q : Plan τ) (p : Plan σ) : Prop where
  destination : q.destination = p.destination
  storages : q.storages = p.storages
  includeAbstract : q.includeAbstract = p.includeAbstract

lemma Plan.Matches.chosen {τ : Type} {q : Plan τ} (hq : q.Matches p) (storages : List Storage) :
    q.chosen storages = p.chosen storages := by
  rw [Plan.chosen, Plan.chosen, hq.storages]

lemma Plan.Matches.absent {τ : Type} {q : Plan τ} (hq : q.Matches p) (storages : List Storage) :
    q.absent storages = p.absent storages := by
  rw [Plan.absent, Plan.absent, hq.storages]

lemma Setting.foothold {files : FileSystem} (hs : Setting p h files top) :
    Foothold files p.destination top [] :=
  ⟨by simp, by simpa using hs.leads, hs.linkFree⟩

/-- Within the limits, ordinary nodes can be passed. -/
lemma Ordinary.passable {files : FileSystem} (ho : Ordinary p h files top)
    (hl : WithinLimits p h files top) {above : List String} {n : Node}
    (hmet : h.Met (p.chosen h.storages) above n) :
    Walk.Passable p.walk p.destination top files above n := by
  obtain ⟨name, htext, hbytes⟩ := ho.names above n hmet
  refine ⟨?_, fun name' hcalls => ⟨⟨?_, ?_⟩, hl.permitted above n name' hmet hcalls⟩,
    fun _ _ _ => ?_, fun name' hcalls hfolder => ?_⟩
  · cases hseg : isSegment name with
    | false => exact .inl (by rw [htext, isUsableName, hseg])
    | true => exact .inr ⟨name, htext, hseg⟩
  · rw [Path.below_below]
    exact hl.paths above n name' hmet hcalls
  · obtain rfl : name' = name := by simpa using hcalls.text.symm.trans htext
    exact hbytes
  · exact Walk.exists_sizeText (ho.sizes above n hmet)
  · exact hl.levels above n name' hmet hcalls hfolder

/-- Numbers within the limits can be written. -/
lemma WithinLimits.exists_storageText {files : FileSystem} (hl : WithinLimits p h files top)
    {id : Int} (hid : id ∈ p.absent h.storages) : ∃ text, storageText id = .ok text :=
  ⟨_, if_neg (Nat.not_lt.mpr (hl.absent id hid))⟩

/-! ## Ends of runs -/

/-- A destination that leads to a directory is accepted. -/
lemma Plan.checked_of_leads {files : FileSystem} (hdest : files.Leads p.destination top) :
    p.checked files = .ok () := by
  rw [Plan.checked, hdest.contains]
  dsimp only
  rw [hdest.isDirectory]

section Ends

variable (hlists : p.remote.Lists h) (hs : Setting p h a.files top)
include hlists

/-- What a run that returned walked. -/
lemma Ends.rounds {s : RunStatistics} (hends : Ends p a (.ok s) a') :
    (∀ id ∈ p.absent h.storages, ∃ text, storageText id = .ok text) ∧
      ∃ a₁ : Account σ, a₁.files = a.files ∧ a₁.steps = a.steps ∧ a₁.statistics = a.statistics ∧
        a₁.budget = a.budget ∧ Rounds p (p.chosen h.storages) a₁ (.ok ()) a' ∧
        s = ⟨a'.statistics, (p.chosen h.storages).length⟩ := by
  generalize hresult : Except.ok s = result at hends
  cases hends with
  | @walked storages w result a' destination answer absent rounds _ _ =>
    obtain ⟨hstorages, hfiles⟩ := hlists.storages a.other a.files
    rw [answer] at hstorages hfiles
    cases hstorages
    cases result with
    | error f => cases hresult
    | ok u =>
      cases hresult
      exact ⟨absent, (a.answered w).forgotten p.walk, hfiles, rfl, rfl, rfl, rounds, rfl⟩
  | refused | unlisted | unwritten | undrawn | veiled => cases hresult

omit hs in
/-- A run that returns had a display that drew what it had to, and introduced its storages. -/
lemma Ends.draws {s : RunStatistics} (hends : Ends p a (.ok s) a') : p.Draws h := by
  generalize hresult : Except.ok s = result at hends
  cases hends with
  | @walked storages w result a' _ answer _ rounds hfirst hlast =>
    have hstorages := (hlists.storages a.other a.files).1
    rw [answer] at hstorages
    cases hstorages
    cases result with
    | error f => cases hresult
    | ok u =>
      refine ⟨hfirst, ?_, rounds.told rfl⟩
      rw [← rounds.descriptionAfter_eq hlists rfl]
      exact hlast
  | refused | unlisted | unwritten | undrawn | veiled => cases hresult

/-- A run whose destination is accepted makes its rounds, if all that is absent can be named and
the display draws what it has to.  If the rounds end, the run returns. -/
lemma Ends.makesRounds (hdraws : p.Draws h)
    (habsent : ∀ id ∈ p.absent h.storages, ∃ text, storageText id = .ok text)
    (hchecked : p.checked a.files = .ok ()) {result : Except Failure RunStatistics}
    (hends : Ends p a result a') :
    ∃ (a₁ : Account σ) (r : Except Failure Unit), a₁.files = a.files ∧ a₁.steps = a.steps ∧
      a₁.statistics = a.statistics ∧ a₁.budget = a.budget ∧
      Rounds p (p.chosen h.storages) a₁ r a' ∧
      (r = .ok () → result = .ok ⟨a'.statistics, (p.chosen h.storages).length⟩) := by
  obtain ⟨hstorages, hfiles⟩ := hlists.storages a.other a.files
  cases hends with
  | refused destination =>
    rw [hchecked] at destination
    cases destination
  | unlisted _ answer =>
    rw [answer] at hstorages
    cases hstorages
  | unwritten _ answer hmem htext =>
    rw [answer] at hstorages
    cases hstorages
    obtain ⟨text, htext'⟩ := habsent _ hmem
    rw [htext] at htext'
    cases htext'
  | undrawn _ _ _ hfirst =>
    rw [hdraws.first] at hfirst
    cases hfirst
  | @walked _ w _ _ _ answer _ rounds _ _ =>
    rw [answer] at hstorages hfiles
    cases hstorages
    refine ⟨(a.answered w).forgotten p.walk, _, hfiles, rfl, rfl, rfl, rounds, ?_⟩
    rintro rfl
    rfl
  | @veiled _ w _ _ _ _ answer _ rounds _ hlast =>
    rw [answer] at hstorages hfiles
    cases hstorages
    refine ⟨(a.answered w).forgotten p.walk, _, hfiles, rfl, rfl, rfl, rounds, fun hr => ?_⟩
    have hdescription := rounds.descriptionAfter_eq hlists hr
    rw [Account.forgotten_steps, Account.answered_steps] at hdescription
    rw [hdescription, hdraws.last] at hlast
    cases hlast

include hs

/-- **A run that returns without a failure is complete.** -/
theorem Ends.replicated (htruth : p.remote.IsTruthful h) {s : RunStatistics}
    (hends : Ends p a (.ok s) a') (hstart : a.statistics.failures = 0)
    (hfail : s.total.failures = 0) :
    Replicated p.walk h (h.Met (p.chosen h.storages)) top a.files a'.files ∧
      Preserves a.files a'.files ∧ a'.files.LinkFree top := by
  obtain ⟨-, a₁, hfiles, -, hstatistics, -, hrounds, rfl⟩ := hends.rounds hlists
  obtain ⟨hadvances, hdone⟩ := hrounds.completed hlists htruth hs.unique hs.noDirectory rfl
    (by rw [hstatistics, hstart]; exact hfail) (fun s hmem names n hn => ⟨s, hmem, hn⟩)
    (hfiles ▸ Underway.refl _) (hfiles ▸ hs.foothold)
  rw [hfiles] at hadvances
  refine ⟨hadvances.replicated ?_, hadvances.preserves, hadvances.linkFree⟩
  rintro above n name ⟨s, hmem, hn⟩ hcalls
  exact hdone s hmem above n name hn hcalls

/-- A run that returns without a failure has passed every node. -/
lemma Ends.passes (htruth : p.remote.IsTruthful h) {s : RunStatistics}
    (hends : Ends p a (.ok s) a') (hstart : a.statistics.failures = 0)
    (hfail : s.total.failures = 0) {above : List String} {n : Node}
    (hmet : h.Met (p.chosen h.storages) above n) :
    Passes p.walk p.destination top a.files above n := by
  obtain ⟨-, a₁, hfiles, -, hstatistics, -, hrounds, rfl⟩ := hends.rounds hlists
  obtain ⟨s, hmem, hn⟩ := hmet
  have := hrounds.passes hs.noDirectory hs.unique hlists htruth rfl
    (by rw [hstatistics, hstart]; exact hfail) (fun s hmem names n hn => ⟨s, hmem, hn⟩)
    (hfiles ▸ Underway.refl _) (hfiles ▸ hs.foothold) s hmem above n hn
  rwa [hfiles] at this

/-- If contents are delivered, a run that returns has not failed. -/
lemma Ends.failures_eq (hdelivers : p.remote.Delivers h) {s : RunStatistics}
    (hends : Ends p a (.ok s) a') (hstart : a.statistics.failures = 0) :
    s.total.failures = 0 := by
  obtain ⟨-, a₁, hfiles, -, hstatistics, -, hrounds, rfl⟩ := hends.rounds hlists
  have hfail := hrounds.failures_eq hs.noDirectory hs.unique hlists hdelivers rfl
    (fun s hmem names n hn => ⟨s, hmem, hn⟩) (hfiles ▸ Underway.refl _) (hfiles ▸ hs.foothold)
  rw [hstatistics, hstart] at hfail
  exact hfail

/-- **A run over passable nodes returns**, if its display draws what it has to and its storages can
be introduced. -/
theorem Ends.progress (hdelivers : p.remote.Delivers h) (hdraws : p.Draws h)
    (hpass : ∀ above n, h.Met (p.chosen h.storages) above n →
      Passes p.walk p.destination top a.files above n)
    (hdepth : p.chosen h.storages ≠ [] → 0 < p.depth)
    (habsent : ∀ id ∈ p.absent h.storages, ∃ text, storageText id = .ok text)
    {result : Except Failure RunStatistics} (hends : Ends p a result a') :
    ∃ s, result = .ok s := by
  obtain ⟨a₁, r, hfiles, -, -, -, hrounds, hreturns⟩ :=
    hends.makesRounds hlists hdraws habsent (Plan.checked_of_leads hs.leads)
  have hr : r = .ok () := hrounds.progress hs.noDirectory hs.unique hlists hdelivers
    (fun above n name hmet => (hpass above n hmet).2 name) hs.acyclic
    (fun above n hmet => (hpass above n hmet).1) hdepth hdraws.told
    (fun s hmem names n hn => ⟨s, hmem, hn⟩) (hfiles ▸ Underway.refl _) (hfiles ▸ hs.foothold)
  exact ⟨_, hreturns hr⟩

end Ends

/-! ## Replicas -/

/-- What the sample device gives. -/
def sampleHierarchy : Hierarchy := sampleDevice.hierarchy [⟨7, .string "", .null, .null⟩]

lemma sample_lists : sampleDevice.remote.Lists sampleHierarchy :=
  InMemory.lists rfl (by rfl)

lemma sample_delivers : sampleDevice.remote.Delivers sampleHierarchy :=
  InMemory.delivers _ rfl

lemma sample_listing {storage : Int} {container : Option Int} {n : Node}
    (hn : n ∈ sampleHierarchy.listing storage container) :
    n = sampleFolder ∧ container = none ∨ n = sampleFile ∧ container = some 1 ∨
      n = sampleTrap ∧ container = none := by
  simp only [sampleHierarchy, InMemory.hierarchy, InMemory.childrenOf, sampleDevice,
    List.contains_nil, Bool.false_eq_true, if_false, List.mem_filter, List.mem_cons,
    List.not_mem_nil, or_false, decide_eq_true_eq] at hn
  obtain ⟨rfl | rfl | rfl, -, rfl⟩ := hn
  · exact .inl ⟨rfl, rfl⟩
  · exact .inr (.inl ⟨rfl, rfl⟩)
  · exact .inr (.inr ⟨rfl, rfl⟩)

/-- The nodes of the sample, with the directories above them. -/
lemma sample_meets {storage : Int} {above : List String} {n : Node}
    (hmeets : sampleHierarchy.Meets storage none above n) :
    above = [] ∧ n = sampleFolder ∨ above = ["a"] ∧ n = sampleFile ∨
      above = [] ∧ n = sampleTrap := by
  cases hmeets with
  | here hn =>
    rcases sample_listing hn with ⟨rfl, -⟩ | ⟨-, hcontainer⟩ | ⟨rfl, -⟩
    · exact .inl ⟨rfl, rfl⟩
    · cases hcontainer
    · exact .inr (.inr ⟨rfl, rfl⟩)
  | @deeper _ folder _ name rest hlisted hfolder hcalls hrest =>
    rcases sample_listing hlisted with ⟨rfl, -⟩ | ⟨-, hcontainer⟩ | ⟨rfl, -⟩
    · obtain rfl : "a" = name := by simpa [sampleFolder] using hcalls.text
      cases hrest with
      | here hn =>
        rcases sample_listing hn with ⟨-, hcontainer⟩ | ⟨rfl, -⟩ | ⟨-, hcontainer⟩
        · cases hcontainer
        · exact .inr (.inl ⟨rfl, rfl⟩)
        · cases hcontainer
      | deeper hlisted hfolder _ _ =>
        rcases sample_listing hlisted with ⟨-, hcontainer⟩ | ⟨rfl, -⟩ | ⟨-, hcontainer⟩
        · cases hcontainer
        · cases hfolder
        · cases hcontainer
    · cases hcontainer
    · have hname : ".." = name := by simpa [sampleTrap] using hcalls.text
      have hsegment := hcalls.segment
      rw [← hname] at hsegment
      cases hsegment

lemma sample_acyclic (storage c : Int) :
    ¬Relation.TransGen (sampleHierarchy.Holds storage) c c := by
  have hnone : ∀ c d, ¬sampleHierarchy.Holds storage c d := by
    rintro c d ⟨n, hn, hfolder, -⟩
    rcases sample_listing hn with ⟨-, hcontainer⟩ | ⟨rfl, -⟩ | ⟨-, hcontainer⟩
    · cases hcontainer
    · cases hfolder
    · cases hcontainer
  intro hpath
  obtain ⟨d, -, hlast⟩ := Relation.TransGen.tail'_iff.mp hpath
  exact hnone d c hlast

section Sample

variable {p : Plan (List String)}

lemma sample_met {storages : List Storage} {above : List String} {n : Node}
    (hmet : sampleHierarchy.Met storages above n) :
    above = [] ∧ n = sampleFolder ∨ above = ["a"] ∧ n = sampleFile ∨
      above = [] ∧ n = sampleTrap := by
  obtain ⟨s, -, hmeets⟩ := hmet
  exact sample_meets hmeets

lemma sampleTrap_not_calls (name : String) : ¬sampleTrap.Calls name := by
  rintro ⟨htext, hsegment⟩
  obtain rfl : ".." = name := by simpa [sampleTrap] using htext
  cases hsegment

/-- The sample is a setting wherever it is copied to from the directory `d`. -/
lemma sample_setting (hleads : sampleWorld.files.Leads p.destination ["d"]) :
    Setting p sampleHierarchy sampleWorld.files ["d"] where
  leads := hleads
  linkFree := sampleWorld_linkFree
  acyclic := sample_acyclic
  unique := by
    intro above n m name hn hm _ _ hfile
    rcases sample_met hn with ⟨-, rfl⟩ | ⟨rfl, rfl⟩ | ⟨-, rfl⟩
    · cases hfile
    · rcases sample_met hm with ⟨habove, -⟩ | ⟨-, rfl⟩ | ⟨habove, -⟩
      · cases habove
      · rfl
      · cases habove
    · cases hfile
  noDirectory := by
    intro above n name hn hcalls hfile
    rcases sample_met hn with ⟨-, rfl⟩ | ⟨rfl, rfl⟩ | ⟨-, rfl⟩
    · cases hfile
    · obtain rfl : "file" = name := by simpa [sampleFile] using hcalls.text
      decide
    · cases hfile

lemma sample_ordinary : Ordinary p sampleHierarchy sampleWorld.files ["d"] where
  names := by
    intro above n hn
    rcases sample_met hn with ⟨-, rfl⟩ | ⟨-, rfl⟩ | ⟨-, rfl⟩
    · exact ⟨"a", rfl, by decide⟩
    · exact ⟨"file", rfl, by decide⟩
    · exact ⟨"..", rfl, by decide⟩
  sizes := by
    intro above n hn size hsize
    rcases sample_met hn with ⟨-, rfl⟩ | ⟨-, rfl⟩ | ⟨-, rfl⟩ <;> cases hsize
    decide
  noFile := by
    intro above n name hn hcalls hfolder c m
    rcases sample_met hn with ⟨rfl, rfl⟩ | ⟨-, rfl⟩ | ⟨-, rfl⟩
    · obtain rfl : "a" = name := by simpa [sampleFolder] using hcalls.text
      simp [sampleWorld, FileSystem.get?, FileSystem.find]
    · cases hfolder
    · exact absurd hcalls (sampleTrap_not_calls name)

lemma sample_sized (habstract : p.includeAbstract = false) :
    Sized p sampleHierarchy where
  noAbstract := habstract
  declared := by
    intro above n name hmet _ hkind
    rcases sample_met hmet with ⟨-, rfl⟩ | ⟨-, rfl⟩ | ⟨-, rfl⟩
    · cases hkind
    · rfl
    · cases hkind

lemma samplePlan_withinLimits :
    WithinLimits samplePlan sampleHierarchy sampleWorld.files ["d"] where
  paths := by
    intro above n name hn hcalls
    rcases sample_met hn with ⟨rfl, rfl⟩ | ⟨rfl, rfl⟩ | ⟨-, rfl⟩
    · obtain rfl : "a" = name := by simpa [sampleFolder] using hcalls.text
      decide +kernel
    · obtain rfl : "file" = name := by simpa [sampleFile] using hcalls.text
      decide +kernel
    · exact absurd hcalls (sampleTrap_not_calls name)
  permitted := fun _ _ _ _ _ => List.not_mem_nil
  depth := fun _ => by decide
  levels := by
    intro above n name hn hcalls hfolder
    rcases sample_met hn with ⟨rfl, rfl⟩ | ⟨-, rfl⟩ | ⟨-, rfl⟩
    · decide
    · cases hfolder
    · exact absurd hcalls (sampleTrap_not_calls name)
  absent := by
    intro id hid
    cases hid

end Sample

lemma sample_met_folder : sampleHierarchy.Met sampleHierarchy.storages [] sampleFolder := by
  have hlisted : sampleHierarchy.listing 7 none = [sampleFolder, sampleTrap] := rfl
  exact ⟨_, List.mem_cons_self, .here (by simp [hlisted])⟩

lemma sample_met_file : sampleHierarchy.Met sampleHierarchy.storages ["a"] sampleFile := by
  have htop : sampleHierarchy.listing 7 none = [sampleFolder, sampleTrap] := rfl
  have hbelow : sampleHierarchy.listing 7 (some sampleFolder.id) = [sampleFile] := rfl
  have hfolder : sampleFolder ∈ sampleHierarchy.listing 7 none := by simp [htop]
  exact ⟨_, List.mem_cons_self, .deeper hfolder rfl ⟨rfl, rfl⟩ (.here (by simp [hbelow]))⟩

lemma samplePlan_returns : (start samplePlan).run sampleWorld =
    (.ok ⟨⟨1, 1, 1, 0, 0, 0, 1⟩, 1⟩, ((start samplePlan).run sampleWorld).2) := by
  have hstatistics : ((start samplePlan).run sampleWorld).1.toOption =
      some ⟨⟨1, 1, 1, 0, 0, 0, 1⟩, 1⟩ := by
    decide +kernel
  rcases hrun : (start samplePlan).run sampleWorld with ⟨f | s, w'⟩ <;> rw [hrun] at hstatistics
  · cases hstatistics
  · cases hstatistics
    rfl

end Replica.Run
