import Replica.Proofs.Replication
/-!
# Recovery

A run may be cut short: a request fails, a file is only written in part, the user has had enough.
A later run knows nothing of that but what it finds on the disk, and judges that by its size.

* **Degraded remote trees.**  `Remote.Degrades` allows any request to fail at any time; a fetch
  that fails may leave any part of the content that comes first.
* **What is left.**  `Walk.Plan.Leaves` is what may then stand at the place of a file.
  `Course.degraded` shows that nothing else does, wherever the run is stopped.
* **Recovery.**  A part of the content that is not all of it does not have the declared size, so
  it is due again (`settle_of_leaves`), and a run that succeeds leaves what it would have left
  without the ones before it.
-/

namespace Replica

open FileSystem (LinkFree Preserves modeOver sizeAt)

/-- Every request may fail.  A listing that is answered gives nothing that is not there, and a
fetch writes the front of the content if anything; all of it, if it says that it succeeded. -/
structure Remote.Degrades {σ : Type} (r : Remote σ) (h : Hierarchy) : Prop where
  storages : ∀ other files, (r.listStorages other files).2.files = files ∧
    ∀ storages, (r.listStorages other files).1 = .ok storages → storages ⊆ h.storages
  children : ∀ storage container other files,
    (r.listChildren storage container other files).2.files = files ∧
      ∀ children, (r.listChildren storage container other files).1 = .ok children →
        children ⊆ h.listing storage container
  fetch : ∀ file target other files,
    (r.fetch file target other files).2.files = files ∧
        (r.fetch file target other files).1 ≠ .ok true ∨
      ∃ k, files.writeFile target ((h.body file).take k) =
          .ok (r.fetch file target other files).2.files ∧
        ((r.fetch file target other files).1 = .ok true → (h.body file).length ≤ k)

lemma Remote.Degrades.keepsToTarget {σ : Type} {r : Remote σ} {h : Hierarchy}
    (hr : r.Degrades h) : r.KeepsToTarget where
  listStorages other files := (hr.storages other files).1
  listChildren storage container other files := (hr.children storage container other files).1
  fetch file target other files := by
    rcases hr.fetch file target other files with ⟨hsame, -⟩ | ⟨k, hwrite, -⟩
    · exact .inl hsame
    · exact .inr ⟨_, hwrite⟩

namespace Walk

/-- What may stand at the place of a file after a run that was cut short. -/
def Plan.Leaves {σ : Type} (p : Plan σ) (h : Hierarchy) (n : Node) (old new : Option Entry) :
    Prop :=
  p.verdict n (sizeAt old) = .due ∧ ∃ k, new = some (.file ((h.body n).take k) (modeOver old))

variable {σ : Type} {p : Plan σ} {h : Hierarchy} {root : Path} {storage : Int} {top : Location}
  {met : List String → Node → Prop} {before : FileSystem} {child n : Node} {above : List String}
  {ids : List Int} {a a' : Account σ} {name : String}

/-- What is written over something that was left is left as well. -/
lemma Plan.Leaves.over {old cur : Option Entry} (hcur : cur = old ∨ p.Leaves h n old cur)
    (hdue : p.verdict n (sizeAt cur) = .due) (k : ℕ) :
    p.Leaves h n old (some (.file ((h.body n).take k) (modeOver cur))) := by
  rcases hcur with rfl | ⟨hold, k', rfl⟩
  · exact ⟨hdue, k, rfl⟩
  · exact ⟨hold, k, rfl⟩

section Degraded

variable (hdegrades : p.remote.Degrades h) (hunique : Unique met)
include hdegrades

/-- A course preserves what is there. -/
lemma Course.preserves {task : Task} {result : Except Stop Unit}
    (hc : Course p root storage task above ids a result a')
    (hfoot : Foothold a.files root top above) :
    Preserves a.files a'.files ∧ a'.files.LinkFree top := by
  have hhere : Confined a.steps a.files root top a :=
    ⟨List.suffix_refl _, Preserves.refl _, hfoot.linkFree, fun l hl => absurd rfl hl⟩
  obtain ⟨hconfined, hpreserves⟩ := hc.confined hdegrades.keepsToTarget hhere hfoot
  exact ⟨hpreserves, hconfined.linkFree⟩

include hunique

/-- A file that was asked for is untouched or left in part. -/
lemma underway_asked (hu : Underway met (p.Leaves h) top before a.files)
    (hfoot : Foothold a.files root top above) (hmet : met above child)
    (hlooked : Looked p root above child a name .due) {r : Except Failure Bool} {w : World σ}
    (answer : p.remote.fetch child (LocalDirectory.pathFor ⟨root, above⟩ name) a.other a.files =
      (r, w)) :
    Underway met (p.Leaves h) top before w.files := by
  have hseg := hlooked.calls.segment
  obtain ⟨size, hsize, hdue⟩ := hlooked.size
  obtain ⟨-, rfl⟩ := hfoot.inspected hseg hsize
  have hfetch := hdegrades.fetch child (LocalDirectory.pathFor ⟨root, above⟩ name) a.other a.files
  rw [answer] at hfetch
  rcases hfetch with ⟨hsame, -⟩ | ⟨k, hwrite, -⟩
  · rwa [show w.files = a.files from hsame]
  obtain ⟨hpreserves, -⟩ := hfoot.preserves_writeFile hseg hwrite
  obtain ⟨-, -, hfiles⟩ := (hfoot.writeFile hseg).mp hwrite
  have hleaves := Plan.Leaves.over (hu.file above child name hmet hlooked.calls hlooked.file) hdue k
  refine hu.put hunique hmet hlooked.calls hlooked.file ?_ (fun l hl => ?_) hpreserves.closed
  · rw [show w.files = _ from hfiles, FileSystem.get?_set_self]
    exact hleaves
  · rw [show w.files = _ from hfiles, FileSystem.get?_set_of_ne hl]

lemma Deed.degraded (hd : Deed p root above ids child a a')
    (hu : Underway met (p.Leaves h) top before a.files)
    (hfoot : Foothold a.files root top above) (hmet : met above child) :
    Underway met (p.Leaves h) top before a'.files := by
  cases hd with
  | fetch hlooked answer => exact underway_asked hdegrades hunique hu hfoot hmet hlooked answer
  | miss hlooked answer _ => exact underway_asked hdegrades hunique hu hfoot hmet hlooked answer
  | passOver | skip | leaveOut => exact hu

lemma Halt.degraded {f : Failure} (hh : Halt p root above ids child a f a')
    (hu : Underway met (p.Leaves h) top before a.files)
    (hfoot : Foothold a.files root top above) (hmet : met above child) :
    Underway met (p.Leaves h) top before a'.files := by
  cases hh with
  | notEntered hcalls hfolder _ hmade _ =>
    obtain ⟨hat, hother⟩ := hfoot.get?_made hcalls.segment hmade
    exact hu.made hunique hmet hcalls hfolder hat hother
      (hfoot.preserves_made hcalls.segment hmade).1.closed
  | fetchFailed hlooked answer =>
    exact underway_asked hdegrades hunique hu hfoot hmet hlooked answer
  | tooMany hlooked answer _ =>
    exact underway_asked hdegrades hunique hu hfoot hmet hlooked answer
  | unreadable | cycle | unnamedFolder | notMade | oversized | unnamedFile | notInspected =>
    exact hu

/-- **A course that is cut short leaves only parts of what it was to leave**, wherever it is
stopped. -/
theorem Course.degraded {task : Task} {result : Except Stop Unit}
    (hc : Course p root storage task above ids a result a')
    (hmet : h.Covered storage met task above)
    (hu : Underway met (p.Leaves h) top before a.files)
    (hfoot : Foothold a.files root top above) :
    Underway met (p.Leaves h) top before a'.files := by
  induction hc with
  | tooDeep => exact hu
  | @unlisted levels container above ids a f w answer =>
    have hsame := (hdegrades.children storage container a.other a.files).1
    rw [answer] at hsame
    show Underway met (p.Leaves h) top before w.files
    rwa [show w.files = a.files from hsame]
  | @listed levels container above ids a children w result a' answer _ ih =>
    -- some children may be missing, but none is new
    obtain ⟨hsame, hchildren⟩ := hdegrades.children storage container a.other a.files
    rw [answer] at hsame hchildren
    have hsubset := hchildren children rfl
    rw [Account.listed_files, show w.files = a.files from hsame] at ih
    exact ih (hmet.listed hsubset) hu hfoot
  | done => exact hu
  | @next levels child rest above ids a a₁ result a' first _ ih₁ ih₂ =>
    obtain ⟨hpreserves, hlinkFree⟩ := first.preserves hdegrades hfoot
    exact ih₂ hmet.tail (ih₁ hmet.head hu hfoot) (hfoot.preserved hpreserves hlinkFree)
  | @stopped levels child rest above ids a stop a' _ ih =>
    exact ih hmet.head hu hfoot
  | @deed levels child above ids a a' hd =>
    have hchild := hmet.here
    have hleft := hd.degraded hdegrades hunique hu hfoot hchild
    exact hleft
  | @halt levels child above ids a f a' hh =>
    have hchild := hmet.here
    have hleft := hh.degraded hdegrades hunique hu hfoot hchild
    exact hleft
  | @through levels child name files above ids a below a₁ result a' hcalls hfolder _ hmade _ _ back
      ih =>
    have hchild := hmet.here
    obtain ⟨hat, hother⟩ := hfoot.get?_made hcalls.segment hmade
    have hleft := ih (hmet.below hfolder hcalls)
      (hu.made hunique hchild hcalls hfolder hat hother
        (hfoot.preserves_made hcalls.segment hmade).1.closed) (hfoot.below hcalls.segment hmade)
    cases back <;> exact hleft

end Degraded

/-- What was left is settled as if nothing had been there: only the whole content has the declared
size. -/
lemma settle_of_leaves {old new : Option Entry} (habstract : p.includeAbstract = false)
    (hsize : n.isAbstract = false → n.declaredSize = some ((h.body n).length : Int))
    (hnew : new = old ∨ p.Leaves h n old new) : p.settle h n new = p.settle h n old := by
  rcases hnew with rfl | ⟨hdue, k, rfl⟩
  · rfl
  rw [Plan.settle, Plan.settle, if_pos hdue]
  split_ifs with hagain
  · rfl
  · -- it is up to date, and so it is all there
    have hreal := Plan.isAbstract_of_due habstract hdue
    have hupToDate : p.verdict n (some ((h.body n).take k).length) = .upToDate := by
      by_contra hne
      exact hagain (Plan.verdict_eq_due.mpr ⟨hne, (Plan.verdict_eq_due.mp hdue).2⟩)
    obtain ⟨m, hm, hdeclared⟩ := Plan.verdict_eq_upToDate.mp hupToDate
    rw [hsize hreal] at hdeclared
    have hlength : ((h.body n).take k).length = (h.body n).length := by
      simp only [Option.some.injEq] at hm hdeclared
      omega
    rw [List.length_take] at hlength
    rw [List.take_of_length_le (by omega)]

end Walk

namespace Run

open Walk (Account Passes Replicated)

variable {σ τ : Type} {p : Plan σ} {q : Plan τ} {h : Hierarchy} {top : Location}
  {before : FileSystem} {met : List String → Node → Prop} {a a' : Account τ}

/-- Of fewer storages, fewer are chosen. -/
lemma Plan.chosen_subset {storages storages' : List Storage} (hsub : storages ⊆ storages') :
    p.chosen storages ⊆ p.chosen storages' := by
  simp only [Plan.chosen]
  cases p.storages with
  | none => exact hsub
  | some wanted =>
    intro s hs
    obtain ⟨hmem, hwanted⟩ := List.mem_filter.mp hs
    exact List.mem_filter.mpr ⟨hsub hmem, hwanted⟩

section Degraded

variable (hdegrades : q.remote.Degrades h) (hunique : Unique met)
include hdegrades hunique

/-- The walks of a run that is cut short leave parts. -/
lemma Rounds.degraded {storages : List Storage} {result : Except Failure Unit}
    (hr : Rounds q storages a result a')
    (hmet : ∀ s ∈ storages, h.Covered s.id met (.container q.depth none) [])
    (hu : Underway met (q.walk.Leaves h) top before a.files)
    (hfoot : Foothold a.files q.destination top []) :
    Underway met (q.walk.Leaves h) top before a'.files := by
  induction hr with
  | done => exact hu
  | @next storage rest a a₁ a' result _ walk _ ih =>
    obtain ⟨hpreserves, hlinkFree⟩ := walk.preserves hdegrades hfoot
    have hleft := walk.degraded hdegrades hunique (hmet storage List.mem_cons_self) hu hfoot
    exact ih (fun s hs => hmet s (List.mem_cons_of_mem _ hs)) hleft
      (hfoot.preserved hpreserves hlinkFree)
  | @stopped storage rest a a₁ stop _ walk =>
    have hleft := walk.degraded hdegrades hunique (hmet storage List.mem_cons_self) hu hfoot
    exact hleft
  | untold => exact hu

/-- A run that is cut short leaves parts, in whichever way it ends. -/
lemma Ends.degraded {result : Except Failure RunStatistics} (hends : Ends q a result a')
    (hmet : ∀ s ∈ q.chosen h.storages, h.Covered s.id met (.container q.depth none) [])
    (hfoot : Foothold a.files q.destination top []) :
    Underway met (q.walk.Leaves h) top a.files a'.files := by
  obtain ⟨hsame, hstorages⟩ := hdegrades.storages a.other a.files
  cases hends with
  | refused => exact .refl _
  | unlisted _ answer =>
    rw [answer] at hsame
    show Underway met (q.walk.Leaves h) top a.files _
    rw [Account.answered_files, show _ = a.files from hsame]
    exact .refl _
  | unwritten _ answer _ _ | undrawn _ answer _ _ =>
    rw [answer] at hsame
    rw [Account.forgotten_files, Account.answered_files, show _ = a.files from hsame]
    exact .refl _
  | @walked storages w result a' _ answer _ rounds _ _
  | @veiled storages w result a' _ _ answer _ rounds _ _ =>
    rw [answer] at hsame hstorages
    have hfiles : ((a.answered w).forgotten q.walk).files = a.files := hsame
    refine rounds.degraded hdegrades hunique
      (fun s hs => hmet s (Plan.chosen_subset (hstorages storages rfl) hs)) ?_ ?_
    · rw [hfiles]
      exact .refl _
    · rwa [hfiles]

end Degraded

/-! ## Recovery -/

section Recovery

variable {files files' after after' : FileSystem}

/-- What a run leaves that is cut short is a setting for another run. -/
lemma Setting.left (hs : Setting p h files top)
    (hu : Underway (h.Met (p.chosen h.storages)) (p.walk.Leaves h) top files files')
    (hpreserves : Preserves files files') (hlinkFree : files'.LinkFree top) :
    Setting p h files' top where
  leads := hs.leads.preserved hpreserves
  linkFree := hlinkFree
  acyclic := hs.acyclic
  unique := hs.unique
  noDirectory above n name hmet hcalls hfile := by
    rcases hu.file above n name hmet hcalls hfile with hsame | ⟨-, k, hpart⟩
    · rw [hsame]
      exact hs.noDirectory above n name hmet hcalls hfile
    · rw [hpart]
      simp

/-- What could be passed before can be passed after a run was cut short. -/
lemma passes_left {above : List String} {n : Node} (hmet : h.Met (p.chosen h.storages) above n)
    (hp : Passes p.walk p.destination top files above n)
    (hu : Underway (h.Met (p.chosen h.storages)) (p.walk.Leaves h) top files files') :
    Passes p.walk p.destination top files' above n := by
  refine ⟨hp.1.congr hu.closed, fun name hcalls hfolder c m hthere => ?_⟩
  rcases hu.folder above n name hmet hcalls hfolder with hsame | hdirectory
  · exact hp.2 name hcalls hfolder c m (hsame ▸ hthere)
  · rw [hdirectory] at hthere
    cases hthere

/-- Replicas of the same device are the same, also where parts were left before one of them. -/
lemma replicated_left (hsized : Sized p h)
    (hu : Underway (h.Met (p.chosen h.storages)) (p.walk.Leaves h) top files files')
    (hr : Replicated p.walk h (h.Met (p.chosen h.storages)) top files after)
    (hr' : Replicated p.walk h (h.Met (p.chosen h.storages)) top files' after') (l : Location) :
    after'.get? l = after.get? l := by
  by_cases hplace : ∃ above n name, h.Met (p.chosen h.storages) above n ∧ n.Calls name ∧
      l = top ++ above ++ [name]
  · obtain ⟨above, n, name, hmet, hcalls, rfl⟩ := hplace
    cases hkind : n.isContainer with
    | true =>
      rw [hr.folder above n name hmet hcalls hkind, hr'.folder above n name hmet hcalls hkind]
    | false =>
      rw [hr.file above n name hmet hcalls hkind, hr'.file above n name hmet hcalls hkind]
      exact Walk.settle_of_leaves hsized.noAbstract
        (fun hreal => hsized.declared above n name hmet hcalls (Node.kind_eq_file hkind hreal))
        (hu.file above n name hmet hcalls hkind)
  · have hnone : ∀ above n name, h.Met (p.chosen h.storages) above n → n.Calls name →
        l ≠ top ++ above ++ [name] :=
      fun above n name hmet hcalls hl => hplace ⟨above, n, name, hmet, hcalls, hl⟩
    rw [hr.rest l hnone, hr'.rest l hnone, hu.rest l hnone]

end Recovery

/-- What a run leaves that is cut short, in the terms of the one that it matches. -/
lemma Plan.Matches.left (hq : q.Matches p) (hdegrades : q.remote.Degrades h)
    {files : FileSystem} (hs : Setting p h files top) {v v' : World τ} (hv : v.files = files)
    {result : Except Failure RunStatistics} (hcut : (start q).run v = (result, v')) :
    Underway (h.Met (p.chosen h.storages)) (p.walk.Leaves h) top files v'.files ∧
      Preserves files v'.files ∧ v'.files.LinkFree top := by
  obtain ⟨result', v'', a', hrun, hends, hfiles, -, -⟩ := run_start q v
  rw [hcut] at hrun
  cases hrun
  subst hv
  have hfoot : Foothold v.files q.destination top [] := hq.destination ▸ hs.foothold
  have hleaves : q.walk.Leaves h = p.walk.Leaves h := by
    funext n old new
    show (Walk.Plan.Leaves q.walk h n old new) = _
    simp only [Walk.Plan.Leaves, Walk.Plan.verdict]
    rw [show q.walk.includeAbstract = p.walk.includeAbstract from hq.includeAbstract]
  have hbefore : Walk.Confined v.steps v.files q.destination top (q.account v) :=
    ⟨List.suffix_refl _, Preserves.refl _, hs.linkFree, fun l hl => absurd rfl hl⟩
  have hconfined := hends.confined hdegrades.keepsToTarget hbefore hfoot
  have hleft := hends.degraded hdegrades hs.unique
    (fun s hmem names n hn => ⟨s, hq.chosen h.storages ▸ hmem, hn⟩) hfoot
  rw [hleaves, ← hfiles] at hleft
  rw [hfiles]
  exact ⟨hfiles ▸ hleft, hconfined.preserves, hconfined.linkFree⟩

/-- **A later run makes up for everything.**  Suppose that a run leaves some files without a
failure.  Then if any run of the same kind is cut short in any way, whatever may fail in it, a run
that starts from what it leaves returns without a failure and leaves the same files.  In
particular, every file that is not yet as it will be is due. -/
theorem run_recovers (p : Plan σ) {h : Hierarchy} (hlists : p.remote.Lists h)
    (hdelivers : p.remote.Delivers h) {w w₁ : World σ} {top : Location}
    (hs : Setting p h w.files top) (hsized : Sized p h) {s : RunStatistics}
    (hhealthy : (start p).run w = (.ok s, w₁)) (hfail : s.total.failures = 0)
    (q : Plan τ) (hq : q.Matches p) (hdegrades : q.remote.Degrades h) {v v' : World τ}
    (hv : v.files = w.files) {result : Except Failure RunStatistics}
    (hcut : (start q).run v = (result, v')) (u : World σ) (hu : u.files = v'.files) :
    (∃ s' u', (start p).run u = (.ok s', u') ∧ s'.total.failures = 0 ∧
      ∀ l, u'.files.get? l = w₁.files.get? l) ∧
    ∀ above n name, h.Met (p.chosen h.storages) above n → n.Calls name → n.isContainer = false →
      v'.files.get? (top ++ above ++ [name]) ≠ w₁.files.get? (top ++ above ++ [name]) →
      p.walk.verdict n (FileSystem.sizeAt (v'.files.get? (top ++ above ++ [name]))) = .due := by
  obtain ⟨result₁, w₁', a₁, hrun₁, hends₁, hfiles₁, -, -⟩ := run_start p w
  rw [hhealthy] at hrun₁
  cases hrun₁
  obtain ⟨hleft, hpreserves, hlinkFree⟩ := hq.left hdegrades hs hv hcut
  obtain ⟨result₃, u', a₃, hrun₃, hends₃, hfiles₃, -, -⟩ := run_start p u
  rw [← hu] at hleft hpreserves hlinkFree
  have hs₃ := hs.left hleft hpreserves hlinkFree
  -- nothing is in the way of the later run, as nothing was in that of the healthy one
  obtain ⟨habsent, b, -, -, -, -, hrounds, -⟩ := hends₁.rounds hlists
  have hpass : ∀ above n, h.Met (p.chosen h.storages) above n →
      Passes p.walk p.destination top u.files above n := fun above n hmet =>
    passes_left hmet (hends₁.passes hlists hs hdelivers.isTruthful rfl hfail hmet) hleft
  obtain ⟨s', rfl⟩ := hends₃.progress hlists hs₃ hdelivers (hends₁.draws hlists) hpass
    (hrounds.depth_pos rfl) habsent
  have hfail₃ := hends₃.failures_eq hlists hs₃ hdelivers rfl
  obtain ⟨hreplicated₁, -, -⟩ := hends₁.replicated hlists hs hdelivers.isTruthful rfl hfail
  obtain ⟨hreplicated₃, -, -⟩ := hends₃.replicated hlists hs₃ hdelivers.isTruthful rfl hfail₃
  have hsame : ∀ l, u'.files.get? l = w₁.files.get? l := by
    intro l
    rw [hfiles₁, hfiles₃]
    exact replicated_left hsized hleft hreplicated₁ hreplicated₃ l
  refine ⟨⟨s', u', hrun₃, hfail₃, hsame⟩, fun above n name hmet hcalls hfile hdiffers => ?_⟩
  -- a file that is not due stays as it is
  by_contra hnot
  have hsettled := hreplicated₃.file above n name hmet hcalls hfile
  rw [← hu] at hdiffers hnot
  rw [show u.files = (p.account u).files from rfl] at hnot hdiffers
  rw [Walk.Plan.settle, if_neg hnot, ← hfiles₃, hsame] at hsettled
  exact hdiffers hsettled.symm

/-- The sample device, interrupted when it has delivered one byte of a file. -/
def interruptedRemote : Remote (List String) where
  listStorages := sampleDevice.remote.listStorages
  listChildren := sampleDevice.remote.listChildren
  fetch file target other files :=
    match files.writeFile target ((InMemory.contentOf file).take 1) with
    | .ok files => (.error .interrupted, ⟨files, other, []⟩)
    | .error _ => (.ok false, ⟨files, other, []⟩)
  errors := sampleDevice.remote.errors
  forgetErrors := sampleDevice.remote.forgetErrors

lemma interruptedRemote_degrades : interruptedRemote.Degrades sampleHierarchy where
  storages other files := by
    obtain ⟨hstorages, hfiles⟩ := sample_lists.storages other files
    refine ⟨hfiles, fun storages answer => ?_⟩
    obtain rfl : sampleHierarchy.storages = storages :=
      Except.ok.inj (hstorages.symm.trans answer)
    exact List.Subset.refl _
  children storage container other files := by
    obtain ⟨hchildren, hfiles⟩ := sample_lists.children storage container other files
    refine ⟨hfiles, fun children answer => ?_⟩
    obtain rfl : sampleHierarchy.listing storage container = children :=
      Except.ok.inj (hchildren.symm.trans answer)
    exact List.Subset.refl _
  fetch file target other files := by
    rcases hwrite : files.writeFile target ((InMemory.contentOf file).take 1) with fault | files'
    · refine .inl ?_
      simp [interruptedRemote, hwrite]
    · refine .inr ⟨1, ?_⟩
      show files.writeFile target ((InMemory.contentOf file).take 1) = _ ∧ _
      simp [interruptedRemote, hwrite]

/-- The run of the sample that is interrupted. -/
def interruptedPlan : Plan (List String) := { samplePlan with remote := interruptedRemote }

/-- The world that it leaves. -/
def interruptedWorld : World (List String) := ((start interruptedPlan).run sampleWorld).2

/-- One byte of the sample's file is there after the interruption, and all of it after the next
run. -/
theorem run_recovers_sample :
    interruptedWorld.files.get? ["d", "a", "file"] =
        some (.file [120] FileSystem.newFileMode) ∧
      ∃ s' u', (start samplePlan).run interruptedWorld = (.ok s', u') ∧
        s'.total.failures = 0 ∧ u'.files.get? ["d", "a", "file"] =
          some (.file [120, 120, 120] FileSystem.newFileMode) := by
  have hcut : (start interruptedPlan).run sampleWorld =
      (((start interruptedPlan).run sampleWorld).1, interruptedWorld) := by
    rw [interruptedWorld]
  have hmatches : interruptedPlan.Matches samplePlan := ⟨rfl, rfl, rfl⟩
  obtain ⟨⟨s', u', hrun, hfail, hsame⟩, -⟩ := run_recovers samplePlan sample_lists sample_delivers
    (sample_setting sampleWorld_leads) (sample_sized rfl) samplePlan_returns rfl interruptedPlan
    hmatches interruptedRemote_degrades (by rfl) hcut interruptedWorld (by rfl)
  refine ⟨by decide +kernel, s', u', hrun, hfail, ?_⟩
  rw [hsame]
  decide +kernel

end Run

end Replica
