import Replica.Proofs.Replication
/-!
# Second runs

A run that returned without a failure has nothing left to do.  A second run over the same device
goes the same way from the files that the first one left, step by step, and finds everything done.

* **Counts.**  `Statistics.repeated` is what a second walk counts: what was fetched is now up to
  date, and the rest is as before.
* **One child.**  `Verdict.repeated` is what a file needs when a walk that has seen to it comes
  again.  `Deed.repeated` and `not_halt_repeated` follow.
* **Walks.**  `Course.repeated` relates any second course to a first one of the same task, by
  induction on the first.
* **Runs.**  A second run can neither be refused nor be stopped where the first one was not.
-/

namespace Replica

open FileSystem (LinkFree Preserves modeOver sizeAt)

namespace Statistics

/-- What is counted by a walk that repeats one with these counts. -/
def repeated (s : Statistics) : Statistics :=
  { s with skips := s.skips + s.downloads, downloads := 0 }

lemma repeated_add (s t : Statistics) : (s + t).repeated = s.repeated + t.repeated := by
  show Statistics.mk _ _ _ _ _ _ _ = Statistics.mk _ _ _ _ _ _ _
  simp only [mk.injEq]
  have hskips : s.skips + t.skips + (s.downloads + t.downloads) =
      s.skips + s.downloads + (t.skips + t.downloads) := by omega
  exact ⟨rfl, rfl, rfl, hskips, rfl, rfl, rfl⟩

end Statistics

/-- No content was asked for since the steps `base`. -/
def Unasked (base steps : List (Standing × Step)) : Prop :=
  ∀ standing file target, ¬TakenSince base steps (standing, .fetching file target)

lemma Unasked.refl (base : List (Standing × Step)) : Unasked base base := by
  rintro standing file target ⟨new, hnew, hx⟩
  obtain rfl : new = [] := by simpa using hnew
  cases hx

lemma Unasked.cons {base steps : List (Standing × Step)} {standing : Standing} {what : Step}
    (h : Unasked base steps) (hwhat : ∀ file target, what ≠ .fetching file target) :
    Unasked base ((standing, what) :: steps) := by
  rintro standing' file target ⟨new, hnew, hx⟩
  cases new with
  | nil => cases hx
  | cons y new =>
    rw [List.cons_append, List.cons.injEq] at hnew
    obtain ⟨rfl, hsteps⟩ := hnew
    rcases List.mem_cons.mp hx with heq | hx
    · exact hwhat file target (Prod.ext_iff.mp heq).2.symm
    · exact h standing' file target ⟨new, hsteps, hx⟩

namespace Walk

/-- What a file needs when a walk that has seen to it comes again. -/
def Verdict.repeated : Verdict → Verdict
  | .due => .upToDate
  | v => v

variable {σ τ : Type} {p : Plan σ} {q : Plan τ} {h : Hierarchy} {root : Path} {storage : Int}
  {top : Location} {met : List String → Node → Prop} {before final : FileSystem}
  {child n : Node} {above : List String} {ids : List Int} {a a' : Account σ} {b b' : Account τ}
  {name : String} {base : List (Standing × Step)}

/-- The files of a course on its second time, with its counts. -/
structure Repeats (final : FileSystem) (base : List (Standing × Step)) (a : Account σ)
    (b : Account τ) : Prop where
  files : b.files = final
  statistics : b.statistics = a.statistics.repeated
  unasked : Unasked base b.steps

/-- A file that is settled is up to date, or it is not due in the first place. -/
lemma verdict_settle {old : Option Entry} (habstract : p.includeAbstract = false)
    (hsize : n.isAbstract = false → n.declaredSize = some ((h.body n).length : Int)) :
    p.verdict n (sizeAt (p.settle h n old)) = (p.verdict n (sizeAt old)).repeated := by
  by_cases hdue : p.verdict n (sizeAt old) = .due
  · rw [Plan.settle, if_pos hdue, hdue]
    have hreal := Plan.isAbstract_of_due habstract hdue
    exact Plan.verdict_eq_upToDate.mpr ⟨_, rfl, hsize hreal⟩
  · rw [Plan.settle, if_neg hdue]
    cases hv : p.verdict n (sizeAt old) with
    | due => exact absurd hv hdue
    | upToDate => rfl
    | leftOut => rfl

/-- Two plans that treat abstract files alike judge alike. -/
lemma verdict_congr (hinclude : q.includeAbstract = p.includeAbstract) (n : Node)
    (size : Option Nat) : q.verdict n size = p.verdict n size := by
  rw [Plan.verdict, Plan.verdict, hinclude]

section Child

variable (hverdict : ∀ name, child.Calls name → child.isContainer = false →
    q.verdict child (sizeAt (final.get? (top ++ above ++ [name]))) =
      (p.verdict child (sizeAt (a.files.get? (top ++ above ++ [name])))).repeated)
  (hfoot : Foothold a.files root top above) (hfoot' : Foothold final root top above)
include hverdict hfoot hfoot'

/-- A file that is looked at again needs what is left for it. -/
lemma Looked.repeated {name' : String} {v v' : Verdict} (hb : b.files = final)
    (hl : Looked p root above child a name v) (hl' : Looked q root above child b name' v') :
    v' = v.repeated := by
  obtain ⟨size, hsize, rfl⟩ := hl.size
  obtain ⟨size', hsize', rfl⟩ := hl'.size
  obtain rfl := hl'.calls.unique hl.calls
  rw [hb] at hsize'
  obtain ⟨-, rfl⟩ := hfoot.inspected hl.calls.segment hsize
  obtain ⟨-, rfl⟩ := hfoot'.inspected hl.calls.segment hsize'
  exact hverdict _ hl.calls hl.file

/-- A deed is repeated: what was fetched is skipped, and the rest is as before. -/
lemma Deed.repeated (hd : Deed p root above ids child a a')
    (hfail : a'.statistics.failures = a.statistics.failures) (hr : Repeats final base a b)
    (hd' : Deed q root above ids child b b') : Repeats final base a' b' := by
  obtain ⟨hfiles, hstatistics, hunasked⟩ := hr
  have hlooked : ∀ {name v name' v'}, Looked p root above child a name v →
      Looked q root above child b name' v' → v' = v.repeated :=
    fun hl hl' => hl.repeated hverdict hfoot hfoot' hfiles hl'
  -- both look at the same file, so the second deed is the first one's, or a skip for a fetch
  have hcompared : Unasked base (b.compared above ids child).steps :=
    (hunasked.cons (by simp)).cons (by simp)
  cases hd with
  | passOver hname =>
    have hnot : ∀ name, ¬child.Calls name := fun name => not_calls hname
    cases hd' with
    | passOver _ =>
      refine ⟨hfiles, ?_, hunasked⟩
      simp [hstatistics, Statistics.repeated]
    | skip hl' | leaveOut hl' | fetch hl' | miss hl' => exact absurd hl'.calls (hnot _)
  | skip hl =>
    cases hd' with
    | skip hl' =>
      refine ⟨hfiles, ?_, hcompared⟩
      simp [hstatistics, Statistics.repeated, Nat.add_right_comm]
    | passOver hname => exact absurd hl.calls (not_calls hname)
    | leaveOut hl' | fetch hl' | miss hl' => cases hlooked hl hl'
  | leaveOut hl =>
    cases hd' with
    | leaveOut hl' =>
      refine ⟨hfiles, ?_, hcompared⟩
      simp [hstatistics, Statistics.repeated]
    | passOver hname => exact absurd hl.calls (not_calls hname)
    | skip hl' | fetch hl' | miss hl' => cases hlooked hl hl'
  | fetch hl =>
    cases hd' with
    | skip hl' =>
      refine ⟨hfiles, ?_, hcompared⟩
      simp [hstatistics, Statistics.repeated, Nat.add_assoc]
    | passOver hname => exact absurd hl.calls (not_calls hname)
    | leaveOut hl' | fetch hl' | miss hl' => cases hlooked hl hl'
  | miss => simp at hfail

/-- Nothing stops a walk where it has been before. -/
lemma not_halt_repeated (hclosed : final.closed = a.files.closed)
    (hd : Deed p root above ids child a a') (hb : b.files = final) {f : Failure} :
    ¬Halt q root above ids child b f b' := by
  intro hh
  have hlooked : ∀ {name v}, Looked p root above child a name v → False := by
    intro name v hl
    obtain ⟨text, htext⟩ := hl.text
    obtain ⟨size, hsize, -⟩ := hl.size
    have htakes := (hfoot.inspected hl.calls.segment hsize).1.congr hclosed
    have hnofolder : child.isContainer ≠ true := by simp [hl.file]
    cases hh with
    | unreadable hname =>
      rw [hl.calls.text] at hname
      cases hname
    | cycle _ hfolder | unnamedFolder _ hfolder | notMade _ hfolder | notEntered _ hfolder =>
      exact hnofolder hfolder
    | oversized _ _ hsize =>
      rw [htext] at hsize
      cases hsize
    | unnamedFile _ _ hnotext => exact hnotext name hl.calls.text
    | notInspected hcalls _ hinspected =>
      rw [hcalls.unique hl.calls, hb, hfoot'.inspected_of_takes hl.calls.segment htakes]
        at hinspected
      cases hinspected
    | fetchFailed hl' =>
      have := hl.repeated hverdict hfoot hfoot' hb hl'
      cases v <;> cases this
    | tooMany hl' =>
      have := hl.repeated hverdict hfoot hfoot' hb hl'
      cases v <;> cases this
  cases hd with
  | passOver hname =>
    have hnot : ∀ name, ¬child.Calls name := fun name => not_calls hname
    cases hh with
    | unreadable hname' =>
      rw [hname] at hname'
      cases hname'
    | cycle husable | unnamedFolder husable | oversized husable | unnamedFile husable =>
      rw [hname] at husable
      cases husable
    | notMade hcalls | notEntered hcalls | notInspected hcalls => exact hnot _ hcalls
    | fetchFailed hl' | tooMany hl' => exact hnot _ hl'.calls
  | skip hl => exact hlooked hl
  | leaveOut hl => exact hlooked hl
  | fetch hl => exact hlooked hl
  | miss hl => exact hlooked hl

end Child

/-- Nothing stops a walk at a folder whose directory can be made. -/
lemma not_halt_folder {files : FileSystem} (hcalls : child.Calls name)
    (hfolder : child.isContainer = true) (houtside : child.id ∉ ids)
    (hfoot : Foothold b.files root top above)
    (hmade : LocalDirectory.made ⟨root, above⟩ name b.files = .ok files) {f : Failure} :
    ¬Halt q root above ids child b f b' := by
  have hnofile : child.isContainer ≠ false := by simp [hfolder]
  intro hh
  cases hh with
  | unreadable hname =>
    rw [hcalls.text] at hname
    cases hname
  | cycle _ _ hinside => exact houtside hinside
  | unnamedFolder _ _ hnotext => exact hnotext name hcalls.text
  | notMade hcalls' _ _ hmade' =>
    rw [hcalls'.unique hcalls, hmade] at hmade'
    cases hmade'
  | notEntered hcalls' _ _ hmade' hentered =>
    obtain rfl := hcalls'.unique hcalls
    rw [hmade] at hmade'
    cases hmade'
    rw [hfoot.entered hcalls.segment hmade] at hentered
    cases hentered
  | oversized _ hfile | unnamedFile _ hfile | notInspected _ hfile => exact hnofile hfile
  | fetchFailed hl | tooMany hl => exact hnofile hl.file

section Course

variable (hfinal : Replicated p h met top before final)
include hfinal

/-- A folder that was gone through is gone through again, without a directory to make. -/
lemma through_again (hchild : met above child) (hcalls : child.Calls name)
    (hfolder : child.isContainer = true) (houtside : child.id ∉ ids)
    (htakes : final.Takes (root.below above) (top ++ above) name)
    (hfoot' : Foothold final root top above) (hb : b.files = final) {levels : Nat}
    {result : Except Stop Unit}
    (hc' : Course q root storage (.child levels child) above ids b result b') :
    Foothold final root top (above ++ [name]) ∧
      ∃ below b₁, Course q root storage (.container levels (some child.id)) (above ++ [name]) ids
          ((b.note (spot above ids) (.taken child)).entered above ids child name final) below b₁ ∧
        Return root above ids child.id name below b₁ result b' := by
  have hthere := hfinal.folder above child name hchild hcalls hfolder
  have hmade : LocalDirectory.made ⟨root, above⟩ name final = .ok final :=
    (hfoot'.made hcalls.segment).mpr ⟨htakes, .inr ⟨hthere, rfl⟩⟩
  refine ⟨hfoot'.below hcalls.segment hmade, ?_⟩
  cases hc' with
  | deed hd' =>
    rw [hd'.isFile hcalls] at hfolder
    cases hfolder
  | halt hh =>
    have htaken : (b.note (spot above ids) (.taken child)).files = final := hb
    exact absurd hh (not_halt_folder hcalls hfolder houtside (htaken ▸ hfoot') (htaken ▸ hmade))
  | @through _ _ name' files' _ _ _ below b₁ _ _ hcalls' _ _ hmade' _ inner' back' =>
    obtain rfl := hcalls'.unique hcalls
    obtain rfl : files' = final := by
      rw [hb, hmade] at hmade'
      exact (Except.ok.inj hmade').symm
    exact ⟨below, b₁, inner', back'⟩

variable (hinclude : q.includeAbstract = p.includeAbstract) (habstract : p.includeAbstract = false)
  (hsize : ∀ above n name, met above n → n.Calls name → n.kind = .file →
    n.declaredSize = some ((h.body n).length : Int))
include hinclude habstract hsize

/-- What a file needs at its place in the end. -/
lemma verdict_final {files : FileSystem}
    (hu : Underway met (p.Settles h) top before files)
    (hmet : met above child) (hcalls : child.Calls name) (hfile : child.isContainer = false) :
    q.verdict child (sizeAt (final.get? (top ++ above ++ [name]))) =
      (p.verdict child (sizeAt (files.get? (top ++ above ++ [name])))).repeated := by
  have hsettled : final.get? (top ++ above ++ [name]) =
      p.settle h child (files.get? (top ++ above ++ [name])) := by
    rw [hfinal.file above child name hmet hcalls hfile]
    exact (settle_settle (hu.file above child name hmet hcalls hfile)).symm
  rw [verdict_congr hinclude, hsettled]
  exact verdict_settle habstract fun hreal =>
    hsize above child name hmet hcalls (Node.kind_eq_file hfile hreal)

/-- Where a deed was done there is one more, and it is a repetition. -/
lemma repeated_deed (hd : Deed p root above ids child (a.note (spot above ids) (.taken child)) a')
    (hfail : a'.statistics.failures = a.statistics.failures) (hchild : met above child)
    (hu : Underway met (p.Settles h) top before a.files)
    (hfoot : Foothold a.files root top above) (hfoot' : Foothold final root top above)
    {levels : Nat} {result : Except Stop Unit}
    (hc' : Course q root storage (.child levels child) above ids b result b')
    (hr : Repeats final base a b) : result = .ok () ∧ Repeats final base a' b' := by
  have hverdict : ∀ name, child.Calls name → child.isContainer = false →
      q.verdict child (sizeAt (final.get? (top ++ above ++ [name]))) =
        (p.verdict child (sizeAt (a.files.get? (top ++ above ++ [name])))).repeated :=
    fun name => verdict_final hfinal hinclude habstract hsize hu hchild
  have htaken : Repeats final base (a.note (spot above ids) (.taken child))
      (b.note (spot above ids) (.taken child)) :=
    ⟨hr.files, hr.statistics, hr.unasked.cons (by simp)⟩
  cases hc' with
  | deed hd' =>
    exact ⟨rfl, Deed.repeated (a := a.note (spot above ids) (.taken child)) hverdict hfoot hfoot'
      hd hfail htaken hd'⟩
  | halt hh =>
    exact absurd hh (not_halt_repeated (a := a.note (spot above ids) (.taken child)) hverdict
      hfoot hfoot' (hfinal.closed.trans hu.closed.symm) hd htaken.files)
  | through hcalls hfolder =>
    rw [hd.isFile hcalls] at hfolder
    cases hfolder

variable (hdir : NoDirectory met top before)
  (hunique : Unique met) (hlists : p.remote.Lists h) (htruth : p.remote.IsTruthful h)
  (hlists' : q.remote.Lists h)
include hdir hunique hlists htruth hlists'

/-- **A course is repeated**, without anything to do. -/
theorem Course.repeated {task : Task} (hc : Course p root storage task above ids a (.ok ()) a')
    (hfail : a'.statistics.failures = a.statistics.failures)
    (hmet : h.Covered storage met task above)
    (hu : Underway met (p.Settles h) top before a.files)
    (hfoot : Foothold a.files root top above) (hfoot' : Foothold final root top above)
    {result : Except Stop Unit} (hc' : Course q root storage task above ids b result b')
    (hr : Repeats final base a b) : result = .ok () ∧ Repeats final base a' b' := by
  -- along the first course, which tells for each turn what the second one can be
  induction hc using Course.induction_ok generalizing b b' result with
  | @listed levels container above ids a a' children w answer _ ih =>
    obtain ⟨hchildren, hfiles⟩ := hlists.eq_listing answer
    cases hchildren
    rw [Account.listed_files, hfiles] at ih
    cases hc' with
    | unlisted answer' => cases (hlists'.eq_listing answer').1
    | @listed _ _ _ _ _ children' w' _ _ answer' turns' =>
      obtain ⟨hchildren', hfiles'⟩ := hlists'.eq_listing answer'
      cases hchildren'
      have hunasked : Unasked base (b.listed q (spot above (inside container ids)) storage container
          (h.listing storage container) w').steps :=
        (hr.unasked.cons (by simp)).cons (by simp)
      exact ih hfail (hmet.listed (List.Subset.refl _)) hu hfoot hfoot' turns'
        ⟨hfiles'.trans hr.files, hr.statistics, hunasked⟩
  | done =>
    cases hc' with
    | done => exact ⟨rfl, hr⟩
  | @next levels child rest above ids a a₁ a' first others ih₁ ih₂ =>
    have hle₁ := first.failures_le
    have hle₂ := others.failures_le
    obtain ⟨hadvances, -⟩ := first.completed hdir hunique hlists htruth (by omega) hmet.head hu
      hfoot
    cases hc' with
    | next first' others' =>
      obtain ⟨-, hr₁⟩ := ih₁ (by omega) hmet.head hu hfoot hfoot' first' hr
      exact ih₂ (by omega) hmet.tail hadvances.underway
        (hfoot.preserved hadvances.preserves hadvances.linkFree) hfoot' others' hr₁
    | stopped first' =>
      cases (ih₁ (by omega) hmet.head hu hfoot hfoot' first' hr).1
  | @deed levels child above ids a a' hd =>
    exact repeated_deed hfinal hinclude habstract hsize hd hfail hmet.here hu hfoot hfoot' hc' hr
  | @through levels child name files above ids a a' hcalls hfolder houtside hmade _ _ _ ih =>
    have hchild := hmet.here
    have htakes := ((hfoot.made hcalls.segment).mp hmade).1.congr
      (hfinal.closed.trans hu.closed.symm)
    obtain ⟨hadvances, -⟩ := advances_made hunique hu hfoot hchild hcalls hfolder hmade
    obtain ⟨hbelow, below, b₁, inner', back'⟩ :=
      through_again hfinal hchild hcalls hfolder houtside htakes hfoot' hr.files hc'
    have hentered : Repeats final base
        ((a.note (spot above ids) (.taken child)).entered above ids child name files)
        ((b.note (spot above ids) (.taken child)).entered above ids child name final) := by
      refine ⟨rfl, ?_, (hr.unasked.cons (by simp)).cons (by simp)⟩
      simp [hr.statistics, Statistics.repeated]
    obtain ⟨rfl, hr'⟩ := ih hfail (hmet.below hfolder hcalls) hadvances.underway
      (hfoot.below hcalls.segment hmade) hbelow inner' hentered
    cases back' with
    | back _ => exact ⟨rfl, hr'.files, hr'.statistics, hr'.unasked.cons (by simp)⟩
    | lost hleft =>
      rw [hr'.files, hbelow.left] at hleft
      cases hleft

end Course

end Walk

namespace Run

open Walk (Account Repeats Replicated)

variable {σ τ : Type} {p : Plan σ} {q : Plan τ} {h : Hierarchy} {top : Location}
  {before final : FileSystem} {met : List String → Node → Prop} {a a' : Account σ}
  {b b' : Account τ} {base : List (Standing × Step)}

/-- The walks of a run are repeated if their storages can be introduced. -/
lemma Rounds.repeated (hdir : NoDirectory met top before)
    (hunique : Unique met) (hlists : p.remote.Lists h) (htruth : p.remote.IsTruthful h)
    (hlists' : q.remote.Lists h) (hq : q.Matches p) (hdepth : q.depth = p.depth)
    (habstract : p.includeAbstract = false)
    (hsize : ∀ above n name, met above n → n.Calls name → n.kind = .file →
      n.declaredSize = some ((h.body n).length : Int))
    (hfinal : Replicated p.walk h met top before final)
    (hfoot' : Foothold final p.destination top []) {storages : List Storage}
    {result : Except Failure Unit} (hr : Rounds p storages a result a') (hresult : result = .ok ())
    (hfail : a'.statistics.failures = a.statistics.failures)
    (hmet : ∀ s ∈ storages, h.Covered s.id met (.container p.depth none) [])
    (hu : Underway met (p.walk.Settles h) top before a.files)
    (hfoot : Foothold a.files p.destination top []) {result' : Except Failure Unit}
    (hr' : Rounds q storages b result' b') (htold : ∀ s ∈ storages, q.untold? s = none)
    (hrep : Repeats final base a b) :
    result' = .ok () ∧ Repeats final base a' b' := by
  induction hr generalizing b with
  | done =>
    cases hr' with
    | done => exact ⟨rfl, hrep⟩
  | @next storage rest a a₁ a' result _ walk others ih =>
    have hle := others.failures_le
    simp only [Account.since_statistics, Statistics.add_failures] at hle
    have hhere := hmet storage List.mem_cons_self
    have hfail₁ : a₁.statistics.failures = 0 := by omega
    obtain ⟨hadvances, -⟩ := walk.completed hdir hunique hlists htruth hfail₁ hhere hu hfoot
    have hafresh : Repeats final base a.afresh b.afresh := ⟨hrep.files, rfl, hrep.unasked⟩
    have hwalk : ∀ {r b₁}, Walk.Course q.walk q.destination storage.id (.container q.depth none)
        [] [] b.afresh r b₁ → r = .ok () ∧ Repeats final base a₁ b₁ := by
      intro r b₁ walk'
      rw [hq.destination, hdepth] at walk'
      exact walk.repeated hfinal hq.includeAbstract habstract hsize hdir hunique hlists htruth
        hlists' hfail₁ hhere hu hfoot hfoot' walk' hafresh
    cases hr' with
    | @next _ _ _ b₁ _ _ _ walk' others' =>
      obtain ⟨-, hrep₁⟩ := hwalk walk'
      refine ih hresult ?_ (fun s hs => hmet s (List.mem_cons_of_mem _ hs)) hadvances.underway
        (hfoot.preserved hadvances.preserves hadvances.linkFree) others'
        (fun s hs => htold s (List.mem_cons_of_mem _ hs)) ⟨hrep₁.files, ?_, hrep₁.unasked⟩
      · show a'.statistics.failures = a.statistics.failures + a₁.statistics.failures
        omega
      · rw [Account.since_statistics, Account.since_statistics, hrep.statistics, hrep₁.statistics,
          Statistics.repeated_add]
    | stopped _ walk' => cases (hwalk walk').1
    | untold huntold =>
      rw [htold storage List.mem_cons_self] at huntold
      cases huntold
  | stopped | untold => cases hresult

/-- **A second run has nothing to do.**  Suppose that a run returns without a failure, from a device
that lists the same whatever it was asked before and whose files have their declared sizes.  Then
a second run over such a device, with fetches that may do anything, returns and asks for no content
if it can draw and introduce what the first one did.  It leaves the files as they are and counts the
same, but everything that was fetched as up to date. -/
theorem run_repeated (p : Plan σ) {h : Hierarchy} (hlists : p.remote.Lists h)
    (htruth : p.remote.IsTruthful h) {w w₁ : World σ} {top : Location}
    (hs : Setting p h w.files top) (hsized : Sized p h) {s : RunStatistics}
    (hfirst : (start p).run w = (.ok s, w₁)) (hfail : s.total.failures = 0) (q : Plan τ)
    (hq : q.Matches p) (hdraws : q.DrawsLike p) (hdepth : q.depth = p.depth)
    (hlists' : q.remote.Lists h) (v : World τ) (hv : v.files = w₁.files) :
    ∃ v', (start q).run v = (.ok ⟨s.total.repeated, s.storages⟩, v') ∧
      s.total.repeated.failures = 0 ∧ v'.files = v.files ∧ Unasked v.steps v'.steps := by
  obtain ⟨result₁, w₁', a₁, hrun₁, hends₁, hfiles₁, -, -⟩ := run_start p w
  rw [hfirst] at hrun₁
  cases hrun₁
  obtain ⟨result₂, v', b₁, hrun₂, hends₂, hfiles₂, -, hsteps₂⟩ := run_start q v
  obtain ⟨hreplicated, hpreserves, hlinkFree⟩ := hends₁.replicated hlists hs htruth rfl hfail
  have hfoot : Foothold w.files p.destination top [] := hs.foothold
  have hfoot' : Foothold a₁.files p.destination top [] := hfoot.preserved hpreserves hlinkFree
  obtain ⟨habsent, a₀, hfiles₀, -, hstatistics₀, -, hrounds, rfl⟩ := hends₁.rounds hlists
  rw [hfiles₁] at hv
  have hleads : v.files.Leads q.destination top := by
    rw [hv, hq.destination]
    simpa using hfoot'.leads
  have hqdraws : q.Draws h := (hends₁.draws hlists).like hdraws hdepth (hq.chosen _)
  obtain ⟨b, r, hbfiles, hbsteps, hbstatistics, -, rounds, hreturns⟩ := hends₂.makesRounds hlists'
    hqdraws (hq.absent h.storages ▸ habsent) (Plan.checked_of_leads hleads)
  rw [hq.chosen] at rounds hreturns
  have hunasked : Unasked v.steps b.steps := by
    rw [hbsteps]
    exact Unasked.refl _
  obtain ⟨rfl, hrep⟩ := hrounds.repeated hs.noDirectory hs.unique hlists htruth hlists' hq hdepth
    hsized.noAbstract hsized.declared hreplicated hfoot' rfl (by rw [hstatistics₀]; exact hfail)
    (fun s hmem names n hn => ⟨s, hmem, hn⟩) (hfiles₀ ▸ Underway.refl _) (hfiles₀ ▸ hfoot) rounds
    (hq.chosen _ ▸ hqdraws.told)
    ⟨hbfiles.trans hv, by rw [hbstatistics, hstatistics₀]; rfl, hunasked⟩
  refine ⟨v', ?_, hfail, ?_, ?_⟩
  · rw [hrun₂, hreturns rfl, hrep.statistics]
  · rw [hfiles₂, hrep.files, hv]
  · rw [hsteps₂]
    exact hrep.unasked

/-- The sample device after a fault: it lists the same, and every fetch of its file fails. -/
def faultyDevice : InMemory := { sampleDevice with failingFetches := [2] }

lemma faulty_lists : faultyDevice.remote.Lists sampleHierarchy :=
  InMemory.lists rfl (by rfl)

/-- A run that copies it. -/
def faultyPlan : Plan (List String) := { samplePlan with remote := faultyDevice.remote }

/-- The world after the run of the sample. -/
def copiedWorld : World (List String) := ((start samplePlan).run sampleWorld).2

/-- The second run does not notice that the file cannot be fetched any more. -/
theorem run_repeated_sample :
    ∃ v', (start faultyPlan).run copiedWorld = (.ok ⟨⟨1, 1, 0, 1, 0, 0, 1⟩, 1⟩, v') ∧
      v'.files = copiedWorld.files ∧ Unasked copiedWorld.steps v'.steps := by
  have hfirst : (start samplePlan).run sampleWorld =
      (.ok ⟨⟨1, 1, 1, 0, 0, 0, 1⟩, 1⟩, copiedWorld) := samplePlan_returns
  have hmatches : faultyPlan.Matches samplePlan := ⟨rfl, rfl, rfl⟩
  obtain ⟨v', hrun, -, hfiles, hunasked⟩ := run_repeated samplePlan sample_lists
    sample_delivers.isTruthful (sample_setting sampleWorld_leads) (sample_sized rfl) hfirst rfl
    faultyPlan hmatches ⟨fun _ hdrawn => hdrawn, fun _ htold => htold⟩ (by rfl) faulty_lists
    copiedWorld (by rfl)
  exact ⟨v', hrun, hfiles, hunasked⟩

end Run

end Replica
