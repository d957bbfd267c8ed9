import Replica.Proofs.Census
import Replica.Proofs.Repetition
/-!
# Remote trees whose fetches answer the same every time

A fetch may fail, and it may leave anything where the file was to be put.  A `Reaction` says what it
answers and leaves, from the file, the path and what stood there before; nothing else matters, and
no other place is touched.  Directories and links are safe from it.

* **Fetches.**  `Remote.Reacts` says that a remote tree fetches so, and `Foothold.fetched` what that
  comes to where a walk stands.
* **Fates.**  What becomes of a file follows from what stands at its place (`Walk.Befalls.verdict`,
  `Walk.Befalls.due`).
* **Tours.**  A tour leaves directories and links as they are (`Walk.Makes.stays`), so a walk that
  had a foothold has it still, and comes back from every folder that it can go down into
  (`Walk.Course.gone_through`).
* **Devices in memory.**  They fetch in such a way (`InMemory.reacts`).  `InMemory.broken` is a
  device in which more goes wrong.
-/

namespace Replica

open FileSystem (LinkFree Stays sizeAt)

variable {σ : Type}

/-- How files are fetched: what the remote tree answers, and what it leaves at the place of the
file. -/
structure Reaction where
  answer : Node → Path → Option Entry → Except Failure Bool
  leaves : Node → Path → Option Entry → Option Entry
  /-- A directory stays. -/
  directory : ∀ n path, leaves n path (some .directory) = some .directory
  /-- No link is put there. -/
  link : ∀ n path old t, leaves n path old = some (.link t) → old = some (.link t)

/-- Fetches to places where a file can be written have this reaction and touch nothing else, neither
what stands elsewhere nor the permissions. -/
def Remote.Reacts (r : Remote σ) (f : Reaction) : Prop :=
  ∀ n path l name other files, files.Site path l name → files.Takes path l name →
    (r.fetch n (path.below [name]) other files).1 =
        f.answer n (path.below [name]) (files.get? (l ++ [name])) ∧
      (r.fetch n (path.below [name]) other files).2.files.closed = files.closed ∧
      ∀ l', (r.fetch n (path.below [name]) other files).2.files.get? l' =
        if l' = l ++ [name] then f.leaves n (path.below [name]) (files.get? (l ++ [name]))
        else files.get? l'

section Fetched

variable {r : Remote σ} {f : Reaction} {files : FileSystem} {root : Path} {top : Location}
  {above : List String} {name : String} {n : Node} {other : σ} {result : Except Failure Bool}
  {w : World σ}

/-- What a fetch answers and leaves where a walk stands. -/
lemma Foothold.fetched (hfoot : Foothold files root top above) (hr : r.Reacts f)
    (hseg : isSegment name = true) (htakes : files.Takes (root.below above) (top ++ above) name)
    (answer : r.fetch n (LocalDirectory.pathFor ⟨root, above⟩ name) other files = (result, w)) :
    result = f.answer n (LocalDirectory.pathFor ⟨root, above⟩ name)
        (files.get? (top ++ above ++ [name])) ∧
      w.files.closed = files.closed ∧
      ∀ l, w.files.get? l = if l = top ++ above ++ [name] then
        f.leaves n (LocalDirectory.pathFor ⟨root, above⟩ name)
          (files.get? (top ++ above ++ [name])) else files.get? l := by
  rw [hfoot.pathFor hseg] at answer ⊢
  have hreaction := hr n (root.below above) (top ++ above) name other files (hfoot.site hseg) htakes
  rwa [answer] at hreaction

/-- A fetch leaves directories and links as they are. -/
lemma Foothold.stays_fetched (hfoot : Foothold files root top above) (hr : r.Reacts f)
    (hseg : isSegment name = true) (htakes : files.Takes (root.below above) (top ++ above) name)
    (answer : r.fetch n (LocalDirectory.pathFor ⟨root, above⟩ name) other files = (result, w)) :
    Stays files w.files ∧ w.files.LinkFree top := by
  obtain ⟨-, hclosed, hleaves⟩ := hfoot.fetched hr hseg htakes answer
  have hnoLink := (hfoot.site hseg).noLink
  refine ⟨⟨hclosed, fun l hl => ?_, fun l t hl => ?_⟩, fun names t hlink => ?_⟩
  · rw [hleaves]
    split_ifs with heq
    · rw [heq] at hl
      rw [hl, f.directory]
    · exact hl
  · have helsewhere : l ≠ top ++ above ++ [name] := by
      rintro rfl
      exact hnoLink t hl
    rw [hleaves, if_neg helsewhere, hl]
  · rw [hleaves] at hlink
    split_ifs at hlink
    · exact hnoLink t (f.link _ _ _ _ hlink)
    · exact hfoot.linkFree names t hlink

/-- A directory can be made where it could be made among other files, if the same stands at its
place. -/
lemma Foothold.made_alike {files₁ files' : FileSystem} (hfoot : Foothold files root top above)
    (hfoot₁ : Foothold files₁ root top above) (hseg : isSegment name = true)
    (hmade : LocalDirectory.made ⟨root, above⟩ name files = .ok files')
    (hclosed : files₁.closed = files.closed)
    (hsame : files₁.get? (top ++ above ++ [name]) = files.get? (top ++ above ++ [name])) :
    ∃ files₁', LocalDirectory.made ⟨root, above⟩ name files₁ = .ok files₁' ∧
      ∀ l, files₁.get? l = files.get? l → files₁'.get? l = files'.get? l := by
  obtain ⟨htakes, hthere⟩ := (hfoot.made hseg).mp hmade
  replace htakes := htakes.congr hclosed
  obtain ⟨files₁', hmade₁⟩ :
      ∃ files₁', LocalDirectory.made ⟨root, above⟩ name files₁ = .ok files₁' := by
    rcases hthere with ⟨habsent, -⟩ | ⟨hdirectory, -⟩
    · exact ⟨_, (hfoot₁.made hseg).mpr ⟨htakes, .inl ⟨hsame.trans habsent, rfl⟩⟩⟩
    · exact ⟨_, (hfoot₁.made hseg).mpr ⟨htakes, .inr ⟨hsame.trans hdirectory, rfl⟩⟩⟩
  refine ⟨files₁', hmade₁, fun l hl => ?_⟩
  by_cases heq : l = top ++ above ++ [name]
  · rw [heq, (hfoot.get?_made hseg hmade).1, (hfoot₁.get?_made hseg hmade₁).1]
  · rw [(hfoot.get?_made hseg hmade).2 l heq, (hfoot₁.get?_made hseg hmade₁).2 l heq, hl]

end Fetched

/-- What a file needs that has this fate, if it has a usable name. -/
def Fate.verdict? : Fate → Option Walk.Verdict
  | .unusable => none
  | .upToDate => some .upToDate
  | .leftOut => some .leftOut
  | .fetched | .missed => some .due

namespace Walk

variable {p : Plan σ} {h : Hierarchy} {f : Reaction} {root : Path} {storage : Int} {top : Location}
  {above : List String} {ids : List Int} {child : Node} {fate : Fate} {t : Tour}
  {x x' : Position σ} {size : Option Nat} {files : FileSystem}

/-! ## Fates -/

/-- A file is abstract and left out unless it is up to date or due. -/
lemma Plan.verdict_eq_leftOut
    (hdiffers : ∀ n, size = some n → child.declaredSize ≠ some (n : Int))
    (habstract : child.isAbstract = true) (hexcluded : p.includeAbstract = false) :
    p.verdict child size = .leftOut := by
  have hnot : p.verdict child size ≠ .upToDate := fun hsame => by
    obtain ⟨n, hn, hd⟩ := Plan.verdict_eq_upToDate.mp hsame
    exact hdiffers n hn hd
  have hnotDue : p.verdict child size ≠ .due := fun hdue => by
    have hincluded := (Plan.verdict_eq_due.mp hdue).2 habstract
    rw [hexcluded] at hincluded
    cases hincluded
  cases hv : p.verdict child size with
  | upToDate => exact absurd hv hnot
  | due => exact absurd hv hnotDue
  | leftOut => rfl

/-- A file that differs and is wanted is due. -/
lemma Plan.verdict_of_differs
    (hdiffers : ∀ n, size = some n → child.declaredSize ≠ some (n : Int))
    (hwanted : child.isAbstract = true → p.includeAbstract = true) :
    p.verdict child size = .due := by
  refine Plan.verdict_eq_due.mpr ⟨fun hsame => ?_, hwanted⟩
  obtain ⟨n, hn, hd⟩ := Plan.verdict_eq_upToDate.mp hsame
  exact hdiffers n hn hd

/-- The fate of a child with a usable name agrees with what it needs. -/
lemma Befalls.verdict (hb : Befalls p root above child fate x x') :
    fate = .unusable ∧ isUsableName child.name = .ok false ∨
      ∃ size, Faces root above child x.files size ∧
        fate.verdict? = some (p.verdict child size) := by
  cases hb with
  | unusable hname => exact .inl ⟨rfl, hname⟩
  | upToDate faces same =>
    exact .inr ⟨_, faces, congrArg some (Plan.verdict_eq_upToDate.mpr ⟨_, rfl, same⟩).symm⟩
  | leftOut faces differs habstract excluded =>
    exact .inr ⟨_, faces, congrArg some (Plan.verdict_eq_leftOut differs habstract excluded).symm⟩
  | fetched faces differs wanted =>
    exact .inr ⟨_, faces, congrArg some (Plan.verdict_of_differs differs wanted).symm⟩
  | missed faces differs wanted =>
    exact .inr ⟨_, faces, congrArg some (Plan.verdict_of_differs differs wanted).symm⟩

/-- A child that is not due leaves the files as they are. -/
lemma Befalls.idle (hb : Befalls p root above child fate x x') (hfate : fate.verdict? ≠ some .due) :
    x'.files = x.files := by
  cases hb with
  | unusable | upToDate | leftOut => rfl
  | fetched | missed => exact absurd rfl hfate

/-- A child that is due is asked for, and its fate is the answer. -/
lemma Befalls.due (hb : Befalls p root above child fate x x') (hfate : fate.verdict? = some .due) :
    ∃ w, p.remote.fetch child (LocalDirectory.pathFor ⟨root, above⟩ child.name.display) x.other
      x.files = (.ok (decide (fate = .fetched)), w) ∧ x'.files = w.files := by
  cases hb with
  | unusable | upToDate | leftOut => cases hfate
  | fetched _ _ _ answer | missed _ _ _ answer => exact ⟨_, answer, rfl⟩

/-- What a file faces depends on what stands at its place. -/
lemma Faces.of_foothold {files' : FileSystem} (hfaces : Faces root above child files size)
    (hfoot : Foothold files root top above) (hfoot' : Foothold files' root top above)
    (hclosed : files'.closed = files.closed)
    (hsame : files'.get? (top ++ above ++ [child.name.display]) =
      files.get? (top ++ above ++ [child.name.display])) :
    Faces root above child files' size := by
  obtain ⟨htakes, rfl⟩ := hfoot.inspected hfaces.calls.segment hfaces.size
  refine ⟨hfaces.file, hfaces.calls, hfaces.text, ?_⟩
  rw [← hsame]
  exact hfoot'.inspected_of_takes hfaces.calls.segment (htakes.congr hclosed)

lemma Faces.unique {size' : Option Nat} (hfaces : Faces root above child files size)
    (hfaces' : Faces root above child files size') : size' = size :=
  Except.ok.inj (hfaces'.size.symm.trans hfaces.size)

section Stopped

variable {a a' : Account σ} {failure : Failure}

/-- A name that cannot be used does not stop a walk. -/
lemma not_halt_unusable (hname : isUsableName child.name = .ok false) :
    ¬Halt p root above ids child a failure a' := by
  have hnot : ∀ name, ¬child.Calls name := fun name => not_calls hname
  intro hh
  cases hh with
  | unreadable hname' =>
    rw [hname] at hname'
    cases hname'
  | cycle husable | unnamedFolder husable | oversized husable | unnamedFile husable =>
    rw [hname] at husable
    cases husable
  | notMade hcalls | notEntered hcalls | notInspected hcalls => exact hnot _ hcalls
  | fetchFailed hl | tooMany hl => exact hnot _ hl.calls

/-- A file whose local entry can be inspected stops a walk only if it is due. -/
lemma Halt.of_faces (hh : Halt p root above ids child a failure a')
    (hfaces : Faces root above child a.files size) :
    p.verdict child size = .due ∧ ∃ w,
      p.remote.fetch child (LocalDirectory.pathFor ⟨root, above⟩ child.name.display) a.other
          a.files = (.error failure, w) ∨
        p.remote.fetch child (LocalDirectory.pathFor ⟨root, above⟩ child.name.display) a.other
          a.files = (.ok false, w) ∧ a.missed.budget.exceeded = true := by
  obtain ⟨hfile, hcalls, ⟨text, htext⟩, hsize⟩ := hfaces
  have hnofolder : child.isContainer ≠ true := by simp [hfile]
  cases hh with
  | unreadable hname =>
    rw [hcalls.text] at hname
    cases hname
  | cycle _ hfolder | unnamedFolder _ hfolder | notMade _ hfolder | notEntered _ hfolder =>
    exact absurd hfolder hnofolder
  | oversized _ _ hoversized =>
    rw [htext] at hoversized
    cases hoversized
  | unnamedFile _ _ hnotext => exact absurd hcalls.text (hnotext _)
  | notInspected hcalls' _ hinspected =>
    rw [hcalls'.unique hcalls, hsize] at hinspected
    cases hinspected
  | fetchFailed hl answer =>
    obtain ⟨size', hfaces', hverdict, rfl⟩ := hl.faces
    obtain rfl := Except.ok.inj (hfaces'.size.symm.trans hsize)
    exact ⟨hverdict, _, .inl answer⟩
  | tooMany hl answer hexceeded =>
    obtain ⟨size', hfaces', hverdict, rfl⟩ := hl.faces
    obtain rfl := Except.ok.inj (hfaces'.size.symm.trans hsize)
    exact ⟨hverdict, _, .inr ⟨answer, hexceeded⟩⟩

end Stopped

/-! ## Tours -/

lemma Befalls.stays (hr : p.remote.Reacts f) (hb : Befalls p root above child fate x x')
    (hfoot : Foothold x.files root top above) :
    Stays x.files x'.files ∧ x'.files.LinkFree top := by
  by_cases hfate : fate.verdict? = some .due
  · obtain ⟨w, answer, hfiles⟩ := hb.due hfate
    rcases hb.verdict with ⟨rfl, -⟩ | ⟨size, hfaces, -⟩
    · cases hfate
    · rw [hfiles]
      exact hfoot.stays_fetched hr hfaces.calls.segment
        (hfoot.inspected hfaces.calls.segment hfaces.size).1 answer
  · rw [hb.idle hfate]
    exact ⟨.refl _, hfoot.linkFree⟩

/-- **A tour leaves directories and links as they are**, wherever it has a foothold. -/
theorem Makes.stays (hlists : p.remote.Lists h) (hr : p.remote.Reacts f)
    (ht : Makes p root storage above ids t x x') (hfoot : Foothold x.files root top above) :
    Stays x.files x'.files ∧ x'.files.LinkFree top := by
  induction ht with
  | done => exact ⟨.refl _, hfoot.linkFree⟩
  | leaf hmeets _ ih =>
    obtain ⟨hstays₁, hlinkFree₁⟩ := hmeets.stays hr hfoot
    obtain ⟨hstays₂, hlinkFree₂⟩ := ih (hfoot.stays hstays₁ hlinkFree₁)
    exact ⟨hstays₁.trans hstays₂, hlinkFree₂⟩
  | folder hcalls _ _ hmade _ answer _ _ _ ih₁ ih₂ =>
    have hstays := (hfoot.preserves_made hcalls.segment hmade).1.stays
    have hfoot₁ := hfoot.below hcalls.segment hmade
    rw [← (hlists.eq_listing answer).2] at hstays hfoot₁
    obtain ⟨hstays₁, hlinkFree₁⟩ := ih₁ hfoot₁
    have hinner := hstays.trans hstays₁
    obtain ⟨hstays₂, hlinkFree₂⟩ := ih₂ (hfoot.stays hinner hlinkFree₁)
    exact ⟨hinner.trans hstays₂, hlinkFree₂⟩

/-- A folder whose directory can be made is gone through, if a walk makes a tour of what is below it
wherever that directory was made. -/
lemma Course.gone_through {levels bound : Nat} {a a' : Account σ} {result : Except Stop Unit}
    {P : FileSystem → Prop} (hlists : p.remote.Lists h) (hr : p.remote.Reacts f)
    (hcalls : child.Calls child.name.display) (hfolder : child.isContainer = true)
    (houtside : child.id ∉ ids) (hfoot : Foothold a.files root top above)
    (hmade : LocalDirectory.made ⟨root, above⟩ child.name.display a.files = .ok files)
    (hchildren : t.children = h.listing storage (some child.id)) (hbound : bound < levels)
    (hinner : ∀ {m c r c'}, Course p root storage (.children m t.children)
        (above ++ [child.name.display]) (child.id :: ids) c r c' → bound ≤ m → c.files = files →
      c.budget = a.budget → r = .ok () ∧
        Tracks p root storage m (above ++ [child.name.display]) (child.id :: ids) t c c' ∧
          P c'.files)
    (hc : Course p root storage (.child levels child) above ids a result a') :
    result = .ok () ∧ Tracks p root storage levels above ids (.folder child t .done) a a' ∧
      P a'.files := by
  -- the walk can only go through the folder, and what is listed there are the tour's children
  cases hc with
  | deed hd =>
    rw [hd.isFile hcalls] at hfolder
    cases hfolder
  | halt hh =>
    exact absurd hh (not_halt_folder (b := a.note (spot above ids) (.taken child)) hcalls hfolder
      houtside hfoot hmade)
  | @through _ _ name files₁ _ _ _ inner a₁ _ _ hcalls₁ _ _ hmade₁ hentered₁ hcourse hback =>
    obtain rfl := hcalls₁.unique hcalls
    obtain rfl : files₁ = files := Except.ok.inj (hmade₁.symm.trans hmade)
    cases hcourse with
    | tooDeep => exact absurd hbound (Nat.not_lt_zero _)
    | unlisted answer => cases (hlists.eq_listing answer).1
    | @listed m _ _ _ _ children w _ _ answer turns =>
      obtain ⟨hlisted, hfiles⟩ := hlists.eq_listing answer
      obtain rfl : children = t.children := (Except.ok.inj hlisted).trans hchildren.symm
      obtain rfl : w.files = files₁ := hfiles
      obtain ⟨rfl, htracks, hP⟩ := hinner turns (Nat.le_of_lt_succ hbound) rfl rfl
      have hbelow := hfoot.below hcalls.segment hmade
      obtain ⟨hstays, hlinkFree⟩ := htracks.makes.stays hlists hr hbelow
      have hleft := (hbelow.stays hstays hlinkFree).left
      cases hback with
      | lost hlost => cases hleft.symm.trans hlost
      | back =>
        exact ⟨rfl, .folder hcalls hfolder houtside hmade hentered₁ answer htracks hleft, hP⟩

end Walk

/-! ## Devices in memory -/

namespace InMemory

open FileSystem (modeOver)

/-- How a device in memory fetches. -/
def reaction (m : InMemory) : Reaction where
  answer n path old :=
    if m.failingFetches.contains n.id then .ok false
    else if old = some .directory then .error (.ofPathFault path (.system .isDirectory))
    else .ok true
  leaves n _ old :=
    if m.failingFetches.contains n.id ∨ old = some .directory then old
    else some (.file (contentOf n) (modeOver old))
  directory n path := by simp
  link n path old t h := by
    split_ifs at h
    · exact h
    · cases h

variable {m : InMemory}

lemma reacts : m.remote.Reacts m.reaction := by
  intro n path l name errors files hsite htakes
  show (m.fetch n (path.below [name]) errors files).1 = _ ∧
    (m.fetch n (path.below [name]) errors files).2.files.closed = _ ∧
    ∀ l', (m.fetch n (path.below [name]) errors files).2.files.get? l' = _
  have huntouched : ∀ kept, kept = files.get? (l ++ [name]) → ∀ l',
      files.get? l' = if l' = l ++ [name] then kept else files.get? l' := by
    rintro kept rfl l'
    split_ifs with heq
    · rw [heq]
    · rfl
  by_cases hfailing : m.failingFetches.contains n.id = true
  · rw [fetch, if_pos hfailing]
    exact ⟨(if_pos hfailing).symm, rfl, huntouched _ (if_pos (.inl hfailing))⟩
  rw [fetch, if_neg hfailing]
  by_cases hdirectory : files.get? (l ++ [name]) = some .directory
  · have hrefused : files.writeFile (path.below [name]) (contentOf n) =
        .error (.system .isDirectory) := by
      rw [hsite.writeFile, if_pos htakes, hdirectory]
    rw [hrefused]
    exact ⟨((if_neg hfailing).trans (if_pos hdirectory)).symm, rfl,
      huntouched _ (if_pos (.inr hdirectory))⟩
  · have hwritten : files.writeFile (path.below [name]) (contentOf n) = .ok _ :=
      hsite.writeFile_eq_ok_iff.mpr ⟨htakes, hdirectory, rfl⟩
    rw [hwritten]
    refine ⟨((if_neg hfailing).trans (if_neg hdirectory)).symm, rfl, fun l' => ?_⟩
    have hleaves : m.reaction.leaves n (path.below [name]) (files.get? (l ++ [name])) =
        some (.file (contentOf n) (modeOver (files.get? (l ++ [name])))) :=
      if_neg (not_or.mpr ⟨hfailing, hdirectory⟩)
    rw [hleaves]
    split_ifs with heq
    · rw [heq, FileSystem.get?_set_self]
    · exact FileSystem.get?_set_of_ne heq _

/-- A device with more listings and more fetches that fail. -/
def broken (m : InMemory) (containers : List (Option Int)) (ids : List Int) : InMemory :=
  { m with
    failingLists := m.failingLists ++ containers
    failingFetches := m.failingFetches ++ ids }

variable {containers : List (Option Int)} {ids : List Int}

/-- Where listings fail that were empty, the listings are the same. -/
lemma hierarchy_broken (hempty : ∀ c ∈ containers, ∀ storage, m.childrenOf storage c = [])
    (storages : List Storage) :
    (m.broken containers ids).hierarchy storages = m.hierarchy storages := by
  have hchildren : (m.broken containers ids).childrenOf = m.childrenOf := rfl
  simp only [hierarchy, hchildren, Hierarchy.mk.injEq, true_and, and_true]
  funext storage c
  by_cases hc : c ∈ containers
  · simp [broken, hc, hempty c hc]
  · simp [broken, hc]

end InMemory

end Replica
