import Replica.Proofs.Hierarchy
import Replica.Proofs.Rounds
/-!
# What a run that succeeds has done

A run that returns without a failure has been to every node of its hierarchy, and what it leaves
is determined by what was there before.

* **States on the way.**  `Underway` relates the files before a run and at any time in it: what
  stands at the place of a node is as it was or as some relation allows, and all else is as it
  was.  Folders and files each change one place (`Underway.made`, `Underway.put`).
* **Completion.**  `Plan.IsDone` says that a node has its final state.  `Course.completed` shows
  that a course that ends without a failure leaves every node that it meets done, and none undone.
* **Runs.**  `Replicated` is the state after a whole run.
-/

namespace Replica

open FileSystem (LinkFree Preserves modeOver sizeAt)

/-- No file shares its place with another node. -/
def Unique (met : List String → Node → Prop) : Prop :=
  ∀ above n m name, met above n → met above m → n.Calls name → m.Calls name →
    n.isContainer = false → m = n

/-- No directory stands at the place of a file. -/
def NoDirectory (met : List String → Node → Prop) (top : Location) (files : FileSystem) : Prop :=
  ∀ above n name, met above n → n.Calls name → n.isContainer = false →
    files.get? (top ++ above ++ [name]) ≠ some .directory

/-- No file stands at the place of a folder. -/
def NoFile (met : List String → Node → Prop) (top : Location) (files : FileSystem) : Prop :=
  ∀ above n name, met above n → n.Calls name → n.isContainer = true →
    ∀ c m, files.get? (top ++ above ++ [name]) ≠ some (.file c m)

/-- The files at some time in a run: folders may have got their directories, files may have
become what `allowed` says, and everything else is as it was, the permissions too. -/
structure Underway (met : List String → Node → Prop)
    (allowed : Node → Option Entry → Option Entry → Prop) (top : Location)
    (before after : FileSystem) : Prop where
  folder : ∀ above n name, met above n → n.Calls name → n.isContainer = true →
    after.get? (top ++ above ++ [name]) = before.get? (top ++ above ++ [name]) ∨
      after.get? (top ++ above ++ [name]) = some .directory
  file : ∀ above n name, met above n → n.Calls name → n.isContainer = false →
    after.get? (top ++ above ++ [name]) = before.get? (top ++ above ++ [name]) ∨
      allowed n (before.get? (top ++ above ++ [name])) (after.get? (top ++ above ++ [name]))
  rest : ∀ l, (∀ above n name, met above n → n.Calls name → l ≠ top ++ above ++ [name]) →
    after.get? l = before.get? l
  closed : after.closed = before.closed

namespace Underway

variable {met : List String → Node → Prop} {allowed : Node → Option Entry → Option Entry → Prop}
  {top : Location} {before after after' : FileSystem} {above above' : List String} {n : Node}
  {name name' : String}

lemma refl (before : FileSystem) : Underway met allowed top before before :=
  ⟨fun _ _ _ _ _ _ => .inl rfl, fun _ _ _ _ _ _ => .inl rfl, fun _ _ => rfl, rfl⟩

/-- Places are equal only if directories and names are. -/
lemma place_inj (h : top ++ above ++ [name] = top ++ above' ++ [name']) :
    above = above' ∧ name = name' := by
  rw [List.append_assoc, List.append_assoc, List.append_cancel_left_eq] at h
  exact ⟨(List.append_inj' h rfl).1, by simpa using (List.append_inj' h rfl).2⟩

/-- The directory of a folder is made. -/
lemma made (h : Underway met allowed top before after) (hunique : Unique met)
    (hmet : met above n) (hcalls : n.Calls name) (hfolder : n.isContainer = true)
    (hdir : after'.get? (top ++ above ++ [name]) = some .directory)
    (hother : ∀ l, l ≠ top ++ above ++ [name] → after'.get? l = after.get? l)
    (hclosed : after'.closed = after.closed) : Underway met allowed top before after' := by
  refine ⟨fun above' m name' hm hc hf => ?_, fun above' m name' hm hc hf => ?_, fun l hl => ?_,
    hclosed.trans h.closed⟩
  · by_cases heq : top ++ above' ++ [name'] = top ++ above ++ [name]
    · exact .inr (heq ▸ hdir)
    · rw [hother _ heq]
      exact h.folder above' m name' hm hc hf
  · have hne : top ++ above' ++ [name'] ≠ top ++ above ++ [name] := by
      intro heq
      obtain ⟨rfl, rfl⟩ := place_inj heq
      -- a file at the place of the folder would be the folder
      obtain rfl := hunique _ _ _ _ hm hmet hc hcalls hf
      rw [hf] at hfolder
      cases hfolder
    rw [hother _ hne]
    exact h.file above' m name' hm hc hf
  · rw [hother l (hl above n name hmet hcalls)]
    exact h.rest l hl

/-- What stands at the place of a file changes. -/
lemma put (h : Underway met allowed top before after) (hunique : Unique met)
    (hmet : met above n) (hcalls : n.Calls name) (hfile : n.isContainer = false)
    (hat : allowed n (before.get? (top ++ above ++ [name])) (after'.get? (top ++ above ++ [name])))
    (hother : ∀ l, l ≠ top ++ above ++ [name] → after'.get? l = after.get? l)
    (hclosed : after'.closed = after.closed) : Underway met allowed top before after' := by
  refine ⟨fun above' m name' hm hc hf => ?_, fun above' m name' hm hc hf => ?_, fun l hl => ?_,
    hclosed.trans h.closed⟩
  · have hne : top ++ above' ++ [name'] ≠ top ++ above ++ [name] := by
      intro heq
      obtain ⟨rfl, rfl⟩ := place_inj heq
      obtain rfl := hunique _ _ _ _ hmet hm hcalls hc hfile
      rw [hf] at hfile
      cases hfile
    rw [hother _ hne]
    exact h.folder above' m name' hm hc hf
  · by_cases heq : top ++ above' ++ [name'] = top ++ above ++ [name]
    · obtain ⟨rfl, rfl⟩ := place_inj heq
      obtain rfl := hunique _ _ _ _ hmet hm hcalls hc hfile
      exact .inr hat
    · rw [hother _ heq]
      exact h.file above' m name' hm hc hf
  · rw [hother l (hl above n name hmet hcalls)]
    exact h.rest l hl

end Underway

namespace Walk

variable {σ : Type} {p : Plan σ} {h : Hierarchy} {root : Path} {storage : Int} {top : Location}
  {met : List String → Node → Prop} {before : FileSystem} {child n : Node} {above : List String}
  {ids : List Int} {a a' : Account σ} {name : String}

/-! ## Courses that end -/

/-- Induction on a course that ends: the rules by which it stops do not apply. -/
@[elab_as_elim]
theorem Course.induction_ok
    {motive : ∀ {task above ids a a'}, Course p root storage task above ids a (.ok ()) a' → Prop}
    (listed : ∀ {levels : Nat} {container : Option Int} {above : List String} {ids : List Int}
      {a a' : Account σ} {children : List Node} {w : World σ}
      (answer : p.remote.listChildren storage container a.other a.files = (.ok children, w))
      (turns : Course p root storage (.children levels children) above (inside container ids)
        (a.listed p (spot above (inside container ids)) storage container children w) (.ok ()) a'),
      motive turns → motive (Course.listed answer turns))
    (done : ∀ {levels : Nat} {above : List String} {ids : List Int} {a : Account σ},
      motive (@Course.done σ p root storage levels above ids a))
    (next : ∀ {levels : Nat} {child : Node} {rest : List Node} {above : List String}
      {ids : List Int} {a a₁ a' : Account σ}
      (first : Course p root storage (.child levels child) above ids a (.ok ()) a₁)
      (others : Course p root storage (.children levels rest) above ids a₁ (.ok ()) a'),
      motive first → motive others → motive (Course.next first others))
    (deed : ∀ {levels : Nat} {child : Node} {above : List String} {ids : List Int}
      {a a' : Account σ}
      (deed : Deed p root above ids child (a.note (spot above ids) (.taken child)) a'),
      motive (@Course.deed σ p root storage levels child above ids a a' deed))
    (through : ∀ {levels : Nat} {child : Node} {name : String} {files : FileSystem}
      {above : List String} {ids : List Int} {a a' : Account σ} (calls : child.Calls name)
      (folder : child.isContainer = true) (outside : child.id ∉ ids)
      (made : LocalDirectory.made ⟨root, above⟩ name a.files = .ok files)
      (entered : LocalDirectory.entered ⟨root, above⟩ name files = .ok ⟨root, above ++ [name]⟩)
      (inner : Course p root storage (.container levels (some child.id)) (above ++ [name]) ids
        ((a.note (spot above ids) (.taken child)).entered above ids child name files) (.ok ()) a')
      (left : LocalDirectory.left ⟨root, above ++ [name]⟩ a'.files = .ok ⟨root, above⟩),
      motive inner →
        motive (Course.through calls folder outside made entered inner (.back left)))
    {task : Task} {above : List String} {ids : List Int} {a a' : Account σ}
    (hc : Course p root storage task above ids a (.ok ()) a') : motive hc := by
  -- the result has to vary, since a course that is stopped below is no course that ends
  suffices key : ∀ {task above ids a result a'}
      (hc : Course p root storage task above ids a result a') (hresult : result = .ok ()),
      motive (hresult ▸ hc) from key hc rfl
  intro task above ids a result a' hc
  induction hc with
  | listed answer turns ih =>
    rintro rfl
    exact listed answer turns (ih rfl)
  | done => exact fun _ => done
  | next first others ih₁ ih₂ =>
    rintro rfl
    exact next first others (ih₁ rfl) (ih₂ rfl)
  | deed h => exact fun _ => deed h
  | through calls folder outside made entered inner back ih =>
    rintro rfl
    cases back with
    | back left => exact through calls folder outside made entered inner left (ih rfl)
  | tooDeep | unlisted | stopped | halt => rintro ⟨⟩

/-- Failures are only ever added. -/
lemma Deed.failures_le (hd : Deed p root above ids child a a') :
    a.statistics.failures ≤ a'.statistics.failures := by
  cases hd with
  | miss => exact Nat.le_succ _
  | passOver | skip | leaveOut | fetch => exact Nat.le_refl _

lemma Course.failures_le {task : Task}
    (hc : Course p root storage task above ids a (.ok ()) a') :
    a.statistics.failures ≤ a'.statistics.failures := by
  induction hc using Course.induction_ok with
  | listed _ _ ih => exact ih
  | done => exact Nat.le_refl _
  | next _ _ ih₁ ih₂ => exact Nat.le_trans ih₁ ih₂
  | deed hd => exact hd.failures_le
  | through _ _ _ _ _ _ _ ih => exact ih

/-! ## Files and folders -/

/-- What a file has become once a walk has been there does not change any more. -/
lemma settle_settle {old old' : Option Entry} (hold : old' = old ∨ old' = p.settle h n old) :
    p.settle h n old' = p.settle h n old := by
  rcases hold with rfl | rfl
  · rfl
  by_cases hdue : p.verdict n (sizeAt old) = .due
  · rw [show p.settle h n old = some (.file (h.body n) (modeOver old)) from if_pos hdue]
    simp only [Plan.settle]
    split_ifs <;> rfl
  · rw [show p.settle h n old = old from if_neg hdue]
    exact if_neg hdue

/-- A node without usable name has no place. -/
lemma not_calls (hname : isUsableName child.name = .ok false) : ¬child.Calls name := by
  rintro ⟨htext, hseg⟩
  rw [htext] at hname
  simp [isUsableName, hseg] at hname

/-- Folders with usable names are gone through, so a deed with a usable name is about a file. -/
lemma Deed.isFile (hd : Deed p root above ids child a a') (hcalls : child.Calls name) :
    child.isContainer = false := by
  cases hd with
  | passOver hname => exact absurd hcalls (not_calls hname)
  | skip hl | leaveOut hl | fetch hl | miss hl => exact hl.file

/-- A deed without a failure: there is no usable name, or the file of that name is settled. -/
lemma Deed.settles (htruth : p.remote.IsTruthful h) (hd : Deed p root above ids child a a')
    (hfail : a'.statistics.failures = a.statistics.failures)
    (hfoot : Foothold a.files root top above)
    (hdir : ∀ name, child.Calls name → child.isContainer = false →
      a.files.get? (top ++ above ++ [name]) ≠ some .directory) :
    Preserves a.files a'.files ∧ a'.files.LinkFree top ∧
      ((∀ name, ¬child.Calls name) ∧ a'.files = a.files ∨
        ∃ name, child.Calls name ∧ child.isContainer = false ∧
          a'.files.get? (top ++ above ++ [name]) =
            p.settle h child (a.files.get? (top ++ above ++ [name])) ∧
          ∀ l, l ≠ top ++ above ++ [name] → a'.files.get? l = a.files.get? l) := by
  have hnot : ∀ {name verdict}, Looked p root above child a name verdict → verdict ≠ .due →
      a.files.get? (top ++ above ++ [name]) =
        p.settle h child (a.files.get? (top ++ above ++ [name])) := by
    rintro name verdict hlooked hverdict
    obtain ⟨size, hsize, rfl⟩ := hlooked.size
    obtain ⟨-, rfl⟩ := hfoot.inspected hlooked.calls.segment hsize
    exact (if_neg hverdict).symm
  cases hd with
  | passOver hname =>
    exact ⟨Preserves.refl _, hfoot.linkFree, .inl ⟨fun name => not_calls hname, rfl⟩⟩
  | skip hlooked =>
    exact ⟨Preserves.refl _, hfoot.linkFree, .inr ⟨_, hlooked.calls, hlooked.file,
      hnot hlooked (by simp), fun l _ => rfl⟩⟩
  | leaveOut hlooked =>
    exact ⟨Preserves.refl _, hfoot.linkFree, .inr ⟨_, hlooked.calls, hlooked.file,
      hnot hlooked (by simp), fun l _ => rfl⟩⟩
  | @fetch name w hlooked answer =>
    have hseg := hlooked.calls.segment
    obtain ⟨size, hsize, hverdict⟩ := hlooked.size
    obtain ⟨htakes, rfl⟩ := hfoot.inspected hseg hsize
    have hwrite : a.files.writeFile (LocalDirectory.pathFor ⟨root, above⟩ name) (h.body child) =
        .ok _ := (hfoot.writeFile hseg).mpr
      ⟨htakes, hdir name hlooked.calls hlooked.file, rfl⟩
    have hfiles := htruth child _ a.other a.files _ hwrite (by rw [answer])
    rw [answer] at hfiles
    obtain ⟨hpreserves, hlinkFree⟩ := hfoot.preserves_writeFile hseg hwrite
    rw [← hfiles] at hpreserves hlinkFree
    refine ⟨hpreserves, hlinkFree, .inr ⟨name, hlooked.calls, hlooked.file, ?_, fun l hl => ?_⟩⟩
    · show w.files.get? _ = _
      rw [hfiles, FileSystem.get?_set_self, Plan.settle, if_pos hverdict]
    · show w.files.get? l = _
      rw [hfiles, FileSystem.get?_set_of_ne hl]
  | miss => simp at hfail

/-- The final state of a node, by what stood at its place before. -/
def Plan.IsDone (p : Plan σ) (h : Hierarchy) (before after : FileSystem) (l : Location) (n : Node) :
    Prop :=
  if n.isContainer = true then after.get? l = some .directory
  else after.get? l = p.settle h n (before.get? l)

/-- What has changed does not change again. -/
def Frozen (before files files' : FileSystem) : Prop :=
  ∀ l, files.get? l ≠ before.get? l → files'.get? l = files.get? l

/-- What a course that ends without a failure does to the files. -/
structure Advances (p : Plan σ) (h : Hierarchy) (met : List String → Node → Prop) (top : Location)
    (before files files' : FileSystem) : Prop where
  preserves : Preserves files files'
  linkFree : files'.LinkFree top
  underway : Underway met (p.Settles h) top before files'
  frozen : Frozen before files files'

section Completion

variable {files files' files'' : FileSystem}

lemma Advances.refl (hlinkFree : files.LinkFree top)
    (hu : Underway met (p.Settles h) top before files) :
    Advances p h met top before files files :=
  ⟨Preserves.refl _, hlinkFree, hu, fun _ _ => rfl⟩

lemma Advances.trans (h₁ : Advances p h met top before files files')
    (h₂ : Advances p h met top before files' files'') :
    Advances p h met top before files files'' := by
  refine ⟨h₁.preserves.trans h₂.preserves, h₂.linkFree, h₂.underway, fun l hl => ?_⟩
  have hfirst := h₁.frozen l hl
  rw [h₂.frozen l (hfirst ▸ hl), hfirst]

/-- A node that is done stays done. -/
lemma Advances.isDone (ha : Advances p h met top before files files') (hmet : met above n)
    (hcalls : n.Calls name) (hdone : p.IsDone h before files (top ++ above ++ [name]) n) :
    p.IsDone h before files' (top ++ above ++ [name]) n := by
  rw [Plan.IsDone] at hdone ⊢
  by_cases hfolder : n.isContainer = true
  · rw [if_pos hfolder] at hdone ⊢
    exact ha.preserves.directory _ hdone
  · rw [if_neg hfolder] at hdone ⊢
    by_cases hchanged : files.get? (top ++ above ++ [name]) = before.get? (top ++ above ++ [name])
    · rcases ha.underway.file above n name hmet hcalls (by simpa using hfolder) with
        hsame | hsettled
      · rw [hsame, ← hdone, hchanged]
      · exact hsettled
    · rw [ha.frozen _ hchanged, hdone]

/-- The directory of a folder is made. -/
lemma advances_made (hunique : Unique met)
    (hu : Underway met (p.Settles h) top before files)
    (hfoot : Foothold files root top above) (hmet : met above child) (hcalls : child.Calls name)
    (hfolder : child.isContainer = true)
    (hmade : LocalDirectory.made ⟨root, above⟩ name files = .ok files') :
    Advances p h met top before files files' ∧
      p.IsDone h before files' (top ++ above ++ [name]) child := by
  obtain ⟨hpreserves, hlinkFree⟩ := hfoot.preserves_made hcalls.segment hmade
  obtain ⟨hat, hother⟩ := hfoot.get?_made hcalls.segment hmade
  refine ⟨⟨hpreserves, hlinkFree, hu.made hunique hmet hcalls hfolder hat hother
    hpreserves.closed, ?_⟩, ?_⟩
  · intro l hl
    by_cases heq : l = top ++ above ++ [name]
    · -- a changed place of a folder has its directory already
      subst heq
      rcases hu.folder above child name hmet hcalls hfolder with hsame | hthere
      · exact absurd hsame hl
      · rw [hat, hthere]
    · exact hother l heq
  · rw [Plan.IsDone, if_pos hfolder]
    exact hat

variable (hdir : NoDirectory met top before)
include hdir

/-- No directory comes up at the place of a file. -/
lemma not_directory (hu : Underway met (p.Settles h) top before files)
    (hmet : met above child) (hcalls : child.Calls name) (hfile : child.isContainer = false) :
    files.get? (top ++ above ++ [name]) ≠ some .directory := by
  have hbefore := hdir above child name hmet hcalls hfile
  rcases hu.file above child name hmet hcalls hfile with hsame | hsettled
  · rwa [hsame]
  · rw [hsettled, Plan.settle]
    split_ifs
    · simp
    · exact hbefore

variable (hunique : Unique met)
include hunique

/-- A file is settled. -/
lemma advances_deed (htruth : p.remote.IsTruthful h) (hd : Deed p root above ids child a a')
    (hfail : a'.statistics.failures = a.statistics.failures)
    (hu : Underway met (p.Settles h) top before a.files)
    (hfoot : Foothold a.files root top above) (hmet : met above child) :
    Advances p h met top before a.files a'.files ∧ ∀ name, child.Calls name →
      child.isContainer = false ∧ p.IsDone h before a'.files (top ++ above ++ [name]) child := by
  obtain ⟨hpreserves, hlinkFree, hcase⟩ := hd.settles htruth hfail hfoot
    fun name hcalls hfile => not_directory hdir hu hmet hcalls hfile
  rcases hcase with ⟨hunnamed, hsame⟩ | ⟨name, hcalls, hfile, hat, hother⟩
  · refine ⟨?_, fun name hcalls => absurd hcalls (hunnamed name)⟩
    rw [hsame]
    exact .refl hfoot.linkFree hu
  have hsettled : a'.files.get? (top ++ above ++ [name]) =
      p.settle h child (before.get? (top ++ above ++ [name])) := by
    rw [hat]
    exact settle_settle (hu.file above child name hmet hcalls hfile)
  refine ⟨⟨hpreserves, hlinkFree, hu.put hunique hmet hcalls hfile hsettled hother
    hpreserves.closed, ?_⟩, ?_⟩
  · intro l hl
    by_cases heq : l = top ++ above ++ [name]
    · subst heq
      rcases hu.file above child name hmet hcalls hfile with hsame | hthere
      · exact absurd hsame hl
      · rw [hsettled, hthere]
    · exact hother l heq
  · intro name' hcalls'
    obtain rfl := hcalls'.unique hcalls
    refine ⟨hfile, ?_⟩
    rw [Plan.IsDone, if_neg (by simp [hfile])]
    exact hsettled

/-- **A course that ends without a failure is complete.**  It advances the files, and every node
that it meets is done. -/
theorem Course.completed (hlists : p.remote.Lists h) (htruth : p.remote.IsTruthful h) {task : Task}
    (hc : Course p root storage task above ids a (.ok ()) a')
    (hfail : a'.statistics.failures = a.statistics.failures)
    (hmet : h.Covered storage met task above)
    (hu : Underway met (p.Settles h) top before a.files)
    (hfoot : Foothold a.files root top above) :
    Advances p h met top before a.files a'.files ∧
      ∀ names n name, h.MeetsIn storage task names n → n.Calls name →
        p.IsDone h before a'.files (top ++ (above ++ names) ++ [name]) n := by
  induction hc using Course.induction_ok with
  | @listed levels container above ids a a' children w answer _ ih =>
    obtain ⟨hchildren, hfiles⟩ := hlists.eq_listing answer
    cases hchildren
    rw [Account.listed_files, hfiles] at ih
    obtain ⟨hadvances, hdone⟩ := ih hfail (hmet.listed (List.Subset.refl _)) hu hfoot
    exact ⟨hadvances, fun names n name hn => hdone names n name ((h.meets_iff storage).mp hn)⟩
  | done => exact ⟨.refl hfoot.linkFree hu, by rintro names n name ⟨child, hchild, -⟩; cases hchild⟩
  | @next levels child rest above ids a a₁ a' first others ih₁ ih₂ =>
    have hle₁ := first.failures_le
    have hle₂ := others.failures_le
    -- neither part has a failure, as failures are only added
    obtain ⟨hadvances₁, hdone₁⟩ := ih₁ (by omega) hmet.head hu hfoot
    obtain ⟨hadvances₂, hdone₂⟩ := ih₂ (by omega) hmet.tail hadvances₁.underway
      (hfoot.preserved hadvances₁.preserves hadvances₁.linkFree)
    refine ⟨hadvances₁.trans hadvances₂, ?_⟩
    rintro names n name ⟨c, hc, hn⟩ hcalls
    rcases List.mem_cons.mp hc with rfl | hc
    · exact hadvances₂.isDone (hmet names n ⟨c, List.mem_cons_self, hn⟩) hcalls
        (hdone₁ names n name hn hcalls)
    · exact hdone₂ names n name ⟨c, hc, hn⟩ hcalls
  | @deed levels child above ids a a' hd =>
    have hchild := hmet.here
    obtain ⟨hadvances, hdone⟩ := advances_deed hdir hunique htruth hd hfail hu hfoot hchild
    refine ⟨hadvances, ?_⟩
    rintro names n name (⟨rfl, rfl⟩ | ⟨name', rest, hfolder, hcalls', -, -⟩) hcalls
    · rw [List.append_nil]
      exact (hdone name hcalls).2
    · rw [(hdone name' hcalls').1] at hfolder
      cases hfolder
  | @through levels child name files above ids a a' hcalls hfolder _ hmade _ _ _ ih =>
    have hchild := hmet.here
    obtain ⟨hadvances₁, hdone₁⟩ := advances_made hunique hu hfoot hchild hcalls hfolder hmade
    obtain ⟨hadvances₂, hdone₂⟩ := ih hfail (hmet.below hfolder hcalls) hadvances₁.underway
      (hfoot.below hcalls.segment hmade)
    refine ⟨hadvances₁.trans hadvances₂, ?_⟩
    rintro names n name' (⟨rfl, rfl⟩ | ⟨name'', rest, -, hcalls'', rfl, hn⟩) hcalls'
    · obtain rfl := hcalls'.unique hcalls
      rw [List.append_nil]
      exact hadvances₂.isDone hchild hcalls hdone₁
    · obtain rfl := hcalls''.unique hcalls
      simpa using hdone₂ rest n name' hn hcalls'

end Completion

/-- The files after a run that has done all it could: the folders are there, the files are
settled, and everything else is as it was, the permissions too. -/
structure Replicated (p : Plan σ) (h : Hierarchy) (met : List String → Node → Prop)
    (top : Location) (before after : FileSystem) : Prop where
  folder : ∀ above n name, met above n → n.Calls name → n.isContainer = true →
    after.get? (top ++ above ++ [name]) = some .directory
  file : ∀ above n name, met above n → n.Calls name → n.isContainer = false →
    after.get? (top ++ above ++ [name]) = p.settle h n (before.get? (top ++ above ++ [name]))
  rest : ∀ l, (∀ above n name, met above n → n.Calls name → l ≠ top ++ above ++ [name]) →
    after.get? l = before.get? l
  closed : after.closed = before.closed

lemma Advances.replicated {files : FileSystem} (ha : Advances p h met top before before files)
    (hdone : ∀ above n name, met above n → n.Calls name →
      p.IsDone h before files (top ++ above ++ [name]) n) :
    Replicated p h met top before files := by
  refine ⟨fun above n name hmet hcalls hfolder => ?_, fun above n name hmet hcalls hfile => ?_,
    ha.underway.rest, ha.underway.closed⟩
  · have := hdone above n name hmet hcalls
    rwa [Plan.IsDone, if_pos hfolder] at this
  · have := hdone above n name hmet hcalls
    rwa [Plan.IsDone, if_neg (by simp [hfile])] at this

end Walk

@[simp] lemma Statistics.add_failures (s t : Statistics) :
    (s + t).failures = s.failures + t.failures := rfl

namespace Run

open Walk (Account Advances)

variable {σ : Type} {p : Plan σ} {h : Hierarchy} {top : Location} {before : FileSystem}
  {met : List String → Node → Prop} {a a' : Account σ}

lemma Rounds.failures_le {storages : List Storage} {result : Except Failure Unit}
    (hr : Rounds p storages a result a') : a.statistics.failures ≤ a'.statistics.failures := by
  induction hr with
  | done => exact Nat.le_refl _
  | next _ _ _ ih => exact Nat.le_trans (Nat.le_add_right _ _) ih
  | stopped _ _ => exact Nat.le_add_right _ _
  | untold _ => exact Nat.le_refl _

/-- The walks of a run that end without a failure are complete. -/
lemma Rounds.completed (hlists : p.remote.Lists h) (htruth : p.remote.IsTruthful h)
    (hunique : Unique met)
    (hdir : NoDirectory met top before)
    {storages : List Storage} {result : Except Failure Unit} (hr : Rounds p storages a result a')
    (hresult : result = .ok ()) (hfail : a'.statistics.failures = a.statistics.failures)
    (hmet : ∀ s ∈ storages, h.Covered s.id met (.container p.depth none) [])
    (hu : Underway met (p.walk.Settles h) top before a.files)
    (hfoot : Foothold a.files p.destination top []) :
    Advances p.walk h met top before a.files a'.files ∧
      ∀ s ∈ storages, ∀ above n name, h.Meets s.id none above n → n.Calls name →
        p.walk.IsDone h before a'.files (top ++ above ++ [name]) n := by
  induction hr with
  | done => exact ⟨.refl hfoot.linkFree hu, by simp⟩
  | @next storage rest a a₁ a' result _ walk others ih =>
    have hle := others.failures_le
    simp only [Account.since_statistics, Statistics.add_failures] at hle
    obtain ⟨hadvances₁, hdone₁⟩ := walk.completed hdir hunique hlists htruth
      (show a₁.statistics.failures = 0 by omega)
      (hmet storage List.mem_cons_self) hu hfoot
    obtain ⟨hadvances₂, hdone₂⟩ := ih hresult
      (show a'.statistics.failures = a.statistics.failures + a₁.statistics.failures by omega)
      (fun s hs => hmet s (List.mem_cons_of_mem _ hs)) hadvances₁.underway
      (hfoot.preserved hadvances₁.preserves hadvances₁.linkFree)
    refine ⟨hadvances₁.trans hadvances₂, fun s hs above n name hn hcalls => ?_⟩
    rcases List.mem_cons.mp hs with rfl | hs
    · exact hadvances₂.isDone (hmet s List.mem_cons_self above n hn) hcalls
        (hdone₁ above n name hn hcalls)
    · exact hdone₂ s hs above n name hn hcalls
  | stopped _ _ | untold _ => cases hresult

end Run

end Replica
