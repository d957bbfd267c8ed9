import Replica.Proofs.Course
/-!
# What one move does to the files

A walk has a foothold in a directory below the destination: the names on its way are usable, they
lead to that directory, and no link stands anywhere below the destination.  From a foothold, each
of the three things that a walk does about a name has an exact effect.

* **Going down** makes the directory of that name unless it is there, and gives the next foothold
  (`Foothold.made`, `Foothold.below`).
* **Looking** finds the size of what stands there (`Foothold.inspected`).
* **Writing** puts a file there, with the permission bits of the file that it replaces
  (`Foothold.writeFile`).

Everything else stays as it is, so a foothold is kept as long as the files are preserved.
-/

namespace Replica

namespace FileSystem

variable {fs fs' : FileSystem} {l l' : Location} {name : String}

/-- No symbolic link stands below `l`. -/
def LinkFree (fs : FileSystem) (l : Location) : Prop :=
  ∀ names t, fs.get? (l ++ names) ≠ some (.link t)

lemma LinkFree.set (h : fs.LinkFree l) {e : Entry} (he : ∀ t, e ≠ .link t) :
    (fs.set (l' ++ [name]) e).LinkFree l := by
  intro names t
  by_cases heq : l ++ names = l' ++ [name]
  · rw [heq, get?_set_self]
    exact fun hlink => he t (Option.some.inj hlink)
  · rw [get?_set_of_ne heq]
    exact h names t

/-- The permission bits of a file written where this stands. -/
def modeOver : Option Entry → Nat
  | some (.file _ mode) => mode
  | _ => newFileMode

/-- A file is written unless a directory stands at the name. -/
lemma Site.writeFile_eq_ok_iff {p : Path} (h : fs.Site p l name) {content : List UInt8} :
    fs.writeFile (p.below [name]) content = .ok fs' ↔
      fs.Takes p l name ∧ fs.get? (l ++ [name]) ≠ some .directory ∧
        fs' = fs.set (l ++ [name]) (.file content (modeOver (fs.get? (l ++ [name])))) := by
  rw [h.writeFile]
  by_cases htakes : fs.Takes p l name
  · have hlink := h.noLink
    rcases hn : fs.get? (l ++ [name]) with _ | ⟨_ | ⟨c, m⟩ | t⟩
    · simp [htakes, modeOver, eq_comm]
    · simp [htakes]
    · simp [htakes, modeOver, eq_comm]
    · exact absurd hn (hlink t)
  · simp [htakes]

end FileSystem

open FileSystem (LinkFree Leads Preserves Site Stays modeOver sizeAt)

/-! ## Footholds -/

/-- A walk that has entered the directories `above` stands in the directory at `top ++ above`,
and no link stands below the destination. -/
structure Foothold (files : FileSystem) (root : Path) (top : Location) (above : List String) :
    Prop where
  names : ∀ n ∈ above, isSegment n = true
  leads : files.Leads (root.below above) (top ++ above)
  linkFree : files.LinkFree top

namespace Foothold

variable {files files' : FileSystem} {root : Path} {top : Location} {above : List String}
  {name : String}

lemma site (h : Foothold files root top above) (hseg : isSegment name = true) :
    files.Site (root.below above) (top ++ above) name := by
  refine ⟨h.leads, hseg, fun t => ?_⟩
  rw [List.append_assoc]
  exact h.linkFree (above ++ [name]) t

/-- A foothold is kept as long as directories and links stay. -/
lemma stays (h : Foothold files root top above) (hs : Stays files files')
    (hl : files'.LinkFree top) : Foothold files' root top above :=
  ⟨h.names, h.leads.stays hs, hl⟩

lemma preserved (h : Foothold files root top above) (hp : Preserves files files')
    (hl : files'.LinkFree top) : Foothold files' root top above :=
  h.stays hp.stays hl

lemma pathFor (h : Foothold files root top above) (hseg : isSegment name = true) :
    LocalDirectory.pathFor ⟨root, above⟩ name = (root.below above).below [name] := by
  rw [LocalDirectory.pathFor_eq h.names hseg, Path.below_below]

/-- What going down leaves: the directory of that name, and all else as it was. -/
lemma made (h : Foothold files root top above) (hseg : isSegment name = true) :
    LocalDirectory.made ⟨root, above⟩ name files = .ok files' ↔
      files.Takes (root.below above) (top ++ above) name ∧
        (files.get? (top ++ above ++ [name]) = none ∧
            files' = files.set (top ++ above ++ [name]) .directory ∨
          files.get? (top ++ above ++ [name]) = some .directory ∧ files' = files) :=
  LocalDirectory.made_eq_ok_iff h.names (h.site hseg)

/-- The files after going down are preserved, and free of links. -/
lemma preserves_made (h : Foothold files root top above) (hseg : isSegment name = true)
    (hmade : LocalDirectory.made ⟨root, above⟩ name files = .ok files') :
    Preserves files files' ∧ files'.LinkFree top := by
  rcases ((h.made hseg).mp hmade).2 with ⟨habsent, rfl⟩ | ⟨-, rfl⟩
  · exact ⟨Preserves.of_absent habsent _, h.linkFree.set (by simp)⟩
  · exact ⟨Preserves.refl _, h.linkFree⟩

/-- Where a directory was made, there is one, and all else is as it was. -/
lemma get?_made (h : Foothold files root top above) (hseg : isSegment name = true)
    (hmade : LocalDirectory.made ⟨root, above⟩ name files = .ok files') :
    files'.get? (top ++ above ++ [name]) = some .directory ∧
      ∀ l, l ≠ top ++ above ++ [name] → files'.get? l = files.get? l := by
  rcases ((h.made hseg).mp hmade).2 with ⟨-, rfl⟩ | ⟨hthere, rfl⟩
  · exact ⟨FileSystem.get?_set_self _ _ _, fun l hl => FileSystem.get?_set_of_ne hl _⟩
  · exact ⟨hthere, fun l _ => rfl⟩

/-- The next foothold. -/
lemma below (h : Foothold files root top above) (hseg : isSegment name = true)
    (hmade : LocalDirectory.made ⟨root, above⟩ name files = .ok files') :
    Foothold files' root top (above ++ [name]) := by
  obtain ⟨hpreserves, hlinkFree⟩ := h.preserves_made hseg hmade
  have hsite := (h.preserved hpreserves hlinkFree).site hseg
  refine ⟨usable_concat h.names hseg, ?_, hlinkFree⟩
  rw [← List.append_assoc, ← Path.below_below]
  exact hsite.leads_below (((h.made hseg).mp hmade).1.congr hpreserves.closed)
    (h.get?_made hseg hmade).1

/-- A directory that was made is entered. -/
lemma entered (h : Foothold files root top above) (hseg : isSegment name = true)
    (hmade : LocalDirectory.made ⟨root, above⟩ name files = .ok files') :
    LocalDirectory.entered ⟨root, above⟩ name files' = .ok ⟨root, above ++ [name]⟩ := by
  obtain ⟨hpreserves, hlinkFree⟩ := h.preserves_made hseg hmade
  have hsite := (h.preserved hpreserves hlinkFree).site hseg
  rw [LocalDirectory.entered_eq_ok_iff h.names hsite]
  exact ⟨((h.made hseg).mp hmade).1.congr hpreserves.closed, (h.get?_made hseg hmade).1, rfl⟩

/-- A directory in which a walk has a foothold is left. -/
lemma left (h : Foothold files root top (above ++ [name])) :
    LocalDirectory.left ⟨root, above ++ [name]⟩ files = .ok ⟨root, above⟩ := by
  refine LocalDirectory.left_eq_ok (fun n hn => h.names n (by simp [hn])) ?_ h.leads
  exact h.names name (by simp)

/-- The size that is found is that of what stands at the name. -/
lemma inspected (h : Foothold files root top above) (hseg : isSegment name = true)
    {size : Option Nat} (hsize : LocalDirectory.inspected ⟨root, above⟩ name files = .ok size) :
    files.Takes (root.below above) (top ++ above) name ∧
      size = sizeAt (files.get? (top ++ above ++ [name])) := by
  have htakes := LocalDirectory.takes_of_inspected h.names (h.site hseg) hsize
  rw [LocalDirectory.inspected_eq h.names (h.site hseg) htakes] at hsize
  exact ⟨htakes, (Except.ok.inj hsize).symm⟩

/-- A name that is not too long is looked at. -/
lemma inspected_of_takes (h : Foothold files root top above) (hseg : isSegment name = true)
    (htakes : files.Takes (root.below above) (top ++ above) name) :
    LocalDirectory.inspected ⟨root, above⟩ name files =
      .ok (sizeAt (files.get? (top ++ above ++ [name]))) :=
  LocalDirectory.inspected_eq h.names (h.site hseg) htakes

/-- A file is written in place of a file or of nothing. -/
lemma writeFile (h : Foothold files root top above) (hseg : isSegment name = true)
    {content : List UInt8} :
    files.writeFile (LocalDirectory.pathFor ⟨root, above⟩ name) content = .ok files' ↔
      files.Takes (root.below above) (top ++ above) name ∧
        files.get? (top ++ above ++ [name]) ≠ some .directory ∧
        files' = files.set (top ++ above ++ [name])
          (.file content (modeOver (files.get? (top ++ above ++ [name])))) := by
  rw [h.pathFor hseg]
  exact (h.site hseg).writeFile_eq_ok_iff

/-- The files after writing are preserved, and free of links. -/
lemma preserves_writeFile (h : Foothold files root top above) (hseg : isSegment name = true)
    {content : List UInt8}
    (hwrite : files.writeFile (LocalDirectory.pathFor ⟨root, above⟩ name) content = .ok files') :
    Preserves files files' ∧ files'.LinkFree top := by
  obtain ⟨-, hdirectory, rfl⟩ := (h.writeFile hseg).mp hwrite
  refine ⟨?_, h.linkFree.set (by simp)⟩
  rcases hn : files.get? (top ++ above ++ [name]) with _ | ⟨_ | ⟨c, m⟩ | t⟩
  · exact Preserves.of_absent hn _
  · exact absurd hn hdirectory
  · exact Preserves.of_file hn
  · exact absurd hn ((h.site hseg).noLink t)

end Foothold

/-! ## What a file needs -/

/-- Integers are the same as JSON values only if they are equal. -/
lemma Json.same_int {m n : Int} : Json.same (.int m) (.int n) = true ↔ m = n := by
  show (some (compare m n) == some Ordering.eq) = true ↔ m = n
  rw [beq_iff_eq, Option.some.injEq, Std.LawfulEqCmp.compare_eq_iff_eq]

/-- A file is up to date exactly if its declared size is that of the local entry. -/
lemma mustCopy_ofSizes {size : Option Nat} {declared : Option Int} :
    (Comparison.ofSizes size (.ofInt? declared)).mustCopy = false ↔
      ∃ n, size = some n ∧ declared = some (n : Int) := by
  rcases size with _ | n
  · simp [Comparison.ofSizes, Comparison.mustCopy]
  rcases declared with _ | d
  · simp [Comparison.ofSizes, Comparison.mustCopy, Json.ofInt?]
  have hcompare : Comparison.ofSizes (some n) (.ofInt? (some d)) =
      if Json.same (.int n) (.int d) then .identical n else .differs n (.int d) := rfl
  rw [hcompare]
  by_cases h : (n : Int) = d
  · rw [if_pos (Json.same_int.mpr h)]
    simp [Comparison.mustCopy, h]
  · rw [if_neg fun hsame => h (Json.same_int.mp hsame)]
    simp [Comparison.mustCopy, Ne.symm h]

lemma Walk.Plan.verdict_eq_upToDate {σ : Type} {p : Walk.Plan σ} {file : Node}
    {size : Option Nat} :
    p.verdict file size = .upToDate ↔
      ∃ n, size = some n ∧ file.declaredSize = some (n : Int) := by
  rw [← mustCopy_ofSizes, Plan.verdict]
  by_cases h : (Comparison.ofSizes size (.ofInt? file.declaredSize)).mustCopy = false
  · simp [h]
  · by_cases h' : (file.isAbstract && !p.includeAbstract) = true <;> simp [h, h']

/-- A file is due unless it is up to date, or abstract and left out. -/
lemma Walk.Plan.verdict_eq_due {σ : Type} {p : Walk.Plan σ} {file : Node} {size : Option Nat} :
    p.verdict file size = .due ↔ p.verdict file size ≠ .upToDate ∧
      (file.isAbstract = true → p.includeAbstract = true) := by
  rw [Plan.verdict]
  by_cases hcopy : (Comparison.ofSizes size (.ofInt? file.declaredSize)).mustCopy = true
  · cases file.isAbstract <;> cases p.includeAbstract <;> simp [hcopy]
  · simp [hcopy]

/-- With abstract files left out, a file that is due is not abstract. -/
lemma Walk.Plan.isAbstract_of_due {σ : Type} {p : Walk.Plan σ} {file : Node} {size : Option Nat}
    (habstract : p.includeAbstract = false) (hdue : p.verdict file size = .due) :
    file.isAbstract = false := by
  cases hfile : file.isAbstract with
  | false => rfl
  | true =>
    have hincluded := (Plan.verdict_eq_due.mp hdue).2 hfile
    rw [habstract] at hincluded
    cases hincluded

/-- A node that is neither a folder nor abstract is a file. -/
lemma Node.kind_eq_file {n : Node} (hfolder : n.isContainer = false)
    (habstract : n.isAbstract = false) : n.kind = .file := by
  rcases hkind : n.kind with _ | _ | _
  · simp [Node.isContainer, hkind] at hfolder
  · rfl
  · simp [Node.isAbstract, hkind] at habstract

end Replica
