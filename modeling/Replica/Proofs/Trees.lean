import Mathlib.Data.List.Induction
import Replica.FileSystem.Change
import Replica.Proofs.Resolution
/-!
# File systems are trees

A file system lists its entries by location, and nothing in that list says that what stands below a
location stands in a directory.  It does in a file system that is a tree, and whatever changes a
file system leaves a tree.

* **Trees.**  In an `IsTree` nothing stands below anything but a directory
  (`FileSystem.IsTree.get?_below`).
* **Ways.**  In a tree a way ends at what stands there, or at a name that a directory does not hold
  (`FileSystem.IsTree.resolve_stands`).
* **Changes.**  Putting and removing entries leave a tree, and so do all changes from outside
  (`FileChange.isTree_after`).
-/

namespace Replica

namespace FileSystem

variable {fs fs' : FileSystem} {l : Location} {name : String} {e : Entry} {p : Path}

/-! ## Trees -/

/-- Whatever stands somewhere stands in a directory. -/
def IsTree (fs : FileSystem) : Prop :=
  ∀ l name e, fs.get? (l ++ [name]) = some e → fs.get? l = some .directory

lemma isTree_empty : IsTree .empty := by
  intro l name e h
  simp [get?, empty, find] at h

/-- Nothing stands below what is no directory. -/
lemma IsTree.get?_below (htree : fs.IsTree) (hl : fs.get? l ≠ some .directory)
    {names : List String} (hnames : names ≠ []) : fs.get? (l ++ names) = none := by
  induction names using List.reverseRecOn with
  | nil => exact absurd rfl hnames
  | append_singleton names name ih =>
    by_contra hthere
    obtain ⟨e, he⟩ := Option.ne_none_iff_exists'.mp hthere
    rw [← List.append_assoc] at he
    have hdirectory := htree _ _ _ he
    by_cases hempty : names = []
    · subst hempty
      exact hl (by simpa using hdirectory)
    · rw [ih hempty] at hdirectory
      cases hdirectory

lemma IsTree.dropLast (htree : fs.IsTree) (hl : fs.get? l = some .directory) :
    fs.get? l.dropLast = some .directory := by
  induction l using List.reverseRecOn with
  | nil => exact hl
  | append_singleton l name =>
    rw [List.dropLast_concat]
    exact htree _ _ _ hl

/-! ## Ways -/

/-- What a destination says about the file system: this entry stands there, or this directory does
not hold the name. -/
def Stands (fs : FileSystem) : Destination → Prop
  | .found l e => fs.get? l = some e
  | .absent l name => fs.get? l = some .directory ∧ fs.get? (l ++ [name]) = none

/-- What the end of a way says about the file system, if the way may have met a link. -/
def StandsOrGoesOn (fs : FileSystem) : Destination ⊕ Detour → Prop
  | .inl destination => fs.Stands destination
  | .inr d => fs.get? d.location = some .directory

lemma IsTree.follows_stands (htree : fs.IsTree) {access : Access} {start : Location}
    {names : List String} {r : Destination ⊕ Detour} (h : fs.Follows access start names r)
    (hstart : fs.get? start = some .directory) : fs.StandsOrGoesOn r := by
  induction h with
  | done => exact hstart
  | stay _ _ ih => exact ih hstart
  | up _ _ ih => exact ih (htree.dropLast hstart)
  | enter _ there _ ih => exact ih there
  | absent _ none => exact ⟨hstart, none⟩
  | file _ there => exact there
  | itself _ _ there => exact there
  | link =>
    rw [StandsOrGoesOn, detour]
    split_ifs
    · rfl
    · exact hstart

lemma IsTree.arrives_stands (htree : fs.IsTree) {access : Access} {links : Nat} {start : Location}
    {names : List String} {destination : Destination}
    (h : fs.Arrives access links start names destination)
    (hstart : fs.get? start = some .directory) : fs.Stands destination := by
  induction h with
  | ends way => exact htree.follows_stands way hstart
  | follows way _ ih => exact ih (htree.follows_stands way hstart)

/-- **In a tree every way ends at what stands there**, or in a directory that lacks the name. -/
lemma IsTree.resolve_stands (htree : fs.IsTree) {access : Access} {destination : Destination}
    (h : fs.resolve access p = .ok destination) : fs.Stands destination :=
  htree.arrives_stands (resolve_eq_ok.mp h).2.2 rfl

/-! ## Changes of a tree -/

/-- Something may be put into a directory in place of anything but a directory. -/
lemma IsTree.set (htree : fs.IsTree) (hl : fs.get? l = some .directory)
    (hplace : fs.get? (l ++ [name]) ≠ some .directory) (e : Entry) :
    (fs.set (l ++ [name]) e).IsTree := by
  intro l' name' e' h
  by_cases hnew : l' ++ [name'] = l ++ [name]
  · obtain ⟨rfl, -⟩ := List.append_inj' hnew rfl
    rw [get?_set_of_ne (by simp), hl]
  · rw [get?_set_of_ne hnew] at h
    have hdirectory := htree _ _ _ h
    rw [get?_set_of_ne (by rintro rfl; exact hplace hdirectory), hdirectory]

lemma find_filter (es : List (Location × Entry)) (keep : Location → Bool) (l : Location) :
    find (es.filter fun x => keep x.1) l = if keep l then find es l else none := by
  induction es with
  | nil => simp [find]
  | cons x rest ih =>
    obtain ⟨k, e⟩ := x
    by_cases hk : k = l
    · subst hk
      cases hkeep : keep k <;> simp [find, hkeep, ih]
    · cases hkeep : keep k <;> simp [find, hkeep, ih, hk]

/-- What stands at each location after one below the top was removed. -/
lemma get?_erase (hl : l ≠ []) (l' : Location) :
    (fs.erase l).get? l' = if l <+: l' then none else fs.get? l' := by
  have hfind := find_filter fs.entries (fun k => !l.isPrefixOf k) l'
  by_cases h0 : l' = []
  · subst h0
    simp [get?, hl]
  · rw [get?, if_neg h0, erase, hfind, get?, if_neg h0]
    by_cases hinside : l <+: l'
    · have hremoved : l.isPrefixOf l' = true := List.isPrefixOf_iff_prefix.mpr hinside
      simp [hinside, hremoved]
    · have hkept : l.isPrefixOf l' = false :=
        Bool.eq_false_iff.mpr fun h => hinside (List.isPrefixOf_iff_prefix.mp h)
      simp [hinside, hkept]

lemma IsTree.erase (htree : fs.IsTree) (hl : l ≠ []) : (fs.erase l).IsTree := by
  intro l' name' e h
  rw [get?_erase hl] at h ⊢
  split_ifs at h with hinside
  rw [if_neg fun hl' => hinside (hl'.trans (List.prefix_append _ _))]
  exact htree _ _ _ h

lemma IsTree.makeDirectory (htree : fs.IsTree) (h : fs.makeDirectory p = .ok fs') :
    fs'.IsTree := by
  rw [FileSystem.makeDirectory] at h
  rcases hway : fs.resolve .itself p with _ | ⟨_, _⟩ | ⟨l, name⟩ <;> rw [hway] at h <;> cases h
  obtain ⟨hdirectory, hnone⟩ := htree.resolve_stands hway
  exact htree.set hdirectory (by simp [hnone]) _

lemma IsTree.writeFile (htree : fs.IsTree) {content : List UInt8}
    (h : fs.writeFile p content = .ok fs') : fs'.IsTree := by
  rw [FileSystem.writeFile] at h
  rcases hway : fs.resolve .writing p with
    _ | ⟨l, _ | ⟨old, mode⟩ | target⟩ | ⟨l, name⟩ <;> rw [hway] at h <;> cases h
  · have hfile : fs.get? l = some (.file old mode) := htree.resolve_stands hway
    induction l using List.reverseRecOn with
    | nil => cases hfile
    | append_singleton l name => exact htree.set (htree _ _ _ hfile) (by simp [hfile]) _
  · obtain ⟨hdirectory, hnone⟩ := htree.resolve_stands hway
    exact htree.set hdirectory (by simp [hnone]) _

lemma IsTree.ensureOne (htree : fs.IsTree) (p : Path) : (fs.ensureOne p).2.IsTree := by
  rw [FileSystem.ensureOne]
  rcases hmake : fs.makeDirectory p with ⟨_ | problem⟩ | fs'
  · exact htree
  · rcases fs.isDirectory p with fault | ⟨_ | _⟩ <;> cases problem <;> exact htree
  · exact htree.makeDirectory hmake

lemma IsTree.ensureFirst (htree : fs.IsTree) (p : Path) (count : Nat) :
    (fs.ensureFirst p count).2.IsTree := by
  induction count with
  | zero => exact htree.ensureOne _
  | succ count ih =>
    rw [FileSystem.ensureFirst]
    have hone := htree.ensureOne { p with names := p.names.take (count + 1) }
    split
    · rcases hfirst : fs.ensureFirst p count with ⟨_ | _, made⟩ <;> rw [hfirst] at ih
      · exact ih
      · exact ih.ensureOne _
    · exact hone

end FileSystem

namespace FileChange

open FileSystem

variable {fs fs' : FileSystem} {p : Path}

lemma isTree_placeLink (htree : fs.IsTree) {target : String}
    (h : placeLink fs p target = .ok fs') : fs'.IsTree := by
  rw [placeLink] at h
  rcases hway : fs.resolve .itself p with _ | ⟨l, e⟩ | ⟨l, name⟩ <;> rw [hway] at h <;> cases h
  · have hthere : fs.get? l = some e := htree.resolve_stands hway
    induction l using List.reverseRecOn with
    | nil =>
      -- in place of the top the link stands nowhere
      have hempty : (fs.erase []).entries = [] := List.filter_eq_nil_iff.mpr (by simp)
      intro l name e h
      simp [FileSystem.set, hempty, replace, get?, find] at h
    | append_singleton l name =>
      have hne : l ++ [name] ≠ [] := by simp
      refine (htree.erase hne).set ?_ (by simp [get?_erase hne]) _
      rw [get?_erase hne, if_neg, htree _ _ _ hthere]
      exact fun hinside => absurd hinside.length_le (by simp)
  · obtain ⟨hdirectory, hnone⟩ := htree.resolve_stands hway
    exact htree.set hdirectory (by simp [hnone]) _

lemma isTree_removeEntry (htree : fs.IsTree) (p : Path) : (removeEntry fs p).IsTree := by
  rw [removeEntry]
  rcases fs.resolve .itself p with _ | ⟨l, e⟩ | _
  · exact htree
  · dsimp only
    split_ifs with hl
    · exact htree
    · exact htree.erase hl
  · exact htree

lemma isTree_place (htree : fs.IsTree) {put : FileSystem → Except PathFault FileSystem}
    (hput : ∀ fs fs', fs.IsTree → put fs = .ok fs' → fs'.IsTree) : (place fs p put).2.IsTree := by
  have hmade := htree.ensureFirst p.parent p.parent.names.length
  rw [place, ensureDirectory]
  rcases hfirst : fs.ensureFirst p.parent p.parent.names.length with ⟨_ | _, made⟩ <;>
    rw [hfirst] at hmade
  · exact hmade
  · dsimp only
    rcases hresult : put made with fault | fs'
    · exact hmade
    · exact hput _ _ hmade hresult

lemma isTree_apply (htree : fs.IsTree) (change : FileChange) : (apply fs change).2.IsTree := by
  cases change with
  | directory path => exact htree.ensureFirst _ _
  | file path content => exact isTree_place htree fun _ _ h hput => h.writeFile hput
  | link path target => exact isTree_place htree fun _ _ h hput => isTree_placeLink h hput
  | remove path => exact isTree_removeEntry htree path

/-- **Changes from outside leave a tree.** -/
theorem isTree_after (htree : fs.IsTree) (changes : List FileChange) :
    (after fs changes).IsTree := by
  rw [after]
  induction changes generalizing fs with
  | nil => exact htree
  | cons change rest ih =>
    have hone := isTree_apply htree change
    rw [applyAll]
    rcases happly : apply fs change with ⟨_ | _, fs'⟩ <;> rw [happly] at hone
    · exact hone
    · exact ih hone

end FileChange

end Replica
