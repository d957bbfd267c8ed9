import Replica.Proofs.Tours
/-!
# The entries of a storage, in order

Where the listings are fixed, the entries below the top of a storage form a tree that does not
depend on who goes through it.  A walk that ends has taken up exactly these, in this order.

* **Censuses.**  `Hierarchy.census` are the entries down to some level, each with the names of the
  folders on the way to it.  An entry that is listed twice is there twice.
* **Tours.**  `Tour.entries` are those of a tour, and `Tour.IsOf` says that it is one of a
  hierarchy, as is every tour that a walk makes of it (`Walk.Makes.isOf`).
* **Runs.**  The entries of each of its tours are a census (`Run.Toured.entries_eq`).
-/

namespace Replica

variable {σ : Type}

/-! ## Censuses -/

/-- Whether a walk goes through the node: it is a folder, and its name can be used. -/
def Node.isOpen (n : Node) : Bool :=
  n.isContainer &&
    match n.name with
    | .string name => isSegment name
    | _ => false

lemma Node.isOpen_of_calls {n : Node} {name : String} (hfolder : n.isContainer = true)
    (hcalls : n.Calls name) : n.isOpen = true := by
  simp [isOpen, hfolder, hcalls.text, hcalls.segment]

lemma Node.isOpen_of_file {n : Node} (hfile : n.isContainer = false) : n.isOpen = false := by
  simp [isOpen, hfile]

lemma Node.isOpen_of_unusable {n : Node} (hname : isUsableName n.name = .ok false) :
    n.isOpen = false := by
  cases hn : n.name with
  | string name =>
    rw [hn] at hname
    simp [isOpen, hn, Except.ok.inj hname]
  | _ => simp [isOpen, hn]

namespace Hierarchy

variable (h : Hierarchy) (storage : Int)

/-- The entries of the first levels below a container, each with the names of the folders on the
way to it. -/
def census : (levels : Nat) → (container : Option Int) → (above : List String) →
    List (List String × Node)
  | 0, _, _ => []
  | levels + 1, container, above => (h.listing storage container).flatMap fun n =>
    (above, n) ::
      if n.isOpen then census levels (some n.id) (above ++ [n.name.display]) else []

/-- An entry with the first levels below it. -/
def censusFrom (levels : Nat) (above : List String) (n : Node) : List (List String × Node) :=
  (above, n) ::
    if n.isOpen then h.census storage levels (some n.id) (above ++ [n.name.display]) else []

lemma census_succ (levels : Nat) (container : Option Int) (above : List String) :
    h.census storage (levels + 1) container above =
      (h.listing storage container).flatMap (h.censusFrom storage levels above) :=
  rfl

end Hierarchy

/-! ## Tours -/

namespace Tour

/-- The entries that have their turn, each with the names of the folders on the way to it. -/
def entries : List String → Tour → List (List String × Node)
  | _, done => []
  | above, leaf child _ rest => (above, child) :: rest.entries above
  | above, folder child below rest =>
    (above, child) :: (below.entries (above ++ [child.name.display]) ++ rest.entries above)

/-- What may become of a child that is not gone through. -/
def Fits (child : Node) (fate : Fate) : Prop :=
  fate = .unusable ∧ isUsableName child.name = .ok false ∨
    fate ≠ .unusable ∧ child.isContainer = false ∧ child.Calls child.name.display

/-- The tour is one of a hierarchy: below a folder comes its listing. -/
inductive IsOf (h : Hierarchy) (storage : Int) : Tour → Prop where
  | done : IsOf h storage .done
  | leaf {child : Node} {fate : Fate} {rest : Tour} (fits : Fits child fate)
    (others : IsOf h storage rest) : IsOf h storage (.leaf child fate rest)
  | folder {child : Node} {below rest : Tour} (folder : child.isContainer = true)
    (calls : child.Calls child.name.display)
    (children : below.children = h.listing storage (some child.id))
    (inner : IsOf h storage below) (others : IsOf h storage rest) :
    IsOf h storage (.folder child below rest)

variable {h : Hierarchy} {storage : Int} {t : Tour}

/-- The entries of a tour are its children with what is below them. -/
lemma IsOf.entries_eq (ht : IsOf h storage t) {levels : Nat} (hheight : t.height ≤ levels)
    (above : List String) :
    t.entries above = t.children.flatMap (h.censusFrom storage levels above) := by
  induction ht generalizing levels above with
  | done => rfl
  | @leaf child fate rest fits _ ih =>
    have hclosed : child.isOpen = false := by
      rcases fits with ⟨-, hname⟩ | ⟨-, hfile, -⟩
      · exact Node.isOpen_of_unusable hname
      · exact Node.isOpen_of_file hfile
    simp [entries, children, ih hheight, Hierarchy.censusFrom, hclosed]
  | @folder child below rest hfolder hcalls hchildren _ _ ih₁ ih₂ =>
    obtain ⟨hbelow, hrest⟩ := Nat.max_le.mp hheight
    obtain ⟨levels, rfl⟩ : ∃ m, levels = m + 1 := ⟨levels - 1, by omega⟩
    have hinner := ih₁ (Nat.le_of_succ_le_succ hbelow) (above ++ [child.name.display])
    rw [hchildren, ← Hierarchy.census_succ] at hinner
    simp [entries, children, ih₂ hrest, Hierarchy.censusFrom,
      Node.isOpen_of_calls hfolder hcalls, hinner]

end Tour

namespace Walk

variable {p : Plan σ} {h : Hierarchy} {root : Path} {storage : Int} {above : List String}
  {ids : List Int} {child : Node} {fate : Fate} {t : Tour} {x x' : Position σ}

lemma Befalls.fits (hb : Befalls p root above child fate x x') : Tour.Fits child fate := by
  cases hb with
  | unusable hname => exact .inl ⟨rfl, hname⟩
  | upToDate faces | leftOut faces | fetched faces | missed faces =>
    exact .inr ⟨nofun, faces.file, faces.calls⟩

/-- The tours that a walk makes are those of the hierarchy. -/
lemma Makes.isOf (hlists : p.remote.Lists h) (ht : Makes p root storage above ids t x x') :
    t.IsOf h storage := by
  induction ht with
  | done => exact .done
  | leaf hmeets _ ih => exact .leaf hmeets.fits ih
  | folder hcalls hfolder _ _ _ answer _ _ _ ih₁ ih₂ =>
    have hchildren := Except.ok.inj (hlists.eq_listing answer).1
    exact .folder hfolder hcalls hchildren ih₁ ih₂

end Walk

/-! ## Runs -/

namespace Run

open Walk (Account Position)

variable {p : Plan σ} {h : Hierarchy} {a a' : Account σ} {tours : List (Storage × Tour)}
  {x x' : Position σ}

/-- The tour of a storage that has been gone through. -/
structure Toured (p : Plan σ) (h : Hierarchy) (storage : Storage) (t : Tour) : Prop where
  isOf : t.IsOf h storage.id
  children : t.children = h.listing storage.id none
  height : t.height < p.depth

/-- The entries of such a tour are all that the storage holds. -/
lemma Toured.entries_eq {storage : Storage} {t : Tour} (ht : Toured p h storage t) :
    t.entries [] = h.census storage.id p.depth none [] := by
  obtain ⟨levels, hdepth⟩ : ∃ m, p.depth = m + 1 := ⟨p.depth - 1, by have := ht.height; omega⟩
  have hheight : t.height ≤ levels := by
    have := ht.height
    omega
  rw [hdepth, Hierarchy.census_succ, ← ht.children]
  exact ht.isOf.entries_eq hheight []

/-- A run that returns has gone through all of its storages. -/
lemma Makes.toured (hlists : p.remote.Lists h) (hm : Makes p tours x x')
    (hheight : ∀ x ∈ tours, x.2.height < p.depth) : ∀ x ∈ tours, Toured p h x.1 x.2 := by
  induction hm with
  | done => simp
  | next answer walk _ ih =>
    rw [List.forall_mem_cons] at hheight ⊢
    have hchildren := Except.ok.inj (hlists.eq_listing answer).1
    exact ⟨⟨walk.isOf hlists, hchildren, hheight.1⟩, ih hheight.2⟩

end Run

end Replica
