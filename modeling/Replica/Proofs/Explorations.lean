import Mathlib.Logic.Relation
import Replica.Proofs.Cycles
import Replica.Proofs.Findings
/-!
# Traversals of any graph

A traversal keeps one set of visited containers for all its levels, so it comes to an end even where
folders are shared or lie below themselves.  What it finds is a tree all the same: each container is
opened in one place, the first one in the order of the traversal.

**Outlines.**  An `Outline` is that tree, where an entry stands either with what was found below it
or without.  `Outline.Unfolds` says that it follows the listings, with the containers that were seen
before given.  Over finitely many containers there is always one (`Outline.exists_unfolds`), whose
height is at most their number and one.

**Graphs.**  The containers that an outline opens are different from each other
(`Outline.Unfolds.nodup`), they are the ones that can be reached (`Outline.Unfolds.reachable`,
`Outline.Unfolds.closed`), and its nodes are the entries of their listings
(`Outline.Unfolds.perm`), each with the path that leads to it by the folders found first
(`Outline.Unfolds.lies`).

**Traversals.**  `Traversal.yields_findAll` performs an outline, in one step for each of its
constructors, and `Traversal.perform_explores` puts all of it together.
-/

namespace Replica

variable {σ : Type}

/-! ## Findings -/

namespace Finding

/-- It is a folder, and all folders that are found before it are others. -/
def IsFirst (f : Finding) (all : List Finding) : Prop :=
  f.node.isContainer = true ∧ ∃ before after, all = before ++ f :: after ∧
    ∀ b ∈ before, b.node.isContainer = true → b.node.id ≠ f.node.id

/-- It is an entry of a container with that path, and its own path says so. -/
def LiesIn (f : Finding) (listing : Option Int → List Node) (container : Option Int)
    (path : Json) : Prop :=
  f.node ∈ listing container ∧
    f.path = if path.truthy then .joined [path, .string "/", f.node.name] else f.node.name

variable {f : Finding} {all : List Finding}

lemma IsFirst.append (h : f.IsFirst all) (before : List Finding)
    (hbefore : ∀ b ∈ before, b.node.isContainer = true → b.node.id ≠ f.node.id) :
    f.IsFirst (before ++ all) := by
  obtain ⟨hfolder, first, after, rfl, hfirst⟩ := h
  exact ⟨hfolder, before ++ first, after, (List.append_assoc ..).symm,
    List.forall_mem_append.mpr ⟨hbefore, hfirst⟩⟩

lemma IsFirst.append_right (h : f.IsFirst all) (after : List Finding) :
    f.IsFirst (all ++ after) := by
  obtain ⟨hfolder, first, rest, rfl, hfirst⟩ := h
  exact ⟨hfolder, first, rest ++ after, by simp, hfirst⟩

end Finding

/-! ## Outlines -/

/-- What a traversal finds below a container. -/
inductive Outline where
  /-- No more entries. -/
  | done
  /-- An entry below which nothing is looked for: it is no folder, or one that was seen before. -/
  | plain (node : Node) (rest : Outline)
  /-- A folder that is new, with what is found below it. -/
  | opened (node : Node) (inner rest : Outline)

namespace Outline

/-- The entries of the container itself. -/
def entries : Outline → List Node
  | done => []
  | plain node rest | opened node _ rest => node :: rest.entries

/-- The folders that are opened, in their order. -/
def folders : Outline → List Int
  | done => []
  | plain _ rest => rest.folders
  | opened node inner rest => node.id :: (inner.folders ++ rest.folders)

/-- All that is found, where the container has the path `above`: what is found below a folder comes
directly after it. -/
def findings (above : Json) : Outline → List Finding
  | done => []
  | plain node rest => ⟨node, Traversal.pathBelow above node.name⟩ :: rest.findings above
  | opened node inner rest =>
    ⟨node, Traversal.pathBelow above node.name⟩ ::
      (inner.findings (Traversal.pathBelow above node.name) ++ rest.findings above)

/-- How many levels lie below the container. -/
def height : Outline → Nat
  | done => 0
  | plain _ rest => max 1 rest.height
  | opened _ inner rest => max (inner.height + 1) rest.height

/-- The containers whose listings an outline shows, given the one that it is about. -/
def listed (container : Option Int) (t : Outline) : List (Option Int) :=
  container :: t.folders.map some

/-- The outline follows the listings, if these containers were seen before it. -/
inductive Unfolds (listing : Option Int → List Node) : List Int → Outline → Prop where
  /-- There are no more entries. -/
  | done {seen : List Int} : Unfolds listing seen .done
  /-- A folder that is not opened was seen before. -/
  | plain {seen : List Int} {node : Node} {rest : Outline}
    (old : node.isContainer = true → node.id ∈ seen) (others : Unfolds listing seen rest) :
    Unfolds listing seen (.plain node rest)
  /-- A folder that was not seen before is opened. -/
  | opened {seen : List Int} {node : Node} {inner rest : Outline}
    (folder : node.isContainer = true) (new : node.id ∉ seen)
    (children : inner.entries = listing (some node.id))
    (below : Unfolds listing (node.id :: seen) inner)
    (others : Unfolds listing (inner.folders.reverse ++ node.id :: seen) rest) :
    Unfolds listing seen (.opened node inner rest)

variable {listing : Option Int → List Node} {containers : Finset Int} {seen : List Int}
  {t : Outline} {above : Json}

lemma card_unseen_le {seen' : List Int} (hseen : seen ⊆ seen') :
    (containers \ seen'.toFinset).card ≤ (containers \ seen.toFinset).card :=
  Finset.card_le_card (Finset.sdiff_subset_sdiff (Finset.Subset.refl _)
    fun _ hx => List.mem_toFinset.mpr (hseen (List.mem_toFinset.mp hx)))

/-- **There is an outline for all entries**, and it has at most one level more than there are
containers not seen before. -/
lemma exists_unfolds (hfolders : ∀ c, ∀ n ∈ listing c, n.isContainer = true → n.id ∈ containers)
    (m : Nat) : ∀ (nodes : List Node) (seen : List Int),
      (∀ n ∈ nodes, n.isContainer = true → n.id ∈ containers) →
        (containers \ seen.toFinset).card ≤ m →
          ∃ t : Outline, t.entries = nodes ∧ t.Unfolds listing seen ∧ t.height ≤ m + 1 := by
  induction m with
  | zero =>
    intro nodes seen
    induction nodes with
    | nil => exact fun _ _ => ⟨.done, rfl, .done, Nat.zero_le _⟩
    | cons n nodes ih =>
      intro hnodes hroom
      rw [List.forall_mem_cons] at hnodes
      obtain ⟨rest, hentries, hunfolds, hheight⟩ := ih hnodes.2 hroom
      refine ⟨.plain n rest, by rw [entries, hentries], .plain (fun hfolder => ?_) hunfolds,
        Nat.max_le.mpr ⟨Nat.le_refl 1, hheight⟩⟩
      by_contra hnew
      exact Nat.not_lt_zero _
        (Walk.card_inside_lt (hnodes.1 hfolder) hnew (Nat.lt_succ_of_le hroom))
  | succ m ihm =>
    intro nodes
    induction nodes with
    | nil => exact fun _ _ _ => ⟨.done, rfl, .done, Nat.zero_le _⟩
    | cons n nodes ih =>
      intro seen hnodes hroom
      rw [List.forall_mem_cons] at hnodes
      by_cases hopen : n.isContainer = true ∧ n.id ∉ seen
      · obtain ⟨hfolder, hnew⟩ := hopen
        have hless := Walk.card_inside_lt (hnodes.1 hfolder) hnew (Nat.lt_succ_of_le hroom)
        obtain ⟨inner, hchildren, hbelow, hinner⟩ :=
          ihm (listing (some n.id)) (n.id :: seen) (hfolders _) (Nat.le_of_lt_succ hless)
        have hmore : seen ⊆ inner.folders.reverse ++ n.id :: seen := fun x hx =>
          List.mem_append_right _ (List.mem_cons_of_mem _ hx)
        obtain ⟨rest, hentries, hothers, hheight⟩ :=
          ih (inner.folders.reverse ++ n.id :: seen) hnodes.2
            ((card_unseen_le hmore).trans hroom)
        exact ⟨.opened n inner rest, by rw [entries, hentries],
          .opened hfolder hnew hchildren hbelow hothers,
          Nat.max_le.mpr ⟨Nat.succ_le_succ hinner, hheight⟩⟩
      · obtain ⟨rest, hentries, hunfolds, hheight⟩ := ih seen hnodes.2 hroom
        refine ⟨.plain n rest, by rw [entries, hentries], .plain (fun hfolder => ?_) hunfolds,
          Nat.max_le.mpr ⟨by omega, hheight⟩⟩
        by_contra hnew
        exact hopen ⟨hfolder, hnew⟩

/-! ## Graphs -/

/-- A container lists a folder. -/
def Leads (listing : Option Int → List Node) (container : Option Int) (c : Option Int) : Prop :=
  ∃ n ∈ listing container, n.isContainer = true ∧ c = some n.id

namespace Unfolds

/-- **No container is opened twice**, nor one that was seen before. -/
lemma nodup (h : t.Unfolds listing seen) :
    t.folders.Nodup ∧ ∀ id ∈ t.folders, id ∉ seen := by
  induction h with
  | done => exact ⟨List.nodup_nil, nofun⟩
  | plain _ _ ih => exact ih
  | @opened seen node inner rest _ new _ _ _ ih₁ ih₂ =>
    obtain ⟨hinner, hinnerNew⟩ := ih₁
    obtain ⟨hrest, hrestNew⟩ := ih₂
    simp only [List.mem_append, List.mem_reverse, List.mem_cons, not_or] at hinnerNew hrestNew
    refine ⟨List.nodup_cons.mpr ⟨?_, List.nodup_append.mpr ⟨hinner, hrest, ?_⟩⟩, ?_⟩
    · rw [List.mem_append]
      rintro (hid | hid)
      · exact (hinnerNew _ hid).1 rfl
      · exact (hrestNew _ hid).2.1 rfl
    · rintro a ha b hb rfl
      exact (hrestNew a hb).1 ha
    · simp only [folders, List.mem_cons, List.mem_append]
      rintro id (rfl | hid | hid)
      · exact new
      · exact (hinnerNew id hid).2
      · exact (hrestNew id hid).2.2

/-- **What is opened can be reached.** -/
lemma reachable (h : t.Unfolds listing seen) {c : Option Int} (hc : t.entries ⊆ listing c) :
    ∀ id ∈ t.folders, Relation.ReflTransGen (Leads listing) c (some id) := by
  induction h generalizing c with
  | done => exact nofun
  | plain _ _ ih => exact ih fun n hn => hc (List.mem_cons_of_mem _ hn)
  | @opened seen node inner rest folder new children _ _ ih₁ ih₂ =>
    have hstep : Leads listing c (some node.id) := ⟨node, hc List.mem_cons_self, folder, rfl⟩
    simp only [folders, List.mem_cons, List.mem_append]
    rintro id (rfl | hid | hid)
    · exact .single hstep
    · exact .head hstep (ih₁ (c := some node.id) (fun n hn => children ▸ hn) id hid)
    · exact ih₂ (fun n hn => hc (List.mem_cons_of_mem _ hn)) id hid

/-- **What can be reached is opened**, unless it was seen before: this holds of the folders among
the entries, and of those that an opened folder lists. -/
lemma closed (h : t.Unfolds listing seen) :
    (∀ n ∈ t.entries, n.isContainer = true → n.id ∈ t.folders ∨ n.id ∈ seen) ∧
      ∀ id ∈ t.folders, ∀ n ∈ listing (some id), n.isContainer = true →
        n.id ∈ t.folders ∨ n.id ∈ seen := by
  induction h with
  | done => exact ⟨nofun, nofun⟩
  | plain old _ ih =>
    refine ⟨fun n hn hfolder => ?_, ih.2⟩
    rcases List.mem_cons.mp hn with rfl | hn
    · exact .inr (old hfolder)
    · exact ih.1 n hn hfolder
  | @opened seen node inner rest folder new children _ _ ih₁ ih₂ =>
    simp only [List.mem_append, List.mem_reverse, List.mem_cons] at ih₁ ih₂
    simp only [entries, folders, List.mem_cons, List.mem_append]
    refine ⟨?_, ?_⟩
    · rintro n (rfl | hn) hfolder
      · exact .inl (.inl rfl)
      · rcases ih₂.1 n hn hfolder with h | h | h | h <;> tauto
    · rintro id (rfl | hid | hid) n hn hfolder
      · rcases ih₁.1 n (children ▸ hn) hfolder with h | h | h <;> tauto
      · rcases ih₁.2 id hid n hn hfolder with h | h | h <;> tauto
      · rcases ih₂.2 id hid n hn hfolder with h | h | h | h <;> tauto

/-- The containers whose listings are shown are the ones that can be reached. -/
lemma mem_listed_iff {container : Option Int} (h : t.Unfolds listing container.toList)
    (hentries : t.entries = listing container) (c : Option Int) :
    c ∈ t.listed container ↔ Relation.ReflTransGen (Leads listing) container c := by
  rw [listed, List.mem_cons, List.mem_map]
  refine ⟨?_, fun hc => ?_⟩
  · rintro (rfl | ⟨id, hid, rfl⟩)
    · exact .refl
    · exact h.reachable (fun n hn => hentries ▸ hn) id hid
  · obtain ⟨hentered, hopened⟩ := h.closed
    have hseen : ∀ id ∈ container.toList, some id = container := fun id hid =>
      (Option.mem_toList.mp hid).symm ▸ rfl
    have hnext : ∀ n : Node, n.id ∈ t.folders ∨ n.id ∈ container.toList →
        some n.id = container ∨ ∃ id ∈ t.folders, some id = some n.id := fun n hn =>
      hn.elim (fun hid => .inr ⟨n.id, hid, rfl⟩) fun hid => .inl (hseen n.id hid)
    induction hc with
    | refl => exact .inl rfl
    | tail _ hleads ih =>
      obtain ⟨n, hn, hfolder, rfl⟩ := hleads
      rcases ih with rfl | ⟨id, hid, rfl⟩
      · exact hnext n (hentered n (hentries ▸ hn) hfolder)
      · exact hnext n (hopened id hid n hn hfolder)

/-- **What is found are the entries of the listings**, each of them once. -/
lemma perm (h : t.Unfolds listing seen) (above : Json) :
    ((t.findings above).map Finding.node).Perm
      (t.entries ++ t.folders.flatMap fun id => listing (some id)) := by
  induction h generalizing above with
  | done => exact .refl _
  | plain _ _ ih => exact (ih above).cons _
  | @opened seen node inner rest _ _ children _ _ ih₁ ih₂ =>
    simp only [findings, List.map_cons, List.map_append, entries, folders, List.flatMap_cons,
      List.flatMap_append, List.cons_append]
    refine .cons _ (((ih₁ _).append (ih₂ _)).trans ((List.perm_append_comm_assoc _ _ _).trans ?_))
    rw [children, List.append_assoc]

/-- A folder that is found is opened, or it was seen before. -/
lemma closed_findings (h : t.Unfolds listing seen) {f : Finding} (hf : f ∈ t.findings above)
    (hfolder : f.node.isContainer = true) : f.node.id ∈ t.folders ∨ f.node.id ∈ seen := by
  have hnode := (h.perm above).mem_iff.mp (List.mem_map_of_mem hf)
  rw [List.mem_append, List.mem_flatMap] at hnode
  rcases hnode with hentry | ⟨id, hid, hbelow⟩
  · exact h.closed.1 _ hentry hfolder
  · exact h.closed.2 id hid _ hbelow hfolder

/-- **What is found has its path from where its container was found first**, or it is an entry of
the container that the outline is about. -/
lemma lies (h : t.Unfolds listing seen) {c : Option Int} (hc : t.entries ⊆ listing c) :
    ∀ f ∈ t.findings above, f.LiesIn listing c above ∨
      ∃ g : Finding, g.IsFirst (t.findings above) ∧ g.node.id ∉ seen ∧
        f.LiesIn listing (some g.node.id) g.path := by
  induction h generalizing c above with
  | done => exact nofun
  | @plain seen node rest old _ ih =>
    rw [entries, List.cons_subset] at hc
    rw [findings, List.forall_mem_cons]
    refine ⟨.inl ⟨hc.1, rfl⟩, fun f hf => (ih hc.2 f hf).imp_right ?_⟩
    rintro ⟨g, hfirst, hnew, hlies⟩
    refine ⟨g, hfirst.append [_] (List.forall_mem_singleton.mpr ?_), hnew, hlies⟩
    exact fun hfolder hid => hnew (hid ▸ old hfolder)
  | @opened seen node inner rest folder new children below _ ih₁ ih₂ =>
    rw [entries, List.cons_subset] at hc
    rw [findings, List.forall_mem_cons, List.forall_mem_append]
    refine ⟨.inl ⟨hc.1, rfl⟩, fun f hf => .inr ?_, fun f hf => (ih₂ hc.2 f hf).imp_right ?_⟩
    · rcases ih₁ (c := some node.id) (fun n hn => children ▸ hn) f hf with
        hlies | ⟨g, hfirst, hnew, hlies⟩
      · exact ⟨⟨node, _⟩, ⟨folder, [], _, rfl, nofun⟩, new, hlies⟩
      · rw [List.mem_cons, not_or] at hnew
        refine ⟨g, (hfirst.append_right _).append [_]
          (List.forall_mem_singleton.mpr ?_), hnew.2, hlies⟩
        exact fun _ hid => hnew.1 hid.symm
    · rintro ⟨g, hfirst, hnew, hlies⟩
      simp only [List.mem_append, List.mem_reverse, List.mem_cons, not_or] at hnew
      refine ⟨g, hfirst.append (_ :: _) (List.forall_mem_cons.mpr ⟨?_, ?_⟩), hnew.2.2,
        hlies⟩
      · exact fun _ hid => hnew.2.1 hid.symm
      · intro b hb hfolder hid
        have hseen := below.closed_findings hb hfolder
        rw [List.mem_cons, hid] at hseen
        tauto

end Unfolds

end Outline

/-! ## Traversals -/

/-- The remote tree gives these listings of a storage, whatever it was asked before. -/
def Remote.Gives (r : Remote σ) (storage : Int) (listing : Option Int → List Node) : Prop :=
  ∀ container other files,
    (r.listChildren storage container other files).1 = .ok (listing container)

/-- The remote tree and the local files after the listings of these containers, one after
another. -/
def Remote.afterListings (r : Remote σ) (storage : Int) (containers : List (Option Int))
    (s : σ × FileSystem) : σ × FileSystem :=
  containers.foldl (fun s container =>
    ((r.listChildren storage container s.1 s.2).2.other,
      (r.listChildren storage container s.1 s.2).2.files)) s

namespace Traversal

/-- From one state to another, just these containers have been listed and just this was found. -/
structure Advances (r : Remote σ) (storage : Int) (listed : List (Option Int))
    (found : List Finding) (s s' : Traversal σ) : Prop where
  visited : s'.visited = (listed.filterMap id).reverse ++ s.visited
  found : s'.found = s.found ++ found
  world : (s'.world.other, s'.world.files) =
    r.afterListings storage listed (s.world.other, s.world.files)

/-- The part succeeds, and advances like this. -/
def Yields (p : Part σ Unit) (r : Remote σ) (storage : Int) (listed : List (Option Int))
    (found : List Finding) (s : Traversal σ) : Prop :=
  ∃ s', p.run s = (.ok (), s') ∧ Advances r storage listed found s s'

section Performed

variable {r : Remote σ} {storage : Int} {listed listed' : List (Option Int)}
  {found found' : List Finding} {s s' s'' : Traversal σ} {listing : Option Int → List Node}

lemma Advances.refl (r : Remote σ) (storage : Int) (s : Traversal σ) :
    Advances r storage [] [] s s :=
  ⟨rfl, (List.append_nil _).symm, rfl⟩

lemma Advances.trans (h : Advances r storage listed found s s')
    (h' : Advances r storage listed' found' s' s'') :
    Advances r storage (listed ++ listed') (found ++ found') s s'' where
  visited := by
    rw [h'.visited, h.visited, List.filterMap_append, List.reverse_append, List.append_assoc]
  found := by rw [h'.found, h.found, List.append_assoc]
  world := by rw [h'.world, h.world, Remote.afterListings, Remote.afterListings,
    Remote.afterListings, List.foldl_append]

lemma Yields.next {p p' : Part σ Unit} (h : Yields p r storage listed found s)
    (h' : ∀ s', Advances r storage listed found s s' → Yields p' r storage listed' found' s') :
    Yields (do p; p') r storage (listed ++ listed') (found ++ found') s := by
  obtain ⟨s', hrun, hadvances⟩ := h
  obtain ⟨s'', hrun', hadvances'⟩ := h' s' hadvances
  exact ⟨s'', (Procedure.run_bind_of_ok hrun).trans hrun', hadvances.trans hadvances'⟩

lemma yields_find (finding : Finding) : Yields (find finding) r storage [] [finding] s :=
  ⟨_, rfl, rfl, rfl, rfl⟩

lemma yields_pure : Yields (pure ()) r storage [] [] s := ⟨s, rfl, .refl r storage s⟩

/-- A container that was visited before is not listed again. -/
lemma yields_explore_old {id : Int} (hold : id ∈ s.visited) {levels : Nat} (hlevels : 1 ≤ levels)
    (path : Json) : Yields (explore r storage levels (some id) path) r storage [] [] s := by
  obtain ⟨levels, rfl⟩ : ∃ n, levels = n + 1 := ⟨levels - 1, by omega⟩
  have hcontains : s.visited.contains id = true := by simpa using hold
  have henter : ∃ s', (enter (some id) : Part σ Bool).run s = (.ok false, s') ∧
      Advances r storage [] [] s s' := by
    rw [enter, Procedure.run_bind, Procedure.run_state]
    dsimp only
    rw [if_pos hcontains]
    exact ⟨_, rfl, rfl, (List.append_nil _).symm, rfl⟩
  obtain ⟨s', hrun, hadvances⟩ := henter
  rw [explore_succ]
  exact ⟨s', Procedure.run_bind_of_ok hrun, hadvances⟩

/-- A new container is visited and listed, and then its entries are gone through. -/
lemma yields_explore_new (hr : r.Gives storage listing) {container : Option Int}
    (hnew : ∀ id ∈ container, id ∉ s.visited) {levels : Nat} {path : Json}
    (hinner : ∀ s', s'.visited = container.toList ++ s.visited →
      Yields ((listing container).forM (findFrom r storage levels path)) r storage listed found
        s') :
    Yields (explore r storage (levels + 1) container path) r storage (container :: listed) found
      s := by
  have henter : (enter container : Part σ Bool).run s =
      (.ok true, { s with visited := container.toList ++ s.visited }) := by
    cases container with
    | none => rfl
    | some id =>
      have hcontains : ¬s.visited.contains id = true := by simpa using hnew id rfl
      rw [enter, Procedure.run_bind, Procedure.run_state]
      dsimp only
      rw [if_neg hcontains]
      rfl
  obtain ⟨w, hserve, hworld⟩ : ∃ w, (Action.serve (r.listChildren storage container)).run s.world =
      (.ok (listing container), w) ∧
      (w.other, w.files) = r.afterListings storage [container] (s.world.other, s.world.files) :=
    ⟨_, Prod.ext (hr container s.world.other s.world.files) rfl, rfl⟩
  have hlist : (lift (Action.serve (r.listChildren storage container)) : Part σ _).run
      { s with visited := container.toList ++ s.visited } =
        (.ok (listing container), ⟨w, container.toList ++ s.visited, s.found⟩) := by
    rw [lift, Procedure.run_within, hserve]
  obtain ⟨s', hrun, hadvances⟩ := hinner ⟨w, container.toList ++ s.visited, s.found⟩ rfl
  rw [explore_succ]
  refine ⟨s', (Procedure.run_bind_of_ok henter).trans
    ((Procedure.run_bind_of_ok hlist).trans hrun), ?_, hadvances.found, ?_⟩
  · rw [hadvances.visited]
    cases container <;> simp
  · rw [hadvances.world, hworld]
    rfl

/-- **A traversal finds its outline**, one constructor after another. -/
lemma yields_findAll (hr : r.Gives storage listing) {t : Outline}
    (ht : t.Unfolds listing s.visited) {levels : Nat} (hheight : t.height ≤ levels) (path : Json) :
    Yields (t.entries.forM (findFrom r storage levels path)) r storage (t.folders.map some)
      (t.findings path) s := by
  generalize hseen : s.visited = seen at ht
  induction ht generalizing levels path s with
  | done => exact yields_pure
  | @plain seen node rest old _ ih =>
    obtain ⟨hone, hrest⟩ := Nat.max_le.mp hheight
    have hnode : Yields (findFrom r storage levels path node) r storage []
        [⟨node, pathBelow path node.name⟩] s := by
      refine (yields_find ⟨node, pathBelow path node.name⟩).next fun s' hfound => ?_
      by_cases hfolder : node.isContainer = true
      · rw [if_pos hfolder]
        refine yields_explore_old ?_ hone _
        rw [hfound.visited, hseen]
        exact old hfolder
      · rw [if_neg hfolder]
        exact yields_pure
    refine hnode.next fun s' hadvances => ih hrest path ?_
    rw [hadvances.visited, hseen]
    rfl
  | @opened seen node inner rest folder new children _ _ ih₁ ih₂ =>
    obtain ⟨hinner, hrest⟩ := Nat.max_le.mp hheight
    obtain ⟨levels, rfl⟩ : ∃ n, levels = n + 1 := ⟨levels - 1, by omega⟩
    have hnode : Yields (findFrom r storage (levels + 1) path node) r storage
        ([] ++ some node.id :: inner.folders.map some)
        ([⟨node, pathBelow path node.name⟩] ++ inner.findings (pathBelow path node.name)) s := by
      refine (yields_find ⟨node, pathBelow path node.name⟩).next fun s' hfound => ?_
      have hvisited : s'.visited = seen := by
        rw [hfound.visited, hseen]
        rfl
      rw [if_pos folder]
      refine yields_explore_new hr ?_ fun s'' hinside => ?_
      · rintro id ⟨rfl⟩
        rwa [hvisited]
      · rw [← children]
        exact ih₁ (Nat.le_of_succ_le_succ hinner) _ (by rw [hinside, hvisited]; rfl)
    have hall := hnode.next fun s' hadvances => ih₂ hrest path (s := s') (by
      rw [hadvances.visited, hseen]
      simp)
    simpa [Outline.entries, Outline.folders, Outline.findings] using hall

/-- **A traversal lists every container that it can reach just once**, in any graph over finitely
many containers, and ends.  What it finds is an outline of the listings: it opens each folder where
it comes by it first, and finds the entries of a listing in their order, with what is below a folder
directly after it.  The containers listed are the first one and those that can be reached from it,
and the nodes found are the entries of their listings.  Each has the path of the first container
where it is found, or the path of the folder through which its listing was reached first, with its
name.  No more levels are needed than there are containers and two. -/
theorem perform_explores (r : Remote σ) (storage : Int) (listing : Option Int → List Node)
    (hr : r.Gives storage listing) (containers : Finset Int)
    (hfolders : ∀ c, ∀ n ∈ listing c, n.isContainer = true → n.id ∈ containers)
    (container : Option Int) (above : Json) :
    ∃ t : Outline, t.entries = listing container ∧ t.Unfolds listing container.toList ∧
      (t.listed container).Nodup ∧
      (∀ c, c ∈ t.listed container ↔
        Relation.ReflTransGen (Outline.Leads listing) container c) ∧
      ((t.findings above).map Finding.node).Perm ((t.listed container).flatMap listing) ∧
      (∀ f ∈ t.findings above, f.LiesIn listing container above ∨
        ∃ g : Finding, g.IsFirst (t.findings above) ∧
          f.LiesIn listing (some g.node.id) g.path) ∧
      ∀ depth, containers.card + 2 ≤ depth → ∀ w, ∃ w',
        (perform r depth { storage, container, above }).run w =
            (.ok (.ok (), t.findings above), w') ∧
          (w'.other, w'.files) =
            r.afterListings storage (t.listed container) (w.other, w.files) := by
  obtain ⟨t, hentries, hunfolds, hheight⟩ := Outline.exists_unfolds hfolders containers.card
    (listing container) container.toList (hfolders container)
    (Finset.card_le_card Finset.sdiff_subset)
  refine ⟨t, hentries, hunfolds, ?_, hunfolds.mem_listed_iff hentries, ?_, fun f hf => ?_, ?_⟩
  · obtain ⟨hnodup, hnew⟩ := hunfolds.nodup
    refine List.nodup_cons.mpr ⟨?_, hnodup.map (Option.some_injective Int)⟩
    rw [List.mem_map]
    rintro ⟨id, hid, rfl⟩
    exact hnew id hid (Option.mem_toList.mpr rfl)
  · rw [Outline.listed, List.flatMap_cons, List.flatMap_map, ← hentries]
    exact hunfolds.perm above
  · refine (hunfolds.lies (fun n hn => hentries ▸ hn) f hf).imp_right ?_
    rintro ⟨g, hfirst, -, hlies⟩
    exact ⟨g, hfirst, hlies⟩
  · intro depth hdepth w
    obtain ⟨levels, rfl⟩ : ∃ n, depth = n + 1 := ⟨depth - 1, by omega⟩
    have hyields : Yields (explore r storage (levels + 1) container above) r storage
        (container :: t.folders.map some) (t.findings above) ⟨w, [], []⟩ :=
      yields_explore_new hr (fun _ _ => List.not_mem_nil) fun s hs => by
        rw [← hentries]
        refine yields_findAll hr ?_ (by omega) above
        rwa [hs, List.append_nil]
    obtain ⟨s', hrun, hadvances⟩ := hyields
    have hfound : s'.found = t.findings above := hadvances.found
    have hperform : (perform r (levels + 1) { storage, container, above }).run w =
        (.ok (((explore r storage (levels + 1) container above).run ⟨w, [], []⟩).1,
          ((explore r storage (levels + 1) container above).run ⟨w, [], []⟩).2.found),
          ((explore r storage (levels + 1) container above).run ⟨w, [], []⟩).2.world) := rfl
    rw [hperform, hrun, hfound]
    exact ⟨s'.world, rfl, hadvances.world⟩

end Performed

/-- A remote tree that gives these listings and keeps account of those that it was asked for. -/
def accountOf (listing : Option Int → List Node) : Remote (List (Option Int)) where
  listStorages asked files := (.ok [], ⟨files, asked, []⟩)
  listChildren _ container asked files :=
    (.ok (listing container), ⟨files, asked ++ [container], []⟩)
  fetch _ _ asked files := (.ok false, ⟨files, asked, []⟩)
  errors _ := []
  forgetErrors asked := asked

lemma afterListings_accountOf (listing : Option Int → List Node) (storage : Int)
    (containers asked : List (Option Int)) (files : FileSystem) :
    (accountOf listing).afterListings storage containers (asked, files) =
      (asked ++ containers, files) := by
  induction containers generalizing asked with
  | nil => rw [List.append_nil]; rfl
  | cons c containers ih => exact (ih (asked ++ [c])).trans (by rw [List.append_assoc]; rfl)

/-- A folder with this name and number. -/
def folderOf (id : Int) (name : Json) : Node := ⟨id, none, 7, name, .container, none, .null⟩

/-- Two folders that hold each other and one of which holds itself, and a third one that nothing
leads to. -/
def knot : Option Int → List Node
  | none => [folderOf 1 (.string "a"), folderOf 2 (.string "")]
  | some 1 => [folderOf 2 (.string "b"), folderOf 1 (.string ".."), ⟨4, none, 7, .string "c", .file,
      some 3, .null⟩]
  | some 2 => [folderOf 1 .null]
  | some 3 => [folderOf 1 (.string "a")]
  | some _ => []

/-- The knot is gone through once. -/
theorem perform_explores_knot :
    (∀ c, Relation.ReflTransGen (Outline.Leads knot) none c ↔ c ∈ [none, some 1, some 2]) ∧
      ((perform (accountOf knot) 5 { storage := 7 }).run ⟨.empty, [], []⟩).1.map
          (fun x => x.2.map (·.path.display)) =
        .ok ["a", "a/b", "a/b/None", "a/..", "a/c", ""] := by
  refine ⟨fun c => ?_, by decide +kernel⟩
  have hfolders : ∀ c, ∀ n ∈ knot c, n.isContainer = true → n.id ∈ ({1, 2} : Finset Int) := by
    intro c n hn hfolder
    unfold knot at hn
    split at hn <;> simp only [List.mem_cons, List.not_mem_nil, or_false] at hn
    · rcases hn with rfl | rfl <;> decide
    · rcases hn with rfl | rfl | rfl
      · decide
      · decide
      · cases hfolder
    · rw [hn]
      decide
    · rw [hn]
      decide
  obtain ⟨t, -, -, -, hreachable, -, -, hperform⟩ :=
    perform_explores (accountOf knot) 7 knot (fun _ _ _ => rfl) {1, 2} hfolders none (.string "")
  obtain ⟨w', hrun, hworld⟩ := hperform 5 (by decide) ⟨.empty, [], []⟩
  have hasked : w'.other = [none, some 1, some 2] := by
    have hother : ((perform (accountOf knot) 5 { storage := 7 }).run ⟨.empty, [], []⟩).2.other =
        [none, some 1, some 2] := by
      decide +kernel
    rwa [hrun] at hother
  rw [afterListings_accountOf, hasked] at hworld
  have hlisted : [none, some 1, some 2] = t.listed none := congrArg Prod.fst hworld
  rw [← hreachable c, hlisted]

end Traversal

end Replica
