import Replica.CommandLine.Files
import Replica.Proofs.Proceedings
/-!
# Proceedings of a search

The list of the files comes from searches through the chosen storages.  They ask for listings and
for nothing else, and say hardly anything; this file gives the worlds that they come to, as the file
on the proceedings of a run does for a run.

* **Searches.**  A search asks only for the top of a chosen storage or for a folder that an earlier
  listing of the same storage gave (`Searches`).
* **The list.**  `listFiles_proceeds` shows that the list of the files asks for the storages first,
  and from there on only searches, whether it succeeds or fails.
-/

namespace Replica

open Procedure (Ensures Preserves)

variable {σ τ : Type}

/-- What is said while the files are listed: a record about a container that is skipped, and the
lines about the files unless the user wants documents. -/
inductive Console.Shows (console : Console) : Event → Prop where
  /-- A record. -/
  | skipping (text : String) : Shows console (.logged ⟨.warning, .remote, text⟩)
  /-- A line. -/
  | line (text : String) (plain : console.json = false) : Shows console (.wrote .out text)

/-- The worlds that searches through the storages `ids` come to, with the nodes that they were
given until then. -/
inductive Searches (r : Remote σ) (console : Console) (ids : List Int) (w₀ : World σ) :
    Lore → World σ → Prop where
  /-- Nothing has happened yet. -/
  | start : Searches r console ids w₀ [] w₀
  /-- Something is said. -/
  | speaks {known : Lore} {w : World σ} {e : Event} (past : Searches r console ids w₀ known w)
    (plain : console.Shows e) : Searches r console ids w₀ known (w.add e)
  /-- A listing succeeds. -/
  | lists {known : Lore} {w v : World σ} {storage : Int} {container : Option Int}
    {children : List Node} (past : Searches r console ids w₀ known w) (chosen : storage ∈ ids)
    (source : known.Knows storage container)
    (answer : r.listChildren storage container w.other w.files = (.ok children, v)) :
    Searches r console ids w₀ (known ++ children.map fun n => (storage, n)) (w.after v)
  /-- A listing fails. -/
  | fails {known : Lore} {w v : World σ} {storage : Int} {container : Option Int} {f : Failure}
    (past : Searches r console ids w₀ known w) (chosen : storage ∈ ids)
    (source : known.Knows storage container)
    (answer : r.listChildren storage container w.other w.files = (.error f, v)) :
    Searches r console ids w₀ known (w.after v)

section Searches

variable {r : Remote σ} {console : Console} {ids : List Int} {w₀ : World σ} {known : Lore}
  {storage : Int} {container : Option Int}

/-- Searches have come to this world, and these nodes were given by then. -/
def Searched (r : Remote σ) (console : Console) (ids : List Int) (w₀ : World σ) (known : Lore)
    (w : World σ) : Prop :=
  ∃ all, known ⊆ all ∧ Searches r console ids w₀ all w

lemma Searched.mono {less : Lore} {w : World σ} (h : Searched r console ids w₀ known w)
    (hless : less ⊆ known) : Searched r console ids w₀ less w := by
  obtain ⟨all, hall, hsearches⟩ := h
  exact ⟨all, List.Subset.trans hless hall, hsearches⟩

lemma Searched.start : Searched r console ids w₀ [] w₀ := ⟨[], List.Subset.refl _, .start⟩

lemma searched_record {e : Event} (h : console.Shows e) :
    Preserves (Searched r console ids w₀ known) (Action.record e : Action σ Unit) := by
  rintro w ⟨all, hall, hsearches⟩
  exact ⟨all, hall, hsearches.speaks h⟩

lemma searched_print (text : String) :
    Preserves (Searched r console ids w₀ known) (console.print text : Action σ Unit) := by
  rw [Console.print]
  split_ifs with hjson
  · exact Preserves.pure _
  · exact searched_record (.line _ (by simpa using hjson))

namespace Traversal

/-- The world of a traversal is one that searches come to. -/
abbrev Within (r : Remote σ) (console : Console) (ids : List Int) (w₀ : World σ) (known : Lore)
    (t : Traversal σ) : Prop :=
  Searched r console ids w₀ known t.world

lemma within_enter (container : Option Int) :
    Preserves (Within r console ids w₀ known) (enter container : Part σ Bool) := by
  cases container with
  | none => exact Preserves.pure _
  | some id =>
    refine Preserves.state.bind fun t => Preserves.ite ?_ ?_
    · have hlog : Preserves (Searched r console ids w₀ known) (Action.log .warning .remote
          ("Container " ++ toString id ++ " already visited, skipping cycle") : Action σ Unit) :=
        searched_record (.skipping _)
      exact (hlog.within (fun _ ht => ht) fun _ _ _ ht => ht).bind fun _ => Preserves.pure _
    · exact Preserves.bind (fun _ ht => ht) fun _ => Preserves.pure _

/-- What is known after a listing need only last until the part ends. -/
lemma within_list (hchosen : storage ∈ ids) (hsource : known.Knows storage container)
    (rest : List Node → Part σ Unit)
    (hrest : ∀ children, Preserves (Within r console ids w₀
      (known ++ children.map fun n => (storage, n))) (rest children)) :
    Preserves (Within r console ids w₀ known)
      (lift (Action.serve (r.listChildren storage container)) >>= rest) := by
  rintro t ⟨all, hall, hsearches⟩
  have hknows : all.Knows storage container := hsource.mono hall
  rcases hanswer : r.listChildren storage container t.world.other t.world.files with ⟨answer, v⟩
  have hserve : (lift (Action.serve (r.listChildren storage container))).run t =
      (answer, { t with world := t.world.after v }) := by
    rw [lift, Procedure.run_within, Walk.run_serve hanswer]
    rfl
  rw [Procedure.run_bind, hserve]
  rcases answer with f | children
  · exact ⟨all, hall, hsearches.fails hchosen hknows hanswer⟩
  · refine Searched.mono (hrest children _ ⟨_, ?_, hsearches.lists hchosen hknows hanswer⟩)
      (List.subset_append_left _ _)
    exact List.append_subset.mpr ⟨List.Subset.trans hall (List.subset_append_left _ _),
      List.subset_append_right _ _⟩

/-- **Every traversal is a search**, from the top of a chosen storage or from a folder that was
given. -/
lemma within_explore (hchosen : storage ∈ ids) (depth : Nat) :
    ∀ (container : Option Int) (above : Json) (known : Lore), known.Knows storage container →
      Preserves (Within r console ids w₀ known) (explore r storage depth container above) := by
  induction depth with
  | zero => exact fun _ _ _ _ => Preserves.fail _
  | succ depth ih =>
    intro container above known hsource
    refine (within_enter container).bind fun entered => Preserves.ite ?_ (Preserves.pure _)
    refine within_list hchosen hsource _ fun children => Preserves.forM _ fun node hnode => ?_
    have hgiven : (storage, node) ∈ known ++ children.map fun n => (storage, n) :=
      List.mem_append_right _ (List.mem_map_of_mem hnode)
    refine Preserves.bind (fun _ ht => ht) fun _ => ?_
    by_cases hfolder : node.isContainer = true
    · rw [if_pos hfolder]
      exact ih _ _ _ (Lore.knows_of_mem hgiven hfolder)
    · rw [if_neg hfolder]
      exact Preserves.pure _

lemma searched_perform (hchosen : storage ∈ ids) (depth : Nat) :
    Preserves (Searched r console ids w₀ []) (perform r depth { storage }) := fun w hw =>
  within_explore hchosen depth none (.string "") [] nofun ⟨w, [], []⟩ hw

end Traversal

end Searches

/-! ## The list of the files -/

namespace Shell

variable {shell : Shell τ} {console : Console} {r : Remote (Session τ)} {ids : List Int}
  {w₀ : World (Session τ)}

lemma searched_printFinding (f : Finding) :
    Preserves (Searched r console ids w₀ []) (printFinding console f) := by
  refine (searched_print _).bind fun _ => ?_
  refine (Console.preserves_printValue searched_print _).bind fun _ => ?_
  refine (searched_print _).bind fun _ => (searched_print _).bind fun _ => ?_
  exact (searched_print _).bind fun _ => Console.preserves_printValue searched_print _

lemma searched_listStorage {storage : Storage} (hchosen : storage.id ∈ ids) :
    Preserves (Searched r console ids w₀ []) (shell.listStorage console r storage) := by
  refine (Traversal.searched_perform hchosen _).bind fun (result, found) => ?_
  refine (Preserves.forM _ fun _ _ => searched_printFinding _).bind fun _ => ?_
  exact (Preserves.ofExcept _).bind fun _ => Preserves.pure _

/-- The storages that the list of the files goes through. -/
def selected (wanted : List Int) (storages : List Storage) : List Storage :=
  if wanted.isEmpty then storages else storages.filter fun s => wanted.contains s.id

/-- How the files are listed in a world. -/
inductive Lists (r : Remote (Session τ)) (console : Console) (wanted : List Int)
    (w : World (Session τ)) : Except Failure (List Finding) → World (Session τ) → Prop where
  /-- The storages cannot be listed. -/
  | unlisted {f : Failure} {v : World (Session τ)}
    (answer : r.listStorages w.other w.files = (.error f, v)) :
    Lists r console wanted w (.error f) (w.after v)
  /-- They are listed, and the selected ones are searched. -/
  | listed {storages : List Storage} {v w' : World (Session τ)} {known : Lore}
    {result : Except Failure (List Finding)}
    (answer : r.listStorages w.other w.files = (.ok storages, v))
    (past : Searches r console ((selected wanted storages).map Storage.id) (w.after v) known w') :
    Lists r console wanted w result w'

/-- **The list of the files only searches**, once it has the storages. -/
theorem listFiles_proceeds (shell : Shell τ) (console : Console) (r : Remote (Session τ))
    (wanted : List Int) (w : World (Session τ)) :
    ∃ result w', (shell.listFiles console r wanted).run w = (result, w') ∧
      Lists r console wanted w result w' := by
  rcases hanswer : r.listStorages w.other w.files with ⟨f | storages, v⟩
  · have hrun : (shell.listFiles console r wanted).run w = (.error f, w.after v) := by
      rw [listFiles, Procedure.run_bind, Walk.run_serve hanswer]
      rfl
    exact ⟨_, _, hrun, .unlisted hanswer⟩
  · have hmap : ∀ chosen : List Storage, (∀ s ∈ chosen, s ∈ selected wanted storages) →
        Preserves (Searched r console ((selected wanted storages).map Storage.id) (w.after v) [])
          (chosen.mapM (shell.listStorage console r)) := by
      intro chosen hchosen
      induction chosen with
      | nil => exact Preserves.pure _
      | cons s rest ih =>
        rw [List.mapM_cons]
        refine (searched_listStorage (List.mem_map_of_mem (hchosen s List.mem_cons_self))).bind
          fun _ => (ih fun s' hs' => hchosen s' (List.mem_cons_of_mem s hs')).bind fun _ =>
            Preserves.pure _
    have hlist := (hmap _ fun _ hs => hs).bind fun found =>
      Preserves.pure (found.flatten : List Finding)
    obtain ⟨known, -, hsearches⟩ := hlist (w.after v) .start
    have hrun : (shell.listFiles console r wanted).run w =
        (do return (← (selected wanted storages).mapM (shell.listStorage console r)).flatten :
          Action (Session τ) (List Finding)).run (w.after v) := by
      rw [listFiles, Procedure.run_bind, Walk.run_serve hanswer]
      rfl
    exact ⟨_, _, hrun, .listed hanswer hsearches⟩

end Shell

end Replica
