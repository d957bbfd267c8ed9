import Replica.CommandLine.Files
import Replica.Proofs.Conservation
import Replica.Proofs.Descriptions
import Replica.Proofs.Surrogates
/-!
# The list of the files and the walks of a run

Two parts of the program go through a storage: the walks of a run, and the traversal behind the list
of the files.  They keep different records of where they have been, and they put paths together in
different ways.  Where every entry has a usable name and every folder one place, both come by the
same entries in the same order.

* **Paths.**  A traversal has the path of a folder without a separator at its end, a walk the names
  on the way to it (`Traversal.IsPathOf`).
* **Traversals.**  A traversal finds the entries of every tour (`Traversal.ensures_find`), and the
  list of the files has those that are no folders (`Shell.givesFiles_listFiles`), provided that it
  can be printed (`Shell.listed`).
* **Runs.**  A run compares just these, and shows the same paths meanwhile (`Run.run_finds`).
-/

namespace Replica

open Procedure (Ensures Silent)

variable {σ τ : Type}

/-- Asked in any world, the remote tree gives its listings. -/
lemma Remote.Lists.run_serve {r : Remote σ} {h : Hierarchy} (hr : r.Lists h) (storage : Int)
    (container : Option Int) (w : World σ) :
    ∃ w', (Action.serve (r.listChildren storage container)).run w =
      (.ok (h.listing storage container), w') :=
  ⟨_, Prod.ext (hr.children storage container w.other w.files).1 rfl⟩

/-- The files among entries. -/
abbrev filesAmong (entries : List (List String × Node)) : List (List String × Node) :=
  entries.filter fun x => !x.2.isContainer

/-- The numbers of the folders among entries. -/
def foldersAmong (entries : List (List String × Node)) : List Int :=
  (entries.filter (·.2.isContainer)).map (·.2.id)

@[simp] lemma foldersAmong_nil : foldersAmong [] = [] := rfl

lemma foldersAmong_cons_file {above : List String} {n : Node} (hfile : n.isContainer = false)
    (entries : List (List String × Node)) :
    foldersAmong ((above, n) :: entries) = foldersAmong entries := by
  simp [foldersAmong, hfile]

lemma foldersAmong_cons_folder {above : List String} {n : Node} (hfolder : n.isContainer = true)
    (entries : List (List String × Node)) :
    foldersAmong ((above, n) :: entries) = n.id :: foldersAmong entries := by
  simp [foldersAmong, hfolder]

@[simp] lemma foldersAmong_append (entries entries' : List (List String × Node)) :
    foldersAmong (entries ++ entries') = foldersAmong entries ++ foldersAmong entries' := by
  simp [foldersAmong]

/-- Entries with usable names, whose folders are all different and not visited yet. -/
structure Fresh (entries : List (List String × Node)) (visited : List Int) : Prop where
  usable : ∀ x ∈ entries, isUsableName x.2.name = .ok true
  distinct : (foldersAmong entries).Nodup
  unseen : ∀ id ∈ foldersAmong entries, id ∉ visited

namespace Fresh

variable {above : List String} {n : Node} {inner others : List (List String × Node)}
  {visited : List Int}

lemma of_file (h : Fresh ((above, n) :: others) visited) (hfile : n.isContainer = false) :
    Fresh others visited := by
  obtain ⟨husable, hdistinct, hunseen⟩ := h
  rw [foldersAmong_cons_file hfile] at hdistinct hunseen
  exact ⟨(List.forall_mem_cons.mp husable).2, hdistinct, hunseen⟩

/-- What is below a folder is fresh once the folder is visited. -/
lemma inside (h : Fresh ((above, n) :: (inner ++ others)) visited)
    (hfolder : n.isContainer = true) : Fresh inner (n.id :: visited) := by
  obtain ⟨husable, hdistinct, hunseen⟩ := h
  rw [foldersAmong_cons_folder hfolder, foldersAmong_append] at hdistinct hunseen
  obtain ⟨houtside, hinner⟩ := List.nodup_cons.mp hdistinct
  refine ⟨fun x hx => husable x (List.mem_cons_of_mem _ (List.mem_append_left _ hx)),
    (List.nodup_append.mp hinner).1, fun id hid hin => ?_⟩
  have hmem : id ∈ foldersAmong inner ++ foldersAmong others := List.mem_append_left _ hid
  rcases List.mem_cons.mp hin with rfl | hin
  · exact houtside hmem
  · exact hunseen id (List.mem_cons_of_mem _ hmem) hin

/-- What comes after a folder is fresh once all below it is visited. -/
lemma beyond (h : Fresh ((above, n) :: (inner ++ others)) visited)
    (hfolder : n.isContainer = true) : Fresh others (foldersAmong inner ++ n.id :: visited) := by
  obtain ⟨husable, hdistinct, hunseen⟩ := h
  rw [foldersAmong_cons_folder hfolder, foldersAmong_append] at hdistinct hunseen
  obtain ⟨houtside, hinner⟩ := List.nodup_cons.mp hdistinct
  refine ⟨fun x hx => husable x (List.mem_cons_of_mem _ (List.mem_append_right _ hx)),
    (List.nodup_append.mp hinner).2.1, fun id hid hin => ?_⟩
  have hmem : id ∈ foldersAmong inner ++ foldersAmong others := List.mem_append_right _ hid
  rcases List.mem_append.mp hin with hin | hin
  · exact (List.nodup_append.mp hinner).2.2 id hin id hid rfl
  · rcases List.mem_cons.mp hin with rfl | hin
    · exact houtside hmem
    · exact hunseen id (List.mem_cons_of_mem _ hmem) hin

end Fresh

namespace Traversal

/-! ## Paths -/

/-- The path by which a traversal knows the folder that these names lead to. -/
def IsPathOf (above : List String) (path : Json) : Prop :=
  above = [] ∧ path = .string "" ∨
    ∃ text, text ≠ "" ∧ path = .string text ∧ Trail.pathOf above = text ++ "/"

lemma pathBelow_eq {above : List String} {path : Json} {name : String}
    (hpath : IsPathOf above path) :
    pathBelow path (.string name) = .string (Trail.pathOf above ++ name) := by
  rcases hpath with ⟨rfl, rfl⟩ | ⟨text, htext, rfl, habove⟩
  · simp [pathBelow, Json.truthy, Trail.pathOf]
  · have hparts : ∀ v ∈ [Json.string text, .string "/", .string name], v.unwritable? = none := by
      simp [Json.unwritable?]
    rw [pathBelow, if_pos (by simp [Json.truthy, htext]), Json.joined_eq hparts, habove]
    simp [Json.display, String.ofList_append, String.append_assoc]

lemma IsPathOf.below (above : List String) {name : String} (hname : isSegment name = true) :
    IsPathOf (above ++ [name]) (.string (Trail.pathOf above ++ name)) := by
  refine .inr ⟨_, fun hempty => ?_, rfl, by simp [Trail.pathOf, String.append_assoc]⟩
  have : name = "" := by
    simpa using (String.append_eq_empty_iff.mp hempty).2
  rw [this] at hname
  cases hname

/-- An entry as a traversal finds it. -/
def findingOf (x : List String × Node) : Finding :=
  ⟨x.2, .string (Trail.pathOf x.1 ++ x.2.name.display)⟩

/-! ## Traversals -/

/-- What a traversal does with a node in a folder with the given path. -/
def findFrom (r : Remote σ) (storage : Int) (levels : Nat) (path : Json) (n : Node) :
    Part σ Unit := do
  find ⟨n, pathBelow path n.name⟩
  if n.isContainer then explore r storage levels (some n.id) (pathBelow path n.name) else return ()

lemma explore_succ (r : Remote σ) (storage : Int) (levels : Nat) (container : Option Int)
    (path : Json) :
    explore r storage (levels + 1) container path = (do
      if ← enter container then
        let nodes ← lift (Action.serve (r.listChildren storage container))
        nodes.forM (findFrom r storage levels path)) :=
  rfl

/-- A traversal that has found this, and has visited these containers at most. -/
structure Has (visited : List Int) (found : List Finding) (t : Traversal σ) : Prop where
  visited : t.visited ⊆ visited
  found : t.found = found

section Explored

variable {r : Remote σ} {h : Hierarchy} {storage : Int} {visited visited' : List Int}
  {found : List Finding} {container : Option Int} {t : Tour}

lemma ensures_enter (hnew : ∀ id ∈ container, id ∉ visited) :
    Ensures (Has visited found) (enter container : Part σ Bool)
      (fun isNew s => isNew = true ∧ Has (container.toList ++ visited) found s)
      fun _ _ => False := by
  intro s hs
  cases container with
  | none => exact ⟨rfl, hs⟩
  | some id =>
    have hnot : s.visited.contains id = false := by
      simpa using fun hid => hnew id rfl (hs.visited hid)
    have hrun : (enter (some id) : Part σ Bool).run s =
        (.ok true, { s with visited := id :: s.visited }) := by
      rw [enter, Procedure.run_bind, Procedure.run_state]
      dsimp only
      rw [hnot]
      rfl
    rw [hrun]
    exact ⟨rfl, List.cons_subset_cons id hs.visited, hs.found⟩

lemma ensures_serve (hr : r.Lists h) :
    Ensures (Has visited found) (lift (Action.serve (r.listChildren storage container)))
      (fun nodes s => nodes = h.listing storage container ∧ Has visited found s)
      fun _ _ => False := by
  refine Ensures.within fun s hs => ?_
  rintro w rfl
  obtain ⟨w', hrun⟩ := hr.run_serve storage container s.world
  rw [hrun]
  exact ⟨rfl, hs.visited, hs.found⟩

lemma ensures_explore {levels : Nat} {path : Json} {after : Unit → Traversal σ → Prop}
    (hr : r.Lists h) (hnew : ∀ id ∈ container, id ∉ visited)
    (hinner : Ensures (Has (container.toList ++ visited) found)
      ((h.listing storage container).forM (findFrom r storage levels path)) after
      fun _ _ => False) :
    Ensures (Has visited found) (explore r storage (levels + 1) container path) after
      fun _ _ => False := by
  rw [explore_succ]
  refine Ensures.bind (ensures_enter hnew) fun isNew => Ensures.of_and fun hisNew => ?_
  rw [hisNew, if_pos rfl]
  refine Ensures.bind (ensures_serve hr) fun nodes => Ensures.of_and fun hnodes => ?_
  rw [hnodes]
  exact hinner

lemma ensures_findFrom {levels : Nat} {above : List String} {path : Json} {n : Node}
    {after : Unit → Traversal σ → Prop} (hpath : IsPathOf above path)
    (hcalls : n.Calls n.name.display)
    (hthen : Ensures (Has visited (found ++ [findingOf (above, n)]))
      (if n.isContainer then
        explore r storage levels (some n.id) (.string (Trail.pathOf above ++ n.name.display))
      else return ()) after fun _ _ => False) :
    Ensures (Has visited found) (findFrom r storage levels path n) after fun _ _ => False := by
  rw [findFrom, hcalls.text, pathBelow_eq hpath]
  exact Ensures.bind (Ensures.change fun s hs => ⟨hs.visited, congrArg (· ++ _) hs.found⟩)
    fun _ => hthen

/-- **A traversal finds the entries of a tour**, provided that their names can be used and that it
has not visited any of the folders. -/
theorem ensures_find (hr : r.Lists h) (ht : t.IsOf h storage) {levels : Nat}
    (hheight : t.height ≤ levels) {above : List String} {path : Json} (hpath : IsPathOf above path)
    (hfresh : Fresh (t.entries above) visited) (found : List Finding) :
    Ensures (Has visited found) (t.children.forM (findFrom r storage levels path))
      (fun _ => Has (foldersAmong (t.entries above) ++ visited)
        (found ++ (t.entries above).map findingOf))
      fun _ _ => False := by
  induction ht generalizing levels above path visited found with
  | done => exact Ensures.pure fun s hs => ⟨hs.visited, by simpa [Tour.entries] using hs.found⟩
  | @leaf child fate rest fits _ ih =>
    rcases fits with ⟨-, hname⟩ | ⟨-, hfile, hcalls⟩
    · have husable := hfresh.usable _ List.mem_cons_self
      rw [hname] at husable
      cases husable
    rw [Tour.entries, foldersAmong_cons_file hfile]
    have hothers := ih hheight hpath (hfresh.of_file hfile) (found ++ [findingOf (above, child)])
    rw [List.append_assoc] at hothers
    refine Ensures.bind (ensures_findFrom hpath hcalls ?_) fun _ => hothers
    rw [hfile]
    exact Ensures.pure fun s hs => hs
  | @folder child below rest hfolder hcalls hchildren _ _ ih₁ ih₂ =>
    obtain ⟨hbelow, hrest⟩ := Nat.max_le.mp hheight
    obtain ⟨levels, rfl⟩ : ∃ m, levels = m + 1 := ⟨levels - 1, by omega⟩
    have hexplored := ih₁ (Nat.le_of_succ_le_succ hbelow) (.below above hcalls.segment)
      (hfresh.inside hfolder) (found ++ [findingOf (above, child)])
    have hothers := ih₂ hrest hpath (hfresh.beyond hfolder) (found ++ [findingOf (above, child)] ++
      (below.entries (above ++ [child.name.display])).map findingOf)
    rw [hchildren] at hexplored
    refine Ensures.bind (ensures_findFrom hpath hcalls ?_) fun _ =>
      hothers.mono (fun _ hs => hs) (fun _ s hs => ?_) fun _ _ hs => hs
    · rw [if_pos hfolder]
      refine ensures_explore hr ?_ hexplored
      rintro id ⟨rfl⟩
      exact hfresh.unseen _ (by simp [Tour.entries, foldersAmong_cons_folder hfolder])
    · rw [Tour.entries, foldersAmong_cons_folder hfolder, foldersAmong_append]
      refine ⟨List.Subset.trans hs.visited fun id hid => ?_, by simpa using hs.found⟩
      simp only [List.mem_append, List.mem_cons] at hid ⊢
      tauto

end Explored

end Traversal

namespace Shell

open Traversal (Has IsPathOf findingOf ensures_explore ensures_find)

variable {shell : Shell τ} {console : Console} {r : Remote (Session τ)} {h : Hierarchy}
  {p : Run.Plan σ} {storage : Storage} {t : Tour} {tours : List (Storage × Tour)}

/-- The entries of a tour that are files. -/
def filesOf (t : Tour) : List Finding := (filesAmong (t.entries [])).map findingOf

lemma filter_findings :
    ((t.entries []).map findingOf).filter (fun f => !f.node.isContainer) = filesOf t := by
  rw [filesOf, List.filter_map]
  rfl

lemma ensures_perform (hr : r.Lists h) (ht : Run.Toured p h storage t)
    (hlimit : p.depth ≤ shell.limit) (hfresh : Fresh (t.entries []) []) :
    Ensures (fun _ => True) (Traversal.perform r shell.limit { storage := storage.id })
      (fun outcome _ => outcome = (.ok (), (t.entries []).map findingOf)) fun _ _ => False := by
  intro w _
  obtain ⟨levels, hlevels⟩ : ∃ m, shell.limit = m + 1 :=
    ⟨shell.limit - 1, by have := ht.height; omega⟩
  have hheight : t.height ≤ levels := by
    have := ht.height
    omega
  have hinner := ensures_find hr ht.isOf hheight (.inl ⟨rfl, rfl⟩) hfresh []
  rw [ht.children] at hinner
  have hexplore : Ensures (Has [] []) (Traversal.explore r storage.id shell.limit none (.string ""))
      (fun _ s => s.found = (t.entries []).map findingOf) fun _ _ => False := by
    rw [hlevels]
    exact ensures_explore hr (by simp)
      (hinner.mono (fun _ hs => hs) (fun _ _ hs => hs.found) fun _ _ hs => hs)
  obtain ⟨u, s, hrun, hend⟩ :=
    hexplore.exists_run (s := ⟨w, [], []⟩) ⟨List.Subset.refl _, rfl⟩
  have hperform : (Traversal.perform r shell.limit { storage := storage.id }).run w =
      (.ok (.ok (), s.found), s.world) :=
    congrArg (fun o => (Except.ok (o.1, o.2.found), o.2.world)) hrun
  rw [hperform]
  exact congrArg _ hend

/-! ### Printing -/

/-- The action has a result unless there are surrogates to print, which stop it. -/
def Prints {α : Type} (surrogates? : Option Text.Unwritable) (action : Action (Session τ) α) :
    Prop :=
  Ensures (fun _ => True) action (fun _ _ => surrogates? = none)
    fun f _ => ∃ line, surrogates? = some line ∧ f = .value (.unwritable line)

lemma Prints.then {α β : Type} {first? second? : Option Text.Unwritable}
    {action : Action (Session τ) α} {next : α → Action (Session τ) β}
    (hfirst : Prints first? action) (hsecond : ∀ a, Prints second? (next a)) :
    Prints (first?.or second?) (action >>= next) := by
  refine Ensures.bind (hfirst.failing_mono ?_) fun a => ?_
  · rintro f w ⟨line, rfl, rfl⟩
    exact ⟨line, rfl, rfl⟩
  · rintro w rfl
    exact hsecond a w trivial

lemma Prints.forM {α : Type} {line? : α → Option Text.Unwritable}
    {f : α → Action (Session τ) Unit} (hf : ∀ a, Prints (line? a) (f a)) (xs : List α) :
    Prints (xs.findSome? line?) (xs.forM f) := by
  induction xs with
  | nil => exact Ensures.pure fun _ _ => rfl
  | cons x rest ih =>
    have hall := (hf x).then fun _ => ih
    rw [List.findSome?_cons]
    cases hline : line? x <;> rwa [hline] at hall

lemma Prints.after_print {α : Type} {line? : Option Text.Unwritable}
    {next : Unit → Action (Session τ) α} (text : String) (hnext : ∀ a, Prints line? (next a)) :
    Prints line? (console.print text >>= next) := by
  have hprint : Prints none (console.print text : Action (Session τ) Unit) :=
    ((Run.silent_print console text).ensures (Q := fun _ => True)).mono (fun _ _ => trivial)
      (fun _ _ _ => rfl) fun _ _ h => h
  rw [← Option.none_or (o := line?)]
  exact hprint.then hnext

lemma prints_printValue (hplain : console.json = false) (v : Json) :
    Prints v.unwritable? (console.printValue v : Action (Session τ) Unit) := by
  rw [Console.printValue, hplain, if_neg Bool.false_ne_true, Console.writeValue]
  rcases v.unwritable? with _ | line
  · exact fun _ _ => rfl
  · exact fun _ _ => ⟨line, rfl, rfl⟩

/-- What keeps a file from being printed: there are surrogates in its path or in its filetype. -/
def unprintable? (f : Finding) : Option Text.Unwritable :=
  (pathLine f).unwritable?.or (filetypeLine f).unwritable?

lemma prints_printFinding (hplain : console.json = false) (f : Finding) :
    Prints (unprintable? f) (printFinding console f : Action (Session τ) Unit) := by
  refine .after_print _ fun _ => (prints_printValue hplain (pathLine f)).then fun _ => ?_
  iterate 3 refine .after_print _ fun _ => ?_
  exact prints_printValue hplain (filetypeLine f)

/-- What keeps the list of these files from being printed, which it is not if documents are
wanted. -/
def unlisted? (console : Console) (files : List Finding) : Option Text.Unwritable :=
  if console.json then none else files.findSome? unprintable?

/-- What the list of these files gives. -/
def listed (console : Console) (files : List Finding) : Except Failure (List Finding) :=
  match unlisted? console files with
  | none => .ok files
  | some line => .error (.value (.unwritable line))

/-- Without surrogates in the paths and filetypes, all files are listed. -/
lemma listed_of_texts {files : List Finding}
    (h : ∀ f ∈ files, f.path.unwritable? = none ∧ f.node.filetype.unwritable? = none) :
    listed console files = .ok files := by
  have hline : ∀ f ∈ files, unprintable? f = none := by
    intro f hf
    obtain ⟨hpath, hfiletype⟩ := h f hf
    have hshown : (f.node.filetype.orElse (.string "unknown")).unwritable? = none := by
      rw [Json.orElse]
      split_ifs
      · exact hfiletype
      · rfl
    rw [unprintable?, pathLine, filetypeLine, Json.joined_eq, Json.joined_eq]
    · rfl
    · simpa [Json.unwritable?] using hshown
    · simpa [Json.unwritable?] using hpath
  have hnone : unlisted? console files = none := by
    rw [unlisted?, List.findSome?_eq_none_iff.mpr hline, ite_self]
  rw [listed, hnone]

lemma unlisted?_append (files files' : List Finding) :
    unlisted? console (files ++ files') =
      (unlisted? console files).or (unlisted? console files') := by
  rw [unlisted?, unlisted?, unlisted?, List.findSome?_append]
  split_ifs <;> rfl

/-- The action gives these files, unless they cannot be printed. -/
def GivesFiles (console : Console) {α : Type} (files : List Finding) (result : α)
    (action : Action (Session τ) α) : Prop :=
  Ensures (fun _ => True) action (fun a _ => unlisted? console files = none ∧ a = result)
    fun f _ => ∃ line, unlisted? console files = some line ∧ f = .value (.unwritable line)

lemma GivesFiles.run {files : List Finding} {action : Action (Session τ) (List Finding)}
    (h : GivesFiles console files files action) (w : World (Session τ)) :
    action.run w = (listed console files, (action.run w).2) := by
  have hrun := h w trivial
  rw [listed]
  rcases hend : action.run w with ⟨f | files', w'⟩ <;> rw [hend] at hrun
  · obtain ⟨line, hline, rfl⟩ := hrun
    rw [hline]
  · obtain ⟨hprinted, rfl⟩ := hrun
    rw [hprinted]

/-- The list of the files of a storage. -/
lemma givesFiles_listStorage (hr : r.Lists h) (ht : Run.Toured p h storage t)
    (hlimit : p.depth ≤ shell.limit) (hfresh : Fresh (t.entries []) []) :
    GivesFiles console (filesOf t) (filesOf t) (shell.listStorage console r storage) := by
  refine Ensures.bind (m := fun outcome _ => outcome = (.ok (), (t.entries []).map findingOf))
    ((ensures_perform hr ht hlimit hfresh).failing_mono fun _ _ h => h.elim) fun outcome =>
      Ensures.at_state fun w₀ houtcome => ?_
  rw [houtcome]
  dsimp only
  rw [filter_findings]
  have hprinted : Prints (unlisted? console (filesOf t))
      ((if console.json then [] else filesOf t).forM (printFinding console) :
        Action (Session τ) Unit) := by
    rw [unlisted?]
    cases hjson : console.json with
    | true => exact Ensures.pure fun _ _ => rfl
    | false => exact Prints.forM (prints_printFinding hjson) _
  refine Ensures.bind (hprinted.mono (fun _ _ => trivial) (fun _ _ h => h) fun _ _ h => h)
    fun _ => ?_
  exact Ensures.pure fun _ h => ⟨h, rfl⟩

/-- The lists of the files of storages, one after the other. -/
lemma givesFiles_listStorages (hr : r.Lists h) (hlimit : p.depth ≤ shell.limit)
    (ht : ∀ x ∈ tours, Run.Toured p h x.1 x.2) (hfresh : ∀ x ∈ tours, Fresh (x.2.entries []) []) :
    GivesFiles console (tours.flatMap fun x => filesOf x.2) (tours.map fun x => filesOf x.2)
      ((tours.map Prod.fst).mapM (shell.listStorage console r)) := by
  induction tours with
  | nil => exact Ensures.pure fun _ _ => ⟨by simp [unlisted?], rfl⟩
  | cons x rest ih =>
    rw [List.forall_mem_cons] at ht hfresh
    rw [List.map_cons, List.map_cons, List.flatMap_cons, List.mapM_cons, GivesFiles,
      unlisted?_append]
    refine Ensures.bind ((givesFiles_listStorage hr ht.1 hlimit hfresh.1).failing_mono ?_)
      fun files => Ensures.of_and fun hhere => Ensures.at_state fun w hfiles => ?_
    · rintro f w ⟨line, hline, rfl⟩
      exact ⟨line, by rw [hline, Option.some_or], rfl⟩
    rw [hhere, Option.none_or]
    refine Ensures.bind ((ih ht.2 hfresh.2).mono (fun _ _ => trivial) (fun _ _ h => h)
      fun _ _ h => h) fun rest => Ensures.pure ?_
    rintro w ⟨hbelow, rfl⟩
    exact ⟨hbelow, by rw [hfiles]⟩

/-- The list of the files of a device. -/
lemma givesFiles_listFiles {wanted : List Int} (hr : r.Lists h) (hlimit : p.depth ≤ shell.limit)
    (hselect : p.storages = if wanted.isEmpty then none else some wanted)
    (hstorages : tours.map Prod.fst = p.chosen h.storages)
    (ht : ∀ x ∈ tours, Run.Toured p h x.1 x.2) (hfresh : ∀ x ∈ tours, Fresh (x.2.entries []) []) :
    GivesFiles console (tours.flatMap fun x => filesOf x.2) (tours.flatMap fun x => filesOf x.2)
      (shell.listFiles console r wanted) := by
  have hchosen : (if wanted.isEmpty then h.storages else
      h.storages.filter fun s => wanted.contains s.id) = tours.map Prod.fst := by
    rw [hstorages, Run.Plan.chosen, hselect]
    by_cases hempty : wanted.isEmpty <;> simp [hempty, Run.choose]
  have hserve : Ensures (fun _ => True) (Action.serve r.listStorages)
      (fun storages _ => storages = h.storages) fun _ _ => False := by
    intro w _
    have hrun : (Action.serve r.listStorages).run w =
        (.ok h.storages, ((Action.serve r.listStorages).run w).2) :=
      Prod.ext (hr.storages w.other w.files).1 rfl
    rw [hrun]
  refine Ensures.bind (m := fun storages _ => storages = h.storages)
    (hserve.failing_mono fun _ _ h => h.elim) fun storages => Ensures.at_state fun w hw => ?_
  rw [hw]
  dsimp only
  rw [hchosen]
  refine Ensures.bind ((givesFiles_listStorages hr hlimit ht hfresh).mono (fun _ _ => trivial)
    (fun _ _ h => h) fun _ _ h => h) fun files => Ensures.pure ?_
  rintro w ⟨hprinted, rfl⟩
  exact ⟨hprinted, List.flatMap_def.symm⟩

end Shell

/-! ## Runs -/

/-- The file that is compared in a step. -/
def Step.compared? : Step → Option Node
  | .compared file => some file
  | _ => none

/-- The files compared in these steps, in their order. -/
def comparisons (steps : List (Standing × Step)) : List Node := steps.filterMap (·.2.compared?)

lemma comparisons_cons (x : Standing × Step) (steps : List (Standing × Step)) :
    comparisons (x :: steps) = x.2.compared?.toList ++ comparisons steps := by
  cases h : x.2.compared? <;> simp [comparisons, h]

lemma comparisons_append (steps steps' : List (Standing × Step)) :
    comparisons (steps ++ steps') = comparisons steps ++ comparisons steps' :=
  List.filterMap_append

namespace Tour.IsOf

open Walk (openedSteps)

variable {h : Hierarchy} {storage : Int} {t : Tour} {above : List String}

/-- The paths shown are those of the files. -/
lemma visits_files (ht : t.IsOf h storage)
    (husable : ∀ x ∈ t.entries above, isUsableName x.2.name = .ok true) (root : Path)
    (ids : List Int) :
    visits (t.steps root storage above ids) =
      (filesAmong (t.entries above)).map fun x => Trail.pathOf x.1 ++ x.2.name.display := by
  rw [ht.visits_steps]
  generalize t.entries above = entries at husable
  induction entries with
  | nil => rfl
  | cons x rest ih =>
    rw [List.forall_mem_cons] at husable
    have hrest := ih husable.2
    rw [sightsAmong] at hrest ⊢
    rw [List.filterMap_cons, hrest]
    cases hfolder : x.2.isContainer <;> simp [Node.sight?, husable.1, hfolder]

/-- The files compared are those among the entries. -/
lemma comparisons_steps (ht : t.IsOf h storage)
    (husable : ∀ x ∈ t.entries above, isUsableName x.2.name = .ok true) (root : Path)
    (ids : List Int) :
    comparisons (t.steps root storage above ids) = (filesAmong (t.entries above)).map (·.2) := by
  induction ht generalizing above ids with
  | done => rfl
  | @leaf child fate rest fits _ ih =>
    rw [entries, List.forall_mem_cons] at husable
    obtain ⟨hchild, hrest⟩ := husable
    rcases fits with ⟨-, hname⟩ | ⟨hfate, hfile, -⟩
    · rw [hname] at hchild
      cases hchild
    have hlooked : comparisons ((fate.steps root above child).map (Walk.spot above ids, ·)) =
        [child] := by
      cases fate with
      | unusable => exact absurd rfl hfate
      | upToDate | leftOut | fetched | missed => rfl
    simp [steps, entries, comparisons_cons, comparisons_append, Step.compared?, hfile, hlooked,
      ih hrest]
  | @folder child below rest hfolder hcalls hchildren _ _ ih₁ ih₂ =>
    rw [entries, List.forall_mem_cons, List.forall_mem_append] at husable
    obtain ⟨-, hbelow, hrest⟩ := husable
    simp [steps, openedSteps, entries, comparisons_cons, comparisons_append, Step.compared?,
      hfolder, ih₁ hbelow, ih₂ hrest]

/-- The files counted are those among the entries. -/
lemma counts_files (ht : t.IsOf h storage)
    (husable : ∀ x ∈ t.entries above, isUsableName x.2.name = .ok true) :
    t.counts.files = (filesAmong (t.entries above)).length := by
  induction ht generalizing above with
  | done => rfl
  | @leaf child fate rest fits _ ih =>
    rw [entries, List.forall_mem_cons] at husable
    obtain ⟨hchild, hrest⟩ := husable
    rcases fits with ⟨-, hname⟩ | ⟨hfate, hfile, -⟩
    · rw [hname] at hchild
      cases hchild
    have hone : fate.counts.files = 1 := by
      cases fate with
      | unusable => exact absurd rfl hfate
      | upToDate | leftOut | fetched | missed => rfl
    simp [counts, entries, hfile, hone, ih hrest, Nat.add_comm]
  | @folder child below rest hfolder hcalls hchildren _ _ ih₁ ih₂ =>
    rw [entries, List.forall_mem_cons, List.forall_mem_append] at husable
    obtain ⟨-, hbelow, hrest⟩ := husable
    simp [counts, entries, hfolder, ih₁ hbelow, ih₂ hrest]

end Tour.IsOf

/-- A storage whose entries all have usable names, and whose folders have one place each. -/
structure Hierarchy.IsTree (h : Hierarchy) (storage : Int) : Prop where
  usable : ∀ levels, ∀ x ∈ h.census storage levels none [], isUsableName x.2.name = .ok true
  distinct : ∀ levels, (foldersAmong (h.census storage levels none [])).Nodup

namespace Run

variable {p : Plan σ} {h : Hierarchy} {storage : Storage} {t : Tour}
  {tours : List (Storage × Tour)}

lemma Toured.fresh (ht : Toured p h storage t) (htree : h.IsTree storage.id) :
    Fresh (t.entries []) [] := by
  rw [ht.entries_eq]
  exact ⟨htree.usable _, htree.distinct _, fun _ _ => List.not_mem_nil⟩

/-- What a run shows of its files, with their number. -/
lemma sights_record (p : Plan σ) (ht : ∀ x ∈ tours, Toured p h x.1 x.2)
    (hfresh : ∀ x ∈ tours, Fresh (x.2.entries []) []) :
    (tours.flatMap fun x => Shell.filesOf x.2).map Finding.node = comparisons (record p tours) ∧
      (tours.flatMap fun x => Shell.filesOf x.2).map Finding.path =
        (visits (record p tours)).map Json.string ∧
      (tours.flatMap fun x => Shell.filesOf x.2).length = (total tours).files := by
  induction tours with
  | nil => exact ⟨rfl, rfl, rfl⟩
  | cons x rest ih =>
    rw [List.forall_mem_cons] at ht hfresh
    obtain ⟨hnodes, hpaths, hcount⟩ := ih ht.2 hfresh.2
    obtain ⟨storage, t⟩ := x
    have husable := hfresh.1.usable
    have hcompared := ht.1.isOf.comparisons_steps husable p.destination []
    have hvisited := ht.1.isOf.visits_files husable p.destination []
    have hcounted := ht.1.isOf.counts_files husable
    have hrecord : record p ((storage, t) :: rest) =
        Walk.openedSteps storage.id none (Walk.spot [] []) t.children
          (t.steps p.destination storage.id [] []) ++ record p rest := rfl
    have htotal : total ((storage, t) :: rest) = t.counts + total rest := rfl
    rw [List.flatMap_cons, hrecord, htotal]
    refine ⟨?_, ?_, ?_⟩
    · have hopened : comparisons (Walk.openedSteps storage.id none (Walk.spot [] []) t.children
          (t.steps p.destination storage.id [] []) ++ record p rest) =
          comparisons (t.steps p.destination storage.id [] []) ++ comparisons (record p rest) :=
        List.filterMap_append
      rw [hopened, hcompared, List.map_append, hnodes]
      simp [Shell.filesOf, Traversal.findingOf]
    · have hopened : visits (Walk.openedSteps storage.id none (Walk.spot [] []) t.children
          (t.steps p.destination storage.id [] []) ++ record p rest) =
          visits (t.steps p.destination storage.id [] []) ++ visits (record p rest) :=
        List.filterMap_append
      rw [hopened, hvisited, List.map_append, List.map_append, hpaths]
      simp [Shell.filesOf, Traversal.findingOf]
    · rw [List.length_append, hcount, Statistics.add_files, hcounted]
      simp [Shell.filesOf]

/-- **The list of the files and a run see the same files.**  Take two remote trees that give the
listings of one hierarchy, where listings that fail are empty.  In the storages that are chosen all
names can be used, and no folder has two places.  If a run returns, then the list of the files of
the same storages has just the files that the run has compared, in the same order; their paths are
those that the run has shown, and their number is the one that it has counted.  The files are those
that a traversal of each storage finds, whenever it is made, and the list of them ends unless there
are surrogates to be printed (`Shell.listed`).  Traversals go at least as far down as the run. -/
theorem run_finds (p : Plan σ) (h : Hierarchy) (hlists : p.remote.Lists h) (shell : Shell τ)
    (console : Console) (r : Remote (Session τ)) (hr : r.Lists h) (wanted : List Int)
    (hselect : p.storages = if wanted.isEmpty then none else some wanted)
    (hlimit : p.depth ≤ shell.limit) (htree : ∀ storage ∈ p.chosen h.storages, h.IsTree storage.id)
    (w : World σ) {s : RunStatistics} {w' : World σ} (hrun : (start p).run w = (.ok s, w'))
    (v : World (Session τ)) :
    ∃ (finds : Storage → List Finding) (found : List Finding) (v' : World (Session τ))
        (new : List (Standing × Step)),
      (∀ storage ∈ p.chosen h.storages, ∀ u, ∃ u',
        (Traversal.perform r shell.limit { storage := storage.id }).run u =
          (.ok (.ok (), finds storage), u')) ∧
      found = ((p.chosen h.storages).flatMap finds).filter (fun f => !f.node.isContainer) ∧
      (shell.listFiles console r wanted).run v = (Shell.listed console found, v') ∧
      w'.steps = new ++ w.steps ∧ found.map Finding.node = comparisons new.reverse ∧
      found.map Finding.path = (visits new.reverse).map Json.string ∧
      found.length = s.total.files := by
  obtain ⟨storages, u, tours, x, answer, hstorages, hmakes, -, hsteps, rfl, hheight⟩ :=
    tours_of_run hrun
  have hanswer := (hlists.storages w.other w.files).1
  rw [answer] at hanswer
  cases hanswer
  have htoured := hmakes.toured hlists hheight
  have hfresh : ∀ x ∈ tours, Fresh (x.2.entries []) [] := fun x hx =>
    (htoured x hx).fresh (htree x.1 (hstorages ▸ List.mem_map_of_mem hx))
  let finds : Storage → List Finding := fun s =>
    (h.census s.id p.depth none []).map Traversal.findingOf
  have hfinds : ∀ x ∈ tours, (x.2.entries []).map Traversal.findingOf = finds x.1 := fun x hx =>
    congrArg _ (htoured x hx).entries_eq
  obtain ⟨hnodes, hpaths, hcount⟩ := sights_record p htoured hfresh
  refine ⟨finds, tours.flatMap fun x => Shell.filesOf x.2, _, (record p tours).reverse, ?_, ?_,
    (Shell.givesFiles_listFiles hr hlimit hselect hstorages htoured hfresh).run v, hsteps, ?_⟩
  · rw [← hstorages]
    intro storage hstorage u
    obtain ⟨x, hx, rfl⟩ := List.mem_map.mp hstorage
    obtain ⟨outcome, u', hperform, rfl⟩ :=
      Ensures.exists_run (Shell.ensures_perform hr (htoured x hx) hlimit (hfresh x hx)) trivial
    exact ⟨u', by rw [hperform, hfinds x hx]⟩
  · rw [← hstorages, List.flatMap_map, List.filter_flatMap]
    refine List.flatMap_congr fun x hx => ?_
    rw [← hfinds x hx, Shell.filter_findings]
  · rw [List.reverse_reverse]
    exact ⟨hnodes, hpaths, hcount⟩

/-- The remote tree of a device in memory, with its messages kept in a session. -/
def sessionTree (m : InMemory) : Remote (Session Unit) where
  listStorages session files :=
    let outcome := m.listStorages session.errors files
    (outcome.1, outcome.2.withOther ⟨session.connection, outcome.2.other⟩)
  listChildren storage container session files :=
    let outcome := m.listChildren storage container session.errors files
    (outcome.1, outcome.2.withOther ⟨session.connection, outcome.2.other⟩)
  fetch file target session files :=
    let outcome := m.fetch file target session.errors files
    (outcome.1, outcome.2.withOther ⟨session.connection, outcome.2.other⟩)
  errors session := session.errors
  forgetErrors session := ⟨session.connection, []⟩

lemma sessionTree_lists {m : InMemory} {h : Hierarchy} (hm : m.remote.Lists h) :
    (sessionTree m).Lists h where
  storages session := hm.storages session.errors
  children storage container session := hm.children storage container session.errors

/-- A device with three files, of which one cannot be fetched, and a folder that cannot be
listed. -/
def partialDevice : InMemory :=
  { unreadableDevice with
    nodes := unreadableDevice.nodes ++ [⟨6, none, 7, .string "locked", .container, none, .null⟩]
    failingLists := [some 6]
    failingFetches := [4] }

/-- What it holds. -/
def partialHierarchy : Hierarchy := partialDevice.hierarchy [⟨7, .string "", .null, .null⟩]

/-- A run that copies it. -/
def partialPlan : Plan (List String) :=
  { samplePlan with
    remote := partialDevice.remote
    storages := some [7] }

/-- A shell for its session. -/
def partialShell : Shell Unit where
  link :=
    { exchange _ state files := (.interrupted, state, files)
      redirected _ _ := .error "nowhere"
      chance state := (0, state)
      pause _ _ := .elapsed }
  settings := { file := ⟨.relative, ["settings"]⟩ }
  display := .blank
  limit := 9

lemma partialHierarchy_census (levels : Nat) :
    partialHierarchy.census 7 (levels + 2) none [] =
      [([], sampleFolder), (["a"], sampleFile),
        (["a"], ⟨4, some 1, 7, .string "other", .file, some 3, .null⟩),
        ([], ⟨5, none, 7, .string "third", .file, some 3, .null⟩),
        ([], ⟨6, none, 7, .string "locked", .container, none, .null⟩)] := by
  rfl

lemma partialHierarchy_isTree : partialHierarchy.IsTree 7 where
  usable levels := by
    match levels with
    | 0 => decide
    | 1 => decide +kernel
    | levels + 2 =>
      rw [partialHierarchy_census]
      decide +kernel
  distinct levels := by
    match levels with
    | 0 => decide
    | 1 => decide +kernel
    | levels + 2 =>
      rw [partialHierarchy_census]
      decide +kernel

/-- Both see its three files. -/
theorem run_finds_sample :
    ∃ found v' new, (partialShell.listFiles ⟨false, true⟩ (sessionTree partialDevice) [7]).run
        ⟨.empty, .start (), []⟩ = (.ok found, v') ∧
      ((start partialPlan).run sampleWorld).2.steps = new ∧
      found.map Finding.node = comparisons new.reverse ∧
      found.map Finding.path = (visits new.reverse).map Json.string ∧ found.length = 3 := by
  have hreturns : ((start partialPlan).run sampleWorld).1.toOption =
      some ⟨⟨2, 3, 2, 0, 1, 0, 0⟩, 1⟩ := by
    decide +kernel
  have hlists : partialDevice.remote.Lists partialHierarchy := InMemory.lists rfl (by rfl)
  have htree : ∀ storage ∈ partialPlan.chosen partialHierarchy.storages,
      partialHierarchy.IsTree storage.id := by
    intro storage hstorage
    obtain rfl := List.mem_singleton.mp (List.mem_filter.mp hstorage).1
    exact partialHierarchy_isTree
  obtain ⟨-, found, v', new, -, -, hlisted, hsteps, hnodes, hpaths, hcount⟩ :=
    run_finds partialPlan partialHierarchy hlists partialShell ⟨false, true⟩
      (sessionTree partialDevice) (sessionTree_lists hlists) [7] rfl (by decide) htree sampleWorld
      (returns_of_toOption hreturns) ⟨.empty, .start (), []⟩
  have hnew : ((start partialPlan).run sampleWorld).2.steps = new :=
    hsteps.trans (List.append_nil new)
  have hfiletypes : ∀ n ∈ comparisons new.reverse, n.filetype.unwritable? = none := by
    rw [← hnew]
    decide +kernel
  rw [Shell.listed_of_texts] at hlisted
  · exact ⟨found, v', new, hlisted, hnew, hnodes, hpaths, hcount⟩
  intro f hf
  have hpath : f.path ∈ (visits new.reverse).map Json.string :=
    hpaths ▸ List.mem_map_of_mem hf
  obtain ⟨path, -, hpath⟩ := List.mem_map.mp hpath
  exact ⟨by rw [← hpath]; rfl, hfiletypes _ (hnodes ▸ List.mem_map_of_mem hf)⟩

end Run

end Replica
