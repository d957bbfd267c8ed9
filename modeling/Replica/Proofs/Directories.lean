import Replica.Proofs.Contents
import Replica.Proofs.Moves
import Replica.Proofs.Trees
/-!
# Operations that match

Making a directory, entering it and leaving it again are separate requests to the system, and each
asks a question of its own: whether anything stands at the name, or whether the name leads to a
directory through links.  The answers fit together, whatever the name is and wherever the local
directory has come to.

* **Making.**  `FileSystem.Provides` says what is made: nothing, or one empty directory.  Where a
  path leads to a directory, something stands at its end, so that no second one is made
  (`FileSystem.Leads.makeDirectory`).
* **Moves.**  A `LocalDirectory.Move` is one of the four operations, performed on the local
  directory as it stands; `LocalDirectory.Reached` are the worlds that moves come to while others
  change the files.
* **Matching.**  `LocalDirectory.moves_match` is for all of them: what was made is made once, can be
  entered and left again, and what fails has changed nothing.
-/

namespace Replica

namespace FileSystem

variable {fs fs' : FileSystem} {p : Path} {l : Location} {name : String}

/-! ## What stands at the end of a path -/

lemma IsLookedUp.itself {access : Access} {start : Location} {n : String} {rest : List String}
    (h : IsLookedUp fs access start n rest) : IsLookedUp fs .itself start n rest :=
  ⟨h.notEmpty, h.isOpen, h.notDot, h.notDots, by simp, h.short⟩

/-- A way that is followed for the entry at its end goes the same way, or ends before, at a link. -/
lemma Follows.of_target {start : Location} {names : List String} {r : Destination ⊕ Detour}
    (h : fs.Follows .target start names r) :
    fs.Follows .itself start names r ∨
      ∃ l e, fs.Follows .itself start names (.inl (.found l e)) := by
  induction h with
  | done => exact .inl .done
  | stay dot _ ih => exact ih.imp (.stay dot) fun ⟨l, e, way⟩ => ⟨l, e, .stay dot way⟩
  | up isOpen _ ih => exact ih.imp (.up isOpen) fun ⟨l, e, way⟩ => ⟨l, e, .up isOpen way⟩
  | enter name there _ ih =>
    exact ih.imp (.enter name.itself there) fun ⟨l, e, way⟩ => ⟨l, e, .enter name.itself there way⟩
  | absent name none => exact .inl (.absent name.itself none)
  | file name there => exact .inl (.file name.itself there)
  | itself asked => cases asked
  | @link start n rest target name there _ =>
    -- only at the last name does it matter whether the link itself is asked for
    by_cases hrest : rest = []
    · subst hrest
      exact .inr ⟨_, _, .itself rfl name.itself there⟩
    · exact .inl (.link name.itself there fun h => hrest h.1)

lemma Arrives.of_target {links : Nat} {start : Location} {names : List String}
    {destination : Destination} (h : fs.Arrives .target links start names destination)
    (hfound : ∃ l e, destination = .found l e) :
    ∃ l e, fs.Arrives .itself links start names (.found l e) := by
  induction h with
  | ends way =>
    obtain ⟨l, e, rfl⟩ := hfound
    rcases way.of_target with way | ⟨l', e', way⟩
    · exact ⟨l, e, .ends way⟩
    · exact ⟨l', e', .ends way⟩
  | follows way _ ih =>
    rcases way.of_target with way | ⟨l', e', way⟩
    · obtain ⟨l, e, on⟩ := ih hfound
      exact ⟨l, e, .follows way on⟩
    · exact ⟨l', e', .ends way⟩

/-- **No second directory is made** at the end of a path that leads to one. -/
lemma Leads.makeDirectory (h : fs.Leads p l) : fs.makeDirectory p = .error (.system .occupied) := by
  obtain ⟨hnull, hlength, hway⟩ := leads_iff.mp h
  obtain ⟨l', e, hway⟩ := hway.of_target ⟨l, .directory, rfl⟩
  rw [FileSystem.makeDirectory, resolve_eq_ok.mpr ⟨hnull, hlength, hway⟩]

lemma exists_leads (h : fs.isDirectory p = .ok true) : ∃ l, fs.Leads p l := by
  rw [isDirectory, ask, entryOf] at h
  rcases hway : fs.resolve .target p with fault | ⟨l, e⟩ | _ <;> rw [hway] at h
  · rcases fault with _ | problem
    · cases h
    · cases problem <;> cases h
  · cases e with
    | directory => exact ⟨l, hway⟩
    | file => cases h
    | link => cases h
  · cases h

/-! ## What is made -/

/-- A path leads to a directory in the second file system: it did so in the first one, which has not
changed, or the directory is new.  A new one stands in a directory that did not hold its name,
nothing stands in it, and everything else is as it was. -/
inductive Provides (before : FileSystem) (p : Path) : FileSystem → Prop where
  /-- There was a directory. -/
  | there {l : Location} (leads : before.Leads p l) : Provides before p before
  /-- There is a new one. -/
  | new {l : Location} {name : String} {after : FileSystem}
    (above : before.get? l = some .directory) (absent : before.get? (l ++ [name]) = none)
    (made : after.get? (l ++ [name]) = some .directory)
    (empty : ∀ names, names ≠ [] → after.get? (l ++ [name] ++ names) = none)
    (others : ∀ l', l' ≠ l ++ [name] → after.get? l' = before.get? l')
    (leads : after.Leads p (l ++ [name])) : Provides before p after

lemma Provides.exists_leads (h : fs.Provides p fs') : ∃ l, fs'.Leads p l := by
  cases h with
  | there leads => exact ⟨_, leads⟩
  | new _ _ _ _ _ leads => exact ⟨_, leads⟩

/-- **A directory that is made is the one that the path leads to**, and nothing else has changed. -/
lemma IsTree.provides (htree : fs.IsTree) (h : fs.makeDirectory p = .ok fs') :
    fs.Provides p fs' := by
  rw [FileSystem.makeDirectory] at h
  rcases hway : fs.resolve .itself p with _ | ⟨_, _⟩ | ⟨l, name⟩ <;> rw [hway] at h <;> cases h
  obtain ⟨above, absent⟩ := htree.resolve_stands hway
  refine .new above absent (get?_set_self l name _) (fun names hnames => ?_)
    (fun l' hl' => get?_set_of_ne hl' _) (resolve_set hway rfl (by simp))
  -- there was nothing below the name, since nothing stood at it
  rw [get?_set_of_ne (by simp [hnames])]
  exact htree.get?_below (by simp [absent]) hnames

end FileSystem

namespace LocalDirectory

open FileSystem (IsTree Provides)

variable {σ : Type} {d : LocalDirectory} {name : String} {files files' : FileSystem} {l : Location}

/-! ## Operations on a name -/

/-- A directory is made, or there is one and nothing happens. -/
lemma cases_of_made (h : d.made name files = .ok files') :
    files.makeDirectory (d.pathFor name) = .ok files' ∨
      files.isDirectory (d.pathFor name) = .ok true ∧ files' = files := by
  rw [made] at h
  rcases hmake : files.makeDirectory (d.pathFor name) with ⟨_ | problem⟩ | after <;>
    rw [hmake] at h
  · cases h
  · cases problem <;> try cases h
    rcases hdir : files.isDirectory (d.pathFor name) with fault | ⟨_ | _⟩ <;> rw [hdir] at h <;>
      cases h
    exact .inr ⟨rfl, rfl⟩
  · cases h
    exact .inl rfl

lemma provides_of_made (htree : files.IsTree) (h : d.made name files = .ok files') :
    files.Provides (d.pathFor name) files' := by
  rcases cases_of_made h with hmake | ⟨hdirectory, rfl⟩
  · exact htree.provides hmake
  · obtain ⟨l, hleads⟩ := FileSystem.exists_leads hdirectory
    exact .there hleads

lemma isTree_made (htree : files.IsTree) (h : d.made name files = .ok files') :
    files'.IsTree := by
  rcases cases_of_made h with hmake | ⟨-, rfl⟩
  · exact htree.makeDirectory hmake
  · exact htree

/-- **Where a name leads to a directory, it is not made again.** -/
lemma run_create_of_leads {w : World σ} (h : w.files.Leads (d.pathFor name) l) :
    (d.create name).run w = (.ok (), w) := by
  rw [create]
  simp only [Action.files, Procedure.run_bind, Procedure.run_state, Procedure.run_pure,
    h.makeDirectory, run_leadsToDirectory, h.isDirectory]
  rfl

/-! ## Moves -/

/-- An operation of a local directory. -/
inductive Move where
  /-- A directory is made unless there is one of that name. -/
  | create (name : String)
  /-- A directory is entered. -/
  | enter (name : String)
  /-- The current directory is left. -/
  | leave
  /-- The size of an entry is asked for. -/
  | inspect (name : String)

/-- Performs an operation on the local directory as it stands.  It moves only if nothing fails. -/
def Move.perform : Move → Action LocalDirectory Unit
  | .create name => do (← Action.other).create name
  | .enter name => do
    let d ← (← Action.other).enter name
    Action.changeOther fun _ => d
  | .leave => do
    let d ← (← Action.other).leave
    Action.changeOther fun _ => d
  | .inspect name => do
    let _ ← (← Action.other).inspect name
    return ()

/-- Worlds that moves come to from the destination, whether they fail or not, while others change
the files. -/
inductive Reached : World LocalDirectory → Prop where
  /-- Nothing has happened yet. -/
  | start {files : FileSystem} (root : Path) (tree : files.IsTree) :
    Reached ⟨files, .atRoot root, []⟩
  /-- A move is made. -/
  | moves {w : World LocalDirectory} (past : Reached w) (m : Move) : Reached (m.perform.run w).2
  /-- The files are changed from outside. -/
  | changes {w : World LocalDirectory} {files : FileSystem} (past : Reached w)
    (tree : files.IsTree) : Reached { w with files }

variable {w w' : World LocalDirectory}

/-- The end of a move that changes the local directory. -/
def moved (w : World LocalDirectory) : Except Failure LocalDirectory →
    Except Failure Unit × World LocalDirectory
  | .ok d => (.ok (), { w with other := d })
  | .error f => (.error f, w)

lemma files_moved (result : Except Failure LocalDirectory) :
    (moved w result).2.files = w.files := by
  cases result <;> rfl

lemma eq_of_moved_error {result : Except Failure LocalDirectory} {f : Failure}
    (h : moved w result = (.error f, w')) : w' = w := by
  cases result with
  | ok d => cases h
  | error f => exact (Prod.ext_iff.mp h).2.symm

/-- Making a directory changes the files as `made` says, or nothing. -/
lemma ensures_perform_create (w : World LocalDirectory) (name : String) :
    Procedure.Ensures (fun v => v = w) (Move.create name).perform
      (fun _ w' => w.other.made name w.files = .ok w'.files ∧ w'.other = w.other)
      (fun _ w' => w' = w) := by
  rintro v rfl
  exact (ensures_create v).mono (fun _ hv => hv) (fun _ _ hmade => ⟨hmade.1, hmade.2.2⟩)
    (fun _ _ hfailed => hfailed.2) v rfl

lemma run_perform_enter :
    (Move.enter name).perform.run w = moved w (w.other.entered name w.files) := by
  show Procedure.run (w.other.enter name >>= _) w = _
  rw [Procedure.run_bind, run_enter]
  rcases w.other.entered name w.files with f | d <;> rfl

lemma run_perform_leave : Move.leave.perform.run w = moved w (w.other.left w.files) := by
  show Procedure.run (w.other.leave >>= _) w = _
  rw [Procedure.run_bind, run_leave]
  rcases w.other.left w.files with f | d <;> rfl

lemma run_perform_inspect :
    (Move.inspect name).perform.run w =
      ((w.other.inspected name w.files).map fun _ => (), w) := by
  show Procedure.run (w.other.inspect name >>= _) w = _
  rw [Procedure.run_bind, run_inspect]
  rcases w.other.inspected name w.files with f | size <;> rfl

/-- **A move that fails changes nothing.** -/
lemma eq_of_perform_error {m : Move} {f : Failure} (h : m.perform.run w = (.error f, w')) :
    w' = w := by
  cases m with
  | create name =>
    have hcreate := ensures_perform_create w name w rfl
    rw [h] at hcreate
    exact hcreate
  | enter name => exact eq_of_moved_error (run_perform_enter.symm.trans h)
  | leave => exact eq_of_moved_error (run_perform_leave.symm.trans h)
  | inspect name => exact (Prod.ext_iff.mp (run_perform_inspect.symm.trans h)).2.symm

/-- **Only making a directory changes the files.** -/
lemma files_perform {m : Move} (h : ∀ name, m ≠ .create name) :
    (m.perform.run w).2.files = w.files := by
  cases m with
  | create name => exact absurd rfl (h name)
  | enter name => rw [run_perform_enter, files_moved]
  | leave => rw [run_perform_leave, files_moved]
  | inspect name => rw [run_perform_inspect]

/-- What a directory that was made comes to. -/
lemma made_of_perform (h : (Move.create name).perform.run w = (.ok (), w')) :
    w.other.made name w.files = .ok w'.files ∧ w'.other = w.other := by
  have hcreate := ensures_perform_create w name w rfl
  rw [h] at hcreate
  exact hcreate

/-! ## Worlds that are reached -/

/-- A move leaves a tree. -/
lemma isTree_perform (htree : w.files.IsTree) (m : Move) : (m.perform.run w).2.files.IsTree := by
  by_cases hcreate : ∃ name, m = .create name
  · obtain ⟨name, rfl⟩ := hcreate
    rcases hrun : (Move.create name).perform.run w with ⟨f | _, w'⟩
    · rw [eq_of_perform_error hrun]
      exact htree
    · exact isTree_made htree (made_of_perform hrun).1
  · rw [files_perform fun name hm => hcreate ⟨name, hm⟩]
    exact htree

lemma Reached.isTree (h : Reached w) : w.files.IsTree := by
  induction h with
  | start _ tree => exact tree
  | moves _ m ih => exact isTree_perform ih m
  | changes _ tree => exact tree

/-- Changes from outside are changes of the files. -/
lemma Reached.after (h : Reached w) (changes : List FileChange) :
    Reached { w with files := FileChange.after w.files changes } :=
  h.changes (FileChange.isTree_after h.isTree changes)

/-! ## Matching -/

/-- What follows from making a directory: it is made once, and is entered and left again. -/
structure Matches (w : World LocalDirectory) (name : String) (w' : World LocalDirectory) :
    Prop where
  /-- There is a directory afterwards, a new and empty one unless there was one before. -/
  provides : w.files.Provides (w.other.pathFor name) w'.files
  /-- The local directory is where it was. -/
  place : w'.other = w.other
  /-- Making it again changes nothing. -/
  again : (Move.create name).perform.run w' = (.ok (), w')
  /-- Entering it adds its name. -/
  enters : (Move.enter name).perform.run w' =
    (.ok (), { w' with other := ⟨w.other.root, w.other.parts ++ [name]⟩ })
  /-- Leaving it leads back. -/
  leaves : Move.leave.perform.run { w' with other := ⟨w.other.root, w.other.parts ++ [name]⟩ } =
    (.ok (), w')

/-- **The operations match.**  Wherever moves have come to while others changed the files, a
directory that is made under any name is made once, can be entered under exactly this name, and can
be left again; a move that fails has changed nothing; and none but the making of a directory changes
the files. -/
theorem moves_match (h : Reached w) :
    (∀ name w', (Move.create name).perform.run w = (.ok (), w') → Matches w name w') ∧
      (∀ (m : Move) f w', m.perform.run w = (.error f, w') → w' = w) ∧
      ∀ m : Move, (∀ name, m ≠ .create name) → (m.perform.run w).2.files = w.files := by
  refine ⟨fun name w' hrun => ?_, fun m f w' => eq_of_perform_error, fun m => files_perform⟩
  obtain ⟨hmade, hplace⟩ := made_of_perform hrun
  have hprovides := provides_of_made h.isTree hmade
  obtain ⟨l, hleads⟩ := hprovides.exists_leads
  refine ⟨hprovides, hplace, ?_, ?_, ?_⟩
  · show (w'.other.create name).run w' = _
    rw [hplace, run_create_of_leads hleads]
  · rw [run_perform_enter, hplace, entered_of_leads hleads]
    rfl
  · rw [run_perform_leave]
    dsimp only
    rw [left_of_leads hleads, moved, ← hplace]

/-- The world at a directory that holds a link that leads nowhere. -/
def sampleWorld : World LocalDirectory where
  files := FileChange.after .empty [.directory (.ofString "d"), .link (.ofString "d/l") "x"]
  other := .atRoot (.ofString "d")
  events := []

/-- There a new directory is made, and none in place of the link. -/
theorem moves_match_sample :
    (∃ w', (Move.create "a").perform.run sampleWorld = (.ok (), w') ∧
        w'.files.get? ["d", "a"] = some .directory ∧ Matches sampleWorld "a" w') ∧
      (∃ f, (Move.create "l").perform.run sampleWorld = (.error f, sampleWorld)) ∧
      (Move.leave.perform.run sampleWorld).2.files = sampleWorld.files := by
  have hreached : Reached sampleWorld :=
    (Reached.start (.ofString "d") FileSystem.isTree_empty).after
      [.directory (.ofString "d"), .link (.ofString "d/l") "x"]
  obtain ⟨hcreates, hfails, hkeeps⟩ := moves_match hreached
  refine ⟨⟨_, rfl, rfl, hcreates "a" _ rfl⟩, ?_, hkeeps .leave nofun⟩
  rcases hrun : (Move.create "l").perform.run sampleWorld with ⟨f | _, w'⟩
  · exact ⟨f, by rw [hfails _ f w' hrun]⟩
  · cases hrun

end LocalDirectory

end Replica
