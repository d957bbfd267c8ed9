import Replica.Proofs.Foothold
import Replica.Proofs.Rounds
import Replica.Remote.InMemory
/-!
# What a run can change

Names come from the device and are not to be trusted, and a run may be stopped at any point.
Still, with a remote tree that writes nowhere but where it is told to (`Remote.KeepsToTarget`),
a run changes nothing but what it was sent to change.

* **Reasons.**  `MadeFor` and `FetchedTo` are what may stand behind a changed location: a folder
  that was taken there, where nothing was before, or a file that was fetched to there and whose
  declared size was not that of the file before.
* **Courses.**  `Confined` is the invariant.  It is kept by every `Deed`, `Halt` and `Course`,
  whatever the remote tree answers.
* **Runs.**  Runs that end in any of the ways of `Ends` are confined, and every run ends in one.
-/

namespace Replica

open FileSystem (LinkFree Preserves)

variable {σ : Type}

/-- The remote tree leaves the local files alone, except that a fetch may write something to its
target. -/
structure Remote.KeepsToTarget (r : Remote σ) : Prop where
  listStorages : ∀ other files, (r.listStorages other files).2.files = files
  listChildren : ∀ storage container other files,
    (r.listChildren storage container other files).2.files = files
  fetch : ∀ file target other files, (r.fetch file target other files).2.files = files ∨
    ∃ content, files.writeFile target content = .ok (r.fetch file target other files).2.files

/-- A remote tree in memory that no effects disturb keeps to its targets. -/
lemma InMemory.keepsToTarget {m : InMemory} (h : m.effects = []) : m.remote.KeepsToTarget where
  listStorages _ _ := rfl
  listChildren storage container other files := by
    have hquiet : m.effectsOf container = [] := by simp [InMemory.effectsOf, h]
    show (m.listChildren storage container other files).2.files = files
    rw [InMemory.listChildren]
    rw [hquiet]
    dsimp only [FileChange.applyAll]
    split_ifs <;> rfl
  fetch file target other files := by
    show (m.fetch file target other files).2.files = files ∨
      ∃ content, files.writeFile target content = .ok (m.fetch file target other files).2.files
    rw [InMemory.fetch]
    split_ifs
    · exact .inl rfl
    · rcases hwrite : files.writeFile target (InMemory.contentOf file) with fault | files'
      · exact .inl rfl
      · exact .inr ⟨_, hwrite⟩

/-- The step is one of `steps` that came after the steps `base`. -/
def TakenSince (base steps : List (Standing × Step)) (x : Standing × Step) : Prop :=
  ∃ new, steps = new ++ base ∧ x ∈ new

lemma TakenSince.note {base steps : List (Standing × Step)} {x : Standing × Step}
    (h : TakenSince base steps x) (y : Standing × Step) : TakenSince base (y :: steps) x := by
  obtain ⟨new, rfl, hx⟩ := h
  exact ⟨y :: new, rfl, List.mem_cons_of_mem _ hx⟩

lemma takenSince_note {base steps : List (Standing × Step)} (h : base <:+ steps)
    (x : Standing × Step) : TakenSince base (x :: steps) x := by
  obtain ⟨new, rfl⟩ := h
  exact ⟨x :: new, rfl, List.mem_cons_self⟩

section Explained

open Walk (spot)

variable (base steps : List (Standing × Step)) (before after : FileSystem) (root : Path)
  (top l : Location)

/-- A folder was taken at `l`, where there was nothing before, and now a directory is there. -/
def MadeFor : Prop :=
  ∃ above ids folder name, l = top ++ (above ++ [name]) ∧ (∀ n ∈ above, isSegment n = true) ∧
    folder.Calls name ∧ folder.isContainer = true ∧
    TakenSince base steps (spot above ids, .taken folder) ∧
    before.get? l = none ∧ after.get? l = some .directory

/-- The content of a file was asked for, to be put at `l`; the file was taken there, and it did
not have the size of a file that was there before. -/
def FetchedTo : Prop :=
  ∃ above ids file name, l = top ++ (above ++ [name]) ∧ (∀ n ∈ above, isSegment n = true) ∧
    file.Calls name ∧ file.isContainer = false ∧
    TakenSince base steps (spot above ids, .taken file) ∧
    TakenSince base steps (spot above ids, .fetching file (root.below (above ++ [name]))) ∧
    ∀ c m, before.get? l = some (.file c m) → file.declaredSize ≠ some (c.length : Int)

end Explained

namespace Walk

/-- What a walk may do to the files: everything that was there is preserved, no links come up
below the destination, and every change has its reason. -/
structure Confined (base : List (Standing × Step)) (before : FileSystem) (root : Path)
    (top : Location) (a : Account σ) : Prop where
  suffix : base <:+ a.steps
  preserves : Preserves before a.files
  linkFree : a.files.LinkFree top
  explained : ∀ l, a.files.get? l ≠ before.get? l →
    MadeFor base a.steps before a.files top l ∨ FetchedTo base a.steps before root top l

variable {base : List (Standing × Step)} {before : FileSystem} {root : Path} {top : Location}
  {p : Plan σ} {storage : Int} {above : List String} {ids : List Int} {child : Node}
  {a a' : Account σ}

namespace Confined

/-- Only the files and the steps matter. -/
lemma congr (h : Confined base before root top a) (hfiles : a'.files = a.files)
    (hsteps : a'.steps = a.steps) : Confined base before root top a' := by
  obtain ⟨hsuffix, hpreserves, hlinkFree, hexplained⟩ := h
  refine ⟨hsteps ▸ hsuffix, hfiles ▸ hpreserves, hfiles ▸ hlinkFree, fun l hl => ?_⟩
  have := hexplained l (hfiles ▸ hl)
  rw [MadeFor, FetchedTo] at this ⊢
  rwa [hfiles, hsteps]

lemma note (h : Confined base before root top a) (s : Standing) (what : Step) :
    Confined base before root top (a.note s what) := by
  obtain ⟨hsuffix, hpreserves, hlinkFree, hexplained⟩ := h
  refine ⟨hsuffix.trans (List.suffix_cons _ _), hpreserves, hlinkFree, fun l hl => ?_⟩
  rcases hexplained l hl with
    ⟨above, ids, folder, name, hl, hnames, hcalls, hfolder, htook, hrest⟩ |
    ⟨above, ids, file, name, hl, hnames, hcalls, hfile, htook, hfetching, hrest⟩
  · exact .inl ⟨above, ids, folder, name, hl, hnames, hcalls, hfolder, htook.note (s, what), hrest⟩
  · exact .inr ⟨above, ids, file, name, hl, hnames, hcalls, hfile, htook.note (s, what),
      hfetching.note (s, what), hrest⟩

/-- Other files are confined if they are preserved and every first change has a reason. -/
lemma withFiles (h : Confined base before root top a) (hfiles : Preserves a.files a'.files)
    (hlinkFree : a'.files.LinkFree top) (hsteps : a'.steps = a.steps)
    (hnew : ∀ l, a'.files.get? l ≠ a.files.get? l → a.files.get? l = before.get? l →
      MadeFor base a'.steps before a'.files top l ∨
        FetchedTo base a'.steps before root top l) :
    Confined base before root top a' := by
  obtain ⟨hsuffix, hpreserves, -, hexplained⟩ := h
  refine ⟨hsteps ▸ hsuffix, hpreserves.trans hfiles, hlinkFree, fun l hl => ?_⟩
  by_cases hfirst : a.files.get? l = before.get? l
  · exact hnew l (hfirst ▸ hl) hfirst
  · have := hexplained l hfirst
    rw [MadeFor, FetchedTo] at this ⊢
    rw [hsteps]
    -- a directory that was made stays one
    rcases this with
      ⟨above, ids, folder, name, hl, hnames, hcalls, hfolder, htook, habsent, hdir⟩ | hfetched
    · exact .inl ⟨above, ids, folder, name, hl, hnames, hcalls, hfolder, htook, habsent,
        hfiles.directory l hdir⟩
    · exact .inr hfetched

/-- A listing that leaves the files alone. -/
lemma listing (h : Confined base before root top a) {container : Option Int} {w : World σ}
    (hsame : w.files = a.files) (s : Standing) :
    Confined base before root top (a.listing s storage container w) := by
  have hnote := h.note s (.listing storage container)
  exact hnote.congr hsame rfl

lemma listed (h : Confined base before root top a) {container : Option Int} {w : World σ}
    (hsame : w.files = a.files) (s : Standing) (children : List Node) :
    Confined base before root top (a.listed p s storage container children w) := by
  have hlisting : Confined base before root top (a.listing s storage container w) :=
    h.listing hsame s
  exact (hlisting.note s (.listed children)).congr rfl rfl

/-- The directory of a folder is made. -/
lemma made (h : Confined base before root top a) (hfoot : Foothold a.files root top above)
    {name : String} {files : FileSystem} (hcalls : child.Calls name)
    (hfolder : child.isContainer = true)
    (htook : TakenSince base a.steps (spot above ids, .taken child))
    (hmade : LocalDirectory.made ⟨root, above⟩ name a.files = .ok files) :
    Confined base before root top (a.withFiles files) := by
  obtain ⟨hpreserves, hlinkFree⟩ := hfoot.preserves_made hcalls.segment hmade
  refine h.withFiles hpreserves hlinkFree rfl fun l hl hfirst => .inl ?_
  obtain ⟨hdir, hother⟩ := hfoot.get?_made hcalls.segment hmade
  obtain rfl : l = top ++ above ++ [name] := by
    by_contra hne
    exact hl (hother l hne)
  refine ⟨above, ids, child, name, List.append_assoc .., hfoot.names, hcalls, hfolder, htook, ?_,
    hdir⟩
  rcases ((hfoot.made hcalls.segment).mp hmade).2 with ⟨habsent, -⟩ | ⟨hthere, rfl⟩
  · exact hfirst ▸ habsent
  · exact absurd rfl hl

/-- A folder is entered. -/
lemma entered (h : Confined base before root top a) (hfoot : Foothold a.files root top above)
    {name : String} {files : FileSystem} (hcalls : child.Calls name)
    (hfolder : child.isContainer = true)
    (hmade : LocalDirectory.made ⟨root, above⟩ name a.files = .ok files) :
    Confined base before root top
      ((a.note (spot above ids) (.taken child)).entered above ids child name files) := by
  have hwith := (h.note (spot above ids) (.taken child)).made hfoot hcalls hfolder
    (takenSince_note h.suffix _) hmade
  exact (hwith.note _ _).congr rfl rfl

/-- A file is looked at. -/
lemma looked (h : Confined base before root top a) :
    Confined base before root top (a.looked above ids child) := by
  have hcount : Confined base before root top
      (a.count fun c => { c with files := c.files + 1 }) := h.congr rfl rfl
  exact hcount.note _ _

/-- A file is compared. -/
lemma compared (h : Confined base before root top a) :
    Confined base before root top (a.compared above ids child) :=
  h.looked.note _ _

/-- A file that is due is asked for, and at most its target is written. -/
lemma asked (h : Confined base before root top a) (hfoot : Foothold a.files root top above)
    {name : String} {w : World σ} (htook : TakenSince base a.steps (spot above ids, .taken child))
    (hlooked : Looked p root above child a name .due)
    (hkeeps : w.files = a.files ∨
      ∃ content, a.files.writeFile (LocalDirectory.pathFor ⟨root, above⟩ name) content =
        .ok w.files) :
    Confined base before root top
      (a.asked above ids child (LocalDirectory.pathFor ⟨root, above⟩ name) w) := by
  have hseg := hlooked.calls.segment
  have hcompared : Confined base before root top (a.compared above ids child) := h.compared
  have hfetching := hcompared.note (spot above ids)
    (.fetching child (LocalDirectory.pathFor ⟨root, above⟩ name))
  rcases hkeeps with hsame | ⟨content, hwrite⟩
  · exact hfetching.congr hsame rfl
  obtain ⟨hpreserves, hlinkFree⟩ := hfoot.preserves_writeFile hseg hwrite
  obtain ⟨-, -, hfiles⟩ := (hfoot.writeFile hseg).mp hwrite
  refine hfetching.withFiles hpreserves hlinkFree rfl fun l hl hfirst => .inr ?_
  have hl' : w.files.get? l ≠ a.files.get? l := hl
  obtain rfl : l = top ++ above ++ [name] := by
    by_contra hne
    rw [hfiles, FileSystem.get?_set_of_ne hne] at hl'
    exact hl' rfl
  refine ⟨above, ids, child, name, List.append_assoc .., hfoot.names, hlooked.calls, hlooked.file,
    ?_, ?_, fun c m hbefore hsize => ?_⟩
  · exact ((htook.note _).note _).note _
  · rw [← Path.below_below, ← hfoot.pathFor hseg]
    exact takenSince_note hcompared.suffix _
  · -- a file of the declared size would have been up to date
    obtain ⟨size, hinspected, hverdict⟩ := hlooked.size
    obtain ⟨-, rfl⟩ := hfoot.inspected hseg hinspected
    have hfile : a.files.get? (top ++ above ++ [name]) = some (.file c m) := hfirst.trans hbefore
    rw [hfile] at hverdict
    have hsame : p.verdict child (some c.length) = .upToDate :=
      Plan.verdict_eq_upToDate.mpr ⟨c.length, rfl, hsize⟩
    rw [FileSystem.sizeAt, hsame] at hverdict
    cases hverdict

end Confined

/-! ## Courses -/

/-- A file that is asked for is written or left alone, so what was there is preserved. -/
lemma preserves_asked (hfoot : Foothold a.files root top above) {name : String} {w : World σ}
    (hseg : isSegment name = true)
    (hkeeps : w.files = a.files ∨
      ∃ content, a.files.writeFile (LocalDirectory.pathFor ⟨root, above⟩ name) content =
        .ok w.files) :
    Preserves a.files w.files := by
  rcases hkeeps with hsame | ⟨content, hwrite⟩
  · rw [hsame]
    exact Preserves.refl _
  · exact (hfoot.preserves_writeFile hseg hwrite).1

section Courses

variable (hkeeps : p.remote.KeepsToTarget)
include hkeeps

lemma keeps_answer {target : Path} {r : Except Failure Bool} {w : World σ}
    (answer : p.remote.fetch child target a.other a.files = (r, w)) :
    w.files = a.files ∨ ∃ content, a.files.writeFile target content = .ok w.files := by
  have := hkeeps.fetch child target a.other a.files
  rwa [answer] at this

lemma keeps_listing {container : Option Int} {r : Except Failure (List Node)} {w : World σ}
    (answer : p.remote.listChildren storage container a.other a.files = (r, w)) :
    w.files = a.files := by
  have := hkeeps.listChildren storage container a.other a.files
  rwa [answer] at this

/-- A child that is not gone through leaves the files confined. -/
lemma Deed.confined (h : Deed p root above ids child a a')
    (hc : Confined base before root top a) (hfoot : Foothold a.files root top above)
    (htook : TakenSince base a.steps (spot above ids, .taken child)) :
    Confined base before root top a' ∧ Preserves a.files a'.files := by
  cases h with
  | passOver _ => exact ⟨hc.congr rfl rfl, Preserves.refl _⟩
  | skip _ => exact ⟨(hc.compared).congr rfl rfl, Preserves.refl _⟩
  | leaveOut _ => exact ⟨(hc.compared).congr rfl rfl, Preserves.refl _⟩
  | fetch hlooked answer =>
    have hanswer := keeps_answer hkeeps answer
    exact ⟨((hc.asked hfoot htook hlooked hanswer).note _ _).congr rfl rfl,
      preserves_asked hfoot hlooked.calls.segment hanswer⟩
  | miss hlooked answer _ =>
    have hanswer := keeps_answer hkeeps answer
    exact ⟨((hc.asked hfoot htook hlooked hanswer).note _ _).congr rfl rfl,
      preserves_asked hfoot hlooked.calls.segment hanswer⟩

/-- A child that stops the run leaves the files confined. -/
lemma Halt.confined {f : Failure} (h : Halt p root above ids child a f a')
    (hc : Confined base before root top a) (hfoot : Foothold a.files root top above)
    (htook : TakenSince base a.steps (spot above ids, .taken child)) :
    Confined base before root top a' ∧ Preserves a.files a'.files := by
  cases h with
  | unreadable _ => exact ⟨hc, Preserves.refl _⟩
  | cycle _ _ _ => exact ⟨hc, Preserves.refl _⟩
  | unnamedFolder _ _ _ => exact ⟨hc, Preserves.refl _⟩
  | notMade _ _ _ _ => exact ⟨hc, Preserves.refl _⟩
  | notEntered hcalls hfolder _ hmade _ =>
    exact ⟨hc.made hfoot hcalls hfolder htook hmade,
      (hfoot.preserves_made hcalls.segment hmade).1⟩
  | oversized _ _ _ => exact ⟨hc.looked, Preserves.refl _⟩
  | unnamedFile _ _ _ => exact ⟨hc.looked, Preserves.refl _⟩
  | notInspected _ _ _ => exact ⟨hc.compared, Preserves.refl _⟩
  | fetchFailed hlooked answer =>
    have hanswer := keeps_answer hkeeps answer
    exact ⟨hc.asked hfoot htook hlooked hanswer,
      preserves_asked hfoot hlooked.calls.segment hanswer⟩
  | tooMany hlooked answer _ =>
    have hanswer := keeps_answer hkeeps answer
    exact ⟨((hc.asked hfoot htook hlooked hanswer).note _ _).congr rfl rfl,
      preserves_asked hfoot hlooked.calls.segment hanswer⟩

/-- **Every course is confined**, however it ends: by induction on the course, with the foothold
of each directory kept by everything that happens below it. -/
theorem Course.confined {task : Task} {result : Except Stop Unit}
    (h : Course p root storage task above ids a result a')
    (hc : Confined base before root top a) (hfoot : Foothold a.files root top above) :
    Confined base before root top a' ∧ Preserves a.files a'.files := by
  induction h with
  | tooDeep => exact ⟨hc, Preserves.refl _⟩
  | unlisted answer =>
    have hsame := keeps_listing hkeeps answer
    refine ⟨hc.listing hsame _, ?_⟩
    rw [Account.listing, Account.answered_files, hsame]
    exact Preserves.refl _
  | listed answer _ ih =>
    have hsame := keeps_listing hkeeps answer
    have := ih (hc.listed hsame _ _)
    rw [Account.listed, Account.forgotten_files, Account.note_files, Account.listing,
      Account.answered_files, hsame] at this
    exact this hfoot
  | done => exact ⟨hc, Preserves.refl _⟩
  | next _ _ ih₁ ih₂ =>
    obtain ⟨hc₁, hp₁⟩ := ih₁ hc hfoot
    obtain ⟨hc₂, hp₂⟩ := ih₂ hc₁ (hfoot.preserved hp₁ hc₁.linkFree)
    exact ⟨hc₂, hp₁.trans hp₂⟩
  | stopped _ ih => exact ih hc hfoot
  | deed h =>
    have := h.confined hkeeps (hc.note _ _) hfoot (takenSince_note hc.suffix _)
    exact this
  | halt h =>
    have := h.confined hkeeps (hc.note _ _) hfoot (takenSince_note hc.suffix _)
    exact this
  | through hcalls hfolder _ hmade _ _ back ih =>
    -- what was gone through below has kept the directory, so the way back is as the way down
    obtain ⟨hc', hp'⟩ := ih (hc.entered hfoot hcalls hfolder hmade)
      (hfoot.below hcalls.segment hmade)
    have hp := (hfoot.preserves_made hcalls.segment hmade).1.trans hp'
    cases back with
    | back _ => exact ⟨hc'.note _ _, hp⟩
    | lost _ => exact ⟨hc', hp⟩
    | stopped => exact ⟨hc', hp⟩

end Courses

end Walk

/-! ## Runs -/

namespace Run

open Walk (Account Confined)

variable {p : Plan σ} {base : List (Standing × Step)} {before : FileSystem} {top : Location}
  {a a' : Account σ}

/-- The walks of a run leave the files confined. -/
lemma Rounds.confined {storages : List Storage} {result : Except Failure Unit}
    (hkeeps : p.remote.KeepsToTarget) (h : Rounds p storages a result a')
    (hc : Confined base before p.destination top a)
    (hfoot : Foothold a.files p.destination top []) :
    Confined base before p.destination top a' := by
  induction h with
  | done => exact hc
  | next _ walk _ ih =>
    obtain ⟨hc₁, hp₁⟩ := walk.confined hkeeps (hc.congr rfl rfl) hfoot
    exact ih (hc₁.congr rfl rfl) (hfoot.preserved hp₁ hc₁.linkFree)
  | stopped _ walk =>
    have := (walk.confined hkeeps (hc.congr rfl rfl) hfoot).1
    exact this.congr rfl rfl
  | untold _ => exact hc

/-- A run leaves the files confined, in whichever way it ends. -/
lemma Ends.confined {result : Except Failure RunStatistics} (hkeeps : p.remote.KeepsToTarget)
    (h : Ends p a result a') (hc : Confined base before p.destination top a)
    (hfoot : Foothold a.files p.destination top []) :
    Confined base before p.destination top a' := by
  have hsame : ∀ {r w}, p.remote.listStorages a.other a.files = (r, w) → w.files = a.files := by
    intro r w answer
    have := hkeeps.listStorages a.other a.files
    rwa [answer] at this
  cases h with
  | refused _ => exact hc
  | unlisted _ answer => exact hc.congr (hsame answer) rfl
  | unwritten _ answer _ _ | undrawn _ answer _ _ => exact hc.congr (hsame answer) rfl
  | walked _ answer _ rounds _ _ | veiled _ answer _ rounds _ _ =>
    refine rounds.confined hkeeps (hc.congr (hsame answer) rfl) ?_
    rw [Account.forgotten_files, Account.answered_files, hsame answer]
    exact hfoot

/-- **A run changes nothing but what it was sent to change.**  Take any remote tree that keeps to
the targets it is given, any destination without links below it, and any run, whether it returns
or is stopped.  Every changed location has usable names below the destination and is either a new
directory, made for a folder that was taken there, or the target of a file that was asked for.
All directories and files are still there, and a file keeps its content if every file taken at its
location declares its size. -/
theorem run_confined (p : Plan σ) (hkeeps : p.remote.KeepsToTarget) (w : World σ) {top : Location}
    (hdest : w.files.Leads p.destination top) (hlinks : w.files.LinkFree top)
    {result : Except Failure RunStatistics} {w' : World σ}
    (hrun : (start p).run w = (result, w')) :
    (∀ l, w'.files.get? l ≠ w.files.get? l →
      MadeFor w.steps w'.steps w.files w'.files top l ∨
        FetchedTo w.steps w'.steps w.files p.destination top l) ∧
    (∀ l, w.files.get? l = some .directory → w'.files.get? l = some .directory) ∧
    (∀ l c m, w.files.get? l = some (.file c m) → ∃ c' m', w'.files.get? l = some (.file c' m')) ∧
    ∀ l c m, w.files.get? l = some (.file c m) →
      (∀ above ids file name, l = top ++ (above ++ [name]) → file.Calls name →
        file.isContainer = false → TakenSince w.steps w'.steps (Walk.spot above ids, .taken file) →
        file.declaredSize = some (c.length : Int)) →
      w'.files.get? l = some (.file c m) := by
  obtain ⟨result', w'', a', hrun', hends, hfiles, -, hsteps⟩ := run_start p w
  rw [hrun] at hrun'
  cases hrun'
  have hbefore : Confined w.steps w.files p.destination top (p.account w) :=
    ⟨List.suffix_refl _, Preserves.refl _, hlinks, fun l hl => absurd rfl hl⟩
  have hfoot : Foothold w.files p.destination top [] :=
    ⟨by simp, by simpa using hdest, hlinks⟩
  have hc := hends.confined hkeeps hbefore hfoot
  obtain ⟨-, hpreserves, -, hexplained⟩ := hc
  rw [← hfiles] at hpreserves
  rw [← hfiles, ← hsteps] at hexplained
  refine ⟨hexplained, hpreserves.directory, hpreserves.file, fun l c m hl hsizes => ?_⟩
  -- a change would have a reason, and neither reason fits
  by_contra hchanged
  rcases hexplained l (hl ▸ hchanged) with ⟨_, _, _, _, _, _, _, _, _, habsent, -⟩ |
    ⟨above, ids, file, name, hplace, -, hcalls, hfile, htaken, -, hsize⟩
  · rw [habsent] at hl
    cases hl
  · exact hsize c m hl (hsizes above ids file name hplace hcalls hfile htaken)

/-- A folder at the top of the sample. -/
def sampleFolder : Node := ⟨1, none, 7, .string "a", .container, none, .null⟩

/-- The file in it. -/
def sampleFile : Node := ⟨2, some 1, 7, .string "file", .file, some 3, .null⟩

/-- A folder whose name leads out of the destination. -/
def sampleTrap : Node := ⟨3, none, 7, .string "..", .container, none, .null⟩

/-- A device with one storage that holds these nodes. -/
def sampleDevice : InMemory where
  nodes := [sampleFolder, sampleFile, sampleTrap]
  storages := [.object [("id", .int 7)]]
  failingLists := []
  failingFetches := []
  errorsPerFailure := 1
  effects := []

/-- A run that copies it into the directory `d`. -/
def samplePlan : Plan (List String) where
  remote := sampleDevice.remote
  console := ⟨false, true⟩
  display := .blank
  destination := ⟨.relative, ["d"]⟩
  storages := none
  includeAbstract := false
  maxFailures := 10
  depth := 9

/-- The world in which it starts: the directory and nothing else. -/
def sampleWorld : World (List String) := ⟨{ entries := [(["d"], .directory)] }, [], []⟩

lemma sampleWorld_leads : sampleWorld.files.Leads samplePlan.destination ["d"] := by
  rw [FileSystem.Leads]
  decide +kernel

lemma sampleWorld_linkFree : sampleWorld.files.LinkFree ["d"] := by
  intro names t
  simp only [sampleWorld, FileSystem.get?, FileSystem.find]
  split_ifs <;> simp

/-- The file of the sample is new after the run, and that has its reason. -/
theorem run_confined_sample :
    ((start samplePlan).run sampleWorld).2.files.get? ["d", "a", "file"] ≠
        sampleWorld.files.get? ["d", "a", "file"] ∧
      (MadeFor [] ((start samplePlan).run sampleWorld).2.steps sampleWorld.files
          ((start samplePlan).run sampleWorld).2.files ["d"] ["d", "a", "file"] ∨
        FetchedTo [] ((start samplePlan).run sampleWorld).2.steps sampleWorld.files
          samplePlan.destination ["d"] ["d", "a", "file"]) := by
  have hchanged : ((start samplePlan).run sampleWorld).2.files.get? ["d", "a", "file"] ≠
      sampleWorld.files.get? ["d", "a", "file"] := by
    decide +kernel
  exact ⟨hchanged, (run_confined samplePlan (InMemory.keepsToTarget rfl) sampleWorld
    sampleWorld_leads sampleWorld_linkFree (Prod.eta _).symm).1 _ hchanged⟩

end Run

end Replica
