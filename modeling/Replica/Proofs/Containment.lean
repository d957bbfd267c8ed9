import Replica.Proofs.Causes
import Replica.Proofs.Confinement
import Replica.Proofs.Surrogates
/-!
# What gets out of a run

A run is meant to end in one of two ways: it returns, or it stops on a condition.  With a remote
tree that never fails by itself this is almost so.  What else may get out comes from a value that
the device chose, and that is used before it is known to be usable, from a question to the file
system that is not guarded, or from the display, which takes the path of a file for its own
language.

* **Ways out.**  `Escape` lists them, each with where it shows in what the run leaves.
* **Runs.**  `run_contained` shows that there is no other way, apart from folders that are nested
  more deeply than the walk goes.  `not_contained` is a run that takes one of them.
-/

namespace Replica

variable {σ : Type}

namespace Path

/-- Usable names add no null character to a path. -/
lemma hasNull_below_of_usable {p : Path} (hp : p.hasNull = false) {names : List String}
    (hnames : ∀ n ∈ names, isSegment n = true) : (p.below names).hasNull = false := by
  induction names generalizing p with
  | nil => rwa [below_nil]
  | cons n rest ih =>
    rw [show n :: rest = [n] ++ rest from rfl]
    rw [← below_below]
    exact ih (hasNull_below hp (hnames n List.mem_cons_self))
      fun m hm => hnames m (List.mem_cons_of_mem n hm)

end Path

namespace FileSystem

variable {files : FileSystem} {path : Path}

lemma entryOf_of_isDirectory (h : files.isDirectory path = .ok true) :
    files.entryOf path = .ok .directory := by
  rw [isDirectory, ask] at h
  split at h
  · rename_i entry hentry
    cases entry with
    | directory => exact hentry
    | file _ _ | link _ => cases h
  all_goals cases h

/-- A path that leads to a directory leads to something. -/
lemma contains_of_isDirectory (h : files.isDirectory path = .ok true) :
    files.contains path = .ok true := by
  rw [contains, ask]
  rw [entryOf_of_isDirectory h]

/-- It holds no null character. -/
lemma hasNull_of_isDirectory (h : files.isDirectory path = .ok true) : path.hasNull = false := by
  by_contra hnull
  have hentry := entryOf_of_isDirectory h
  rw [entryOf, resolve, if_pos (by simpa using hnull)] at hentry
  cases hentry

end FileSystem

namespace Run

open Walk (Account spot)

variable {p : Plan σ} {a a' : Account σ} {w w' : World σ}

/-- The child that was taken last, and that was at most looked at since. -/
def TakenLast (child : Node) (steps : List (Standing × Step)) : Prop :=
  ∃ since standing earlier, steps = since ++ (standing, .taken child) :: earlier ∧
    ∀ x ∈ since, ∃ path, x.2 = .visited path

/-- The ways in which a failure gets out of a run that is no condition to stop on. -/
inductive Escape (p : Plan σ) (w w' : World σ) : Failure → Prop where
  /-- A name cannot be searched for separators. -/
  | unsearchable {child : Node} {fault : ValueFault} (taken : TakenLast child w'.steps)
    (name : isUsableName child.name = .error fault) : Escape p w w' (.value fault)
  /-- A name passes for usable and is no text. -/
  | unnamed {child : Node} (taken : TakenLast child w'.steps)
    (name : isUsableName child.name = .ok true) (text : child.name.kindName ≠ "str") :
    Escape p w w' (.value (.notName child.name.kindName))
  /-- A name has surrogates, and the system is asked for a path that ends in it. -/
  | unwritable {child : Node} {name path : Text.Unwritable} (taken : TakenLast child w'.steps)
    (surrogates : child.name = .unwritable name) (ending : name.points <:+ path.points) :
    Escape p w w' (.value (.unwritable path))
  /-- The size of a file cannot be written. -/
  | oversized {child : Node} {fault : ValueFault} (taken : TakenLast child w'.steps)
    (file : child.isContainer = false) (name : isUsableName child.name = .ok true)
    (size : Walk.sizeText child.declaredSize = .error fault) : Escape p w w' (.value fault)
  /-- The description of a storage has surrogates, and it is part of a line that is printed. -/
  | unprintable {storages : List Storage} {v : World σ} {storage : Storage}
    {description line : Text.Unwritable} (shown : p.showsActivity = true)
    (answer : p.remote.listStorages w.other w.files = (.ok storages, v))
    (chosen : storage ∈ p.chosen storages)
    (surrogates : storage.description = .unwritable description)
    (part : description.points <:+: line.points) : Escape p w w' (.value (.unwritable line))
  /-- The number of a storage that is wanted and not there cannot be written. -/
  | unwritten {wanted : List Int} {id : Int} {fault : ValueFault}
    (storages : p.storages = some wanted) (asked : id ∈ wanted)
    (text : storageText id = .error fault) : Escape p w w' (.value fault)
  /-- The system does not say whether a path below the destination leads to a directory. -/
  | unanswered {names : List String} {problem : FileProblem}
    (usable : ∀ n ∈ names, isSegment n = true) (system : problem.Unanswered)
    (question : w'.files.isDirectory (p.destination.below names) = .error (.system problem)) :
    Escape p w w' (.file problem (p.destination.below names).text)
  /-- The display is shown and cannot draw its last description, that of the file looked at last or
  the first one if there was none. -/
  | undrawable {cause : String} (shown : p.showsActivity = true)
    (last : p.display.fault? (descriptionAfter w.steps w'.steps) = some cause) :
    Escape p w w' (.undrawable cause)

/-- A display that cannot draw its last description lets that out. -/
lemma Escape.of_undrawn {cause : String}
    (h : p.undrawn? (descriptionAfter w.steps w'.steps) = some cause) :
    Escape p w w' (.undrawable cause) := by
  rw [Plan.undrawn?, Display.undrawn?] at h
  split at h
  next hshown => exact .undrawable hshown h
  next => cases h

/-- What is wrong with a name that passes for usable lets a failure out. -/
lemma Escape.of_nameFault {child : Node} {place : LocalDirectory}
    (htaken : TakenLast child w'.steps) (hname : isUsableName child.name = .ok true)
    (htext : ∀ s, child.name ≠ .string s) :
    Escape p w w' (.value (place.nameFault child.name)) := by
  rcases hjson : child.name with _ | _ | ⟨_ | _⟩ | s | t | _ | _
  case string => exact absurd hjson (htext s)
  case unwritable => exact .unwritable htaken hjson (List.suffix_append _ _)
  all_goals
    rw [← hjson]
    have hunnamed : Escape p w w' (.value (.notName child.name.kindName)) :=
      .unnamed htaken hname (by simp [hjson, Json.kindName])
    rwa [hjson] at hunnamed ⊢

/-- A storage that cannot be introduced lets a failure out. -/
lemma Escape.of_untold {storages : List Storage} {v : World σ} {storage : Storage}
    {line : Text.Unwritable}
    (hanswer : p.remote.listStorages w.other w.files = (.ok storages, v))
    (hchosen : storage ∈ p.chosen storages) (huntold : p.untold? storage = some line) :
    Escape p w w' (.value (.unwritable line)) := by
  rw [Plan.untold?] at huntold
  split_ifs at huntold with hshown
  obtain ⟨description, hpart, hinfix⟩ := Json.exists_of_unwritable?_joined huntold
  have hdescription : storage.description = .unwritable description := by
    simp only [List.mem_cons, List.not_mem_nil, or_false, reduceCtorEq, false_or] at hpart
    rw [Json.orElse] at hpart
    split_ifs at hpart
    exact hpart.symm
  exact .unprintable hshown hanswer hchosen hdescription hinfix

lemma takenLast_note (child : Node) (standing : Standing) (steps : List (Standing × Step)) :
    TakenLast child ((standing, .taken child) :: steps) :=
  ⟨[], standing, steps, rfl, by simp⟩

lemma TakenLast.visited {child : Node} {steps : List (Standing × Step)}
    (h : TakenLast child steps) (standing : Standing) (path : String) :
    TakenLast child ((standing, .visited path) :: steps) := by
  obtain ⟨since, standing', earlier, rfl, hvisited⟩ := h
  refine ⟨(standing, .visited path) :: since, standing', earlier, rfl, fun x hx => ?_⟩
  rcases List.mem_cons.mp hx with rfl | hx
  · exact ⟨path, rfl⟩
  · exact hvisited x hx

/-- How the local directory refuses an operation on usable names below the destination. -/
lemma escape_of_refuses {names : List String} {f : Failure}
    (hdest : p.destination.hasNull = false) (hnames : ∀ n ∈ names, isSegment n = true)
    (h : LocalDirectory.Refuses w'.files (p.destination.below names) f) :
    (∃ c, f = .abort c) ∨ Escape p w w' f := by
  cases h with
  | directory fault => exact .inl ⟨_, rfl⟩
  | inspection fault => exact .inl ⟨_, rfl⟩
  | nullCharacter hnull =>
    rw [Path.hasNull_below_of_usable hdest hnames] at hnull
    cases hnull
  | unanswered system question => exact .inr (.unanswered hnames system question)

/-- A walk over a remote tree that never fails stops on a condition, has no level left, or lets a
failure out. -/
lemma escape_of_cause {stop : Walk.Stop} (hc : Walk.Cause p.walk p.destination stop a)
    (hw : a.Describes w') (hremote : ∀ f, ¬p.remote.Raises f)
    (hdest : p.destination.hasNull = false) :
    (∃ c, stop.failure = .abort c) ∨ stop.failure = .tooDeep ∨ Escape p w w' stop.failure := by
  obtain ⟨hfiles, -, hsteps⟩ := hw
  have hrefuses : ∀ {above name files f}, (∀ n ∈ above, isSegment n = true) →
      isSegment name = true → w'.files = files →
      LocalDirectory.Refuses files (LocalDirectory.pathFor ⟨p.destination, above⟩ name) f →
      (∃ c, f = .abort c) ∨ f = .tooDeep ∨ Escape p w w' f := by
    rintro above name _ f hnames hname rfl h
    rw [LocalDirectory.pathFor_eq hnames hname] at h
    exact (escape_of_refuses hdest (usable_concat hnames hname) h).imp_right .inr
  cases hc with
  | tooDeep _ => exact .inr (.inl rfl)
  | unlisted answer => exact absurd (.children answer) (hremote _)
  | lost hnames hleft =>
    exact hrefuses (fun n hn => hnames n (List.mem_append_left _ hn))
      (hnames _ (List.mem_append_right _ List.mem_cons_self)) hfiles
      (LocalDirectory.refuses_of_left hleft)
  | @halted above ids child f b _ hnames hh =>
    have htaken : TakenLast child (b.note (spot above ids) (.taken child)).steps :=
      takenLast_note child _ _
    cases hh with
    | unreadable hname => exact .inr (.inr (.unsearchable (hsteps ▸ htaken) hname))
    | cycle _ _ _ | tooMany _ _ _ => exact .inl ⟨_, rfl⟩
    | unnamedFolder hname _ htext =>
      exact .inr (.inr (.of_nameFault (hsteps ▸ htaken) hname htext))
    | notMade hcalls _ _ hmade =>
      exact hrefuses hnames hcalls.segment hfiles (LocalDirectory.refuses_of_made hmade)
    | notEntered hcalls _ _ _ hentered =>
      exact hrefuses hnames hcalls.segment hfiles (LocalDirectory.refuses_of_entered hentered)
    | oversized hname hfile hsize =>
      exact .inr (.inr (.oversized (hsteps ▸ htaken.visited _ _) hfile hname hsize))
    | unnamedFile hname _ htext =>
      exact .inr (.inr (.of_nameFault (hsteps ▸ htaken.visited _ _) hname htext))
    | notInspected hcalls _ hinspected =>
      exact hrefuses hnames hcalls.segment hfiles (LocalDirectory.refuses_of_inspected hinspected)
    | fetchFailed _ answer => exact absurd (.fetch answer) (hremote _)

/-- A destination that is there is not refused. -/
lemma Plan.checked_of_isDirectory {files : FileSystem}
    (h : files.isDirectory p.destination = .ok true) : p.checked files = .ok () := by
  rw [Plan.checked, FileSystem.contains_of_isDirectory h, h]

/-- A remote tree with one storage, which holds these nodes; no content is ever delivered. -/
def steadyRemote (nodes : List Node) : Remote Unit where
  listStorages _ files := (.ok [⟨7, .string "", .null, .null⟩], ⟨files, (), []⟩)
  listChildren _ _ _ files := (.ok nodes, ⟨files, (), []⟩)
  fetch _ _ _ files := (.ok false, ⟨files, (), []⟩)
  errors _ := []
  forgetErrors := id

/-- It never fails by itself. -/
lemma steadyRemote_not_raises (nodes : List Node) (f : Failure) :
    ¬(steadyRemote nodes).Raises f := by
  rintro (answer | answer | answer) <;> cases answer

/-- A size of 401 digits. -/
def vastSize : Int := Int.ofNat (Nat.pow 10 200 * Nat.pow 10 200)

/-- The fields of a file of that size. -/
def vastFields : List (String × Json) :=
  [("id", .int 2), ("storage_id", .int 7), ("name", .string "file"), ("type", .string "file"),
    ("file_size", .int vastSize)]

/-- The node that they describe. -/
def vastFile : Node := ⟨2, none, 7, .string "file", .file, some vastSize, .string "file"⟩

lemma ofJson_vastFields : Node.ofJson (.object vastFields) = .ok vastFile := rfl

/-- A run that meets it. -/
def vastPlan : Plan Unit where
  remote := steadyRemote [vastFile]
  console := ⟨false, true⟩
  display := .blank
  destination := ⟨.relative, ["d"]⟩
  storages := none
  includeAbstract := false
  maxFailures := 10
  depth := 9

/-- The world in which it starts: the destination and nothing else. -/
def vastWorld : World Unit := ⟨{ entries := [(["d"], .directory)] }, (), []⟩

lemma vastWorld_isDirectory :
    vastWorld.files.isDirectory vastPlan.destination = .ok true := by
  decide +kernel

/-- The size cannot be written, and that is how the run ends. -/
lemma vastPlan_run :
    ((start vastPlan).run vastWorld).1 = .error (.value .quotientOutOfRange) := by
  decide +kernel

end Run

end Replica
