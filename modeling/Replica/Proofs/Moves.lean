import Replica.Proofs.Ensures
import Replica.Proofs.Resolution
/-!
# What a local directory does to the files

Each operation of a local directory is one question to the file system, followed by a choice
between going on and stopping.  `LocalDirectory.made`, `entered`, `left` and `inspected` give the
outcome of that choice as a function of the file system alone; the operations themselves do what
these say and, but for a log record, nothing else (`ensures_create`, `run_enter`, `run_leave`,
`run_inspect`).

At a `FileSystem.Site` the outcomes are read off what stands at the name.
-/

namespace Replica

/-- The step in an event, if it is one. -/
def Event.step? : Event → Option (Standing × Step)
  | .step standing what => some (standing, what)
  | _ => none

/-- The steps of walks that a world has seen, the newest first. -/
def World.steps {σ : Type} (w : World σ) : List (Standing × Step) :=
  w.events.filterMap Event.step?

/-- The paths of the files looked at in these steps, in their order. -/
def visits (steps : List (Standing × Step)) : List String := steps.filterMap (·.2.visited?)

lemma World.visits_eq {σ : Type} (w : World σ) : w.visits = Replica.visits w.steps := by
  rw [World.visits, Replica.visits, World.steps, List.filterMap_filterMap]
  congr 1
  funext e
  cases e <;> rfl

namespace LocalDirectory

variable {σ : Type} {d : LocalDirectory} {name : String} {files files' : FileSystem}

/-! ## Outcomes -/

/-- The file system with a directory of that name, or why there is none. -/
def made (d : LocalDirectory) (name : String) (files : FileSystem) : Except Failure FileSystem :=
  match files.makeDirectory (d.pathFor name) with
  | .ok files' => .ok files'
  | .error .nullCharacter => .error .nullCharacter
  | .error (.system .occupied) =>
    match files.isDirectory (d.pathFor name) with
    | .ok true => .ok files
    | .ok false => .error (.abort (.directory (d.fault .blocked name)))
    | .error fault => .error (.ofPathFault (d.pathFor name) fault)
  | .error (.system problem) => .error (.abort (.directory (d.fault (.notMade problem) name)))

/-- The local directory one step down, or why it is not entered. -/
def entered (d : LocalDirectory) (name : String) (files : FileSystem) :
    Except Failure LocalDirectory :=
  match files.isDirectory (d.pathFor name) with
  | .ok true => .ok { d with parts := d.parts ++ [name] }
  | .ok false => .error (.abort (.directory (d.fault .notEntered name)))
  | .error fault => .error (.ofPathFault (d.pathFor name) fault)

/-- The local directory one step up, or why there is none. -/
def left (d : LocalDirectory) (files : FileSystem) : Except Failure LocalDirectory :=
  match d.parts.getLast? with
  | none => .error (.abort (.directory ⟨.atTop, "", d.root.text, ""⟩))
  | some name =>
    match files.isDirectory d.current with
    | .ok true => .ok { d with parts := d.parts.dropLast }
    | .ok false => .error (.abort (.directory (d.fault .vanished name)))
    | .error fault => .error (.ofPathFault d.current fault)

/-- The size of an entry, or why it is not known. -/
def inspected (d : LocalDirectory) (name : String) (files : FileSystem) :
    Except Failure (Option Nat) :=
  match files.sizeOf (d.pathFor name) with
  | .ok size => .ok (some size)
  | .error (.system .missing) => .ok none
  | .error .nullCharacter => .error .nullCharacter
  | .error (.system problem) => .error (.abort (.inspection (d.fault (.notInspected problem) name)))

/-! ## The operations -/

lemma run_leadsToDirectory (path : Path) (w : World σ) :
    (leadsToDirectory path).run w =
      ((w.files.isDirectory path).mapError (.ofPathFault path), w) := by
  rw [leadsToDirectory]
  simp only [Action.files, Procedure.run_bind, Procedure.run_state, Procedure.run_pure]
  cases w.files.isDirectory path <;> rfl

/-- Making a directory changes the files as `made` says and leaves the steps alone. -/
lemma ensures_create (w : World σ) :
    Procedure.Ensures (fun w' => w' = w) (d.create name)
      (fun _ w' => d.made name w.files = .ok w'.files ∧ w'.steps = w.steps ∧ w'.other = w.other)
      (fun f w' => d.made name w.files = .error f ∧ w' = w) := by
  rintro w' rfl
  rw [create, made]
  simp only [Action.files, Procedure.run_bind, Procedure.run_state, Procedure.run_pure]
  rcases hmake : w'.files.makeDirectory (d.pathFor name) with ⟨_ | problem⟩ | files'
  · exact ⟨rfl, rfl⟩
  · cases problem
    case occupied =>
      simp only [Procedure.run_bind, run_leadsToDirectory]
      rcases hdir : w'.files.isDirectory (d.pathFor name) with fault | ⟨_ | _⟩
      · exact ⟨rfl, rfl⟩
      · exact ⟨rfl, rfl⟩
      · exact ⟨rfl, rfl, rfl⟩
    all_goals exact ⟨rfl, rfl⟩
  · exact ⟨rfl, rfl, rfl⟩

lemma run_enter (w : World σ) : (d.enter name).run w = (d.entered name w.files, w) := by
  rw [enter, entered]
  simp only [Procedure.run_bind, run_leadsToDirectory]
  rcases hdir : w.files.isDirectory (d.pathFor name) with fault | ⟨_ | _⟩ <;> rfl

lemma run_leave (w : World σ) : d.leave.run w = (d.left w.files, w) := by
  rw [leave, left]
  rcases d.parts.getLast? with _ | name
  · rfl
  · simp only [Procedure.run_bind, run_leadsToDirectory]
    rcases hdir : w.files.isDirectory d.current with fault | ⟨_ | _⟩ <;> rfl

lemma run_inspect (w : World σ) : (d.inspect name).run w = (d.inspected name w.files, w) := by
  rw [inspect, inspected]
  simp only [Action.files, Procedure.run_bind, Procedure.run_state, Procedure.run_pure]
  rcases hsize : w.files.sizeOf (d.pathFor name) with ⟨_ | problem⟩ | size
  · rfl
  · cases problem <;> rfl
  · rfl

/-- Entering a name adds it at the end. -/
lemma eq_of_entered {d' : LocalDirectory} (h : d.entered name files = .ok d') :
    d' = ⟨d.root, d.parts ++ [name]⟩ := by
  rw [entered] at h
  split at h <;> cases h
  rfl

/-- Leaving takes the last name off. -/
lemma eq_of_left {d' : LocalDirectory} (h : d.left files = .ok d') :
    d' = ⟨d.root, d.parts.dropLast⟩ := by
  rw [left] at h
  split at h
  · cases h
  · split at h <;> cases h
    rfl

/-! ## Where a name leads to a directory -/

section Leads

variable {l : Location}

/-- **What leads to a directory can be entered.** -/
lemma entered_of_leads (h : files.Leads (d.pathFor name) l) :
    d.entered name files = .ok ⟨d.root, d.parts ++ [name]⟩ := by
  rw [entered, h.isDirectory]

/-- The current directory after a name was entered is where the name leads. -/
lemma current_concat (d : LocalDirectory) (name : String) :
    current ⟨d.root, d.parts ++ [name]⟩ = d.pathFor name := by
  rw [current, List.foldl_append]
  rfl

/-- **What leads to a directory can be left.** -/
lemma left_of_leads (h : files.Leads (d.pathFor name) l) :
    left ⟨d.root, d.parts ++ [name]⟩ files = .ok d := by
  rw [left]
  simp [current_concat, h.isDirectory]

end Leads

/-! ## At a site

With usable names the outcomes depend only on what stands at the name. -/

section Site

variable {root : Path} {above : List String} {l : Location}

/-- A directory is there afterwards exactly if nothing or a directory was there before. -/
lemma made_eq_ok_iff (hnames : ∀ n ∈ above, isSegment n = true)
    (h : files.Site (root.below above) l name) :
    made ⟨root, above⟩ name files = .ok files' ↔
      files.Takes (root.below above) l name ∧
        (files.get? (l ++ [name]) = none ∧ files' = files.set (l ++ [name]) .directory ∨
          files.get? (l ++ [name]) = some .directory ∧ files' = files) := by
  have hpath : pathFor ⟨root, above⟩ name = (root.below above).below [name] := by
    rw [pathFor_eq hnames h.segment, Path.below_below]
  rw [made]
  rw [hpath, h.makeDirectory, h.isDirectory]
  by_cases htakes : files.Takes (root.below above) l name
  · rcases hn : files.get? (l ++ [name]) with _ | ⟨_ | ⟨c, m⟩ | t⟩ <;>
      simp [htakes, eq_comm]
  · rcases files.refusal_eq (root.below above) l name with heq | heq <;> simp [htakes, heq]

/-- A name is entered exactly if a directory stands there. -/
lemma entered_eq_ok_iff (hnames : ∀ n ∈ above, isSegment n = true)
    (h : files.Site (root.below above) l name) {d' : LocalDirectory} :
    entered ⟨root, above⟩ name files = .ok d' ↔
      files.Takes (root.below above) l name ∧ files.get? (l ++ [name]) = some .directory ∧
        d' = ⟨root, above ++ [name]⟩ := by
  have hpath : pathFor ⟨root, above⟩ name = (root.below above).below [name] := by
    rw [pathFor_eq hnames h.segment, Path.below_below]
  rw [entered]
  rw [hpath, h.isDirectory]
  by_cases htakes : files.Takes (root.below above) l name
  · rcases hn : files.get? (l ++ [name]) with _ | ⟨_ | ⟨c, m⟩ | t⟩ <;>
      simp [htakes, eq_comm]
  · rcases files.refusal_eq (root.below above) l name with heq | heq <;> simp [htakes, heq]

/-- The size of what stands at the name; directories have one of their own. -/
lemma inspected_eq (hnames : ∀ n ∈ above, isSegment n = true)
    (h : files.Site (root.below above) l name) (htakes : files.Takes (root.below above) l name) :
    inspected ⟨root, above⟩ name files =
      .ok (FileSystem.sizeAt (files.get? (l ++ [name]))) := by
  have hpath : pathFor ⟨root, above⟩ name = (root.below above).below [name] := by
    rw [pathFor_eq hnames h.segment, Path.below_below]
  rw [inspected]
  rw [hpath, h.sizeOf, if_pos htakes]
  rcases hn : files.get? (l ++ [name]) with _ | ⟨_ | ⟨c, m⟩ | t⟩ <;> rfl

/-- A name that is inspected is one that the system takes. -/
lemma takes_of_inspected (hnames : ∀ n ∈ above, isSegment n = true)
    (h : files.Site (root.below above) l name) {size : Option Nat}
    (hs : inspected ⟨root, above⟩ name files = .ok size) :
    files.Takes (root.below above) l name := by
  by_contra htakes
  have hpath : pathFor ⟨root, above⟩ name = (root.below above).below [name] := by
    rw [pathFor_eq hnames h.segment, Path.below_below]
  rw [inspected] at hs
  rw [hpath, h.sizeOf, if_neg htakes] at hs
  rcases files.refusal_eq (root.below above) l name with heq | heq <;> rw [heq] at hs <;> cases hs

/-- A directory to which a path leads can be left. -/
lemma left_eq_ok (hnames : ∀ n ∈ above, isSegment n = true) (hn : isSegment name = true)
    (h : files.Leads (root.below (above ++ [name])) l) :
    left ⟨root, above ++ [name]⟩ files = .ok ⟨root, above⟩ := by
  have hleads : files.Leads (pathFor ⟨root, above⟩ name) l := by
    rw [pathFor_eq hnames hn]
    exact h
  exact left_of_leads hleads

end Site

end LocalDirectory

end Replica
