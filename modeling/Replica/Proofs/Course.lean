import Replica.Proofs.Moves
import Replica.Walk
/-!
# Courses of a walk

A walk is a procedure, and most of its text says in which order things are counted, shown and
recorded.  This file restates it as a relation with one rule for each thing that can happen, so
that what holds of every walk is proved by induction on what happened.

* **Accounts.**  `Account` is what a walk changes, apart from what it says: the files, the state
  of the other side, the steps taken and the counts.
* **One child.**  `Deed` relates the accounts before and after a child that is no folder gone
  through; `Halt` does so for a child that stops the run.
* **Whole walks.**  `Course` puts these together.  That every walk follows a course is
  `follows_visit`, in the file on walks.
-/

namespace Replica

/-- A node has this name, and the name can be used. -/
structure Node.Calls (n : Node) (name : String) : Prop where
  text : n.name = .string name
  segment : isSegment name = true

lemma Node.Calls.unique {n : Node} {name name' : String} (h : n.Calls name) (h' : n.Calls name') :
    name = name' := by
  simpa using h.text.symm.trans h'.text

namespace Walk

variable {σ α : Type}

/-! ## Accounts -/

/-- What a walk changes, apart from what it says and from where it stands. -/
structure Account (σ : Type) where
  /-- The local file system. -/
  files : FileSystem
  /-- The state of the other side. -/
  other : σ
  /-- The steps taken so far, the newest first. -/
  steps : List (Standing × Step)
  /-- What was counted. -/
  statistics : Statistics
  /-- The failures of the whole run. -/
  budget : Budget

/-- Where a walk stands that has entered the directories `above`. -/
def spot (above : List String) (ids : List Int) : Standing := ⟨above, above, ids⟩

/-- The containers that a walk is inside of once it goes through one more. -/
def inside (container : Option Int) (ids : List Int) : List Int := container.toList ++ ids

/-- What a file needs. -/
inductive Verdict where
  /-- Nothing: an entry of its size is there. -/
  | upToDate
  /-- Nothing: abstract files are left out. -/
  | leftOut
  /-- Its content. -/
  | due
deriving DecidableEq

/-- What a file needs if the local entry of its name has this size. -/
def Plan.verdict (p : Plan σ) (file : Node) (size : Option Nat) : Verdict :=
  if !(Comparison.ofSizes size (.ofInt? file.declaredSize)).mustCopy then .upToDate
  else if file.isAbstract && !p.includeAbstract then .leftOut
  else .due

namespace Account

/-- One more step. -/
@[simps] def note (a : Account σ) (standing : Standing) (what : Step) : Account σ :=
  { a with steps := (standing, what) :: a.steps }

/-- Something counted. -/
@[simps] def count (a : Account σ) (f : Statistics → Statistics) : Account σ :=
  { a with statistics := f a.statistics }

/-- Other files. -/
@[simps] def withFiles (a : Account σ) (files : FileSystem) : Account σ := { a with files }

/-- What a service leaves. -/
@[simps] def answered (a : Account σ) (w : World σ) : Account σ :=
  { a with files := w.files, other := w.other }

/-- The messages of the remote tree taken off their stack. -/
@[simps] def forgotten (a : Account σ) (p : Plan σ) : Account σ :=
  { a with other := p.remote.forgetErrors a.other }

/-- One more failure. -/
@[simps] def missed (a : Account σ) : Account σ :=
  { a with
    statistics := { a.statistics with failures := a.statistics.failures + 1 }
    budget := { a.budget with failures := a.budget.failures + 1 } }

/-- A container whose children are asked for, with what that leaves. -/
def listing (a : Account σ) (standing : Standing) (storage : Int) (container : Option Int)
    (w : World σ) : Account σ :=
  (a.note standing (.listing storage container)).answered w

/-- A container whose children are given. -/
def listed (a : Account σ) (p : Plan σ) (standing : Standing) (storage : Int)
    (container : Option Int) (children : List Node) (w : World σ) : Account σ :=
  ((a.listing standing storage container w).note standing (.listed children)).forgotten p

/-- A file that is looked at. -/
def looked (a : Account σ) (above : List String) (ids : List Int) (file : Node) : Account σ :=
  (a.count fun c => { c with files := c.files + 1 }).note (spot above ids)
    (.visited (Trail.pathOf above ++ file.name.display))

/-- A file that is compared with the local entry of its name. -/
def compared (a : Account σ) (above : List String) (ids : List Int) (file : Node) : Account σ :=
  (a.looked above ids file).note (spot above ids) (.compared file)

/-- A file that is asked for, with what that leaves. -/
def asked (a : Account σ) (above : List String) (ids : List Int) (file : Node) (target : Path)
    (w : World σ) : Account σ :=
  ((a.compared above ids file).note (spot above ids) (.fetching file target)).answered w

/-- A file that was asked for in vain. -/
def failed (a : Account σ) (p : Plan σ) (above : List String) (ids : List Int) (file : Node)
    (target : Path) (w : World σ) : Account σ :=
  (((a.asked above ids file target w).note (spot above ids) (.fetched false)).forgotten p).missed

/-- A folder that is entered. -/
def entered (a : Account σ) (above : List String) (ids : List Int) (folder : Node)
    (name : String) (files : FileSystem) : Account σ :=
  ((a.withFiles files).note (spot (above ++ [name]) ids) (.entered folder.id name)).count
    fun c => { c with directories := c.directories + 1 }

section Fields

variable (a : Account σ) (p : Plan σ) (above : List String) (ids : List Int) (file : Node)
  (target : Path) (w : World σ)

@[simp] lemma looked_files : (a.looked above ids file).files = a.files := rfl

@[simp] lemma looked_statistics : (a.looked above ids file).statistics =
    { a.statistics with files := a.statistics.files + 1 } := rfl

@[simp] lemma compared_files : (a.compared above ids file).files = a.files := rfl

@[simp] lemma compared_statistics : (a.compared above ids file).statistics =
    { a.statistics with files := a.statistics.files + 1 } := rfl

@[simp] lemma asked_files : (a.asked above ids file target w).files = w.files := rfl

@[simp] lemma asked_statistics : (a.asked above ids file target w).statistics =
    { a.statistics with files := a.statistics.files + 1 } := rfl

@[simp] lemma failed_files : (a.failed p above ids file target w).files = w.files := rfl

@[simp] lemma failed_statistics : (a.failed p above ids file target w).statistics =
    { a.statistics with
      files := a.statistics.files + 1, failures := a.statistics.failures + 1 } := rfl

@[simp] lemma entered_files (name : String) (files : FileSystem) :
    (a.entered above ids file name files).files = files := rfl

@[simp] lemma entered_statistics (name : String) (files : FileSystem) :
    (a.entered above ids file name files).statistics =
      { a.statistics with directories := a.statistics.directories + 1 } := rfl

@[simp] lemma listed_files (standing : Standing) (storage : Int) (container : Option Int)
    (children : List Node) :
    (a.listed p standing storage container children w).files = w.files := rfl

@[simp] lemma listed_statistics (standing : Standing) (storage : Int) (container : Option Int)
    (children : List Node) :
    (a.listed p standing storage container children w).statistics = a.statistics := rfl

end Fields

end Account

/-! ## One child -/

section Child

variable (p : Plan σ) (root : Path) (above : List String) (ids : List Int) (child : Node)

/-- A file is looked at, and this is what it needs. -/
structure Looked (a : Account σ) (name : String) (verdict : Verdict) : Prop where
  file : child.isContainer = false
  calls : child.Calls name
  text : ∃ text, sizeText child.declaredSize = .ok text
  size : ∃ size, LocalDirectory.inspected ⟨root, above⟩ name a.files = .ok size ∧
    p.verdict child size = verdict

/-- What becomes of a child that is not a folder gone through. -/
inductive Deed : Account σ → Account σ → Prop where
  /-- It has no usable name. -/
  | passOver {a : Account σ} (name : isUsableName child.name = .ok false) :
    Deed a (a.count fun c => { c with invalid := c.invalid + 1 })
  /-- It is up to date. -/
  | skip {a : Account σ} {name : String} (looked : Looked p root above child a name .upToDate) :
    Deed a ((a.compared above ids child).count fun c => { c with skips := c.skips + 1 })
  /-- It is abstract and left out. -/
  | leaveOut {a : Account σ} {name : String} (looked : Looked p root above child a name .leftOut) :
    Deed a ((a.compared above ids child).count fun c => { c with abstracts := c.abstracts + 1 })
  /-- It is fetched. -/
  | fetch {a : Account σ} {name : String} {w : World σ}
    (looked : Looked p root above child a name .due)
    (answer : p.remote.fetch child (LocalDirectory.pathFor ⟨root, above⟩ name) a.other a.files =
      (.ok true, w)) :
    Deed a (((a.asked above ids child (LocalDirectory.pathFor ⟨root, above⟩ name) w).note
      (spot above ids) (.fetched true)).count fun c => { c with downloads := c.downloads + 1 })
  /-- It cannot be fetched, which is tolerated. -/
  | miss {a : Account σ} {name : String} {w : World σ}
    (looked : Looked p root above child a name .due)
    (answer : p.remote.fetch child (LocalDirectory.pathFor ⟨root, above⟩ name) a.other a.files =
      (.ok false, w))
    (tolerated : (a.missed.budget).exceeded = false) :
    Deed a (a.failed p above ids child (LocalDirectory.pathFor ⟨root, above⟩ name) w)

/-- What stops the run at a child, and what is left then. -/
inductive Halt : Account σ → Failure → Account σ → Prop where
  /-- Its name cannot even be looked at. -/
  | unreadable {a : Account σ} {fault : ValueFault}
    (name : isUsableName child.name = .error fault) :
    Halt a (.value fault) a
  /-- It is a folder that the walk is inside of. -/
  | cycle {a : Account σ} (name : isUsableName child.name = .ok true)
    (folder : child.isContainer = true) (inside : child.id ∈ ids) :
    Halt a (.abort (.cycle child.id (Trail.pathOf above))) a
  /-- It is a folder and its name is no text. -/
  | unnamedFolder {a : Account σ} (name : isUsableName child.name = .ok true)
    (folder : child.isContainer = true) (text : ∀ s, child.name ≠ .string s)
    (outside : child.id ∉ ids) :
    Halt a (.value (LocalDirectory.nameFault ⟨root, above⟩ child.name)) a
  /-- Its directory cannot be made. -/
  | notMade {a : Account σ} {name : String} {f : Failure} (calls : child.Calls name)
    (folder : child.isContainer = true) (outside : child.id ∉ ids)
    (made : LocalDirectory.made ⟨root, above⟩ name a.files = .error f) :
    Halt a f a
  /-- Its directory cannot be entered. -/
  | notEntered {a : Account σ} {name : String} {f : Failure} {files : FileSystem}
    (calls : child.Calls name) (folder : child.isContainer = true) (outside : child.id ∉ ids)
    (made : LocalDirectory.made ⟨root, above⟩ name a.files = .ok files)
    (entered : LocalDirectory.entered ⟨root, above⟩ name files = .error f) :
    Halt a f (a.withFiles files)
  /-- Its size cannot be written. -/
  | oversized {a : Account σ} {fault : ValueFault} (name : isUsableName child.name = .ok true)
    (file : child.isContainer = false) (size : sizeText child.declaredSize = .error fault) :
    Halt a (.value fault) (a.looked above ids child)
  /-- It is a file and its name is no text. -/
  | unnamedFile {a : Account σ} (name : isUsableName child.name = .ok true)
    (file : child.isContainer = false) (text : ∀ s, child.name ≠ .string s) :
    Halt a (.value (LocalDirectory.nameFault ⟨root, above⟩ child.name)) (a.looked above ids child)
  /-- The local entry of its name cannot be inspected. -/
  | notInspected {a : Account σ} {name : String} {f : Failure} (calls : child.Calls name)
    (file : child.isContainer = false)
    (inspected : LocalDirectory.inspected ⟨root, above⟩ name a.files = .error f) :
    Halt a f (a.compared above ids child)
  /-- Asking for it fails. -/
  | fetchFailed {a : Account σ} {name : String} {f : Failure} {w : World σ}
    (looked : Looked p root above child a name .due)
    (answer : p.remote.fetch child (LocalDirectory.pathFor ⟨root, above⟩ name) a.other a.files =
      (.error f, w)) :
    Halt a f (a.asked above ids child (LocalDirectory.pathFor ⟨root, above⟩ name) w)
  /-- It cannot be fetched, and that is once too often. -/
  | tooMany {a : Account σ} {name : String} {w : World σ}
    (looked : Looked p root above child a name .due)
    (answer : p.remote.fetch child (LocalDirectory.pathFor ⟨root, above⟩ name) a.other a.files =
      (.ok false, w))
    (exceeded : (a.missed.budget).exceeded = true) :
    Halt a (.abort (.tooManyFailures (a.budget.failures + 1) a.budget.threshold))
      (a.failed p above ids child (LocalDirectory.pathFor ⟨root, above⟩ name) w)

end Child

/-! ## Whole walks -/

/-- What a walk has before it. -/
inductive Task where
  /-- A container, with the number of levels left. -/
  | container (levels : Nat) (container : Option Int)
  /-- The rest of a listing. -/
  | children (levels : Nat) (children : List Node)
  /-- One child. -/
  | child (levels : Nat) (child : Node)

/-- A failure, and where the walk stood. -/
structure Stop where
  /-- The failure. -/
  failure : Failure
  /-- Where the walk stood. -/
  standing : Standing

/-- The way back up from the directory `name`: what came of going through it, and what comes of
leaving it. -/
inductive Return (root : Path) (above : List String) (ids : List Int) (id : Int) (name : String) :
    Except Stop Unit → Account σ → Except Stop Unit → Account σ → Prop where
  /-- The directory is left. -/
  | back {a : Account σ}
    (left : LocalDirectory.left ⟨root, above ++ [name]⟩ a.files = .ok ⟨root, above⟩) :
    Return root above ids id name (.ok ()) a (.ok ()) (a.note (spot above ids) (.left id name))
  /-- The directory is gone. -/
  | lost {a : Account σ} {f : Failure}
    (left : LocalDirectory.left ⟨root, above ++ [name]⟩ a.files = .error f) :
    Return root above ids id name (.ok ()) a (.error ⟨f, ⟨above, above ++ [name], ids⟩⟩) a
  /-- The run was stopped below. -/
  | stopped {a : Account σ} {stop : Stop} :
    Return root above ids id name (.error stop) a (.error stop) a

/-- The courses of a walk: from the directories `above`, inside of the containers `ids`, a task
turns one account into another one and ends or is stopped. -/
inductive Course (p : Plan σ) (root : Path) (storage : Int) :
    Task → List String → List Int → Account σ → Except Stop Unit → Account σ → Prop where
  /-- There is no level left. -/
  | tooDeep {container above ids a} :
    Course p root storage (.container 0 container) above ids a
      (.error ⟨.tooDeep, spot above ids⟩) a
  /-- The listing fails. -/
  | unlisted {levels container above ids a f w}
    (answer : p.remote.listChildren storage container a.other a.files = (.error f, w)) :
    Course p root storage (.container (levels + 1) container) above ids a
      (.error ⟨f, spot above (inside container ids)⟩)
      (a.listing (spot above (inside container ids)) storage container w)
  /-- The children are listed, and each gets its turn. -/
  | listed {levels container above ids a children w result a'}
    (answer : p.remote.listChildren storage container a.other a.files = (.ok children, w))
    (turns : Course p root storage (.children levels children) above (inside container ids)
      (a.listed p (spot above (inside container ids)) storage container children w) result a') :
    Course p root storage (.container (levels + 1) container) above ids a result a'
  /-- No child is left. -/
  | done {levels above ids a} : Course p root storage (.children levels []) above ids a (.ok ()) a
  /-- The next child gets its turn, and then the others do. -/
  | next {levels child rest above ids a a₁ result a'}
    (first : Course p root storage (.child levels child) above ids a (.ok ()) a₁)
    (others : Course p root storage (.children levels rest) above ids a₁ result a') :
    Course p root storage (.children levels (child :: rest)) above ids a result a'
  /-- The next child stops the run. -/
  | stopped {levels child rest above ids a stop a'}
    (first : Course p root storage (.child levels child) above ids a (.error stop) a') :
    Course p root storage (.children levels (child :: rest)) above ids a (.error stop) a'
  /-- A child that is not gone through. -/
  | deed {levels child above ids a a'}
    (deed : Deed p root above ids child (a.note (spot above ids) (.taken child)) a') :
    Course p root storage (.child levels child) above ids a (.ok ()) a'
  /-- A child that stops the run. -/
  | halt {levels child above ids a f a'}
    (halt : Halt p root above ids child (a.note (spot above ids) (.taken child)) f a') :
    Course p root storage (.child levels child) above ids a (.error ⟨f, spot above ids⟩) a'
  /-- A folder that is gone through. -/
  | through {levels child name files above ids a below a₁ result a'}
    (calls : child.Calls name) (folder : child.isContainer = true) (outside : child.id ∉ ids)
    (made : LocalDirectory.made ⟨root, above⟩ name a.files = .ok files)
    (entered : LocalDirectory.entered ⟨root, above⟩ name files = .ok ⟨root, above ++ [name]⟩)
    (inner : Course p root storage (.container levels (some child.id)) (above ++ [name]) ids
      ((a.note (spot above ids) (.taken child)).entered above ids child name files) below a₁)
    (back : Return root above ids child.id name below a₁ result a') :
    Course p root storage (.child levels child) above ids a result a'

end Walk

end Replica
