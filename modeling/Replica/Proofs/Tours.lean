import Mathlib.Algebra.Group.Defs
import Replica.Proofs.Completion
/-!
# What a run that returns has been through

Such a run has taken up every child of every listing that it was given, each once, in order, and a
folder with all that it holds before the next child.  What became of each of them is written down
here as a tree, from which the record of the run and its statistics can be read off.

* **Tours.**  A `Tour` is what became of the children of one listing; behind a folder stands the
  tour of its own listing.  `Tour.steps` are the steps that it takes, the oldest first, and
  `Tour.counts` is what it counts.
* **Making a tour.**  `Walk.Makes` says under which conditions a walk makes a tour: which size the
  local entry of a file has, what the remote tree answers, and what the local directory does.
* **Courses.**  Every course that ends has made a tour (`Walk.Course.tracks`), and every run that
  returns has made one for each of its storages (`Run.Rounds.tracks`).
-/

namespace Replica

variable {σ : Type}

/-! ## What steps show -/

/-- A question to the remote tree. -/
inductive Call where
  /-- The children of a container. -/
  | listing (storage : Int) (container : Option Int)
  /-- The content of a file, to be put at a path. -/
  | fetching (file : Node) (target : Path)

/-- Whether the question is for the children of a container. -/
def Call.isListing : Call → Bool
  | listing .. => true
  | fetching .. => false

@[simp] lemma Call.isListing_listing (storage : Int) (container : Option Int) :
    (listing storage container).isListing = true := rfl

@[simp] lemma Call.isListing_fetching (file : Node) (target : Path) :
    (fetching file target).isListing = false := rfl

/-- The question that is asked with a step, if there is one. -/
def Step.call? : Step → Option Call
  | .listing storage container => some (.listing storage container)
  | .fetching file target => some (.fetching file target)
  | _ => none

/-- The children that are given with a step, if it is a listing's answer. -/
def Step.listed? : Step → Option (List Node)
  | .listed children => some children
  | _ => none

/-- The questions asked in these steps, in their order. -/
def calls (steps : List (Standing × Step)) : List Call := steps.filterMap (·.2.call?)

/-- The listings given in these steps, in their order. -/
def listings (steps : List (Standing × Step)) : List (List Node) :=
  steps.filterMap (·.2.listed?)

section Shown

variable (x : Standing × Step) (steps steps' : List (Standing × Step))

lemma calls_cons : calls (x :: steps) = x.2.call?.toList ++ calls steps := by
  cases h : x.2.call? <;> simp [calls, h]

lemma listings_cons : listings (x :: steps) = x.2.listed?.toList ++ listings steps := by
  cases h : x.2.listed? <;> simp [listings, h]

@[simp] lemma calls_append : calls (steps ++ steps') = calls steps ++ calls steps' :=
  List.filterMap_append ..

@[simp] lemma listings_append : listings (steps ++ steps') = listings steps ++ listings steps' :=
  List.filterMap_append ..

@[simp] lemma calls_reverse : calls steps.reverse = (calls steps).reverse :=
  List.filterMap_reverse ..

@[simp] lemma listings_reverse : listings steps.reverse = (listings steps).reverse :=
  List.filterMap_reverse ..

end Shown

/-! ## Counts -/

namespace Statistics

attribute [ext] Statistics

section Fields

variable (s t : Statistics)

@[simp] lemma add_directories : (s + t).directories = s.directories + t.directories := rfl

@[simp] lemma add_files : (s + t).files = s.files + t.files := rfl

@[simp] lemma add_downloads : (s + t).downloads = s.downloads + t.downloads := rfl

@[simp] lemma add_skips : (s + t).skips = s.skips + t.skips := rfl

@[simp] lemma add_abstracts : (s + t).abstracts = s.abstracts + t.abstracts := rfl

@[simp] lemma add_invalid : (s + t).invalid = s.invalid + t.invalid := rfl

end Fields

instance : Zero Statistics := ⟨{}⟩

instance : AddMonoid Statistics where
  add_assoc s t u := by ext <;> exact Nat.add_assoc ..
  zero_add s := by ext <;> exact Nat.zero_add _
  add_zero s := rfl
  nsmul := nsmulRec

end Statistics

/-! ## Tours -/

/-- What becomes of a child that is no folder gone through. -/
inductive Fate where
  /-- It has no usable name. -/
  | unusable
  /-- It is a file of which an entry of its size is there. -/
  | upToDate
  /-- It is abstract and left out. -/
  | leftOut
  /-- It is fetched. -/
  | fetched
  /-- It is asked for in vain. -/
  | missed
deriving DecidableEq

/-- What became of the children of a listing, in order.  Behind a folder stands what became of the
children of its own listing. -/
inductive Tour where
  /-- No child is left. -/
  | done
  /-- A child that is not gone through, and then the others. -/
  | leaf (child : Node) (fate : Fate) (rest : Tour)
  /-- A folder with what is below it, and then the others. -/
  | folder (child : Node) (below rest : Tour)

namespace Fate

/-- What is counted. -/
def counts : Fate → Statistics
  | unusable => { invalid := 1 }
  | upToDate => { files := 1, skips := 1 }
  | leftOut => { files := 1, abstracts := 1 }
  | fetched => { files := 1, downloads := 1 }
  | missed => { files := 1, failures := 1 }

/-- The steps in which it shows. -/
def steps (root : Path) (above : List String) (child : Node) (fate : Fate) : List Step :=
  let looked : List Step :=
    [.visited (Trail.pathOf above ++ child.name.display), .compared child]
  let fetching : Step :=
    .fetching child (LocalDirectory.pathFor ⟨root, above⟩ child.name.display)
  match fate with
  | unusable => []
  | upToDate | leftOut => looked
  | fetched => looked ++ [fetching, .fetched true]
  | missed => looked ++ [fetching, .fetched false]

/-- The questions that are asked about the child. -/
def calls (root : Path) (above : List String) (child : Node) : Fate → List Call
  | unusable | upToDate | leftOut => []
  | fetched | missed =>
    [.fetching child (LocalDirectory.pathFor ⟨root, above⟩ child.name.display)]

section Shown

variable (fate : Fate) (root : Path) (above : List String) (child : Node) (standing : Standing)

lemma calls_steps : Replica.calls ((fate.steps root above child).map (standing, ·)) =
    fate.calls root above child := by
  cases fate <;> rfl

lemma listings_steps :
    Replica.listings ((fate.steps root above child).map (standing, ·)) = [] := by
  cases fate <;> rfl

end Shown

end Fate

/-- The steps of a container: it is listed, and then comes what `inner` says of its children. -/
def Walk.openedSteps (storage : Int) (container : Option Int) (standing : Standing)
    (children : List Node) (inner : List (Standing × Step)) : List (Standing × Step) :=
  (standing, .listing storage container) :: (standing, .listed children) :: inner

namespace Tour

open Walk (spot openedSteps)

/-- The children that have their turn. -/
def children : Tour → List Node
  | done => []
  | leaf child _ rest => child :: rest.children
  | folder child _ rest => child :: rest.children

/-- What is counted. -/
def counts : Tour → Statistics
  | done => 0
  | leaf _ fate rest => fate.counts + rest.counts
  | folder _ below rest => { directories := 1 } + below.counts + rest.counts

/-- The number of levels below the listing. -/
def height : Tour → Nat
  | done => 0
  | leaf _ _ rest => rest.height
  | folder _ below rest => max (below.height + 1) rest.height

/-- The steps that a walk takes that has entered the directories `above` and is inside of the
containers `ids`, the oldest first. -/
def steps (root : Path) (storage : Int) : List String → List Int → Tour → List (Standing × Step)
  | _, _, done => []
  | above, ids, leaf child fate rest =>
    (Step.taken child :: fate.steps root above child).map (spot above ids, ·) ++
      steps root storage above ids rest
  | above, ids, folder child below rest =>
    let name := child.name.display
    (spot above ids, .taken child) :: (spot (above ++ [name]) ids, .entered child.id name) ::
      openedSteps storage (some child.id) (spot (above ++ [name]) (child.id :: ids)) below.children
        (steps root storage (above ++ [name]) (child.id :: ids) below) ++
      (spot above ids, .left child.id name) :: steps root storage above ids rest

/-- The questions that are asked, in order. -/
def calls (root : Path) (storage : Int) : List String → Tour → List Call
  | _, done => []
  | above, leaf child fate rest => fate.calls root above child ++ calls root storage above rest
  | above, folder child below rest =>
    .listing storage (some child.id) ::
      (calls root storage (above ++ [child.name.display]) below ++ calls root storage above rest)

/-- The listings that are given below this one, in order. -/
def listings : Tour → List (List Node)
  | done => []
  | leaf _ _ rest => rest.listings
  | folder _ below rest => below.children :: (below.listings ++ rest.listings)

/-- One tour and then another one, of the children of one listing. -/
def append : Tour → Tour → Tour
  | done, t => t
  | leaf child fate rest, t => leaf child fate (rest.append t)
  | folder child below rest, t => folder child below (rest.append t)

variable (t t' : Tour)

@[simp] lemma children_append : (t.append t').children = t.children ++ t'.children := by
  induction t with
  | done => rfl
  | leaf _ _ _ ih | folder _ _ _ _ ih => simp [append, children, ih]

@[simp] lemma counts_append : (t.append t').counts = t.counts + t'.counts := by
  induction t with
  | done => exact (zero_add _).symm
  | leaf _ _ _ ih | folder _ _ _ _ ih => simp [append, counts, ih, add_assoc]

@[simp] lemma height_append : (t.append t').height = max t.height t'.height := by
  induction t with
  | done => simp [append, height]
  | leaf _ _ _ ih => exact ih
  | folder _ _ _ _ ih => simp [append, height, ih, Nat.max_assoc]

@[simp] lemma steps_append (root : Path) (storage : Int) (above : List String) (ids : List Int) :
    (t.append t').steps root storage above ids =
      t.steps root storage above ids ++ t'.steps root storage above ids := by
  induction t with
  | done => rfl
  | leaf _ _ _ ih | folder _ _ _ _ ih => simp [append, steps, ih]

section Shown

variable (root : Path) (storage : Int) (above : List String) (ids : List Int)

/-- The questions among the steps of a tour. -/
lemma calls_steps :
    Replica.calls (t.steps root storage above ids) = t.calls root storage above := by
  induction t generalizing above ids with
  | done => rfl
  | leaf child fate rest ih =>
    simp [steps, calls, calls_cons, Fate.calls_steps, ih, Step.call?]
  | folder child below rest ih₁ ih₂ =>
    simp [steps, openedSteps, calls, calls_cons, ih₁, ih₂, Step.call?]

/-- The listings among the steps of a tour. -/
lemma listings_steps :
    Replica.listings (t.steps root storage above ids) = t.listings := by
  induction t generalizing above ids with
  | done => rfl
  | leaf child fate rest ih =>
    simp [steps, listings, listings_cons, Fate.listings_steps, ih, Step.listed?]
  | folder child below rest ih₁ ih₂ =>
    simp [steps, openedSteps, listings, listings_cons, ih₁, ih₂, Step.listed?]

end Shown

end Tour

/-! ## Making a tour -/

/-- A name that can be used is shown as it is. -/
lemma Node.Calls.display {n : Node} {name : String} (h : n.Calls name) :
    n.name.display = name := by
  rw [h.text]
  rfl

namespace Walk

/-- What the next step of a walk depends on, apart from where it stands. -/
structure Position (σ : Type) where
  /-- The local file system. -/
  files : FileSystem
  /-- The state of the other side. -/
  other : σ
  /-- The failures of the whole run. -/
  budget : Budget

/-- The position that an account leaves. -/
@[simps] def Account.position (a : Account σ) : Position σ := ⟨a.files, a.other, a.budget⟩

/-- The position once a listing was answered and its messages were shown. -/
def Position.listed (x : Position σ) (p : Plan σ) (w : World σ) : Position σ :=
  ⟨w.files, p.remote.forgetErrors w.other, x.budget⟩

/-- A file with a usable name and a size that can be written, and the size of the local entry of
that name, if there is one. -/
structure Faces (root : Path) (above : List String) (child : Node) (files : FileSystem)
    (size : Option Nat) : Prop where
  file : child.isContainer = false
  calls : child.Calls child.name.display
  text : ∃ text, sizeText child.declaredSize = .ok text
  size : LocalDirectory.inspected ⟨root, above⟩ child.name.display files = .ok size

/-- A child meets its fate. -/
inductive Befalls (p : Plan σ) (root : Path) (above : List String) (child : Node) :
    Fate → Position σ → Position σ → Prop where
  | unusable {x : Position σ} (name : isUsableName child.name = .ok false) :
    Befalls p root above child .unusable x x
  | upToDate {x : Position σ} {n : Nat} (faces : Faces root above child x.files (some n))
    (same : child.declaredSize = some (n : Int)) :
    Befalls p root above child .upToDate x x
  | leftOut {x : Position σ} {size : Option Nat} (faces : Faces root above child x.files size)
    (differs : ∀ n, size = some n → child.declaredSize ≠ some (n : Int))
    (abstract : child.isAbstract = true) (excluded : p.includeAbstract = false) :
    Befalls p root above child .leftOut x x
  | fetched {x : Position σ} {size : Option Nat} {w : World σ}
    (faces : Faces root above child x.files size)
    (differs : ∀ n, size = some n → child.declaredSize ≠ some (n : Int))
    (wanted : child.isAbstract = true → p.includeAbstract = true)
    (answer : p.remote.fetch child (LocalDirectory.pathFor ⟨root, above⟩ child.name.display)
      x.other x.files = (.ok true, w)) :
    Befalls p root above child .fetched x ⟨w.files, w.other, x.budget⟩
  | missed {x : Position σ} {size : Option Nat} {w : World σ}
    (faces : Faces root above child x.files size)
    (differs : ∀ n, size = some n → child.declaredSize ≠ some (n : Int))
    (wanted : child.isAbstract = true → p.includeAbstract = true)
    (answer : p.remote.fetch child (LocalDirectory.pathFor ⟨root, above⟩ child.name.display)
      x.other x.files = (.ok false, w))
    (tolerated : (x.budget.failures + 1 : Nat) ≤ x.budget.threshold) :
    Befalls p root above child .missed x
      ⟨w.files, p.remote.forgetErrors w.other, ⟨x.budget.threshold, x.budget.failures + 1⟩⟩

/-- A walk that has entered the directories `above` and is inside of the containers `ids` makes a
tour of a listing. -/
inductive Makes (p : Plan σ) (root : Path) (storage : Int) :
    List String → List Int → Tour → Position σ → Position σ → Prop where
  | done {above : List String} {ids : List Int} {x : Position σ} :
    Makes p root storage above ids .done x x
  | leaf {above : List String} {ids : List Int} {child : Node} {fate : Fate} {rest : Tour}
    {x x₁ x' : Position σ} (meets : Befalls p root above child fate x x₁)
    (others : Makes p root storage above ids rest x₁ x') :
    Makes p root storage above ids (.leaf child fate rest) x x'
  | folder {above : List String} {ids : List Int} {child : Node} {below rest : Tour}
    {files : FileSystem} {w : World σ} {x x₁ x' : Position σ}
    (calls : child.Calls child.name.display) (folder : child.isContainer = true)
    (outside : child.id ∉ ids)
    (made : LocalDirectory.made ⟨root, above⟩ child.name.display x.files = .ok files)
    (entered : LocalDirectory.entered ⟨root, above⟩ child.name.display files =
      .ok ⟨root, above ++ [child.name.display]⟩)
    (answer : p.remote.listChildren storage (some child.id) x.other files =
      (.ok below.children, w))
    (inner : Makes p root storage (above ++ [child.name.display]) (child.id :: ids) below
      (x.listed p w) x₁)
    (left : LocalDirectory.left ⟨root, above ++ [child.name.display]⟩ x₁.files =
      .ok ⟨root, above⟩)
    (others : Makes p root storage above ids rest x₁ x') :
    Makes p root storage above ids (.folder child below rest) x x'

variable {p : Plan σ} {root : Path} {storage : Int} {above : List String} {ids : List Int}
  {child : Node} {a a₁ a' : Account σ} {t t' : Tour} {x x₁ x' : Position σ} {levels : Nat}

lemma Makes.append (h : Makes p root storage above ids t x x₁)
    (h' : Makes p root storage above ids t' x₁ x') :
    Makes p root storage above ids (t.append t') x x' := by
  induction h with
  | done => exact h'
  | leaf hfate _ ih => exact .leaf hfate (ih h')
  | folder hcalls hfolder houtside hmade hentered answer inner hleft _ _ ih =>
    exact .folder hcalls hfolder houtside hmade hentered answer inner hleft (ih h')

/-! ## Courses -/

/-- A walk at `a` made this tour and left `a'`: its steps are those of the tour, and what it counted
comes on top of what was counted before. -/
structure Tracks (p : Plan σ) (root : Path) (storage : Int) (levels : Nat) (above : List String)
    (ids : List Int) (t : Tour) (a a' : Account σ) : Prop where
  makes : Makes p root storage above ids t a.position a'.position
  steps : a'.steps = (t.steps root storage above ids).reverse ++ a.steps
  counts : a'.statistics = a.statistics + t.counts
  height : t.height ≤ levels

namespace Tracks

lemma done : Tracks p root storage levels above ids .done a a :=
  ⟨.done, rfl, (add_zero _).symm, Nat.zero_le _⟩

lemma append (h : Tracks p root storage levels above ids t a a₁)
    (h' : Tracks p root storage levels above ids t' a₁ a') :
    Tracks p root storage levels above ids (t.append t') a a' where
  makes := h.makes.append h'.makes
  steps := by simp [h'.steps, h.steps]
  counts := by rw [h'.counts, h.counts, Tour.counts_append, add_assoc]
  height := by
    rw [Tour.height_append]
    exact Nat.max_le.mpr ⟨h.height, h'.height⟩

/-- A folder that is gone through. -/
lemma folder {below : Nat} {files : FileSystem} {w : World σ}
    (calls : child.Calls child.name.display) (folder : child.isContainer = true)
    (outside : child.id ∉ ids)
    (made : LocalDirectory.made ⟨root, above⟩ child.name.display a.files = .ok files)
    (entered : LocalDirectory.entered ⟨root, above⟩ child.name.display files =
      .ok ⟨root, above ++ [child.name.display]⟩)
    (answer : p.remote.listChildren storage (some child.id) a.other files = (.ok t.children, w))
    (inner : Tracks p root storage below (above ++ [child.name.display]) (child.id :: ids) t
      (((a.note (spot above ids) (.taken child)).entered above ids child child.name.display
        files).listed p (spot (above ++ [child.name.display]) (child.id :: ids)) storage
          (some child.id) t.children w) a₁)
    (left : LocalDirectory.left ⟨root, above ++ [child.name.display]⟩ a₁.files =
      .ok ⟨root, above⟩) :
    Tracks p root storage (below + 1) above ids (.folder child t .done) a
      (a₁.note (spot above ids) (.left child.id child.name.display)) where
  makes := .folder calls folder outside made entered answer inner.makes left .done
  steps := by
    simp [inner.steps, Tour.steps, openedSteps, Account.listed, Account.listing, Account.entered]
  counts := by
    show a₁.statistics = a.statistics + ({ directories := 1 } + t.counts + 0)
    rw [inner.counts, add_zero, ← add_assoc]
    rfl
  height := by simpa [Tour.height] using inner.height

end Tracks

/-- A file that is looked at faces the local entry of its name. -/
lemma Looked.faces {name : String} {verdict : Verdict}
    (h : Looked p root above child a name verdict) :
    ∃ size, Faces root above child a.files size ∧ p.verdict child size = verdict ∧
      name = child.name.display := by
  obtain ⟨hfile, hcalls, htext, size, hsize, hverdict⟩ := h
  obtain rfl := hcalls.display
  exact ⟨size, ⟨hfile, hcalls, htext, hsize⟩, hverdict, rfl⟩

/-- What a file needs that is neither up to date nor left out. -/
lemma Plan.differs_of_due {size : Option Nat} (h : p.verdict child size = .due) :
    (∀ n, size = some n → child.declaredSize ≠ some (n : Int)) ∧
      (child.isAbstract = true → p.includeAbstract = true) := by
  obtain ⟨hnot, hwanted⟩ := Plan.verdict_eq_due.mp h
  exact ⟨fun n hn hd => hnot (Plan.verdict_eq_upToDate.mpr ⟨n, hn, hd⟩), hwanted⟩

/-- A file that is left out is abstract, and abstract files are not wanted. -/
lemma Plan.differs_of_leftOut {size : Option Nat} (h : p.verdict child size = .leftOut) :
    (∀ n, size = some n → child.declaredSize ≠ some (n : Int)) ∧ child.isAbstract = true ∧
      p.includeAbstract = false := by
  have hnot : p.verdict child size ≠ .upToDate := by simp [h]
  refine ⟨fun n hn hd => hnot (Plan.verdict_eq_upToDate.mpr ⟨n, hn, hd⟩), ?_⟩
  -- else it would be due
  by_contra hwanted
  have hdue : p.verdict child size = .due := by
    refine Plan.verdict_eq_due.mpr ⟨hnot, fun habstract => ?_⟩
    simpa [habstract] using hwanted
  rw [h] at hdue
  cases hdue

/-- A deed is a fate. -/
lemma Deed.tracks (hd : Deed p root above ids child (a.note (spot above ids) (.taken child)) a') :
    ∃ fate, Tracks p root storage levels above ids (.leaf child fate .done) a a' := by
  cases hd with
  | passOver hname =>
    exact ⟨.unusable, .leaf (.unusable hname) .done, rfl, rfl, Nat.zero_le _⟩
  | skip hlooked =>
    obtain ⟨size, hfaces, hverdict, rfl⟩ := hlooked.faces
    obtain ⟨n, rfl, hsame⟩ := Plan.verdict_eq_upToDate.mp hverdict
    exact ⟨.upToDate, .leaf (.upToDate hfaces hsame) .done, rfl, rfl, Nat.zero_le _⟩
  | leaveOut hlooked =>
    obtain ⟨size, hfaces, hverdict, rfl⟩ := hlooked.faces
    obtain ⟨hdiffers, habstract, hexcluded⟩ := Plan.differs_of_leftOut hverdict
    exact ⟨.leftOut, .leaf (.leftOut hfaces hdiffers habstract hexcluded) .done, rfl, rfl,
      Nat.zero_le _⟩
  | fetch hlooked answer =>
    obtain ⟨size, hfaces, hverdict, rfl⟩ := hlooked.faces
    obtain ⟨hdiffers, hwanted⟩ := Plan.differs_of_due hverdict
    exact ⟨.fetched, .leaf (.fetched hfaces hdiffers hwanted answer) .done, rfl, rfl,
      Nat.zero_le _⟩
  | miss hlooked answer htolerated =>
    obtain ⟨size, hfaces, hverdict, rfl⟩ := hlooked.faces
    obtain ⟨hdiffers, hwanted⟩ := Plan.differs_of_due hverdict
    have hmax : (a.budget.failures + 1 : Nat) ≤ a.budget.threshold := by
      simpa [Budget.exceeded] using htolerated
    exact ⟨.missed, .leaf (.missed hfaces hdiffers hwanted answer hmax) .done, rfl, rfl,
      Nat.zero_le _⟩

/-- What a course has made that ends. -/
def Task.Tracks (p : Plan σ) (root : Path) (storage : Int) (above : List String) (ids : List Int)
    (a a' : Account σ) : Task → Prop
  | .container levels c => ∃ t w below, levels = below + 1 ∧
    p.remote.listChildren storage c a.other a.files = (.ok t.children, w) ∧
      Walk.Tracks p root storage below above (inside c ids) t
        (a.listed p (spot above (inside c ids)) storage c t.children w) a'
  | .children levels nodes => ∃ t, t.children = nodes ∧
    Walk.Tracks p root storage levels above ids t a a'
  | .child levels n => ∃ t, t.children = [n] ∧
    Walk.Tracks p root storage levels above ids t a a'

/-- **A course that ends has made a tour** of its listing. -/
theorem Course.tracks {task : Task} (hc : Course p root storage task above ids a (.ok ()) a') :
    task.Tracks p root storage above ids a a' := by
  induction hc using Course.induction_ok with
  | listed answer _ ih =>
    obtain ⟨t, rfl, htracks⟩ := ih
    exact ⟨t, _, _, rfl, answer, htracks⟩
  | done => exact ⟨.done, rfl, .done⟩
  | next _ _ ih₁ ih₂ =>
    obtain ⟨t₁, hchild, h₁⟩ := ih₁
    obtain ⟨t₂, rfl, h₂⟩ := ih₂
    exact ⟨t₁.append t₂, by simp [hchild], h₁.append h₂⟩
  | deed hd =>
    obtain ⟨fate, htracks⟩ := hd.tracks
    exact ⟨_, rfl, htracks⟩
  | @through levels child name files above ids a a' calls folder outside made entered _ left ih =>
    obtain ⟨t, w, below, rfl, answer, htracks⟩ := ih
    obtain rfl := calls.display
    exact ⟨.folder child t .done, rfl,
      .folder calls folder outside made entered answer htracks left⟩

end Walk

/-! ## Runs -/

namespace Run

open Walk (Account Position openedSteps spot)

variable {p : Plan σ} {a a' : Account σ} {tours : List (Storage × Tour)} {x x' : Position σ}

/-- The walks of a run make their tours, one after the other. -/
inductive Makes (p : Plan σ) : List (Storage × Tour) → Position σ → Position σ → Prop where
  | done {x : Position σ} : Makes p [] x x
  | next {storage : Storage} {tour : Tour} {rest : List (Storage × Tour)} {w : World σ}
    {x x₁ x' : Position σ}
    (answer : p.remote.listChildren storage.id none x.other x.files = (.ok tour.children, w))
    (walk : Walk.Makes p.walk p.destination storage.id [] [] tour (x.listed p.walk w) x₁)
    (others : Makes p rest x₁ x') :
    Makes p ((storage, tour) :: rest) x x'

/-- The steps of the walks of a run, the oldest first. -/
def record (p : Plan σ) (tours : List (Storage × Tour)) : List (Standing × Step) :=
  tours.flatMap fun x => openedSteps x.1.id none (spot [] []) x.2.children
    (x.2.steps p.destination x.1.id [] [])

/-- What the walks of a run count. -/
def total (tours : List (Storage × Tour)) : Statistics := (tours.map (·.2.counts)).sum

/-- **The walks of a run that end have made their tours.** -/
theorem Rounds.tracks {storages : List Storage} {result : Except Failure Unit}
    (hr : Rounds p storages a result a') (hresult : result = .ok ()) :
    ∃ tours, tours.map Prod.fst = storages ∧ Makes p tours a.position a'.position ∧
      a'.steps = (record p tours).reverse ++ a.steps ∧
      a'.statistics = a.statistics + total tours ∧ ∀ x ∈ tours, x.2.height < p.depth := by
  induction hr with
  | done => exact ⟨[], rfl, .done, rfl, (add_zero _).symm, by simp⟩
  | @next storage rest a a₁ a' result _ walk _ ih =>
    obtain ⟨tours, rfl, hmakes, hsteps, hcounts, hheight⟩ := ih hresult
    obtain ⟨t, w, levels, hdepth, answer, htracks⟩ := walk.tracks
    refine ⟨(storage, t) :: tours, rfl, .next answer htracks.makes hmakes, ?_, ?_, ?_⟩
    · rw [hsteps]
      simp [record, openedSteps, htracks.steps, Walk.Account.listed, Walk.Account.listing,
        Walk.inside]
    · have hwalk : a₁.statistics = t.counts := htracks.counts.trans (zero_add _)
      rw [hcounts, Walk.Account.since_statistics, hwalk, add_assoc]
      rfl
    · rw [List.forall_mem_cons]
      exact ⟨by rw [hdepth]; exact Nat.lt_succ_of_le htracks.height, hheight⟩
  | stopped _ _ | untold _ => cases hresult

/-- **A run that returns has made a tour of each chosen storage**, and its steps and its statistics
are those of the tours. -/
theorem tours_of_run {w w' : World σ} {s : RunStatistics} (hrun : (start p).run w = (.ok s, w')) :
    ∃ storages v tours x, p.remote.listStorages w.other w.files = (.ok storages, v) ∧
      tours.map Prod.fst = p.chosen storages ∧
      Makes p tours ⟨v.files, p.remote.forgetErrors v.other, .ofThreshold p.maxFailures⟩ x ∧
      w'.files = x.files ∧ w'.steps = (record p tours).reverse ++ w.steps ∧
      s = ⟨total tours, tours.length⟩ ∧ ∀ x ∈ tours, x.2.height < p.depth := by
  obtain ⟨a', hends, hfiles, hother, hsteps⟩ := ends_of_run hrun
  generalize hresult : (Except.ok s : Except Failure RunStatistics) = result at hends
  cases hends with
  | refused _ | unlisted _ _ | unwritten _ _ _ _ | undrawn _ _ _ _ | veiled _ _ _ _ _ _ =>
    cases hresult
  | @walked storages v result a' _ answer _ rounds =>
    cases result with
    | error f => cases hresult
    | ok u =>
      cases hresult
      obtain ⟨tours, hstorages, hmakes, hrecord, hcounts, hheight⟩ := rounds.tracks rfl
      have htotal : a'.statistics = total tours := hcounts.trans (zero_add _)
      have hstatistics : (⟨a'.statistics, (p.chosen storages).length⟩ : RunStatistics) =
          ⟨total tours, tours.length⟩ := by
        rw [htotal, ← hstorages, List.length_map]
      exact ⟨storages, v, tours, a'.position, answer, hstorages, hmakes, hfiles,
        hsteps.trans hrecord, hstatistics, hheight⟩

end Run

end Replica
