import Mathlib.Logic.Relation
import Replica.Proofs.Foothold
import Replica.Remote.InMemory
/-!
# Remote trees that do not change

Most of what there is to say about a whole run supposes that the device is the same throughout:
each container has one listing and each file one content, whatever was asked before.

* **Hierarchies.**  A `Hierarchy` gives the listings and the contents.  `Hierarchy.Meets` are the
  nodes that a walk meets below a container, each with the directories that it has entered then:
  it goes on through folders with usable names only.  A task is `Hierarchy.Covered` if all that it
  meets is among the nodes in question, which then holds of every part of it.
* **Remote trees.**  `Remote.Lists` says that a remote tree gives the listings of a hierarchy, and
  `Remote.Delivers` that it fetches contents where they can be written.
* **Devices in memory.**  `InMemory.hierarchy` is what a remote tree in memory gives if nothing
  disturbs it; listings that fail are empty.
* **Outcomes.**  `Walk.Plan.settle` is what stands at the place of a file once a walk has been
  there.
-/

namespace Replica

/-- The listings and the contents of a device. -/
structure Hierarchy where
  storages : List Storage
  listing : (storage : Int) → (container : Option Int) → List Node
  body : Node → List UInt8

namespace Hierarchy

variable (h : Hierarchy) (storage : Int)

/-- The nodes met below a container, with the directories entered on the way to them. -/
inductive Meets : Option Int → List String → Node → Prop where
  | here {container : Option Int} {n : Node} (listed : n ∈ h.listing storage container) :
    Meets container [] n
  | deeper {container : Option Int} {folder n : Node} {name : String} {above : List String}
    (listed : folder ∈ h.listing storage container) (isFolder : folder.isContainer = true)
    (calls : folder.Calls name) (rest : Meets (some folder.id) above n) :
    Meets container (name :: above) n

/-- The nodes met from a child on: the child itself and, if it is a folder, what is below it. -/
def MeetsFrom (child : Node) (above : List String) (n : Node) : Prop :=
  above = [] ∧ n = child ∨
    ∃ name rest, child.isContainer = true ∧ child.Calls name ∧ above = name :: rest ∧
      h.Meets storage (some child.id) rest n

/-- The nodes met below a container are those met from its children on. -/
lemma meets_iff {container : Option Int} {above : List String} {n : Node} :
    h.Meets storage container above n ↔
      ∃ child ∈ h.listing storage container, h.MeetsFrom storage child above n := by
  constructor
  · intro hmeets
    cases hmeets with
    | here hn => exact ⟨n, hn, .inl ⟨rfl, rfl⟩⟩
    | @deeper _ folder _ name rest hlisted hfolder hcalls hrest =>
      exact ⟨folder, hlisted, .inr ⟨name, rest, hfolder, hcalls, rfl, hrest⟩⟩
  · rintro ⟨child, hchild, ⟨rfl, rfl⟩ | ⟨name, rest, hfolder, hcalls, rfl, hrest⟩⟩
    · exact .here hchild
    · exact .deeper hchild hfolder hcalls hrest

/-- The nodes met below the tops of storages. -/
def Met (storages : List Storage) (above : List String) (n : Node) : Prop :=
  ∃ s ∈ storages, h.Meets s.id none above n

/-- The folder `d` is listed in the container `c`. -/
def Holds (c d : Int) : Prop :=
  ∃ n ∈ h.listing storage (some c), n.isContainer = true ∧ n.id = d

/-- The nodes met in the course of a task. -/
def MeetsIn : Walk.Task → List String → Node → Prop
  | .container _ container => h.Meets storage container
  | .children _ children => fun above n => ∃ child ∈ children, h.MeetsFrom storage child above n
  | .child _ child => h.MeetsFrom storage child

/-- What is met in the course of a task, from the directories `above` on, is among `met`. -/
def Covered (met : List String → Node → Prop) (task : Walk.Task) (above : List String) : Prop :=
  ∀ names n, h.MeetsIn storage task names n → met (above ++ names) n

namespace Covered

variable {h storage} {met : List String → Node → Prop} {above : List String} {levels : Nat}
  {child : Node} {rest : List Node}

/-- The children of a container that were listed, or some of them. -/
lemma listed {container : Option Int} {children : List Node}
    (hc : h.Covered storage met (.container (levels + 1) container) above)
    (hsub : children ⊆ h.listing storage container) :
    h.Covered storage met (.children levels children) above :=
  fun names n ⟨child, hchild, hn⟩ =>
    hc names n ((h.meets_iff storage).mpr ⟨child, hsub hchild, hn⟩)

lemma head (hc : h.Covered storage met (.children levels (child :: rest)) above) :
    h.Covered storage met (.child levels child) above :=
  fun names n hn => hc names n ⟨child, List.mem_cons_self, hn⟩

lemma tail (hc : h.Covered storage met (.children levels (child :: rest)) above) :
    h.Covered storage met (.children levels rest) above :=
  fun names n ⟨c, hmem, hn⟩ => hc names n ⟨c, List.mem_cons_of_mem _ hmem, hn⟩

lemma here (hc : h.Covered storage met (.child levels child) above) : met above child := by
  simpa using hc [] child (.inl ⟨rfl, rfl⟩)

/-- A folder that is gone through. -/
lemma below {name : String} (hc : h.Covered storage met (.child levels child) above)
    (hfolder : child.isContainer = true) (hcalls : child.Calls name) :
    h.Covered storage met (.container levels (some child.id)) (above ++ [name]) := by
  intro names n hn
  simpa using hc (name :: names) n (.inr ⟨name, names, hfolder, hcalls, rfl, hn⟩)

end Covered

end Hierarchy

namespace Remote

variable {σ : Type}

/-- The remote tree gives these storages and listings, whatever its state, and leaves the local
files alone meanwhile. -/
structure Lists (r : Remote σ) (h : Hierarchy) : Prop where
  storages : ∀ other files, (r.listStorages other files).1 = .ok h.storages ∧
    (r.listStorages other files).2.files = files
  children : ∀ storage container other files,
    (r.listChildren storage container other files).1 = .ok (h.listing storage container) ∧
      (r.listChildren storage container other files).2.files = files

/-- Where the content of a file can be written, a fetch writes it and says so. -/
def Delivers (r : Remote σ) (h : Hierarchy) : Prop :=
  ∀ file target other files files', files.writeFile target (h.body file) = .ok files' →
    (r.fetch file target other files).1 = .ok true ∧
      (r.fetch file target other files).2.files = files'

/-- Where the content of a file can be written, a fetch that says it succeeded has written it. -/
def IsTruthful (r : Remote σ) (h : Hierarchy) : Prop :=
  ∀ file target other files files', files.writeFile target (h.body file) = .ok files' →
    (r.fetch file target other files).1 = .ok true →
      (r.fetch file target other files).2.files = files'

lemma Delivers.isTruthful {r : Remote σ} {h : Hierarchy} (hr : r.Delivers h) : r.IsTruthful h :=
  fun file target other files files' hwrite _ => (hr file target other files files' hwrite).2

/-- A hierarchy's listing is what the remote tree answers. -/
lemma Lists.eq_listing {r : Remote σ} {h : Hierarchy} (hr : r.Lists h) {storage : Int}
    {container : Option Int} {other : σ} {files : FileSystem} {result : Except Failure (List Node)}
    {w : World σ} (answer : r.listChildren storage container other files = (result, w)) :
    result = .ok (h.listing storage container) ∧ w.files = files := by
  have := hr.children storage container other files
  rwa [answer] at this

end Remote

namespace InMemory

variable {m : InMemory}

/-- What a device in memory gives. -/
def hierarchy (m : InMemory) (storages : List Storage) : Hierarchy where
  storages := storages
  listing storage container :=
    if m.failingLists.contains container then [] else m.childrenOf storage container
  body := contentOf

/-- A device in memory lists its hierarchy if no effects disturb it. -/
lemma lists {storages : List Storage} (heffects : m.effects = [])
    (hstorages : m.storages.mapM Storage.ofJson = .ok storages) :
    m.remote.Lists (m.hierarchy storages) where
  storages other files := by
    show (m.storages.mapM Storage.ofJson).mapError Failure.value = .ok storages ∧ files = files
    rw [hstorages]
    exact ⟨rfl, rfl⟩
  children storage container other files := by
    have hquiet : m.effectsOf container = [] := by simp [effectsOf, heffects]
    show (m.listChildren storage container other files).1 = _ ∧
      (m.listChildren storage container other files).2.files = files
    simp only [listChildren, hierarchy]
    rw [hquiet]
    dsimp only [FileChange.applyAll]
    split_ifs <;> exact ⟨rfl, rfl⟩

/-- It delivers contents if no fetch fails. -/
lemma delivers (storages : List Storage) (hfetches : m.failingFetches = []) :
    m.remote.Delivers (m.hierarchy storages) := by
  intro file target other files files' hwrite
  have hcontent : files.writeFile target (contentOf file) = .ok files' := hwrite
  show (m.fetch file target other files).1 = _ ∧ (m.fetch file target other files).2.files = files'
  rw [fetch]
  rw [hfetches, hcontent]
  exact ⟨rfl, rfl⟩

end InMemory

/-- What stands at the place of a file once a walk has been there: its content if it was due, and
else what stood there before. -/
def Walk.Plan.settle {σ : Type} (p : Walk.Plan σ) (h : Hierarchy) (n : Node) (old : Option Entry) :
    Option Entry :=
  if p.verdict n (FileSystem.sizeAt old) = .due then
    some (.file (h.body n) (FileSystem.modeOver old))
  else old

/-- A place that is settled. -/
abbrev Walk.Plan.Settles {σ : Type} (p : Walk.Plan σ) (h : Hierarchy) (n : Node)
    (old new : Option Entry) : Prop :=
  new = p.settle h n old

end Replica
