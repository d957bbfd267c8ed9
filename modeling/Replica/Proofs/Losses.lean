import Replica.Proofs.Reactions
/-!
# Files that are lost

Two ways of fetching are compared, of which the second one loses some files.

* **Lost files.**  `Reaction.Loses` relates the two.  `Tour.spoil` is what becomes of a tour if
  files are lost, and `Tour.losses` are the places of the lost files.  A lost file is asked for all
  the same (`Tour.calls_spoil`), and each loss is one more failure (`Tour.failures_spoil`).
* **Places.**  `Apart` says that two entries do not share the place of a file.  `Clear` entries have
  places of their own, at which no file was lost before.
-/

namespace Replica

/-! ## Lost files -/

/-- The second reaction is the first one but for lost files: these are fetched in vain by the
second one wherever the first one fetches them, and anything may be left at their places. -/
structure Reaction.Loses (lost : Int → Bool) (f f' : Reaction) : Prop where
  kept : ∀ n path old, lost n.id = false →
    f'.answer n path old = f.answer n path old ∧ f'.leaves n path old = f.leaves n path old
  missed : ∀ n path old ok, lost n.id = true → f.answer n path old = .ok ok →
    ok = true ∧ f'.answer n path old = .ok false

/-- What becomes of a child if it is lost. -/
def Fate.spoil (isLost : Bool) : Fate → Fate
  | .fetched => if isLost then .missed else .fetched
  | fate => fate

namespace Fate

variable {fate fate' : Fate} {isLost : Bool}

@[simp] lemma spoil_false (fate : Fate) : fate.spoil false = fate := by
  cases fate <;> rfl

@[simp] lemma verdict?_spoil : (fate.spoil isLost).verdict? = fate.verdict? := by
  cases fate <;> cases isLost <;> rfl

lemma spoil_of_idle (h : fate.verdict? ≠ some .due) : fate.spoil isLost = fate := by
  cases fate with
  | unusable | upToDate | leftOut => rfl
  | fetched | missed => exact absurd rfl h

@[simp] lemma calls_spoil (root : Path) (above : List String) (child : Node) :
    (fate.spoil isLost).calls root above child = fate.calls root above child := by
  cases fate <;> cases isLost <;> rfl

/-- A fate is known from what the file needs and from whether it was fetched. -/
lemma eq_of_verdict? (h : fate.verdict? = fate'.verdict?)
    (hfetched : fate.verdict? = some .due → (fate = .fetched ↔ fate' = .fetched)) :
    fate = fate' := by
  cases fate <;> cases fate' <;> simp_all [verdict?]

end Fate

/-- The same answers, but for lost files. -/
lemma Reaction.Loses.answer {lost : Int → Bool} {f f' : Reaction} (h : f.Loses lost f') {n : Node}
    {path : Path} {old : Option Entry} {fate : Fate}
    (hanswer : f.answer n path old = .ok (decide (fate = .fetched))) :
    f'.answer n path old = .ok (decide (fate.spoil (lost n.id) = .fetched)) := by
  cases hlost : lost n.id with
  | false => rw [(h.kept n path old hlost).1, hanswer, Fate.spoil_false]
  | true =>
    obtain ⟨hfetched, hanswer'⟩ := h.missed n path old _ hlost hanswer
    rw [hanswer', of_decide_eq_true hfetched]
    rfl

/-- A device in memory with more fetches that fail loses these files. -/
lemma InMemory.loses_broken {m : InMemory} (containers : List (Option Int)) {ids : List Int}
    (hfresh : ∀ id ∈ ids, id ∉ m.failingFetches) :
    m.reaction.Loses (ids.contains ·) (m.broken containers ids).reaction where
  kept n path old hlost := by
    have hsame : (m.broken containers ids).failingFetches.contains n.id =
        m.failingFetches.contains n.id := by
      rw [InMemory.broken, List.contains_append, hlost, Bool.or_false]
    simp only [InMemory.reaction, hsame, and_self]
  missed n path old ok hlost hanswer := by
    have hfetched : m.failingFetches.contains n.id ≠ true := by
      simpa using hfresh n.id (by simpa using hlost)
    have hfails : (m.broken containers ids).failingFetches.contains n.id = true := by
      rw [InMemory.broken, List.contains_append, hlost, Bool.or_true]
    refine ⟨?_, if_pos hfails⟩
    simp only [InMemory.reaction, if_neg hfetched] at hanswer
    split_ifs at hanswer
    exact (Except.ok.inj hanswer).symm

/-- Whether the question is for the content of a lost file. -/
def Call.isLost (lost : Int → Bool) : Call → Bool
  | .listing _ _ => false
  | .fetching file _ => lost file.id

/-- The same counts, but that some of the files that were fetched could not be fetched. -/
structure Statistics.Degraded (s s' : Statistics) : Prop where
  directories : s'.directories = s.directories
  files : s'.files = s.files
  skips : s'.skips = s.skips
  abstracts : s'.abstracts = s.abstracts
  invalid : s'.invalid = s.invalid
  fetches : s'.downloads + s'.failures = s.downloads + s.failures

namespace Statistics.Degraded

lemma refl (s : Statistics) : Degraded s s := ⟨rfl, rfl, rfl, rfl, rfl, rfl⟩

lemma add {s s' t t' : Statistics} (h : Degraded s s') (h' : Degraded t t') :
    Degraded (s + t) (s' + t') := by
  obtain ⟨h₁, h₂, h₃, h₄, h₅, h₆⟩ := h
  obtain ⟨h₁', h₂', h₃', h₄', h₅', h₆'⟩ := h'
  constructor <;> simp <;> omega

end Statistics.Degraded

namespace Tour

/-- What becomes of a tour if files are lost. -/
def spoil (lost : Int → Bool) : Tour → Tour
  | done => done
  | leaf child fate rest => leaf child (fate.spoil (lost child.id)) (rest.spoil lost)
  | folder child below rest => folder child (below.spoil lost) (rest.spoil lost)

/-- The places of the files that are lost, for a tour from the directories `above` on. -/
def losses (lost : Int → Bool) (top : Location) : List String → Tour → List Location
  | _, done => []
  | above, leaf child fate rest =>
    (if fate = .fetched ∧ lost child.id = true then [top ++ above ++ [child.name.display]]
      else []) ++ rest.losses lost top above
  | above, folder child below rest =>
    below.losses lost top (above ++ [child.name.display]) ++ rest.losses lost top above

variable (lost : Int → Bool) (top : Location) (t : Tour)

@[simp] lemma children_spoil : (t.spoil lost).children = t.children := by
  induction t with
  | done => rfl
  | leaf _ _ _ ih => simp [spoil, children, ih]
  | folder _ _ _ _ ih => simp [spoil, children, ih]

/-- Lost files are asked for all the same. -/
@[simp] lemma calls_spoil (root : Path) (storage : Int) (above : List String) :
    (t.spoil lost).calls root storage above = t.calls root storage above := by
  induction t generalizing above with
  | done => rfl
  | leaf _ _ _ ih => simp [spoil, calls, ih]
  | folder _ _ _ ih₁ ih₂ => simp [spoil, calls, ih₁, ih₂]

lemma degraded_spoil : Statistics.Degraded t.counts (t.spoil lost).counts := by
  induction t with
  | done => exact .refl _
  | leaf child fate rest ih =>
    refine Statistics.Degraded.add ?_ ih
    cases fate <;> cases lost child.id <;> exact ⟨rfl, rfl, rfl, rfl, rfl, rfl⟩
  | folder _ _ _ ih₁ ih₂ => exact ((Statistics.Degraded.refl _).add ih₁).add ih₂

variable (t' : Tour)

@[simp] lemma spoil_append : (t.append t').spoil lost = (t.spoil lost).append (t'.spoil lost) := by
  induction t with
  | done => rfl
  | leaf _ _ _ ih => simp [append, spoil, ih]
  | folder _ _ _ _ ih => simp [append, spoil, ih]

@[simp] lemma losses_append (above : List String) :
    (t.append t').losses lost top above = t.losses lost top above ++ t'.losses lost top above := by
  induction t with
  | done => rfl
  | leaf _ _ _ ih => simp [append, losses, ih]
  | folder _ _ _ _ ih => simp [append, losses, ih]

@[simp] lemma entries_append (above : List String) :
    (t.append t').entries above = t.entries above ++ t'.entries above := by
  induction t with
  | done => rfl
  | leaf _ _ _ ih => simp [append, entries, ih]
  | folder _ _ _ _ ih => simp [append, entries, ih]

/-- Each loss is one more failure. -/
lemma failures_spoil (above : List String) :
    (t.spoil lost).counts.failures = t.counts.failures + (t.losses lost top above).length := by
  induction t generalizing above with
  | done => rfl
  | leaf child fate rest ih =>
    cases fate <;> cases h : lost child.id <;>
      simp [spoil, counts, losses, Fate.spoil, Fate.counts, h, ih above] <;> omega
  | folder child below rest ih₁ ih₂ =>
    simp [spoil, counts, losses, ih₁ (above ++ [child.name.display]), ih₂ above]
    omega

/-- Each lost file is asked for. -/
lemma length_losses_le (root : Path) (storage : Int) (above : List String) :
    (t.losses lost top above).length ≤ (t.calls root storage above).countP (Call.isLost lost) := by
  induction t generalizing above with
  | done => exact Nat.le_refl _
  | leaf child fate rest ih =>
    have := ih above
    cases fate <;> cases h : lost child.id <;>
      simp [losses, calls, Fate.calls, Call.isLost, h] <;> omega
  | folder child below rest ih₁ ih₂ =>
    have h₁ := ih₁ (above ++ [child.name.display])
    have h₂ := ih₂ above
    simp [losses, calls, Call.isLost]
    omega

variable {lost top t}

/-- A file is lost at its place, and it is asked for there. -/
lemma exists_of_mem_losses {h : Hierarchy} {storage : Int} {above : List String} {l : Location}
    (ht : t.IsOf h storage) (root : Path) (hl : l ∈ t.losses lost top above) :
    ∃ x ∈ t.entries above, x.2.Calls x.2.name.display ∧ x.2.isContainer = false ∧
      lost x.2.id = true ∧ l = top ++ x.1 ++ [x.2.name.display] ∧
      .fetching x.2 (LocalDirectory.pathFor ⟨root, x.1⟩ x.2.name.display) ∈
        t.calls root storage above := by
  induction ht generalizing above with
  | done => cases hl
  | @leaf child fate rest fits _ ih =>
    rcases List.mem_append.mp hl with hhere | hlater
    · split_ifs at hhere with hcond
      · obtain ⟨rfl, hlost⟩ := hcond
        rcases fits with ⟨hfate, -⟩ | ⟨-, hfile, hcalls⟩
        · cases hfate
        · exact ⟨(above, child), List.mem_cons_self, hcalls, hfile, hlost,
            List.mem_singleton.mp hhere, List.mem_append_left _ List.mem_cons_self⟩
      · cases hhere
    · obtain ⟨x, hx, hcalls, hfile, hlost, hplace, hcall⟩ := ih hlater
      exact ⟨x, List.mem_cons_of_mem _ hx, hcalls, hfile, hlost, hplace,
        List.mem_append_right _ hcall⟩
  | @folder child below rest _ _ _ _ _ ih₁ ih₂ =>
    rcases List.mem_append.mp hl with hl | hl
    · obtain ⟨x, hx, hcalls, hfile, hlost, hplace, hcall⟩ := ih₁ hl
      exact ⟨x, List.mem_cons_of_mem _ (List.mem_append_left _ hx), hcalls, hfile, hlost, hplace,
        List.mem_cons_of_mem _ (List.mem_append_left _ hcall)⟩
    · obtain ⟨x, hx, hcalls, hfile, hlost, hplace, hcall⟩ := ih₂ hl
      exact ⟨x, List.mem_cons_of_mem _ (List.mem_append_right _ hx), hcalls, hfile, hlost, hplace,
        List.mem_cons_of_mem _ (List.mem_append_right _ hcall)⟩

end Tour

/-! ## Places -/

/-- Two entries have places of their own, unless both are folders. -/
def Apart (x y : List String × Node) : Prop :=
  ∀ name name', x.2.Calls name → y.2.Calls name' → x.1 ++ [name] = y.1 ++ [name'] →
    x.2.isContainer = true ∧ y.2.isContainer = true

/-- Two entries are apart unless they are shown with the same place. -/
lemma apart_of_display {x y : List String × Node}
    (h : x.1 ++ [x.2.name.display] = y.1 ++ [y.2.name.display] →
      x.2.isContainer = true ∧ y.2.isContainer = true) : Apart x y := by
  intro name name' hcalls hcalls' hsame
  rw [← hcalls.display, ← hcalls'.display] at hsame
  exact h hsame

lemma pairwise_apart {entries : List (List String × Node)}
    (h : (entries.map fun x => x.1 ++ [x.2.name.display]).Nodup) : entries.Pairwise Apart :=
  (List.pairwise_map.mp h).imp fun hplaces => apart_of_display fun hsame => absurd hsame hplaces

/-- Entries have places of their own, and no file was lost there before. -/
structure Clear (top : Location) (spoiled : List Location) (entries : List (List String × Node)) :
    Prop where
  apart : entries.Pairwise Apart
  unspoiled : ∀ x ∈ entries, ∀ name, x.2.Calls name → top ++ x.1 ++ [name] ∉ spoiled

namespace Clear

variable {top : Location} {spoiled new : List Location} {entries others : List (List String × Node)}

lemma left (h : Clear top spoiled (entries ++ others)) : Clear top spoiled entries :=
  ⟨(List.pairwise_append.mp h.apart).1, fun x hx => h.unspoiled x (List.mem_append_left _ hx)⟩

lemma right (h : Clear top spoiled (entries ++ others)) : Clear top spoiled others :=
  ⟨(List.pairwise_append.mp h.apart).2.1, fun x hx => h.unspoiled x (List.mem_append_right _ hx)⟩

lemma tail {x : List String × Node} (h : Clear top spoiled (x :: entries)) :
    Clear top spoiled entries :=
  ⟨(List.pairwise_cons.mp h.apart).2, fun y hy => h.unspoiled y (List.mem_cons_of_mem _ hy)⟩

/-- What comes later is clear of the files that were lost meanwhile. -/
lemma later (h : Clear top spoiled (entries ++ others))
    (hnew : ∀ l ∈ new, ∃ x ∈ entries, x.2.Calls x.2.name.display ∧ x.2.isContainer = false ∧
      l = top ++ x.1 ++ [x.2.name.display]) : Clear top (spoiled ++ new) others := by
  refine ⟨h.right.apart, fun y hy name hcalls hmem => ?_⟩
  rcases List.mem_append.mp hmem with hmem | hmem
  · exact h.right.unspoiled y hy name hcalls hmem
  obtain ⟨x, hx, hcalls', hfile, hplace⟩ := hnew _ hmem
  have hsame : x.1 ++ [x.2.name.display] = y.1 ++ [name] := by
    rw [List.append_assoc, List.append_assoc] at hplace
    exact (List.append_cancel_left hplace).symm
  have hfolder := (List.pairwise_append.mp h.apart).2.2 x hx y hy _ _ hcalls' hcalls hsame
  rw [hfile] at hfolder
  cases hfolder.1

end Clear

end Replica
