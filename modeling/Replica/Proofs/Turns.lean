import Mathlib.Data.List.Induction
import Mathlib.Data.List.Pairwise
import Mathlib.Data.List.Perm.Basic
import Replica.Proofs.Losses
/-!
# The turns of a tour

A tour gives every child its turn.  On a device whose fetches answer the same every time, what a
turn does to the files follows from the turn, and it does so at the place of the child only.

* **Turns.**  `Tour.turns` are the turns of a tour, in order, and `Turn.effect` is what stands at a
  location after a turn.  The files after a tour are those before it with the effects of its turns
  (`Walk.Makes.effect`).
* **What a turn needs.**  `Turn.Suits` says that a turn goes with what stands at its place.  Where
  no file shares its place with another entry, other turns make no difference to that
  (`Turn.suits_iff`), so all turns of a tour suit the files before it (`Walk.Makes.suits`).
* **Order.**  The effects of such turns commute (`Turn.foldl_effect_perm`).
-/

namespace Replica

open FileSystem (LinkFree sizeAt)

variable {σ τ : Type}

/-- A turn of a walk. -/
structure Turn where
  /-- The directories that the walk has entered. -/
  above : List String
  /-- The containers that it is inside of. -/
  ids : List Int
  /-- The child whose turn it is. -/
  child : Node
  /-- What becomes of the child, unless it is a folder that is gone through. -/
  fate : Option Fate

namespace Tour

/-- The turns of a tour, in order. -/
def turns : List String → List Int → Tour → List Turn
  | _, _, done => []
  | above, ids, leaf child fate rest => ⟨above, ids, child, some fate⟩ :: rest.turns above ids
  | above, ids, folder child below rest =>
    ⟨above, ids, child, none⟩ :: (below.turns (above ++ [child.name.display]) (child.id :: ids) ++
      rest.turns above ids)

@[simp] lemma turns_append (t t' : Tour) (above : List String) (ids : List Int) :
    (t.append t').turns above ids = t.turns above ids ++ t'.turns above ids := by
  induction t with
  | done => rfl
  | leaf _ _ _ ih => simp [append, turns, ih]
  | folder _ _ _ _ ih => simp [append, turns, ih]

end Tour

namespace Turn

/-- The entry whose turn it is. -/
def entry (x : Turn) : List String × Node := (x.above, x.child)

/-- The place of the child. -/
def place (top : Location) (x : Turn) : Location := top ++ x.above ++ [x.child.name.display]

/-- The path under which the child's content is asked for. -/
def path (root : Path) (x : Turn) : Path :=
  LocalDirectory.pathFor ⟨root, x.above⟩ x.child.name.display

/-- What stands at the place of the child after the turn. -/
def leaves (f : Reaction) (root : Path) (old : Option Entry) (x : Turn) : Option Entry :=
  match x.fate with
  | none => some .directory
  | some fate => if fate.verdict? = some .due then f.leaves x.child (x.path root) old else old

/-- What stands at a location after the turn. -/
def effect (f : Reaction) (root : Path) (top l : Location) (old : Option Entry) (x : Turn) :
    Option Entry :=
  if l = x.place top then x.leaves f root old else old

/-- The turn goes with what stands at its place. -/
inductive Suits (p : Walk.Plan σ) (f : Reaction) (root : Path) (top : Location)
    (files : FileSystem) : Turn → Prop where
  /-- The child has no usable name. -/
  | unusable {above : List String} {ids : List Int} {child : Node}
    (name : isUsableName child.name = .ok false) :
    Suits p f root top files ⟨above, ids, child, some .unusable⟩
  /-- The child is a file, and its fate is what it needs and what is answered. -/
  | file {above : List String} {ids : List Int} {child : Node} {fate : Fate} {old : Option Entry}
    (there : files.get? (top ++ above ++ [child.name.display]) = old)
    (file : child.isContainer = false) (calls : child.Calls child.name.display)
    (text : ∃ text, Walk.sizeText child.declaredSize = .ok text)
    (takes : files.Takes (root.below above) (top ++ above) child.name.display)
    (verdict : fate.verdict? = some (p.verdict child (sizeAt old)))
    (answer : fate.verdict? = some .due →
      f.answer child (LocalDirectory.pathFor ⟨root, above⟩ child.name.display) old =
        .ok (decide (fate = .fetched))) :
    Suits p f root top files ⟨above, ids, child, some fate⟩
  /-- The child is a folder, and its directory is there or can be made. -/
  | folder {above : List String} {ids : List Int} {child : Node}
    (there : files.get? (top ++ above ++ [child.name.display]) = none ∨
      files.get? (top ++ above ++ [child.name.display]) = some .directory)
    (folder : child.isContainer = true) (calls : child.Calls child.name.display)
    (outside : child.id ∉ ids)
    (takes : files.Takes (root.below above) (top ++ above) child.name.display) :
    Suits p f root top files ⟨above, ids, child, none⟩

variable {p : Walk.Plan σ} {q : Walk.Plan τ} {f : Reaction} {root : Path} {top l : Location}
  {files files' : FileSystem} {x y : Turn} {xs ys : List Turn}

/-- Two walks that treat abstract files alike take the same turns. -/
lemma Suits.congr (hx : x.Suits p f root top files)
    (hinclude : q.includeAbstract = p.includeAbstract) : x.Suits q f root top files := by
  cases hx with
  | unusable name => exact .unusable name
  | file there file calls text takes verdict answer =>
    rw [← Walk.verdict_congr hinclude] at verdict
    exact .file there file calls text takes verdict answer
  | folder there folder calls outside takes => exact .folder there folder calls outside takes

/-- A turn makes a difference at its own place only.  After a folder's turn there is a directory,
whatever stood there. -/
lemma Suits.effect_cases (hx : x.Suits p f root top files) (l : Location) :
    (∀ old, effect f root top l old x = old) ∨
      l = x.place top ∧ x.child.Calls x.child.name.display ∧
        (x.child.isContainer = true →
          (files.get? l = none ∨ files.get? l = some .directory) ∧
            ∀ old, Turn.effect f root top l old x = some .directory) := by
  by_cases hplace : l = x.place top
  · cases hx with
    | unusable => exact .inl fun old => by simp [Turn.effect, leaves, Fate.verdict?]
    | file there file calls =>
      refine .inr ⟨hplace, calls, fun hfolder => ?_⟩
      rw [file] at hfolder
      cases hfolder
    | folder there folder calls =>
      refine .inr ⟨hplace, calls, fun _ => ⟨?_, fun old => if_pos hplace⟩⟩
      rw [hplace]
      exact there
  · exact .inl fun old => if_neg hplace

/-- Turns at one place are the turns of folders. -/
lemma isContainer_of_place (hapart : Apart x.entry y.entry)
    (hx : x.child.Calls x.child.name.display) (hy : y.child.Calls y.child.name.display)
    (hplace : x.place top = y.place top) :
    x.child.isContainer = true ∧ y.child.isContainer = true := by
  refine hapart _ _ hx hy ?_
  simpa [place, entry] using hplace

/-- What stands at the place of a turn after other turns: what stood there before, or a directory
where the turn is that of a folder. -/
lemma foldl_effect (hxs : ∀ x ∈ xs, x.Suits p f root top files)
    (hapart : ∀ x ∈ xs, Apart x.entry y.entry) (hy : y.child.Calls y.child.name.display)
    {old : Option Entry} (hold : files.get? (y.place top) = old) :
    xs.foldl (effect f root top (y.place top)) old = old ∨
      y.child.isContainer = true ∧ (old = none ∨ old = some .directory) ∧
        xs.foldl (effect f root top (y.place top)) old = some .directory := by
  induction xs using List.reverseRecOn with
  | nil => exact .inl rfl
  | append_singleton xs x ih =>
    simp only [List.forall_mem_append, List.forall_mem_singleton] at hxs hapart
    rw [List.foldl_append]
    rcases hxs.2.effect_cases (y.place top) with hsame | ⟨hplace, hx, hfolder⟩
    · rw [List.foldl_cons, List.foldl_nil, hsame]
      exact ih hxs.1 hapart.1
    · obtain ⟨hxfolder, hyfolder⟩ := isContainer_of_place hapart.2 hx hy hplace.symm
      obtain ⟨hthere, hleaves⟩ := hfolder hxfolder
      exact .inr ⟨hyfolder, hold ▸ hthere, hleaves _⟩

/-- A turn goes with other files if the same directories are closed and the same stands at its
place, or for a folder's turn nothing or a directory. -/
lemma Suits.elsewhere (hy : y.Suits p f root top files) (hclosed : files'.closed = files.closed)
    (hthere : y.child.Calls y.child.name.display →
      files'.get? (y.place top) = files.get? (y.place top) ∨ y.child.isContainer = true ∧
        (files'.get? (y.place top) = none ∨ files'.get? (y.place top) = some .directory)) :
    y.Suits p f root top files' := by
  cases hy with
  | unusable name => exact .unusable name
  | file there file calls text takes verdict answer =>
    obtain hsame | ⟨hfolder, -⟩ := hthere calls
    · exact .file (hsame.trans there) file calls text (takes.congr hclosed) verdict answer
    · rw [file] at hfolder
      cases hfolder
  | folder there folder calls outside takes =>
    refine .folder ?_ folder calls outside (takes.congr hclosed)
    obtain hsame | ⟨-, hafter⟩ := hthere calls
    · exact there.imp hsame.trans hsame.trans
    · exact hafter

/-- **Other turns make no difference to what a turn needs**, as long as no file shares its place
with another entry. -/
lemma suits_iff (hxs : ∀ x ∈ xs, x.Suits p f root top files)
    (hapart : ∀ x ∈ xs, Apart x.entry y.entry) (hclosed : files'.closed = files.closed)
    (hfiles : ∀ l, files'.get? l = xs.foldl (effect f root top l) (files.get? l)) :
    y.Suits p f root top files' ↔ y.Suits p f root top files := by
  have hthere := fun hy => foldl_effect hxs hapart hy rfl
  rw [← hfiles] at hthere
  constructor
  · exact fun hy => hy.elsewhere hclosed.symm fun hcalls =>
      (hthere hcalls).imp Eq.symm fun ⟨hfolder, hbefore, _⟩ => ⟨hfolder, hbefore⟩
  · exact fun hy => hy.elsewhere hclosed fun hcalls =>
      (hthere hcalls).imp id fun ⟨hfolder, _, hafter⟩ => ⟨hfolder, .inr hafter⟩

lemma Suits.after_iff (hx : x.Suits p f root top files) (hapart : Apart x.entry y.entry)
    (hclosed : files'.closed = files.closed)
    (hfiles : ∀ l, files'.get? l = Turn.effect f root top l (files.get? l) x) :
    y.Suits p f root top files' ↔ y.Suits p f root top files := by
  have hone : ∀ l, files'.get? l = [x].foldl (Turn.effect f root top l) (files.get? l) := hfiles
  exact suits_iff (by simpa using hx) (by simpa using hapart) hclosed hone

/-- At this location it does not matter which of two turns comes first. -/
def Commute (f : Reaction) (root : Path) (top l : Location) (x y : Turn) : Prop :=
  ∀ old, effect f root top l (effect f root top l old x) y =
    effect f root top l (effect f root top l old y) x

instance : Std.Symm (Commute f root top l) := ⟨fun _ _ h old => (h old).symm⟩

/-- Two turns commute, unless a file shares its place with another entry. -/
lemma Suits.commute (hx : x.Suits p f root top files) (hy : y.Suits p f root top files)
    (hapart : Apart x.entry y.entry) : Commute f root top l x y := by
  intro old
  rcases hx.effect_cases l with hsame | ⟨hplace, hcalls, hfolder⟩
  · rw [hsame, hsame]
  rcases hy.effect_cases l with hsame' | ⟨hplace', hcalls', hfolder'⟩
  · rw [hsame', hsame']
  · obtain ⟨hxfolder, hyfolder⟩ :=
      isContainer_of_place hapart hcalls hcalls' (hplace.symm.trans hplace')
    rw [(hfolder hxfolder).2, (hfolder hxfolder).2, (hfolder' hyfolder).2]

/-- **The order of the turns does not matter** to what they leave, as long as no file shares its
place with another entry. -/
theorem foldl_effect_perm (hperm : xs.Perm ys) (hxs : ∀ x ∈ xs, x.Suits p f root top files)
    (hapart : xs.Pairwise fun x y => Apart x.entry y.entry) (old : Option Entry) :
    xs.foldl (effect f root top l) old = ys.foldl (effect f root top l) old := by
  have hcommute : xs.Pairwise (Commute f root top l) :=
    hapart.imp_of_mem fun hx hy hxy => (hxs _ hx).commute (hxs _ hy) hxy
  have hall : ∀ x ∈ xs, ∀ y ∈ xs, Commute f root top l x y :=
    fun _ hx _ hy => hcommute.forall_of_forall (fun _ _ _ => rfl) hx hy
  exact hperm.foldl_eq' hall old

end Turn

/-! ## Tours -/

/-- The entries of a tour are those of its turns. -/
lemma Tour.map_entry_turns (t : Tour) (above : List String) (ids : List Int) :
    (t.turns above ids).map Turn.entry = t.entries above := by
  induction t generalizing above ids with
  | done => rfl
  | leaf _ _ _ ih => simp [turns, entries, Turn.entry, ih]
  | folder _ _ _ ih₁ ih₂ => simp [turns, entries, Turn.entry, ih₁, ih₂]

/-- A folder's directory is made. -/
lemma Foothold.effect_made {files files' : FileSystem} {root : Path} {top : Location}
    {above : List String} {child : Node} (hfoot : Foothold files root top above)
    (hcalls : child.Calls child.name.display)
    (hmade : LocalDirectory.made ⟨root, above⟩ child.name.display files = .ok files')
    (f : Reaction) (ids : List Int) (l : Location) :
    files'.get? l = Turn.effect f root top l (files.get? l) ⟨above, ids, child, none⟩ := by
  obtain ⟨hthere, helsewhere⟩ := hfoot.get?_made hcalls.segment hmade
  by_cases hplace : l = top ++ above ++ [child.name.display]
  · rw [hplace, hthere]
    exact (if_pos rfl).symm
  · rw [helsewhere l hplace]
    exact (if_neg hplace).symm

namespace Walk

variable {p : Plan σ} {h : Hierarchy} {f : Reaction} {root : Path} {storage : Int} {top : Location}
  {above : List String} {ids : List Int} {child : Node} {fate : Fate} {t : Tour}
  {x x' : Position σ} {y : Turn}

section Befalls

variable (hr : p.remote.Reacts f) (hb : Befalls p root above child fate x x')
  (hfoot : Foothold x.files root top above)
include hr hb hfoot

/-- What stands at a location once a child has met its fate. -/
lemma Befalls.effect (ids : List Int) (l : Location) :
    x'.files.get? l = Turn.effect f root top l (x.files.get? l) ⟨above, ids, child, some fate⟩ := by
  by_cases hdue : fate.verdict? = some .due
  · rcases hb.verdict with ⟨rfl, -⟩ | ⟨size, hfaces, -⟩
    · cases hdue
    obtain ⟨w, answer, hfiles⟩ := hb.due hdue
    have htakes := (hfoot.inspected hfaces.calls.segment hfaces.size).1
    have hleaves := (hfoot.fetched hr hfaces.calls.segment htakes answer).2.2 l
    rw [hfiles, hleaves]
    by_cases hplace : l = top ++ above ++ [child.name.display]
    · simp [Turn.effect, Turn.leaves, Turn.place, Turn.path, hdue, hplace]
    · rw [if_neg hplace]
      exact (if_neg hplace).symm
  · simp [hb.idle hdue, Turn.effect, Turn.leaves, hdue]

/-- The turn of a child suits the files. -/
lemma Befalls.suits (ids : List Int) :
    Turn.Suits p f root top x.files ⟨above, ids, child, some fate⟩ := by
  rcases hb.verdict with ⟨rfl, hname⟩ | ⟨size, hfaces, hverdict⟩
  · exact .unusable hname
  obtain ⟨htakes, rfl⟩ := hfoot.inspected hfaces.calls.segment hfaces.size
  refine .file rfl hfaces.file hfaces.calls hfaces.text htakes hverdict fun hdue => ?_
  obtain ⟨w, answer, -⟩ := hb.due hdue
  exact (hfoot.fetched hr hfaces.calls.segment htakes answer).1.symm

end Befalls

section Makes

variable (hlists : p.remote.Lists h) (hr : p.remote.Reacts f)
  (ht : Makes p root storage above ids t x x') (hfoot : Foothold x.files root top above)
include hlists hr ht hfoot

/-- **The files after a tour** are those before it with the effects of its turns. -/
theorem Makes.effect (l : Location) :
    x'.files.get? l = (t.turns above ids).foldl (Turn.effect f root top l) (x.files.get? l) := by
  induction ht with
  | done => rfl
  | leaf hmeets _ ih =>
    obtain ⟨hstays, hlinkFree⟩ := hmeets.stays hr hfoot
    rw [ih (hfoot.stays hstays hlinkFree), hmeets.effect hr hfoot]
    rfl
  | @folder above ids child below rest files w x x₁ x' hcalls hfolder houtside hmade hentered answer
      hinner hleft _ ih₁ ih₂ =>
    have hfirst : Makes p root storage above ids (.folder child below .done) x x₁ :=
      .folder hcalls hfolder houtside hmade hentered answer hinner hleft .done
    obtain ⟨hstays, hlinkFree⟩ := hfirst.stays hlists hr hfoot
    have hfiles : (x.listed p w).files = files := (hlists.eq_listing answer).2
    rw [ih₂ (hfoot.stays hstays hlinkFree), ih₁ (hfiles ▸ hfoot.below hcalls.segment hmade),
      hfiles, hfoot.effect_made hcalls hmade f ids, Tour.turns, List.foldl_cons, List.foldl_append]

/-- A turn that no turn of a tour is in the way of suits the files after the tour as it suits those
before it. -/
lemma Makes.suits_iff (hsuits : ∀ z ∈ t.turns above ids, z.Suits p f root top x.files)
    (hapart : ∀ z ∈ t.turns above ids, Apart z.entry y.entry) :
    y.Suits p f root top x'.files ↔ y.Suits p f root top x.files :=
  Turn.suits_iff hsuits hapart (ht.stays hlists hr hfoot).1.closed (ht.effect hlists hr hfoot)

/-- **All turns of a tour suit the files before it**, as long as no file shares its place with
another entry. -/
theorem Makes.suits (hapart : (t.turns above ids).Pairwise fun y z => Apart y.entry z.entry) :
    ∀ y ∈ t.turns above ids, y.Suits p f root top x.files := by
  induction ht with
  | done => simp [Tour.turns]
  | @leaf above ids child fate rest x x₁ x' hmeets _ ih =>
    obtain ⟨hfirst, hrest⟩ := List.pairwise_cons.mp hapart
    obtain ⟨hstays, hlinkFree⟩ := hmeets.stays hr hfoot
    have hhere := hmeets.suits hr hfoot ids
    rw [Tour.turns, List.forall_mem_cons]
    refine ⟨hhere, fun y hy => ?_⟩
    have hlater := ih (hfoot.stays hstays hlinkFree) hrest y hy
    exact (hhere.after_iff (hfirst y hy) hstays.closed (hmeets.effect hr hfoot ids)).mp hlater
  | @folder above ids child below rest files w x x₁ x' hcalls hfolder houtside hmade hentered answer
      hinner hleft _ ih₁ ih₂ =>
    have hthrough : Makes p root storage above ids (.folder child below .done) x x₁ :=
      .folder hcalls hfolder houtside hmade hentered answer hinner hleft .done
    have hturns : Tour.turns above ids (.folder child below .done) = ⟨above, ids, child, none⟩ ::
        below.turns (above ++ [child.name.display]) (child.id :: ids) :=
      congrArg _ (List.append_nil _)
    have hfiles : (x.listed p w).files = files := (hlists.eq_listing answer).2
    obtain ⟨htakes, hthere⟩ := (hfoot.made hcalls.segment).mp hmade
    have hclosed := (hfoot.preserves_made hcalls.segment hmade).1.closed
    have hhere : Turn.Suits p f root top x.files ⟨above, ids, child, none⟩ :=
      .folder (hthere.imp And.left And.left) hfolder hcalls houtside htakes
    rw [Tour.turns, ← List.cons_append, ← hturns] at hapart ⊢
    obtain ⟨hapart₁, hapart₂, hbetween⟩ := List.pairwise_append.mp hapart
    rw [hturns, List.pairwise_cons] at hapart₁
    have hbelow : ∀ y ∈ Tour.turns above ids (.folder child below .done),
        y.Suits p f root top x.files := by
      rw [hturns, List.forall_mem_cons]
      refine ⟨hhere, fun y hy => ?_⟩
      have hinside := ih₁ (hfiles ▸ hfoot.below hcalls.segment hmade) hapart₁.2 y hy
      rw [hfiles] at hinside
      exact (hhere.after_iff (hapart₁.1 y hy) hclosed
        (hfoot.effect_made hcalls hmade f ids)).mp hinside
    obtain ⟨hstays, hlinkFree⟩ := hthrough.stays hlists hr hfoot
    refine List.forall_mem_append.mpr ⟨hbelow, fun y hy => ?_⟩
    have hlater := ih₂ (hfoot.stays hstays hlinkFree) hapart₂ y hy
    exact (hthrough.suits_iff hlists hr hfoot hbelow fun z hz => hbetween z hz y hy).mp hlater

end Makes

end Walk

end Replica
