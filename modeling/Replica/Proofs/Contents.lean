import Replica.Proofs.Resolution
/-!
# Reading back what was written

A path may lead through links, and what is written through it stands at the end of that way.
Reading through the same path gives it back, because the links on the way are as they were.

* **Places.**  `FileSystem.placeOf` is where a file is written through a path; nothing stands there,
  or another file does (`FileSystem.Vacant`).
* **Ways.**  The way that was followed to a place leads to what is put there
  (`FileSystem.resolve_set`).
* **Contents.**  `FileSystem.Rewrites` says that one file has a new content and that nothing else
  has changed; that is what writing does.
-/

namespace Replica

/-- Where a file is written, if the way to it ends here. -/
def Destination.place? : Destination → Option Location
  | .absent directory name => some (directory ++ [name])
  | .found location (.file ..) => some location
  | .found _ _ => none

namespace FileSystem

variable {fs fs' : FileSystem} {p : Path} {place : Location} {content : List UInt8} {mode : Nat}

/-! ## Places -/

/-- Where a file is written through a path. -/
def placeOf (fs : FileSystem) (p : Path) : Except PathFault Location :=
  match fs.resolve .writing p with
  | .error fault => .error fault
  | .ok destination =>
    match destination.place? with
    | some place => .ok place
    | none => .error (.system .isDirectory)

/-- A file may be put here: nothing stands here, or a file does. -/
inductive Vacant (fs : FileSystem) : Destination → Location → Prop where
  /-- Nothing stands here. -/
  | absent {directory : Location} {name : String} (none : fs.get? (directory ++ [name]) = none) :
    Vacant fs (.absent directory name) (directory ++ [name])
  /-- A file stands here. -/
  | file {directory : Location} {name : String} {old : List UInt8} {mode : Nat}
    (there : fs.get? (directory ++ [name]) = some (.file old mode)) :
    Vacant fs (.found (directory ++ [name]) (.file old mode)) (directory ++ [name])

lemma Follows.vacant {access : Access} {start : Location} {names : List String}
    {r : Destination ⊕ Detour} (h : fs.Follows access start names r) {destination : Destination}
    (hr : r = .inl destination) (hplace : destination.place? = some place) :
    Vacant fs destination place := by
  induction h with
  | done =>
    cases hr
    cases hplace
  | stay _ _ ih => exact ih hr
  | up _ _ ih => exact ih hr
  | enter _ _ _ ih => exact ih hr
  | absent _ none =>
    cases hr
    cases hplace
    exact .absent none
  | file _ there =>
    cases hr
    cases hplace
    exact .file there
  | itself =>
    cases hr
    cases hplace
  | link => cases hr

lemma Arrives.vacant {access : Access} {links : Nat} {start : Location} {names : List String}
    {destination : Destination} (h : fs.Arrives access links start names destination)
    (hplace : destination.place? = some place) : Vacant fs destination place := by
  induction h with
  | ends way => exact way.vacant rfl hplace
  | follows _ _ ih => exact ih hplace

/-! ## Ways -/

lemma IsLookedUp.target {access : Access} {start : Location} {n : String} {rest : List String}
    (h : IsLookedUp fs access start n rest) : IsLookedUp fs .target start n rest :=
  ⟨h.notEmpty, h.isOpen, h.notDot, h.notDots, by simp, h.short⟩

section Ways

variable {e : Entry} (hstays : Stays fs fs') (hput : fs'.get? place = some e)
  (hplain : ∀ t, e ≠ .link t)
include hstays hput hplain

/-- The way to the place where something was put leads to it. -/
lemma Follows.put {access : Access} {start : Location} {names : List String}
    {r : Destination ⊕ Detour} (h : fs.Follows access start names r)
    (hplace : ∀ destination, r = .inl destination → destination.place? = some place) :
    fs'.Follows .target start names (r.map (fun _ => .found place e) id) := by
  have hlast : ∀ {start : Location} {n : String}, IsLookedUp fs' .target start n [] →
      place = start ++ [n] → fs'.Follows .target start [n] (.inl (.found place e)) := by
    rintro start n name rfl
    cases e with
    | directory => exact .enter name hput .done
    | file => exact .file name hput
    | link t => exact absurd rfl (hplain t)
  induction h with
  | done => cases hplace _ rfl
  | stay dot _ ih => exact .stay (hstays.closed ▸ dot) (ih hplace)
  | up isOpen _ ih => exact .up (hstays.closed ▸ isOpen) (ih hplace)
  | enter name there _ ih =>
    exact .enter (name.target.stays hstays) (hstays.directory _ there) (ih hplace)
  | absent name => exact hlast (name.target.stays hstays) (Option.some.inj (hplace _ rfl)).symm
  | file name => exact hlast (name.target.stays hstays) (Option.some.inj (hplace _ rfl)).symm
  | itself => cases hplace _ rfl
  | link name there =>
    exact .link (name.target.stays hstays) (hstays.link _ _ there) (by simp)

lemma Arrives.put {access : Access} {links : Nat} {start : Location} {names : List String}
    {destination : Destination} (h : fs.Arrives access links start names destination)
    (hplace : destination.place? = some place) :
    fs'.Arrives .target links start names (.found place e) := by
  induction h with
  | ends way =>
    refine .ends (way.put hstays hput hplain ?_)
    rintro _ ⟨⟩
    exact hplace
  | follows way _ ih => exact .follows (way.put hstays hput hplain nofun) (ih hplace)

end Ways

lemma Vacant.place_ne_nil {destination : Destination} (h : Vacant fs destination place) :
    place ≠ [] := by
  cases h <;> simp

/-- What is put there does not get in the way. -/
lemma Vacant.stays {destination : Destination} (h : Vacant fs destination place) (e : Entry) :
    Stays fs (fs.set place e) := by
  have hfree : fs.get? place ≠ some .directory ∧ ∀ t, fs.get? place ≠ some (.link t) := by
    cases h with
    | absent none => simp [none]
    | file there => simp [there]
  refine ⟨rfl, fun l hl => ?_, fun l t hl => ?_⟩
  · rw [get?_set h.place_ne_nil, if_neg (by rintro rfl; exact hfree.1 hl), hl]
  · rw [get?_set h.place_ne_nil, if_neg (by rintro rfl; exact hfree.2 t hl), hl]

/-- **A path leads to what is put where its way ended.** -/
lemma resolve_set {access : Access} {e : Entry} {destination : Destination}
    (h : fs.resolve access p = .ok destination) (hplace : destination.place? = some place)
    (hplain : ∀ t, e ≠ .link t) : (fs.set place e).resolve .target p = .ok (.found place e) := by
  obtain ⟨hnull, hlength, hway⟩ := resolve_eq_ok.mp h
  have hvacant := hway.vacant hplace
  have hput : (fs.set place e).get? place = some e := by
    rw [get?_set hvacant.place_ne_nil, if_pos rfl]
  exact resolve_eq_ok.mpr
    ⟨hnull, hlength, hway.put (hvacant.stays e) hput hplain hplace⟩

/-! ## Contents -/

/-- The file that a path leads to has this content afterwards, and nothing else has changed. -/
structure Rewrites (before : FileSystem) (p : Path) (content : List UInt8) (after : FileSystem) :
    Prop where
  others : ∃ place, before.placeOf p = .ok place ∧ ∀ l, l ≠ place → after.get? l = before.get? l
  content : after.readFile p = .ok content

/-- What is put where the way of a path ends is read back through the path. -/
lemma rewrites_set {destination : Destination} (h : fs.resolve .writing p = .ok destination)
    (hplace : destination.place? = some place) :
    Rewrites fs p content (fs.set place (.file content mode)) := by
  obtain ⟨-, -, hway⟩ := resolve_eq_ok.mp h
  have hne : place ≠ [] := (hway.vacant hplace).place_ne_nil
  refine ⟨⟨place, ?_, fun l hl => by rw [get?_set hne, if_neg hl]⟩, ?_⟩
  · rw [placeOf, h]
    dsimp only
    rw [hplace]
  · rw [readFile, entryOf, resolve_set h hplace (by simp)]

/-- **Writing changes the file that the path leads to, and nothing else.** -/
lemma rewrites_of_writeFile (h : fs.writeFile p content = .ok fs') : Rewrites fs p content fs' := by
  rw [writeFile] at h
  rcases hres : fs.resolve .writing p with
    _ | ⟨location, _ | ⟨old, mode⟩ | target⟩ | ⟨directory, name⟩ <;> rw [hres] at h <;> cases h
  · exact rewrites_set hres rfl
  · exact rewrites_set hres rfl

/-- Whether a file can be written does not depend on its content. -/
lemma writeFile_eq_error {fault : PathFault} :
    fs.writeFile p content = .error fault ↔ fs.placeOf p = .error fault := by
  rw [writeFile, placeOf]
  rcases fs.resolve .writing p with _ | ⟨location, _ | ⟨old, mode⟩ | target⟩ | ⟨directory, name⟩ <;>
    simp [Destination.place?]

end FileSystem

end Replica
