import Replica.Proofs.Paths
/-!
# Where the paths of a walk lead

A walk only ever asks about one name in a directory that it stands in.  This file answers such a
question once: if a path leads to a directory `l` (`FileSystem.Leads`), then one more usable name
leads to `l ++ [name]`, whatever links the path has gone through before (`FileSystem.Site.resolve`).
What the operations do at such a `FileSystem.Site` follows from what stands there, and from
nothing else.

How names are followed is said by two relations: `FileSystem.Follows` up to the end of a way or to
the first link on it, and `FileSystem.Arrives` through the links.  `FileSystem.advance_eq_ok` and
`FileSystem.resolveFrom_eq_ok` are the one place where the functions themselves are taken apart;
what is said of ways elsewhere is by induction on these relations.

`FileSystem.Preserves` is what every operation of a run keeps: directories and links stay, and
files stay files.  As long as the former stay, a path that leads to a directory goes on leading
there (`FileSystem.Leads.stays`), which is why a walk can come back to where it was.
-/

namespace Replica.FileSystem

variable {fs fs' fs'' : FileSystem} {l l' : Location} {e : Entry} {p : Path} {name : String}

/-! ## Looking up and putting -/

lemma find_replace (l l' : Location) (e : Entry) (es : List (Location × Entry)) :
    find (replace l e es) l' = if l = l' then some e else find es l' := by
  induction es with
  | nil => rfl
  | cons x rest ih =>
    obtain ⟨k, e'⟩ := x
    by_cases hk : k = l
    · subst hk
      by_cases hl : k = l' <;> simp [replace, find, hl]
    · by_cases hl : k = l'
      · have hne : l ≠ l' := fun h => hk (hl.trans h.symm)
        have hne' : l' ≠ l := Ne.symm hne
        simp [replace, find, hl, hne, hne']
      · simp [replace, find, hk, hl, ih]

/-- What stands at each location after something was put below the top. -/
lemma get?_set (hl : l ≠ []) : (fs.set l e).get? l' = if l' = l then some e else fs.get? l' := by
  by_cases h0 : l' = []
  · subst h0
    simp [get?, Ne.symm hl]
  · by_cases h : l' = l
    · subst h
      simp [get?, set, find_replace, h0]
    · simp [get?, set, find_replace, h0, h, Ne.symm h]

@[simp] lemma get?_set_self (l : Location) (name : String) (e : Entry) :
    (fs.set (l ++ [name]) e).get? (l ++ [name]) = some e := by
  rw [get?_set (by simp), if_pos rfl]

lemma get?_set_of_ne {l : Location} {name : String} (h : l' ≠ l ++ [name]) (e : Entry) :
    (fs.set (l ++ [name]) e).get? l' = fs.get? l' := by
  rw [get?_set (by simp), if_neg h]

/-! ## What every operation of a run keeps -/

/-- Directories and links stay as they are, and so do the permissions. -/
structure Stays (before after : FileSystem) : Prop where
  closed : after.closed = before.closed
  directory : ∀ l, before.get? l = some .directory → after.get? l = some .directory
  link : ∀ l t, before.get? l = some (.link t) → after.get? l = some (.link t)

lemma Stays.refl (fs : FileSystem) : Stays fs fs := ⟨rfl, fun _ h => h, fun _ _ h => h⟩

lemma Stays.trans (h : Stays fs fs') (h' : Stays fs' fs'') : Stays fs fs'' where
  closed := h'.closed.trans h.closed
  directory l hl := h'.directory l (h.directory l hl)
  link l t hl := h'.link l t (h.link l t hl)

/-- Directories and links stay as they are, and so do the permissions; files stay files. -/
structure Preserves (before after : FileSystem) : Prop where
  closed : after.closed = before.closed
  directory : ∀ l, before.get? l = some .directory → after.get? l = some .directory
  link : ∀ l t, before.get? l = some (.link t) → after.get? l = some (.link t)
  file : ∀ l c m, before.get? l = some (.file c m) → ∃ c' m', after.get? l = some (.file c' m')

lemma Preserves.stays (h : Preserves fs fs') : Stays fs fs' := ⟨h.closed, h.directory, h.link⟩

lemma Preserves.refl (fs : FileSystem) : Preserves fs fs :=
  ⟨rfl, fun _ h => h, fun _ _ h => h, fun _ c m h => ⟨c, m, h⟩⟩

lemma Preserves.trans (h : Preserves fs fs') (h' : Preserves fs' fs'') : Preserves fs fs'' where
  closed := h'.closed.trans h.closed
  directory l hl := h'.directory l (h.directory l hl)
  link l t hl := h'.link l t (h.link l t hl)
  file l c m hl := by
    obtain ⟨c', m', hl'⟩ := h.file l c m hl
    exact h'.file l c' m' hl'

/-- Something new preserves what is there. -/
lemma Preserves.of_absent (h : fs.get? (l ++ [name]) = none) (e : Entry) :
    Preserves fs (fs.set (l ++ [name]) e) := by
  have hne : ∀ l' e', fs.get? l' = some e' → l' ≠ l ++ [name] := by
    rintro l' e' hl' rfl
    rw [h] at hl'
    cases hl'
  refine ⟨rfl, fun l' hl' => ?_, fun l' t hl' => ?_, fun l' c m hl' => ⟨c, m, ?_⟩⟩ <;>
    rw [get?_set_of_ne (hne _ _ hl')] <;> exact hl'

/-- A file in place of a file preserves what is there. -/
lemma Preserves.of_file {c c' : List UInt8} {m m' : Nat}
    (h : fs.get? (l ++ [name]) = some (.file c m)) :
    Preserves fs (fs.set (l ++ [name]) (.file c' m')) := by
  refine ⟨rfl, fun l' hl' => ?_, fun l' t hl' => ?_, fun l' c₁ m₁ hl' => ?_⟩
  · rw [get?_set_of_ne (by rintro rfl; rw [h] at hl'; cases hl')]
    exact hl'
  · rw [get?_set_of_ne (by rintro rfl; rw [h] at hl'; cases hl')]
    exact hl'
  · by_cases hl : l' = l ++ [name]
    · subst hl
      exact ⟨c', m', get?_set_self l name _⟩
    · exact ⟨c₁, m₁, by rw [get?_set_of_ne hl]; exact hl'⟩

/-! ## Ways -/

/-- A name of a way is looked up in the directory that the way has come to: that is open, and the
name is neither a dot nor two, it is not too long, and it is not to be written with a separator
after it. -/
structure IsLookedUp (fs : FileSystem) (access : Access) (start : Location) (n : String)
    (rest : List String) : Prop where
  notEmpty : n ≠ ""
  isOpen : start ∉ fs.closed
  notDot : n ≠ "."
  notDots : n ≠ ".."
  bare : ¬(access = .writing ∧ rest = [""])
  short : ¬maxNameBytes < n.utf8ByteSize

/-- From a directory, these names lead to an end, or to the first link on the way. -/
inductive Follows (fs : FileSystem) (access : Access) :
    Location → List String → Destination ⊕ Detour → Prop where
  /-- All names have been followed. -/
  | done {start : Location} : Follows fs access start [] (.inl (.found start .directory))
  /-- An empty name stays in the directory, and so does a dot. -/
  | stay {start : Location} {n : String} {rest : List String} {r : Destination ⊕ Detour}
    (dot : n = "" ∨ start ∉ fs.closed ∧ n = ".") (on : Follows fs access start rest r) :
    Follows fs access start (n :: rest) r
  /-- Two dots lead to the directory above. -/
  | up {start : Location} {rest : List String} {r : Destination ⊕ Detour}
    (isOpen : start ∉ fs.closed) (on : Follows fs access start.dropLast rest r) :
    Follows fs access start (".." :: rest) r
  /-- The name leads into a directory. -/
  | enter {start : Location} {n : String} {rest : List String} {r : Destination ⊕ Detour}
    (name : IsLookedUp fs access start n rest)
    (there : fs.get? (start ++ [n]) = some .directory)
    (on : Follows fs access (start ++ [n]) rest r) : Follows fs access start (n :: rest) r
  /-- Nothing stands at the last name. -/
  | absent {start : Location} {n : String} (name : IsLookedUp fs access start n [])
    (none : fs.get? (start ++ [n]) = none) : Follows fs access start [n] (.inl (.absent start n))
  /-- A file stands at the last name. -/
  | file {start : Location} {n : String} {content : List UInt8} {mode : Nat}
    (name : IsLookedUp fs access start n [])
    (there : fs.get? (start ++ [n]) = some (.file content mode)) :
    Follows fs access start [n] (.inl (.found (start ++ [n]) (.file content mode)))
  /-- A link stands at the last name, and is itself asked for. -/
  | itself {start : Location} {n : String} {target : String} (asked : access = .itself)
    (name : IsLookedUp fs access start n [])
    (there : fs.get? (start ++ [n]) = some (.link target)) :
    Follows fs access start [n] (.inl (.found (start ++ [n]) (.link target)))
  /-- The name leads to a link, which is to be followed. -/
  | link {start : Location} {n : String} {rest : List String} {target : String}
    (name : IsLookedUp fs access start n rest)
    (there : fs.get? (start ++ [n]) = some (.link target))
    (followed : ¬(rest = [] ∧ access = .itself)) :
    Follows fs access start (n :: rest) (.inr (detour start target rest))

/-- A name that is looked up leads to what stands there. -/
lemma advance_cons {access : Access} {start : Location} {n : String} {rest : List String}
    (h : IsLookedUp fs access start n rest) :
    fs.advance access start (n :: rest) =
      match fs.get? (start ++ [n]) with
      | none => if rest = [] then .ok (.inl (.absent start n)) else .error .missing
      | some .directory => fs.advance access (start ++ [n]) rest
      | some (.file content mode) =>
        if rest = [] then .ok (.inl (.found (start ++ [n]) (.file content mode)))
        else .error .notDirectory
      | some (.link target) =>
        if rest = [] ∧ access = .itself then .ok (.inl (.found (start ++ [n]) (.link target)))
        else .ok (.inr (detour start target rest)) := by
  rw [advance, if_neg h.notEmpty, if_neg h.isOpen, if_neg h.notDot, if_neg h.notDots,
    if_neg h.bare]
  exact if_neg h.short

/-- An empty name is passed over, and so is a dot. -/
lemma advance_stay {access : Access} {start : Location} {n : String} {rest : List String}
    (h : n = "" ∨ start ∉ fs.closed ∧ n = ".") :
    fs.advance access start (n :: rest) = fs.advance access start rest := by
  rw [advance]
  rcases h with rfl | ⟨hopen, rfl⟩
  · exact if_pos rfl
  · rw [if_neg (by decide), if_neg hopen, if_pos rfl]

/-- Two dots go up. -/
lemma advance_up {access : Access} {start : Location} {rest : List String}
    (h : start ∉ fs.closed) :
    fs.advance access start (".." :: rest) = fs.advance access start.dropLast rest := by
  rw [advance, if_neg (by decide), if_neg h, if_neg (by decide), if_pos rfl]

lemma follows_of_advance {access : Access} {r : Destination ⊕ Detour} :
    ∀ (names : List String) (start : Location),
      fs.advance access start names = .ok r → fs.Follows access start names r := by
  intro names
  induction names with
  | nil =>
    intro start h
    cases h
    exact .done
  | cons n rest ih =>
    intro start h
    by_cases h0 : n = ""
    · rw [advance, if_pos h0] at h
      exact .stay (.inl h0) (ih start h)
    by_cases hclosed : start ∈ fs.closed
    · rw [advance, if_neg h0, if_pos hclosed] at h
      cases h
    by_cases h1 : n = "."
    · rw [advance, if_neg h0, if_neg hclosed, if_pos h1] at h
      exact .stay (.inr ⟨hclosed, h1⟩) (ih start h)
    by_cases h2 : n = ".."
    · rw [advance, if_neg h0, if_neg hclosed, if_neg h1, if_pos h2] at h
      subst h2
      exact .up hclosed (ih start.dropLast h)
    by_cases h3 : access = .writing ∧ rest = [""]
    · rw [advance, if_neg h0, if_neg hclosed, if_neg h1, if_neg h2, if_pos h3] at h
      cases h
    by_cases h4 : maxNameBytes < n.utf8ByteSize
    · rw [advance, if_neg h0, if_neg hclosed, if_neg h1, if_neg h2, if_neg h3, if_pos h4] at h
      cases h
    have hname : IsLookedUp fs access start n rest := ⟨h0, hclosed, h1, h2, h3, h4⟩
    rw [advance_cons hname] at h
    -- what stands at the name decides
    rcases hn : fs.get? (start ++ [n]) with _ | ⟨_ | ⟨content, mode⟩ | target⟩ <;> rw [hn] at h <;>
      dsimp only at h
    · split_ifs at h with hrest
      subst hrest
      cases h
      exact .absent hname hn
    · exact .enter hname hn (ih _ h)
    · split_ifs at h with hrest
      subst hrest
      cases h
      exact .file hname hn
    · split_ifs at h with hitself
      · obtain ⟨rfl, hasked⟩ := hitself
        cases h
        exact .itself hasked hname hn
      · cases h
        exact .link hname hn hitself

/-- **What `advance` comes to.** -/
lemma advance_eq_ok {access : Access} {start : Location} {names : List String}
    {r : Destination ⊕ Detour} :
    fs.advance access start names = .ok r ↔ fs.Follows access start names r := by
  refine ⟨follows_of_advance names start, fun h => ?_⟩
  induction h with
  | done => rfl
  | stay dot _ ih =>
    rw [advance_stay dot]
    exact ih
  | up isOpen _ ih =>
    rw [advance_up isOpen]
    exact ih
  | enter name there _ ih =>
    rw [advance_cons name, there]
    exact ih
  | absent name none =>
    rw [advance_cons name, none]
    rfl
  | file name there =>
    rw [advance_cons name, there]
    rfl
  | itself asked name there =>
    rw [advance_cons name, there]
    exact if_pos ⟨rfl, asked⟩
  | link name there followed =>
    rw [advance_cons name, there]
    exact if_neg followed

/-- From a directory, these names lead here, through at most so many links. -/
inductive Arrives (fs : FileSystem) (access : Access) :
    Nat → Location → List String → Destination → Prop where
  /-- The way ends without another link. -/
  | ends {links : Nat} {start : Location} {names : List String} {destination : Destination}
    (way : fs.Follows access start names (.inl destination)) :
    Arrives fs access links start names destination
  /-- The way goes on where a link leads. -/
  | follows {links : Nat} {start : Location} {names : List String} {d : Detour}
    {destination : Destination} (way : fs.Follows access start names (.inr d))
    (on : Arrives fs access links d.location d.names destination) :
    Arrives fs access (links + 1) start names destination

/-- **What `resolveFrom` comes to.** -/
lemma resolveFrom_eq_ok {access : Access} {links : Nat} {start : Location} {names : List String}
    {destination : Destination} :
    fs.resolveFrom access links start names = .ok destination ↔
      fs.Arrives access links start names destination := by
  constructor
  · induction links generalizing start names with
    | zero =>
      intro h
      rw [resolveFrom] at h
      rcases hway : fs.advance access start names with _ | ⟨here | d⟩ <;> rw [hway] at h <;> cases h
      exact .ends (advance_eq_ok.mp hway)
    | succ links ih =>
      intro h
      rw [resolveFrom] at h
      rcases hway : fs.advance access start names with _ | ⟨here | d⟩ <;> rw [hway] at h
      · cases h
      · cases h
        exact .ends (advance_eq_ok.mp hway)
      · exact .follows (advance_eq_ok.mp hway) (ih h)
  · intro h
    induction h with
    | ends way => rw [resolveFrom, advance_eq_ok.mpr way]
    | follows way _ ih =>
      rw [resolveFrom, advance_eq_ok.mpr way]
      exact ih

/-- What it takes for a path to lead somewhere. -/
lemma resolve_eq_ok {access : Access} {destination : Destination} :
    fs.resolve access p = .ok destination ↔ p.hasNull = false ∧
      p.text.utf8ByteSize ≤ maxPathBytes ∧ fs.Arrives access maxLinks [] p.names destination := by
  rw [resolve, ← resolveFrom_eq_ok]
  cases hnull : p.hasNull with
  | true => simp
  | false =>
    by_cases hlong : maxPathBytes < p.text.utf8ByteSize
    · simp [hlong, Nat.not_le.mpr hlong]
    · rcases hres : fs.resolveFrom access maxLinks [] p.names with _ | d <;>
        simp [hlong, Nat.le_of_not_lt hlong]

/-! ## Ways that end in a directory -/

/-- The path leads to the directory at `l`. -/
def Leads (fs : FileSystem) (p : Path) (l : Location) : Prop :=
  fs.resolve .target p = .ok (.found l .directory)

/-- A name that something comes after is looked up whatever it is wanted for. -/
lemma IsLookedUp.append {access : Access} {start : Location} {n : String} {rest : List String}
    (h : IsLookedUp fs .target start n rest) (hne : name ≠ "") :
    IsLookedUp fs access start n (rest ++ [name]) where
  notEmpty := h.notEmpty
  isOpen := h.isOpen
  notDot := h.notDot
  notDots := h.notDots
  bare := by
    rintro ⟨-, heq⟩
    cases rest with
    | nil => exact hne (by simpa using heq)
    | cons m ms => simp at heq
  short := h.short

/-- One more name at the end of a way: past a directory it is looked up there, and past a link
it is followed from where the link sends the way. -/
lemma advance_append (access : Access) (hne : name ≠ "") {r : Destination ⊕ Detour}
    (names : List String) (start : Location) (h : fs.advance .target start names = .ok r) :
    (∀ l, r = .inl (.found l .directory) →
      fs.advance access start (names ++ [name]) = fs.advance access l [name]) ∧
    (∀ d, r = .inr d →
      fs.advance access start (names ++ [name]) = .ok (.inr ⟨d.location, d.names ++ [name]⟩)) := by
  induction advance_eq_ok.mp h with
  | done => exact ⟨by rintro l ⟨⟩; rfl, nofun⟩
  | stay dot on ih =>
    rw [List.cons_append, advance_stay dot]
    exact ih (advance_eq_ok.mpr on)
  | up isOpen on ih =>
    rw [List.cons_append, advance_up isOpen]
    exact ih (advance_eq_ok.mpr on)
  | enter asked there on ih =>
    rw [List.cons_append, advance_cons (asked.append hne), there]
    exact ih (advance_eq_ok.mpr on)
  | absent | file => exact ⟨nofun, nofun⟩
  | itself asked => cases asked
  | link asked there _ =>
    refine ⟨nofun, ?_⟩
    rintro d ⟨⟩
    rw [List.cons_append, advance_cons (asked.append hne), there]
    simp [detour]

/-- Links on the way to a directory do not matter for what comes after it: one more name is
looked up in that directory, with some of the links left to follow. -/
lemma resolveFrom_append (access : Access) (hne : name ≠ "") {links : Nat} {start : Location}
    {names : List String} {destination : Destination}
    (h : fs.Arrives .target links start names destination)
    (hl : destination = .found l .directory) :
    ∃ left, fs.resolveFrom access links start (names ++ [name]) =
      fs.resolveFrom access left l [name] := by
  induction h with
  | @ends links start names _ way =>
    subst hl
    refine ⟨links, ?_⟩
    rw [resolveFrom, resolveFrom,
      (advance_append access hne names start (advance_eq_ok.mpr way)).1 l rfl]
  | @follows links start names d _ way _ ih =>
    obtain ⟨left, hleft⟩ := ih hl
    refine ⟨left, ?_⟩
    rw [resolveFrom, (advance_append access hne names start (advance_eq_ok.mpr way)).2 d rfl]
    exact hleft

lemma IsLookedUp.stays (hstays : Stays fs fs') {access : Access} {start : Location} {n : String}
    {rest : List String} (h : IsLookedUp fs access start n rest) :
    IsLookedUp fs' access start n rest :=
  ⟨h.notEmpty, hstays.closed ▸ h.isOpen, h.notDot, h.notDots, h.bare, h.short⟩

/-- A way that goes on at a directory or at a link goes on there as long as those stay. -/
lemma Follows.stays (hstays : Stays fs fs') {start : Location} {names : List String}
    {r : Destination ⊕ Detour} (h : fs.Follows .target start names r)
    (hr : ∀ destination, r = .inl destination → ∃ l, destination = .found l .directory) :
    fs'.Follows .target start names r := by
  induction h with
  | done => exact .done
  | stay dot _ ih => exact .stay (hstays.closed ▸ dot) (ih hr)
  | up isOpen _ ih => exact .up (hstays.closed ▸ isOpen) (ih hr)
  | enter name there _ ih => exact .enter (name.stays hstays) (hstays.directory _ there) (ih hr)
  | absent =>
    obtain ⟨l, hl⟩ := hr _ rfl
    cases hl
  | file =>
    obtain ⟨l, hl⟩ := hr _ rfl
    cases hl
  | itself asked => cases asked
  | link name there followed => exact .link (name.stays hstays) (hstays.link _ _ there) followed

lemma Arrives.stays (hstays : Stays fs fs') {links : Nat} {start : Location} {names : List String}
    {destination : Destination} (h : fs.Arrives .target links start names destination)
    (hl : destination = .found l .directory) :
    fs'.Arrives .target links start names destination := by
  induction h with
  | ends way =>
    refine .ends (way.stays hstays ?_)
    rintro _ ⟨⟩
    exact ⟨l, hl⟩
  | follows way _ ih => exact .follows (way.stays hstays nofun) (ih hl)

/-- What it takes for a path to lead to a directory. -/
lemma leads_iff :
    fs.Leads p l ↔ p.hasNull = false ∧ p.text.utf8ByteSize ≤ maxPathBytes ∧
      fs.Arrives .target maxLinks [] p.names (.found l .directory) :=
  resolve_eq_ok

/-- A path that leads to a directory goes on leading there. -/
lemma Leads.stays (h : fs.Leads p l) (hs : Stays fs fs') : fs'.Leads p l := by
  rw [leads_iff] at h ⊢
  exact ⟨h.1, h.2.1, h.2.2.stays hs rfl⟩

lemma Leads.preserved (h : fs.Leads p l) (hp : Preserves fs fs') : fs'.Leads p l :=
  h.stays hp.stays

/-! ## One name in a directory -/

/-- The size of what stands at a location. -/
def sizeAt : Option Entry → Option Nat
  | none => none
  | some (.file content _) => some content.length
  | some _ => some directorySize

/-- A name in a directory that a path leads to, where no link stands. -/
structure Site (fs : FileSystem) (p : Path) (l : Location) (name : String) : Prop where
  leads : fs.Leads p l
  segment : isSegment name = true
  noLink : ∀ t, fs.get? (l ++ [name]) ≠ some (.link t)

/-- The system takes the path of a name in the directory at `l`: the directory is open, and neither
the name nor the path is too long. -/
structure Takes (fs : FileSystem) (p : Path) (l : Location) (name : String) : Prop where
  fits : p.Fits name
  isOpen : l ∉ fs.closed

instance (fs : FileSystem) (p : Path) (l : Location) (name : String) :
    Decidable (fs.Takes p l name) :=
  decidable_of_iff (p.Fits name ∧ l ∉ fs.closed) ⟨fun h => ⟨h.1, h.2⟩, fun h => ⟨h.1, h.2⟩⟩

/-- Permissions that stay do not matter. -/
lemma Takes.congr (h : fs.Takes p l name) (hclosed : fs'.closed = fs.closed) :
    fs'.Takes p l name :=
  ⟨h.fits, hclosed ▸ h.isOpen⟩

/-- Why the system does not take it. -/
def refusal (fs : FileSystem) (p : Path) (l : Location) (name : String) : FileProblem :=
  if (p.below [name]).text.utf8ByteSize ≤ maxPathBytes ∧ l ∈ fs.closed then .denied
  else .nameTooLong

lemma refusal_eq (fs : FileSystem) (p : Path) (l : Location) (name : String) :
    fs.refusal p l name = .denied ∨ fs.refusal p l name = .nameTooLong := by
  rw [refusal]
  split_ifs
  · exact .inl rfl
  · exact .inr rfl

section Site

variable (h : fs.Site p l name)
include h

/-- **One more name.**  If the system takes it, the path of a name in a directory leads to what
stands at that name, or to the lack of it. -/
lemma Site.resolve (access : Access) :
    fs.resolve access (p.below [name]) =
      if fs.Takes p l name then
        .ok (match fs.get? (l ++ [name]) with
          | none => .absent l name
          | some e => .found (l ++ [name]) e)
      else .error (.system (fs.refusal p l name)) := by
  obtain ⟨hne, hdot, hdots, -, -⟩ := isSegment_iff.mp h.segment
  obtain ⟨hnull, -, hres⟩ := leads_iff.mp h.leads
  rw [FileSystem.resolve]
  rw [Path.hasNull_below hnull h.segment, if_neg (by simp)]
  by_cases htext : maxPathBytes < (p.below [name]).text.utf8ByteSize
  · rw [if_pos htext, if_neg fun hf : fs.Takes p l name =>
      absurd hf.fits.1 (Nat.not_le.mpr htext), refusal,
      if_neg fun hclosed => absurd hclosed.1 (Nat.not_le.mpr htext)]
  rw [if_neg htext, Path.names_below]
  obtain ⟨left, hleft⟩ := resolveFrom_append access hne hres rfl
  rw [hleft, resolveFrom]
  by_cases hclosed : l ∈ fs.closed
  · rw [if_neg fun hf : fs.Takes p l name => hf.isOpen hclosed, refusal,
      if_pos ⟨Nat.le_of_not_lt htext, hclosed⟩]
    rw [advance, if_neg hne, if_pos hclosed]
  by_cases hname : maxNameBytes < name.utf8ByteSize
  · rw [if_neg fun hf : fs.Takes p l name => absurd hf.fits.2 (Nat.not_le.mpr hname), refusal,
      if_neg fun h => hclosed h.2]
    rw [advance, if_neg hne, if_neg hclosed, if_neg hdot, if_neg hdots, if_neg (by simp),
      if_pos hname]
  rw [if_pos ⟨⟨Nat.le_of_not_lt htext, Nat.le_of_not_lt hname⟩, hclosed⟩]
  rw [advance_cons ⟨hne, hclosed, hdot, hdots, by simp, hname⟩]
  have hlink := h.noLink
  rcases hn : fs.get? (l ++ [name]) with _ | ⟨_ | ⟨c, m⟩ | t⟩
  · simp
  · simp [advance]
  · simp
  · exact absurd hn (hlink t)

lemma Site.entryOf :
    fs.entryOf (p.below [name]) =
      if fs.Takes p l name then
        match fs.get? (l ++ [name]) with
        | none => .error (.system .missing)
        | some e => .ok e
      else .error (.system (fs.refusal p l name)) := by
  rw [FileSystem.entryOf, h.resolve]
  split_ifs
  · rcases fs.get? (l ++ [name]) with _ | e <;> rfl
  · rfl

/-- The size of what stands at the name. -/
lemma Site.sizeOf :
    fs.sizeOf (p.below [name]) =
      if fs.Takes p l name then
        match fs.get? (l ++ [name]) with
        | none => .error (.system .missing)
        | some (.file content _) => .ok content.length
        | some _ => .ok directorySize
      else .error (.system (fs.refusal p l name)) := by
  rw [FileSystem.sizeOf, h.entryOf]
  split_ifs
  · rcases fs.get? (l ++ [name]) with _ | ⟨_ | ⟨c, m⟩ | t⟩ <;> rfl
  · rfl

/-- A name leads to a directory if and only if one stands there. -/
lemma Site.isDirectory :
    fs.isDirectory (p.below [name]) =
      if fs.Takes p l name then .ok (decide (fs.get? (l ++ [name]) = some .directory))
      else .error (.system (fs.refusal p l name)) := by
  rw [FileSystem.isDirectory, ask, h.entryOf]
  split_ifs
  · rcases fs.get? (l ++ [name]) with _ | ⟨_ | ⟨c, m⟩ | t⟩ <;> simp
  · rcases fs.refusal_eq p l name with heq | heq <;> rw [heq]

/-- A directory is made exactly where nothing stands. -/
lemma Site.makeDirectory :
    fs.makeDirectory (p.below [name]) =
      if fs.Takes p l name then
        if fs.get? (l ++ [name]) = none then .ok (fs.set (l ++ [name]) .directory)
        else .error (.system .occupied)
      else .error (.system (fs.refusal p l name)) := by
  rw [FileSystem.makeDirectory, h.resolve]
  split_ifs with h1 h2
  · rw [h2]
  · rcases hn : fs.get? (l ++ [name]) with _ | e
    · exact absurd hn h2
    · rfl
  · rfl

/-- A file is written where none stands, or in place of one. -/
lemma Site.writeFile (content : List UInt8) :
    fs.writeFile (p.below [name]) content =
      if fs.Takes p l name then
        match fs.get? (l ++ [name]) with
        | none => .ok (fs.set (l ++ [name]) (.file content newFileMode))
        | some (.file _ mode) => .ok (fs.set (l ++ [name]) (.file content mode))
        | some _ => .error (.system .isDirectory)
      else .error (.system (fs.refusal p l name)) := by
  rw [FileSystem.writeFile, h.resolve]
  split_ifs
  · rcases fs.get? (l ++ [name]) with _ | ⟨_ | ⟨c, m⟩ | t⟩ <;> rfl
  · rfl

/-- A path that leads to a directory leads on through a directory in it. -/
lemma Site.leads_below (hf : fs.Takes p l name) (hd : fs.get? (l ++ [name]) = some .directory) :
    fs.Leads (p.below [name]) (l ++ [name]) := by
  rw [Leads, h.resolve, if_pos hf, hd]

end Site

/-- A path that leads to a directory is one that leads to a directory. -/
lemma Leads.isDirectory (h : fs.Leads p l) : fs.isDirectory p = .ok true := by
  rw [FileSystem.isDirectory, ask, FileSystem.entryOf, show fs.resolve .target p = _ from h]

lemma Leads.contains (h : fs.Leads p l) : fs.contains p = .ok true := by
  rw [FileSystem.contains, ask, FileSystem.entryOf, show fs.resolve .target p = _ from h]

end Replica.FileSystem
