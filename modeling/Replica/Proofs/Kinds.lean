import Replica.Device.Node
import Replica.Proofs.Ensures
/-!
# Kinds and sizes of nodes

A node gets its kind from two fields of its entry, the type and the size, and devices are free in
how they write the second one.  What is read from the two is consistent: folders have no size, files
have the one that they declare, and everything else has none that a fetch could be measured by.

* **Fields.**  `Node.HasType` and `Node.Declares` say what an entry tells of the two.
* **Nodes.**  `Node.ofJson_sorts` gives the kind and the size of every node that is read, and says
  that only the integer counts for which the size stands, not the form in which it is written.
-/

namespace Replica

/-- A field that was set has its new value, and the others have theirs. -/
lemma Json.lookup_setField (key name : String) (value : Json) (fs : List (String × Json)) :
    lookup name (setField key value fs) = if name = key then some value else lookup name fs := by
  induction fs with
  | nil => simp [setField, lookup, eq_comm]
  | cons entry rest ih =>
    obtain ⟨k, v⟩ := entry
    by_cases hk : k = key
    · subst hk
      by_cases hname : name = k <;> simp [setField, lookup, hname, eq_comm]
    · by_cases hname : name = key
      · subst hname
        simp [setField, lookup, hk, ih]
      · simp [setField, lookup, hk, ih, hname]

namespace Node

variable {fs : List (String × Json)} {n : Node} {size : Int} {raw raw' : Json} {t : String}

/-! ## Fields -/

/-- The entry tells this type. -/
def HasType (fs : List (String × Json)) (t : String) : Prop :=
  Json.lookup "type" fs = some (.string t)

/-- The entry tells a size, and it stands for this integer. -/
def Declares (fs : List (String × Json)) (size : Int) : Prop :=
  ∃ raw, Json.lookup "file_size" fs = some raw ∧ raw ≠ .null ∧ raw.toInt = .ok size

lemma Declares.unique {size' : Int} (h : Declares fs size) (h' : Declares fs size') :
    size = size' := by
  obtain ⟨raw, hraw, -, hint⟩ := h
  obtain ⟨raw', hraw', -, hint'⟩ := h'
  rw [hraw] at hraw'
  cases hraw'
  rw [hint] at hint'
  exact Except.ok.inj hint'

/-- A type that is not empty counts as given. -/
lemma string?_textField_iff (ht : t ≠ "") :
    (Json.textField "type" fs).string? = some t ↔ HasType fs t := by
  rw [Json.textField, Json.field, HasType, Json.orElse]
  rcases Json.lookup "type" fs with _ | value
  · simp [Json.truthy, Json.string?, ht.symm]
  · cases value with
    | string s => by_cases hs : s = "" <;> simp [Json.truthy, Json.string?, hs, ht.symm]
    | _ =>
      rw [Option.getD_some]
      split_ifs <;> simp [Json.string?, ht.symm]

/-- A size that stands for an integer is declared, unless that is a marker. -/
lemma declaredSizeOf_of_toInt (h : raw.toInt = .ok size) :
    declaredSizeOf raw = .ok (if size ∈ abstractMarkers then none else some size) := by
  cases raw with
  | null => cases h
  | _ => simp [declaredSizeOf, h, bind, Except.bind, pure, Except.pure]

/-- The size that is read is the one that the entry declares. -/
lemma declaredSizeOf_eq_some_iff :
    declaredSizeOf (Json.field "file_size" fs) = .ok (some size) ↔
      Declares fs size ∧ size ∉ abstractMarkers := by
  constructor
  · intro h
    rw [Json.field] at h
    rcases hlookup : Json.lookup "file_size" fs with _ | raw <;> rw [hlookup] at h
    · cases h
    · rw [Option.getD_some] at h
      have hnull : raw ≠ .null := by
        rintro rfl
        cases h
      rcases hint : raw.toInt with fault | i
      · cases raw <;> first | cases h | simp [declaredSizeOf, hint, bind, Except.bind] at h
      · rw [declaredSizeOf_of_toInt hint] at h
        split_ifs at h with hmarker
        · cases h
        · cases h
          exact ⟨⟨raw, hlookup, hnull, hint⟩, hmarker⟩
  · rintro ⟨⟨raw, hlookup, -, hint⟩, hmarker⟩
    rw [Json.field, hlookup, Option.getD_some, declaredSizeOf_of_toInt hint, if_neg hmarker]

/-! ## Nodes -/

/-- What a node has from the type and the size of its entry; the other fields may be refused, and
have no part in the two. -/
lemma exists_size_of_ofJson (h : ofJson (.object fs) = .ok n) :
    ∃ size, declaredSizeOf (Json.field "file_size" fs) = .ok size ∧
      n.kind = kindOf (Json.textField "type" fs) size ∧
      n.declaredSize = if n.kind = .container then none else size := by
  simp only [ofJson, bind_eq_ok_iff] at h
  obtain ⟨_, hfields, size, hsize, id, -, _, -, parent, -, storage, -, hn⟩ := h
  cases hfields
  cases hn
  exact ⟨size, hsize, rfl, rfl⟩

/-- An entry is read in the same way if its size is written in another form. -/
lemma ofJson_setField {i : Int} (hraw : Json.lookup "file_size" fs = some raw)
    (h : raw.toInt = .ok i) (h' : raw'.toInt = .ok i) :
    ofJson (.object (Json.setField "file_size" raw' fs)) = ofJson (.object fs) := by
  have hsize : declaredSizeOf (Json.field "file_size" (Json.setField "file_size" raw' fs)) =
      declaredSizeOf (Json.field "file_size" fs) := by
    simp [Json.field, Json.lookup_setField, hraw, declaredSizeOf_of_toInt h,
      declaredSizeOf_of_toInt h']
  have hothers : ∀ name, name ≠ "file_size" →
      Json.lookup name (Json.setField "file_size" raw' fs) = Json.lookup name fs :=
    fun name hname => (Json.lookup_setField _ _ _ _).trans (if_neg hname)
  have hrequired : Json.required "id" (Json.setField "file_size" raw' fs) =
      Json.required "id" fs := by
    rw [Json.required, hothers _ (by decide), Json.required]
  have hfield : ∀ name, name ≠ "file_size" →
      Json.field name (Json.setField "file_size" raw' fs) = Json.field name fs := fun name hname =>
    congrArg (·.getD .null) (hothers name hname)
  simp only [ofJson, Json.fields, bind, Except.bind, hsize, hrequired, Json.textField,
    hfield "type" (by decide), hfield "parent_id" (by decide), hfield "storage_id" (by decide),
    hfield "name" (by decide), hfield "filetype" (by decide)]
  rfl

/-- What an entry can be read as, with the size that the node then has. -/
inductive Sorts (fs : List (String × Json)) : Node.Kind → Option Int → Prop where
  /-- The entry says that it is a folder. -/
  | folder (type : HasType fs "folder") : Sorts fs .container none
  /-- The entry says nothing of the kind and declares a size. -/
  | file {size : Int} (notFolder : ¬HasType fs "folder") (notAbstract : ¬HasType fs "abstract")
    (declares : Declares fs size) (unmarked : size ∉ abstractMarkers) : Sorts fs .file (some size)
  /-- The entry says that it is abstract, and declares a size all the same. -/
  | measured {size : Int} (type : HasType fs "abstract") (declares : Declares fs size)
    (unmarked : size ∉ abstractMarkers) : Sorts fs .abstractFile (some size)
  /-- The entry declares no size but a marker. -/
  | sizeless (notFolder : ¬HasType fs "folder")
    (marked : ∀ size, Declares fs size → size ∈ abstractMarkers) : Sorts fs .abstractFile none

lemma not_folder_of_abstract (h : HasType fs "abstract") : ¬HasType fs "folder" := by
  intro hfolder
  rw [HasType, h] at hfolder
  exact absurd hfolder (by simp)

/-- Every node that is read is one of these. -/
lemma sorts_of_ofJson (h : ofJson (.object fs) = .ok n) : Sorts fs n.kind n.declaredSize := by
  obtain ⟨given, hgiven, hkind, hsize⟩ := exists_size_of_ofJson h
  have hfolder : (Json.textField "type" fs).string? = some "folder" ↔ HasType fs "folder" :=
    string?_textField_iff (by decide)
  have habstract : (Json.textField "type" fs).string? = some "abstract" ↔ HasType fs "abstract" :=
    string?_textField_iff (by decide)
  rw [hsize, hkind, kindOf]
  by_cases hf : HasType fs "folder"
  · rw [if_pos (hfolder.mpr hf), if_pos rfl]
    exact .folder hf
  rw [if_neg (hfolder.not.mpr hf)]
  rcases given with _ | size
  · rw [if_pos (.inr rfl), if_neg (by decide)]
    refine .sizeless hf fun size hdeclares => ?_
    by_contra hmarker
    have hsome := declaredSizeOf_eq_some_iff.mpr ⟨hdeclares, hmarker⟩
    rw [hgiven] at hsome
    cases hsome
  · obtain ⟨hdeclares, hmarker⟩ := declaredSizeOf_eq_some_iff.mp hgiven
    by_cases ha : HasType fs "abstract"
    · rw [if_pos (.inl (habstract.mpr ha)), if_neg (by decide)]
      exact .measured ha hdeclares hmarker
    · rw [if_neg (by simp [habstract.not.mpr ha]), if_neg (by decide)]
      exact .file hf ha hdeclares hmarker

/-- **The kind and the size of a node are consistent.**  An entry is read as a folder exactly if it
says so; then there is no size.  It is read as a file exactly if it says neither that it is a folder
nor that it is abstract, and declares a size that is no marker; then this is the size.  In every
other case the node is abstract, without a size unless the entry says that it is abstract and
declares one that is no marker.  In which form the size is written makes no difference at all. -/
theorem ofJson_sorts (h : ofJson (.object fs) = .ok n) :
    ((n.kind = .container ↔ HasType fs "folder") ∧
        (n.kind = .container → n.declaredSize = none)) ∧
      ((n.kind = .file ↔ ¬HasType fs "folder" ∧ ¬HasType fs "abstract" ∧
          ∃ size, Declares fs size ∧ size ≠ -1 ∧ size ≠ 0xFFFFFFFF) ∧
        (n.kind = .file → ∀ size, Declares fs size → n.declaredSize = some size)) ∧
      (n.kind ≠ .container → n.kind ≠ .file → n.kind = .abstractFile ∧
        (n.declaredSize = none ∨ HasType fs "abstract" ∧ ∃ size, Declares fs size ∧
          (size ≠ -1 ∧ size ≠ 0xFFFFFFFF) ∧ n.declaredSize = some size)) ∧
      ∀ raw raw' size, Json.lookup "file_size" fs = some raw → raw.toInt = .ok size →
        raw'.toInt = .ok size →
        ofJson (.object (Json.setField "file_size" raw' fs)) = .ok n := by
  have hmarker : ∀ size : Int, size ∉ abstractMarkers ↔ size ≠ -1 ∧ size ≠ 0xFFFFFFFF := by
    simp [abstractMarkers]
  simp only [← hmarker]
  have hreplaced : ∀ raw raw' size, Json.lookup "file_size" fs = some raw →
      raw.toInt = .ok size → raw'.toInt = .ok size →
      ofJson (.object (Json.setField "file_size" raw' fs)) = .ok n := fun _ _ _ hraw hint hint' =>
    (ofJson_setField hraw hint hint').trans h
  have hsorts := sorts_of_ofJson h
  generalize n.kind = kind, n.declaredSize = size at hsorts ⊢
  cases hsorts with
  | folder type => exact ⟨by simp [type], by simp [type], by simp, hreplaced⟩
  | file notFolder notAbstract declares unmarked =>
    refine ⟨by simp [notFolder], ⟨?_, fun _ size h => ?_⟩, by simp, hreplaced⟩
    · simp only [notFolder, notAbstract, not_false_eq_true, true_and, true_iff]
      exact ⟨_, declares, unmarked⟩
    · rw [declares.unique h]
  | measured type declares unmarked =>
    refine ⟨by simp [not_folder_of_abstract type], by simp [type], fun _ _ => ⟨rfl, .inr ?_⟩,
      hreplaced⟩
    exact ⟨type, _, declares, unmarked, rfl⟩
  | sizeless notFolder marked =>
    refine ⟨by simp [notFolder], ⟨?_, nofun⟩, fun _ _ => ⟨rfl, .inl rfl⟩, hreplaced⟩
    simp only [reduceCtorEq, false_iff]
    rintro ⟨-, -, size, declares, unmarked⟩
    exact unmarked (marked size declares)

/-- An entry that declares a marker as a text. -/
def markedEntry : List (String × Json) :=
  [("id", .int 5), ("type", .string "text"), ("file_size", .string " 4294967295 ")]

/-- It is abstract, and so it is with the marker as a float that is cut to it. -/
theorem ofJson_sorts_marker :
    ∃ n, ofJson (.object markedEntry) = .ok n ∧ n.kind = .abstractFile ∧ n.declaredSize = none ∧
      ofJson (.object (Json.setField "file_size" (.number (.float 4294967295.5)) markedEntry)) =
        .ok n := by
  have hread : ofJson (.object markedEntry) =
      .ok ⟨5, none, 0, .string "", .abstractFile, none, .string "text"⟩ := by
    rfl
  obtain ⟨-, -, -, hreplaced⟩ := ofJson_sorts hread
  exact ⟨_, hread, rfl, rfl, hreplaced _ _ 4294967295 rfl (by rfl) (by rfl)⟩

end Node

end Replica
