import Mathlib.Tactic.Common
import Replica.LocalDirectory
/-!
# Paths of usable names

A usable name joined to a path is one more name at its end: nothing of it is read as a separator,
as a dot or as an anchor (`Path.join_segment`).  Hence the path of the local directory is the
destination's followed by the names on the way down, and the path of an entry in it is that with
the entry's name at the end (`LocalDirectory.current_eq`, `LocalDirectory.pathFor_eq`).

`Path.below` is the path that names lead to from another one, and `Path.Fits` says that the
system takes such a path at all.
-/

namespace Replica

/-- What makes a name usable. -/
lemma isSegment_iff {name : String} :
    isSegment name = true ↔ name ≠ "" ∧ name ≠ "." ∧ name ≠ ".." ∧
      separator ∉ name.toList ∧ '\x00' ∉ name.toList := by
  simp [isSegment, and_assoc]

/-- One more usable name. -/
lemma usable_concat {names : List String} {name : String}
    (hnames : ∀ n ∈ names, isSegment n = true) (hname : isSegment name = true) :
    ∀ n ∈ names ++ [name], isSegment n = true := by
  intro n hn
  rcases List.mem_append.mp hn with hn | hn
  · exact hnames n hn
  · rwa [List.mem_singleton.mp hn]

/-- Without separator there is one piece. -/
lemma Text.splitAt_of_not_mem {c : Char} {cs : List Char} (h : c ∉ cs) :
    Text.splitAt c cs = [cs] := by
  induction cs with
  | nil => rfl
  | cons d rest ih =>
    rw [List.mem_cons, not_or] at h
    rw [Text.splitAt, if_neg (Ne.symm h.1), ih h.2]

namespace Path

/-- The path to which names lead from `p`. -/
def below (p : Path) (names : List String) : Path := { p with names := p.names ++ names }

@[simp] lemma below_nil (p : Path) : p.below [] = p := by simp [below]

@[simp] lemma below_below (p : Path) (xs ys : List String) :
    (p.below xs).below ys = p.below (xs ++ ys) := by
  simp [below]

@[simp] lemma names_below (p : Path) (names : List String) :
    (p.below names).names = p.names ++ names := rfl

/-- The system takes the path of a name below `p`: neither the name nor the whole is too long. -/
def Fits (p : Path) (name : String) : Prop :=
  (p.below [name]).text.utf8ByteSize ≤ FileSystem.maxPathBytes ∧
    name.utf8ByteSize ≤ FileSystem.maxNameBytes

instance (p : Path) (name : String) : Decidable (p.Fits name) :=
  inferInstanceAs (Decidable (_ ∧ _))

/-- A usable name is read as itself. -/
lemma ofString_segment {name : String} (h : isSegment name = true) :
    Path.ofString name = ⟨.relative, [name]⟩ := by
  obtain ⟨hne, hdot, -, hsep, -⟩ := isSegment_iff.mp h
  have hnil : name.toList ≠ [] := fun h0 => hne (String.toList_eq_nil_iff.mp h0)
  have hone : name.toList ≠ ['.'] := fun h1 => hdot (String.toList_injective h1)
  have hanchor : anchorOf name.toList = .relative := by
    rcases hl : name.toList with _ | ⟨c, rest⟩
    · rfl
    · have hc : c ≠ '/' := by
        rintro rfl
        exact hsep (by rw [hl]; exact List.mem_cons_self)
      simp only [anchorOf]
      split <;> simp_all
  simp only [Path.ofString, hanchor, namesOf, Text.splitAt_of_not_mem hsep]
  simp [hnil, hone]

/-- A usable name joined to a path stands at its end. -/
lemma join_segment {name : String} (h : isSegment name = true) (p : Path) :
    p.join name = p.below [name] := by
  simp [Path.join, ofString_segment h, below]

/-- The text of a longer path. -/
lemma byteSize_text_below {p : Path} {names : List String} (hp : p.names ≠ [])
    (hnames : names ≠ []) :
    (p.below names).text.utf8ByteSize =
      p.text.utf8ByteSize + 1 + ("/".intercalate names).utf8ByteSize := by
  have hne : p.names ++ names ≠ [] := by simp [hp]
  have hjoin := String.intercalate_append_of_ne_nil (s := "/") hp hnames
  rw [Path.text, Path.text, if_neg (fun h => hne h.2), if_neg (fun h => hp h.2)]
  show (Path.anchorText p.anchor ++ "/".intercalate (p.names ++ names)).utf8ByteSize = _
  rw [hjoin]
  simp only [String.utf8ByteSize_append]
  have hslash : "/".utf8ByteSize = 1 := rfl
  omega

/-- Names without the null character add none to a path. -/
lemma hasNull_below {p : Path} {name : String} (hp : p.hasNull = false)
    (h : isSegment name = true) : (p.below [name]).hasNull = false := by
  obtain ⟨-, -, -, -, hnull⟩ := isSegment_iff.mp h
  simp only [hasNull, List.any_eq_false] at hp ⊢
  intro s hs
  rcases List.mem_append.mp hs with hs | hs
  · exact hp s hs
  · rw [List.mem_singleton] at hs
    subst hs
    simpa using hnull

end Path

namespace LocalDirectory

/-- The current directory is where the names entered lead from the destination. -/
lemma current_eq {root : Path} {parts : List String} (h : ∀ n ∈ parts, isSegment n = true) :
    current ⟨root, parts⟩ = root.below parts := by
  suffices key : ∀ p : Path, parts.foldl Path.join p = p.below parts from key root
  induction parts with
  | nil => intro p; simp
  | cons n rest ih =>
    intro p
    have hrest := ih fun m hm => h m (List.mem_cons_of_mem n hm)
    rw [List.foldl_cons, Path.join_segment (h n List.mem_cons_self), hrest, Path.below_below,
      List.singleton_append]

/-- A usable name leads one step down from the current directory. -/
lemma pathFor_eq {root : Path} {parts : List String} (h : ∀ n ∈ parts, isSegment n = true)
    {name : String} (hn : isSegment name = true) :
    pathFor ⟨root, parts⟩ name = root.below (parts ++ [name]) := by
  rw [pathFor, current_eq h, Path.join_segment hn, Path.below_below]

end LocalDirectory

end Replica
