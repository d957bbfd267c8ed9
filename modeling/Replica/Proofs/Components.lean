import Mathlib.Data.List.Basic
import Mathlib.Tactic.Common
import Replica.Proofs.Paths
/-!
# Components of paths

A name comes from the device as a text, and a path takes texts apart: at separators, leaving out
what is empty or a dot, and starting again at the top if the text says so.  The test for usable
names looks at characters only.  It accepts exactly the names of which a path makes one component,
the name itself.

* **Pieces.**  `Text.splitAt` undoes the putting together of texts without separators: no piece
  holds one (`Text.not_mem_of_mem_splitAt`), and each separator ends a piece
  (`Text.splitAt_append`).
* **Names.**  The names of a path are pieces, so that a name with a separator in it is no name of
  any path (`Path.of_mem_namesOf`), and usable names can be read off the text of the path
  (`Path.eq_of_text_below`).
* **Components.**  `isSegment_joins` says which names are accepted, and where the names of a local
  directory lead.
-/

namespace Replica

/-! ## Pieces -/

namespace Text

variable {c : Char} {cs : List Char}

lemma splitAt_ne_nil (c : Char) (cs : List Char) : splitAt c cs ≠ [] := by
  cases cs with
  | nil => simp [splitAt]
  | cons d rest =>
    rw [splitAt]
    split_ifs
    · simp
    · split <;> simp

lemma not_mem_of_mem_splitAt {piece : List Char} (h : piece ∈ splitAt c cs) : c ∉ piece := by
  induction cs generalizing piece with
  | nil =>
    rw [List.mem_singleton.mp h]
    exact List.not_mem_nil
  | cons d rest ih =>
    rw [splitAt] at h
    split_ifs at h with hd
    · rcases List.mem_cons.mp h with rfl | h
      · exact List.not_mem_nil
      · exact ih h
    · -- the first piece of the rest has one more character, which is no separator
      rcases hrest : splitAt c rest with _ | ⟨first, others⟩
      · exact absurd hrest (splitAt_ne_nil c rest)
      rw [hrest] at h ih
      rcases List.mem_cons.mp h with rfl | h
      · rw [List.mem_cons, not_or]
        exact ⟨Ne.symm hd, ih List.mem_cons_self⟩
      · exact ih (List.mem_cons_of_mem first h)

lemma splitAt_append (c : Char) (cs rest : List Char) :
    splitAt c (cs ++ c :: rest) = splitAt c cs ++ splitAt c rest := by
  induction cs with
  | nil => simp [splitAt]
  | cons d cs ih =>
    rw [List.cons_append, splitAt, splitAt, ih]
    split_ifs
    · rfl
    · rcases hpieces : splitAt c cs with _ | ⟨first, others⟩
      · exact absurd hpieces (splitAt_ne_nil c cs)
      · rfl

end Text

/-! ## Names -/

lemma toList_slash : "/".toList = [separator] := rfl

/-- Names without separator are the pieces of a text in which they stand with separators between
them. -/
lemma splitAt_intercalate {names : List String} (hne : names ≠ [])
    (h : ∀ n ∈ names, separator ∉ n.toList) :
    Text.splitAt separator ("/".intercalate names).toList = names.map String.toList := by
  induction names with
  | nil => exact absurd rfl hne
  | cons n rest ih =>
    have hn : Text.splitAt separator n.toList = [n.toList] :=
      Text.splitAt_of_not_mem (h n List.mem_cons_self)
    rcases rest with _ | ⟨m, rest⟩
    · simpa using hn
    · have hrest := ih (by simp) fun k hk => h k (List.mem_cons_of_mem n hk)
      rw [String.intercalate_cons_cons, String.toList_append, String.toList_append, toList_slash,
        List.append_assoc, List.singleton_append, Text.splitAt_append, hn, hrest]
      rfl

namespace Path

/-- A name of a path is neither empty nor a dot, and has no separator in it. -/
lemma of_mem_namesOf {cs : List Char} {name : String} (h : name ∈ namesOf cs) :
    name ≠ "" ∧ name ≠ "." ∧ separator ∉ name.toList := by
  obtain ⟨piece, hpiece, rfl⟩ := List.mem_map.mp h
  obtain ⟨hsplit, hkept⟩ := List.mem_filter.mp hpiece
  obtain ⟨hne, hdot⟩ := of_decide_eq_true hkept
  refine ⟨fun hempty => hne ?_, fun hone => hdot ?_, ?_⟩
  · simpa using congrArg String.toList hempty
  · simpa using congrArg String.toList hone
  · simpa using Text.not_mem_of_mem_splitAt hsplit

/-- What a join adds, if it adds the text itself, is a name of the text. -/
lemma mem_namesOf_of_join {p : Path} {s : String} (h : (p.join s).names = p.names ++ [s]) :
    s ∈ namesOf s.toList := by
  have hread : (ofString s).names = namesOf s.toList := rfl
  rw [join] at h
  split_ifs at h
  · rw [← hread, List.append_cancel_left h]
    exact List.mem_singleton_self s
  · rw [← hread, h]
    exact List.mem_append_right _ (List.mem_singleton_self s)

lemma text_below {p : Path} {names : List String} (hne : names ≠ []) :
    (p.below names).text = anchorText p.anchor ++ "/".intercalate (p.names ++ names) :=
  if_neg fun h => hne (List.append_eq_nil_iff.mp h.2).2

/-- **Usable names are read off the text of the path** to which they lead. -/
lemma eq_of_text_below {p : Path} {names names' : List String}
    (hne : names ≠ []) (hne' : names' ≠ []) (h : ∀ n ∈ names, isSegment n = true)
    (h' : ∀ n ∈ names', isSegment n = true) (htext : (p.below names).text = (p.below names').text) :
    names = names' := by
  have hjoined : "/".intercalate names = "/".intercalate names' := by
    rw [text_below hne, text_below hne', String.append_right_inj] at htext
    by_cases hp : p.names = []
    · simpa [hp] using htext
    · rwa [String.intercalate_append_of_ne_nil hp hne, String.intercalate_append_of_ne_nil hp hne',
        String.append_right_inj] at htext
  have hpieces : names.map String.toList = names'.map String.toList := by
    rw [← splitAt_intercalate hne fun n hn => (isSegment_iff.mp (h n hn)).2.2.2.1, hjoined,
      splitAt_intercalate hne' fun n hn => (isSegment_iff.mp (h' n hn)).2.2.2.1]
  exact List.map_injective_iff.mpr (fun _ _ => String.toList_injective) hpieces

end Path

/-! ## Components -/

lemma isSegment_iff_names_join {p : Path} {name : String} :
    isSegment name = true ↔
      (p.join name).names = p.names ++ [name] ∧ name ≠ ".." ∧ '\x00' ∉ name.toList := by
  constructor
  · intro h
    obtain ⟨-, -, hdots, -, hnull⟩ := isSegment_iff.mp h
    exact ⟨by rw [Path.join_segment h, Path.names_below], hdots, hnull⟩
  · rintro ⟨hjoin, hdots, hnull⟩
    obtain ⟨hne, hdot, hseparator⟩ := Path.of_mem_namesOf (Path.mem_namesOf_of_join hjoin)
    exact isSegment_iff.mpr ⟨hne, hdot, hdots, hseparator, hnull⟩

namespace LocalDirectory

variable {root : Path} {parts parts' : List String} {name name' : String}

/-- Different usable names, or different ways of usable names, lead to paths of different texts. -/
lemma eq_of_text_pathFor (hparts : ∀ n ∈ parts, isSegment n = true) (hname : isSegment name = true)
    (hparts' : ∀ n ∈ parts', isSegment n = true) (hname' : isSegment name' = true)
    (htext : (pathFor ⟨root, parts⟩ name).text = (pathFor ⟨root, parts'⟩ name').text) :
    parts = parts' ∧ name = name' := by
  rw [pathFor_eq hparts hname, pathFor_eq hparts' hname'] at htext
  have hnames : parts ++ [name] = parts' ++ [name'] :=
    Path.eq_of_text_below (by simp) (by simp) (usable_concat hparts hname)
      (usable_concat hparts' hname') htext
  simpa using List.append_inj' hnames rfl

end LocalDirectory

/-- **Usable names are the names of direct children.**  A name is usable if and only if joining it
to a path, relative or absolute, gives the components of that path and one more, the name itself,
and the name neither stands for the directory above nor holds the null character.  Hence the path of
a usable name in a local directory has the components of the destination, then the names entered,
then the name; and where the names entered or the name are others, the path is another one, also in
writing. -/
theorem isSegment_joins :
    (∀ (p : Path) (name : String), isSegment name = true ↔
        (p.join name).names = p.names ++ [name] ∧ name ≠ ".." ∧ '\x00' ∉ name.toList) ∧
      ∀ (root : Path) (parts : List String) (name : String),
        (∀ n ∈ parts, isSegment n = true) → isSegment name = true →
          (LocalDirectory.pathFor ⟨root, parts⟩ name).anchor = root.anchor ∧
          (LocalDirectory.pathFor ⟨root, parts⟩ name).names = root.names ++ parts ++ [name] ∧
          ∀ (parts' : List String) (name' : String),
            (∀ n ∈ parts', isSegment n = true) → isSegment name' = true →
            (parts', name') ≠ (parts, name) →
              LocalDirectory.pathFor ⟨root, parts'⟩ name' ≠
                LocalDirectory.pathFor ⟨root, parts⟩ name ∧
              (LocalDirectory.pathFor ⟨root, parts'⟩ name').text ≠
                (LocalDirectory.pathFor ⟨root, parts⟩ name).text := by
  refine ⟨fun p name => isSegment_iff_names_join, ?_⟩
  intro root parts name hparts hname
  have hpath : LocalDirectory.pathFor ⟨root, parts⟩ name = root.below (parts ++ [name]) :=
    LocalDirectory.pathFor_eq hparts hname
  refine ⟨by rw [hpath]; rfl, by rw [hpath, Path.names_below, List.append_assoc], ?_⟩
  intro parts' name' hparts' hname' hother
  have htext : (LocalDirectory.pathFor ⟨root, parts'⟩ name').text ≠
      (LocalDirectory.pathFor ⟨root, parts⟩ name).text := by
    intro hsame
    obtain ⟨rfl, rfl⟩ := LocalDirectory.eq_of_text_pathFor hparts' hname' hparts hname hsame
    exact hother rfl
  exact ⟨fun hsame => htext (congrArg Path.text hsame), htext⟩

/-- Names with a blank or with a dot in front are components, and lead to paths of their own.  An
absolute text is no component. -/
theorem isSegment_joins_sample :
    (∀ n ∈ ["a", ".b"], isSegment n = true) ∧ isSegment "c d" = true ∧
      (LocalDirectory.pathFor ⟨.ofString "//srv/./x", ["a", ".b"]⟩ "c d").names =
        ["srv", "x", "a", ".b", "c d"] ∧
      (LocalDirectory.pathFor ⟨.ofString "//srv/./x", ["a"]⟩ ".b").text ≠
        (LocalDirectory.pathFor ⟨.ofString "//srv/./x", ["a", ".b"]⟩ "c d").text ∧
      ((Path.ofString "x").join "/a").names ≠ ["x", "/a"] := by
  have hparts : ∀ n ∈ ["a", ".b"], isSegment n = true := by decide
  have hname : isSegment "c d" = true := by decide
  obtain ⟨hsegment, hbelow⟩ := isSegment_joins
  obtain ⟨-, hnames, hothers⟩ := hbelow (.ofString "//srv/./x") ["a", ".b"] "c d" hparts hname
  refine ⟨hparts, hname, hnames.trans (by decide), ?_, fun habsolute => ?_⟩
  · exact (hothers ["a"] ".b" (by decide) (by decide) (by decide)).2
  · have husable : isSegment "/a" = true :=
      (hsegment (.ofString "x") "/a").mpr ⟨habsolute, by decide, by decide⟩
    exact absurd husable (by decide)

end Replica
