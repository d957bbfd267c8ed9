import Mathlib.Data.List.DropRight
import Replica.Proofs.Commands
import Replica.Proofs.Contents
/-!
# Settings that are recalled

What was saved is found again by whoever looks for it.  The writer of the file and its reader have
nothing in common but the form of a line: the reader strips the line and what it finds on it, and it
passes over lines that say nothing.

* **Lines.**  A line that was ended is a line of the text (`Text.lines_append`), and stripping what
  stands behind a character that is not blank does not touch the rest
  (`Text.dropRightWhile_append`).
* **Entries.**  `Settings.valuesOf_textFor` gives what the text of a file says: what it was written
  for, without the blank characters around it.
* **Files.**  A file that was saved has that text, whatever stood there before
  (`Settings.ensures_save`).
* **Recall.**  `Settings.save_recalled` puts these together.
-/

namespace Replica

/-! ## Lines -/

namespace Text

lemma lines_nil : lines [] = [] := by
  rw [lines]
  rfl

/-- What stands before a line feed is a line. -/
lemma lines_append {line : List Char} (h : ∀ c ∈ line, isLineEnd c = false) (rest : List Char) :
    lines (line ++ '\n' :: rest) = line :: lines rest := by
  have hinside : ∀ c ∈ line, (!isLineEnd c) = true := by simpa using h
  have hdrop : (line ++ '\n' :: rest).dropWhile (fun c => !isLineEnd c) = '\n' :: rest := by
    rw [List.dropWhile_append_of_pos hinside]
    rfl
  have htake : (line ++ '\n' :: rest).takeWhile (fun c => !isLineEnd c) = line := by
    rw [List.takeWhile_append_of_pos hinside]
    simp [isLineEnd]
  rw [lines]
  split
  · rename_i heq
    cases hdrop.symm.trans heq
  · rename_i heq
    cases hdrop.symm.trans heq
    rw [htake]
    rfl

variable {p : Char → Bool}

/-- The first character is dropped only after all others. -/
lemma dropRightWhile_cons (p : Char → Bool) (c : Char) (rest : List Char) :
    dropRightWhile p (c :: rest) =
      if dropRightWhile p rest = [] ∧ p c = true then [] else c :: dropRightWhile p rest := by
  simp only [dropRightWhile, List.reverse_cons, List.dropWhile_append, List.isEmpty_iff,
    List.reverse_eq_nil_iff]
  by_cases hrest : List.dropWhile p rest.reverse = []
  · cases hc : p c <;> simp [hrest, hc]
  · simp [hrest]

lemma dropRightWhile_append {c : Char} (hc : p c = false) (front back : List Char) :
    dropRightWhile p (front ++ c :: back) = front ++ c :: dropRightWhile p back := by
  induction front with
  | nil => simp [dropRightWhile_cons, hc]
  | cons d front ih => simp [dropRightWhile_cons, ih]

/-- It does not matter which end is stripped first. -/
lemma dropWhile_dropRightWhile (cs : List Char) :
    (dropRightWhile p cs).dropWhile p = dropRightWhile p (cs.dropWhile p) := by
  induction cs with
  | nil => rfl
  | cons c rest ih =>
    cases hc : p c with
    | false => simp [dropRightWhile_cons, hc]
    | true =>
      rw [List.dropWhile_cons_of_pos hc, dropRightWhile_cons, ← ih]
      split_ifs with hempty
      · rw [hempty.1]
      · rw [List.dropWhile_cons_of_pos hc]

lemma stripChars_dropRightWhile (cs : List Char) :
    stripChars (dropRightWhile isBlank cs) = stripChars cs := by
  rw [stripChars, dropWhile_dropRightWhile, stripChars]
  exact List.rdropWhile_idempotent _ _

lemma stripChars_of_plain {cs : List Char} (h : ∀ c ∈ cs, isBlank c = false) :
    stripChars cs = cs := by
  have hfront : ∀ {cs : List Char}, (∀ c ∈ cs, isBlank c = false) → cs.dropWhile isBlank = cs := by
    intro cs h
    cases cs with
    | nil => rfl
    | cons c rest => exact List.dropWhile_cons_of_neg (by simp [h c])
  rw [stripChars, hfront h, dropRightWhile, hfront (by simpa using h), List.reverse_reverse]

/-- The text without blank characters at either end. -/
def stripped (text : String) : String := String.ofList (stripChars text.toList)

end Text

/-! ## Bytes -/

/-- The list of the bytes has all of them. -/
lemma toList_eq_data (bytes : ByteArray) : bytes.toList = bytes.data.toList := by
  have hloop : ∀ (i : Nat) (before : List UInt8), ByteArray.toList.loop bytes i before =
      before.reverse ++ bytes.data.toList.drop i := by
    intro i before
    fun_induction ByteArray.toList.loop bytes i before with
    | case1 i before hlt ih =>
      have hi : i < bytes.data.toList.length := hlt
      have hbyte : bytes.get! i = bytes.data.toList[i] :=
        (getElem!_pos bytes.data i hlt).trans (Array.getElem_toList hi).symm
      rw [ih, List.drop_eq_getElem_cons hi, hbyte]
      simp
    | case2 i before hge =>
      have hend : bytes.data.toList.length ≤ i := Nat.not_lt.mp hge
      rw [List.drop_eq_nil_of_le hend, List.append_nil]
  rw [ByteArray.toList, hloop]
  rfl

/-- **A text is read back from its bytes.** -/
lemma fromUTF8?_toUTF8 (text : String) :
    String.fromUTF8? (ByteArray.mk text.toUTF8.toList.toArray) = some text := by
  have hbytes : ByteArray.mk text.toUTF8.toList.toArray = text.toUTF8 := by
    rw [toList_eq_data, Array.toArray_toList]
  rw [hbytes, String.toUTF8_eq_toByteArray, String.fromUTF8?, dif_pos text.isValidUTF8]
  rfl

namespace Settings

/-! ## Entries -/

variable {name : String}

/-- A name that a line can have: no blank character, no equals sign, and no number sign in front. -/
structure IsName (name : String) : Prop where
  plain : ∀ c ∈ name.toList, Text.isBlank c = false ∧ c ≠ '='
  unmarked : name.toList.head? ≠ some '#'

lemma isName_of_all (h : name.toList.all (fun c => !Text.isBlank c && c != '=') = true)
    (hhead : name.toList.head? ≠ some '#') : IsName name :=
  ⟨by simpa using h, hhead⟩

lemma isName_urlName : IsName urlName := isName_of_all (by decide) (by decide)

lemma isName_keyName : IsName keyName := isName_of_all (by decide) (by decide)

/-- The line with a value. -/
def lineOf (name value : String) : List Char := name.toList ++ '=' :: value.toList

lemma splitEquals_append {name : List Char} (h : ∀ c ∈ name, c ≠ '=') (value : List Char) :
    splitEquals (name ++ '=' :: value) = some (name, value) := by
  induction name with
  | nil => rfl
  | cons c name ih =>
    rw [List.forall_mem_cons] at h
    rw [List.cons_append, splitEquals, if_neg h.1, ih h.2]
    rfl

/-- **A line is read as its name and its value**, without the blank characters around that. -/
lemma entryOf_lineOf (hname : IsName name) (value : String) :
    entryOf (lineOf name value) = some (name, Text.stripped value) := by
  have hequals : Text.isBlank '=' = false := by decide
  have hplain := hname.plain
  have hhead := hname.unmarked
  have hfront : (lineOf name value).dropWhile Text.isBlank = lineOf name value := by
    rw [lineOf]
    rcases hchars : name.toList with _ | ⟨c, rest⟩
    · exact List.dropWhile_cons_of_neg (by simp [hequals])
    · have hc := hplain c (by simp [hchars])
      exact List.dropWhile_cons_of_neg (by simp [hc.1])
  have hline : Text.stripChars (lineOf name value) =
      name.toList ++ '=' :: Text.dropRightWhile Text.isBlank value.toList := by
    rw [Text.stripChars, hfront, lineOf, Text.dropRightWhile_append hequals]
  have hunmarked : (Text.stripChars (lineOf name value)).head? ≠ some '#' := by
    rw [hline]
    rcases hchars : name.toList with _ | ⟨c, rest⟩
    · simp
    · rw [hchars] at hhead
      exact hhead
  rw [entryOf]
  dsimp only
  rw [if_neg hunmarked, hline, splitEquals_append fun c hc => (hplain c hc).2, Option.map_some,
    Text.stripChars_of_plain fun c hc => (hplain c hc).1, Text.stripChars_dropRightWhile,
    String.ofList_toList, Text.stripped]

/-- Names with values that can be written one to a line. -/
def AreLines (entries : List (String × String)) : Prop :=
  ∀ e ∈ entries, IsName e.1 ∧ ∀ c ∈ e.2.toList, Text.isLineEnd c = false

/-- **Lines are read one by one.** -/
lemma filterMap_entryOf {entries : List (String × String)} (h : AreLines entries) :
    (Text.lines (entries.flatMap fun e => lineOf e.1 e.2 ++ ['\n'])).filterMap entryOf =
      entries.map fun e => (e.1, Text.stripped e.2) := by
  induction entries with
  | nil => rw [List.flatMap_nil, Text.lines_nil, List.filterMap_nil, List.map_nil]
  | cons e entries ih =>
    obtain ⟨⟨hname, hvalue⟩, hrest⟩ := List.forall_mem_cons.mp h
    have hinside : ∀ c ∈ lineOf e.1 e.2, Text.isLineEnd c = false := by
      intro c hc
      rcases List.mem_append.mp hc with hc | hc
      · -- the characters that end a line are blank
        have hplain := (hname.plain c hc).1
        rw [Text.isLineEnd, Bool.or_eq_false_iff, beq_eq_false_iff_ne, beq_eq_false_iff_ne]
        constructor <;> rintro rfl <;> exact absurd hplain (by decide)
      · rcases List.mem_cons.mp hc with rfl | hc
        · rfl
        · exact hvalue c hc
    rw [List.flatMap_cons, List.append_assoc, List.singleton_append, Text.lines_append hinside,
      List.filterMap_cons, entryOf_lineOf hname, List.map_cons, ih hrest]

lemma given_some (text : String) : given (some text) = if text = "" then none else some text := by
  rw [given, Option.filter_some]
  by_cases htext : text = "" <;> simp [htext]

/-- The names and the values that are written. -/
def toWrite (url : String) (key : Option String) : List (String × String) :=
  (urlName, url) :: ((given key).map fun k => (keyName, k)).toList

lemma toList_textFor (url : String) (key : Option String) :
    (textFor url key).toList = (toWrite url key).flatMap fun e => lineOf e.1 e.2 ++ ['\n'] := by
  rcases key with _ | k
  · simp [textFor, toWrite, given, lineOf]
  · by_cases hk : k = ""
    · simp [textFor, toWrite, given_some, lineOf, hk]
    · simp [textFor, toWrite, given_some, lineOf, hk]

/-- **What the text of a file says** is what it was written for. -/
lemma valuesOf_textFor {url : String} {key : Option String}
    (hurl : ∀ c ∈ url.toList, Text.isLineEnd c = false)
    (hkey : ∀ k ∈ given key, ∀ c ∈ k.toList, Text.isLineEnd c = false) :
    valuesOf (textFor url key) = (toWrite url key).map fun e => (e.1, Text.stripped e.2) := by
  have hlines : AreLines (toWrite url key) := by
    intro e he
    rcases List.mem_cons.mp he with rfl | he
    · exact ⟨isName_urlName, hurl⟩
    · obtain ⟨k, hk, rfl⟩ := Option.map_eq_some_iff.mp (Option.mem_toList.mp he)
      exact ⟨isName_keyName, hkey k hk⟩
  rw [valuesOf, toList_textFor, filterMap_entryOf hlines]

lemma valueOf_urlName (url : String) (key : Option String) :
    valueOf urlName ((toWrite url key).map fun e => (e.1, Text.stripped e.2)) =
      some (Text.stripped url) := by
  have hother : keyName ≠ urlName := by decide
  rw [valueOf, toWrite]
  rcases given key with _ | k <;> simp [hother]

lemma valueOf_keyName (url : String) (key : Option String) :
    valueOf keyName ((toWrite url key).map fun e => (e.1, Text.stripped e.2)) =
      (given key).map Text.stripped := by
  have hother : urlName ≠ keyName := by decide
  rw [valueOf, toWrite]
  rcases given key with _ | k <;> simp [hother]

end Settings

/-! ## Files -/

namespace FileSystem

variable {fs fs' : FileSystem} {p : Path} {content : List UInt8} {mode : Nat}

/-- Permission bits do not matter to what is read. -/
lemma readFile_of_setMode (h : fs.setMode p mode = .ok fs') : fs'.readFile p = fs.readFile p := by
  rw [setMode] at h
  rcases hway : fs.resolve .target p with
    _ | ⟨location, _ | ⟨old, mode⟩ | target⟩ | ⟨directory, name⟩ <;> rw [hway] at h <;> cases h
  · rfl
  · rw [readFile, entryOf, resolve_set hway rfl (by simp), readFile, entryOf, hway]
  · rfl

/-- What can be read is there. -/
lemma contains_of_readFile (h : fs.readFile p = .ok content) : fs.contains p = .ok true := by
  rw [readFile] at h
  rw [contains, ask]
  rcases hentry : fs.entryOf p with fault | e
  · rw [hentry] at h
    cases h
  · rfl

end FileSystem

namespace Settings

open Procedure (Ensures)

variable {σ : Type} {s : Settings} {url : String} {key : Option String} {w w' : World σ}

/-- The file of the settings holds this text. -/
def Holds (s : Settings) (text : String) (files : FileSystem) : Prop :=
  files.readFile s.file = .ok text.toUTF8.toList

/-- **What was saved stands in the file**, whatever stood there before. -/
lemma ensures_save (s : Settings) (url : String) (key : Option String) :
    Ensures (fun _ : World σ => True) (s.save url key)
      (fun _ w => s.Holds (textFor url key) w.files) (fun _ _ => True) := by
  -- up to the writing of the file nothing needs to be known of it
  refine Ensures.bind (m := fun _ _ => True) (fun _ _ => trivial) fun files => ?_
  dsimp only
  refine Ensures.bind (m := fun _ _ => True) (fun _ _ => trivial) fun _ => ?_
  rcases (files.ensureDirectory s.file.parent).1 with refusal | _
  · exact Ensures.fail fun _ _ => trivial
  refine Ensures.bind (m := fun written _ => s.Holds (textFor url key) written)
    (Ensures.ofRequest (fun _ hwritten _ _ => (FileSystem.rewrites_of_writeFile hwritten).content)
      fun _ _ _ _ => trivial) fun written => ?_
  refine Ensures.bind (m := fun _ w => s.Holds (textFor url key) w.files)
    (Ensures.change fun _ hwritten => hwritten) fun _ => ?_
  refine Ensures.bind (m := fun files _ => s.Holds (textFor url key) files)
    (fun _ hwritten => hwritten) fun files => ?_
  refine Ensures.bind (m := fun files _ => s.Holds (textFor url key) files)
    (Ensures.ofRequest (fun _ hmode _ hwritten => ?_) fun _ _ _ _ => trivial)
    fun _ => Ensures.change fun _ hwritten => hwritten
  exact (FileSystem.readFile_of_setMode hmode).trans hwritten

/-! ## Recall -/

/-- A file says what its text does. -/
lemma run_values {text : String} (h : s.Holds text w.files) :
    (s.values).run w = (.ok (valuesOf text), w) := by
  have hwritten : (s.isWritten).run w = (.ok true, w) := by
    show (Procedure.ofRequest s.file (w.files.contains s.file)).run w = _
    rw [FileSystem.contains_of_readFile h]
    rfl
  have hfiles : (Action.files : Action σ FileSystem).run w = (.ok w.files, w) := rfl
  have hread : (Procedure.ofRequest s.file (w.files.readFile s.file)).run w =
      (.ok text.toUTF8.toList, w) := by
    rw [show w.files.readFile s.file = _ from h]
    rfl
  rw [values, Procedure.run_bind_of_ok hwritten, if_pos rfl, Procedure.run_bind_of_ok hfiles,
    Procedure.run_bind_of_ok hread, fromUTF8?_toUTF8]
  rfl

/-- **Saved settings are recalled.**  In whatever state a file was saved, it then says the address
that it was saved with, or the default one if only blank characters were saved, and the key, or none
if none was saved: nothing of an earlier file is left.  Blank characters around either are lost, and
the environment must say nothing. -/
theorem save_recalled (s : Settings) {url : String} {key : Option String} {w w' : World σ}
    (hunset : given s.environment.url = none ∧ given s.environment.key = none)
    (hurl : ∀ c ∈ url.toList, Text.isLineEnd c = false)
    (hkey : ∀ k ∈ key, ∀ c ∈ k.toList, Text.isLineEnd c = false)
    (hsave : (s.save url key).run w = (.ok (), w')) :
    (s.url).run w' =
        (.ok (if Text.stripped url = "" then defaultUrl else Text.stripped url), w') ∧
      (s.key).run w' = (.ok ((given key).map Text.stripped), w') := by
  have hfile := ensures_save s url key w trivial
  rw [hsave] at hfile
  have hgiven : ∀ k ∈ given key, ∀ c ∈ k.toList, Text.isLineEnd c = false := fun k hk =>
    hkey k (Option.mem_filter_iff.mp hk).1
  have hvalues := run_values hfile
  rw [valuesOf_textFor hurl hgiven] at hvalues
  constructor
  · rw [Settings.url, hunset.1, Procedure.run_return, hvalues]
    dsimp only [Except.map]
    rw [valueOf_urlName, given_some]
    split_ifs <;> rfl
  · rw [Settings.key, hunset.2, Procedure.run_return, hvalues]
    dsimp only [Except.map]
    rw [valueOf_keyName]

/-- Settings in a file of their own, with an environment that says nothing. -/
def plainSettings : Settings := ⟨.ofString "settings", {}⟩

/-- The world after a first save, with a key. -/
def savedOnce : World Unit := (plainSettings.save "bridge" (some "old")).run ⟨.empty, (), []⟩ |>.2

/-- The world after a second one, without. -/
def savedTwice : World Unit := (plainSettings.save " a=b # c\t" none).run savedOnce |>.2

/-- A key is recalled until there is a save without one. -/
theorem save_recalled_twice :
    (plainSettings.key).run savedOnce = (.ok (some "old"), savedOnce) ∧
      (plainSettings.url).run savedTwice = (.ok "a=b # c", savedTwice) ∧
      (plainSettings.key).run savedTwice = (.ok none, savedTwice) := by
  have hfirst : (plainSettings.save "bridge" (some "old")).run (⟨.empty, (), []⟩ : World Unit) =
      (.ok (), savedOnce) := rfl
  have hsecond : (plainSettings.save " a=b # c\t" none).run savedOnce = (.ok (), savedTwice) := rfl
  have hplain : ∀ {text : String}, text.toList.all (fun c => !Text.isLineEnd c) = true →
      ∀ c ∈ text.toList, Text.isLineEnd c = false := fun h => by simpa using h
  have hkey : ∀ k ∈ some "old", ∀ c ∈ k.toList, Text.isLineEnd c = false := by
    rintro _ ⟨⟩
    exact hplain (by decide)
  obtain ⟨-, hold⟩ := save_recalled plainSettings ⟨rfl, rfl⟩ (hplain (by decide)) hkey hfirst
  obtain ⟨hurl, hnone⟩ :=
    save_recalled plainSettings ⟨rfl, rfl⟩ (hplain (by decide)) (by simp) hsecond
  exact ⟨hold, hurl, hnone⟩

end Settings

end Replica
