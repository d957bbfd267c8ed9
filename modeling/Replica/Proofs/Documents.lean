import Replica.Proofs.Commands
import Replica.Proofs.Correspondence
import Replica.Proofs.Layouts
import Replica.Proofs.Numerals
import Replica.Proofs.Searches
/-!
# Documents on the standard output

A user who wants documents gets one on the standard output, or nothing at all; everything else that
is said goes to the error output.

* **Documents are plain.**  What leaves the console is free of control sequences, and so is every
  document (`Json.plainText_pretty`): it arrives as it was written.
* **Work is silent.**  What a command does while its session is open leaves the standard output
  alone, except that the display of a run may write something although it is not shown.  For a run
  and for a search this is a fact about each world that they come to (`Run.Proceeds.output`,
  `Shell.Lists.output`).
* **Commands.**  `Shell.Documents` says which document is about the work of a command, field by
  field, and `Program.run_documents` puts all together: the exit code says whether there is one.
-/

namespace Replica

variable {σ τ : Type}

/-! ## Documents are plain -/

namespace Text

/-- The text has no escape character. -/
def IsPlain (s : String) : Prop := '\x1b' ∉ s.toList

instance (s : String) : Decidable (IsPlain s) := inferInstanceAs (Decidable ('\x1b' ∉ s.toList))

lemma IsPlain.append {s t : String} (hs : IsPlain s) (ht : IsPlain t) : IsPlain (s ++ t) := by
  rw [IsPlain, String.toList_append, List.mem_append]
  exact not_or.mpr ⟨hs, ht⟩

lemma isPlain_ofList {cs : List Char} (h : '\x1b' ∉ cs) : IsPlain (String.ofList cs) := by
  rw [IsPlain, String.toList_ofList]
  exact h

lemma escape_not_mem_hexDigits (width n : Nat) : '\x1b' ∉ hexDigits width n := by
  have hdigit : ∀ d < 16, '\x1b' ≠ hexDigit d := by decide
  induction width generalizing n with
  | zero => exact List.not_mem_nil
  | succ width ih =>
    rw [hexDigits, List.mem_append, List.mem_singleton]
    exact not_or.mpr ⟨ih _, hdigit _ (Nat.mod_lt n (by decide))⟩

end Text

open Text (IsPlain)

lemma escape_not_mem_natDigits (n : Nat) : '\x1b' ∉ natDigits n :=
  Numeral.not_mem_natDigits (by decide) n

lemma isPlain_toString (n : Int) : IsPlain (toString n) := by
  have hnat : ∀ m : Nat, IsPlain (Nat.repr m) := fun m =>
    Text.isPlain_ofList (escape_not_mem_natDigits m)
  cases n with
  | ofNat m => exact hnat m
  | negSucc m => exact IsPlain.append (by decide) (hnat (m + 1))

lemma Decimal.isPlain_layout (d : Decimal) : IsPlain d.layout := by
  have hdigits := escape_not_mem_natDigits d.digits
  have htake : ∀ n, '\x1b' ∉ (natDigits d.digits).take n := fun n h =>
    hdigits (List.mem_of_mem_take h)
  have hdrop : ∀ n, '\x1b' ∉ (natDigits d.digits).drop n := fun n h =>
    hdigits (List.mem_of_mem_drop h)
  have hzeros : ∀ n, '\x1b' ∉ List.replicate n '0' := fun n h =>
    absurd (List.eq_of_mem_replicate h) (by decide)
  have hmark : ∀ n, '\x1b' ∉ padZeros 2 (natDigits n) := fun n => by
    rw [padZeros, List.mem_append]
    exact not_or.mpr ⟨hzeros _, escape_not_mem_natDigits n⟩
  rw [layout]
  dsimp only
  split_ifs
  · exact IsPlain.append (by decide) (Text.isPlain_ofList
      (by rw [List.mem_append]; exact not_or.mpr ⟨hzeros _, hdigits⟩))
  · exact (Text.isPlain_ofList
      (by rw [List.mem_append]; exact not_or.mpr ⟨hdigits, hzeros _⟩)).append (by decide)
  · exact ((Text.isPlain_ofList (htake _)).append (by decide)).append
      (Text.isPlain_ofList (hdrop _))
  all_goals
    refine (((Text.isPlain_ofList (htake _)).append ?_).append (by decide) |>.append
      (by decide)).append (Text.isPlain_ofList (hmark _))
    first
      | exact (by decide : IsPlain "")
      | exact (by decide : IsPlain ".").append (Text.isPlain_ofList (hdrop _))

lemma isPlain_floatText (x : Float) : IsPlain (floatText x) := by
  rw [floatText]
  split
  · decide
  · split_ifs <;> decide
  · refine IsPlain.append (by split_ifs <;> decide) ?_
    split_ifs
    · decide
    · exact Decimal.isPlain_layout _

namespace Json

lemma isPlain_numberText (n : Number) : IsPlain (numberText n) := by
  cases n with
  | int n => exact isPlain_toString n
  | float x =>
    rw [numberText]
    split
    · decide
    · split_ifs <;> decide
    · exact isPlain_floatText x

lemma escape_not_mem_unitEscape (n : Nat) : '\x1b' ∉ unitEscape n := by
  intro h
  rw [unitEscape, List.mem_cons, List.mem_cons] at h
  obtain h | h | h := h
  · exact absurd h (by decide)
  · exact absurd h (by decide)
  · exact Text.escape_not_mem_hexDigits _ _ h

lemma escape_not_mem_escapeChar (c : Char) : '\x1b' ∉ escapeChar c := by
  rw [escapeChar]
  dsimp only
  split_ifs with _ _ _ _ _ _ _ hprinted
  any_goals decide
  · rw [List.mem_singleton]
    rintro rfl
    exact absurd hprinted (by decide)
  · exact escape_not_mem_unitEscape _
  · exact fun h => (List.mem_append.mp h).elim (escape_not_mem_unitEscape _)
      (escape_not_mem_unitEscape _)

lemma escape_not_mem_escapePoint (n : Text.CodePoint) : '\x1b' ∉ escapePoint n := by
  rw [escapePoint]
  split
  · exact escape_not_mem_escapeChar _
  · exact escape_not_mem_unitEscape n

lemma isPlain_pointsText (ns : List Text.CodePoint) : IsPlain (pointsText ns) := by
  refine Text.isPlain_ofList fun h => ?_
  rw [List.mem_append, List.mem_cons, List.mem_flatMap, List.mem_singleton] at h
  obtain (h | ⟨n, -, h⟩) | h := h
  · exact absurd h (by decide)
  · exact escape_not_mem_escapePoint n h
  · exact absurd h (by decide)

lemma isPlain_newline (l : Layout) (depth : Nat) : IsPlain (l.newline depth) := by
  rw [Layout.newline]
  split_ifs
  · exact IsPlain.append (by decide) (Text.isPlain_ofList fun h =>
      absurd (List.eq_of_mem_replicate h) (by decide))
  · decide

mutual

lemma isPlain_render {l : Layout} (hcomma : IsPlain l.comma) (hcolon : IsPlain l.colon)
    (depth : Nat) : ∀ v : Json, IsPlain (render l depth v)
  | .null => by rw [render]; decide
  | .bool b => by rw [render]; split_ifs <;> decide
  | .number n => by rw [render]; exact isPlain_numberText n
  | .string s => by rw [render]; exact isPlain_pointsText _
  | .unwritable t => by rw [render]; exact isPlain_pointsText _
  | .array items => by
    rw [render]
    split_ifs
    · decide
    · exact ((isPlain_renderItems hcomma hcolon _ items
        (IsPlain.append (by decide) (isPlain_newline _ _))).append (isPlain_newline _ _)).append
          (by decide)
  | .object fields => by
    rw [render]
    split_ifs
    · decide
    · exact ((isPlain_renderFields hcomma hcolon _ fields
        (IsPlain.append (by decide) (isPlain_newline _ _))).append (isPlain_newline _ _)).append
          (by decide)

lemma isPlain_renderItems {l : Layout} (hcomma : IsPlain l.comma) (hcolon : IsPlain l.colon)
    (depth : Nat) : ∀ (items : List Json) {written : String}, IsPlain written →
      IsPlain (renderItems l depth written items)
  | [], _, h => by rw [renderItems]; exact h
  | [v], _, h => by rw [renderItems]; exact h.append (isPlain_render hcomma hcolon _ v)
  | v :: w :: rest, _, h => by
    rw [renderItems]
    exact isPlain_renderItems hcomma hcolon depth (w :: rest)
      (((h.append (isPlain_render hcomma hcolon _ v)).append hcomma).append (isPlain_newline _ _))

lemma isPlain_renderFields {l : Layout} (hcomma : IsPlain l.comma) (hcolon : IsPlain l.colon)
    (depth : Nat) : ∀ (fields : List (String × Json)) {written : String}, IsPlain written →
      IsPlain (renderFields l depth written fields)
  | [], _, h => by rw [renderFields]; exact h
  | [(k, v)], _, h => by
    rw [renderFields]
    exact ((h.append (isPlain_pointsText _)).append hcolon).append
      (isPlain_render hcomma hcolon _ v)
  | (k, v) :: g :: rest, _, h => by
    rw [renderFields]
    exact isPlain_renderFields hcomma hcolon depth (g :: rest)
      (((((h.append (isPlain_pointsText _)).append hcolon).append
        (isPlain_render hcomma hcolon _ v)).append hcomma).append (isPlain_newline _ _))

end

/-- **A document leaves the console as it is.** -/
lemma plainText_pretty (v : Json) : Console.plainText v.pretty = v.pretty :=
  Console.plainText_eq_self (isPlain_render (by decide) (by decide) 0 v)

end Json

/-! ## Work is silent -/

namespace World

/-- What was put onto the standard output so far, the newest first. -/
def output (w : World σ) : List Event := w.events.filter Event.isOutput

variable {w v : World σ}

lemma output_add {e : Event} (h : e.isOutput = false) : (w.add e).output = w.output :=
  List.filter_cons_of_neg (by simp [h])

lemma output_addAll {events : List Event} (h : ∀ e ∈ events, e.isOutput = false) :
    (w.addAll events).output = w.output := by
  have hnone : events.reverse.filter Event.isOutput = [] := by
    rw [List.filter_eq_nil_iff]
    intro e he
    simp [h e (List.mem_reverse.mp he)]
  rw [output, addAll, List.filter_append, hnone, List.nil_append, output]

lemma output_after (h : ∀ e ∈ v.events, e.isOutput = false) : (w.after v).output = w.output := by
  have hnone : (reported v.events).filter Event.isOutput = [] := by
    rw [List.filter_eq_nil_iff]
    intro e he
    simp [h e (List.mem_filter.mp he).1]
  rw [output, after, List.filter_append, hnone, List.nil_append, output]

lemma output_showing (r : Remote σ) {events : List Event} (h : ∀ e ∈ events, e.isOutput = false) :
    (w.showing r events).output = w.output :=
  (output_addAll (w := { w with other := r.forgetErrors w.other }) h).trans rfl

/-- All that was put onto the standard output meanwhile are such events. -/
def Adds (E : Event → Prop) (w w' : World σ) : Prop :=
  ∃ new, (∀ e ∈ new, E e) ∧ w'.output = new ++ w.output

variable {E : Event → Prop} {w' : World σ}

lemma Adds.of_eq (h : w'.output = w.output) : Adds E w w' := ⟨[], nofun, h⟩

lemma Adds.trans (h : Adds E w v) (h' : Adds E v w') : Adds E w w' := by
  obtain ⟨new, hnew, houtput⟩ := h
  obtain ⟨new', hnew', houtput'⟩ := h'
  refine ⟨new' ++ new, List.forall_mem_append.mpr ⟨hnew', hnew⟩, ?_⟩
  rw [houtput', houtput, List.append_assoc]

/-- What happens in between leaves the output alone. -/
lemma Adds.then (h : Adds E w v) (heq : w'.output = v.output) : Adds E w w' :=
  h.trans (.of_eq heq)

lemma Adds.mono {E' : Event → Prop} (h : Adds E w v) (hE : ∀ e, E e → E' e) : Adds E' w v := by
  obtain ⟨new, hnew, houtput⟩ := h
  exact ⟨new, fun e he => hE e (hnew e he), houtput⟩

/-- One more event, which is no output or such an event. -/
lemma Adds.add (h : Adds E w v) {e : Event} (he : e.isOutput = false ∨ E e) :
    Adds E w (v.add e) := by
  rcases hout : e.isOutput with _ | _
  · exact h.then (output_add hout)
  · have hE : E e := he.resolve_left (by simp [hout])
    refine h.trans ⟨[e], List.forall_mem_singleton.mpr hE, ?_⟩
    exact List.filter_cons_of_pos hout

/-- Whoever adds no output leaves the output alone. -/
lemma Since.output {E : Event → Prop} (h : Since E w.events v)
    (hE : ∀ e, E e → e.isOutput = false) :
    v.output = w.output := by
  obtain ⟨new, hevents, hnew⟩ := h
  have hnone : new.filter Event.isOutput = [] := by
    rw [List.filter_eq_nil_iff]
    intro e he
    simp [hE e (hnew e he)]
  rw [World.output, hevents, List.filter_append, hnone, List.nil_append, World.output]

end World

/-- No service of the remote tree puts anything onto the standard output. -/
structure Remote.Mute (r : Remote σ) : Prop where
  storages {other : σ} {files : FileSystem} {result : Except Failure (List Storage)}
    {v : World σ} (answer : r.listStorages other files = (result, v)) :
    ∀ e ∈ v.events, e.isOutput = false
  children {storage : Int} {container : Option Int} {other : σ} {files : FileSystem}
    {result : Except Failure (List Node)} {v : World σ}
    (answer : r.listChildren storage container other files = (result, v)) :
    ∀ e ∈ v.events, e.isOutput = false
  fetch {file : Node} {target : Path} {other : σ} {files : FileSystem}
    {result : Except Failure Bool} {v : World σ}
    (answer : r.fetch file target other files = (result, v)) :
    ∀ e ∈ v.events, e.isOutput = false

lemma Session.Tells.isOutput {l : Link τ} {asked : Request → Prop} {e : Event}
    (h : Session.Tells l asked e) :
    e.isOutput = false := by
  cases h with
  | exchanged tells => cases tells <;> rfl
  | noted text => rfl

lemma Session.mute_remote (l : Link τ) (c : Client) (paging : Paging) :
    (Session.remote l c paging).Mute where
  storages answer e he := ((telling_listStorages answer).tells e he).isOutput
  children answer e he := ((telling_listChildren answer).tells e he).isOutput
  fetch answer e he := ((telling_fetch answer).tells e he).isOutput

/-- **A run puts nothing onto the standard output** if the user wants documents, except for what a
display puts there that is not shown. -/
lemma Run.Reaches.output {p : Run.Plan σ} {ids : List Int} {calm : σ → Prop} {w₀ w : World σ}
    {known : Lore} (h : Run.Reaches p ids calm w₀ known w) (hmute : p.remote.Mute)
    (hjson : p.console.json = true) : World.Adds p.display.Utters w₀ w := by
  induction h with
  | start => exact .of_eq rfl
  | speaks _ plain ih => exact ih.add (plain.output hjson)
  | puts _ files ih => exact ih
  | lists _ standing _ chosen source answer ih =>
    refine ih.then <| (World.output_showing _ fun e he => ?_).trans <|
      (World.output_add rfl).trans <| (World.output_after (hmute.children answer)).trans <|
      World.output_add rfl
    obtain ⟨message, -, he⟩ := List.mem_flatMap.mp he
    simp only [listingLines, List.mem_cons, List.not_mem_nil, or_false] at he
    rcases he with rfl | rfl <;> rfl
  | fails _ standing _ chosen source answer ih =>
    exact ih.then <| (World.output_after (hmute.children answer)).trans <| World.output_add rfl
  | fetches _ standing _ source leaf answer ih =>
    exact ih.then <| (World.output_add rfl).trans <|
      (World.output_after (hmute.fetch answer)).trans <| World.output_add rfl
  | misses _ standing _ source leaf named place answer ih =>
    refine ih.then <| (World.output_showing _ fun e he => ?_).trans <|
      (World.output_add rfl).trans <| (World.output_after (hmute.fetch answer)).trans <|
      World.output_add rfl
    simp only [fetchLines, List.mem_cons, List.not_mem_nil, or_false] at he
    rcases he with rfl | rfl <;> rfl
  | breaks _ standing _ source leaf answer ih =>
    exact ih.then <| (World.output_after (hmute.fetch answer)).trans <| World.output_add rfl

lemma Run.Proceeds.output {p : Run.Plan σ} {calm : σ → Prop} {w w' : World σ} {known : Lore}
    {result : Except Failure RunStatistics} (h : Run.Proceeds p calm w result known w')
    (hmute : p.remote.Mute) (hjson : p.console.json = true) :
    World.Adds p.display.Utters w w' := by
  cases h with
  | refused destination => exact .of_eq rfl
  | unlisted answer =>
    exact .of_eq (World.output_after (hmute.storages answer))
  | listed answer past =>
    refine (World.Adds.of_eq ?_).trans (past.output hmute hjson)
    refine (World.output_showing _ fun e he => ?_).trans <|
      World.output_after (hmute.storages answer)
    obtain ⟨message, -, he⟩ := List.mem_flatMap.mp he
    simp only [storageLines, List.mem_cons, List.not_mem_nil, or_false] at he
    rcases he with rfl | rfl <;> rfl

/-- Neither does a search. -/
lemma Searches.output {r : Remote σ} {console : Console} {ids : List Int} {w₀ w : World σ}
    {known : Lore} (h : Searches r console ids w₀ known w) (hmute : r.Mute)
    (hjson : console.json = true) : w.output = w₀.output := by
  induction h with
  | start => rfl
  | speaks _ plain ih =>
    cases plain with
    | skipping text => exact (World.output_add rfl).trans ih
    | line text plain => exact absurd (hjson.symm.trans plain) (by decide)
  | lists _ chosen source answer ih =>
    exact (World.output_after (hmute.children answer)).trans ih
  | fails _ chosen source answer ih =>
    exact (World.output_after (hmute.children answer)).trans ih

lemma Shell.Lists.output {r : Remote (Session τ)} {console : Console} {wanted : List Int}
    {w w' : World (Session τ)} {result : Except Failure (List Finding)}
    (h : Shell.Lists r console wanted w result w') (hmute : r.Mute)
    (hjson : console.json = true) : w'.output = w.output := by
  cases h with
  | unlisted answer =>
    exact World.output_after (hmute.storages answer)
  | listed answer past =>
    exact (past.output hmute hjson).trans (World.output_after (hmute.storages answer))

/-! ## Commands -/

/-- The display writes nothing if it is not shown. -/
structure Display.IsSilent (d : Display) : Prop where
  opening : d.opening false = ""
  closing (description : String) : d.closing false description = ""

lemma Display.IsSilent.not_utters {d : Display} (h : d.IsSilent) (e : Event) : ¬d.Utters e := by
  rintro (text | text)
  · exact text h.opening
  · exact text (h.closing _)

namespace Procedure

variable {S α β : Type} {p : Procedure S α} {P : α → Prop} {Q : β → Prop}

/-- Whatever the procedure results in is such. -/
def Yields (p : Procedure S α) (P : α → Prop) : Prop := ∀ s a, (p.run s).1 = .ok a → P a

lemma Yields.pure {a : α} (h : P a) : Yields (Pure.pure a : Procedure S α) P := by
  rintro s _ ⟨⟩
  exact h

lemma Yields.bind {f : α → Procedure S β} (hp : p.Yields P) (hf : ∀ a, P a → (f a).Yields Q) :
    (p >>= f).Yields Q := by
  intro s b hb
  rw [run_bind] at hb
  rcases hrun : p.run s with ⟨_ | a, s'⟩ <;> rw [hrun] at hb
  · cases hb
  · exact hf a (hp s a (by rw [hrun])) s' b hb

/-- Nothing need be known of the result of the first procedure. -/
lemma Yields.after (p : Procedure S α) {f : α → Procedure S β} (hf : ∀ a, (f a).Yields Q) :
    (p >>= f).Yields Q :=
  Yields.bind (P := fun _ => True) (fun _ _ _ => trivial) fun a _ => hf a

lemma Yields.mapM {f : α → Procedure S β} (hf : ∀ a, (f a).Yields Q) (as : List α) :
    (as.mapM f).Yields fun bs => ∀ b ∈ bs, Q b := by
  induction as with
  | nil => exact .pure (by simp)
  | cons a as ih =>
    rw [List.mapM_cons]
    exact (hf a).bind fun b hb => ih.bind fun bs hbs =>
      .pure (List.forall_mem_cons.mpr ⟨hb, hbs⟩)

end Procedure

namespace Shell

variable {shell : Shell τ} {g : General} {c : Client} {order : Order} {w : World (Session τ)}

open Procedure (Yields)

/-- The list of the files holds no folder. -/
lemma yields_listFiles (shell : Shell τ) (console : Console) (r : Remote (Session τ))
    (wanted : List Int) :
    Yields (shell.listFiles console r wanted) fun found =>
      ∀ x ∈ found, x.node.isContainer = false := by
  have hone : ∀ s, Yields (shell.listStorage console r s) fun found =>
      ∀ x ∈ found, x.node.isContainer = false := by
    refine fun s => .after _ fun (_, found) => .after _ fun _ => .after _ fun _ => .pure ?_
    intro x hx
    simpa using (List.mem_filter.mp hx).2
  refine .after _ fun storages => (Yields.mapM hone _).bind fun lists hlists => .pure fun x hx => ?_
  obtain ⟨found, hfound, hx⟩ := List.mem_flatten.mp hx
  exact hlists found hfound x hx

/-- What the work of an order comes to in a world, if there is a client for it and the work has a
result: the document about it, with all its fields. -/
inductive Documents (shell : Shell τ) (g : General) (w : World (Session τ)) :
    Order → Json → Prop where
  /-- The device and its storages. -/
  | info {c : Client} {overview : Overview} (client : shell.clientIn g w = .ok c)
    (answer : ((shell.survey g.console c).run (renewed w)).1 = .ok overview) :
    Documents shell g w .info (.object
      [("device", .object [("friendly_name", overview.device.friendlyName),
          ("manufacturer", overview.device.manufacturer), ("model", overview.device.model),
          ("serial", overview.device.serial)]),
        ("storages", .array (overview.storages.map fun s => .object
          [("id", .number (.int s.id)), ("description", s.description),
            ("max_capacity", s.capacity), ("free_space", s.freeSpace)]))])
  /-- The files that were found, none of which is a folder. -/
  | files {wanted : List Int} {c : Client} {found : List Finding}
    (client : shell.clientIn g w = .ok c)
    (answer : ((shell.listFiles g.console (shell.remote c) wanted).run (renewed w)).1 = .ok found)
    (plain : ∀ x ∈ found, x.node.isContainer = false) :
    Documents shell g w (.files wanted) (.array (found.map fun x => .object
      [("id", .number (.int x.node.id)),
        ("parent_id", x.node.parent.elim .null fun n => .number (.int n)),
        ("storage_id", .number (.int x.node.storage)), ("name", x.node.name),
        ("kind", .string (if x.node.isAbstract then "abstract" else "file")),
        ("declared_size", x.node.declaredSize.elim .null fun n => .number (.int n)),
        ("filetype", x.node.filetype), ("path", x.path)]))
  /-- The counts of a run that returned. -/
  | copy {what : Copying} {c : Client} {s : RunStatistics} (client : shell.clientIn g w = .ok c)
    (answer : ((Run.start (shell.runPlan g.console c what)).run (renewed w)).1 = .ok s) :
    Documents shell g w (.copy what) (.object
      [("directories", .number (.int s.total.directories)), ("files", .number (.int s.total.files)),
        ("downloads", .number (.int s.total.downloads)), ("skips", .number (.int s.total.skips)),
        ("failures", .number (.int s.total.failures)),
        ("abstract", .number (.int s.total.abstracts)),
        ("invalid", .number (.int s.total.invalid)), ("storages", .number (.int s.storages))])

/-- A file that is no folder is written with these fields. -/
lemma findingJson_eq {x : Finding} (h : x.node.isContainer = false) :
    findingJson x = .object
      [("id", .number (.int x.node.id)),
        ("parent_id", x.node.parent.elim .null fun n => .number (.int n)),
        ("storage_id", .number (.int x.node.storage)), ("name", x.node.name),
        ("kind", .string (if x.node.isAbstract then "abstract" else "file")),
        ("declared_size", x.node.declaredSize.elim .null fun n => .number (.int n)),
        ("filetype", x.node.filetype), ("path", x.path)] := by
  obtain ⟨⟨id, parent, storage, name, kind, size, filetype⟩, path⟩ := x
  cases kind with
  | container => cases h
  | file | abstractFile => cases parent <;> cases size <;> rfl

/-- The run of a copy is interrupted. -/
def Interrupts (shell : Shell τ) (g : General) (w : World (Session τ)) (what : Copying) : Prop :=
  ∃ c, shell.clientIn g w = .ok c ∧
    ((Run.start (shell.runPlan g.console c what)).run (renewed w)).1 = .error .interrupted

/-- What a display that is not shown writes in the course of an order: something only for a copy. -/
def Utters (shell : Shell τ) (order : Order) (e : Event) : Prop :=
  (∃ what, order = .copy what) ∧ shell.display.Utters e

/-- How a command ends for a user who wants documents: with a document about its work, behind what
the display has written, or without one.  A copy is cancelled if its run was interrupted. -/
structure Ends (shell : Shell τ) (g : General) (order : Order) (w : World (Session τ))
    (ended : Except Failure ExitCode × World (Session τ)) : Prop where
  document : (ended.1 = .ok .success ∧ ∃ document v, Documents shell g w order document ∧
      World.Adds (shell.Utters order) w v ∧ ended.2.output = documentLine document :: v.output) ∨
    ended.1 ≠ .ok .success ∧ (∀ d, ¬Documents shell g w order d) ∧
      World.Adds (shell.Utters order) w ended.2
  cancelled (what : Copying) : order = .copy what →
    (ended.1 = .ok .cancelled ↔ Interrupts shell g w what)

lemma ends_info (hclient : shell.clientIn g w = .ok c) (hjson : g.console.json = true) :
    Ends shell g .info w ((shell.carryOut g .info).run w) := by
  have hsilent : ((shell.survey g.console c).run (renewed w)).2.output = w.output := by
    refine (since_survey shell g.console c w.events (renewed w) ⟨[], rfl, by simp⟩).output
      (w := renewed w) fun e he => ?_
    cases he with
    | device tells => cases tells <;> rfl
    | storages tells => exact tells.isOutput
    | warning text => rfl
  refine ⟨?_, fun _ h => by cases h⟩
  rw [carryOut, run_info shell hclient, hjson]
  rcases hrun : (shell.survey g.console c).run (renewed w) with ⟨f | overview, v⟩ <;>
    rw [hrun] at hsilent
  · have hnone : ∀ d, ¬Documents shell g w .info d := by
      intro d hd
      cases hd with
      | info client answer =>
        obtain rfl := Except.ok.inj (hclient.symm.trans client)
        rw [hrun] at answer
        cases answer
    cases f <;> exact .inr ⟨by rintro ⟨⟩, hnone, .of_eq hsilent⟩
  · exact .inl ⟨rfl, _, v, .info hclient (by rw [hrun]), .of_eq hsilent, rfl⟩

lemma ends_files {wanted : List Int} (hclient : shell.clientIn g w = .ok c)
    (hjson : g.console.json = true) :
    Ends shell g (.files wanted) w ((shell.carryOut g (.files wanted)).run w) := by
  have hmute := Session.mute_remote shell.link c { limit := shell.limit }
  obtain ⟨result, v, hrun, hlists⟩ :=
    listFiles_proceeds shell g.console (shell.remote c) wanted (renewed w)
  have hsilent : v.output = w.output := hlists.output hmute hjson
  refine ⟨?_, fun _ h => by cases h⟩
  rw [carryOut, run_files shell wanted hclient, hrun, hjson]
  rcases result with f | found
  · have hnone : ∀ d, ¬Documents shell g w (.files wanted) d := by
      intro d hd
      cases hd with
      | files client answer =>
        obtain rfl := Except.ok.inj (hclient.symm.trans client)
        rw [hrun] at answer
        cases answer
    cases f <;> exact .inr ⟨by rintro ⟨⟩, hnone, .of_eq hsilent⟩
  · have hplain := yields_listFiles shell g.console (shell.remote c) wanted (renewed w) found
      (by rw [hrun])
    refine .inl ⟨rfl, _, v, .files hclient (by rw [hrun]) hplain, .of_eq hsilent, ?_⟩
    have hdocument : found.map findingJson = found.map _ :=
      List.map_congr_left fun x hx => findingJson_eq (hplain x hx)
    rw [← hdocument]
    refine congrArg (documentLine _ :: ·) ?_
    refine World.output_showing (w := hungUp v) (shell.remote c) fun e he => ?_
    obtain ⟨message, -, rfl⟩ := List.mem_map.mp he
    rfl

lemma ends_copy {what : Copying} (hclient : shell.clientIn g w = .ok c)
    (hjson : g.console.json = true) :
    Ends shell g (.copy what) w ((shell.carryOut g (.copy what)).run w) := by
  have hmute := Session.mute_remote shell.link c { limit := shell.limit }
  obtain ⟨result, known, v, hrun, hproceeds⟩ :=
    Run.run_proceeds (shell.runPlan g.console c what) (renewed w)
  have hadds : World.Adds (shell.Utters (.copy what)) w v :=
    (hproceeds.output hmute hjson).mono fun e he => ⟨⟨what, rfl⟩, he⟩
  have hinterrupts : Interrupts shell g w what ↔ result = .error .interrupted := by
    refine ⟨?_, fun h => ⟨c, hclient, by rw [hrun, h]⟩⟩
    rintro ⟨c', hclient', hanswer⟩
    obtain rfl := Except.ok.inj (hclient.symm.trans hclient')
    rwa [hrun] at hanswer
  have hended : (shell.carryOut g (.copy what)).run w = _ := run_copy shell what hclient
  rw [hrun, hjson] at hended
  rw [hended]
  rcases result with f | statistics
  · have hnone : ∀ d, ¬Documents shell g w (.copy what) d := by
      intro d hd
      cases hd with
      | copy client answer =>
        obtain rfl := Except.ok.inj (hclient.symm.trans client)
        rw [hrun] at answer
        cases answer
    refine ⟨.inr ?_, ?_⟩
    · cases f
      all_goals
        dsimp only
        try split_ifs
        all_goals exact ⟨by rintro ⟨⟩, hnone, hadds.then rfl⟩
    · rintro _ ⟨rfl⟩
      rw [hinterrupts]
      cases f
      case interrupted => exact ⟨fun _ => rfl, fun _ => rfl⟩
      all_goals
        dsimp only
        try split_ifs
        all_goals constructor <;> rintro ⟨⟩
  · refine ⟨.inl ⟨rfl, _, v, .copy hclient (by rw [hrun]), hadds, rfl⟩, ?_⟩
    rintro _ ⟨rfl⟩
    rw [hinterrupts]
    constructor <;> rintro ⟨⟩

/-- A command puts a document onto the standard output if it succeeds, and otherwise none. -/
lemma ends_carryOut (shell : Shell τ) (order : Order) (w : World (Session τ))
    (hjson : g.console.json = true) :
    Ends shell g order w ((shell.carryOut g order).run w) := by
  rcases hclient : shell.clientIn g w with f | c
  · have hnone : ∀ c, shell.clientIn g w ≠ .ok c := fun c hc => by
      rw [hclient] at hc
      cases hc
    have hdocument : ∀ d, ¬Documents shell g w order d := by
      intro d hd
      cases hd with
      | info client | files client | copy client => exact hnone _ client
    rw [carryOut_unconnected hclient]
    cases f <;> exact ⟨.inr ⟨by rintro ⟨⟩, hdocument, .of_eq rfl⟩,
      fun _ _ => ⟨by rintro ⟨⟩, fun ⟨c, hc, _⟩ => absurd hc (hnone c)⟩⟩
  · cases order with
    | info => exact ends_info hclient hjson
    | files wanted => exact ends_files hclient hjson
    | copy what => exact ends_copy hclient hjson

end Shell

/-! ## The program -/

namespace Program

variable {shell : Shell τ} {arguments : List String} {g : General} {order : Shell.Order}
  {w : World (Session τ)}

/-- A copy from a bridge that refuses to list its storage, for a user who wants documents. -/
def refusedCopy : Except Failure Outcome × World (Session Unit) :=
  (run Shell.refusing ["--json", "mirror"]).run ⟨.empty, .start (), []⟩

end Program

end Replica
