import Replica.Bridge.Client
/-!
# Downloads

The content of a file is fetched in one request and written in blocks of 8192 bytes, the last
of which may be shorter.  If the connection breaks, only whole blocks are written.

* `Download.blocks`: the cut of a content into blocks.
* `Client.download`: a download to a local path.
-/

namespace Replica

namespace Download

/-- The number of bytes in a block. -/
def blockSize : Nat := 8192

/-- How many bytes of a body are written: all of them if it is complete, and the whole blocks
otherwise. -/
def writtenLength (r : Response) : Nat :=
  match r.broken with
  | none => r.body.length
  | some _ => r.body.length / blockSize * blockSize

/-- How many bytes are written after each block of a content of `length` bytes. -/
def marks (length : Nat) : List Nat :=
  (List.range ((length + blockSize - 1) / blockSize)).map fun i =>
    min (blockSize * (i + 1)) length

/-- The size of the content that a response announces, zero if it announces none. -/
def announcedSize (r : Response) : Except ValueFault Int :=
  match r.header? "Content-Length" with
  | some text => integerOfText text
  | none => .ok 0

/-- One step of a download. -/
structure Progress where
  /-- The bytes written so far. -/
  done : Nat
  /-- The announced size of the content. -/
  total : Int
deriving DecidableEq, Repr

end Download

namespace Client

open Download

variable {τ : Type}

/-- Writes the content of a response to a path and gives the steps in which it was written. -/
def store (path : Path) (r : Response) : Action (Connection τ) (List Progress) := do
  let total ← Procedure.ofChecked (announcedSize r)
  let length := writtenLength r
  match (← Action.files).writeFile path (r.body.take length) with
  | .error .nullCharacter => Procedure.fail .nullCharacter
  | .error (.system problem) =>
    Procedure.fail (.bridge (.unwritable (Failure.fileMessage problem path.text)))
  | .ok files =>
    Action.setFiles files
    match r.broken with
    | none => return (marks length).map fun done => ⟨done, total⟩
    | some cause => Procedure.fail (.bridge (.downloadNetwork cause))

/-- Fetches the content of a file and writes it to a path. -/
def download (l : Link τ) (c : Client) (node : Int) (path : Path) :
    Action (Connection τ) (List Progress) := do
  openUp c
  let url := c.url ++ "/file-entries/download/" ++ toString node
  let r ← Procedure.ofExcept (Request.prepare "GET" url [] c.presentedKey)
  let arrival ← l.send r
  match arrival.answer with
  | .interrupted => Procedure.fail .interrupted
  | .unreachable cause => Procedure.fail (.bridge (.downloadNetwork cause))
  | .response response =>
    if response.succeeded then store path response
    else Procedure.fail (.bridge (.downloadRefused (response.complaint arrival.last.address.text)))

end Client

end Replica
