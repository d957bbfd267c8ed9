import Replica.Bridge.Message
import Replica.Compression.Wrapping
import Replica.Text.Case
/-!
# Codings of contents

A response names in a header the codings that its content was given one after the other.  They are
taken off in reverse, piece by piece as the content arrives; an unknown coding is left alone.

* `Coding.ofHeaders`: the codings that headers name.
* `Coding.takeOff`: the content without its codings.
-/

namespace Replica

open Compression

/-- A coding of a content. -/
inductive Coding where
  /-- A compressed file. -/
  | gzip
  /-- Compressed blocks, with a header and a checksum or without them. -/
  | deflate
deriving DecidableEq, Repr

namespace Coding

/-- The coding of that name; a name counts without regard to case. -/
def ofName? (name : List Char) : Option Coding :=
  match String.ofList (Text.lower (Text.stripChars name)) with
  | "gzip" => some gzip
  | "deflate" => some deflate
  | _ => none

/-- The name of the header. -/
def headerName : String := "Content-Encoding"

/-- The codings that headers name, in the order in which they were given. -/
def ofHeaders (headers : List (String × String)) : List Coding :=
  let values := headers.filter fun h => Response.lowerName h.1 = Response.lowerName headerName
  values.flatMap fun h => (Text.splitAt ',' h.2.toList).filterMap ofName?

/-- Expands data that arrives in pieces: what each of them adds, up to one that is corrupt.
`before` is what has arrived, and `known` how much that expands to. -/
def expandPieces (w : Wrapping) : (before : List UInt8) → (known : Nat) → List (List UInt8) →
    List (List UInt8) × Option Corruption
  | _, _, [] => ([], none)
  | before, known, piece :: rest =>
    let data := before ++ piece
    match w.expand data with
    | .error fault => ([], some fault)
    | .ok output =>
      let (outputs, fault) := expandPieces w data output.length rest
      (output.drop known :: outputs, fault)

/-- Takes one coding off the pieces of a content.  Whether compressed blocks have a header shows in
the first piece. -/
def takeOne : Coding → List (List UInt8) → List (List UInt8) × Option Corruption
  | gzip, pieces => expandPieces .file [] 0 pieces
  | deflate, pieces =>
    match Wrapping.checked.expand (pieces.headD []) with
    | .ok _ => expandPieces .checked [] 0 pieces
    | .error _ => expandPieces .bare [] 0 pieces

/-- The content without its codings, and the corruption that ends it. -/
def takeOff (codings : List Coding) (pieces : List (List UInt8)) :
    List UInt8 × Option Corruption :=
  let (pieces, fault) := codings.reverse.foldl
    (fun (pieces, fault) coding =>
      let (outputs, found) := coding.takeOne pieces
      (outputs, found.or fault))
    (pieces.filter (!·.isEmpty), none)
  (pieces.flatten, fault)

end Coding

end Replica
