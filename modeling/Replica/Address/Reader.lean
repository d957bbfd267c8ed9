import Replica.Address.Basic
import Replica.Address.Internet
import Replica.Domain.Name
import Replica.Text.Case
import Replica.Text.Letter
/-!
# Reading addresses

A text is cut into the parts of an address, and each part is brought into its normal form.

* `Address.read`: the address that a text names.
* `Address.rooted`: an address that does not name its host, from the top of an unnamed one.
* `Address.withQuery`: an address with another query.
-/

namespace Replica.Address

/-! ## Cutting a text -/

/-- Whether the character may stand in a scheme. -/
def isSchemeChar (c : Char) : Bool :=
  Escape.isAlphanumeric c || c == '+' || c == '.' || c == '-'

/-- The scheme in front of a colon, and what follows it. -/
def splitScheme (cs : List Char) : List Char × List Char :=
  let name := cs.takeWhile isSchemeChar
  match cs.drop name.length with
  | ':' :: rest =>
    if name.all fun c => name.head? ≠ some c ∨ Text.isAsciiLetter c then (name, rest)
    else ([], cs)
  | _ => ([], cs)

/-- Whether the character ends the authority. -/
def endsAuthority (c : Char) : Bool := c == '/' || c == '?' || c == '#'

/-- The authority behind two separators, and what follows it. -/
def splitAuthority : List Char → List Char × List Char
  | '/' :: '/' :: rest =>
    (rest.takeWhile (!endsAuthority ·), rest.dropWhile (!endsAuthority ·))
  | cs => ([], cs)

/-- What follows a mark, up to a stop, and what follows that; none if the mark is not there. -/
def splitAfter (mark : Char) (stop : Char → Bool) : List Char → Option (List Char) × List Char
  | [] => (none, [])
  | c :: rest =>
    if c = mark then (some (rest.takeWhile (!stop ·)), rest.dropWhile (!stop ·))
    else (none, c :: rest)

/-- The user in front of the last at sign, and what follows it. -/
def splitUser (authority : List Char) : List Char × List Char :=
  let rest := (authority.reverse.takeWhile (· ≠ '@')).reverse
  ((authority.take (authority.length - rest.length)).dropLast, rest)

/-- The host, in brackets or up to a colon, and the text of the port behind it. -/
def splitPort (cs : List Char) : List Char × List Char :=
  let inBrackets := (cs.reverse.dropWhile (· ≠ ']')).reverse
  let host := if cs.head? = some '[' ∧ inBrackets ≠ [] then inBrackets
    else cs.takeWhile (· ≠ ':')
  match cs.drop host.length with
  | ':' :: port => (host, port)
  | port => (host, port)

/-! ## Parts in their normal form -/

/-- The host that a text names. -/
def readHost (cs : List Char) : Except AddressFault String :=
  let text := String.ofList cs
  if cs.isEmpty then .ok ""
  else if Internet.looksLikeVersion4 cs then
    if Internet.isVersion4 cs then .ok text else .error (.version4 text)
  else if cs.head? = some '[' ∧ cs.getLast? = some ']' then
    let number := (cs.drop 1).dropLast
    if Internet.isVersion6 number then .ok (String.ofList number) else .error (.version6 text)
  else if cs.all fun c => c.toNat < 0x80 then
    .ok (String.ofList (Escape.escape Escape.safeInHost (cs.map Text.lowerAscii)))
  else
    match Domain.Name.toAscii (Text.lower cs) with
    | .ok name => .ok (String.ofList name)
    | .error _ => .error (.hostName text)

/-- The port that goes without saying in a scheme. -/
def defaultPort : String → Option Int
  | "ftp" => some 21
  | "http" | "ws" => some 80
  | "https" | "wss" => some 443
  | _ => none

/-- The port that a text names, unless it goes without saying in the scheme. -/
def readPort (scheme : String) (cs : List Char) : Except AddressFault (Option Int) :=
  let text := String.ofList cs
  if cs.isEmpty then .ok none
  else
    match Numeral.readDecimal text with
    | .ok port => .ok (if defaultPort scheme = some port then none else some port)
    | .error _ => .error (.port text)

/-- Follows one name of a path; those so far come in reverse. -/
def followName (names : List (List Char)) (name : List Char) : List (List Char) :=
  if name = ['.'] then names
  else if name = ['.', '.'] then (if names = [] ∨ names = [[]] then names else names.drop 1)
  else name :: names

/-- A path without names that lead nowhere or back. -/
def straighten (path : List Char) : List Char :=
  ['/'].intercalate ((Text.splitAt '/' path).foldl followName []).reverse

/-- Checks how a path starts. -/
def checkPath (path : List Char) (hasScheme hasAuthority : Bool) : Except AddressFault PUnit :=
  if hasAuthority then
    if path ≠ [] ∧ path.head? ≠ some '/' then .error .pathNotRooted else .ok ⟨⟩
  else if hasScheme then .ok ⟨⟩
  else if "//".toList.isPrefixOf path then .error .doubleSeparator
  else if path.head? = some ':' then .error .leadingColon
  else .ok ⟨⟩

/-- The address of these parts. -/
def ofParts (scheme authority path : List Char) (query fragment : Option (List Char)) :
    Except AddressFault Address := do
  let (user, rest) := splitUser authority
  let (hostText, portText) := splitPort rest
  let host ← readHost hostText
  let port ← readPort (String.ofList scheme) portText
  let hasScheme := !scheme.isEmpty
  let hasAuthority := !user.isEmpty || host ≠ "" || port.isSome
  checkPath path hasScheme hasAuthority
  let path := if hasScheme || hasAuthority then straighten path else path
  return {
    scheme := String.ofList (scheme.map Text.lowerAscii)
    user := String.ofList (Escape.escape Escape.safeInUser user)
    host
    port
    path := String.ofList (Escape.escape Escape.safeInPath path)
    query := query.map fun cs => String.ofList (Escape.escape Escape.safeInQuery cs)
    fragment := fragment.map fun cs => String.ofList (Escape.escape Escape.safeInFragment cs) }

/-! ## Addresses -/

/-- The most characters of an address or a part of one. -/
def maxLength : Nat := 65536

/-- Whether the character is a control character of ASCII. -/
def isControl (c : Char) : Bool := c.toNat < 0x20 || c.toNat == 0x7F

/-- The address that a text names. -/
def read (text : String) : Except AddressFault Address := do
  let cs := text.toList
  if maxLength < cs.length then .error .tooLong
  match cs.find? isControl with
  | some c => .error (.control c (cs.takeWhile (!isControl ·)).length)
  | none =>
    let (scheme, rest) := splitScheme cs
    let (authority, rest) := splitAuthority rest
    let path := rest.takeWhile fun c => c ≠ '?' && c ≠ '#'
    let (query, rest) := splitAfter '?' (· == '#') (rest.drop path.length)
    let (fragment, _) := splitAfter '#' (fun _ => false) rest
    ofParts scheme authority path query fragment

/-- Checks that no part is too long. -/
def checkParts (parts : List (String × String)) : Except AddressFault PUnit :=
  match parts.find? fun part => maxLength < part.2.length with
  | some part => .error (.partTooLong part.1)
  | none => .ok ⟨⟩

/-- The address with its parts read once more. -/
def reread (a : Address) : Except AddressFault Address := do
  checkParts [("scheme", a.scheme), ("authority", a.authority), ("path", a.path),
    ("query", a.query.getD ""), ("fragment", a.fragment.getD "")]
  ofParts a.scheme.toList a.authority.toList a.path.toList (a.query.map String.toList)
    (a.fragment.map String.toList)

/-- The path and the query of an address, from the top of a host that is not named. -/
def rooted (a : Address) : Except AddressFault Address :=
  reread ⟨"", "", "", none, "/" ++ Text.trimLeft '/' a.path, a.query, none⟩

/-- The address with another query. -/
def withQuery (a : Address) (query : String) : Except AddressFault Address :=
  reread { a with query := some query }

end Replica.Address
