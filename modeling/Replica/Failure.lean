import Replica.Address.Basic
import Replica.Domain.Label
import Replica.FileSystem.Basic
import Replica.Json.Display
import Replica.Number.Numeral
import Replica.Text.Unwritable
/-!
# Failures

Everything that can end an operation before its result, by its cause.

* `ValueFault`: a value from outside is not what its place demands.
* `BridgeError`: the device bridge cannot be asked, refuses, or answers with something else.
* `Abort`: a condition on which a run has to stop at once.
* `Failure`: any of these, a fault of the file system, or an interruption.

Each has a `message`, the words that a user reads.
-/

namespace Replica

/-! ## Values -/

/-- The families of faults of a value, as descriptions name them. -/
inductive ValueFault.Family where
  /-- A field is not there. -/
  | missing
  /-- The value has no fields. -/
  | fieldless
  /-- The value is of a kind that the operation does not take. -/
  | kind
  /-- The value is of the right kind and unusable. -/
  | content
  /-- A number is out of range. -/
  | range
deriving DecidableEq, Repr

/-- Why a time cannot be waited for. -/
inductive PauseProblem where
  /-- It is less than nothing. -/
  | negative
  /-- It is no number. -/
  | notANumber
  /-- It is longer than the clock counts. -/
  | tooLong
deriving DecidableEq, Repr

/-- What is wrong with the time, in words. -/
def PauseProblem.words : PauseProblem → String
  | negative => "sleep length must be non-negative"
  | notANumber => "Invalid value NaN (not a number)"
  | tooLong => "timestamp too large to convert to C PyTime_t"

/-- Why a value from outside cannot be used. -/
inductive ValueFault where
  /-- A required field is not there. -/
  | missingField (name : String)
  /-- A field is asked of a value of a kind that has none. -/
  | noFields (kind : String)
  /-- A value of this kind is no number. -/
  | notNumeric (kind : String)
  /-- A field is looked up in a value of a kind that has none. -/
  | notRecord (kind : String)
  /-- A value of this kind has no items. -/
  | notIterable (kind : String)
  /-- A value of this kind holds nothing that could be looked for. -/
  | notSearchable (kind : String)
  /-- A value of this kind is no name of a file. -/
  | notName (kind : String)
  /-- No order compares the two kinds. -/
  | unordered (kinds : Json.Unordered)
  /-- The text with these code points is no decimal numeral. -/
  | notNumeral (points : List Text.CodePoint)
  /-- The numeral has more digits than are read. -/
  | numeralTooLong (digits : Nat)
  /-- The integer has more digits than are written. -/
  | integerTooLong
  /-- The text is no decimal number of seconds. -/
  | notSeconds (text : String)
  /-- The text has characters beyond ASCII. -/
  | notAscii (text : String) (stretch : Text.Stretch)
  /-- The text has surrogates, which no encoding of Unicode writes. -/
  | unwritable (text : Text.Unwritable)
  /-- A label of a domain name stands for none. -/
  | label (fault : Domain.LabelFault)
  /-- The address has no scheme. -/
  | noScheme (text : String)
  /-- The float that is no number is no integer either. -/
  | notANumber
  /-- An infinite float is no integer. -/
  | infinite
  /-- An integer is too large for a float. -/
  | integerOutOfRange
  /-- The quotient of integers is too large for a float. -/
  | quotientOutOfRange
  /-- A time of this kind cannot be waited for. -/
  | unwaitable (problem : PauseProblem)
deriving DecidableEq, Repr

namespace ValueFault

/-- The family of a fault. -/
def family : ValueFault → Family
  | missingField _ => .missing
  | noFields _ => .fieldless
  | notNumeric _ | notRecord _ | notIterable _ | notSearchable _ | notName _ | unordered _ => .kind
  | notNumeral _ | numeralTooLong _ | integerTooLong | notSeconds _ | notAscii .. | unwritable _
  | label _ | noScheme _ | notANumber | unwaitable .negative | unwaitable .notANumber => .content
  | infinite | integerOutOfRange | quotientOutOfRange | unwaitable .tooLong => .range

/-- The most characters of a quoted text that a message about a numeral shows. -/
def shownCharacters : Nat := 200

/-- What is wrong with a character beyond ASCII. -/
def outOfAscii : String := "ordinal not in range(128)"

/-- What is wrong with a surrogate. -/
def surrogate : String := "surrogates not allowed"

/-- What is wrong with the value, in words. -/
def message : ValueFault → String
  | missingField name => Text.quoted name
  | noFields kind => "'" ++ kind ++ "' object has no attribute 'get'"
  | notNumeric kind =>
    "int() argument must be a string, a bytes-like object or a real number, not '" ++ kind ++ "'"
  | notRecord kind => "'" ++ kind ++ "' object is not subscriptable"
  | notIterable kind => "'" ++ kind ++ "' object is not iterable"
  | notSearchable kind => "argument of type '" ++ kind ++ "' is not iterable"
  | notName kind => "expected the name of a file, not '" ++ kind ++ "'"
  | unordered kinds =>
    "'<' not supported between instances of '" ++ kinds.left ++ "' and '" ++ kinds.right ++ "'"
  | notNumeral points =>
    "invalid literal for int() with base 10: "
      ++ String.ofList ((Text.quotedCodePoints points).take shownCharacters)
  | numeralTooLong digits =>
    "Exceeds the limit (" ++ toString Numeral.maxDecimalDigits
      ++ " digits) for integer string conversion: value has " ++ toString digits
      ++ " digits; use sys.set_int_max_str_digits() to increase the limit"
  | integerTooLong =>
    "Exceeds the limit (" ++ toString Numeral.maxDecimalDigits
      ++ " digits) for integer string conversion; use sys.set_int_max_str_digits() to increase"
      ++ " the limit"
  | notSeconds text => "could not convert string to float: " ++ Text.quoted text
  | notAscii _ stretch => "'ascii' codec can't encode " ++ stretch.text ++ ": " ++ outOfAscii
  | unwritable text => "'utf-8' codec can't encode " ++ text.stretch.text ++ ": " ++ surrogate
  | label fault => fault.message
  | noScheme text => "unknown url type: " ++ Text.quoted text
  | notANumber => "cannot convert float NaN to integer"
  | infinite => "cannot convert float infinity to integer"
  | integerOutOfRange => "int too large to convert to float"
  | quotientOutOfRange => "integer division result too large for a float"
  | unwaitable problem => problem.words

/-- The word that descriptions use for a family. -/
def Family.word : Family → String
  | missing => "KeyError"
  | fieldless => "AttributeError"
  | kind => "TypeError"
  | content => "ValueError"
  | range => "OverflowError"

/-- The word that descriptions use for a fault. -/
def word : ValueFault → String
  | notAscii .. | unwritable _ => "UnicodeEncodeError"
  | label fault => fault.family.word
  | other => other.family.word

/-- What a description says about a text that an encoding does not write. -/
def encodingDetails (encoding : String) (points : List Text.CodePoint) (stretch : Text.Stretch)
    (reason : String) : List String :=
  [Text.quoted encoding, String.ofList (Text.quotedCodePoints points), toString stretch.start,
    toString (stretch.start + stretch.points.length), Text.quoted reason]

/-- What a description says about a fault after its word. -/
def details : ValueFault → List String
  | missingField name => [Text.quoted name]
  | notAscii text stretch => encodingDetails "ascii" (Text.CodePoint.ofChars text.toList) stretch
      outOfAscii
  | unwritable text => encodingDetails "utf-8" text.points text.stretch surrogate
  | other => [Text.quoted other.message]

/-- The fault as the error of a listing describes it. -/
def description (fault : ValueFault) : String :=
  fault.word ++ "(" ++ ", ".intercalate fault.details ++ ")"

end ValueFault

/-! ## The bridge -/

/-- Why a request to the device bridge has no result. -/
inductive BridgeError where
  /-- No address of a bridge is known. -/
  | unconfigured
  /-- The key is refused. -/
  | unauthorized
  /-- Access is forbidden. -/
  | forbidden
  /-- There is no such resource. -/
  | notFound
  /-- Too many requests were made. -/
  | rateLimited
  /-- The bridge answered with another status; its own words may follow. -/
  | status (code : Nat) (words : Option String)
  /-- No answer came. -/
  | network (cause : String)
  /-- The connection broke during a download. -/
  | downloadNetwork (cause : String)
  /-- The answer is of another content type. -/
  | contentType (type : String)
  /-- The answer is no JSON document. -/
  | notJson
  /-- A download was refused. -/
  | downloadRefused (cause : String)
  /-- A download cannot be written. -/
  | unwritable (cause : String)
  /-- No request was made at all. -/
  | noAttempt
deriving DecidableEq, Repr

namespace BridgeError

/-- The error in words. -/
def message : BridgeError → String
  | unconfigured =>
    "API URL not configured. Please set TREEMIRROR_API_URL environment variable."
  | unauthorized => "Invalid API key or unauthorized access"
  | forbidden => "Access forbidden - check the bridge permissions"
  | notFound => "Resource not found"
  | rateLimited => "Rate limit exceeded - please try again later"
  | status code none => "API request failed with status " ++ toString code
  | status code (some words) =>
    "API request failed with status " ++ toString code ++ ": " ++ words
  | network cause => "Network error: " ++ cause
  | downloadNetwork cause => "Network error during download: " ++ cause
  | contentType type => "Unexpected response type: " ++ type
  | notJson => "Invalid JSON response from the device bridge"
  | downloadRefused cause => "Download failed: " ++ cause
  | unwritable cause => "Failed to write file: " ++ cause
  | noAttempt => "Request failed after all retry attempts"

/-- Whether the error may pass if the same request is made again. -/
def isTransient : BridgeError → Bool
  | rateLimited | network _ | downloadNetwork _ => true
  | _ => false

end BridgeError

/-! ## Conditions that stop a run -/

/-- How the record of the current directory was misused. -/
inductive TrailFault where
  /-- The name is no single component of a path. -/
  | invalidName (name : String)
  /-- A name is taken off an empty trail. -/
  | emptyPop
  /-- A walk starts below the destination. -/
  | startedInside (path : String)
  /-- A walk ends below the destination. -/
  | endedInside (path : String)
  /-- The trail and the local directory name different places. -/
  | diverged (trail directory : String)
deriving DecidableEq, Repr

/-- The written form of a trail with this path. -/
def trailText (path : String) : String := "PathStack(" ++ Text.quoted path ++ ")"

namespace TrailFault

/-- The fault in words. -/
def message : TrailFault → String
  | invalidName name => "Invalid path segment: " ++ Text.quoted name
  | emptyPop => "pop from empty path stack"
  | startedInside path => "walk started with a non-empty path stack: " ++ trailText path
  | endedInside path => "walk finished with a non-empty path stack: " ++ trailText path
  | diverged trail directory =>
    "Path stack '" ++ trail ++ "' diverged from local directory '" ++ directory ++ "'"

end TrailFault

/-- What went wrong with a local directory. -/
inductive DirectoryProblem where
  /-- It cannot be made. -/
  | notMade (problem : FileProblem)
  /-- Something else has its name. -/
  | blocked
  /-- It is no directory, so it cannot be entered. -/
  | notEntered
  /-- There is nothing above it to return to. -/
  | atTop
  /-- It is gone. -/
  | vanished
  /-- The entry of that name cannot be inspected. -/
  | notInspected (problem : FileProblem)
deriving DecidableEq, Repr

/-- A failed operation on the local directory. -/
structure DirectoryFault where
  /-- What went wrong. -/
  problem : DirectoryProblem
  /-- The name that the operation was about. -/
  name : String
  /-- The text of the directory in which it took place. -/
  place : String
  /-- The same directory, relative to the destination. -/
  context : String
deriving DecidableEq, Repr

namespace DirectoryFault

/-- The fault in words. -/
def message (f : DirectoryFault) : String :=
  match f.problem with
  | .notMade problem =>
    "couldn't mkdir " ++ f.name ++ " in " ++ f.place ++ ", errno: " ++ toString problem.number
  | .blocked =>
    "couldn't mkdir " ++ f.name ++ " in " ++ f.place
      ++ ": a non-directory with that name exists"
  | .notEntered => "couldn't enter " ++ f.name ++ " in " ++ f.place ++ ": not a directory"
  | .atTop => "couldn't leave " ++ f.place ++ ": already at the destination root"
  | .vanished => "couldn't leave " ++ f.place ++ ": directory vanished"
  | .notInspected problem =>
    "couldn't stat " ++ f.name ++ " in " ++ f.place ++ ", errno: " ++ toString problem.number

/-- The system's problem behind the fault, if it gave one. -/
def cause? (f : DirectoryFault) : Option FileProblem :=
  match f.problem with
  | .notMade problem | .notInspected problem => some problem
  | .blocked => some .occupied
  | _ => none

end DirectoryFault

/-- A condition on which a run stops at once, with the replica in the state it has reached. -/
inductive Abort where
  /-- The trail was misused. -/
  | trail (fault : TrailFault)
  /-- A local directory cannot be made, entered or left. -/
  | directory (fault : DirectoryFault)
  /-- A local entry cannot be inspected. -/
  | inspection (fault : DirectoryFault)
  /-- Too many transfers failed. -/
  | tooManyFailures (failures : Nat) (threshold : Int)
  /-- A container is its own ancestor. -/
  | cycle (container : Int) (context : String)
deriving DecidableEq, Repr

namespace Abort

/-- The condition in words. -/
def message : Abort → String
  | trail fault => fault.message
  | directory fault | inspection fault => fault.message
  | tooManyFailures failures threshold =>
    "Aborting: " ++ toString failures ++ " transfer failures exceed the limit of "
      ++ toString threshold
  | cycle container context =>
    "Remote container " ++ toString container ++ " appears twice on the path '" ++ context
      ++ "' - refusing to recurse into a cycle"

end Abort

/-! ## All failures -/

/-- Why an operation has no result. -/
inductive Failure where
  /-- A value from outside cannot be used. -/
  | value (fault : ValueFault)
  /-- The bridge has no answer. -/
  | bridge (error : BridgeError)
  /-- The run has to stop. -/
  | abort (condition : Abort)
  /-- The file system refuses a request about a path. -/
  | file (problem : FileProblem) (path : String)
  /-- A text is no address. -/
  | address (fault : AddressFault)
  /-- A path holds the null character. -/
  | nullCharacter
  /-- A file is not in UTF-8. -/
  | undecodable
  /-- The destination does not exist. -/
  | noDestination (path : String)
  /-- The destination is no directory. -/
  | destinationNotDirectory (path : String)
  /-- The user interrupted the operation. -/
  | interrupted
  /-- The folders are nested more deeply than the walk goes. -/
  | tooDeep
  /-- A document is nested more deeply than is read. -/
  | documentTooDeep
  /-- A listing has more pages than are asked for. -/
  | tooManyPages
  /-- The display cannot draw what it is told to show. -/
  | undrawable (cause : String)
deriving DecidableEq, Repr

namespace Failure

/-- The message of a refused request about a path. -/
def fileMessage (problem : FileProblem) (path : String) : String :=
  "[Errno " ++ toString problem.number ++ "] " ++ problem.words ++ ": " ++ Text.quoted path

/-- The failure in words. -/
def message : Failure → String
  | value fault => fault.message
  | bridge error => error.message
  | abort condition => condition.message
  | file problem path => fileMessage problem path
  | address fault => fault.message
  | nullCharacter => "embedded null byte"
  | undecodable => "a file is not in UTF-8"
  | noDestination path => "Destination does not exist: " ++ path
  | destinationNotDirectory path => "Destination is not a directory: " ++ path
  | interrupted => ""
  | tooDeep => "the folders are nested too deeply"
  | documentTooDeep => "a document is nested too deeply"
  | tooManyPages => "a listing has too many pages"
  | undrawable cause => cause

/-- The failure of a request about a path. -/
def ofPathFault (path : Path) : PathFault → Failure
  | .nullCharacter => .nullCharacter
  | .system problem => .file problem path.text

/-- Whether the failure is one of a wrong value, which the command line reports as an error of
the request. -/
def isWrongValue : Failure → Bool
  | value fault => fault.family = .content
  | nullCharacter | undecodable | noDestination _ | destinationNotDirectory _ => true
  | _ => false

end Failure

end Replica
