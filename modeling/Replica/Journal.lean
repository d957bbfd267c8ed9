import Replica.Bridge.Request
import Replica.Device.Node
import Replica.Path
/-!
# Journals

A journal records what happened, the oldest first.

* `LogRecord`, `Stream`, `Activity`: the three ways in which something is reported.
* `Step`: what a walk through the remote tree does, with the place where it stands.
* `Event`: one entry of a journal.
-/

namespace Replica

/-! ## Records and output -/

/-- How much a log record matters. -/
inductive Level where
  /-- For finding faults. -/
  | debug
  /-- For following a run. -/
  | info
  /-- Something was left out. -/
  | warning
  /-- Something failed. -/
  | error
  /-- Nothing goes on. -/
  | critical
deriving DecidableEq, Repr

/-- The rank of a level, the least first. -/
def Level.rank : Level → Nat
  | debug => 0
  | info => 1
  | warning => 2
  | error => 3
  | critical => 4

/-- The word for a level. -/
def Level.word : Level → String
  | debug => "DEBUG"
  | info => "INFO"
  | warning => "WARNING"
  | error => "ERROR"
  | critical => "CRITICAL"

/-- The part of the program that a log record comes from. -/
inductive Origin where
  /-- The count of failed transfers. -/
  | budget
  /-- The comparison of files. -/
  | decision
  /-- The local directory. -/
  | localDirectory
  /-- The walk through a storage. -/
  | walk
  /-- The run over all storages. -/
  | run
  /-- The remote tree. -/
  | remote
deriving DecidableEq, Repr

/-- The name under which a part of the program logs. -/
def Origin.word : Origin → String
  | budget => "mirror.budget"
  | decision => "mirror.decision"
  | localDirectory => "mirror.local_fs"
  | walk => "mirror.walker"
  | run => "mirror.engine"
  | remote => "remote_tree"

/-- One log record. -/
structure LogRecord where
  /-- How much it matters. -/
  level : Level
  /-- Where it comes from. -/
  origin : Origin
  /-- What it says. -/
  text : String
deriving DecidableEq, Repr

/-- The line of a log record. -/
def LogRecord.line (r : LogRecord) : String :=
  r.level.word ++ " " ++ r.origin.word ++ ": " ++ r.text

/-- Where output goes. -/
inductive Stream where
  /-- The results. -/
  | out
  /-- Everything else. -/
  | err
deriving DecidableEq, Repr

/-- What is shown about the current activity. -/
inductive Activity where
  /-- The display appears, unless nothing is to be shown. -/
  | started (shown : Bool)
  /-- The activity is described. -/
  | described (text : String)
  /-- The display disappears. -/
  | stopped
deriving DecidableEq, Repr

/-- The activity in words. -/
def Activity.text : Activity → String
  | started true => "start"
  | started false => "start disabled"
  | described text => text
  | stopped => "stop"

/-! ## Steps of a walk -/

/-- Where a walk stands: the trail, the parts of the local directory below the destination, and
the containers that it is inside of. -/
structure Standing where
  /-- The names on the trail. -/
  segments : List String
  /-- The names of the directories entered. -/
  parts : List String
  /-- The numbers of the containers on the way down. -/
  ancestors : List Int
deriving DecidableEq, Repr

/-- One step of a walk. -/
inductive Step where
  /-- The children of a container are asked for. -/
  | listing (storage : Int) (container : Option Int)
  /-- These children are given. -/
  | listed (children : List Node)
  /-- A child gets its turn. -/
  | taken (child : Node)
  /-- The folder of this number has been entered under this name. -/
  | entered (container : Int) (name : String)
  /-- It has been left. -/
  | left (container : Int) (name : String)
  /-- A file is looked at; this is its path below the destination. -/
  | visited (path : String)
  /-- A file is compared with the local entry of its name. -/
  | compared (file : Node)
  /-- The content of a file is asked for, to be put at a path. -/
  | fetching (file : Node) (target : Path)
  /-- The content has arrived, or it has not. -/
  | fetched (success : Bool)

/-- The path of the file that is looked at in a step, below the destination. -/
def Step.visited? : Step → Option String
  | visited path => some path
  | _ => none

/-- One thing that happened. -/
inductive Event where
  /-- A record was logged. -/
  | logged (record : LogRecord)
  /-- A text was written. -/
  | wrote (stream : Stream) (text : String)
  /-- The display of the current activity changed. -/
  | activity (what : Activity)
  /-- A wait of some seconds began. -/
  | waited (seconds : Float)
  /-- A request was sent to the bridge. -/
  | sent (request : Request)
  /-- A response led on to this request, which was sent in its place. -/
  | followed (request : Request)
  /-- A walk took a step. -/
  | step (standing : Standing) (what : Step)

namespace Event

/-- Whether the event is a step of a walk. -/
def isStep : Event → Bool
  | step .. => true
  | _ => false

/-- The path of the file that is looked at, if the event is such a step. -/
def visited? : Event → Option String
  | step _ what => what.visited?
  | _ => none

/-- The description of the activity while a file is looked at. -/
def checking (path : String) : String := "Checking " ++ path

/-- What the display of the current activity shows for an event.  A file that is looked at is
shown by its path. -/
def shown? : Event → Option String
  | activity what => some what.text
  | other => other.visited?.map checking

end Event

end Replica
