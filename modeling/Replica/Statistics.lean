import Replica.Json.Basic
/-!
# Statistics of a run

A walk counts what became of every entry that it met.  A run adds up the counts of its walks
and counts the storages.
-/

namespace Replica

/-- What became of the entries of one or more listings. -/
structure Statistics where
  /-- Folders that were entered. -/
  directories : Nat := 0
  /-- Files that were looked at. -/
  files : Nat := 0
  /-- Files that were fetched. -/
  downloads : Nat := 0
  /-- Files that were up to date. -/
  skips : Nat := 0
  /-- Files that could not be fetched. -/
  failures : Nat := 0
  /-- Abstract files that were left out. -/
  abstracts : Nat := 0
  /-- Entries with a name that cannot be used. -/
  invalid : Nat := 0
deriving DecidableEq, Repr

namespace Statistics

/-- The counts of two groups of listings together. -/
def add (a b : Statistics) : Statistics where
  directories := a.directories + b.directories
  files := a.files + b.files
  downloads := a.downloads + b.downloads
  skips := a.skips + b.skips
  failures := a.failures + b.failures
  abstracts := a.abstracts + b.abstracts
  invalid := a.invalid + b.invalid

instance : Add Statistics := ⟨add⟩

/-- The counts by name, in the order in which they are written. -/
def toFields (s : Statistics) : List (String × Json) :=
  [("directories", .int s.directories), ("files", .int s.files), ("downloads", .int s.downloads),
    ("skips", .int s.skips), ("failures", .int s.failures), ("abstract", .int s.abstracts),
    ("invalid", .int s.invalid)]

end Statistics

/-- The statistics of a run over storages. -/
structure RunStatistics where
  /-- The counts of all walks. -/
  total : Statistics := {}
  /-- The storages that were walked. -/
  storages : Nat := 0
deriving DecidableEq, Repr

/-- The statistics as a JSON value. -/
def RunStatistics.toJson (s : RunStatistics) : Json :=
  .object (s.total.toFields ++ [("storages", .int s.storages)])

end Replica
