import JavaLex.Diagnostics.Event
import JavaLex.Files.PathMap
import JavaLex.Source.LineIndex

/-! # The ledger of a run

Events are filed under the file that they are about, in the order in which they arrive. A file
takes so many events and then one last warning that there were more. Once the ledger as a whole
holds as many as it may, it takes no further errors.
-/
namespace JavaLex.Diagnostics
open Files Source

structure Ledger where
  files : PathMap (Array Event) := .empty
  /-- The texts of the files that failed, for the excerpts. -/
  sources : PathMap LineIndex := .empty

namespace Ledger

/-- Errors are refused once the ledger holds this many events. -/
def errorLimit : Nat := 1000

/-- The most events of one file, the last warning not counted. -/
def fileLimit : Nat := 1000

/-- The size against which the fill of a ledger is measured. -/
def capacity : Nat := 10000

def overflowWarning : Event :=
  .warning Code.plainWarning s!"Too many events for file (limit: {fileLimit})"

/-- How many events there are, over all files. -/
def size (l : Ledger) : Nat :=
  l.files.total Array.size

/-- The events of a file with a new one filed. -/
def append (events : Array Event) (e : Event) : Array Event :=
  if events.size < fileLimit then events.push e
  else if events.size = fileLimit then events.push overflowWarning
  else events

def record (l : Ledger) (p : FilePath) (e : Event) : Ledger :=
  if errorLimit ≤ l.size && e.isError then l
  else { l with files := l.files.alter p fun events => append (events.getD #[]) e }

def keepSource (l : Ledger) (p : FilePath) (source : List Char) : Ledger :=
  { l with sources := l.sources.insert p (LineIndex.ofSource source) }

def clear (_ : Ledger) : Ledger :=
  {}

def events (l : Ledger) (p : FilePath) : List Event :=
  ((l.files.find? p).getD #[]).toList

def errors (l : Ledger) (p : FilePath) : List Event :=
  (l.events p).filter Event.isError

def hasErrors (l : Ledger) (p : FilePath) : Bool :=
  !(l.errors p).isEmpty

/-- The files with their events, in the order of the paths. -/
def toList (l : Ledger) : List (FilePath × List Event) :=
  l.files.entries.map fun (p, events) => (p, events.toList)

def failedPaths (l : Ledger) : List FilePath :=
  (l.toList.filter (·.2.any Event.isError)).map (·.1)

/-- How full the ledger is. -/
def fill (l : Ledger) : Float :=
  l.size.toUInt64.toFloat / capacity.toUInt64.toFloat

end Ledger
end JavaLex.Diagnostics
