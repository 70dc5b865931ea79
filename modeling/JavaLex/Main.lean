import JavaLex.CommandLine.Run
import Std.Time.DateTime.Timestamp

/-! # The program

Take a picture of the files that the arguments and the environment name, run the command on it, and
print what it has to say.
-/
namespace JavaLex.Picture
open JavaLex CommandLine Files

/-- The files seen so far, and the directories among them that were gone through. -/
structure State where
  tree : FileTree
  visited : List String := []

def namesOf (path : String) : List String :=
  (FilePath.mk path).parts.filter (!·.isEmpty)

def State.link (s : State) (place target : String) : State :=
  { s with tree := s.tree.insert (namesOf place) (.link target) }

/-- The directory is there, whatever it may hold. -/
def State.open (s : State) (place : String) : State :=
  { s with tree := s.tree.insert (namesOf place) (.directory []) }

/-- The file is there, with so many bytes that cannot be read. -/
def State.refuse (s : State) (place : String) (size : Nat) (fault : AccessFault) : State :=
  let tree := s.tree.insert (namesOf place) (.file ⟨Array.replicate size 0⟩)
  let refused (request : Request) (p : FilePath) := request = .content && p.spelling == place
  { s with
    tree := { tree with
      fault? := fun request p => if refused request p then some fault else tree.fault? request p } }

def faultOf : IO.Error → AccessFault
  | .permissionDenied .. => .denied
  | e => .other 5 "Uncategorized" (toString e)

def realPath? (path : String) : IO (Option String) := do
  try return some (← IO.FS.realPath path).toString
  catch _ => return none

/-- What stands at a place, so many directories deep. A file is only read if it is wanted, and in
a directory that is each source. -/
def load : Nat → Bool → String → State → IO State
  | 0, _, _, s => return s
  | depth + 1, wanted, place, s => do
    let file ← IO.FS.realPath place
    if ← file.isDir then
      if s.visited.contains place then return s
      let mut s := { s.open place with visited := place :: s.visited }
      for entry in ← file.readDir do
        let inner := entry.path.toString
        if let some target ← realPath? inner then
          unless target == inner do s := s.link inner target
          s ← load depth (hasSourceExtension ⟨inner⟩) target s
      return s
    else if wanted then
      try return { s with tree := s.tree.insert (namesOf place) (.file (← IO.FS.readBinFile file)) }
      catch e => return s.refuse place (← file.metadata).byteSize.toNat (faultOf e)
    else return s

/-- The most directories inside one another that a path has room for. -/
def maxDepth : Nat := FileTree.maxPathBytes

/-- What an absolute path leads to, together with the links on the way. -/
def follow (path : String) (s : State) : IO State := do
  let mut s := s
  let mut here := ""
  for name in namesOf path do
    let place := here ++ "/" ++ name
    match ← realPath? place with
    | none => return s
    | some target =>
      unless name == "." || name == ".." || target == place do s := s.link place target
      if ← (← IO.FS.realPath target).isDir then s := s.open target
      here := if target == "/" then "" else target
  load maxDepth true (if here.isEmpty then "/" else here) s

/-- A picture of what some paths lead to from the working directory. -/
def take (paths : List String) : IO FileTree := do
  let working := (← IO.FS.realPath ".").toString
  let mut s : State := { tree := .ofWorking (namesOf working) }
  for path in paths do
    s ← follow (if (FilePath.mk path).isAbsolute then path else working ++ "/" ++ path) s
  return s.tree

end JavaLex.Picture

open JavaLex CommandLine Diagnostics

/-- The variables of the environment that say something to the program. -/
def JavaLex.Environment.current : IO Environment :=
  Environment.names.filterMapM fun name => do
    return (← IO.getEnv name).map fun value => (name, value)

/-- The run is a value. It is worked out once to see how long that takes, and then with this time on
its clock. -/
def JavaLex.CommandLine.World.timed (world : (Nat → Nat) → World) (arguments : List String) :
    IO Outcome := do
  let start := (← Std.Time.Timestamp.now).toNanosecondsSinceUnixEpoch.val.toNat
  let before ← IO.monoNanosNow
  let trial ← IO.wait (Task.spawn fun _ => (world fun n => start + n).run arguments)
  let after ← IO.monoNanosNow
  let tick := max 1 ((after - before) / max 1 trial.readings)
  return (world fun n => start + n * tick).run arguments

def main (arguments : List String) : IO UInt32 := do
  let environment ← Environment.current
  let files ← JavaLex.Picture.take (arguments.take 1 ++ environment.settingsFile?.toList)
  let program := (← IO.appPath).toString
  let outcome ← World.timed
    (fun clock => { program, environment, files, threads := 4, clock }) arguments
  for (stream, text) in outcome.output do
    match stream with
    | .standard => IO.print text
    | .error => IO.eprint text
  return outcome.status.toUInt32
