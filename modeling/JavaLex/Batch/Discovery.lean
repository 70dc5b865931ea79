import JavaLex.Batch.BatchError
import JavaLex.Diagnostics.Session
import JavaLex.Files.SourceFile

/-! # Discovery

The sources under a directory are the files with the extension of Java sources, in any mixture of
cases, in the directory itself or anywhere below it. Links count as what they lead to, and so a
source may be found under several paths. The paths come in increasing order, so nothing
depends on the order in which directories list their entries. Every directory that a tree has lists
them: a tree refuses requests about files only.
-/
namespace JavaLex
open Diagnostics Files

structure BatchOptions where
  threads : Nat
  recursive : Bool := true
  /-- Take only so many of the files found. -/
  maxFiles? : Option Nat := none
  /-- Say which file is being worked on. -/
  progress : Bool := true
  /-- Stop after a file that fails. -/
  failFast : Bool := false
  settings : Settings := {}
  deriving DecidableEq, Repr, Inhabited

namespace Files

mutual

/-- How many directories lie inside one another. -/
def Entry.height : Entry → Nat
  | .file _ => 0
  | .link _ => 0
  | .directory entries => Entry.heightOfAll entries + 1

def Entry.heightOfAll : List (String × Entry) → Nat
  | [] => 0
  | (_, entry) :: entries => max entry.height (Entry.heightOfAll entries)

end

/-- Whether the extension is the one of Java sources in any mixture of cases. -/
def hasSourceExtension (p : FilePath) : Bool :=
  p.extension?.any fun extension =>
    extension.toList.map Char.toLower == sourceExtension.toList

namespace FileTree

def isSource (t : FileTree) (p : FilePath) : Bool :=
  t.isFile p && hasSourceExtension p

/-- The sources under a directory, `depth` levels deep if `recursive`. -/
def sourcesWithin (t : FileTree) (recursive : Bool) :
    Nat → FilePath → Except (FilePath × AccessFault) (List FilePath)
  | 0, _ => .ok []
  | depth + 1, directory =>
    match t.names directory with
    | .error fault => .error (directory, fault)
    | .ok names => do
      let found ← names.mapM fun name =>
        let p := directory.join name
        if t.isDirectory p then
          if recursive then sourcesWithin t recursive depth p else .ok []
        else .ok (if t.isSource p then [p] else [])
      return found.flatten

/-- A path that can be walked goes down no further than this: at most the whole height of the tree
between one link and the next. -/
def depthBound (t : FileTree) : Nat :=
  (maxLinks + 1) * (t.root.height + 1) + 1

/-- All sources under a directory, in the order in which they are come upon. -/
def sources (t : FileTree) (recursive : Bool) (directory : FilePath) :
    Except (FilePath × AccessFault) (List FilePath) :=
  t.sourcesWithin recursive t.depthBound directory

end FileTree
end Files

namespace BatchOptions

/-- The most files of a batch. -/
def fileLimit : Nat := 10000

/-- The paths with the smaller ones first. -/
def inOrder (paths : List FilePath) : List FilePath :=
  paths.mergeSort fun p q => (compare p q).isLE

/-- The paths that the option on their number leaves, and a warning if it leaves some out. -/
def limited (o : BatchOptions) (paths : List FilePath) : List FilePath × List Report :=
  match o.maxFiles? with
  | none => (paths, [])
  | some limit =>
    if limit < paths.length then
      (paths.take limit, [.warning Code.plainWarning "Reached maximum file limit"
        [("files_found", toString paths.length), ("limit", toString limit)]])
    else (paths, [])

/-- The sources to work on, with what there is to report about finding them. -/
def sources (o : BatchOptions) (t : FileTree) (directory : FilePath) :
    List Report × Except BatchError (List FilePath) :=
  if !t.isDirectory directory then ([], .error (.directoryNotFound directory.spelling))
  else
    match t.sources o.recursive directory with
    | .error (p, fault) => ([], .error (.unreadable s!"{p}: {fault.message}"))
    | .ok [] => ([], .error (.noSources directory.spelling))
    | .ok found =>
      let (paths, reports) := o.limited (inOrder found)
      if fileLimit < paths.length then
        (reports, .error (.tooManyFiles paths.length fileLimit))
      else
        (reports ++ [.success Code.discoveryComplete "File discovery completed"
          [("files_found", toString paths.length), ("directory", directory.spelling)]], .ok paths)

/-- Find the sources in a session. -/
def discover (o : BatchOptions) (t : FileTree) (directory : FilePath) (s : Session) :
    Except BatchError (List FilePath) × Session :=
  let s := s.post (.info "Starting file discovery"
    [("directory", directory.spelling), ("recursive", toString o.recursive)])
  match o.sources t directory with
  | (reports, result) => (result, s.postAll reports)

end BatchOptions
end JavaLex
