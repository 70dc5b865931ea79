import JavaLex.Files.AccessFault
import JavaLex.Files.FilePath

/-! # File trees

A directory holds named entries: files with their bytes, further directories, and links that stand
for what their target leads to from the directory they are in. A name is one part of a path, and
the dots, which have a meaning of their own, name nothing. A path is walked part by part, from the
root or from the working directory, and no walk follows more than forty links.

What a path leads to can always be seen, and every directory lists its entries: where the operating
system hides an entry, a link to nothing stands for it. What it may refuse for reasons of its own,
as for want of permission, are the requests that a reader of a file makes.
-/
namespace JavaLex.Files

inductive Entry where
  | file (content : ByteArray)
  | link (target : String)
  | directory (entries : List (String × Entry))
  deriving Inhabited

/-- What an entry of a directory may be called. -/
def isEntryName (name : String) : Bool :=
  name ≠ "" && name ≠ "." && name ≠ ".." && !name.toList.contains '/'

namespace Entry

mutual

/-- Whether everything inside has a name that an entry may have. -/
def isWellNamed : Entry → Bool
  | .file _ => true
  | .link _ => true
  | .directory entries => allWellNamed entries

def allWellNamed : List (String × Entry) → Bool
  | [] => true
  | (name, entry) :: entries => isEntryName name && entry.isWellNamed && allWellNamed entries

end

theorem allWellNamed_iff {entries : List (String × Entry)} :
    allWellNamed entries ↔ ∀ e ∈ entries, isEntryName e.1 ∧ e.2.isWellNamed := by
  induction entries with
  | nil => simp [allWellNamed]
  | cons e entries ih => simp [allWellNamed, ih, and_assoc]

def child? : Entry → String → Option Entry
  | directory entries, name => (entries.find? (·.1 == name)).map (·.2)
  | _, _ => none

/-- The entry that the names lead to. Links are not followed. -/
def at? : Entry → List String → Option Entry
  | e, [] => some e
  | e, name :: names => (e.child? name).bind fun child => child.at? names

def isFile : Entry → Bool
  | file _ => true
  | _ => false

def isDirectory : Entry → Bool
  | directory _ => true
  | _ => false

/-- The number of bytes of a file. -/
def size : Entry → Nat
  | file content => content.size
  | _ => 0

end Entry

/-- What is asked about a file that is there. -/
inductive Request where
  /-- Its own path, with all links followed. -/
  | path
  | size
  | content
  deriving DecidableEq, Repr, Inhabited

structure FileTree where
  root : Entry
  /-- The names from the root to the working directory. -/
  working : List String
  /-- The fault with which a request is refused, whatever there is. -/
  fault? : Request → FilePath → Option AccessFault := fun _ _ => none
  wellNamed : root.isWellNamed := by decide

/-- A place in a tree: the names from the root, and the entry there. -/
structure Place where
  names : List String
  entry : Entry

def Place.path (p : Place) : FilePath :=
  ⟨"/" ++ String.intercalate "/" p.names⟩

namespace FileTree

/-- The entries with one more at the end of some names. What is there already stays. -/
def insertInto (entry : Entry) : List String → List (String × Entry) → List (String × Entry)
  | [], entries => entries
  | [name], entries =>
    if entries.any (·.1 == name) then entries else entries ++ [(name, entry)]
  | name :: names, entries =>
    if entries.any (·.1 == name) then
      entries.map fun (other, e) =>
        match e with
        | .directory inner =>
          if other == name then (other, .directory (insertInto entry names inner)) else (other, e)
        | e => (other, e)
    else entries ++ [(name, .directory (insertInto entry names []))]

theorem insertInto_wellNamed {entry : Entry} (hentry : entry.isWellNamed) {names : List String}
    (hnames : ∀ name ∈ names, isEntryName name) {entries : List (String × Entry)}
    (h : Entry.allWellNamed entries) : Entry.allWellNamed (insertInto entry names entries) := by
  rw [Entry.allWellNamed_iff] at h
  induction names generalizing entries with
  | nil => exact Entry.allWellNamed_iff.mpr h
  | cons name names ih =>
    rw [List.forall_mem_cons] at hnames
    cases names with
    | nil =>
      rw [insertInto, Entry.allWellNamed_iff]
      split
      · exact h
      · simpa [or_imp, forall_and, hnames, hentry] using h
    | cons next names =>
      simp only [insertInto, Entry.allWellNamed_iff]
      split
      · rintro e he
        rcases List.mem_map.mp he with ⟨⟨other, e⟩, hmem, rfl⟩
        have hname := h _ hmem
        cases e with
        | file content => exact hname
        | link target => exact hname
        | directory inner =>
          dsimp only
          split
          · exact ⟨hname.1, ih hnames.2 (Entry.allWellNamed_iff.mp hname.2)⟩
          · exact hname
      · have hinner : (Entry.directory (insertInto entry (next :: names) [])).isWellNamed :=
          ih hnames.2 (by simp)
        simpa [or_imp, forall_and, hnames, hinner] using h

theorem entries_wellNamed {t : FileTree} {entries : List (String × Entry)}
    (h : t.root = .directory entries) : Entry.allWellNamed entries := by
  have hroot := t.wellNamed
  rw [h] at hroot
  exact hroot

/-- Put an entry at a place, together with the directories that lead there, if all of them have
names that entries may have. -/
def insert (t : FileTree) (names : List String) (entry : Entry) : FileTree :=
  match hroot : t.root with
  | .directory entries =>
    if h : (∀ name ∈ names, isEntryName name) ∧ entry.isWellNamed then
      { t with
        root := .directory (insertInto entry names entries)
        wellNamed := insertInto_wellNamed h.2 h.1 (entries_wellNamed hroot) }
    else t
  | _ => t

/-- Nothing but an empty working directory. -/
def ofWorking (names : List String) : FileTree :=
  FileTree.insert { root := .directory [], working := names } names (.directory [])

instance : Inhabited FileTree := ⟨ofWorking []⟩

/-- The most links that a walk follows. -/
def maxLinks : Nat := 40

/-- The most bytes of a name, and of a path with the byte that ends it. -/
def maxNameBytes : Nat := 255
def maxPathBytes : Nat := 4096

/-- Walk the parts of a path from `here` on. An empty part stands where slashes follow each other or
end the path, and asks for a directory. A link is left to `follow`, which gets the place to go on
from and the parts to go. -/
def walkParts (t : FileTree) (follow : List String → List String → Except AccessFault Place)
    (here : List String) : List String → Except AccessFault Place
  | [] =>
    match t.root.at? here with
    | some entry => .ok ⟨here, entry⟩
    | none => .error .notFound
  | part :: parts =>
    match t.root.at? here with
    | some (.directory entries) =>
      if part = "" ∨ part = "." then t.walkParts follow here parts
      else if part = ".." then t.walkParts follow here.dropLast parts
      else if maxNameBytes < part.utf8ByteSize then .error .nameTooLong
      else
        match (Entry.directory entries).child? part with
        | none => .error .notFound
        | some (.link target) =>
          let target : FilePath := ⟨target⟩
          follow (if target.isAbsolute then [] else here) (target.parts ++ parts)
        | some _ => t.walkParts follow (here ++ [part]) parts
    | _ => .error .notDirectory

/-- Walk parts with so many links to follow. -/
def walk (t : FileTree) : Nat → List String → List String → Except AccessFault Place
  | 0 => t.walkParts fun _ _ => .error .tooManyLinks
  | links + 1 => t.walkParts (t.walk links)

/-- The place that a path leads to, through links. -/
def resolve (t : FileTree) (p : FilePath) : Except AccessFault Place :=
  if p.spelling.isEmpty then .error .notFound
  else if p.spelling.toList.contains '\x00' then .error .unnameable
  else if maxPathBytes ≤ p.spelling.utf8ByteSize then .error .nameTooLong
  else t.walk maxLinks (if p.isAbsolute then [] else t.working) p.parts

def exists? (t : FileTree) (p : FilePath) : Bool :=
  (t.resolve p).isOk

def isFile (t : FileTree) (p : FilePath) : Bool :=
  match t.resolve p with
  | .ok place => place.entry.isFile
  | .error _ => false

def isDirectory (t : FileTree) (p : FilePath) : Bool :=
  match t.resolve p with
  | .ok place => place.entry.isDirectory
  | .error _ => false

/-- The answer to a request, unless it is refused. -/
def answer {α : Type} (t : FileTree) (request : Request) (p : FilePath)
    (found : Except AccessFault α) : Except AccessFault α :=
  match t.fault? request p with
  | some fault => .error fault
  | none => found

/-- The place that a path leads to, if the path to it without links can be had. That path has to be
short enough, too. -/
def canonical (t : FileTree) (p : FilePath) : Except AccessFault Place :=
  t.answer .path p do
    let place ← t.resolve p
    if maxPathBytes ≤ place.path.spelling.utf8ByteSize then .error .nameTooLong else .ok place

/-- The number of bytes of the file at a place. -/
def sizeAt (t : FileTree) (place : Place) : Except AccessFault Nat :=
  t.answer .size place.path (.ok place.entry.size)

/-- The content of a file as text. -/
def contentOf : Entry → Except AccessFault String
  | .file content =>
    match String.fromUTF8? content with
    | some text => .ok text
    | none => .error .notText
  | _ => .error .isDirectory

def contentAt (t : FileTree) (place : Place) : Except AccessFault String :=
  t.answer .content place.path (contentOf place.entry)

def readText (t : FileTree) (p : FilePath) : Except AccessFault String := do
  t.contentAt (← t.resolve p)

/-- The names in the directory that a path leads to. -/
def names (t : FileTree) (p : FilePath) : Except AccessFault (List String) := do
  match (← t.resolve p).entry with
  | .directory entries => return entries.map (·.1)
  | _ => .error .notDirectory

end FileTree
end JavaLex.Files
