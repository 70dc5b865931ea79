/-! # TOML values

A document is a table, and tables come about in several ways: written in braces, opened by a
header, or implied by a longer header or a dotted key. The way decides what may still be added
to them. Numbers and dates stand for themselves, as they are written.
-/
namespace JavaLex.Toml

inductive Origin where
  | inline
  | header
  /-- On the way to the table of a header. -/
  | implied
  /-- On the way to a dotted key. -/
  | dotted
  deriving DecidableEq, Repr, Inhabited

inductive Value where
  | text (content : String)
  | bool (value : Bool)
  | number (spelling : String)
  | date (spelling : String)
  | array (items : List Value)
  | table (origin : Origin) (entries : List (String × Value))
  /-- The tables of a header in double brackets. -/
  | tables (items : List (List (String × Value)))
  deriving Inhabited

abbrev Entries := List (String × Value)

namespace Entries

def get? (entries : Entries) (key : String) : Option Value :=
  (entries.find? (·.1 == key)).map (·.2)

/-- The entries with the value of a key replaced by what `f` makes of it, or added at the end. -/
def alter (key : String) (f : Option Value → Option Value) : Entries → Option Entries
  | [] => do return [(key, ← f none)]
  | (k, v) :: entries =>
    if k = key then do return (k, ← f (some v)) :: entries
    else do return (k, v) :: (← alter key f entries)

/-- Apply `f` to the last of some tables. -/
def alterLast (f : Entries → Option Entries) : List Entries → Option (List Entries)
  | [] => none
  | [entries] => do return [← f entries]
  | entries :: rest => do return entries :: (← alterLast f rest)

/-- Apply `f` to the table at the end of a header's path. Tables on the way are implied. -/
def within (f : Entries → Option Entries) : List String → Entries → Option Entries
  | [], entries => f entries
  | key :: path, entries =>
    entries.alter key fun
      | none => do return .table .implied (← within f path [])
      | some (.table .inline _) => none
      | some (.table origin inner) => do return .table origin (← within f path inner)
      | some (.tables items) => do return .tables (← alterLast (within f path) items)
      | some _ => none

/-- Open a table by its header. It may have been implied, but not been opened before. -/
def openTable (path : List String) (entries : Entries) : Option Entries := do
  let key ← path.getLast?
  entries.within (fun inner => inner.alter key fun
    | none => some (.table .header [])
    | some (.table .implied inner) => some (.table .header inner)
    | some _ => none) path.dropLast

/-- Open one more table of a header in double brackets. -/
def appendTable (path : List String) (entries : Entries) : Option Entries := do
  let key ← path.getLast?
  entries.within (fun inner => inner.alter key fun
    | none => some (.tables [[]])
    | some (.tables items) => some (.tables (items ++ [[]]))
    | some _ => none) path.dropLast

/-- Give a key its value, once. -/
def assignKey (key : String) (value : Value) (entries : Entries) : Option Entries :=
  entries.alter key fun
    | none => some value
    | some _ => none

/-- Give a dotted key its value. The key must lie in a table that only dotted keys have made. -/
def assign (key : String) (value : Value) : List String → Entries → Option Entries
  | [], entries => entries.assignKey key value
  | step :: path, entries =>
    entries.alter step fun
      | none => do return .table .dotted (← assign key value path [])
      | some (.table .dotted inner) => do return .table .dotted (← assign key value path inner)
      | some (.table .implied inner) =>
        if path.isEmpty then none
        else do return .table .implied (← assign key value path inner)
      | some (.tables items) =>
        if path.isEmpty then none
        else do return .tables (← alterLast (assign key value path) items)
      | some _ => none

/-- Give the dotted key made of `path` its value. -/
def assignPath (path : List String) (value : Value) (entries : Entries) : Option Entries := do
  entries.assign (← path.getLast?) value path.dropLast

end Entries
end JavaLex.Toml
