import JavaLex.Listing.Basic

/-! # The result of a batch

The files that have a listing and those that failed, each in the order in which they were worked
on or in the order of their paths, and how many there are.
-/
namespace JavaLex
open Files

structure BatchResult where
  succeeded : List (FilePath × Listing) := []
  failed : List (FilePath × ListingError) := []
  duration : Duration := ⟨0⟩
  processed : Nat := 0
  discovered : Nat := 0

namespace BatchResult

def successCount (r : BatchResult) : Nat :=
  r.succeeded.length

def failureCount (r : BatchResult) : Nat :=
  r.failed.length

/-- The part of the files worked on that succeeded, or zero if there are none. -/
def successRate (r : BatchResult) : Float :=
  if r.processed = 0 then 0.0
  else Duration.ofCount r.successCount / Duration.ofCount r.processed

/-- Tokens of all listings, the ends of input not counted. -/
def tokenCount (r : BatchResult) : Nat :=
  (r.succeeded.map (·.2.size)).foldr (· + ·) 0

def add (r : BatchResult) (p : FilePath) (outcome : Except ListingError Listing) : BatchResult :=
  match outcome with
  | .ok l => { r with succeeded := r.succeeded ++ [(p, l)], processed := r.processed + 1 }
  | .error e => { r with failed := r.failed ++ [(p, e)], processed := r.processed + 1 }

/-- The files of both. -/
def merge (r other : BatchResult) : BatchResult :=
  { r with
    succeeded := r.succeeded ++ other.succeeded
    failed := r.failed ++ other.failed
    processed := r.processed + other.processed }

def byPath {α : Type} (files : List (FilePath × α)) : List (FilePath × α) :=
  files.mergeSort fun a b => (compare a.1 b.1).isLE

def sorted (r : BatchResult) : BatchResult :=
  { r with succeeded := byPath r.succeeded, failed := byPath r.failed }

def summary (r : BatchResult) : String :=
  s!"Batch tokenization completed: {r.processed} files processed, " ++
    s!"{r.successCount} successful ({Text.fixedPoint (r.successRate * 100.0) 1}%), " ++
    s!"{r.failureCount} failed, {r.tokenCount} tokens, " ++
    s!"{Text.fixedPoint r.duration.seconds 2}s total"

end BatchResult
end JavaLex
