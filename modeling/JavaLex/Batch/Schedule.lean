/-! # Interleavings

Workers take the files of their queues from the front, and a schedule says whose turn it is. The
order in which files are done is then one interleaving of the queues, and any interleaving
comes from some schedule.
-/
namespace JavaLex

/-- At most so many runs of `n` consecutive items; the last one may be shorter. -/
def chunksFrom {α : Type} (n : Nat) : Nat → List α → List (List α)
  | 0, _ => []
  | _, [] => []
  | count + 1, items => items.take n :: chunksFrom n count (items.drop n)

/-- The items in runs of `n`, which is not zero. -/
def chunks {α : Type} (n : Nat) (items : List α) : List (List α) :=
  chunksFrom n items.length items

/-- For each step the place among the busy workers of the one whose turn it is. Places are counted
on past the last worker. -/
abbrev Schedule := Nat → Nat

namespace Schedule

/-- The first worker finishes its queue, then the next one does, and so on. -/
def inOrder : Schedule :=
  fun _ => 0

/-- Take the front of the queue at place `n`. -/
def takeFront {α : Type} : Nat → List (List α) → Option (α × List (List α))
  | _, [] => none
  | 0, [] :: _ => none
  | 0, (a :: queue) :: queues => some (a, queue :: queues)
  | n + 1, queue :: queues => (takeFront n queues).map fun (a, queues) => (a, queue :: queues)

/-- The items of the queues in the order of a schedule, from a step on. -/
def runFrom {α : Type} (schedule : Schedule) : Nat → Nat → List (List α) → List α
  | 0, _, _ => []
  | left + 1, step, queues =>
    let queues := queues.filter (!·.isEmpty)
    match takeFront (schedule step % queues.length) queues with
    | none => []
    | some (a, queues) => a :: runFrom schedule left (step + 1) queues

def run {α : Type} (schedule : Schedule) (queues : List (List α)) : List α :=
  schedule.runFrom ((queues.map List.length).foldr (· + ·) 0) 0 queues

end Schedule
end JavaLex
