import JavaLex.Batch.BatchResult
import JavaLex.Batch.Discovery
import JavaLex.Batch.Schedule

/-! # Batches

A batch lists all sources under a directory. One worker takes them in order; several take
them chunk by chunk, and each works on its part of the chunk. Workers share the session but no
file, and a source is numbered by its place among those found, so the result is the same but
for the time it takes. With the option to stop early no chunk is begun after one with a failure.
-/
namespace JavaLex
open Diagnostics Files

/-- A source to work on, with its number. -/
structure Job where
  id : Nat
  path : FilePath
  deriving DecidableEq, Repr, Inhabited

namespace Job

/-- Number the paths from `first` on. -/
def number (first : Nat) : List FilePath → List Job
  | [] => []
  | p :: paths => ⟨first, p⟩ :: number (first + 1) paths

end Job

namespace BatchResult

/-- Say that all is done. -/
def report (r : BatchResult) (message : String) (threads : Nat) : Report :=
  .success Code.batchComplete message
    [("files_processed", toString r.processed), ("successful", toString r.successCount),
      ("failed", toString r.failureCount), ("tokens", toString r.tokenCount),
      ("threads_used", toString threads),
      ("duration_ms", Text.fixedPoint r.duration.milliseconds 2)]

end BatchResult

namespace BatchOptions

def stopReport : Report :=
  .warning Code.plainWarning "Fail-fast mode enabled, stopping batch processing"

def announce (o : BatchOptions) (total : Nat) (job : Job) (s : Session) : Session :=
  if o.progress then s.printLine s!"Tokenizing file {job.id + 1} of {total}: {job.path}" else s

/-- Work on the jobs one after the other. -/
def runJobs (o : BatchOptions) (t : FileTree) (total : Nat) :
    List Job → BatchResult → Session → BatchResult × Session
  | [], r, s => (r, s)
  | job :: jobs, r, s =>
    match Listing.ofFile o.settings t job.path job.id (o.announce total job s) with
    | (.ok l, s) => runJobs o t total jobs (r.add job.path (.ok l)) s
    | (.error e, s) =>
      let s := s.post (.debug "File failed" [("file", job.path.spelling), ("error", e.message)])
      let r := r.add job.path (.error e)
      if o.failFast then (r, s.post stopReport) else runJobs o t total jobs r s

/-- List the sources one after the other. -/
def runSequential (o : BatchOptions) (t : FileTree) (directory : FilePath) (s : Session) :
    Except BatchError BatchResult × Session :=
  match s.now with
  | (start, s) =>
    let s := s.post (.info "Starting sequential batch tokenization"
      [("directory", directory.spelling)])
    match o.discover t directory s with
    | (.error e, s) => (.error e, s)
    | (.ok paths, s) =>
      match o.runJobs t paths.length (Job.number 0 paths) { discovered := paths.length } s with
      | (r, s) =>
        match s.since start with
        | (duration, s) =>
          let r := { r with duration }
          (.ok r, s.post (r.report "Sequential batch tokenization completed" 1))

/-- The fewest whole parts of size `d` that make up `n`. -/
def ceilDiv (n d : Nat) : Nat :=
  (n + d - 1) / d

/-- The number of files that are shared out at once. -/
def chunkSize (files threads : Nat) : Nat :=
  max 1 (min 50 (ceilDiv files (max 1 threads)))

/-- The jobs of a chunk, one list for each worker. A worker numbers its files itself, from the number
of the first file of the chunk and from how many files the workers before it have. -/
def shares (threads first : Nat) (chunk : List FilePath) : List (List Job) :=
  let size := ceilDiv chunk.length threads
  (chunks (max 1 size) chunk).mapIdx fun worker part => Job.number (first + worker * size) part

/-- One job of a worker. The file at hand is the worker's own, and the session keeps its. -/
def runShared (o : BatchOptions) (t : FileTree) (job : Job) (r : BatchResult) (s : Session) :
    BatchResult × Session :=
  match Listing.ofFile o.settings t job.path job.id s with
  | (outcome, s') => (r.add job.path outcome, { s' with context := s.context })

/-- The jobs of a chunk in the order in which they are done. -/
def runChunk (o : BatchOptions) (t : FileTree) : List Job → BatchResult → Session →
    BatchResult × Session
  | [], r, s => (r, s)
  | job :: jobs, r, s =>
    match o.runShared t job r s with
    | (r, s) => runChunk o t jobs r s

/-- The chunks of `size` files from number `index` on, where each chunk has a schedule of its own. -/
def runChunks (o : BatchOptions) (t : FileTree) (schedules : Nat → Schedule) (threads size : Nat) :
    Nat → List (List FilePath) → BatchResult → Session → BatchResult × Session
  | _, [], r, s => (r, s)
  | index, chunk :: rest, r, s =>
    match o.runChunk t ((schedules index).run (shares threads (index * size) chunk)) {} s with
    | (done, s) =>
      let r := r.merge done
      if o.failFast && 0 < r.failureCount then (r, s.post stopReport)
      else runChunks o t schedules threads size (index + 1) rest r s

/-- List the sources with several workers. -/
def runParallel (o : BatchOptions) (t : FileTree) (schedules : Nat → Schedule)
    (directory : FilePath) (s : Session) : Except BatchError BatchResult × Session :=
  let threads := max 1 o.threads
  match s.now with
  | (start, s) =>
    let s := s.post (.info "Starting parallel batch tokenization"
      [("directory", directory.spelling), ("max_threads", toString threads)])
    match o.discover t directory s with
    | (.error e, s) => (.error e, s)
    | (.ok paths, s) =>
      let size := chunkSize paths.length threads
      let s := s.post (.debug "Parallel processing configuration"
        [("total_files", toString paths.length), ("chunk_size", toString size),
          ("threads", toString threads)])
      match o.runChunks t schedules threads size 0 (chunks size paths)
        { discovered := paths.length } s with
      | (r, s) =>
        match s.since start with
        | (duration, s) =>
          let r := { r.sorted with duration }
          (.ok r, s.post (r.report "Parallel batch tokenization completed" threads))

/-- One worker lists the sources in order, more than one in parallel. -/
def run (o : BatchOptions) (t : FileTree) (schedules : Nat → Schedule) (directory : FilePath)
    (s : Session) : Except BatchError BatchResult × Session :=
  if o.threads ≤ 1 then o.runSequential t directory s
  else o.runParallel t schedules directory s

end BatchOptions
end JavaLex
