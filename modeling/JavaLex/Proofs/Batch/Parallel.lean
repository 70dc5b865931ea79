import JavaLex.Proofs.Batch.Discovery
import JavaLex.Proofs.Batch.Sharing
import JavaLex.Proofs.Listing.Untimed

/-! # Several workers and one

What comes of a file does not depend on when it is worked on or by whom. So several workers find the
same listings and errors as one, in some order, and sorting by path brings back the order in which
one worker finds them, since no two of the paths are spellings of the same.
-/
namespace JavaLex
open Files

namespace BatchResult
variable {outcome : FilePath → Except ListingError Listing}

def untimed (r : BatchResult) : BatchResult :=
  { r with
    succeeded := r.succeeded.map fun file => (file.1, file.2.untimed)
    duration := ⟨0⟩ }

theorem untimed_add (r : BatchResult) (p : FilePath) (result : Except ListingError Listing) :
    (r.add p result).untimed = r.untimed.add p (result.map Listing.untimed) := by
  cases result with
  | ok l => simp [add, untimed, Except.map]
  | error e => rfl

/-- What comes of some files, one after the other. -/
def addAll (outcome : FilePath → Except ListingError Listing) (r : BatchResult)
    (paths : List FilePath) : BatchResult :=
  paths.foldl (fun r p => r.add p (outcome p)) r

/-- The error of a result. -/
def error? {ε α : Type} : Except ε α → Option ε
  | .ok _ => none
  | .error e => some e

/-- The files for which there is something, each with what there is. -/
def picked {α : Type} (pick : FilePath → Option α) (paths : List FilePath) : List (FilePath × α) :=
  paths.filterMap fun p => (pick p).map (p, ·)

theorem addAll_eq (r : BatchResult) (paths : List FilePath) : r.addAll outcome paths =
    { r with
      succeeded := r.succeeded ++ picked (fun p => (outcome p).toOption) paths
      failed := r.failed ++ picked (fun p => error? (outcome p)) paths
      processed := r.processed + paths.length } := by
  induction paths generalizing r with
  | nil => simp [addAll, picked]
  | cons p paths ih =>
    change (r.add p (outcome p)).addAll outcome paths = _
    rw [ih]
    have hcount : r.processed + 1 + paths.length = r.processed + (paths.length + 1) := by omega
    cases hp : outcome p with
    | ok l => simp [add, picked, hp, error?, Except.toOption, hcount]
    | error e => simp [add, picked, hp, error?, Except.toOption, hcount]

/-! ## The order of the paths -/

theorem byPath_eq_of_perm {α : Type} {files sorted : List (FilePath × α)} (h : files.Perm sorted)
    (hsorted : sorted.Pairwise fun a b => (compare a.1 b.1).isLE)
    (hsame : ∀ a ∈ sorted, ∀ b ∈ sorted, a.1.same b.1 → a = b) : byPath files = sorted := by
  have hfiles : (byPath files).Perm sorted := (List.mergeSort_perm files _).trans h
  apply List.Perm.eq_of_pairwise _ _ hsorted hfiles
  · intro a b ha hb hab hba
    apply hsame a (hfiles.mem_iff.mp ha) b hb
    apply FilePath.compare_eq_iff.mp
    exact Std.OrientedCmp.isLE_antisymm hab hba
  · exact pairwise_mergeSort_compare Prod.fst files

theorem untimed_sorted (r : BatchResult) : r.sorted.untimed = r.untimed.sorted := by
  have hmap : (byPath r.succeeded).map (fun file => (file.1, file.2.untimed)) =
      byPath (r.succeeded.map fun file => (file.1, file.2.untimed)) :=
    List.map_mergeSort fun _ _ _ _ => rfl
  simp [sorted, untimed, hmap]

theorem map_pair_eq_some_iff {α : Type} {value : Option α} {p : FilePath} {file : FilePath × α} :
    value.map (p, ·) = some file ↔ file.1 = p ∧ value = some file.2 := by
  rcases file with ⟨q, a⟩
  cases value <;> simp [eq_comm]

theorem byPath_picked {α : Type} (pick : FilePath → Option α) {paths done : List FilePath}
    (h : BatchOptions.Ordered paths) (hdone : done.Perm paths) :
    byPath (picked pick done) = picked pick paths := by
  apply byPath_eq_of_perm
  · exact hdone.filterMap _
  · apply h.pairwise.filterMap
    intro p q hpq file hfile other hother
    rw [(map_pair_eq_some_iff.mp hfile).1, (map_pair_eq_some_iff.mp hother).1]
    exact hpq
  · intro file hfile other hother hsame
    rcases List.mem_filterMap.mp hfile with ⟨p, hp, hfile⟩
    rcases List.mem_filterMap.mp hother with ⟨q, hq, hother⟩
    rcases map_pair_eq_some_iff.mp hfile with ⟨rfl, hfile⟩
    rcases map_pair_eq_some_iff.mp hother with ⟨rfl, hother⟩
    have hpath : file.1 = other.1 := h.eq_of_same _ hp _ hq hsame
    rw [hpath, hother] at hfile
    exact Prod.ext hpath (Option.some.inj hfile).symm

/-- Sorting brings back the order of the paths. -/
theorem sorted_addAll {paths done : List FilePath} (h : BatchOptions.Ordered paths)
    (hdone : done.Perm paths) (n : Nat) :
    (addAll outcome { discovered := n } done).sorted = addAll outcome { discovered := n } paths := by
  rw [addAll_eq, addAll_eq, sorted, List.nil_append, List.nil_append, List.nil_append,
    List.nil_append, byPath_picked _ h hdone, byPath_picked _ h hdone, hdone.length_eq]

theorem merge_add (r other : BatchResult) (p : FilePath) (result : Except ListingError Listing) :
    (r.merge other).add p result = r.merge (other.add p result) := by
  cases result <;> simp [add, merge, Nat.add_assoc]

theorem merge_empty (r : BatchResult) : r.merge {} = r := by
  simp [merge]

end BatchResult

namespace BatchOptions
variable {o : BatchOptions} {t : FileTree}

/-- The listings and errors of one worker. -/
theorem untimed_runJobs (h : o.failFast = false) (total : Nat) (jobs : List Job) (r : BatchResult)
    (s : Diagnostics.Session) : (o.runJobs t total jobs r s).1.untimed =
      r.untimed.addAll (Listing.fileOutcome o.settings t) (jobs.map Job.path) := by
  induction jobs generalizing r s with
  | nil => rfl
  | cons job jobs ih =>
    have houtcome := Listing.untimed_ofFile o.settings t job.path job.id (o.announce total job s)
    rw [runJobs, List.map_cons, BatchResult.addAll, List.foldl_cons, ← houtcome]
    rcases Listing.ofFile o.settings t job.path job.id (o.announce total job s) with ⟨e | l, s'⟩
    · simp only [h, Bool.false_eq_true, if_false]
      rw [ih, BatchResult.untimed_add]
      rfl
    · rw [← BatchResult.untimed_add]
      exact ih _ _

theorem untimed_runChunk (jobs : List Job) (r : BatchResult) (s : Diagnostics.Session) :
    (o.runChunk t jobs r s).1.untimed =
      r.untimed.addAll (Listing.fileOutcome o.settings t) (jobs.map Job.path) := by
  induction jobs generalizing r s with
  | nil => rfl
  | cons job jobs ih =>
    have houtcome := Listing.untimed_ofFile o.settings t job.path job.id s
    rw [runChunk, List.map_cons, BatchResult.addAll, List.foldl_cons, ← houtcome,
      ← BatchResult.untimed_add]
    exact ih _ _

theorem runChunk_append (jobs more : List Job) (r : BatchResult) (s : Diagnostics.Session) :
    o.runChunk t (jobs ++ more) r s =
      o.runChunk t more (o.runChunk t jobs r s).1 (o.runChunk t jobs r s).2 := by
  induction jobs generalizing r s with
  | nil => rfl
  | cons job jobs ih => exact ih _ _

theorem runChunk_merge (jobs : List Job) (r other : BatchResult) (s : Diagnostics.Session) :
    o.runChunk t jobs (r.merge other) s =
      (r.merge (o.runChunk t jobs other s).1, (o.runChunk t jobs other s).2) := by
  induction jobs generalizing other s with
  | nil => rfl
  | cons job jobs ih =>
    change o.runChunk t jobs ((r.merge other).add job.path _) _ = _
    rw [BatchResult.merge_add]
    exact ih _ _

/-- Chunk by chunk the jobs are done one after the other. -/
theorem runChunks_eq_runChunk (h : o.failFast = false) (schedules : Nat → Schedule)
    (threads size index : Nat) (chunks : List (List FilePath)) (r : BatchResult)
    (s : Diagnostics.Session) : o.runChunks t schedules threads size index chunks r s =
      o.runChunk t (jobOrder schedules threads size index chunks) r s := by
  induction chunks generalizing index r s with
  | nil => rfl
  | cons chunk rest ih =>
    have hmerge := o.runChunk_merge (t := t)
      ((schedules index).run (shares threads (index * size) chunk)) r {} s
    rw [BatchResult.merge_empty] at hmerge
    rw [jobOrder, runChunk_append, hmerge, runChunks]
    simp only [h, Bool.false_and, Bool.false_eq_true, if_false]
    exact ih _ _ _

theorem map_path_number (first : Nat) (paths : List FilePath) :
    (Job.number first paths).map Job.path = paths := by
  induction paths generalizing first with
  | nil => rfl
  | cons p paths ih => exact congrArg (p :: ·) (ih _)

theorem chunkSize_pos (files threads : Nat) : 0 < chunkSize files threads :=
  Nat.le_max_left _ _

/-- What one worker or several make of the sources that are found. -/
def batchOutcome (o : BatchOptions) (t : FileTree) (directory : FilePath) :
    Except BatchError BatchResult :=
  (o.sources t directory).2.map fun paths =>
    BatchResult.addAll (Listing.fileOutcome o.settings t) { discovered := paths.length } paths

theorem untimed_runSequential (h : o.failFast = false) (directory : FilePath)
    (s : Diagnostics.Session) : (o.runSequential t directory s).1.map BatchResult.untimed =
      o.batchOutcome t directory := by
  rcases hsources : o.sources t directory with ⟨reports, e | paths⟩
  · simp only [runSequential, discover, batchOutcome, hsources]
    rfl
  · simp only [runSequential, discover, batchOutcome, hsources]
    apply congrArg Except.ok
    apply (untimed_runJobs h _ _ _ _).trans
    rw [map_path_number]
    rfl

theorem untimed_runParallel (h : o.failFast = false) (schedules : Nat → Schedule)
    (directory : FilePath) (s : Diagnostics.Session) :
    (o.runParallel t schedules directory s).1.map BatchResult.untimed =
      o.batchOutcome t directory := by
  rcases hsources : o.sources t directory with ⟨reports, e | paths⟩
  · simp only [runParallel, discover, batchOutcome, hsources]
    rfl
  · simp only [runParallel, discover, batchOutcome, hsources, runChunks_eq_runChunk h]
    apply congrArg Except.ok
    have hordered : Ordered paths := ordered_sources (congrArg Prod.snd hsources)
    have hperm := (jobOrder_perm schedules (Nat.le_max_left 1 o.threads)
      (chunkSize_pos paths.length (max 1 o.threads)) (Nat.le_refl paths.length) 0).map Job.path
    rw [map_path_number] at hperm
    -- All chunks together are one run over the jobs in the order in which they are done.
    apply (BatchResult.untimed_sorted _).trans
    rw [untimed_runChunk]
    exact BatchResult.sorted_addAll hordered hperm paths.length

/-- Files are shared out to workers that take turns as they like: each file is worked on once, with
its place as its number, and no chunk needs more workers than there are. -/
structure SharesOut (o : BatchOptions) (t : FileTree) (schedules : Nat → Schedule) (threads : Nat)
    (paths : List FilePath) : Prop where
  exists_order : ∃ jobs : List Job, jobs.Perm (paths.mapIdx Job.mk) ∧ ∀ r s,
    o.runChunks t schedules threads (chunkSize paths.length threads) 0
      (chunks (chunkSize paths.length threads) paths) r s = o.runChunk t jobs r s
  length_le : ∀ first chunk, (shares threads first chunk).length ≤ threads
  turns_iff : ∀ first chunk jobs, Interleaves (shares threads first chunk) jobs ↔
    ∃ schedule : Schedule, schedule.run (shares threads first chunk) = jobs

theorem sharesOut (h : o.failFast = false) (t : FileTree) (schedules : Nat → Schedule)
    {threads : Nat} (hthreads : 0 < threads) (paths : List FilePath) :
    o.SharesOut t schedules threads paths where
  exists_order := by
    have hperm := jobOrder_perm schedules hthreads (chunkSize_pos paths.length threads)
      (Nat.le_refl paths.length) 0
    rw [Nat.zero_mul, Job.number_eq_mapIdx] at hperm
    simp only [Nat.zero_add] at hperm
    exact ⟨_, hperm, runChunks_eq_runChunk h schedules threads _ 0 _⟩
  length_le := length_shares_le hthreads
  turns_iff _ _ _ := interleaves_iff

/-- Several workers come to the same result as one, however they take turns. -/
theorem runParallel_refines_runSequential (h : o.failFast = false) (t : FileTree)
    (schedules : Nat → Schedule) (directory : FilePath) (s s' : Diagnostics.Session) :
    (o.runParallel t schedules directory s).1.map BatchResult.untimed =
        (o.runSequential t directory s').1.map BatchResult.untimed ∧
      ∀ paths, (o.sources t directory).2 = .ok paths →
        o.SharesOut t schedules (max 1 o.threads) paths := by
  constructor
  · rw [untimed_runParallel h, untimed_runSequential h]
  · intro paths _
    exact sharesOut h t schedules (Nat.le_max_left 1 o.threads) paths

/-- Four files, one of which does not scan. -/
def quartet : FileTree where
  root := .directory
    [("A.java", .file "class A {}".toUTF8), ("B.java", .file "char c = '';".toUTF8),
      ("C.java", .file "class C {}".toUTF8), ("D.java", .file "class D {}".toUTF8)]
  working := []

theorem sources_quartet : (sources { threads := 2 } quartet ⟨"/"⟩).2 =
    .ok [⟨"/A.java"⟩, ⟨"/B.java"⟩, ⟨"/C.java"⟩, ⟨"/D.java"⟩] := by
  have hdirectory : quartet.isDirectory ⟨"/"⟩ := by decide +kernel
  have hfound : quartet.sources true ⟨"/"⟩ =
      .ok [⟨"/A.java"⟩, ⟨"/B.java"⟩, ⟨"/C.java"⟩, ⟨"/D.java"⟩] := rfl
  have horder : inOrder [⟨"/A.java"⟩, ⟨"/B.java"⟩, ⟨"/C.java"⟩, ⟨"/D.java"⟩] =
      [⟨"/A.java"⟩, ⟨"/B.java"⟩, ⟨"/C.java"⟩, ⟨"/D.java"⟩] :=
    List.mergeSort_of_pairwise (by decide +kernel)
  simp [sources, hdirectory, hfound, limited, horder, fileLimit]

/-- Each turn goes to the worker after the one whose turn it was. -/
def takingTurns : Schedule :=
  fun step => step + 1

/-- A chunk is shared by two workers, and the second one is done first. -/
theorem runParallel_refines_runSequential_quartet :
    takingTurns.run (shares 2 0 [⟨"/A.java"⟩, ⟨"/B.java"⟩]) = [⟨1, ⟨"/B.java"⟩⟩, ⟨0, ⟨"/A.java"⟩⟩] ∧
    (runParallel { threads := 2 } quartet (fun _ => takingTurns) ⟨"/"⟩ {}).1.map
        BatchResult.untimed =
      (runSequential { threads := 2 } quartet ⟨"/"⟩ {}).1.map BatchResult.untimed ∧
    SharesOut { threads := 2 } quartet (fun _ => takingTurns) 2
      [⟨"/A.java"⟩, ⟨"/B.java"⟩, ⟨"/C.java"⟩, ⟨"/D.java"⟩] := by
  obtain ⟨hresult, hshares⟩ := runParallel_refines_runSequential (o := { threads := 2 }) rfl quartet
    (fun _ => takingTurns) ⟨"/"⟩ {} {}
  exact ⟨rfl, hresult, hshares _ sources_quartet⟩

end BatchOptions
end JavaLex
