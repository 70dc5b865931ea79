import JavaLex.Proofs.Batch.Parallel

/-! # Batches that stop early

With the option to stop early one worker goes no further than the first file that fails. Several
workers go to the end of the chunk that this file is in. Either way the files worked on are the front
of those that are found, and every one of them is counted once, as a success or as a failure.
-/
namespace JavaLex
open Files

namespace BatchOptions
variable {o : BatchOptions} {t : FileTree} {directory p : FilePath} {paths done : List FilePath}

/-- Whether the file has no listing, whatever the session. -/
def fails (o : BatchOptions) (t : FileTree) (p : FilePath) : Bool :=
  (BatchResult.error? (Listing.fileOutcome o.settings t p)).isSome

theorem fails_of_ofFile {id : Nat} {s s' : Diagnostics.Session} {e : ListingError}
    (h : Listing.ofFile o.settings t p id s = (.error e, s')) : o.fails t p = true := by
  have houtcome := Listing.untimed_ofFile o.settings t p id s
  rw [h] at houtcome
  rw [fails, ← houtcome]
  rfl

theorem not_fails_of_ofFile {id : Nat} {s s' : Diagnostics.Session} {l : Listing}
    (h : Listing.ofFile o.settings t p id s = (.ok l, s')) : o.fails t p = false := by
  have houtcome := Listing.untimed_ofFile o.settings t p id s
  rw [h] at houtcome
  rw [fails, ← houtcome]
  rfl

/-! ## One worker -/

theorem untimed_runJobs_failFast (h : o.failFast) (total : Nat) (jobs : List Job) (r : BatchResult)
    (s : Diagnostics.Session) : (o.runJobs t total jobs r s).1.untimed =
      r.untimed.addAll (Listing.fileOutcome o.settings t)
        ((jobs.map Job.path).take ((jobs.map Job.path).findIdx (o.fails t) + 1)) := by
  induction jobs generalizing r s with
  | nil => rfl
  | cons job jobs ih =>
    have houtcome := Listing.untimed_ofFile o.settings t job.path job.id (o.announce total job s)
    rw [runJobs, List.map_cons, List.findIdx_cons, List.take_succ_cons, BatchResult.addAll,
      List.foldl_cons, ← houtcome]
    rcases hfile : Listing.ofFile o.settings t job.path job.id (o.announce total job s) with
      ⟨e | l, s'⟩
    · simp only [h, if_true, fails_of_ofFile hfile, cond_true, List.take_zero, List.foldl_nil]
      rw [BatchResult.untimed_add]
    · simp only [not_fails_of_ofFile hfile, cond_false]
      rw [← BatchResult.untimed_add]
      exact ih _ _

/-! ## Several workers -/

/-- The chunks up to the one in which the first item with a property is hold all items to its end. -/
theorem flatten_take_chunksFrom {α : Type} (stops : α → Bool) {size count : Nat} (hsize : 0 < size)
    {items : List α} (h : items.length ≤ count) :
    ((chunksFrom size count items).take
      ((chunksFrom size count items).findIdx (·.any stops) + 1)).flatten =
        items.take ((items.findIdx stops / size + 1) * size) := by
  induction count generalizing items with
  | zero =>
    rw [List.length_eq_zero_iff.mp (Nat.le_zero.mp h)]
    simp [chunksFrom]
  | succ count ih =>
    cases items with
    | nil => simp [chunksFrom]
    | cons a items =>
      have hdrop : ((a :: items).drop size).length ≤ count := by
        rw [List.length_drop]
        omega
      have hrest := ih hdrop
      rw [chunksFrom_cons, List.findIdx_cons, List.take_succ_cons, List.flatten_cons]
      generalize a :: items = items at hrest ⊢
      cases hstops : (items.take size).any stops with
      | true =>
        have hfirst := List.findIdx_lt_length.mpr (List.any_eq_true.mp hstops)
        rw [List.findIdx_take, List.length_take] at hfirst
        simp [Nat.div_eq_of_lt (show items.findIdx stops < size by omega)]
      | false =>
        have hnone := List.findIdx_eq_length.mpr (by simpa using hstops)
        rw [cond_false, hrest]
        by_cases hshort : items.length ≤ size
        · have hwhole : items.length ≤ (items.findIdx stops / size + 1) * size :=
            Nat.le_trans hshort (Nat.le_mul_of_pos_left size (Nat.succ_pos _))
          simp [List.take_of_length_le hshort, List.drop_of_length_le hshort,
            List.take_of_length_le hwhole]
        · -- The first chunk is full, so places in the rest lie `size` further on.
          have hlength : (items.take size).length = size := List.length_take_of_le (by omega)
          have hfirst : items.findIdx stops = (items.drop size).findIdx stops + size := by
            conv_lhs => rw [← List.take_append_drop size items]
            rw [List.findIdx_append, hnone, if_neg (Nat.lt_irrefl _), hlength]
          rw [hfirst, Nat.add_div_right _ hsize, Nat.succ_mul (_ + 1), Nat.add_comm (_ * size) size,
            List.take_add]

/-- The chunks up to the first one in which a file fails. -/
def chunksUntilFailure (o : BatchOptions) (t : FileTree) (chunks : List (List FilePath)) :
    List (List FilePath) :=
  chunks.take (chunks.findIdx (·.any (o.fails t)) + 1)

theorem chunksUntilFailure_cons (o : BatchOptions) (t : FileTree) (chunk : List FilePath)
    (rest : List (List FilePath)) : o.chunksUntilFailure t (chunk :: rest) =
      chunk :: if chunk.any (o.fails t) then [] else o.chunksUntilFailure t rest := by
  rw [chunksUntilFailure, List.findIdx_cons, List.take_succ_cons]
  cases chunk.any (o.fails t) <;> rfl

/-- The errors are those of the files that fail. -/
theorem picked_error_eq_nil_iff : BatchResult.picked (fun p =>
    BatchResult.error? (Listing.fileOutcome o.settings t p)) paths = [] ↔
      paths.any (o.fails t) = false := by
  simp [BatchResult.picked, List.filterMap_eq_nil_iff, fails]

theorem untimed_merge_runChunk (jobs : List Job) (r : BatchResult) (s : Diagnostics.Session) :
    (r.merge (o.runChunk t jobs {} s).1).untimed =
      r.untimed.addAll (Listing.fileOutcome o.settings t) (jobs.map Job.path) := by
  have hmerge := o.runChunk_merge (t := t) jobs r {} s
  rw [BatchResult.merge_empty] at hmerge
  rw [← untimed_runChunk (o := o) (t := t) jobs r s, hmerge]

/-- The jobs of a chunk are its files, in some order. -/
theorem map_path_run_perm {threads : Nat} (hthreads : 0 < threads) (schedule : Schedule)
    (first : Nat) (chunk : List FilePath) :
    ((schedule.run (shares threads first chunk)).map Job.path).Perm chunk := by
  have hperm := (schedule.run_interleaves (shares threads first chunk)).perm.map Job.path
  rwa [flatten_shares hthreads, map_path_number] at hperm

/-- There are failures once a chunk holds a file that fails, and none before. -/
theorem failureCount_eq_zero_iff {r r' : BatchResult} (hr : r.failed = [])
    (h : r'.untimed = r.untimed.addAll (Listing.fileOutcome o.settings t) paths) :
    r'.failureCount = 0 ↔ paths.any (o.fails t) = false := by
  have hfailed := congrArg BatchResult.failed h
  rw [BatchResult.addAll_eq] at hfailed
  change r'.failed = r.failed ++ _ at hfailed
  rw [BatchResult.failureCount, List.length_eq_zero_iff, hfailed, hr, List.nil_append,
    picked_error_eq_nil_iff]

theorem untimed_runChunks_failFast (h : o.failFast) (schedules : Nat → Schedule) {threads : Nat}
    (hthreads : 0 < threads) (size index : Nat) (chunks : List (List FilePath)) {r : BatchResult}
    (hr : r.failed = []) (s : Diagnostics.Session) :
    ∃ done, done.Perm (o.chunksUntilFailure t chunks).flatten ∧
      (o.runChunks t schedules threads size index chunks r s).1.untimed =
        r.untimed.addAll (Listing.fileOutcome o.settings t) done := by
  induction chunks generalizing index r s with
  | nil => exact ⟨[], .nil, rfl⟩
  | cons chunk rest ih =>
    have hperm := map_path_run_perm hthreads (schedules index) (index * size) chunk
    have hmerge := untimed_merge_runChunk (o := o) (t := t)
      ((schedules index).run (shares threads (index * size) chunk)) r s
    rw [runChunks, chunksUntilFailure_cons]
    generalize (schedules index).run (shares threads (index * size) chunk) = jobs at hperm hmerge ⊢
    generalize o.runChunk t jobs {} s = ran at hmerge ⊢
    rcases ran with ⟨part, s'⟩
    have hzero := failureCount_eq_zero_iff hr hmerge
    rw [hperm.any_eq] at hzero
    cases hchunk : chunk.any (o.fails t) with
    | true =>
      have hstop : 0 < (r.merge part).failureCount := by
        rw [Nat.pos_iff_ne_zero, Ne, hzero, hchunk]
        exact Bool.true_eq_false.mp
      refine ⟨jobs.map Job.path, ?_, ?_⟩
      · rwa [if_pos rfl, List.flatten_singleton]
      · simp only [h, hstop, decide_true, Bool.and_self, if_true]
        exact hmerge
    | false =>
      have hgo : (r.merge part).failureCount = 0 := hzero.mpr hchunk
      rcases ih (index + 1) (List.length_eq_zero_iff.mp hgo) s' with ⟨done, hdone, hrest⟩
      refine ⟨jobs.map Job.path ++ done, hperm.append hdone, ?_⟩
      simp only [hgo, Nat.lt_irrefl, decide_false, Bool.and_false, Bool.false_eq_true, if_false]
      rw [hrest, hmerge, BatchResult.addAll, BatchResult.addAll, BatchResult.addAll,
        List.foldl_append]

/-! ## The files worked on -/

theorem Ordered.take (h : Ordered paths) (count : Nat) : Ordered (paths.take count) where
  pairwise := h.pairwise.sublist (List.take_sublist _ _)
  eq_of_same p hp q hq := h.eq_of_same p (List.mem_of_mem_take hp) q (List.mem_of_mem_take hq)

/-- How many files several workers work on if the file at place `j` is the first that fails. -/
def reach (o : BatchOptions) (files j : Nat) : Nat :=
  (j / chunkSize files (max 1 o.threads) + 1) * chunkSize files (max 1 o.threads)

theorem lt_reach (o : BatchOptions) (files j : Nat) : j < o.reach files j :=
  Nat.lt_mul_of_div_lt (Nat.lt_succ_self _) (chunkSize_pos _ _)

/-- Of the files that are found those of `done` are worked on, each once, and what comes of them is
the result. -/
structure WorksOn (o : BatchOptions) (t : FileTree) (paths done : List FilePath) (r : BatchResult) :
    Prop where
  succeeded : r.untimed.succeeded =
    BatchResult.picked (fun p => (Listing.fileOutcome o.settings t p).toOption) done
  failed : r.failed =
    BatchResult.picked (fun p => BatchResult.error? (Listing.fileOutcome o.settings t p)) done
  processed : r.processed = done.length
  discovered : r.discovered = paths.length

theorem worksOn_of_untimed {r : BatchResult} (h : r.untimed =
    BatchResult.addAll (Listing.fileOutcome o.settings t) { discovered := paths.length } done) :
    o.WorksOn t paths done r := by
  rw [BatchResult.addAll_eq] at h
  refine ⟨congrArg BatchResult.succeeded h, congrArg BatchResult.failed h, ?_,
    congrArg BatchResult.discovered h⟩
  exact (congrArg BatchResult.processed h).trans (Nat.zero_add _)

/-- Each file has one outcome, a result or an error. -/
theorem length_picked_add_length_picked {ε α : Type} (outcome : FilePath → Except ε α)
    (files : List FilePath) :
    (BatchResult.picked (fun p => (outcome p).toOption) files).length +
      (BatchResult.picked (fun p => BatchResult.error? (outcome p)) files).length =
        files.length := by
  induction files with
  | nil => rfl
  | cons p files ih =>
    cases hp : outcome p <;>
      simp only [BatchResult.picked, List.filterMap_cons, hp, Except.toOption, BatchResult.error?,
        Option.map_some, Option.map_none, List.length_cons] at ih ⊢ <;> omega

/-- Each file worked on counts as a success or as a failure. -/
theorem WorksOn.counts {r : BatchResult} (h : o.WorksOn t paths done r) (hdone : done <+: paths) :
    r.successCount + r.failureCount = r.processed ∧ r.processed ≤ r.discovered := by
  have hsucceeded : r.successCount = r.untimed.succeeded.length := (List.length_map _).symm
  rw [hsucceeded, h.succeeded, BatchResult.failureCount, h.failed,
    length_picked_add_length_picked, h.processed, h.discovered]
  exact ⟨rfl, hdone.length_le⟩

theorem exists_runSequential (h : (o.sources t directory).2 = .ok paths) (s : Diagnostics.Session) :
    ∃ r s', (o.runSequential t directory s).1 = .ok r ∧ r.untimed =
      (o.runJobs t paths.length (Job.number 0 paths) { discovered := paths.length } s').1.untimed := by
  rcases hsources : o.sources t directory with ⟨reports, result⟩
  rw [hsources] at h
  cases h
  simp only [runSequential, discover, hsources]
  exact ⟨_, _, rfl, rfl⟩

theorem exists_runParallel (h : (o.sources t directory).2 = .ok paths)
    (schedules : Nat → Schedule) (s : Diagnostics.Session) :
    ∃ r s', (o.runParallel t schedules directory s).1 = .ok r ∧ r.untimed =
      (o.runChunks t schedules (max 1 o.threads) (chunkSize paths.length (max 1 o.threads)) 0
        (chunks (chunkSize paths.length (max 1 o.threads)) paths)
        { discovered := paths.length } s').1.untimed.sorted := by
  rcases hsources : o.sources t directory with ⟨reports, result⟩
  rw [hsources] at h
  cases h
  simp only [runParallel, discover, hsources]
  exact ⟨_, _, rfl, BatchResult.untimed_sorted _⟩

/-- The front of the files that one worker works on. -/
theorem runSequential_worksOn (h : (o.sources t directory).2 = .ok paths) (s : Diagnostics.Session) :
    ∃ r, (o.runSequential t directory s).1 = .ok r ∧ o.WorksOn t paths
      (if o.failFast then paths.take (paths.findIdx (o.fails t) + 1) else paths) r := by
  rcases exists_runSequential h s with ⟨r, s', hrun, hr⟩
  refine ⟨r, hrun, worksOn_of_untimed ?_⟩
  cases hfast : o.failFast with
  | true =>
    rw [hr, untimed_runJobs_failFast hfast, map_path_number]
    rfl
  | false =>
    rw [hr, untimed_runJobs hfast, map_path_number]
    rfl

/-- The front of the files that several workers work on. -/
theorem runParallel_worksOn (h : (o.sources t directory).2 = .ok paths)
    (schedules : Nat → Schedule) (s : Diagnostics.Session) :
    ∃ r, (o.runParallel t schedules directory s).1 = .ok r ∧ o.WorksOn t paths
      (if o.failFast then paths.take (o.reach paths.length (paths.findIdx (o.fails t))) else paths)
      r := by
  rcases exists_runParallel h schedules s with ⟨r, s', hrun, hr⟩
  refine ⟨r, hrun, worksOn_of_untimed ?_⟩
  have hordered : Ordered paths := ordered_sources h
  have hsize := chunkSize_pos paths.length (max 1 o.threads)
  have hthreads : 0 < max 1 o.threads := Nat.le_max_left 1 o.threads
  cases hfast : o.failFast with
  | true =>
    have hruns := untimed_runChunks_failFast hfast schedules hthreads
      (chunkSize paths.length (max 1 o.threads)) 0
      (chunks (chunkSize paths.length (max 1 o.threads)) paths)
      (t := t) (r := { discovered := paths.length }) rfl s'
    obtain ⟨done, hdone, hruns⟩ := hruns
    rw [chunksUntilFailure, chunks, flatten_take_chunksFrom _ hsize (Nat.le_refl _)] at hdone
    rw [hr, hruns]
    exact BatchResult.sorted_addAll (hordered.take _) hdone paths.length
  | false =>
    have hperm := (jobOrder_perm schedules hthreads hsize (Nat.le_refl paths.length) 0).map Job.path
    rw [map_path_number] at hperm
    rw [hr, runChunks_eq_runChunk hfast, untimed_runChunk]
    exact BatchResult.sorted_addAll hordered hperm paths.length

/-- What one worker and several make of the files if they stop early. The chunk in which the first
failure lies is worked on to its end. -/
structure StopsEarly (o : BatchOptions) (t : FileTree) (paths : List FilePath)
    (alone together : BatchResult) : Prop where
  outcome : ∀ p id s, (Listing.ofFile o.settings t p id s).1.map Listing.untimed =
    Listing.fileOutcome o.settings t p
  of_failure : ∀ j, paths.findIdx? (o.fails t) = some j → ∃ p e, paths[j]? = some p ∧
    (o.WorksOn t paths (paths.take (j + 1)) alone ∧ alone.failed = [(p, e)]) ∧
    o.WorksOn t paths (paths.take (o.reach paths.length j)) together ∧
    together.processed = min (o.reach paths.length j) paths.length ∧ (p, e) ∈ together.failed
  of_success : paths.findIdx? (o.fails t) = none →
    o.WorksOn t paths paths alone ∧ o.WorksOn t paths paths together

/-- Only the last of the files up to the first failure fails. -/
theorem picked_error_take {j : Nat} (h : paths.findIdx? (o.fails t) = some j) :
    ∃ p e, paths[j]? = some p ∧ p ∈ paths.take (j + 1) ∧
      BatchResult.error? (Listing.fileOutcome o.settings t p) = some e ∧
      BatchResult.picked (fun p => BatchResult.error? (Listing.fileOutcome o.settings t p))
        (paths.take (j + 1)) = [(p, e)] := by
  obtain ⟨hj, hfirst⟩ := List.findIdx?_eq_some_iff_findIdx_eq.mp h
  have hfails : o.fails t paths[j] = true := by
    obtain ⟨_, hfails, _⟩ := List.findIdx?_eq_some_iff_getElem.mp h
    exact hfails
  have hbefore : (paths.take j).any (o.fails t) = false := by
    have hlength := List.length_take_of_le (Nat.le_of_lt hj)
    have hindex : (paths.take j).findIdx (o.fails t) = (paths.take j).length := by
      rw [List.findIdx_take, hfirst, hlength, Nat.min_self]
    simpa using List.findIdx_eq_length.mp hindex
  rcases Option.isSome_iff_exists.mp hfails with ⟨e, he⟩
  have hlast : BatchResult.picked (fun p => BatchResult.error? (Listing.fileOutcome o.settings t p))
      [paths[j]] = [(paths[j], e)] := by
    simp [BatchResult.picked, he]
  refine ⟨paths[j], e, List.getElem?_eq_getElem hj, ?_, he, ?_⟩
  · rw [List.take_succ_eq_append_getElem hj]
    exact List.mem_append_right _ (List.mem_singleton_self _)
  · rw [List.take_succ_eq_append_getElem hj, BatchResult.picked, List.filterMap_append]
    change BatchResult.picked _ _ ++ BatchResult.picked _ _ = _
    rw [picked_error_eq_nil_iff.mpr hbefore, hlast, List.nil_append]

theorem stopsEarly (h : o.failFast) (hfound : (o.sources t directory).2 = .ok paths)
    (schedules : Nat → Schedule) (s s' : Diagnostics.Session) : ∃ alone together,
    (o.runSequential t directory s).1 = .ok alone ∧
      (o.runParallel t schedules directory s').1 = .ok together ∧
      o.StopsEarly t paths alone together := by
  rcases runSequential_worksOn hfound s with ⟨alone, halone, hworks⟩
  rcases runParallel_worksOn hfound schedules s' with ⟨together, htogether, hworks'⟩
  rw [if_pos h] at hworks hworks'
  refine ⟨alone, together, halone, htogether, Listing.untimed_ofFile o.settings t, ?_, ?_⟩
  · intro j hj
    have hindex := (List.findIdx?_eq_some_iff_findIdx_eq.mp hj).2
    rw [hindex] at hworks hworks'
    rcases picked_error_take hj with ⟨p, e, hp, hmem, he, hpicked⟩
    have hreached : p ∈ paths.take (o.reach paths.length j) :=
      (List.take_sublist_take_left (o.lt_reach paths.length j)).mem hmem
    refine ⟨p, e, hp, ⟨hworks, hworks.failed.trans hpicked⟩, hworks',
      hworks'.processed.trans List.length_take, ?_⟩
    rw [hworks'.failed]
    exact List.mem_filterMap.mpr ⟨p, hreached, congrArg (Option.map (p, ·)) he⟩
  · intro hnone
    have hindex := List.findIdx?_eq_none_iff_findIdx_eq.mp hnone
    rw [hindex, List.take_of_length_le (Nat.le_succ _)] at hworks
    rw [hindex, List.take_of_length_le (Nat.le_of_lt (o.lt_reach _ _))] at hworks'
    exact ⟨hworks, hworks'⟩

/-- A batch that stops early works on the front of its files, and any batch counts those that it
works on, no more than are found. -/
theorem failFast_stopsEarly (o : BatchOptions) (t : FileTree) (schedules : Nat → Schedule)
    (directory : FilePath) (s s' : Diagnostics.Session) :
    (o.failFast → ∀ paths, (o.sources t directory).2 = .ok paths → ∃ alone together,
        (o.runSequential t directory s).1 = .ok alone ∧
          (o.runParallel t schedules directory s').1 = .ok together ∧
          o.StopsEarly t paths alone together) ∧
      ∀ r, (o.runSequential t directory s).1 = .ok r ∨
          (o.runParallel t schedules directory s').1 = .ok r →
        r.successCount + r.failureCount = r.processed ∧ r.processed ≤ r.discovered := by
  refine ⟨fun h paths hfound => stopsEarly h hfound schedules s s', ?_⟩
  intro r hr
  rcases hsources : o.sources t directory with ⟨reports, e | paths⟩
  · simp only [runSequential, runParallel, discover, hsources] at hr
    rcases hr with hr | hr <;> cases hr
  · have hfound : (o.sources t directory).2 = .ok paths := congrArg Prod.snd hsources
    have hfront (count : Nat) : (if o.failFast then paths.take count else paths) <+: paths := by
      split
      · exact List.take_prefix count paths
      · exact List.prefix_refl paths
    rcases runSequential_worksOn hfound s with ⟨alone, halone, hworks⟩
    rcases runParallel_worksOn hfound schedules s' with ⟨together, htogether, hworks'⟩
    rcases hr with hr | hr
    · cases halone.symm.trans hr
      exact hworks.counts (hfront _)
    · cases htogether.symm.trans hr
      exact hworks'.counts (hfront _)

/-- Three files, the first of which is empty. -/
def firstEmpty : FileTree where
  root := .directory [("A.java", .file .empty), ("B.java", .file "class B {}".toUTF8),
    ("C.java", .file "class C {}".toUTF8)]
  working := []

/-- Two workers, to whom empty files are failures. -/
def strictPair : BatchOptions :=
  { threads := 2, failFast := true, settings := { files := { rejectEmpty := true } } }

theorem sources_firstEmpty :
    (strictPair.sources firstEmpty ⟨"/"⟩).2 = .ok [⟨"/A.java"⟩, ⟨"/B.java"⟩, ⟨"/C.java"⟩] := by
  have hdirectory : firstEmpty.isDirectory ⟨"/"⟩ := by decide +kernel
  have hfound : firstEmpty.sources true ⟨"/"⟩ = .ok [⟨"/A.java"⟩, ⟨"/B.java"⟩, ⟨"/C.java"⟩] := rfl
  have horder : inOrder [⟨"/A.java"⟩, ⟨"/B.java"⟩, ⟨"/C.java"⟩] =
      [⟨"/A.java"⟩, ⟨"/B.java"⟩, ⟨"/C.java"⟩] :=
    List.mergeSort_of_pairwise (by decide +kernel)
  simp [sources, strictPair, hdirectory, hfound, limited, horder, fileLimit]

/-- One worker stops at the empty file, while two also work on the other file of its chunk. -/
theorem failFast_stopsEarly_firstEmpty : ∃ alone together,
    (strictPair.runSequential firstEmpty ⟨"/"⟩ {}).1 = .ok alone ∧
      (strictPair.runParallel firstEmpty (fun _ => Schedule.inOrder) ⟨"/"⟩ {}).1 = .ok together ∧
      alone.processed = 1 ∧ together.processed = 2 ∧
      ∃ e, alone.failed = [(⟨"/A.java"⟩, e)] ∧ (⟨"/A.java"⟩, e) ∈ together.failed := by
  have hstops :=
    (failFast_stopsEarly strictPair firstEmpty (fun _ => Schedule.inOrder) ⟨"/"⟩ {} {}).1
  rcases hstops rfl _ sources_firstEmpty with ⟨alone, together, halone, htogether, h⟩
  have hfirst : [⟨"/A.java"⟩, ⟨"/B.java"⟩, ⟨"/C.java"⟩].findIdx? (strictPair.fails firstEmpty) =
      some 0 := by
    decide +kernel
  rcases h.of_failure 0 hfirst with ⟨p, e, hp, ⟨hworks, hfailed⟩, _, hprocessed, hmem⟩
  cases hp
  exact ⟨alone, together, halone, htogether, hworks.processed, hprocessed, e, hfailed, hmem⟩

end BatchOptions
end JavaLex
