import JavaLex.Batch.Basic
import JavaLex.Proofs.Batch.Schedule

/-! # How a batch is shared out

The files are cut into chunks and each chunk into the shares of its workers. Neither cut loses or
repeats a file, and although each worker numbers its files itself, every file gets its place among
all of them. So whatever the schedules, the jobs that are done are those of a single worker, in
another order.
-/
namespace JavaLex
open Files

namespace Job

theorem number_append (first : Nat) (paths more : List FilePath) :
    number first (paths ++ more) = number first paths ++ number (first + paths.length) more := by
  induction paths generalizing first with
  | nil => rfl
  | cons p paths ih =>
    rw [List.cons_append, number, number, ih, List.length_cons, Nat.add_assoc, Nat.add_comm 1]
    rfl

theorem number_eq_mapIdx (first : Nat) (paths : List FilePath) :
    number first paths = paths.mapIdx fun index p => ⟨first + index, p⟩ := by
  induction paths generalizing first with
  | nil => rfl
  | cons p paths ih =>
    rw [number, ih, List.mapIdx_cons]
    simp only [Nat.add_zero, Nat.add_assoc, Nat.add_comm 1]

/-- Files numbered run by run have the numbers that they have all together. -/
theorem number_take_drop (first n : Nat) (paths : List FilePath) :
    number first (paths.take n) ++ number (first + n) (paths.drop n) = number first paths := by
  have happend := number_append first (paths.take n) (paths.drop n)
  rw [List.take_append_drop] at happend
  rw [happend]
  by_cases h : n ≤ paths.length
  · rw [List.length_take_of_le h]
  · rw [List.drop_of_length_le (by omega)]
    rfl

end Job

section Chunks
variable {α : Type} {n : Nat}

theorem chunksFrom_cons (n count : Nat) (a : α) (items : List α) :
    chunksFrom n (count + 1) (a :: items) =
      (a :: items).take n :: chunksFrom n count ((a :: items).drop n) := rfl

theorem length_chunksFrom_le {count k : Nat} {items : List α} (h : items.length ≤ k * n) :
    (chunksFrom n count items).length ≤ k := by
  induction count generalizing items k with
  | zero => exact Nat.zero_le k
  | succ count ih =>
    cases items with
    | nil => exact Nat.zero_le k
    | cons a items =>
      cases k with
      | zero =>
        rw [Nat.zero_mul] at h
        cases h
      | succ k =>
        rw [chunksFrom_cons, List.length_cons]
        apply Nat.succ_le_succ
        apply ih
        rw [List.length_drop]
        rw [Nat.succ_mul] at h
        omega

/-- Chunks that number their files from their own place on number them all. -/
theorem flatten_number_chunksFrom (hn : 0 < n) {count : Nat} {paths : List FilePath}
    (h : paths.length ≤ count) (first : Nat) :
    ((chunksFrom n count paths).mapIdx fun index chunk =>
      Job.number (first + index * n) chunk).flatten = Job.number first paths := by
  induction count generalizing paths first with
  | zero =>
    rw [List.length_eq_zero_iff.mp (Nat.le_zero.mp h)]
    rfl
  | succ count ih =>
    cases paths with
    | nil => rfl
    | cons p paths =>
      have hdrop : ((p :: paths).drop n).length ≤ count := by
        rw [List.length_drop]
        omega
      have hnumber : (fun index chunk => Job.number (first + (index + 1) * n) chunk) =
          fun index chunk => Job.number (first + n + index * n) chunk := by
        funext index chunk
        rw [Nat.succ_mul, Nat.add_assoc, Nat.add_comm n]
      rw [chunksFrom_cons, List.mapIdx_cons, List.flatten_cons, hnumber, ih hdrop, Nat.zero_mul,
        Nat.add_zero, Job.number_take_drop]

end Chunks

namespace BatchOptions

theorem le_mul_ceilDiv {n d : Nat} (h : 0 < d) : n ≤ d * ceilDiv n d := by
  have hdiv := Nat.div_add_mod (n + d - 1) d
  have hmod := Nat.mod_lt (n + d - 1) h
  rw [ceilDiv]
  omega

theorem ceilDiv_pos {n d : Nat} (hn : 0 < n) (hd : 0 < d) : 0 < ceilDiv n d :=
  Nat.div_pos (by omega) hd

/-- The shares of a chunk hold its files once each, with the numbers of their places. -/
theorem flatten_shares {threads : Nat} (h : 0 < threads) (first : Nat) (chunk : List FilePath) :
    (shares threads first chunk).flatten = Job.number first chunk := by
  cases chunk with
  | nil => rfl
  | cons p paths =>
    have hsize := ceilDiv_pos (Nat.succ_pos paths.length) h
    rw [shares, List.length_cons, Nat.max_eq_right hsize]
    exact flatten_number_chunksFrom hsize (Nat.le_refl _) first

theorem length_shares_le {threads : Nat} (h : 0 < threads) (first : Nat) (chunk : List FilePath) :
    (shares threads first chunk).length ≤ threads := by
  rw [shares, List.length_mapIdx]
  apply length_chunksFrom_le
  apply Nat.le_trans (le_mul_ceilDiv h)
  exact Nat.mul_le_mul_left threads (Nat.le_max_right _ _)

/-- The jobs in the order in which they are done, from a chunk on. -/
def jobOrder (schedules : Nat → Schedule) (threads size : Nat) :
    Nat → List (List FilePath) → List Job
  | _, [] => []
  | index, chunk :: rest =>
    (schedules index).run (shares threads (index * size) chunk) ++
      jobOrder schedules threads size (index + 1) rest

theorem jobOrder_perm (schedules : Nat → Schedule) {threads size : Nat} (hthreads : 0 < threads)
    (hsize : 0 < size) {count : Nat} {paths : List FilePath} (h : paths.length ≤ count)
    (index : Nat) : (jobOrder schedules threads size index (chunksFrom size count paths)).Perm
      (Job.number (index * size) paths) := by
  induction count generalizing paths index with
  | zero =>
    rw [List.length_eq_zero_iff.mp (Nat.le_zero.mp h)]
    exact .nil
  | succ count ih =>
    cases paths with
    | nil => exact .nil
    | cons p paths =>
      have hdrop : ((p :: paths).drop size).length ≤ count := by
        rw [List.length_drop]
        omega
      have hrun := ((schedules index).run_interleaves
        (shares threads (index * size) ((p :: paths).take size))).perm
      rw [flatten_shares hthreads] at hrun
      have hrest := ih hdrop (index + 1)
      rw [Nat.succ_mul] at hrest
      rw [chunksFrom_cons, jobOrder, ← Job.number_take_drop (index * size) size]
      exact hrun.append hrest

end BatchOptions
end JavaLex
