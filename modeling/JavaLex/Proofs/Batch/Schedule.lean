import JavaLex.Batch.Schedule

/-! # Schedules and interleavings

The order in which a schedule lets queues be worked off is an interleaving of them, and every
interleaving is the order of some schedule. Either way all items of the queues are in it.
-/
namespace JavaLex
variable {α : Type} {queues front back : List (List α)} {items : List α}

/-- The items are those of the queues, each queue in its own order. -/
inductive Interleaves : List (List α) → List α → Prop where
  | nil : Interleaves [] []
  | idle {front back : List (List α)} {items : List α} :
      Interleaves (front ++ back) items → Interleaves (front ++ [] :: back) items
  | step {front back : List (List α)} {a : α} {queue items : List α} :
      Interleaves (front ++ queue :: back) items →
      Interleaves (front ++ (a :: queue) :: back) (a :: items)

/-- The queues that are not worked off. -/
def busy (queues : List (List α)) : List (List α) :=
  queues.filter (!·.isEmpty)

@[simp] theorem busy_append (front back : List (List α)) :
    busy (front ++ back) = busy front ++ busy back :=
  List.filter_append ..

@[simp] theorem busy_cons_nil (queues : List (List α)) : busy ([] :: queues) = busy queues := rfl

@[simp] theorem busy_cons_cons (a : α) (queue : List α) (queues : List (List α)) :
    busy ((a :: queue) :: queues) = (a :: queue) :: busy queues := rfl

@[simp] theorem busy_busy (queues : List (List α)) : busy (busy queues) = busy queues := by
  simp [busy]

theorem flatten_busy (queues : List (List α)) : (busy queues).flatten = queues.flatten :=
  List.flatten_filter_not_isEmpty

theorem busy_eq_nil_iff : busy queues = [] ↔ queues.flatten = [] := by
  simp [busy, List.flatten_eq_nil_iff, List.filter_eq_nil_iff]

/-- Among the busy queues each has a front to take. -/
theorem exists_front_of_busy {n : Nat} (h : n < (busy queues).length) :
    ∃ front a queue back, busy queues = front ++ (a :: queue) :: back ∧ front.length = n := by
  have hmem : (busy queues)[n] ∈ busy queues := List.getElem_mem h
  have hsplit : busy queues = (busy queues).take n ++ (busy queues)[n] :: (busy queues).drop (n + 1) := by
    rw [← List.drop_eq_getElem_cons h, List.take_append_drop]
  have hlength : ((busy queues).take n).length = n := List.length_take_of_le (Nat.le_of_lt h)
  cases hqueue : (busy queues)[n] with
  | nil =>
    rw [hqueue] at hmem
    simp [busy] at hmem
  | cons a queue =>
    rw [hqueue] at hsplit
    exact ⟨_, a, queue, _, hsplit, hlength⟩

namespace Interleaves

theorem perm (h : Interleaves queues items) : items.Perm queues.flatten := by
  induction h with
  | nil => exact .nil
  | idle _ ih => simpa using ih
  | step _ ih =>
    rw [List.flatten_append, List.flatten_cons] at ih ⊢
    exact (ih.cons _).trans List.perm_middle.symm

theorem append_of_busy (front : List (List α)) (h : Interleaves (front ++ busy back) items) :
    Interleaves (front ++ back) items := by
  induction back generalizing front with
  | nil => exact h
  | cons queue back ih =>
    cases queue with
    | nil => exact .idle (ih front h)
    | cons a queue =>
      rw [busy_cons_cons, List.append_cons] at h
      rw [List.append_cons]
      exact ih _ h

/-- Queues that are worked off make no difference. -/
theorem of_busy (h : Interleaves (busy queues) items) : Interleaves queues items :=
  append_of_busy [] h

end Interleaves

namespace Schedule

theorem takeFront_append (front : List (List α)) (a : α) (queue : List α) (back : List (List α)) :
    takeFront front.length (front ++ (a :: queue) :: back) =
      some (a, front ++ queue :: back) := by
  induction front with
  | nil => rfl
  | cons first front ih => simp [takeFront, ih]

theorem runFrom_succ (schedule : Schedule) (left step : Nat) (queues : List (List α)) :
    schedule.runFrom (left + 1) step queues =
      match takeFront (schedule step % (busy queues).length) (busy queues) with
      | none => []
      | some (a, queues) => a :: schedule.runFrom left (step + 1) queues := rfl

theorem run_eq_runFrom (schedule : Schedule) (queues : List (List α)) :
    schedule.run queues = schedule.runFrom queues.flatten.length 0 queues := by
  rw [List.length_flatten]
  rfl

/-- One step takes the front of a queue that is not worked off. -/
theorem runFrom_of_busy {schedule : Schedule} {step : Nat} {a : α} {queue : List α} (left : Nat)
    (hbusy : busy queues = front ++ (a :: queue) :: back)
    (hstep : schedule step % (busy queues).length = front.length) :
    schedule.runFrom (left + 1) step queues =
      a :: schedule.runFrom left (step + 1) (front ++ queue :: back) := by
  rw [runFrom_succ, hstep, hbusy, takeFront_append]

theorem runFrom_busy (schedule : Schedule) (left step : Nat) (queues : List (List α)) :
    schedule.runFrom left step (busy queues) = schedule.runFrom left step queues := by
  cases left with
  | zero => rfl
  | succ left => rw [runFrom_succ, runFrom_succ, busy_busy]

theorem run_busy (schedule : Schedule) (queues : List (List α)) :
    schedule.run (busy queues) = schedule.run queues := by
  rw [run_eq_runFrom, run_eq_runFrom, runFrom_busy, flatten_busy]

/-- Only the turns to come count. -/
theorem runFrom_congr {schedule other : Schedule} {step start : Nat}
    (h : ∀ n, schedule (step + n) = other (start + n)) (left : Nat) (queues : List (List α)) :
    schedule.runFrom left step queues = other.runFrom left start queues := by
  induction left generalizing step start queues with
  | zero => rfl
  | succ left ih =>
    have hturn : schedule step = other start := h 0
    have hrest : ∀ n, schedule (step + 1 + n) = other (start + 1 + n) := by
      intro n
      rw [Nat.add_assoc, Nat.add_assoc, h (1 + n)]
    rw [runFrom_succ, runFrom_succ, hturn]
    split
    · rfl
    · rw [ih hrest]

theorem runFrom_interleaves (schedule : Schedule) (left step : Nat) (queues : List (List α))
    (h : queues.flatten.length = left) : Interleaves queues (schedule.runFrom left step queues) := by
  induction left generalizing step queues with
  | zero =>
    apply Interleaves.of_busy
    rw [busy_eq_nil_iff.mpr (List.length_eq_zero_iff.mp h)]
    exact .nil
  | succ left ih =>
    have hbusy : busy queues ≠ [] := by
      rw [Ne, busy_eq_nil_iff]
      exact List.ne_nil_of_length_eq_add_one h
    have hturn := Nat.mod_lt (schedule step) (List.length_pos_iff.mpr hbusy)
    rcases exists_front_of_busy hturn with ⟨front, a, queue, back, hsplit, hfront⟩
    rw [← flatten_busy, hsplit] at h
    apply Interleaves.of_busy
    rw [runFrom_of_busy left hsplit hfront.symm, hsplit]
    apply Interleaves.step
    apply ih
    simp only [List.flatten_append, List.flatten_cons, List.length_append, List.length_cons] at h ⊢
    omega

theorem run_interleaves (schedule : Schedule) (queues : List (List α)) :
    Interleaves queues (schedule.run queues) := by
  rw [run_eq_runFrom]
  exact schedule.runFrom_interleaves _ 0 queues rfl

/-- A schedule whose first turn is chosen. -/
def cons (turn : Nat) (schedule : Schedule) : Schedule
  | 0 => turn
  | n + 1 => schedule n

theorem exists_schedule (h : Interleaves queues items) :
    ∃ schedule : Schedule, schedule.run queues = items := by
  induction h with
  | nil => exact ⟨inOrder, rfl⟩
  | @idle front back items _ ih =>
    rcases ih with ⟨schedule, rfl⟩
    refine ⟨schedule, ?_⟩
    rw [← schedule.run_busy, ← schedule.run_busy (front ++ back), busy_append, busy_cons_nil,
      busy_append]
  | @step front back a queue items _ ih =>
    rcases ih with ⟨schedule, rfl⟩
    -- Turns count busy queues only, so the queue comes behind the busy ones in front of it.
    refine ⟨schedule.cons (busy front).length, ?_⟩
    have hbusy : busy (front ++ (a :: queue) :: back) = busy front ++ (a :: queue) :: busy back := by
      rw [busy_append, busy_cons_cons]
    have hturn : schedule.cons (busy front).length 0 %
        (busy (front ++ (a :: queue) :: back)).length = (busy front).length := by
      apply Nat.mod_eq_of_lt
      rw [hbusy, List.length_append, List.length_cons]
      exact Nat.lt_add_of_pos_right (Nat.succ_pos _)
    have hlength : (front ++ (a :: queue) :: back).flatten.length =
        (front ++ queue :: back).flatten.length + 1 := by
      simp only [List.flatten_append, List.flatten_cons, List.length_append, List.length_cons]
      omega
    have hrest : busy (busy front ++ queue :: busy back) = busy (front ++ queue :: back) := by
      cases queue <;> simp
    have hcongr : ∀ n, schedule.cons (busy front).length (0 + 1 + n) = schedule (0 + n) := by
      intro n
      rw [Nat.zero_add, Nat.zero_add, Nat.add_comm]
      rfl
    rw [run_eq_runFrom, run_eq_runFrom, hlength, runFrom_of_busy _ hbusy hturn,
      runFrom_congr hcongr, ← runFrom_busy, hrest, runFrom_busy]

end Schedule

/-- The orders in which queues can be worked off are their interleavings. -/
theorem interleaves_iff : Interleaves queues items ↔ ∃ schedule : Schedule, schedule.run queues = items := by
  constructor
  · exact Schedule.exists_schedule
  · rintro ⟨schedule, rfl⟩
    exact schedule.run_interleaves queues

end JavaLex
