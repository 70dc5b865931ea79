import JavaLex.Proofs.Batch.Schedule
import JavaLex.Proofs.Diagnostics.Holding

/-! # A ledger that several workers fill

Events about different files may be recorded in either order while the ledger has room for both. So
workers that share no file leave the same ledger however they take turns, and whoever reads it, file
by file, in the summary or in the report, reads the same.
-/
namespace JavaLex.Diagnostics
open Files

/-! ## The order of details -/

theorem Details.insert_comm {key key' : String} (h : key ≠ key') (value value' : String)
    (details : Details) : Details.insert key value (Details.insert key' value' details) =
      Details.insert key' value' (Details.insert key value details) := by
  induction details with
  | nil => grind [Details.insert]
  | cons detail details ih => grind [Details.insert]

theorem Event.withDetail_comm (e : Event) {key key' : String} (h : key ≠ key')
    (value value' : String) : (e.withDetail key' value').withDetail key value =
      (e.withDetail key value).withDetail key' value' := by
  rw [withDetail, withDetail, withDetail, withDetail]
  dsimp only
  rw [Details.insert_comm h]

/-- Details of different names make the same event in whatever order they come. -/
theorem Event.withDetails_perm (e : Event) {details details' : List (String × String)}
    (h : details.Perm details') (hnames : (details.map (·.1)).Nodup) :
    e.withDetails details = e.withDetails details' := by
  induction h generalizing e with
  | nil => rfl
  | cons detail _ ih =>
    rw [List.map_cons, List.nodup_cons] at hnames
    exact ih (e.withDetail detail.1 detail.2) hnames.2
  | swap detail detail' details =>
    have hne : detail.1 ≠ detail'.1 := by
      simp only [List.map_cons, List.nodup_cons, List.mem_cons, not_or] at hnames
      exact Ne.symm hnames.1.1
    change ((e.withDetail _ _).withDetail _ _).withDetails details = _
    rw [withDetail_comm e hne]
    rfl
  | trans hfirst _ ih ih' =>
    rw [ih e hnames, ih' e ((hfirst.map _).nodup_iff.mp hnames)]

namespace Ledger
variable {l : Ledger} {p q : FilePath} {e e' : Event}
  {queue calls calls' : List (FilePath × Event)}
  {queues front back : List (List (FilePath × Event))}

/-! ## One event and another -/

theorem record_of_room (h : l.size < errorLimit) : l.record p e =
    { l with files := l.files.alter p fun events => append (events.getD #[]) e } := by
  simp [record, Nat.not_le.mpr h]

/-- Each event changes the size that decides on the other, but not past the limit. -/
theorem record_comm (h : p.same q = false) (hroom : l.size + 2 ≤ errorLimit) :
    (l.record q e').record p e = (l.record p e).record q e' := by
  have hfirst : l.size < errorLimit := by omega
  have hsecond (p : FilePath) (e : Event) : (l.record p e).size < errorLimit := by
    rw [size_record hfirst]
    omega
  rw [record_of_room (hsecond q e'), record_of_room (hsecond p e), record_of_room hfirst,
    record_of_room hfirst]
  simp only [PathMap.alter_comm _ h]

theorem recordAll_record_comm (h : ∀ call ∈ calls, call.1.same p = false)
    (hroom : l.size + calls.length + 1 ≤ errorLimit) :
    (l.record p e).recordAll calls = (l.recordAll calls).record p e := by
  induction calls generalizing l with
  | nil => rfl
  | cons call calls ih =>
    rw [List.forall_mem_cons] at h
    rw [List.length_cons] at hroom
    have hsize := size_record (l := l) (p := call.1) (e := call.2) (by omega)
    rw [recordAll_cons, recordAll_cons, record_comm h.1 (by omega), ih h.2 (by omega)]

/-- Where there is room a file gets all events recorded about it, in their order. -/
theorem events_recordAll_about (h : l.size + calls.length ≤ errorLimit) (q : FilePath) :
    (l.recordAll calls).events q = l.events q ++ about q calls := by
  induction calls generalizing l with
  | nil => simp [about]
  | cons call calls ih =>
    rw [List.length_cons] at h
    have hroom : l.size < errorLimit := by omega
    have hsize := size_record (p := call.1) (e := call.2) hroom
    rw [recordAll_cons, ih (by omega)]
    cases hsame : call.1.same q with
    | false => simp [about, hsame, events_record_other hsame]
    | true => simp [about, hsame, ← events_congr _ hsame, events_record hroom]

/-! ## Queues of events -/

/-- No event of the one queue is about a file of the other. -/
def Apart (queue other : List (FilePath × Event)) : Prop :=
  ∀ call ∈ queue, ∀ call' ∈ other, call.1.same call'.1 = false

theorem Apart.symm (h : Apart queue calls) : Apart calls queue := by
  intro call hcall call' hcall'
  rw [FilePath.same_comm]
  exact h call' hcall' call hcall

/-- Queues are still apart when the front of one is taken. -/
theorem apart_of_step {call : FilePath × Event}
    (h : (front ++ (call :: queue) :: back).Pairwise Apart) :
    (front ++ queue :: back).Pairwise Apart := by
  obtain ⟨hfront, hrest, hacross⟩ := List.pairwise_append.mp h
  obtain ⟨hqueue, hback⟩ := List.pairwise_cons.mp hrest
  refine List.pairwise_append.mpr ⟨hfront, List.pairwise_cons.mpr ⟨?_, hback⟩, ?_⟩
  · intro other hother
    exact (List.forall_mem_cons.mp (hqueue other hother)).2
  · intro other hother
    have hothers := List.forall_mem_cons.mp (hacross other hother)
    refine List.forall_mem_cons.mpr ⟨fun call' hcall' => ?_, hothers.2⟩
    exact (List.forall_mem_cons.mp (hothers.1 call' hcall')).2

/-- An event taken from its queue might as well wait for the queues before it. -/
theorem recordAll_interleaved (h : Interleaves queues calls) (hapart : queues.Pairwise Apart)
    (hroom : l.size + calls.length ≤ errorLimit) :
    l.recordAll calls = l.recordAll queues.flatten := by
  induction h generalizing l with
  | nil => rfl
  | @idle front back items _ ih =>
    rw [ih (hapart.sublist ((List.sublist_cons_self [] back).append_left front)) hroom]
    simp
  | @step front back call queue items hrest ih =>
    have hfront : ∀ other ∈ front.flatten, other.1.same call.1 = false := by
      intro other hother
      rcases List.mem_flatten.mp hother with ⟨queue', hqueue', hmem⟩
      have hacross := (List.pairwise_append.mp hapart).2.2 queue' hqueue' _ List.mem_cons_self
      exact hacross other hmem call List.mem_cons_self
    have hlength := hrest.perm.length_eq
    rw [List.flatten_append, List.length_append] at hlength
    rw [List.length_cons] at hroom
    have hsize := size_record (l := l) (p := call.1) (e := call.2) (by omega)
    rw [recordAll_cons, ih (apart_of_step hapart) (by omega), List.flatten_append,
      List.flatten_append, recordAll_append, recordAll_append,
      recordAll_record_comm hfront (by omega)]
    rfl

theorem about_append (q : FilePath) (calls more : List (FilePath × Event)) :
    about q (calls ++ more) = about q calls ++ about q more := by
  rw [about, List.filter_append, List.map_append]
  rfl

/-- What is recorded about a file is all in the queue that is about it. -/
theorem about_flatten (hapart : queues.Pairwise Apart) (hqueue : queue ∈ queues)
    {call : FilePath × Event} (hcall : call ∈ queue) :
    about call.1 queues.flatten = about call.1 queue := by
  rcases List.append_of_mem hqueue with ⟨front, back, rfl⟩
  obtain ⟨_, hrest, hacross⟩ := List.pairwise_append.mp hapart
  have hnone {others : List (List (FilePath × Event))} (h : ∀ other ∈ others, Apart other queue) :
      about call.1 others.flatten = [] := by
    rw [about, List.map_eq_nil_iff, List.filter_eq_nil_iff]
    intro other hother
    rcases List.mem_flatten.mp hother with ⟨queue', hqueue', hmem⟩
    rw [h queue' hqueue' other hmem call hcall]
    exact Bool.false_ne_true
  have hfront := hnone fun other hother => hacross other hother queue List.mem_cons_self
  have hback := hnone fun other hother => ((List.pairwise_cons.mp hrest).1 other hother).symm
  rw [List.flatten_append, List.flatten_cons, about_append, about_append, hfront, hback,
    List.nil_append, List.append_nil]

/-- There is nothing to tell the ledgers apart by: neither the files with their events, nor the
summary, nor the report on the same sources. -/
structure Alike (l l' : Ledger) : Prop where
  toList : l.toList = l'.toList
  events : ∀ p, l.events p = l'.events p
  summary : l.summary = l'.summary
  report : ∀ sources, { l with sources }.report = { l' with sources }.report

/-- However workers that share no file take turns, every file has what its worker recorded, in that
order, and the ledgers are alike. Nor does the order count in which an event got its details. -/
theorem alike_of_interleaves (hapart : queues.Pairwise Apart)
    (hroom : l.size + queues.flatten.length ≤ errorLimit) (h : Interleaves queues calls)
    (h' : Interleaves queues calls') :
    (∀ queue ∈ queues, ∀ call ∈ queue,
        (l.recordAll calls).events call.1 = l.events call.1 ++ about call.1 queue) ∧
      Alike (l.recordAll calls) (l.recordAll calls') ∧
      ∀ (e : Event) (details details' : List (String × String)), details.Perm details' →
        (details.map (·.1)).Nodup → e.withDetails details = e.withDetails details' := by
  have hlength := h.perm.length_eq
  have hlength' := h'.perm.length_eq
  have hsame : l.recordAll calls = l.recordAll calls' := by
    rw [recordAll_interleaved h hapart (by omega), recordAll_interleaved h' hapart (by omega)]
  refine ⟨?_, ?_, fun e _ _ => e.withDetails_perm⟩
  · intro queue hqueue call hcall
    rw [recordAll_interleaved h hapart (by omega), events_recordAll_about hroom,
      about_flatten hapart hqueue hcall]
  · rw [hsame]
    exact ⟨rfl, fun _ => rfl, rfl, fun _ => rfl⟩

/-- What is recorded about three files, the first two of them with the same worker. -/
def unclosedComment : FilePath × Event :=
  (⟨"src/A.java"⟩, .error Code.invalidComment "Invalid comment")

def filesRead : FilePath × Event :=
  (⟨"src/C.java"⟩, .success Code.fileRead "File read")

def largeFile : FilePath × Event :=
  (⟨"src/B.java"⟩, .warning Code.largeFile "Large source file")

theorem alike_of_interleaves_twoWorkers :
    [[unclosedComment, filesRead], [largeFile]].Pairwise Apart ∧
      Interleaves [[unclosedComment, filesRead], [largeFile]]
        [unclosedComment, filesRead, largeFile] ∧
      Interleaves [[unclosedComment, filesRead], [largeFile]]
        [largeFile, unclosedComment, filesRead] ∧
      events (recordAll {} [unclosedComment, filesRead, largeFile]) ⟨"src//A.java"⟩ =
        [unclosedComment.2] ∧
      Alike (recordAll {} [unclosedComment, filesRead, largeFile])
        (recordAll {} [largeFile, unclosedComment, filesRead]) ∧
      largeFile.2.withDetails [("file", "src/B.java"), ("size_human", "2.00 MB")] =
        largeFile.2.withDetails [("size_human", "2.00 MB"), ("file", "src/B.java")] := by
  have hapart : [[unclosedComment, filesRead], [largeFile]].Pairwise Apart := by
    simp only [List.pairwise_pair, Apart, List.forall_mem_cons]
    decide
  have h := Schedule.run_interleaves Schedule.inOrder [[unclosedComment, filesRead], [largeFile]]
  have h' := Schedule.run_interleaves (fun n => 1 - n) [[unclosedComment, filesRead], [largeFile]]
  have hroom :
      size {} + [[unclosedComment, filesRead], [largeFile]].flatten.length ≤ errorLimit := by
    decide
  obtain ⟨hevents, halike, hdetails⟩ := alike_of_interleaves hapart hroom h h'
  have hspelled : unclosedComment.1.same ⟨"src//A.java"⟩ := by decide
  have habout : about unclosedComment.1 [unclosedComment, filesRead] = [unclosedComment.2] := by
    have hother : filesRead.1.same unclosedComment.1 = false := by decide
    simp [about, hother]
  have hfiled := hevents _ List.mem_cons_self _ List.mem_cons_self
  rw [habout, events_congr _ hspelled] at hfiled
  exact ⟨hapart, h, h', hfiled, halike, hdetails _ _ _ (.swap ..) (by decide)⟩

end Ledger
end JavaLex.Diagnostics
