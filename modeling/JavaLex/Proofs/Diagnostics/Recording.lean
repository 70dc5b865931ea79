import JavaLex.Diagnostics.Summary

/-! # What a ledger records

An event goes to the events of its own file and to no others. While the ledger holds fewer events
than the limit on errors, it keeps everything. Past that limit an error is refused, whatever the
events are that fill the ledger: warnings and news count like errors.
-/
namespace JavaLex.Diagnostics
open Files

namespace Ledger
variable {l : Ledger} {p q : FilePath} {e : Event}

/-- Events filed one after the other, each with the file that it is about. -/
def recordAll (l : Ledger) (calls : List (FilePath × Event)) : Ledger :=
  calls.foldl (fun l call => l.record call.1 call.2) l

@[simp] theorem recordAll_nil (l : Ledger) : l.recordAll [] = l := rfl

@[simp] theorem recordAll_cons (l : Ledger) (call : FilePath × Event)
    (calls : List (FilePath × Event)) :
    l.recordAll (call :: calls) = (l.record call.1 call.2).recordAll calls := rfl

theorem recordAll_append (l : Ledger) (calls more : List (FilePath × Event)) :
    l.recordAll (calls ++ more) = (l.recordAll calls).recordAll more :=
  List.foldl_append

/-- The events of a file do not depend on how its path is spelled. -/
theorem events_congr (l : Ledger) (h : p.same q) : l.events p = l.events q := by
  rw [events, l.files.find?_congr h, events]

/-! ## One event -/

theorem record_of_refused (hsize : errorLimit ≤ l.size) (he : e.isError) : l.record p e = l := by
  simp [record, hsize, he]

theorem files_record (h : l.size < errorLimit ∨ e.isError = false) :
    (l.record p e).files = l.files.alter p fun events => append (events.getD #[]) e := by
  have hrefused : (decide (errorLimit ≤ l.size) && e.isError) = false := by
    rcases h with h | h
    · simp [Nat.not_le.mpr h]
    · simp [h]
  simp [record, hrefused]

theorem events_record_other (h : p.same q = false) : (l.record p e).events q = l.events q := by
  unfold record
  split
  · rfl
  · rw [events, PathMap.find?_alter, h]
    rfl

/-- What is filed goes to the end of the events of the file, if they are not too many. -/
theorem events_record_self (h : l.size < errorLimit ∨ e.isError = false) :
    (l.record p e).events p = (append ((l.files.find? p).getD #[]) e).toList := by
  rw [events, files_record h, PathMap.find?_alter, FilePath.same_refl]
  rfl

/-- A file without events counts like one whose events are none. -/
theorem elim_find? (l : Ledger) (p : FilePath) (count : List Event → Nat) (hnone : count [] = 0) :
    (l.files.find? p).elim 0 (fun events => count events.toList) = count (l.events p) := by
  unfold events
  cases l.files.find? p with
  | none => exact hnone.symm
  | some events => rfl

theorem length_events (l : Ledger) (p : FilePath) :
    (l.events p).length = (l.files.find? p).elim 0 Array.size :=
  (l.elim_find? p List.length rfl).symm

theorem length_events_le_size (l : Ledger) (p : FilePath) : (l.events p).length ≤ l.size := by
  rw [length_events]
  exact l.files.elim_le_total p Array.size

theorem events_record_of_length (h : l.size < errorLimit ∨ e.isError = false)
    (hlength : (l.events p).length < fileLimit) :
    (l.record p e).events p = l.events p ++ [e] := by
  have hsize : ((l.files.find? p).getD #[]).size < fileLimit := hlength
  rw [events_record_self h, append, if_pos hsize, Array.toList_push]
  rfl

/-- While the ledger is not full, it keeps every event. -/
theorem events_record (h : l.size < errorLimit) : (l.record p e).events p = l.events p ++ [e] :=
  events_record_of_length (.inl h) (Nat.lt_of_le_of_lt (l.length_events_le_size p) h)

theorem size_record_of_length (h : l.size < errorLimit ∨ e.isError = false)
    (hlength : (l.events p).length < fileLimit) : (l.record p e).size = l.size + 1 := by
  have htotal := l.files.total_alter p (fun events => append (events.getD #[]) e) Array.size
  have hsize : ((l.files.find? p).getD #[]).size < fileLimit := hlength
  rw [← files_record h, ← length_events] at htotal
  simp only [append, if_pos hsize, Array.size_push] at htotal
  change (l.record p e).size + _ = l.size + ((l.events p).length + 1) at htotal
  omega

theorem size_record (h : l.size < errorLimit) : (l.record p e).size = l.size + 1 :=
  size_record_of_length (.inl h) (Nat.lt_of_le_of_lt (l.length_events_le_size p) h)

/-- The errors that the summary counts are those among the events of each file. -/
theorem summary_errors (l : Ledger) :
    l.summary.errors = l.files.total fun events => events.toList.countP Event.isError := by
  have hfold : ∀ (files : List (FilePath × List Event)) (s : Summary),
      (files.foldl (fun s file => s.add file.2) s).errors =
        s.errors + (files.map fun file => file.2.countP Event.isError).foldr (· + ·) 0 := by
    intro files
    induction files with
    | nil => exact fun _ => rfl
    | cons file files ih =>
      intro s
      rw [List.foldl_cons, ih, List.map_cons, List.foldr_cons, ← Nat.add_assoc]
      rfl
  rw [summary, hfold, toList, List.map_map, PathMap.total]
  exact Nat.zero_add _

theorem errors_record (h : l.size < errorLimit) :
    (l.record p e).summary.errors = l.summary.errors + if e.isError then 1 else 0 := by
  have htotal := l.files.total_alter p (fun events => append (events.getD #[]) e)
    fun events => events.toList.countP Event.isError
  have hsize : ((l.files.find? p).getD #[]).size < fileLimit :=
    Nat.lt_of_le_of_lt (l.length_events_le_size p) h
  have hcount := l.elim_find? p (List.countP Event.isError) rfl
  rw [← files_record (.inl h), hcount, append, if_pos hsize, Array.toList_push,
    List.countP_append, List.countP_singleton, ← summary_errors] at htotal
  change (l.record p e).summary.errors + _ = l.files.total _ + ((l.events p).countP _ + _) at htotal
  rw [summary_errors l]
  omega

/-! ## A run of events -/

/-- The files that no event is about keep their events. -/
theorem events_recordAll_other {calls : List (FilePath × Event)}
    (h : ∀ call ∈ calls, call.1.same q = false) : (l.recordAll calls).events q = l.events q := by
  induction calls generalizing l with
  | nil => rfl
  | cons call calls ih =>
    rw [List.forall_mem_cons] at h
    rw [recordAll_cons, ih h.2, events_record_other h.1]

theorem events_of_files {l' : Ledger} (h : l.files = l'.files) (p : FilePath) :
    l.events p = l'.events p := by
  rw [events, h, events]

theorem files_record_congr {l' : Ledger} (h : l.files = l'.files) :
    (l.record p e).files = (l'.record p e).files := by
  unfold record size
  rw [h]
  split
  · exact h
  · rfl

theorem files_recordAll_congr {l' : Ledger} {calls : List (FilePath × Event)}
    (h : l.files = l'.files) : (l.recordAll calls).files = (l'.recordAll calls).files := by
  induction calls generalizing l l' with
  | nil => exact h
  | cons call calls ih => exact ih (files_record_congr h)

/-- Events of one file for which there is room are filed in order behind those that it has. -/
theorem events_recordAll {events : List Event} (h : l.size + events.length ≤ errorLimit) :
    (l.recordAll (events.map (p, ·))).events p = l.events p ++ events := by
  induction events generalizing l with
  | nil => simp
  | cons e events ih =>
    rw [List.length_cons] at h
    have hroom : l.size < errorLimit := by omega
    rw [List.map_cons, recordAll_cons, ih (by rw [size_record hroom]; omega), events_record hroom,
      List.append_assoc, List.singleton_append]

theorem size_recordAll {calls : List (FilePath × Event)} (h : l.size + calls.length ≤ errorLimit) :
    (l.recordAll calls).size = l.size + calls.length := by
  induction calls generalizing l with
  | nil => rfl
  | cons call calls ih =>
    rw [List.length_cons] at h
    have hroom : l.size < errorLimit := by omega
    have hsize := size_record (p := call.1) (e := call.2) hroom
    rw [recordAll_cons, ih (by omega), hsize, List.length_cons]
    omega

theorem errors_recordAll {calls : List (FilePath × Event)} (h : l.size + calls.length ≤ errorLimit) :
    (l.recordAll calls).summary.errors =
      l.summary.errors + (calls.map (·.2)).countP Event.isError := by
  induction calls generalizing l with
  | nil => rfl
  | cons call calls ih =>
    rw [List.length_cons] at h
    have hroom : l.size < errorLimit := by omega
    rw [recordAll_cons, ih (by rw [size_record hroom]; omega), errors_record hroom, List.map_cons,
      List.countP_cons]
    omega

/-! ## The limit on errors -/

/-- The event comes last in its file once it is filed. -/
def Keeps (l : Ledger) (p : FilePath) (e : Event) : Prop :=
  (l.record p e).events p = l.events p ++ [e]

theorem keeps_iff_of_isError (he : e.isError) : l.Keeps p e ↔ l.size < errorLimit := by
  constructor
  · intro hkeeps
    apply Nat.lt_of_not_le
    intro hfull
    rw [Keeps, record_of_refused hfull he] at hkeeps
    simp at hkeeps
  · exact events_record

/-- The event is lost although the ledger holds fewer errors, and its file fewer events, than the
limits allow. -/
def LosesEarly (l : Ledger) (p : FilePath) (e : Event) : Prop :=
  ¬ l.Keeps p e ∧ l.summary.errors < errorLimit ∧ (l.events p).length < fileLimit

/-- An error is lost early exactly if the ledger is full, but not of errors. -/
theorem losesEarly_iff (calls : List (FilePath × Event)) (p : FilePath) {e : Event}
    (he : e.isError) :
    (recordAll {} calls).LosesEarly p e ↔ errorLimit ≤ (recordAll {} calls).size ∧
      (recordAll {} calls).summary.errors < errorLimit ∧
      ((recordAll {} calls).events p).length < fileLimit := by
  rw [LosesEarly, keeps_iff_of_isError he, Nat.not_lt]

theorem size_le_errors_recordAll {calls : List (FilePath × Event)}
    (hcalls : ∀ call ∈ calls, call.2.isError) (h : l.size ≤ l.summary.errors) :
    (l.recordAll calls).size ≤ (l.recordAll calls).summary.errors := by
  induction calls generalizing l with
  | nil => exact h
  | cons call calls ih =>
    rw [List.forall_mem_cons] at hcalls
    rw [recordAll_cons]
    apply ih hcalls.2
    -- An error that is refused changes neither count, and one that is kept counts in both.
    by_cases hroom : l.size < errorLimit
    · rw [size_record hroom, errors_record hroom, if_pos hcalls.1]
      omega
    · rwa [record_of_refused (Nat.not_lt.mp hroom) hcalls.1]

/-- Among errors alone none is lost early. -/
theorem not_losesEarly_of_errors {calls : List (FilePath × Event)}
    (hcalls : ∀ call ∈ calls, call.2.isError) (p : FilePath) (he : e.isError) :
    ¬ (recordAll {} calls).LosesEarly p e := by
  rw [LosesEarly, keeps_iff_of_isError he]
  have hsize := size_le_errors_recordAll (l := {}) hcalls (Nat.le_refl 0)
  omega

/-- As many warnings as there may be errors, all about one file. -/
def manyWarnings : List (FilePath × Event) :=
  (List.replicate errorLimit (.warning Code.plainWarning "Large file")).map (⟨"Noisy.java"⟩, ·)

theorem losesEarly_iff_manyWarnings :
    (Event.error Code.invalidComment "Invalid comment").isError ∧
      ((recordAll {} manyWarnings).LosesEarly ⟨"Broken.java"⟩
          (.error Code.invalidComment "Invalid comment") ↔
        errorLimit ≤ (recordAll {} manyWarnings).size ∧
          (recordAll {} manyWarnings).summary.errors < errorLimit ∧
          ((recordAll {} manyWarnings).events ⟨"Broken.java"⟩).length < fileLimit) :=
  ⟨rfl, losesEarly_iff manyWarnings ⟨"Broken.java"⟩ rfl⟩

/-- After so many warnings the first error is lost, about a file of which nothing was said before,
and this file does not count as failed. -/
theorem losesEarly_manyWarnings :
    (recordAll {} manyWarnings).LosesEarly ⟨"Broken.java"⟩
        (.error Code.invalidComment "Invalid comment") ∧
      (recordAll {} manyWarnings).summary.errors = 0 ∧
      (recordAll {} manyWarnings).events ⟨"Broken.java"⟩ = [] ∧
      ((recordAll {} manyWarnings).record ⟨"Broken.java"⟩
        (.error Code.invalidComment "Invalid comment")).hasErrors ⟨"Broken.java"⟩ = false := by
  have hlength : manyWarnings.length = errorLimit := by
    simp [manyWarnings]
  have hempty : size {} = 0 := rfl
  have hsize : (recordAll {} manyWarnings).size = errorLimit := by
    rw [size_recordAll (by omega), hempty, hlength, Nat.zero_add]
  have herrors : (recordAll {} manyWarnings).summary.errors = 0 := by
    have hwarning : (Event.warning Code.plainWarning "Large file").isError = false := rfl
    have hnone : summary {} = {} := rfl
    rw [errors_recordAll (by omega), hnone]
    simp [manyWarnings, hwarning]
  have hevents : (recordAll {} manyWarnings).events ⟨"Broken.java"⟩ = [] := by
    rw [events_recordAll_other]
    · rfl
    · have hother : (FilePath.mk "Noisy.java").same ⟨"Broken.java"⟩ = false := by decide
      simp [manyWarnings, hother]
  have hrefused := record_of_refused (p := ⟨"Broken.java"⟩)
    (e := .error Code.invalidComment "Invalid comment") (Nat.le_of_eq hsize.symm) rfl
  refine ⟨⟨?_, ?_, ?_⟩, herrors, hevents, ?_⟩
  · rw [keeps_iff_of_isError rfl, hsize]
    exact Nat.lt_irrefl _
  · rw [herrors]
    decide
  · rw [hevents]
    decide
  · rw [hrefused, hasErrors, errors, hevents]
    rfl

end Ledger
end JavaLex.Diagnostics
