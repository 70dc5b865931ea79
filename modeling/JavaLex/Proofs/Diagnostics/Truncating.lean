import JavaLex.Proofs.Diagnostics.Holding

/-! # Files with too many events

While the events recorded are all about one file, it keeps the first of them up to the limit. What
comes after is marked by the last warning exactly if it is not errors alone: an error that comes
when the ledger is full is refused before anybody asks how many events its file has.
-/
namespace JavaLex.Diagnostics
open Files

namespace Ledger
variable {l : Ledger} {p : FilePath} {e : Event} {recorded : List Event}

/-- What a file keeps of the events recorded: the first ones up to the limit, and one last warning
if anything but errors comes after them. -/
def truncated (recorded : List Event) : List Event :=
  recorded.take fileLimit ++
    if (recorded.drop fileLimit).any (!·.isError) then [overflowWarning] else []

theorem truncated_of_length_le (h : recorded.length ≤ fileLimit) : truncated recorded = recorded := by
  rw [truncated, List.take_of_length_le h, List.drop_of_length_le h]
  simp

theorem truncated_concat_error (h : fileLimit ≤ recorded.length) (he : e.isError) :
    truncated (recorded ++ [e]) = truncated recorded := by
  rw [truncated, truncated, List.take_append_of_le_length h, List.drop_append_of_le_length h]
  simp [he]

theorem truncated_concat (h : fileLimit ≤ recorded.length) (he : e.isError = false) :
    truncated (recorded ++ [e]) = recorded.take fileLimit ++ [overflowWarning] := by
  rw [truncated, List.take_append_of_le_length h, List.drop_append_of_le_length h]
  simp [he]

/-- Up to the limit nothing marks what is missing. -/
theorem truncated_cases (h : fileLimit ≤ recorded.length) :
    truncated recorded = recorded.take fileLimit ∧ (truncated recorded).length = fileLimit ∨
      truncated recorded = recorded.take fileLimit ++ [overflowWarning] ∧
        (truncated recorded).length = fileLimit + 1 := by
  have htake : (recorded.take fileLimit).length = fileLimit := by
    rw [List.length_take, Nat.min_eq_left h]
  unfold truncated
  split
  · exact .inr ⟨rfl, by rw [List.length_append, htake, List.length_singleton]⟩
  · exact .inl ⟨List.append_nil _, by rw [List.append_nil, htake]⟩

/-- What an event adds to the ledger it adds to its own file. -/
theorem size_record_add (l : Ledger) (p : FilePath) (e : Event) :
    (l.record p e).size + (l.events p).length = l.size + ((l.record p e).events p).length := by
  rcases record_cases l p e with hrefused | hfiled
  · rw [hrefused]
  · have htotal := l.files.total_alter p (fun events => append (events.getD #[]) e) Array.size
    rw [← files_record hfiled, ← length_events] at htotal
    rw [events_record_self hfiled]
    exact htotal

/-- A ledger with the events of one file only has as many as this file. -/
theorem size_recordAll_of_same {calls : List (FilePath × Event)}
    (h : ∀ call ∈ calls, call.1.same p) (hsize : l.size = (l.events p).length) :
    (l.recordAll calls).size = ((l.recordAll calls).events p).length := by
  induction calls generalizing l with
  | nil => exact hsize
  | cons call calls ih =>
    rw [List.forall_mem_cons] at h
    have hadd := l.size_record_add call.1 call.2
    rw [events_congr l h.1, events_congr _ h.1] at hadd
    rw [recordAll_cons]
    exact ih h.2 (by omega)

/-- One more event about the only file. The limit of the ledger is the one of the file, so errors
are refused from the event on that would have made the last warning. -/
theorem events_record_of_truncated (hsize : l.size = (l.events p).length)
    (h : l.events p = truncated recorded) (e : Event) :
    (l.record p e).events p = truncated (recorded ++ [e]) := by
  have hlimits : errorLimit = fileLimit := rfl
  by_cases hroom : recorded.length < fileLimit
  · rw [truncated_of_length_le (Nat.le_of_lt hroom)] at h
    have hfree : l.size < errorLimit := by
      rw [hsize, h, hlimits]
      exact hroom
    rw [events_record hfree, h, truncated_of_length_le (by simpa [Nat.succ_le_iff] using hroom)]
  · have hfull : fileLimit ≤ recorded.length := Nat.le_of_not_lt hroom
    cases he : e.isError with
    | true =>
      have hmany : errorLimit ≤ l.size := by
        rw [hsize, h, hlimits]
        rcases truncated_cases hfull with ⟨-, hlength⟩ | ⟨-, hlength⟩ <;> omega
      rw [record_of_refused hmany he, h, truncated_concat_error hfull he]
    | false =>
      rw [truncated_concat hfull he]
      rcases truncated_cases hfull with ⟨htruncated, hlength⟩ | ⟨htruncated, hlength⟩
      · rw [events_record_of_full (.inr he) (h ▸ hlength), h, htruncated]
      · rw [events_record_of_beyond (h ▸ hlength), h, htruncated]

theorem events_recordAll_of_same {calls : List (FilePath × Event)}
    (h : ∀ call ∈ calls, call.1.same p) :
    (recordAll {} calls).events p = truncated (calls.map (·.2)) := by
  induction calls using List.reverseRecOn with
  | nil => rfl
  | append_singleton calls call ih =>
    rw [List.forall_mem_append] at h
    have hsame : call.1.same p := h.2 call (List.mem_singleton_self call)
    have hsize := size_recordAll_of_same (l := {}) h.1 rfl
    have hevents := ih h.1
    rw [← events_congr _ hsame] at hsize hevents
    rw [recordAll_append, recordAll_cons, recordAll_nil, List.map_append, ← events_congr _ hsame]
    exact events_record_of_truncated hsize hevents call.2

/-- How a file ends up when these events were recorded about it, and no others. -/
structure Truncates (recorded events : List Event) : Prop where
  /-- The first events are kept, in order, up to the limit. -/
  take_eq : events.take fileLimit = recorded.take fileLimit
  /-- Behind them the last warning marks what is missing. -/
  marked_iff : events = recorded.take fileLimit ++ [overflowWarning] ↔
    ∃ e ∈ recorded.drop fileLimit, e.isError = false
  unmarked_iff : events = recorded.take fileLimit ↔ ∀ e ∈ recorded.drop fileLimit, e.isError
  length_iff : events.length = fileLimit + 1 ↔ ∃ e ∈ recorded.drop fileLimit, e.isError = false

theorem truncates_truncated (recorded : List Event) : Truncates recorded (truncated recorded) := by
  have htake : (recorded.take fileLimit).length ≤ fileLimit := List.length_take_le _ _
  by_cases hother : ∃ e ∈ recorded.drop fileLimit, e.isError = false
  · have hmarked : truncated recorded = recorded.take fileLimit ++ [overflowWarning] := by
      rw [truncated, if_pos (by simpa using hother)]
    have hlength : (recorded.take fileLimit).length = fileLimit := by
      obtain ⟨e, he, -⟩ := hother
      have hpos := List.length_pos_of_mem he
      rw [List.length_drop] at hpos
      rw [List.length_take]
      omega
    rw [hmarked]
    refine ⟨List.take_left' hlength, by simp [hother], ?_, by simp [hlength, hother]⟩
    simpa using hother
  · have hunmarked : truncated recorded = recorded.take fileLimit := by
      rw [truncated, if_neg (by simpa using hother), List.append_nil]
    rw [hunmarked]
    refine ⟨List.take_of_length_le htake, by simp [hother], by simpa using hother, ?_⟩
    constructor
    · intro hlength
      omega
    · exact fun h => absurd h hother

/-- Of the events recorded about one file, those past the limit are marked by the last warning
exactly if they are not errors alone. -/
theorem truncates_recordAll {calls : List (FilePath × Event)} (h : ∀ call ∈ calls, call.1.same p) :
    Truncates (calls.map (·.2)) ((recordAll {} calls).events p) := by
  rw [events_recordAll_of_same h]
  exact truncates_truncated (calls.map (·.2))

/-- News about a file up to the limit. -/
def muchNews : List (FilePath × Event) :=
  (List.replicate fileLimit (.info "Token read")).map (⟨"src/Noisy.java"⟩, ·)

def lateError : FilePath × Event :=
  (⟨"src/Noisy.java"⟩, .error Code.invalidComment "Invalid comment")

/-- News under another spelling of the path. -/
def lastNews : FilePath × Event :=
  (⟨"src//Noisy.java"⟩, .info "Token read")

theorem same_of_mem_muchNews : ∀ call ∈ muchNews, call.1.same ⟨"src/Noisy.java"⟩ := by
  simp [muchNews]

/-- An error is the event that is too many, and the news after it makes the last warning. -/
theorem truncates_recordAll_muchNews :
    (∀ call ∈ muchNews ++ [lateError, lastNews], call.1.same ⟨"src/Noisy.java"⟩) ∧
    Truncates ((muchNews ++ [lateError, lastNews]).map (·.2))
      ((recordAll {} (muchNews ++ [lateError, lastNews])).events ⟨"src/Noisy.java"⟩) := by
  have hsame : ∀ call ∈ muchNews ++ [lateError, lastNews],
      call.1.same ⟨"src/Noisy.java"⟩ := by
    rw [List.forall_mem_append, List.forall_mem_cons, List.forall_mem_singleton]
    exact ⟨same_of_mem_muchNews, FilePath.same_refl _, by decide⟩
  exact ⟨hsame, truncates_recordAll hsame⟩

/-- A file that has as many events as it may loses an error, and nothing marks that. -/
theorem unmarked_lateError :
    (∀ call ∈ muchNews ++ [lateError], call.1.same ⟨"src/Noisy.java"⟩) ∧
      fileLimit < (muchNews ++ [lateError]).length ∧
      (recordAll {} (muchNews ++ [lateError])).events ⟨"src/Noisy.java"⟩ = muchNews.map (·.2) ∧
      (recordAll {} (muchNews ++ [lateError])).events ⟨"src/Noisy.java"⟩ ≠
        ((muchNews ++ [lateError]).map (·.2)).take fileLimit ++ [overflowWarning] := by
  have hsame : ∀ call ∈ muchNews ++ [lateError], call.1.same ⟨"src/Noisy.java"⟩ := by
    rw [List.forall_mem_append, List.forall_mem_singleton]
    exact ⟨same_of_mem_muchNews, FilePath.same_refl _⟩
  have hlength : (muchNews.map (·.2)).length = fileLimit := by
    simp [muchNews]
  have hevents : (recordAll {} (muchNews ++ [lateError])).events ⟨"src/Noisy.java"⟩ =
      muchNews.map (·.2) := by
    rw [events_recordAll_of_same hsame, List.map_append, List.map_singleton,
      truncated_concat_error (Nat.le_of_eq hlength.symm) rfl,
      truncated_of_length_le (Nat.le_of_eq hlength)]
  refine ⟨hsame, ?_, hevents, ?_⟩
  · rw [List.length_map] at hlength
    rw [List.length_append, hlength, List.length_singleton]
    exact Nat.lt_succ_self _
  · rw [hevents, List.map_append, List.take_left' hlength]
    simp

end Ledger
end JavaLex.Diagnostics
