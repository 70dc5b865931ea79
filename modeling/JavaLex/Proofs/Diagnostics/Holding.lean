import JavaLex.Proofs.Diagnostics.Recording
import Mathlib.Data.List.Induction

/-! # What a ledger holds

However events are recorded and the ledger cleared, every file that is there has an event. Its
events are some of those recorded about it since the ledger was last cleared, in their order, and
one last warning exactly if the limit is passed; from then on they stay as they are. No more errors
are held than the limit allows.
-/
namespace JavaLex.Diagnostics
open Files

namespace Ledger
variable {l : Ledger} {p q : FilePath} {e : Event}

/-- What is done to a ledger, one step after the other. -/
inductive Step where
  | record (path : FilePath) (event : Event)
  | clear

def step (l : Ledger) : Step → Ledger
  | .record p e => l.record p e
  | .clear => l.clear

def stepAll (l : Ledger) (steps : List Step) : Ledger :=
  steps.foldl step l

/-- The events recorded after the last time that the ledger was cleared, each with its file. -/
def sinceClear (steps : List Step) : List (FilePath × Event) :=
  steps.foldl (fun calls s =>
    match s with
    | .record p e => calls ++ [(p, e)]
    | .clear => []) []

/-- The events recorded about a file. -/
def about (p : FilePath) (calls : List (FilePath × Event)) : List Event :=
  (calls.filter (·.1.same p)).map (·.2)

/-- Only what came after the last clearing matters. -/
theorem stepAll_eq (steps : List Step) : stepAll {} steps = recordAll {} (sinceClear steps) := by
  induction steps using List.reverseRecOn with
  | nil => rfl
  | append_singleton steps s ih =>
    rw [stepAll, sinceClear, List.foldl_append, List.foldl_append]
    cases s with
    | record p e =>
      rw [List.foldl_cons, List.foldl_cons, List.foldl_nil, List.foldl_nil, recordAll_append]
      change (stepAll {} steps).record p e = (recordAll {} (sinceClear steps)).record p e
      rw [ih]
    | clear => rfl

/-! ## The events of one file -/

/-- Some of the events in their order, up to the limit, and one last warning if that is passed. -/
inductive Filed (recorded : List Event) : List Event → Prop where
  | within {kept : List Event} : kept.Sublist recorded → kept.length ≤ fileLimit →
      Filed recorded kept
  | beyond {kept : List Event} : kept.Sublist recorded → kept.length = fileLimit →
      Filed recorded (kept ++ [overflowWarning])

namespace Filed
variable {recorded events : List Event}

theorem length_le (h : Filed recorded events) : events.length ≤ fileLimit + 1 := by
  cases h with
  | within _ hlength => omega
  | beyond _ hlength => simp [hlength]

theorem exists_kept (h : Filed recorded events) : ∃ kept, kept.Sublist recorded ∧
    events = kept ++ if events.length = fileLimit + 1 then [overflowWarning] else [] := by
  cases h with
  | within hkept hlength =>
    refine ⟨events, hkept, ?_⟩
    rw [if_neg (by omega), List.append_nil]
  | @beyond kept hkept hlength =>
    refine ⟨kept, hkept, ?_⟩
    rw [if_pos (by simp [hlength])]

theorem mono {more : List Event} (h : Filed recorded events) (hmore : recorded.Sublist more) :
    Filed more events := by
  cases h with
  | within hkept hlength => exact .within (hkept.trans hmore) hlength
  | beyond hkept hlength => exact .beyond (hkept.trans hmore) hlength

/-- One more event is filed behind the others, or makes the last warning, or changes nothing. -/
theorem append {events : Array Event} (h : Filed recorded events.toList) (e : Event) :
    Filed (recorded ++ [e]) (Ledger.append events e).toList := by
  have hmore : recorded.Sublist (recorded ++ [e]) := List.sublist_append_left recorded [e]
  unfold Ledger.append
  split
  case isTrue hroom =>
    rw [Array.toList_push]
    generalize hevents : events.toList = kept at h
    have hsize : kept.length < fileLimit := by
      rw [← hevents]
      exact hroom
    cases h with
    | within hkept _ => exact .within (hkept.append_right [e]) (by simp; omega)
    | beyond _ hlength =>
      simp only [List.length_append, hlength] at hsize
      omega
  case isFalse hfull =>
    split
    case isFalse => exact h.mono hmore
    case isTrue hsize =>
      rw [Array.toList_push]
      generalize hevents : events.toList = kept at h
      have hlength : kept.length = fileLimit := by
        rw [← hevents]
        exact hsize
      cases h with
      | within hkept _ => exact .beyond (hkept.trans hmore) hlength
      | beyond _ hkept =>
        rw [List.length_append, hkept, List.length_singleton] at hlength
        omega

end Filed

theorem size_append_pos (events : Array Event) (e : Event) : 0 < (append events e).size := by
  have hlimit : 0 < fileLimit := by decide
  unfold append
  split
  · simp
  · split
    · simp
    · omega

theorem append_of_beyond {events : Array Event} (h : events.size = fileLimit + 1) (e : Event) :
    append events e = events := by
  rw [append, if_neg (by omega), if_neg (by omega)]

/-! ## One step -/

/-- An event is refused, or it is filed under its path. -/
theorem record_cases (l : Ledger) (p : FilePath) (e : Event) :
    l.record p e = l ∨ (l.size < errorLimit ∨ e.isError = false) := by
  by_cases hsize : l.size < errorLimit
  · exact .inr (.inl hsize)
  · cases he : e.isError with
    | false => exact .inr (.inr rfl)
    | true => exact .inl (record_of_refused (Nat.not_lt.mp hsize) he)

theorem find?_record_other (h : p.same q = false) :
    (l.record p e).files.find? q = l.files.find? q := by
  rcases record_cases l p e with hrefused | hfiled
  · rw [hrefused]
  · rw [files_record hfiled, PathMap.find?_alter, h]
    rfl

theorem size_pos_record (h : ∀ q events, l.files.find? q = some events → 0 < events.size) :
    ∀ q events, (l.record p e).files.find? q = some events → 0 < events.size := by
  intro q events hevents
  rcases record_cases l p e with hrefused | hfiled
  · exact h q events (hrefused ▸ hevents)
  · rw [files_record hfiled, PathMap.find?_alter] at hevents
    split at hevents
    · cases hevents
      exact size_append_pos _ e
    · exact h q events hevents

theorem about_append_same (h : p.same q) (calls : List (FilePath × Event)) :
    about q (calls ++ [(p, e)]) = about q calls ++ [e] := by
  simp [about, h]

theorem about_append_other (h : p.same q = false) (calls : List (FilePath × Event)) :
    about q (calls ++ [(p, e)]) = about q calls := by
  simp [about, h]

theorem filed_record {calls : List (FilePath × Event)} (h : Filed (about q calls) (l.events q)) :
    Filed (about q (calls ++ [(p, e)])) ((l.record p e).events q) := by
  cases hsame : p.same q with
  | false => rwa [about_append_other hsame, events_record_other hsame]
  | true =>
    rw [about_append_same hsame]
    rcases record_cases l p e with hrefused | hfiled
    · rw [hrefused]
      exact h.mono (List.sublist_append_left _ [e])
    · rw [← events_congr _ hsame, events_record_self hfiled]
      rw [← events_congr _ hsame] at h
      exact h.append e

/-- The first event that is too many makes the last warning. -/
theorem events_record_of_full (h : l.size < errorLimit ∨ e.isError = false)
    (hlength : (l.events p).length = fileLimit) :
    (l.record p e).events p = l.events p ++ [overflowWarning] := by
  have hsize : ((l.files.find? p).getD #[]).size = fileLimit := hlength
  rw [events_record_self h, append, if_neg (by omega), if_pos hsize, Array.toList_push]
  rfl

theorem events_record_of_beyond (h : (l.events q).length = fileLimit + 1) :
    (l.record p e).events q = l.events q := by
  cases hsame : p.same q with
  | false => exact events_record_other hsame
  | true =>
    rcases record_cases l p e with hrefused | hfiled
    · rw [hrefused]
    · rw [← events_congr l hsame] at h
      rw [← events_congr _ hsame, events_record_self hfiled, append_of_beyond h,
        ← events_congr l hsame]
      rfl

/-- No more errors than events. -/
theorem errors_le_size (l : Ledger) : l.summary.errors ≤ l.size := by
  rw [summary_errors]
  exact l.files.total_le_total fun events => List.countP_le_length

theorem countP_append_of_not_isError (he : e.isError = false) (events : Array Event) :
    (append events e).toList.countP Event.isError = events.toList.countP Event.isError := by
  have hlast : overflowWarning.isError = false := rfl
  unfold append
  split
  · simp [he]
  · split
    · simp [hlast]
    · rfl

/-- What is not an error does not count among the errors, nor does the last warning. -/
theorem errors_record_of_not_isError (he : e.isError = false) :
    (l.record p e).summary.errors = l.summary.errors := by
  have htotal := l.files.total_alter p (fun events => append (events.getD #[]) e)
    fun events => events.toList.countP Event.isError
  rw [← files_record (.inr he), countP_append_of_not_isError he, ← summary_errors,
    ← summary_errors] at htotal
  have hcount := l.elim_find? p (List.countP Event.isError) rfl
  rw [hcount] at htotal
  exact Nat.add_right_cancel htotal

theorem errors_record_le (h : l.summary.errors ≤ errorLimit) :
    (l.record p e).summary.errors ≤ errorLimit := by
  cases he : e.isError with
  | false => rwa [errors_record_of_not_isError he]
  | true =>
    by_cases hroom : l.size < errorLimit
    · have hle := l.errors_le_size
      rw [errors_record hroom, if_pos he]
      omega
    · rwa [record_of_refused (Nat.not_lt.mp hroom) he]

/-! ## A run -/

theorem events_recordAll_of_beyond {calls : List (FilePath × Event)}
    (h : (l.events q).length = fileLimit + 1) : (l.recordAll calls).events q = l.events q := by
  induction calls generalizing l with
  | nil => rfl
  | cons call calls ih =>
    have hcall := events_record_of_beyond (p := call.1) (e := call.2) h
    rw [recordAll_cons, ih (by rw [hcall, h]), hcall]

/-- What holds of a ledger in which these events were recorded since it was cleared. -/
structure Orderly (calls : List (FilePath × Event)) (l : Ledger) : Prop where
  /-- A file that is there has an event, and no more than the limit and the last warning. -/
  size_bounds : ∀ p events, l.files.find? p = some events → 1 ≤ events.size ∧
    events.size ≤ fileLimit + 1
  /-- The last warning is there exactly if there are as many as there can be. -/
  events_eq : ∀ p, ∃ kept, kept.Sublist (about p calls) ∧
    l.events p = kept ++ if (l.events p).length = fileLimit + 1 then [overflowWarning] else []
  /-- After the last warning the events stay. -/
  stays : ∀ p, (l.events p).length = fileLimit + 1 →
    ∀ more, (l.recordAll more).events p = l.events p
  errors_le : l.summary.errors ≤ errorLimit
  /-- What is not refused goes to the end of the events of its file, or makes the last warning. -/
  takes : ∀ p e, (l.size < errorLimit ∨ e.isError = false) → (l.events p).length ≤ fileLimit →
    (l.record p e).events p =
      l.events p ++ [if (l.events p).length = fileLimit then overflowWarning else e]
  /-- Another file is as it was. -/
  apart : ∀ p q e, p.same q = false → (l.record p e).files.find? q = l.files.find? q

theorem filed_recordAll (calls : List (FilePath × Event)) (q : FilePath) :
    Filed (about q calls) ((recordAll {} calls).events q) := by
  induction calls using List.reverseRecOn with
  | nil => exact .within (List.Sublist.refl []) (Nat.zero_le _)
  | append_singleton calls call ih =>
    rw [recordAll_append]
    exact filed_record ih

theorem size_pos_recordAll (calls : List (FilePath × Event)) :
    ∀ q events, (recordAll {} calls).files.find? q = some events → 0 < events.size := by
  induction calls using List.reverseRecOn with
  | nil =>
    intro q events hevents
    cases hevents
  | append_singleton calls call ih =>
    rw [recordAll_append]
    exact size_pos_record ih

theorem errors_recordAll_le (calls : List (FilePath × Event)) :
    (recordAll {} calls).summary.errors ≤ errorLimit := by
  induction calls using List.reverseRecOn with
  | nil => exact Nat.zero_le _
  | append_singleton calls call ih =>
    rw [recordAll_append]
    exact errors_record_le ih

/-- Whatever is recorded and cleared from an empty ledger on, the ledger is in order. -/
theorem orderly_stepAll (steps : List Step) : Orderly (sinceClear steps) (stepAll {} steps) := by
  rw [stepAll_eq]
  generalize sinceClear steps = calls
  have hfiled := filed_recordAll calls
  refine ⟨?_, fun p => (hfiled p).exists_kept, ?_, errors_recordAll_le calls, ?_, ?_⟩
  · intro p events hevents
    have hp := hfiled p
    rw [Ledger.events, hevents] at hp
    exact ⟨size_pos_recordAll calls p events hevents, hp.length_le⟩
  · intro p hlength more
    exact events_recordAll_of_beyond hlength
  · intro p e htaken hlength
    split
    case isTrue hfull => exact events_record_of_full htaken hfull
    case isFalse hroom => exact events_record_of_length htaken (Nat.lt_of_le_of_ne hlength hroom)
  · intro p q e hother
    exact find?_record_other hother

end Ledger
end JavaLex.Diagnostics
