import JavaLex.Proofs.Diagnostics.Holding
import JavaLex.Proofs.Source.Excerpt

/-! # What a report quotes

An event stays with its file once it is filed, and every error of a file is in the report, followed
by a line of source. Events pile up under a path, but of the texts of a file the ledger keeps the
one that it was handed last: whatever was recorded when, all errors of a file are shown with lines
of one text.
-/
namespace JavaLex.Text
variable {text part piece : String}

/-- The text has the piece in it. -/
def Holds (text piece : String) : Prop :=
  ∃ before after, text = before ++ piece ++ after

theorem Holds.trans (h : Holds text part) (hpart : Holds part piece) : Holds text piece := by
  obtain ⟨before, after, rfl⟩ := h
  obtain ⟨before', after', rfl⟩ := hpart
  exact ⟨before ++ before', after' ++ after, by simp only [String.append_assoc]⟩

theorem holds_append_self (before piece : String) : Holds (before ++ piece) piece :=
  ⟨before, "", String.append_empty.symm⟩

theorem Holds.append (h : Holds text piece) (more : String) : Holds (text ++ more) piece := by
  obtain ⟨before, after, rfl⟩ := h
  exact ⟨before, after ++ more, by simp only [String.append_assoc]⟩

theorem holds_join {pieces : List String} (h : piece ∈ pieces) :
    Holds (String.join pieces) piece := by
  obtain ⟨front, back, rfl⟩ := List.append_of_mem h
  refine ⟨String.join front, String.join back, ?_⟩
  rw [String.join_append, String.join_cons, String.append_assoc]

end JavaLex.Text

namespace JavaLex.Source.LineIndex

/-- What is shown under an error tells which line it is. -/
theorem underlined_inj {line column : Nat} {shown shown' : List Char} :
    underlined line column 1 shown = underlined line column 1 shown' ↔ shown = shown' := by
  constructor
  · intro h
    have hlist := congrArg String.toList h
    rw [toList_underlined, toList_underlined] at hlist
    simpa using hlist
  · rintro rfl
    rfl

theorem excerpt?_eq_iff {m m' : LineIndex} {span : Span} :
    m.excerpt? span = m'.excerpt? span ↔ m.line? span.first.line = m'.line? span.first.line := by
  unfold excerpt?
  constructor
  · exact fun h => Option.map_injective (fun _ _ => underlined_inj.mp) h
  · intro h
    rw [h]

end JavaLex.Source.LineIndex

namespace JavaLex.Diagnostics
open Files Source Text

namespace Ledger
variable {l : Ledger} {p q : FilePath} {e : Event} {calls : List (FilePath × Event)}

/-! ## Texts and events -/

theorem sources_record (l : Ledger) (p : FilePath) (e : Event) :
    (l.record p e).sources = l.sources := by
  unfold record
  split <;> rfl

theorem sources_recordAll (l : Ledger) (calls : List (FilePath × Event)) :
    (l.recordAll calls).sources = l.sources := by
  induction calls generalizing l with
  | nil => rfl
  | cons call calls ih => rw [recordAll_cons, ih, sources_record]

theorem find?_sources_keepSource (l : Ledger) (p q : FilePath) (source : List Char) :
    (l.keepSource p source).sources.find? q =
      if p.same q then some (LineIndex.ofSource source) else l.sources.find? q :=
  l.sources.find?_insert p q (LineIndex.ofSource source)

theorem prefix_append (events : Array Event) (e : Event) :
    events.toList <+: (append events e).toList := by
  unfold append
  split
  · simp
  · split <;> simp

theorem events_prefix_record : l.events q <+: (l.record p e).events q := by
  cases hsame : p.same q with
  | false => exact ⟨[], by rw [List.append_nil, events_record_other hsame]⟩
  | true =>
    rcases record_cases l p e with hrefused | hfiled
    · exact ⟨[], by rw [List.append_nil, hrefused]⟩
    · rw [← events_congr _ hsame, ← events_congr _ hsame, events_record_self hfiled]
      exact prefix_append _ e

theorem events_prefix_recordAll : l.events q <+: (l.recordAll calls).events q := by
  induction calls generalizing l with
  | nil => exact List.prefix_rfl
  | cons call calls ih => exact events_prefix_record.trans ih

theorem size_le_record : l.size ≤ (l.record p e).size := by
  rcases record_cases l p e with hrefused | hfiled
  · rw [hrefused]
  · have htotal := l.files.total_alter p (fun events => append (events.getD #[]) e) Array.size
    have hgrows := (prefix_append ((l.files.find? p).getD #[]) e).length_le
    rw [← files_record hfiled, ← length_events] at htotal
    change (l.events p).length ≤ (append _ e).size at hgrows
    change (l.record p e).size + _ = l.size + _ at htotal
    omega

theorem size_le_recordAll : l.size ≤ (l.recordAll calls).size := by
  induction calls generalizing l with
  | nil => exact Nat.le_refl _
  | cons call calls ih => exact size_le_record.trans ih

/-- Where there is room in the end, there was room for every event. -/
theorem size_add_length_le (h : (l.recordAll calls).size < errorLimit) :
    l.size + calls.length ≤ errorLimit := by
  induction calls generalizing l with
  | nil => exact h.le
  | cons call calls ih =>
    have hroom : l.size < errorLimit := lt_of_le_of_lt size_le_recordAll h
    have hrest := ih h
    rw [size_record hroom] at hrest
    rw [List.length_cons]
    omega

/-! ## The report -/

theorem holds_errorBlock {shown : String} (h : l.excerpt? p e = some shown) :
    Holds (l.errorBlock p e) shown := by
  unfold errorBlock
  rw [h, Option.getD_some]
  exact ((holds_append_self _ shown).append _).append _ |>.append _

theorem holds_fileBlock {events : List Event} (h : e ∈ events) (he : e.isError) :
    Holds (l.fileBlock p events) (l.errorBlock p e) := by
  have hmem : e ∈ events.filter Event.isError := List.mem_filter.mpr ⟨h, he⟩
  have herrors : (events.filter Event.isError).isEmpty = false := by
    rw [List.isEmpty_eq_false_iff]
    exact List.ne_nil_of_mem hmem
  have hblocks : Holds (l.fileBlock p events)
      (String.join ((events.filter Event.isError).map (l.errorBlock p))) := by
    unfold fileBlock
    simp only [herrors, Bool.false_and, Bool.false_eq_true, if_false]
    exact ((holds_append_self _ _).append _).append _
  exact hblocks.trans (holds_join (List.mem_map_of_mem hmem))

theorem holds_report {events : List Event} (h : (p, events) ∈ l.toList) :
    Holds l.report (l.fileBlock p events) := by
  unfold report
  exact ((holds_join (List.mem_map_of_mem h)).append _).append _

/-- The events of a file stand under one of the spellings of its path. -/
theorem exists_mem_toList (h : l.events p ≠ []) : ∃ q, q.same p ∧ (q, l.events p) ∈ l.toList := by
  cases hfind : l.files.entries.find? (·.1.same p) with
  | none => exact absurd (by simp [events, PathMap.find?, hfind]) h
  | some entry =>
    have hsame := List.find?_some hfind
    have hevents : l.events p = entry.2.toList := by simp [events, PathMap.find?, hfind]
    refine ⟨entry.1, hsame, List.mem_map.mpr ⟨entry, List.mem_of_find?_eq_some hfind, ?_⟩⟩
    rw [hevents]

/-- Every error of a file is in the report. -/
theorem exists_holds_errorBlock (h : e ∈ l.errors p) :
    ∃ q, q.same p ∧ Holds l.report (l.errorBlock q e) := by
  obtain ⟨hmem, he⟩ := List.mem_filter.mp h
  obtain ⟨q, hq, hlisted⟩ := exists_mem_toList (List.ne_nil_of_mem hmem)
  exact ⟨q, hq, (holds_report hlisted).trans (holds_fileBlock hmem he)⟩

/-- The line that is shown does not depend on how the path is spelled. -/
theorem excerpt?_congr (h : p.same q) : l.excerpt? p e = l.excerpt? q e := by
  rw [excerpt?, l.sources.find?_congr h, excerpt?]

end Ledger
end JavaLex.Diagnostics
