import JavaLex.Proofs.Diagnostics.Telling
import Mathlib.Data.List.DropRight
import Mathlib.Data.List.Induction

/-! # A window over the last events

A window has two entries: what is posted to its log passes only if it is severe enough, and what is
recorded in the log always does. Of all that came in since the window was cleared it shows the
last, as many as it has room for, in their order, and whoever asks it a question gets the answer
that these give.
-/
namespace JavaLex.Diagnostics

namespace Window

/-- What is cut off in front of the last `n` is not missed when one more comes. -/
theorem rtake_concat_rtake {α : Type} (n : Nat) (l : List α) (a : α) :
    (l.rtake n ++ [a]).rtake n = (l ++ [a]).rtake n := by
  cases n with
  | zero => rw [List.rtake_zero, List.rtake_zero]
  | succ n =>
    rw [List.rtake_concat_succ, List.rtake_concat_succ]
    simp [List.rtake_eq_reverse_take_reverse, List.take_take]

theorem length_rtake {α : Type} (n : Nat) (l : List α) : (l.rtake n).length = min l.length n := by
  rw [List.rtake, List.length_drop]
  omega

theorem toList_extract_size {α : Type} (a : Array α) (n : Nat) :
    (a.extract n a.size).toList = a.toList.drop n := by
  rw [Array.toList_extract, List.extract_eq_take_drop,
    List.take_of_length_le (by rw [List.length_drop, Array.length_toList])]

/-- A new event comes last, and the first ones go if there are too many. -/
theorem toList_push (w : Window) (e : Event) :
    (w.push e).toList = (w.toList ++ [e]).rtake capacity := by
  have hcapacity : 0 < capacity := by decide
  have hlength : w.toList.length = w.events.size := Array.length_toList
  rw [List.rtake, List.length_append, List.length_singleton, hlength,
    List.drop_append_of_le_length (by omega)]
  unfold push
  split
  case isTrue hroom =>
    rw [Nat.sub_eq_zero_of_le hroom, List.drop_zero]
    exact Array.toList_push
  case isFalse => rw [toList, Array.toList_push, toList_extract_size, toList]

/-- How a window answers that shows these events. -/
structure Shows (w : Window) (events : List Event) : Prop where
  toList_eq : w.toList = events
  size_eq : w.size = events.length
  errors_eq : w.errors = events.filter (·.level = .error)
  withCode_eq : ∀ code, w.withCode code = events.filter (·.code = code)
  inCategory_eq : ∀ category, w.inCategory category = events.filter (·.code.category = category)
  hasError_iff : ∀ code, w.hasError code ↔ ∃ e ∈ events, e.level = .error ∧ e.code = code
  hasSuccess_iff : ∀ code, w.hasSuccess code ↔ ∃ e ∈ events, e.level = .info ∧ e.code = code
  counts_eq : w.counts = ⟨events.length, events.countP (·.level = .error),
    events.countP (·.level = .warning), events.countP (·.level = .info),
    events.countP (·.level = .debug)⟩
  /-- Every event is counted under one of the levels. -/
  total_eq : w.counts.total =
    w.counts.errors + w.counts.warnings + w.counts.infos + w.counts.debugs
  hasErrors_iff : w.counts.hasErrors ↔ ∃ e ∈ events, e.level = .error
  hasWarnings_iff : w.counts.hasWarnings ↔ ∃ e ∈ events, e.level = .warning

theorem length_eq_countP (events : List Event) : events.length =
    events.countP (·.level == .error) + events.countP (·.level == .warning) +
      events.countP (·.level == .info) + events.countP (·.level == .debug) := by
  induction events with
  | nil => rfl
  | cons e events ih =>
    simp only [List.length_cons, List.countP_cons]
    cases e.level <;> simp <;> omega

theorem countLevel_pos_iff (w : Window) (level : Level) :
    0 < w.countLevel level ↔ ∃ e ∈ w.toList, e.level = level := by
  simp [countLevel, List.countP_pos_iff]

theorem shows_toList (w : Window) : Shows w w.toList where
  toList_eq := rfl
  size_eq := (Array.length_toList).symm
  errors_eq := rfl
  withCode_eq _ := rfl
  inCategory_eq _ := rfl
  hasError_iff code := by simp [hasError, Event.isError]
  hasSuccess_iff code := by simp [hasSuccess, Event.isInfo]
  counts_eq := rfl
  total_eq := length_eq_countP w.toList
  hasErrors_iff := decide_eq_true_iff.trans (w.countLevel_pos_iff .error)
  hasWarnings_iff := decide_eq_true_iff.trans (w.countLevel_pos_iff .warning)

end Window

namespace Log

/-- What comes to a log with a window. -/
inductive Step where
  /-- A report is posted, at a time. -/
  | report (r : Report) (time : Nat)
  | event (e : Event)
  /-- An event is recorded past the log. -/
  | direct (e : Event)
  | clear

namespace Step

/-- The event that gets to the window, if the log lets events of this level through. -/
def admitted? (level : Level) : Step → Option Event
  | .report r time => if r.level ≤ level then some (Session.eventAt time r) else none
  | .event e => if e.level ≤ level then some e else none
  | .direct e => some e
  | .clear => none

def isClear : Step → Bool
  | .clear => true
  | _ => false

end Step

def step (x : Log × Output) : Step → Log × Output
  | .report r time => x.1.post x.2 (Session.eventAt time r)
  | .event e => x.1.post x.2 e
  | .direct e => x.1.record x.2 e
  | .clear => (x.1.clear, x.2)

def stepAll (x : Log × Output) (steps : List Step) : Log × Output :=
  steps.foldl step x

theorem stepAll_concat (x : Log × Output) (steps : List Step) (s : Step) :
    stepAll x (steps ++ [s]) = step (stepAll x steps) s := by
  simp [stepAll]

/-- The events that got to the window since it was last cleared. -/
def admitted (level : Level) (steps : List Step) : List Event :=
  (steps.rtakeWhile (!·.isClear)).filterMap (·.admitted? level)

theorem admitted_concat_clear (level : Level) (steps : List Step) :
    admitted level (steps ++ [.clear]) = [] := by
  rw [admitted, List.rtakeWhile_concat_neg _ _ _ (by simp [Step.isClear]), List.filterMap_nil]

theorem admitted_concat (level : Level) (steps : List Step) {s : Step} (h : s.isClear = false) :
    admitted level (steps ++ [s]) = admitted level steps ++ (s.admitted? level).toList := by
  rw [admitted, List.rtakeWhile_concat_pos _ _ _ (by simp [h]), List.filterMap_append]
  cases hs : s.admitted? level <;> simp [admitted, hs]

/-- A report is as severe as its event. -/
theorem level_eventAt (time : Nat) (r : Report) : (Session.eventAt time r).level = r.level := by
  change (Session.eventAt time r).bare.level = r.level
  rw [Session.bare_eventAt]

theorem post_window (level : Level) (w : Window) (output : Output) (e : Event) :
    post ⟨level, .window w⟩ output e =
      (⟨level, .window (if e.level ≤ level then w.push e else w)⟩, output) := by
  by_cases h : e.level ≤ level <;> simp [post, admits, record, h]

/-- What is admitted goes to the window, and nothing else changes. -/
theorem step_window (level : Level) (w : Window) (output : Output) {s : Step}
    (h : s.isClear = false) : step (⟨level, .window w⟩, output) s =
      (⟨level, .window ((s.admitted? level).elim w w.push)⟩, output) := by
  cases s with
  | report r time =>
    rw [step, post_window, level_eventAt, Step.admitted?]
    split <;> rfl
  | event e =>
    rw [step, post_window, Step.admitted?]
    split <;> rfl
  | direct e => simp only [step, record, Step.admitted?, Option.elim_some]
  | clear => cases h

theorem step_clear (level : Level) (w : Window) (output : Output) :
    step (⟨level, .window w⟩, output) .clear = (⟨level, .window {}⟩, output) := rfl

/-- A step keeps what the window holds at the last of the events admitted so far. -/
theorem toList_step {level : Level} {w : Window} {steps : List Step}
    (h : w.toList = (admitted level steps).rtake Window.capacity) (output : Output) (s : Step) :
    ∃ w', step (⟨level, .window w⟩, output) s = (⟨level, .window w'⟩, output) ∧
      w'.toList = (admitted level (steps ++ [s])).rtake Window.capacity := by
  cases hclear : s.isClear with
  | true =>
    obtain rfl : s = .clear := by
      cases s with
      | clear => rfl
      | _ => cases hclear
    refine ⟨{}, step_clear level w output, ?_⟩
    rw [admitted_concat_clear, List.rtake_nil]
    rfl
  | false =>
    rw [step_window level w output hclear, admitted_concat level steps hclear]
    cases s.admitted? level with
    | none => exact ⟨w, rfl, by rw [Option.toList_none, List.append_nil, h]⟩
    | some e =>
      refine ⟨w.push e, rfl, ?_⟩
      rw [Window.toList_push, h, Option.toList_some, Window.rtake_concat_rtake]

theorem toList_stepAll (level : Level) (output : Output) (steps : List Step) :
    ∃ w, stepAll (⟨level, .window {}⟩, output) steps = (⟨level, .window w⟩, output) ∧
      w.toList = (admitted level steps).rtake Window.capacity := by
  induction steps using List.reverseRecOn with
  | nil => exact ⟨{}, rfl, (List.rtake_nil _).symm⟩
  | append_singleton steps s ih =>
    obtain ⟨w, hsteps, hlist⟩ := ih
    rw [stepAll_concat, hsteps]
    exact toList_step hlist output s

/-- Whatever is posted, recorded and cleared, the window of the log shows the last of the events
admitted since it was cleared. -/
theorem shows_stepAll (level : Level) (output : Output) (steps : List Step) :
    ∃ w, stepAll (⟨level, .window {}⟩, output) steps = (⟨level, .window w⟩, output) ∧
      w.Shows ((admitted level steps).rtake Window.capacity) ∧
      w.size = min (admitted level steps).length Window.capacity := by
  obtain ⟨w, hsteps, hlist⟩ := toList_stepAll level output steps
  have hshows := w.shows_toList
  rw [hlist] at hshows
  exact ⟨w, hsteps, hshows, hshows.size_eq.trans (Window.length_rtake _ _)⟩

end Log
end JavaLex.Diagnostics
