import JavaLex.Diagnostics.Session
import JavaLex.Proofs.Diagnostics.Recording

/-! # What is told in a session

What a part of the program does in a session comes down to the events that it hands to the log, one
after the other. They do not depend on the log, which has no other part in it, and those of them
that are errors or warnings are filed under the file at hand.
-/
namespace JavaLex.Diagnostics
open Files

namespace Log

/-- Hand events on one after the other. -/
def postAll (l : Log) (output : Output) (events : List Event) : Log × Output :=
  events.foldl (fun x e => x.1.post x.2 e) (l, output)

/-- The same for all events, whatever their level. -/
def recordAll (l : Log) (output : Output) (events : List Event) : Log × Output :=
  events.foldl (fun x e => x.1.record x.2 e) (l, output)

theorem postAll_append (l : Log) (output : Output) (events more : List Event) :
    l.postAll output (events ++ more) =
      (l.postAll output events).1.postAll (l.postAll output events).2 more :=
  List.foldl_append

theorem level_record (l : Log) (output : Output) (e : Event) :
    (l.record output e).1.level = l.level := by
  unfold record
  split <;> rfl

/-- A log for debugging lets all events through. -/
theorem postAll_eq_recordAll {l : Log} (h : l.level = .debug) (output : Output)
    (events : List Event) : l.postAll output events = l.recordAll output events := by
  induction events generalizing l output with
  | nil => rfl
  | cons e events ih =>
    have hadmits : l.admits e.level = true := by
      rw [admits, h]
      cases e.level <;> rfl
    have hpost : l.post output e = l.record output e := if_pos hadmits
    change (l.post output e).1.postAll (l.post output e).2 events =
      (l.record output e).1.recordAll (l.record output e).2 events
    rw [hpost, ih (by rw [level_record, h])]

end Log

namespace Details

theorem lookup_insert_self (key value : String) (details : Details) :
    (insert key value details).lookup key = some value := by
  induction details with
  | nil => simp [insert]
  | cons detail details ih =>
    obtain ⟨k, v⟩ := detail
    rw [insert]
    split
    · simp
    · split
      · simp
      case isFalse hne =>
        rw [List.lookup_cons, beq_eq_false_iff_ne.mpr hne]
        exact ih

theorem lookup_insert_other {key other : String} (h : other ≠ key) (value : String)
    (details : Details) : (insert key value details).lookup other = details.lookup other := by
  have hne : (other == key) = false := beq_eq_false_iff_ne.mpr h
  induction details with
  | nil => simp [insert, List.lookup_cons, hne]
  | cons detail details ih =>
    obtain ⟨k, v⟩ := detail
    rw [insert]
    split
    · rw [List.lookup_cons, hne]
    · split
      case isTrue heq =>
        rw [List.lookup_cons, List.lookup_cons, ← heq, hne]
      · rw [List.lookup_cons, List.lookup_cons, ih]

end Details

namespace Event

/-- Errors and warnings are filed. -/
def isFiled (e : Event) : Bool :=
  e.isError || e.isWarning

/-- The event says which file it is about, and if it is filed also the number of the file. -/
def IsAbout (e : Event) (context : FileContext) : Prop :=
  e.details.lookup "file" = some context.path.spelling ∧
    (e.isFiled → e.details.lookup "file_id" = some (toString context.id))

/-- The event without its details. -/
def bare (e : Event) : Event :=
  { e with details := [] }

theorem bare_withDetails (e : Event) (details : List (String × String)) :
    (e.withDetails details).bare = e.bare := by
  induction details generalizing e with
  | nil => rfl
  | cons detail details ih => exact ih (e.withDetail detail.1 detail.2)

/-- Details do not decide whether an event is filed. -/
theorem isFiled_congr {e e' : Event} (h : e.bare = e'.bare) : e.isFiled = e'.isFiled := by
  change e.bare.isFiled = e'.bare.isFiled
  rw [h]

end Event

namespace Report

/-- The level of the event that a report becomes. -/
def level (r : Report) : Level :=
  match r.topic with
  | .error _ => .error
  | .warning _ => .warning
  | .success _ | .info => .info
  | .debug => .debug

/-- The code of the event that a report becomes. -/
def code (r : Report) : Code :=
  match r.topic with
  | .error code | .warning code | .success code => code
  | .info => Code.plainInfo
  | .debug => Code.plainDebug

end Report

/-- The codes of the errors among some events. -/
def errorCodes (events : List Event) : List Code :=
  (events.filter Event.isError).map (·.code)

/-- How many of the events say that a listing is complete. -/
def completions (events : List Event) : Nat :=
  events.countP (·.code == Code.tokenizationComplete)

@[simp] theorem errorCodes_nil : errorCodes [] = [] := rfl

@[simp] theorem completions_nil : completions [] = 0 := rfl

@[simp] theorem errorCodes_append (events more : List Event) :
    errorCodes (events ++ more) = errorCodes events ++ errorCodes more := by
  simp [errorCodes]

@[simp] theorem completions_append (events more : List Event) :
    completions (events ++ more) = completions events + completions more :=
  List.countP_append

namespace Session

/-- The session with another log and other output. -/
def withLog (s : Session) (x : Log × Output) : Session :=
  { s with log := some x.1, output := x.2 }

/-- The event that a report becomes at a time, apart from the file at hand. -/
def eventAt (time : Nat) (r : Report) : Event :=
  { eventOf r with time := ⟨time⟩ }

/-- The events that a report comes to, at most one. -/
def told (s : Session) (r : Report) : List Event :=
  match r.topic with
  | .error _ | .warning _ | .success _ => [s.attachFile (eventAt s.now.1 r)]
  | .info => [s.attachPath (eventAt s.now.1 r)]
  | .debug => if Level.debug ≤ s.level then [s.attachPath (eventAt s.now.1 r)] else []

/-- The events that reports come to, one after the other. -/
def toldAll : Session → List Report → List Event
  | _, [] => []
  | s, r :: reports => s.told r ++ (s.post r).toldAll reports

/-- Doing `act` in a session comes to telling `events`. -/
structure Tells {α : Type} (act : Session → α × Session) (s : Session) (events : List Event) :
    Prop where
  /-- Whatever the log is, it is handed the events and has no other part. -/
  logged : ∀ log output, act (s.withLog (log, output)) =
    ((act s).1, (act s).2.withLog (log.postAll output events))
  context_eq : (act s).2.context = s.context
  filed : ∀ context ledger, s.context = some context → s.ledger = some ledger →
    ∃ ledger', (act s).2.ledger = some ledger' ∧ ledger'.files =
      (ledger.recordAll ((events.filter Event.isFiled).map (context.path, ·))).files
  about : ∀ context, s.context = some context → ∀ e ∈ events, e.IsAbout context

namespace Tells
variable {α β : Type} {act : Session → α × Session} {s : Session} {events more : List Event}

/-- Nothing is told where neither log nor file at hand nor ledger play a part. -/
theorem silent (hlogged : ∀ x, act (s.withLog x) = ((act s).1, (act s).2.withLog x))
    (hcontext : (act s).2.context = s.context)
    (hledger : (act s).2.ledger.map Ledger.files = s.ledger.map Ledger.files) : Tells act s [] where
  logged log output := hlogged (log, output)
  context_eq := hcontext
  filed context ledger _ hs := by
    rw [hs] at hledger
    cases hafter : (act s).2.ledger with
    | none => simp [hafter] at hledger
    | some ledger' => exact ⟨ledger', rfl, by simpa [hafter] using hledger⟩
  about := by simp

/-- Only what `act` does in the session and in those with another log counts. -/
theorem congr {act' : Session → α × Session} (h : Tells act s events) (hact : act' s = act s)
    (hlog : ∀ x, act' (s.withLog x) = act (s.withLog x)) : Tells act' s events where
  logged log output := by rw [hlog, hact, h.logged]
  context_eq := by rw [hact, h.context_eq]
  filed := by simpa only [hact] using h.filed
  about := h.about

theorem pure (a : α) (s : Session) : Tells (fun s => (a, s)) s [] :=
  .silent (fun _ => rfl) rfl rfl

theorem now (s : Session) : Tells Session.now s [] :=
  .silent (fun _ => rfl) rfl rfl

theorem since (s : Session) (start : Nat) : Tells (·.since start) s [] :=
  .silent (fun _ => rfl) rfl rfl

theorem keepSource (a : α) (s : Session) (source : List Char) :
    Tells (fun s => (a, s.keepSource source)) s [] := by
  obtain ⟨standard, installed, log, ledger, context, output, clock, readings⟩ := s
  cases context <;> cases ledger <;> exact .silent (fun _ => rfl) rfl rfl

theorem bind (h : Tells act s events) (next : α → Session → β × Session)
    (hnext : Tells (next (act s).1) (act s).2 more) :
    Tells (fun s => next (act s).1 (act s).2) s (events ++ more) where
  logged log output := by
    simp only [h.logged, hnext.logged, Log.postAll_append]
  context_eq := hnext.context_eq.trans h.context_eq
  filed context ledger hcontext hledger := by
    obtain ⟨middle, hmiddle, hfiles⟩ := h.filed context ledger hcontext hledger
    obtain ⟨after, hafter, hmore⟩ :=
      hnext.filed context middle (h.context_eq.trans hcontext) hmiddle
    refine ⟨after, hafter, ?_⟩
    rw [hmore, Ledger.files_recordAll_congr hfiles, List.filter_append, List.map_append,
      Ledger.recordAll_append]
  about context hcontext e he := by
    rcases List.mem_append.mp he with he | he
    · exact h.about context hcontext e he
    · exact hnext.about context (h.context_eq.trans hcontext) e he

end Tells

theorem bare_eventAt (time : Nat) (r : Report) : (eventAt time r).bare =
    { level := r.level
      code := r.code
      message := boundedMessage r.message
      span? := r.span?
      time := ⟨time⟩ } := by
  change { (eventOf r).bare with time := ⟨time⟩ } = _
  unfold eventOf
  rw [Event.bare_withDetails]
  unfold Report.level Report.code
  cases r.topic <;> rfl

theorem bare_attachPath (s : Session) (e : Event) : (s.attachPath e).bare = e.bare := by
  unfold attachPath
  cases s.context <;> rfl

theorem bare_attachFile (s : Session) (e : Event) : (s.attachFile e).bare = e.bare := by
  unfold attachFile attachPath
  cases s.context <;> rfl

theorem isFiled_eventAt (time : Nat) (r : Report) :
    (eventAt time r).isFiled = (r.level == .error || r.level == .warning) := by
  change (eventAt time r).bare.isFiled = _
  rw [bare_eventAt]
  rfl

/-! ## One report -/

@[simp] theorem context_dispatch (s : Session) (e : Event) : (s.dispatch e).context = s.context := by
  unfold dispatch
  split <;> rfl

@[simp] theorem ledger_dispatch (s : Session) (e : Event) : (s.dispatch e).ledger = s.ledger := by
  unfold dispatch
  split <;> rfl

@[simp] theorem withLog_dispatch (s : Session) (x : Log × Output) (e : Event) :
    (s.withLog x).dispatch e = (s.dispatch e).withLog (x.1.post x.2 e) := by
  obtain ⟨standard, installed, log, ledger, context, output, clock, readings⟩ := s
  cases log <;> rfl

@[simp] theorem context_collect (s : Session) (e : Event) : (s.collect e).context = s.context := by
  unfold collect
  split <;> rfl

@[simp] theorem withLog_collect (s : Session) (x : Log × Output) (e : Event) :
    (s.withLog x).collect e = (s.collect e).withLog x := by
  obtain ⟨standard, installed, log, ledger, context, output, clock, readings⟩ := s
  cases context <;> cases ledger <;> rfl

theorem ledger_collect {s : Session} {context : FileContext} {ledger : Ledger}
    (hcontext : s.context = some context) (hledger : s.ledger = some ledger) (e : Event) :
    (s.collect e).ledger = some (ledger.record context.path e) := by
  simp only [collect, hcontext, hledger]

theorem isAbout_attachFile {s : Session} {context : FileContext} (h : s.context = some context)
    (e : Event) : (s.attachFile e).IsAbout context := by
  simp only [attachFile, attachPath, h]
  exact ⟨(Details.lookup_insert_other (by decide) _ _).trans (Details.lookup_insert_self _ _ _),
    fun _ => Details.lookup_insert_self _ _ _⟩

theorem isAbout_attachPath {s : Session} {context : FileContext} (h : s.context = some context)
    {e : Event} (he : e.isFiled = false) : (s.attachPath e).IsAbout context := by
  simp only [attachPath, h]
  refine ⟨Details.lookup_insert_self _ _ _, fun hfiled => ?_⟩
  change e.isFiled = true at hfiled
  rw [he] at hfiled
  cases hfiled

namespace Tells

/-- An event that is not filed is only handed to the log. -/
theorem dispatch {s : Session} {make : Session → Event} (hmake : ∀ x, make (s.withLog x) = make s)
    (hfiled : (make s).isFiled = false)
    (habout : ∀ context, s.context = some context → (make s).IsAbout context) :
    Tells (fun s => ((), s.dispatch (make s))) s [make s] where
  logged log output := by
    rw [hmake, withLog_dispatch]
    rfl
  context_eq := s.context_dispatch _
  filed context ledger _ hledger := by
    refine ⟨ledger, (s.ledger_dispatch _).trans hledger, ?_⟩
    rw [List.filter_cons_of_neg (by simp [hfiled]), List.filter_nil]
    rfl
  about context hcontext := by simpa using habout context hcontext

theorem attachPath (s : Session) {e : Event} (he : e.isFiled = false) :
    Tells (fun s => ((), s.dispatch (s.attachPath e))) s [s.attachPath e] :=
  dispatch (fun _ => rfl) ((Event.isFiled_congr (s.bare_attachPath e)).trans he)
    fun _ hcontext => isAbout_attachPath hcontext he

theorem attachFile (s : Session) {e : Event} (he : e.isFiled = false) :
    Tells (fun s => ((), s.dispatch (s.attachFile e))) s [s.attachFile e] :=
  dispatch (fun _ => rfl) ((Event.isFiled_congr (s.bare_attachFile e)).trans he)
    fun _ hcontext => isAbout_attachFile hcontext e

/-- An event that is filed is handed to the log and to the ledger. -/
theorem collect (s : Session) {e : Event} (he : e.isFiled) :
    Tells (fun s => ((), (s.dispatch (s.attachFile e)).collect (s.attachFile e))) s
      [s.attachFile e] where
  logged log output := by
    change ((), ((s.withLog (log, output)).dispatch (s.attachFile e)).collect (s.attachFile e)) = _
    rw [withLog_dispatch, withLog_collect]
    rfl
  context_eq := by rw [context_collect, context_dispatch]
  filed context ledger hcontext hledger := by
    refine ⟨ledger.record context.path (s.attachFile e), ?_, ?_⟩
    · exact ledger_collect ((s.context_dispatch _).trans hcontext)
        ((s.ledger_dispatch _).trans hledger) _
    · have hfiled : (s.attachFile e).isFiled := (Event.isFiled_congr (s.bare_attachFile e)).trans he
      rw [List.filter_cons_of_pos hfiled, List.filter_nil]
      rfl
  about context hcontext := by simpa using isAbout_attachFile hcontext e

end Tells

/-- A report is told in the session at the time at which it is posted. -/
theorem tells_post (s : Session) (r : Report) : Tells (fun s => ((), s.post r)) s (s.told r) := by
  obtain ⟨topic, message, span?, details⟩ := r
  cases topic with
  | error code | warning code =>
    exact (Tells.now s).bind (fun time s => ((), (s.dispatch (s.attachFile (eventAt time _))).collect
      (s.attachFile (eventAt time _)))) (.collect s.now.2 (isFiled_eventAt _ _))
  | success code =>
    exact (Tells.now s).bind (fun time s => ((), s.dispatch (s.attachFile (eventAt time _))))
      (.attachFile s.now.2 (isFiled_eventAt _ _))
  | info =>
    exact (Tells.now s).bind (fun time s => ((), s.dispatch (s.attachPath (eventAt time _))))
      (.attachPath s.now.2 (isFiled_eventAt _ _))
  | debug =>
    by_cases hlevel : Level.debug ≤ s.level
    · rw [told, if_pos hlevel]
      -- The level of the session lets the report through, and the log has no say in that.
      refine ((Tells.now s).bind (fun time s => ((), s.dispatch (s.attachPath (eventAt time _))))
        (.attachPath s.now.2 (isFiled_eventAt _ ⟨.debug, message, span?, details⟩))).congr ?_ ?_
      · exact congrArg (Prod.mk ()) (if_pos hlevel)
      · exact fun x => congrArg (Prod.mk ()) (if_pos hlevel)
    · rw [told, if_neg hlevel]
      refine ((Tells.now s).bind (fun _ s => ((), s)) (.pure () s.now.2)).congr ?_ ?_
      · exact congrArg (Prod.mk ()) (if_neg hlevel)
      · exact fun x => congrArg (Prod.mk ()) (if_neg hlevel)

theorem tells_postAll (s : Session) (reports : List Report) :
    Tells (fun s => ((), s.postAll reports)) s (s.toldAll reports) := by
  induction reports generalizing s with
  | nil => exact .pure () s
  | cons r reports ih => exact (tells_post s r).bind (fun _ s => ((), s.postAll reports)) (ih _)

/-! ## Errors and completions -/

/-- A report comes to one event of its level, code and span, or is left out as debugging. -/
theorem told_cases (s : Session) (r : Report) :
    (∃ e, s.told r = [e] ∧ e.level = r.level ∧ e.code = r.code ∧ e.span? = r.span?) ∨
      (s.told r = [] ∧ r.level = .debug ∧ r.code = Code.plainDebug) := by
  have hbare : ∀ e : Event, e.bare = (eventAt s.now.1 r).bare →
      e.level = r.level ∧ e.code = r.code ∧ e.span? = r.span? := by
    intro e h
    rw [bare_eventAt] at h
    exact ⟨congrArg Event.level h, congrArg Event.code h, congrArg Event.span? h⟩
  have hfile := hbare _ (s.bare_attachFile (eventAt s.now.1 r))
  have hpath := hbare _ (s.bare_attachPath (eventAt s.now.1 r))
  rcases r with ⟨topic, message, span?, details⟩
  cases topic with
  | error code | warning code | success code => exact .inl ⟨_, rfl, hfile⟩
  | info => exact .inl ⟨_, rfl, hpath⟩
  | debug =>
    by_cases hlevel : Level.debug ≤ s.level
    · exact .inl ⟨_, if_pos hlevel, hpath⟩
    · exact .inr ⟨if_neg hlevel, rfl, rfl⟩

/-- The errors that are told have the spans of those that are reported. -/
theorem errorSpans_toldAll (s : Session) (reports : List Report) :
    ((s.toldAll reports).filter Event.isError).map (·.span?) =
      (reports.filter (·.level == .error)).map (·.span?) := by
  induction reports generalizing s with
  | nil => rfl
  | cons r reports ih =>
    rw [toldAll, List.filter_append, List.map_append, ih]
    rcases s.told_cases r with ⟨e, htold, hlevel, -, hspan⟩ | ⟨htold, hlevel, -⟩
    · by_cases herror : r.level = .error
      · simp [htold, Event.isError, hlevel, hspan, herror]
      · simp [htold, Event.isError, hlevel, herror]
    · simp [htold, hlevel]

theorem errorCodes_told (s : Session) (r : Report) :
    errorCodes (s.told r) = if r.level = .error then [r.code] else [] := by
  rcases s.told_cases r with ⟨e, htold, hlevel, hcode, -⟩ | ⟨htold, hlevel, -⟩
  · by_cases herror : r.level = .error
    · simp [htold, errorCodes, Event.isError, hlevel, hcode, herror]
    · simp [htold, errorCodes, Event.isError, hlevel, herror]
  · simp [htold, hlevel]

theorem completions_told (s : Session) (r : Report) :
    completions (s.told r) = if r.code = Code.tokenizationComplete then 1 else 0 := by
  rcases s.told_cases r with ⟨e, htold, -, hcode, -⟩ | ⟨htold, -, hcode⟩
  · simp [htold, completions, hcode]
  · have hother : r.code ≠ Code.tokenizationComplete := by
      rw [hcode]
      decide
    rw [htold, completions_nil, if_neg hother]

theorem errorCodes_toldAll (s : Session) (reports : List Report) :
    errorCodes (s.toldAll reports) = (reports.filter (·.level == .error)).map (·.code) := by
  induction reports generalizing s with
  | nil => rfl
  | cons r reports ih =>
    rw [toldAll, errorCodes_append, ih, errorCodes_told]
    by_cases herror : r.level = .error
    · simp [herror]
    · simp [herror]

theorem completions_toldAll (s : Session) (reports : List Report) :
    completions (s.toldAll reports) = reports.countP (·.code == Code.tokenizationComplete) := by
  induction reports generalizing s with
  | nil => rfl
  | cons r reports ih =>
    rw [toldAll, completions_append, ih, completions_told, List.countP_cons, Nat.add_comm]
    simp

end Session
end JavaLex.Diagnostics
