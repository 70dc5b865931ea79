import JavaLex.Proofs.Diagnostics.Telling
import Mathlib.Data.List.Induction

/-! # Setting up a session

Of all calls that bring a log to a session the first one succeeds, and the ledger comes with the
log. Every later one fails and leaves the session as it is, so the log that the first one brought
stays in use and is handed events and nothing else. Until then whatever is posted is gone. The
options are those that were given first.
-/
namespace JavaLex.Diagnostics
open Files

namespace Session
variable {s : Session} {log : Log}

/-- What is done with a session from outside. -/
inductive Call where
  | putOptions (options : LogOptions)
  | putLog (log : Log)
  | putConfiguredLog
  | enter (path : FilePath) (id : Nat)
  | leave
  | keepSource (source : List Char)
  | post (report : Report)
  | postAlone (code : Code) (message : String)

def call (s : Session) : Call → Except SetupError Unit × Session
  | .putOptions options => s.putOptions options
  | .putLog log => s.putLog log
  | .putConfiguredLog => s.putConfiguredLog
  | .enter path id => (.ok (), s.enter path id)
  | .leave => (.ok (), s.leave)
  | .keepSource source => (.ok (), s.keepSource source)
  | .post report => (.ok (), s.post report)
  | .postAlone code message => (.ok (), s.postAlone code message)

def callAll (s : Session) (calls : List Call) : Session :=
  calls.foldl (fun s c => (s.call c).2) s

theorem callAll_concat (s : Session) (calls : List Call) (c : Call) :
    s.callAll (calls ++ [c]) = ((s.callAll calls).call c).2 := by
  simp [callAll]

theorem callAll_append (s : Session) (calls more : List Call) :
    s.callAll (calls ++ more) = (s.callAll calls).callAll more :=
  List.foldl_append

/-- A session in which nothing was done yet. -/
def fresh (standard : LogOptions) (clock : Nat → Nat) : Session :=
  { standard, clock }

namespace Call

def options? : Call → Option LogOptions
  | .putOptions options => some options
  | _ => none

/-- Whether a call brings a log. -/
def bringsLog : Call → Bool
  | .putLog _ | .putConfiguredLog => true
  | _ => false

/-- The log that a call brings to a session. -/
def log? (s : Session) : Call → Option Log
  | .putLog log => some log
  | .putConfiguredLog => some s.configuredLog
  | _ => none

end Call

/-! ## Bringing a log -/

theorem putLog_of_blank (hlog : s.log = none) (hledger : s.ledger = none) (log : Log) :
    s.putLog log = (.ok (), { s with log := some log, ledger := some {} }) := by
  simp only [putLog, hlog, hledger]

theorem putLog_of_isSome (h : s.log.isSome) (log : Log) :
    s.putLog log = (.error .logInstalled, s) := by
  obtain ⟨log', hlog⟩ := Option.isSome_iff_exists.mp h
  simp only [putLog, hlog]

/-- The limits and the codes pass their check, whatever the session is. -/
theorem putConfiguredLog_of_error {e : SetupError} (h : s.putLog s.configuredLog = (.error e, s)) :
    s.putConfiguredLog = (.error e, s) := by
  simp only [putConfiguredLog, LimitFault.find?_limits, Code.essential_registered, h]

theorem putConfiguredLog_of_ok {s' : Session} (h : s.putLog s.configuredLog = (.ok (), s')) :
    ∃ e, s.putConfiguredLog = (.ok (), s'.now.2.dispatch e) := by
  refine ⟨{ Event.success Code.initializationCompleted "Global logging system initialized" with
    time := ⟨s'.now.1⟩ }, ?_⟩
  simp only [putConfiguredLog, LimitFault.find?_limits, Code.essential_registered, h]

/-- What is configured keeps no events. -/
theorem fst_post_configuredLog (s : Session) (output : Output) (e : Event) :
    (s.configuredLog.post output e).1 = s.configuredLog := by
  unfold Log.post
  split
  · unfold Log.record
    split
    case h_1 hsink =>
      simp only [configuredLog] at hsink
      split at hsink
      · cases hsink
      · split at hsink <;> cases hsink
    all_goals rfl
  · rfl

theorem installed_putLog (s : Session) (log : Log) : (s.putLog log).2.installed = s.installed := by
  unfold putLog
  cases s.log <;> cases s.ledger <;> rfl

/-! ## What stays -/

theorem dispatch_of_none (h : s.log = none) (e : Event) : s.dispatch e = s := by
  simp only [dispatch, h]

theorem collect_of_none (h : s.ledger = none) (e : Event) : s.collect e = s := by
  rw [collect, h]
  cases s.context <;> rfl

theorem keepSource_of_none (h : s.ledger = none) (source : List Char) :
    s.keepSource source = s := by
  rw [keepSource, h]
  cases s.context <;> rfl

/-- With neither log nor ledger a report comes to nothing. -/
theorem post_of_none (hlog : s.log = none) (hledger : s.ledger = none) (r : Report) :
    s.post r = s.now.2 := by
  have hdispatch : ∀ e, s.now.2.dispatch e = s.now.2 := dispatch_of_none hlog
  have hcollect : ∀ e, s.now.2.collect e = s.now.2 := collect_of_none hledger
  unfold post
  cases r.topic with
  | error code | warning code =>
    change (s.now.2.dispatch _).collect _ = _
    rw [hdispatch, hcollect]
  | success code | info => exact hdispatch _
  | debug =>
    dsimp only
    split
    · exact hdispatch _
    · rfl

@[simp] theorem installed_dispatch (s : Session) (e : Event) :
    (s.dispatch e).installed = s.installed := by
  unfold dispatch
  split <;> rfl

theorem installed_putConfiguredLog (s : Session) :
    s.putConfiguredLog.2.installed = s.installed := by
  have hput := s.installed_putLog s.configuredLog
  simp only [putConfiguredLog, LimitFault.find?_limits, Code.essential_registered]
  split
  case h_1 he =>
    rw [he] at hput
    exact hput
  case h_2 hok =>
    rw [hok] at hput
    exact (installed_dispatch _ _).trans hput

@[simp] theorem installed_collect (s : Session) (e : Event) :
    (s.collect e).installed = s.installed := by
  unfold collect
  split <;> rfl

@[simp] theorem installed_post (s : Session) (r : Report) :
    (s.post r).installed = s.installed := by
  unfold post
  cases r.topic with
  | debug =>
    dsimp only
    split
    · exact installed_dispatch _ _
    · rfl
  | _ => simp [now]

@[simp] theorem installed_postAlone (s : Session) (code : Code) (message : String) :
    (s.postAlone code message).installed = s.installed := by
  unfold postAlone
  split
  · rfl
  · exact installed_dispatch _ _

@[simp] theorem installed_keepSource (s : Session) (source : List Char) :
    (s.keepSource source).installed = s.installed := by
  unfold keepSource
  split <;> rfl

/-- The log in use stays in use, and is handed events and nothing else. Where there is no log there
is still none, and where there is no ledger. -/
structure Stays (s s' : Session) : Prop where
  handed : ∀ log, s.log = some log → ∃ events,
    s'.log = some (log.postAll s.output events).1 ∧ s'.output = (log.postAll s.output events).2
  log_eq_none : s.log = none → s'.log = none
  isSome_ledger : s'.ledger.isSome = s.ledger.isSome

namespace Stays
variable {s' s'' : Session}

theorem of_eq (hlog : s'.log = s.log) (houtput : s'.output = s.output)
    (hledger : s'.ledger.isSome = s.ledger.isSome) : Stays s s' where
  handed _ h := ⟨[], hlog.trans h, houtput⟩
  log_eq_none h := hlog.trans h
  isSome_ledger := hledger

theorem refl (s : Session) : Stays s s :=
  .of_eq rfl rfl rfl

theorem trans (h : Stays s s') (h' : Stays s' s'') : Stays s s'' where
  handed log hlog := by
    obtain ⟨events, hlog', houtput⟩ := h.handed log hlog
    obtain ⟨more, hlog'', houtput'⟩ := h'.handed _ hlog'
    rw [houtput, ← Log.postAll_append] at hlog'' houtput'
    exact ⟨events ++ more, hlog'', houtput'⟩
  log_eq_none hlog := h'.log_eq_none (h.log_eq_none hlog)
  isSome_ledger := h'.isSome_ledger.trans h.isSome_ledger

theorem dispatch (s : Session) (e : Event) : Stays s (s.dispatch e) where
  handed log hlog := ⟨[e], by simp only [Session.dispatch, hlog]; exact ⟨rfl, rfl⟩⟩
  log_eq_none hlog := by rw [dispatch_of_none hlog, hlog]
  isSome_ledger := by rw [ledger_dispatch]

theorem collect (s : Session) (e : Event) : Stays s (s.collect e) := by
  unfold Session.collect
  split
  case h_1 hledger => exact .of_eq rfl rfl (by rw [hledger]; rfl)
  case h_2 => exact .refl s

theorem keepSource (s : Session) (source : List Char) : Stays s (s.keepSource source) := by
  unfold Session.keepSource
  split
  case h_1 hledger => exact .of_eq rfl rfl (by rw [hledger]; rfl)
  case h_2 => exact .refl s

theorem now (s : Session) : Stays s s.now.2 :=
  .of_eq rfl rfl rfl

theorem post (s : Session) (r : Report) : Stays s (s.post r) := by
  unfold Session.post
  cases r.topic with
  | error code | warning code => exact (now s).trans ((dispatch _ _).trans (collect _ _))
  | success code | info => exact (now s).trans (dispatch _ _)
  | debug =>
    dsimp only
    split
    · exact (now s).trans (dispatch _ _)
    · exact now s

theorem postAlone (s : Session) (code : Code) (message : String) :
    Stays s (s.postAlone code message) := by
  unfold Session.postAlone
  split
  case h_1 hlog =>
    refine ⟨fun log h => ?_, fun _ => hlog, rfl⟩
    rw [hlog] at h
    cases h
  case h_2 => exact (now s).trans (dispatch _ _)

end Stays

/-! ## One call -/

theorem call_of_isSome (h : s.log.isSome) {c : Call} (hc : c.bringsLog) :
    s.call c = (.error .logInstalled, s) := by
  cases c with
  | putLog log => exact putLog_of_isSome h log
  | putConfiguredLog => exact putConfiguredLog_of_error (putLog_of_isSome h _)
  | _ => cases hc

/-- A call takes the log that it brings into use, with an empty ledger. -/
structure Starts (s : Session) (c : Call) : Prop where
  result_eq : (s.call c).1 = .ok ()
  log_eq : (s.call c).2.log = c.log? s
  ledger_eq : (s.call c).2.ledger = some {}
  installed_eq : (s.call c).2.installed = s.installed
  context_eq : (s.call c).2.context = s.context

theorem starts_of_none (hlog : s.log = none) (hledger : s.ledger = none) {c : Call}
    (hc : c.bringsLog) : Starts s c := by
  cases c with
  | putLog log =>
    have hcall : s.call (.putLog log) = (.ok (), { s with log := some log, ledger := some {} }) :=
      putLog_of_blank hlog hledger log
    exact ⟨by rw [hcall], by rw [hcall]; rfl, by rw [hcall], by rw [hcall], by rw [hcall]⟩
  | putConfiguredLog =>
    obtain ⟨e, hput⟩ := putConfiguredLog_of_ok (putLog_of_blank hlog hledger s.configuredLog)
    have hcall : s.call .putConfiguredLog = _ := hput
    refine ⟨by rw [hcall], ?_, by rw [hcall, ledger_dispatch]; rfl,
      by rw [hcall, installed_dispatch]; rfl, by rw [hcall, context_dispatch]; rfl⟩
    rw [hcall]
    exact congrArg some (s.fst_post_configuredLog _ e)
  | _ => cases hc

theorem stays_call {c : Call} (h : s.log.isSome ∨ c.bringsLog = false) : Stays s (s.call c).2 := by
  cases c with
  | putLog log =>
    rw [call_of_isSome (h.resolve_right (by simp [Call.bringsLog])) rfl]
    exact .refl s
  | putConfiguredLog =>
    rw [call_of_isSome (h.resolve_right (by simp [Call.bringsLog])) rfl]
    exact .refl s
  | putOptions options =>
    simp only [call, putOptions]
    split
    · exact .refl s
    · exact .of_eq rfl rfl rfl
  | enter path id => exact .of_eq rfl rfl rfl
  | leave => exact .of_eq rfl rfl rfl
  | keepSource source => exact .keepSource s source
  | post report => exact .post s report
  | postAlone code message => exact .postAlone s code message

theorem Stays.isSome_log {s' : Session} (h : Stays s s') : s'.log.isSome = s.log.isSome := by
  cases hlog : s.log with
  | none => rw [h.log_eq_none hlog]
  | some log =>
    obtain ⟨events, hlog', -⟩ := h.handed log hlog
    rw [hlog']
    rfl

theorem isSome_log? (s : Session) (c : Call) : (c.log? s).isSome = c.bringsLog := by
  cases c <;> rfl

/-- Where log and ledger are there together or not at all, a call starts the log that it brings, or
it has no part in that. -/
theorem call_cases (h : s.log.isSome = s.ledger.isSome) (c : Call) :
    (Stays s (s.call c).2 ∧ (s.log.isSome || c.bringsLog) = s.log.isSome) ∨
      (Starts s c ∧ c.bringsLog = true) := by
  cases hlog : s.log with
  | some log => exact .inl ⟨stays_call (.inl (by rw [hlog]; rfl)), rfl⟩
  | none =>
    cases hc : c.bringsLog with
    | false => exact .inl ⟨stays_call (.inr hc), rfl⟩
    | true =>
      rw [hlog] at h
      exact .inr ⟨starts_of_none hlog (by simpa using h.symm) hc, rfl⟩

theorem isSome_call (h : s.log.isSome = s.ledger.isSome) (c : Call) :
    (s.call c).2.log.isSome = (s.log.isSome || c.bringsLog) ∧
      (s.call c).2.ledger.isSome = (s.log.isSome || c.bringsLog) := by
  rcases call_cases h c with ⟨hstays, hsome⟩ | ⟨hstarts, hbrings⟩
  · rw [hsome, hstays.isSome_log, hstays.isSome_ledger]
    exact ⟨rfl, h.symm⟩
  · rw [hstarts.ledger_eq, hstarts.log_eq, isSome_log?, hbrings, Bool.or_true]
    exact ⟨rfl, rfl⟩

theorem installed_call (s : Session) (c : Call) :
    (s.call c).2.installed = s.installed.or c.options? := by
  cases c with
  | putOptions options =>
    cases hinstalled : s.installed <;> simp [call, putOptions, hinstalled, Call.options?]
  | putLog log => simp [call, installed_putLog, Call.options?]
  | putConfiguredLog => simp [call, installed_putConfiguredLog, Call.options?]
  | enter path id | leave => simp [call, enter, leave, Call.options?]
  | keepSource source | post report | postAlone code message => simp [call, Call.options?]

/-! ## A run of calls -/

/-- Log and ledger are there from the first call on that brings a log. -/
theorem isSome_callAll (standard : LogOptions) (clock : Nat → Nat) (calls : List Call) :
    ((fresh standard clock).callAll calls).log.isSome = calls.any Call.bringsLog ∧
      ((fresh standard clock).callAll calls).ledger.isSome = calls.any Call.bringsLog := by
  induction calls using List.reverseRecOn with
  | nil => exact ⟨rfl, rfl⟩
  | append_singleton calls c ih =>
    have hcall := isSome_call (ih.1.trans ih.2.symm) c
    rw [ih.1] at hcall
    simpa [callAll_concat] using hcall

theorem installed_callAll (standard : LogOptions) (clock : Nat → Nat) (calls : List Call) :
    ((fresh standard clock).callAll calls).installed = calls.findSome? Call.options? := by
  induction calls using List.reverseRecOn with
  | nil => rfl
  | append_singleton calls c ih =>
    rw [callAll_concat, installed_call, ih, List.findSome?_append, List.findSome?_singleton]

theorem stays_callAll (h : s.log.isSome) (calls : List Call) : Stays s (s.callAll calls) := by
  induction calls using List.reverseRecOn with
  | nil => exact .refl s
  | append_singleton calls c ih =>
    rw [callAll_concat]
    exact ih.trans (stays_call (.inl (ih.isSome_log.trans h)))

theorem eq_none_of_any {standard : LogOptions} {clock : Nat → Nat} {calls : List Call}
    (h : calls.any Call.bringsLog = false) :
    ((fresh standard clock).callAll calls).log = none ∧
      ((fresh standard clock).callAll calls).ledger = none := by
  have hsome := isSome_callAll standard clock calls
  rw [h] at hsome
  exact ⟨by simpa using hsome.1, by simpa using hsome.2⟩

/-- How some calls, of which a fresh session `start` becomes `s`, set it up. -/
structure SetsUpOnce (start : Session) (calls : List Call) (s : Session) : Prop where
  /-- There is a log exactly if there is a ledger. -/
  isSome_log : s.log.isSome = calls.any Call.bringsLog
  isSome_ledger : s.ledger.isSome = calls.any Call.bringsLog
  /-- The first call that brings a log succeeds. -/
  starts : calls.any Call.bringsLog = false → ∀ c, c.bringsLog → Starts s c
  /-- After it all of them fail, and change nothing at all. -/
  refuses : calls.any Call.bringsLog → ∀ c, c.bringsLog → s.call c = (.error .logInstalled, s)
  /-- The log that came first stays, and all it gets is events. -/
  handed : ∀ before c after log, calls = before ++ c :: after →
    before.any Call.bringsLog = false → c.log? (start.callAll before) = some log →
      ∃ events, s.log = some (log.postAll (start.callAll (before ++ [c])).output events).1 ∧
        s.output = (log.postAll (start.callAll (before ++ [c])).output events).2
  /-- The options are the first ones given. -/
  installed_eq : s.installed = calls.findSome? Call.options?
  putOptions_eq : ∀ options, s.call (.putOptions options) =
    if (calls.findSome? Call.options?).isSome then (.error .optionsInstalled, s)
    else (.ok (), { s with installed := some options })
  /-- Before there is a log a report takes the time, and that is all. -/
  post_eq : calls.any Call.bringsLog = false → ∀ r,
    s.post r = { s with readings := s.readings + 1 }
  keepSource_eq : calls.any Call.bringsLog = false → ∀ source, s.keepSource source = s
  postAlone_eq : calls.any Call.bringsLog = false → ∀ code message, s.postAlone code message =
    s.printErrorLine s!"[ERROR] FALLBACK: [{code}] {message}"

theorem setsUpOnce_fresh (standard : LogOptions) (clock : Nat → Nat) (calls : List Call) :
    SetsUpOnce (fresh standard clock) calls ((fresh standard clock).callAll calls) where
  isSome_log := (isSome_callAll standard clock calls).1
  isSome_ledger := (isSome_callAll standard clock calls).2
  starts h _ hc := starts_of_none (eq_none_of_any h).1 (eq_none_of_any h).2 hc
  refuses h _ hc := call_of_isSome ((isSome_callAll standard clock calls).1.trans h) hc
  handed before c after log hcalls hbefore hlog := by
    have hc : c.bringsLog = true := by
      rw [← isSome_log? _ c, hlog]
      rfl
    have hstarts : Starts ((fresh standard clock).callAll before) c :=
      starts_of_none (eq_none_of_any hbefore).1 (eq_none_of_any hbefore).2 hc
    have hstarted : ((fresh standard clock).callAll (before ++ [c])).log = some log := by
      rw [callAll_concat, hstarts.log_eq, hlog]
    have hstays := stays_callAll (Option.isSome_of_eq_some hstarted) after
    rw [← callAll_append, List.append_assoc, List.singleton_append, ← hcalls] at hstays
    exact hstays.handed log hstarted
  installed_eq := installed_callAll standard clock calls
  putOptions_eq options := by
    rw [← installed_callAll standard clock calls, call, putOptions]
    split
    case h_1 hinstalled => rw [hinstalled, Option.isSome_some, if_pos rfl]
    case h_2 hinstalled => rw [hinstalled, Option.isSome_none, if_neg Bool.false_ne_true]
  post_eq h := post_of_none (eq_none_of_any h).1 (eq_none_of_any h).2
  keepSource_eq h := keepSource_of_none (eq_none_of_any h).2
  postAlone_eq h code message := by
    simp only [postAlone, (eq_none_of_any h).1]

end Session
end JavaLex.Diagnostics
