import JavaLex.CommandLine.Validation
import JavaLex.Proofs.Diagnostics.Telling
import JavaLex.Proofs.Listing.Collecting

/-! # How a unit came out

A unit is one text or one file of which a listing is made. It tells its outcome once: one error, of
the code with which it fails, or one completion. It does so from each of the places at which a file
can be refused and from the scan, and nothing that is told on the way is an error or a completion.
-/
namespace JavaLex
open Diagnostics Files Scan Session

/-- The codes of the errors that a result calls for, at most one. -/
def failureCodes {ε α : Type} (code : ε → Code) : Except ε α → List Code
  | .ok _ => []
  | .error e => [code e]

/-- The number of completions that a result calls for: so many if there is no error. -/
def completionsDue {ε α : Type} (n : Nat) : Except ε α → Nat
  | .ok _ => n
  | .error _ => 0

theorem completionsDue_eq_zero {ε α : Type} {code : ε → Code} {result : Except ε α} {c : Code}
    (h : failureCodes code result = [c]) (n : Nat) : completionsDue n result = 0 := by
  cases result with
  | ok _ => cases h
  | error _ => rfl

/-- Reports and what comes of it agree: each error is reported, nothing else is as an error, and no
listing is said to be complete. -/
structure Reporting {ε α : Type} (code : ε → Code) (result : Except ε α) (reports : List Report) :
    Prop where
  errors_eq : (reports.filter (·.level == .error)).map (·.code) = failureCodes code result
  completions_eq : reports.countP (·.code == Code.tokenizationComplete) = 0

/-- A report on the way to an outcome. -/
def Diagnostics.Report.IsQuiet (r : Report) : Prop :=
  r.level ≠ .error ∧ r.code ≠ Code.tokenizationComplete

theorem Diagnostics.Report.isQuiet_debug (message : String) (details : List (String × String)) :
    (debug message details).IsQuiet :=
  (by decide : Level.debug ≠ .error ∧ Code.plainDebug ≠ Code.tokenizationComplete)

theorem Diagnostics.Report.isQuiet_info (message : String) (details : List (String × String)) :
    (info message details).IsQuiet :=
  (by decide : Level.info ≠ .error ∧ Code.plainInfo ≠ Code.tokenizationComplete)

theorem Files.FileError.code_mem (e : FileError) : e.code ∈ Code.ofFiles := by
  cases e <;> simp [FileError.code, Code.ofFiles]

theorem Scan.LexicalError.code_mem (e : LexicalError) : e.code ∈ Code.ofScans := by
  cases e with
  | atToken fault line column => cases fault <;> simp [LexicalError.code, Fault.code, Code.ofScans]
  | unreadable path reason => simp [LexicalError.code, Code.ofScans]

theorem Files.FileError.code_ne (e : FileError) : e.code ≠ Code.tokenizationComplete :=
  fun h => absurd (h ▸ e.code_mem) (by decide)

theorem Scan.LexicalError.code_ne (e : LexicalError) : e.code ≠ Code.tokenizationComplete :=
  fun h => absurd (h ▸ e.code_mem) (by decide)

namespace FileRules

theorem reporting_refusal {α : Type} (refusal : Refusal) :
    Reporting FileError.code (.error refusal.error : Except FileError α) [refusal.report] where
  errors_eq := rfl
  completions_eq := by
    rw [List.countP_singleton, if_neg]
    simpa [Refusal.report, Report.error, Report.code] using refusal.error.code_ne

theorem reporting_facts {α : Type} {result : Except FileError α} {reports : List Report}
    (facts : FileFacts) (h : Reporting FileError.code result reports) :
    Reporting FileError.code result (facts.report :: reports) where
  errors_eq := h.errors_eq
  completions_eq := h.completions_eq

theorem reporting_warnings {α : Type} {result : Except FileError α} {reports : List Report}
    (p : FilePath) (facts : FileFacts) (h : Reporting FileError.code result reports) :
    Reporting FileError.code result (warnings p facts ++ reports) where
  errors_eq := by
    rw [← h.errors_eq]
    unfold warnings
    split <;> split <;> rfl
  completions_eq := by
    rw [← h.completions_eq]
    unfold warnings
    split <;> split <;> rfl

/-- What there is to report on a file is one error if it is refused, and none otherwise. -/
theorem reporting_read (rules : FileRules) (t : FileTree) (p : FilePath) :
    Reporting FileError.code (rules.read t p).2 (rules.read t p).1 := by
  unfold read
  cases find t p with
  | error refusal => exact reporting_refusal refusal
  | ok found =>
    obtain ⟨place, facts⟩ := found
    dsimp only
    split
    case h_1 refusal _ => exact reporting_facts _ (reporting_refusal refusal)
    case h_2 =>
      cases textAt t p place with
      | error refusal => exact reporting_facts _ (reporting_warnings p _ (reporting_refusal refusal))
      | ok found =>
        dsimp only
        rw [← List.append_nil (warnings p _)]
        exact reporting_facts _ (reporting_warnings p _ ⟨rfl, rfl⟩)

end FileRules

/-- Doing `act` comes to telling events that agree with its result: an error with the code of the
failure and nothing else, or no error and `n` completions. -/
def TellsOutcome {ε α : Type} (code : ε → Code) (n : Nat) (act : Session → Except ε α × Session)
    (s : Session) : Prop :=
  ∃ events, Tells act s events ∧ errorCodes events = failureCodes code (act s).1 ∧
    completions events = completionsDue n (act s).1

/-- Do `act` and go on with what comes of it, unless that is an error. -/
def andThen {α β ε ε' : Type} (act : Session → Except ε α × Session) (wrap : ε → ε')
    (next : α → Session → Except ε' β × Session) (s : Session) : Except ε' β × Session :=
  match act s with
  | (.error e, s) => (.error (wrap e), s)
  | (.ok a, s) => next a s

namespace TellsOutcome
variable {α β γ ε ε' : Type} {code : ε → Code} {code' : ε' → Code} {n : Nat} {s : Session}

/-- What comes first may tell neither errors nor completions. -/
theorem after {act : Session → γ × Session} {before : List Event} (h : Tells act s before)
    (herrors : errorCodes before = []) (hcompletions : completions before = 0)
    (next : γ → Session → Except ε α × Session)
    (hnext : TellsOutcome code n (next (act s).1) (act s).2) :
    TellsOutcome code n (fun s => next (act s).1 (act s).2) s := by
  obtain ⟨events, htells, herror, hcompletion⟩ := hnext
  refine ⟨before ++ events, h.bind next htells, ?_, ?_⟩
  · rw [errorCodes_append, herrors, herror, List.nil_append]
  · rw [completions_append, hcompletions, hcompletion, Nat.zero_add]

/-- Nothing is told of what is had already. -/
theorem ok (a : α) (s : Session) : TellsOutcome code 0 (fun s => (.ok a, s)) s :=
  ⟨[], .pure _ s, rfl, rfl⟩

theorem afterNow (next : Nat → Session → Except ε α × Session)
    (hnext : TellsOutcome code n (next s.now.1) s.now.2) :
    TellsOutcome code n (fun s => next s.now.1 s.now.2) s :=
  after (.now s) rfl rfl next hnext

theorem afterSince (start : Nat) (next : Duration → Session → Except ε α × Session)
    (hnext : TellsOutcome code n (next (s.since start).1) (s.since start).2) :
    TellsOutcome code n (fun s => next (s.since start).1 (s.since start).2) s :=
  after (.since s start) rfl rfl next hnext

theorem afterPost {r : Report} (h : r.IsQuiet) (next : Session → Except ε α × Session)
    (hnext : TellsOutcome code n next (s.post r)) :
    TellsOutcome code n (fun s => next (s.post r)) s :=
  after (tells_post s r) (by rw [errorCodes_told, if_neg h.1])
    (by rw [completions_told, if_neg h.2]) (fun _ => next) hnext

/-- Reports are posted that agree with the result, and nothing is told after them. -/
theorem postAll {reports : List Report} {result : Except ε α} (h : Reporting code result reports)
    {last : Session → Session} (hlast : Tells (fun s => (result, last s)) (s.postAll reports) []) :
    TellsOutcome code 0 (fun s => (result, last (s.postAll reports))) s := by
  refine ⟨s.toldAll reports ++ [], (tells_postAll s reports).bind (fun _ s => (result, last s)) hlast,
    ?_, ?_⟩
  · rw [List.append_nil, errorCodes_toldAll, h.errors_eq]
  · rw [List.append_nil, completions_toldAll, h.completions_eq]
    cases result <;> rfl

/-- A failure is handed on, as an error of the same code, and otherwise the work goes on. -/
theorem andThen {act : Session → Except ε α × Session} (h : TellsOutcome code 0 act s)
    (wrap : ε → ε') (hwrap : ∀ e, code' (wrap e) = code e)
    (next : α → Session → Except ε' β × Session)
    (hnext : ∀ a, TellsOutcome code' n (next a) (act s).2) :
    TellsOutcome code' n (JavaLex.andThen act wrap next) s := by
  obtain ⟨events, htells, herror, hcompletion⟩ := h
  let goOn (result : Except ε α) (s : Session) : Except ε' β × Session :=
    match result with
    | .error e => (.error (wrap e), s)
    | .ok a => next a s
  have hgoOn : JavaLex.andThen act wrap next = fun s => goOn (act s).1 (act s).2 := by
    funext s
    unfold JavaLex.andThen
    rcases act s with ⟨_ | _, _⟩ <;> rfl
  rw [hgoOn]
  cases hresult : (act s).1 with
  | error e =>
    rw [hresult] at herror hcompletion
    refine ⟨events ++ [], htells.bind goOn ?_, ?_, ?_⟩
    · rw [hresult]
      exact .pure _ _
    · simp only [hresult, List.append_nil, herror, failureCodes, goOn, hwrap]
    · simp only [hresult, List.append_nil, hcompletion, completionsDue, goOn]
  | ok a =>
    rw [hresult] at herror hcompletion
    obtain ⟨more, hmore, herrors, hcompletions⟩ := hnext a
    refine ⟨events ++ more, htells.bind goOn ?_, ?_, ?_⟩
    · rw [hresult]
      exact hmore
    · simp only [hresult, errorCodes_append, herror, herrors, failureCodes, goOn, List.nil_append]
    · simp only [hresult, completions_append, hcompletion, hcompletions, completionsDue, goOn,
        Nat.zero_add]

end TellsOutcome

namespace Files.SourceFile

/-- Once the rules are kept, the time is taken and the file reported. -/
def finish (rules : FileRules) (p : FilePath) (start : Nat) (found : String × FileFacts)
    (s : Session) : Except FileError SourceFile × Session :=
  match s.since start with
  | (duration, s) =>
    let file : SourceFile := ⟨found.1, found.2, duration⟩
    (.ok file, s.post (file.report rules.timing p))

theorem read_eq (rules : FileRules) (t : FileTree) (p : FilePath) (s : Session) :
    read rules t p s =
      andThen (fun s => ((rules.read t p).2, s.postAll (rules.read t p).1)) id
        (finish rules p s.now.1)
        (s.now.2.post (.debug "Starting file processing" [("file", p.spelling)])) := by
  unfold read andThen
  rcases rules.read t p with ⟨reports, _ | _⟩ <;> rfl

theorem isQuiet_report (timing : Bool) (p : FilePath) (f : SourceFile) :
    (f.report timing p).IsQuiet := by
  have hquiet : Level.info ≠ .error ∧ Code.fileRead ≠ Code.tokenizationComplete := by decide
  cases timing <;> exact hquiet

theorem tellsOutcome_finish (rules : FileRules) (p : FilePath) (start : Nat)
    (found : String × FileFacts) (s : Session) :
    TellsOutcome FileError.code 0 (finish rules p start found) s := by
  let file (duration : Duration) : SourceFile := ⟨found.1, found.2, duration⟩
  refine .afterSince start (fun duration s =>
    (.ok (file duration), s.post ((file duration).report rules.timing p))) ?_
  exact .afterPost (isQuiet_report _ _ _) (fun s => (.ok (file _), s)) (.ok _ _)

theorem tellsOutcome_read (rules : FileRules) (t : FileTree) (p : FilePath) (s : Session) :
    TellsOutcome FileError.code 0 (read rules t p) s := by
  rw [funext (read_eq rules t p)]
  refine .afterNow (fun start s => andThen _ id (finish rules p start) (s.post _)) ?_
  refine .afterPost (Report.isQuiet_debug _ _) (andThen _ id (finish rules p s.now.1)) ?_
  exact (TellsOutcome.postAll (rules.reporting_read t p) (.pure _ _)).andThen id (fun _ => rfl) _
    fun found => tellsOutcome_finish rules p _ found _

end Files.SourceFile

namespace Listing

/-- A scan that fails is reported as one error, which may come after the tokens up to there. -/
theorem reporting_failure {α : Type} (options : ScanOptions) (text : String) (tokens : Array Token)
    (e : LexicalError) :
    Reporting ListingError.code (.error (.lexical e) : Except ListingError α)
      (failureReports options text tokens e) where
  errors_eq := by
    unfold failureReports
    split <;> rfl
  completions_eq := by
    have hcode : ((errorReport text e).code == Code.tokenizationComplete) = false := by
      simpa [errorReport, Report.code] using e.code_ne
    have hdump : ((dumpReport tokens).code == Code.tokenizationComplete) = false :=
      (by decide : (Code.tokenDump == Code.tokenizationComplete) = false)
    unfold failureReports
    split
    · simp [hdump, hcode]
    · simp [hcode]

section Scan
variable {text : String} {tokens : Array Token}

theorem scanText_of_ok (options : ScanOptions) (h : scan text.toList = ⟨tokens, none⟩) :
    scanText options text = fun s => (.ok (tokens, tokens.foldl (Tally.record options) {}), s) := by
  funext s
  simp only [scanText, collect_scan, h]

/-- The failure of a scan is reported before the text is kept. -/
theorem scanText_of_error (options : ScanOptions) {e : LexicalError}
    (h : scan text.toList = ⟨tokens, some e⟩) :
    scanText options text = fun s => (.error (.lexical e),
      (s.postAll (failureReports options text tokens e)).keepSource text.toList) := by
  funext s
  simp only [scanText, collect_scan, h]

end Scan

theorem tellsOutcome_scanText (options : ScanOptions) (text : String) (s : Session) :
    TellsOutcome ListingError.code 0 (scanText options text) s := by
  cases hscan : scan text.toList with
  | mk tokens error? =>
    cases error? with
    | none =>
      rw [scanText_of_ok options hscan]
      exact .ok _ s
    | some e =>
      rw [scanText_of_error options hscan]
      exact .postAll (reporting_failure options text tokens e) (.keepSource _ _ text.toList)

/-- The listing of tokens, once they are all there. -/
def complete (name : String) (facts? : Option FileFacts) (start : Nat)
    (found : Array Token × Tally) (s : Session) : Except ListingError Listing × Session :=
  match s.since start with
  | (duration, s) =>
    let listing : Listing := ⟨name, found.1, found.2, facts?, duration⟩
    (.ok listing, s.post listing.report)

theorem tellsOutcome_complete (name : String) (facts? : Option FileFacts) (start : Nat)
    (found : Array Token × Tally) (s : Session) :
    TellsOutcome ListingError.code 1 (complete name facts? start found) s := by
  let listing (duration : Duration) : Listing := ⟨name, found.1, found.2, facts?, duration⟩
  refine .afterSince start (fun duration s =>
    (.ok (listing duration), s.post (listing duration).report)) ?_
  generalize (s.since start).1 = duration, (s.since start).2 = s
  refine ⟨s.told (listing duration).report ++ [], (tells_post s (listing duration).report).bind
    (fun _ s => (Except.ok (listing duration), s)) (.pure _ _), ?_, ?_⟩
  · rw [List.append_nil, errorCodes_told]
    rfl
  · rw [List.append_nil, completions_told]
    rfl

/-- Scan a text that is there and make the listing. -/
def listText (options : ScanOptions) (name text : String) (facts? : Option FileFacts) (start : Nat) :
    Session → Except ListingError Listing × Session :=
  andThen (scanText options text) id (complete name facts? start)

theorem tellsOutcome_listText (options : ScanOptions) (name text : String)
    (facts? : Option FileFacts) (start : Nat) (s : Session) :
    TellsOutcome ListingError.code 1 (listText options name text facts? start) s :=
  (tellsOutcome_scanText options text s).andThen id (fun _ => rfl) _
    fun found => tellsOutcome_complete name facts? start found _

theorem ofText_eq (options : ScanOptions) (name text : String) (s : Session) :
    ofText options name text s =
      s.within ⟨name⟩ 0 fun s => listText options name text none s.now.1 s.now.2 := by
  refine congrArg (s.within ⟨name⟩ 0) (funext fun s => ?_)
  unfold listText andThen
  dsimp only [now]
  rcases scanText options text _ with ⟨_ | _, _⟩ <;> rfl

theorem ofFile_eq (settings : Settings) (t : FileTree) (p : FilePath) (id : Nat) (s : Session) :
    ofFile settings t p id s = s.within p id fun s =>
      andThen (SourceFile.read settings.files t p) .file
        (fun file => listText settings.scan p.spelling file.text (some file.facts) s.now.1)
        (s.now.2.post (.info "Starting tokenization" [("file", p.spelling)])) := by
  refine congrArg (s.within p id) (funext fun s => ?_)
  unfold listText andThen
  dsimp only [now]
  rcases SourceFile.read settings.files t p _ with ⟨_ | file, s'⟩
  · rfl
  · dsimp only
    rcases scanText settings.scan file.text s' with ⟨_ | _, _⟩ <;> rfl

/-- With a file at hand, a unit tells events that agree with its result, and no file is at hand
after it. -/
structure ReportsOutcome (path : FilePath) (id : Nat)
    (act : Session → Except ListingError Listing × Session) (s : Session) (ledger : Ledger)
    (events : List Event) : Prop where
  /-- A log for debugging is handed the events, one after the other and nothing else. -/
  logged : ∀ log output, log.level = .debug →
    act (s.withLog (log, output)) = ((act s).1, (act s).2.withLog (log.recordAll output events))
  /-- One error with the code of the failure, or none. -/
  errors_eq : errorCodes events = failureCodes ListingError.code (act s).1
  /-- One completion if there is a listing, and else none. -/
  completions_eq : completions events = completionsDue 1 (act s).1
  about : ∀ e ∈ events, e.IsAbout ⟨path, id⟩
  /-- If there is room, the ledger takes the errors and warnings, and none under another path. -/
  filed : ∃ ledger', (act s).2.ledger = some ledger' ∧
    (ledger.size + (events.filter Event.isFiled).length ≤ Ledger.errorLimit →
      ledger'.events path = ledger.events path ++ events.filter Event.isFiled) ∧
    ∀ q, path.same q = false → ledger'.events q = ledger.events q
  context_eq : (act s).2.context = none

theorem exists_reportsOutcome {act : Session → Except ListingError Listing × Session} {s : Session}
    {path : FilePath} {id : Nat} {ledger : Ledger} (hledger : s.ledger = some ledger)
    (h : TellsOutcome ListingError.code 1 act (s.enter path id)) :
    ∃ events, ReportsOutcome path id (·.within path id act) s ledger events := by
  obtain ⟨events, htells, herrors, hcompletions⟩ := h
  refine ⟨events, ?_, herrors, hcompletions, htells.about _ rfl, ?_, rfl⟩
  · intro log output hlevel
    have hlogged := htells.logged log output
    rw [Log.postAll_eq_recordAll hlevel] at hlogged
    exact congrArg (fun x => (x.1, x.2.leave)) hlogged
  · obtain ⟨ledger', hledger', hfiles⟩ := htells.filed _ ledger rfl hledger
    refine ⟨ledger', hledger', ?_, ?_⟩
    · intro hroom
      rw [Ledger.events_of_files hfiles, Ledger.events_recordAll hroom]
    · intro q hq
      rw [Ledger.events_of_files hfiles]
      refine Ledger.events_recordAll_other fun call hcall => ?_
      obtain ⟨e, -, rfl⟩ := List.mem_map.mp hcall
      exact hq

/-- Every unit reports its own outcome once, under its own path. -/
theorem reports_outcome {s : Session} {ledger : Ledger} (h : s.ledger = some ledger) :
    (∀ options name text, ∃ events,
      ReportsOutcome ⟨name⟩ 0 (ofText options name text) s ledger events) ∧
    ∀ settings t p id, ∃ events,
      ReportsOutcome p id (ofFile settings t p id) s ledger events := by
  constructor
  · intro options name text
    rw [funext (ofText_eq options name text)]
    refine exists_reportsOutcome h ?_
    exact .afterNow (listText options name text none) (tellsOutcome_listText _ _ _ _ _ _)
  · intro settings t p id
    rw [funext (ofFile_eq settings t p id)]
    refine exists_reportsOutcome h ?_
    let goOn (start : Nat) : Session → Except ListingError Listing × Session :=
      andThen (SourceFile.read settings.files t p) .file
        fun file => listText settings.scan p.spelling file.text (some file.facts) start
    refine .afterNow (fun start s => goOn start (s.post _)) ?_
    refine .afterPost (Report.isQuiet_info _ _) (goOn _) ?_
    exact (SourceFile.tellsOutcome_read settings.files t p _).andThen .file (fun _ => rfl) _
      fun file => tellsOutcome_listText _ _ _ _ _ _

/-- A source that nobody may read. -/
def locked : FileTree where
  root := .directory [("A.java", .file "class A {}".toUTF8)]
  working := []
  fault? request _ := if request = .content then some .denied else none

/-- A text that does not scan and a file that may not be read, in a session with an empty ledger. -/
theorem reports_outcome_broken :
    (∃ events, ReportsOutcome ⟨"Broken.java"⟩ 0 (ofText {} "Broken.java" "char c = '';")
        { ledger := some {} } {} events ∧
      errorCodes events = [Code.emptyCharacterLiteral] ∧ completions events = 0) ∧
    ∃ events, ReportsOutcome ⟨"/A.java"⟩ 7 (ofFile {} locked ⟨"/A.java"⟩ 7)
        { ledger := some {} } {} events ∧
      errorCodes events = [Code.permissionDenied] ∧ completions events = 0 := by
  obtain ⟨htexts, hfiles⟩ := reports_outcome (s := { ledger := some {} }) rfl
  constructor
  · obtain ⟨events, h⟩ := htexts {} "Broken.java" "char c = '';"
    have hcodes := h.errors_eq.trans (by decide +kernel : _ = [Code.emptyCharacterLiteral])
    exact ⟨events, h, hcodes, h.completions_eq.trans
      (completionsDue_eq_zero (h.errors_eq.symm.trans hcodes) 1)⟩
  · obtain ⟨events, h⟩ := hfiles {} locked ⟨"/A.java"⟩ 7
    have hcodes := h.errors_eq.trans (by decide +kernel : _ = [Code.permissionDenied])
    exact ⟨events, h, hcodes, h.completions_eq.trans
      (completionsDue_eq_zero (h.errors_eq.symm.trans hcodes) 1)⟩

end Listing

end JavaLex
