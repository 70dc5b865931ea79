import JavaLex.Proofs.Diagnostics.Quoting
import JavaLex.Proofs.Diagnostics.Telling
import Mathlib.Data.List.Forall2

/-! # What a summary adds up to

The summary goes through the events of all files on its own, and so do the list of the failed files,
the errors of one file and the report. They agree: each file that is there has an event and counts
once, as failed, warned about or well, the errors and warnings counted are those of the files
together, and the report has a block for each of them, under its file. A block is made of whole lines
and says on the first of them what the event is.
-/
namespace JavaLex.Text
variable {α : Type}

/-- The text ends in a whole line. -/
def ClosesLine (text : String) : Prop :=
  ∃ front, text = front ++ "\n"

theorem ClosesLine.append {text more : String} (h : ClosesLine text)
    (hmore : more = "" ∨ ClosesLine more) : ClosesLine (text ++ more) := by
  rcases hmore with rfl | ⟨front, rfl⟩
  · rwa [String.append_empty]
  · exact ⟨text ++ front, String.append_assoc.symm⟩

theorem closesLine_join {pieces : List String} (h : ∀ piece ∈ pieces, ClosesLine piece) :
    String.join pieces = "" ∨ ClosesLine (String.join pieces) := by
  induction pieces with
  | nil => exact .inl rfl
  | cons piece pieces ih =>
    rw [List.forall_mem_cons] at h
    rw [String.join_cons]
    exact .inr (h.1.append (ih h.2))

/-- Empty pieces do not show in a text. -/
theorem join_map_ite (told : α → Bool) (piece : α → String) (items : List α) :
    String.join (items.map fun x => if told x then piece x else "") =
      String.join ((items.filter told).map piece) := by
  induction items with
  | nil => rfl
  | cons x items ih =>
    rw [List.map_cons, String.join_cons, ih]
    cases hx : told x with
    | false => rw [List.filter_cons_of_neg (by simp [hx]), if_neg (by simp), String.empty_append]
    | true =>
      rw [List.filter_cons_of_pos hx, List.map_cons, String.join_cons, if_pos rfl]

end JavaLex.Text

namespace JavaLex.Diagnostics
open Files Text

namespace Ledger
variable {l : Ledger} {p q : FilePath}

/-- The warnings of a file. -/
def warnings (l : Ledger) (p : FilePath) : List Event :=
  (l.events p).filter Event.isWarning

/-! ## The files that are there -/

theorem toList_eq (l : Ledger) : l.toList = l.files.paths.map fun p => (p, l.events p) := by
  rw [toList, PathMap.paths, List.map_map]
  refine List.map_congr_left fun entry hentry => ?_
  rw [Function.comp_apply, events, l.files.find?_of_mem hentry]
  rfl

theorem hasErrors_eq_any (l : Ledger) (p : FilePath) :
    l.hasErrors p = (l.events p).any Event.isError := by
  rw [hasErrors, errors, Bool.eq_iff_iff]
  simp

theorem failedPaths_eq (l : Ledger) : l.failedPaths = l.files.paths.filter l.hasErrors := by
  rw [failedPaths, toList_eq, List.filter_map, List.map_map]
  simp only [Function.comp_def, ← hasErrors_eq_any, List.map_id']

theorem hasErrors_congr (h : p.same q) : l.hasErrors p = l.hasErrors q := by
  rw [hasErrors, errors, events_congr l h, hasErrors, errors]

/-! ## What is counted -/

/-- No error but a warning. -/
def isWarned (l : Ledger) (p : FilePath) : Bool :=
  !l.hasErrors p && !(l.warnings p).isEmpty

/-- Neither an error nor a warning. -/
def isWell (l : Ledger) (p : FilePath) : Bool :=
  !l.hasErrors p && (l.warnings p).isEmpty

/-- One more file counts where it belongs. -/
theorem add_events (l : Ledger) (p : FilePath) (s : Summary) : s.add (l.events p) =
    { files := s.files + 1
      succeeded := s.succeeded + if l.isWell p then 1 else 0
      failed := s.failed + if l.hasErrors p then 1 else 0
      warned := s.warned + if l.isWarned p then 1 else 0
      errors := s.errors + (l.errors p).length
      warnings := s.warnings + (l.warnings p).length } := by
  have herrors : (l.events p).countP Event.isError = (l.errors p).length :=
    List.countP_eq_length_filter
  have hwarnings : (l.events p).countP Event.isWarning = (l.warnings p).length :=
    List.countP_eq_length_filter
  rw [Summary.add, herrors, hwarnings]
  by_cases he : l.errors p = [] <;> by_cases hw : l.warnings p = [] <;>
    simp [isWell, isWarned, hasErrors, he, hw, List.length_pos_iff]

theorem foldl_add (l : Ledger) (paths : List FilePath) (s : Summary) :
    paths.foldl (fun s p => s.add (l.events p)) s =
      { files := s.files + paths.length
        succeeded := s.succeeded + paths.countP l.isWell
        failed := s.failed + paths.countP l.hasErrors
        warned := s.warned + paths.countP l.isWarned
        errors := s.errors + (paths.map fun p => (l.errors p).length).foldr (· + ·) 0
        warnings := s.warnings + (paths.map fun p => (l.warnings p).length).foldr (· + ·) 0 } := by
  induction paths generalizing s with
  | nil => rfl
  | cons p paths ih =>
    rw [List.foldl_cons, ih, add_events]
    simp only [List.length_cons, List.countP_cons, List.map_cons, List.foldr_cons, Summary.mk.injEq]
    omega

theorem summary_eq (l : Ledger) : l.summary =
    { files := l.files.paths.length
      succeeded := l.files.paths.countP l.isWell
      failed := l.files.paths.countP l.hasErrors
      warned := l.files.paths.countP l.isWarned
      errors := (l.files.paths.map fun p => (l.errors p).length).foldr (· + ·) 0
      warnings := (l.files.paths.map fun p => (l.warnings p).length).foldr (· + ·) 0 } := by
  rw [summary, toList_eq, List.foldl_map, foldl_add]
  simp

/-- Every file is failed, warned about or well, and only one of these. -/
theorem length_eq_countP (l : Ledger) (paths : List FilePath) : paths.length =
    paths.countP l.hasErrors + paths.countP l.isWarned + paths.countP l.isWell := by
  induction paths with
  | nil => rfl
  | cons p paths ih =>
    rw [List.length_cons, List.countP_cons, List.countP_cons, List.countP_cons, ih, isWarned, isWell]
    cases l.hasErrors p <;> cases (l.warnings p).isEmpty <;> simp <;> omega

/-- No event is both an error and a warning. -/
theorem length_errors_add_le (l : Ledger) (p : FilePath) :
    (l.errors p).length + (l.warnings p).length ≤ (l.events p).length := by
  rw [errors, warnings, ← List.countP_eq_length_filter, ← List.countP_eq_length_filter,
    List.length_eq_countP_add_countP Event.isError]
  refine Nat.add_le_add_left (List.countP_mono_left fun e _ hwarning => ?_) _
  rw [Event.isWarning, beq_iff_eq] at hwarning
  simp [Event.isError, hwarning]

theorem size_eq (l : Ledger) :
    l.size = (l.files.paths.map fun p => (l.events p).length).foldr (· + ·) 0 := by
  have hsize : l.size = (l.toList.map fun file => file.2.length).foldr (· + ·) 0 := by
    rw [toList, List.map_map]
    rfl
  rw [hsize, toList_eq, List.map_map]
  rfl

theorem summary_le_size (l : Ledger) : l.summary.errors + l.summary.warnings ≤ l.size := by
  rw [summary_eq, size_eq]
  induction l.files.paths with
  | nil => exact Nat.le_refl 0
  | cons p paths ih =>
    have hp := l.length_errors_add_le p
    simp only [List.map_cons, List.foldr_cons] at ih ⊢
    omega

/-! ## Ledgers in use -/

/-- What is done to a ledger in the course of a session. -/
inductive Change where
  | record (path : FilePath) (event : Event)
  | keepSource (path : FilePath) (source : List Char)
  | clear

def change (l : Ledger) : Change → Ledger
  | .record p e => l.record p e
  | .keepSource p source => l.keepSource p source
  | .clear => l.clear

/-- A new ledger after some changes. -/
def changeAll (changes : List Change) : Ledger :=
  changes.foldl change {}

/-- A file that is there has an event. -/
def Occupied (l : Ledger) : Prop :=
  ∀ p events, l.files.find? p = some events → 0 < events.size

theorem occupied_change (h : l.Occupied) (c : Change) : (l.change c).Occupied := by
  cases c with
  | record p e => exact size_pos_record h
  | keepSource p source => exact h
  | clear =>
    intro p events hevents
    cases hevents

theorem occupied_changeAll (changes : List Change) : (changeAll changes).Occupied := by
  induction changes using List.reverseRecOn with
  | nil =>
    intro p events hevents
    cases hevents
  | append_singleton changes c ih =>
    rw [changeAll, List.foldl_append]
    exact occupied_change ih c

theorem exists_mem_paths (h : l.events p ≠ []) : ∃ q ∈ l.files.paths, q.same p := by
  obtain ⟨q, hsame, hq⟩ := exists_mem_toList h
  rw [toList_eq] at hq
  obtain ⟨q', hq', heq⟩ := List.mem_map.mp hq
  exact ⟨q, (Prod.mk.inj heq).1 ▸ hq', hsame⟩

theorem Occupied.events_ne_nil (h : l.Occupied) (hp : p ∈ l.files.paths) : l.events p ≠ [] := by
  obtain ⟨entry, hentry, rfl⟩ := List.mem_map.mp hp
  have hfind := l.files.find?_of_mem hentry
  have hsize := h _ _ hfind
  rw [events, hfind, Option.getD_some]
  exact List.ne_nil_of_length_pos hsize

/-! ## The summary -/

/-- The summary counts each file once, where it belongs, and the errors and warnings of all. -/
structure Partitions (l : Ledger) : Prop where
  pairwise : l.files.paths.Pairwise fun p q => p.same q = false
  /-- The files are those about which there are events. -/
  mem_iff : ∀ p, (∃ q ∈ l.files.paths, q.same p) ↔ l.events p ≠ []
  files_eq : l.summary.files = l.files.paths.length
  parts_eq : l.summary.files = l.summary.failed + l.summary.warned + l.summary.succeeded
  failed_eq : l.summary.failed = l.failedPaths.length
  warned_eq : l.summary.warned = l.files.paths.countP l.isWarned
  succeeded_eq : l.summary.succeeded = l.files.paths.countP l.isWell
  /-- The files that failed are those with an error, in the order of all files. -/
  failedPaths_eq : l.failedPaths = l.files.paths.filter l.hasErrors
  failed_iff : ∀ p, (∃ q ∈ l.failedPaths, q.same p) ↔ l.hasErrors p
  errors_eq : l.summary.errors =
    (l.files.paths.map fun p => (l.errors p).length).foldr (· + ·) 0
  warnings_eq : l.summary.warnings =
    (l.files.paths.map fun p => (l.warnings p).length).foldr (· + ·) 0
  le_size : l.summary.errors + l.summary.warnings ≤ l.size

theorem exists_mem_failedPaths_iff (l : Ledger) (p : FilePath) :
    (∃ q ∈ l.failedPaths, q.same p) ↔ l.hasErrors p := by
  rw [failedPaths_eq]
  constructor
  · rintro ⟨q, hq, hsame⟩
    rw [← hasErrors_congr hsame]
    exact (List.mem_filter.mp hq).2
  · intro herrors
    have hevents : l.events p ≠ [] := by
      intro hnone
      simp [hasErrors, errors, hnone] at herrors
    obtain ⟨q, hq, hsame⟩ := exists_mem_paths hevents
    rw [← hasErrors_congr hsame] at herrors
    exact ⟨q, List.mem_filter.mpr ⟨hq, herrors⟩, hsame⟩

theorem Occupied.partitions (h : l.Occupied) : Partitions l where
  pairwise := l.files.pairwise_paths
  mem_iff p := by
    refine ⟨?_, exists_mem_paths⟩
    rintro ⟨q, hq, hsame⟩
    rw [← events_congr l hsame]
    exact h.events_ne_nil hq
  files_eq := by rw [summary_eq]
  parts_eq := by
    rw [summary_eq]
    exact l.length_eq_countP l.files.paths
  failed_eq := by
    rw [summary_eq, failedPaths_eq]
    exact List.countP_eq_length_filter
  warned_eq := by rw [summary_eq]
  succeeded_eq := by rw [summary_eq]
  failedPaths_eq := l.failedPaths_eq
  failed_iff := l.exists_mem_failedPaths_iff
  errors_eq := by rw [summary_eq]
  warnings_eq := by rw [summary_eq]
  le_size := l.summary_le_size

/-! ## Blocks -/

/-- Whole lines, and on the first of them the word, the code of the event and its message. -/
structure IsBlockOf (word : String) (e : Event) (block : String) : Prop where
  opens : ∃ rest, block = s!"{word}[{e.code}]: {e.message}\n" ++ rest
  closes : ClosesLine block

/-- The place of the error, if it has one, stands on the second line. -/
structure IsErrorBlockOf (p : FilePath) (e : Event) (block : String) : Prop
    extends IsBlockOf "error" e block where
  placed : ∀ span ∈ e.span?, ∃ rest,
    block = s!"error[{e.code}]: {e.message}\n  --> {p}:{span.first}\n" ++ rest

/-- What is told of an error below its place. -/
def errorLines (l : Ledger) (p : FilePath) (e : Event) : String :=
  (l.excerpt? p e).getD "" ++
    s!"  = severity: {e.code.severity.name}, category: {e.code.category}\n" ++ detailLines e ++
    e.code.action?.elim "" fun text => s!"  = help: {text}\n"

theorem errorBlock_eq (l : Ledger) (p : FilePath) (e : Event) : l.errorBlock p e =
    s!"error[{e.code}]: {e.message}\n" ++
      (e.span?.elim "" fun span => s!"  --> {p}:{span.first}\n") ++ l.errorLines p e := by
  have hplace : "\n  --> " = "\n" ++ "  --> " := rfl
  unfold errorBlock errorLines
  cases e.span? with
  | none => simp only [Option.elim_none, String.append_empty, String.append_assoc]; rfl
  | some span => simp only [Option.elim_some, String.append_assoc, hplace]; rfl

theorem closesLine_detailLines (e : Event) : detailLines e = "" ∨ ClosesLine (detailLines e) := by
  refine closesLine_join fun piece hpiece => ?_
  obtain ⟨detail, -, rfl⟩ := List.mem_map.mp hpiece
  exact ⟨_, rfl⟩

theorem closesLine_errorLines (l : Ledger) (p : FilePath) (e : Event) :
    ClosesLine (l.errorLines p e) := by
  have hgrade : ClosesLine ((l.excerpt? p e).getD "" ++
      s!"  = severity: {e.code.severity.name}, category: {e.code.category}\n") :=
    ⟨_, String.append_assoc.symm⟩
  refine (hgrade.append (closesLine_detailLines e)).append ?_
  cases e.code.action? with
  | none => exact .inl rfl
  | some text => exact .inr ⟨_, rfl⟩

theorem isErrorBlockOf_errorBlock (l : Ledger) (p : FilePath) (e : Event) :
    IsErrorBlockOf p e (l.errorBlock p e) where
  opens := ⟨_, (l.errorBlock_eq p e).trans String.append_assoc⟩
  closes := by
    obtain ⟨front, hfront⟩ := l.closesLine_errorLines p e
    rw [errorBlock_eq, hfront, ← String.append_assoc]
    exact ⟨_, rfl⟩
  placed span hspan := by
    have hplace : "\n  --> " = "\n" ++ "  --> " := rfl
    refine ⟨l.errorLines p e, ?_⟩
    rw [errorBlock_eq, Option.mem_def.mp hspan]
    simp only [Option.elim_some, String.append_assoc, hplace]
    rfl

theorem isBlockOf_warningBlock (e : Event) : IsBlockOf "warning" e (warningBlock e) where
  opens := ⟨_, rfl⟩
  closes := ClosesLine.append ⟨_, rfl⟩ (closesLine_detailLines e)

/-! ## The report -/

/-- What a report says about one file: a block for each error and for each warning. -/
structure Group where
  path : FilePath
  errors : List String
  warnings : List String

def Group.text (g : Group) : String :=
  s!"Checking {g.path}...\n" ++ String.join g.errors ++ String.join g.warnings ++ "\n"

def group (l : Ledger) (p : FilePath) : Group where
  path := p
  errors := (l.errors p).map (l.errorBlock p)
  warnings := (l.warnings p).map warningBlock

/-- Something about the file is told in the report. -/
def isTold (l : Ledger) (p : FilePath) : Bool :=
  (l.events p).any Event.isFiled

def groups (l : Ledger) : List Group :=
  (l.files.paths.filter l.isTold).map l.group

/-- The last lines of a report. -/
def totals (l : Ledger) : String :=
  (if l.summary.hasErrors then s!"Total errors: {l.summary.errors}\n" else "") ++
    if l.summary.hasWarnings then s!"Total warnings: {l.summary.warnings}\n" else ""

theorem isTold_eq (l : Ledger) (p : FilePath) :
    l.isTold p = !((l.errors p).isEmpty && (l.warnings p).isEmpty) := by
  rw [isTold, errors, warnings, Bool.eq_iff_iff]
  simp only [List.any_eq_true, Event.isFiled, Bool.or_eq_true, Bool.not_and, Bool.not_eq_true',
    List.isEmpty_eq_false_iff_exists_mem, List.mem_filter, and_or_left, exists_or]

theorem fileBlock_events (l : Ledger) (p : FilePath) :
    l.fileBlock p (l.events p) = if l.isTold p then (l.group p).text else "" := by
  rw [isTold_eq]
  unfold fileBlock
  cases hnone : (l.errors p).isEmpty && (l.warnings p).isEmpty with
  | false => exact if_neg (by simpa [errors, warnings] using hnone)
  | true => exact if_pos (by simpa [errors, warnings] using hnone)

theorem report_eq (l : Ledger) : l.report = String.join (l.groups.map Group.text) ++ l.totals := by
  have hblocks : l.toList.map (fun file => l.fileBlock file.1 file.2) =
      l.files.paths.map fun p => if l.isTold p then (l.group p).text else "" := by
    rw [toList_eq, List.map_map]
    exact List.map_congr_left fun p _ => l.fileBlock_events p
  rw [report, hblocks, Text.join_map_ite, String.append_assoc, groups, List.map_map]
  rfl

theorem isTold_iff (l : Ledger) (p : FilePath) :
    l.isTold p ↔ ∃ e ∈ l.events p, e.isError ∨ e.isWarning := by
  simp only [isTold, List.any_eq_true, Event.isFiled, Bool.or_eq_true]

theorem exists_mem_groups_iff (l : Ledger) (p : FilePath) :
    (∃ g ∈ l.groups, g.path.same p) ↔ ∃ e ∈ l.events p, e.isError ∨ e.isWarning := by
  rw [← isTold_iff]
  constructor
  · rintro ⟨g, hg, hsame⟩
    obtain ⟨q, hq, rfl⟩ := List.mem_map.mp hg
    have hevents : l.events q = l.events p := events_congr l hsame
    rw [isTold, ← hevents]
    exact (List.mem_filter.mp hq).2
  · intro htold
    have hevents : l.events p ≠ [] := by
      intro hnone
      simp [isTold, hnone] at htold
    obtain ⟨q, hq, hsame⟩ := exists_mem_paths hevents
    rw [isTold, ← events_congr l hsame] at htold
    exact ⟨l.group q, List.mem_map_of_mem (List.mem_filter.mpr ⟨hq, htold⟩), hsame⟩

theorem isTold_eq_false_iff (l : Ledger) (p : FilePath) :
    l.isTold p = false ↔ l.errors p = [] ∧ l.warnings p = [] := by
  simp [isTold_eq]

/-- Files about which nothing is told have no blocks. -/
theorem length_flatMap_filter {blocks : FilePath → List String}
    (h : ∀ p, l.isTold p = false → blocks p = []) (paths : List FilePath) :
    ((paths.filter l.isTold).flatMap blocks).length =
      (paths.map fun p => (blocks p).length).foldr (· + ·) 0 := by
  induction paths with
  | nil => rfl
  | cons p paths ih =>
    rw [List.map_cons, List.foldr_cons, ← ih]
    cases hp : l.isTold p with
    | false => simp [hp, h p hp]
    | true => simp [hp]

theorem length_errors_groups (l : Ledger) :
    (l.groups.flatMap Group.errors).length = l.summary.errors := by
  rw [groups, List.flatMap_map, summary_eq]
  refine (length_flatMap_filter (fun p hp => ?_) _).trans ?_
  · rw [group, ((l.isTold_eq_false_iff p).mp hp).1, List.map_nil]
  · simp only [group, List.length_map]

theorem length_warnings_groups (l : Ledger) :
    (l.groups.flatMap Group.warnings).length = l.summary.warnings := by
  rw [groups, List.flatMap_map, summary_eq]
  refine (length_flatMap_filter (fun p hp => ?_) _).trans ?_
  · rw [group, ((l.isTold_eq_false_iff p).mp hp).2, List.map_nil]
  · simp only [group, List.length_map]

theorem group_ne_nil {g : Group} (h : g ∈ l.groups) : g.errors ≠ [] ∨ g.warnings ≠ [] := by
  obtain ⟨p, hp, rfl⟩ := List.mem_map.mp h
  rw [← not_and_or, group, List.map_eq_nil_iff, List.map_eq_nil_iff, ← isTold_eq_false_iff]
  simpa using (List.mem_filter.mp hp).2

/-- There is a report exactly if there is something to tell about a file. -/
theorem isSome_report?_iff (l : Ledger) :
    l.report?.isSome ↔ ∃ p, ∃ e ∈ l.events p, e.isError ∨ e.isWarning := by
  have hsome : l.report?.isSome ↔ 0 < l.summary.errors ∨ 0 < l.summary.warnings := by
    rw [report?, Option.isSome_ite, Bool.or_eq_true]
    simp only [Summary.hasErrors, Summary.hasWarnings, decide_eq_true_eq]
  rw [hsome, ← length_errors_groups, ← length_warnings_groups, List.length_pos_iff,
    List.length_pos_iff]
  simp only [ne_eq, List.flatMap_eq_nil_iff, not_forall]
  constructor
  · rintro (⟨g, hg, -⟩ | ⟨g, hg, -⟩) <;>
      exact ⟨g.path, (l.exists_mem_groups_iff g.path).mp ⟨g, hg, g.path.same_refl⟩⟩
  · rintro ⟨p, hp⟩
    obtain ⟨g, hg, -⟩ := (l.exists_mem_groups_iff p).mpr hp
    rcases group_ne_nil hg with herrors | hwarnings
    · exact .inl ⟨g, hg, herrors⟩
    · exact .inr ⟨g, hg, hwarnings⟩

/-- The report tells, file by file, of each error and each warning that the summary counts. -/
structure Reports (l : Ledger) (text? : Option String) : Prop where
  isSome_iff : text?.isSome ↔ ∃ p, ∃ e ∈ l.events p, e.isError ∨ e.isWarning
  text_eq : ∀ text ∈ text?, text = String.join (l.groups.map Group.text) ++ l.totals
  /-- Each file about which something is told has its group. -/
  group_iff : ∀ p, (∃ g ∈ l.groups, g.path.same p) ↔ ∃ e ∈ l.events p, e.isError ∨ e.isWarning
  pairwise : l.groups.Pairwise fun g g' => g.path.same g'.path = false
  /-- The blocks of a group are those of the errors and the warnings of its file. -/
  blocks_eq : ∀ g ∈ l.groups, g.errors = (l.errors g.path).map (l.errorBlock g.path) ∧
    g.warnings = (l.warnings g.path).map warningBlock
  /-- Each error of the file has its block, in their order, and so does each warning. -/
  errorBlocks : ∀ g ∈ l.groups, List.Forall₂ (IsErrorBlockOf g.path) (l.errors g.path) g.errors
  warningBlocks : ∀ g ∈ l.groups, List.Forall₂ (IsBlockOf "warning") (l.warnings g.path) g.warnings
  /-- All blocks are found in the text. -/
  holds : ∀ text ∈ text?, ∀ g ∈ l.groups, ∀ block ∈ g.errors ++ g.warnings, Holds text block
  errors_eq : (l.groups.flatMap Group.errors).length = l.summary.errors
  warnings_eq : (l.groups.flatMap Group.warnings).length = l.summary.warnings

theorem text_eq_of_report? {text : String} (h : text ∈ l.report?) :
    text = String.join (l.groups.map Group.text) ++ l.totals := by
  rw [report?, Option.mem_def, Option.ite_none_right_eq_some] at h
  rw [← report_eq, Option.some.inj h.2]

theorem Group.holds_text {g : Group} {block : String} (h : block ∈ g.errors ++ g.warnings) :
    Holds g.text block := by
  rcases List.mem_append.mp h with h | h
  · exact (((holds_append_self _ _).append _).append _).trans (holds_join h)
  · exact ((holds_append_self _ _).append _).trans (holds_join h)

theorem reports (l : Ledger) : Reports l l.report? where
  isSome_iff := l.isSome_report?_iff
  text_eq _ := text_eq_of_report?
  group_iff := l.exists_mem_groups_iff
  pairwise := List.pairwise_map.mpr (l.files.pairwise_paths.filter l.isTold)
  blocks_eq g hg := by
    obtain ⟨p, -, rfl⟩ := List.mem_map.mp hg
    exact ⟨rfl, rfl⟩
  errorBlocks g hg := by
    obtain ⟨p, -, rfl⟩ := List.mem_map.mp hg
    exact List.forall₂_map_right_iff.mpr
      (List.forall₂_same.mpr fun e _ => l.isErrorBlockOf_errorBlock p e)
  warningBlocks g hg := by
    obtain ⟨p, -, rfl⟩ := List.mem_map.mp hg
    exact List.forall₂_map_right_iff.mpr
      (List.forall₂_same.mpr fun e _ => isBlockOf_warningBlock e)
  holds text htext g hg block hblock := by
    rw [text_eq_of_report? htext]
    exact ((holds_join (List.mem_map_of_mem hg)).trans (Group.holds_text hblock)).append _
  errors_eq := l.length_errors_groups
  warnings_eq := l.length_warnings_groups

theorem exists_block {R : Event → String → Prop} {events : List Event} {blocks : List String}
    (h : List.Forall₂ R events blocks) {e : Event} (he : e ∈ events) :
    ∃ block ∈ blocks, R e block := by
  induction h with
  | nil => cases he
  | cons hblock _ ih =>
    rcases List.mem_cons.mp he with rfl | he
    · exact ⟨_, List.mem_cons_self, hblock⟩
    · obtain ⟨block, hmem, hblock⟩ := ih he
      exact ⟨block, List.mem_cons_of_mem _ hmem, hblock⟩

theorem IsBlockOf.holds {word block : String} {e : Event} (h : IsBlockOf word e block) :
    Holds block s!"{word}[{e.code}]: {e.message}\n" := by
  obtain ⟨rest, rfl⟩ := h.opens
  exact ⟨"", rest, by rw [String.empty_append]⟩

namespace Reports
variable {text? : Option String} {text : String} {e : Event}

theorem exists_group (h : Reports l text?) (he : e ∈ l.events p) (hfiled : e.isError ∨ e.isWarning) :
    ∃ g ∈ l.groups, l.events g.path = l.events p := by
  obtain ⟨g, hg, hsame⟩ := (h.group_iff p).mpr ⟨e, he, hfiled⟩
  exact ⟨g, hg, events_congr l hsame⟩

/-- Every error is found in the text. -/
theorem holds_error (h : Reports l text?) (htext : text ∈ text?) (he : e ∈ l.errors p) :
    Holds text s!"error[{e.code}]: {e.message}\n" := by
  obtain ⟨hmem, herror⟩ := List.mem_filter.mp he
  obtain ⟨g, hg, hevents⟩ := h.exists_group hmem (.inl herror)
  have he' : e ∈ l.errors g.path := by rwa [errors, hevents]
  obtain ⟨block, hblock, htells⟩ := exists_block (h.errorBlocks g hg) he'
  exact (h.holds text htext g hg block (List.mem_append_left _ hblock)).trans htells.holds

/-- Every warning is found in the text. -/
theorem holds_warning (h : Reports l text?) (htext : text ∈ text?) (he : e ∈ l.warnings p) :
    Holds text s!"warning[{e.code}]: {e.message}\n" := by
  obtain ⟨hmem, hwarning⟩ := List.mem_filter.mp he
  obtain ⟨g, hg, hevents⟩ := h.exists_group hmem (.inr hwarning)
  have he' : e ∈ l.warnings g.path := by rwa [warnings, hevents]
  obtain ⟨block, hblock, htells⟩ := exists_block (h.warningBlocks g hg) he'
  exact (h.holds text htext g hg block (List.mem_append_right _ hblock)).trans htells.holds

end Reports

/-- However a ledger comes about, its summary adds up, and the report of a session that has it
agrees with the summary. -/
theorem partitions_changeAll (changes : List Change) (s : Session) :
    Partitions (changeAll changes) ∧
      Reports (changeAll changes) { s with ledger := some (changeAll changes) }.report? :=
  ⟨(occupied_changeAll changes).partitions, (changeAll changes).reports⟩

/-- An error, a warning and a piece of news, each about its own file. -/
def threefold : List Change :=
  [.record ⟨"Broken.java"⟩ (.error Code.invalidComment "Invalid comment"),
    .record ⟨"Large.java"⟩ (.warning Code.largeFile "Large file"),
    .record ⟨"Clean.java"⟩ (.success Code.tokenizationComplete "done")]

/-- One of three files fails and one is warned about, and the report tells of both. -/
theorem partitions_changeAll_threefold :
    (changeAll threefold).summary = ⟨3, 1, 1, 1, 1, 1⟩ ∧
    ∃ text, ({ ledger := some (changeAll threefold) } : Session).report? = some text ∧
      Holds text "error[E022]: Invalid comment\n" ∧ Holds text "warning[W010]: Large file\n" := by
  obtain ⟨-, hreports⟩ := partitions_changeAll threefold {}
  have herror : ∃ e ∈ (changeAll threefold).errors ⟨"Broken.java"⟩,
      s!"error[{e.code}]: {e.message}\n" = "error[E022]: Invalid comment\n" := by decide +kernel
  have hwarning : ∃ e ∈ (changeAll threefold).warnings ⟨"Large.java"⟩,
      s!"warning[{e.code}]: {e.message}\n" = "warning[W010]: Large file\n" := by decide +kernel
  obtain ⟨e, he, hsaid⟩ := herror
  obtain ⟨w, hw, hwarned⟩ := hwarning
  obtain ⟨hmem, hlevel⟩ := List.mem_filter.mp he
  obtain ⟨text, htext⟩ := Option.isSome_iff_exists.mp
    (hreports.isSome_iff.mpr ⟨_, e, hmem, .inl hlevel⟩)
  refine ⟨by decide +kernel, text, htext, ?_, ?_⟩
  · exact hsaid ▸ hreports.holds_error htext he
  · exact hwarned ▸ hreports.holds_warning htext hw

end Ledger
end JavaLex.Diagnostics
