import JavaLex.Proofs.Diagnostics.Quoting
import JavaLex.Proofs.Listing.Pointing

/-! # Texts listed one after the other

A session may list many texts, and several under one name. A text that fails adds its error to
those of its name and puts itself in the place of the text that failed before it. So in the end each
error is shown with a line of the last text that failed under its name, which is its own only if the
two agree there.
-/
namespace JavaLex
open Diagnostics Files Scan Source

namespace Diagnostics.Session
variable {s : Session} {context : FileContext} {ledger : Ledger}

theorem sources_collect (s : Session) (e : Event) :
    (s.collect e).ledger.map Ledger.sources = s.ledger.map Ledger.sources := by
  unfold collect
  split
  case h_1 context ledger _ hledger =>
    rw [hledger, Option.map_some, Option.map_some, Ledger.sources_record]
  case h_2 => rfl

theorem sources_post (s : Session) (r : Report) :
    (s.post r).ledger.map Ledger.sources = s.ledger.map Ledger.sources := by
  obtain ⟨topic, message, span?, details⟩ := r
  cases topic with
  | error code | warning code =>
    exact (sources_collect _ _).trans (congrArg _ (ledger_dispatch _ _))
  | success code | info => exact congrArg _ (ledger_dispatch _ _)
  | debug =>
    unfold post
    dsimp only
    split
    · exact congrArg _ (ledger_dispatch _ _)
    · rfl

theorem sources_postAll (s : Session) (reports : List Report) :
    (s.postAll reports).ledger.map Ledger.sources = s.ledger.map Ledger.sources := by
  induction reports generalizing s with
  | nil => rfl
  | cons r reports ih => exact (ih (s.post r)).trans (sources_post s r)

/-- With a file at hand, reports do nothing to the ledger but record their errors and warnings. -/
theorem ledger_postAll (hcontext : s.context = some context) (hledger : s.ledger = some ledger)
    (reports : List Report) : (s.postAll reports).ledger = some (ledger.recordAll
      (((s.toldAll reports).filter Event.isFiled).map (context.path, ·))) := by
  obtain ⟨⟨files, sources⟩, hafter, hfiles⟩ :=
    (tells_postAll s reports).filed context ledger hcontext hledger
  have hafter : (s.postAll reports).ledger = some ⟨files, sources⟩ := hafter
  have hsources := sources_postAll s reports
  rw [hafter, hledger, Option.map_some, Option.map_some, Option.some.injEq] at hsources
  rw [hafter, Option.some.injEq]
  have heta : ∀ l : Ledger, l = ⟨l.files, l.sources⟩ := fun _ => rfl
  rw [heta (ledger.recordAll _), ← hfiles, Ledger.sources_recordAll, ← hsources]

end Diagnostics.Session

/-- A text that is listed under a name. -/
structure TextUnit where
  name : String
  text : String
  options : ScanOptions := {}
  deriving DecidableEq

namespace TextUnit

def path (u : TextUnit) : FilePath := ⟨u.name⟩

def source (u : TextUnit) : LineIndex :=
  LineIndex.ofSource u.text.toList

def error? (u : TextUnit) : Option LexicalError :=
  (scan u.text.toList).error?

/-- The session in which the text was listed. -/
def list (u : TextUnit) (s : Session) : Session :=
  (Listing.ofText u.options u.name u.text s).2

def listAll (units : List TextUnit) (s : Session) : Session :=
  units.foldl (fun s u => u.list s) s

@[simp] theorem listAll_cons (u : TextUnit) (units : List TextUnit) (s : Session) :
    listAll (u :: units) s = listAll units (u.list s) :=
  List.foldl_cons

theorem listAll_append (units more : List TextUnit) (s : Session) :
    listAll (units ++ more) s = listAll more (listAll units s) :=
  List.foldl_append

def failsUnder (p : FilePath) (u : TextUnit) : Bool :=
  u.error?.isSome && u.path.same p

def lastFailing? (p : FilePath) (units : List TextUnit) : Option TextUnit :=
  (units.filter (failsUnder p)).getLast?

theorem lastFailing?_cons (p : FilePath) (u : TextUnit) (units : List TextUnit) :
    lastFailing? p (u :: units) =
      (lastFailing? p units).or (if u.failsUnder p then some u else none) := by
  unfold lastFailing?
  by_cases h : u.failsUnder p
  · rw [List.filter_cons_of_pos h, List.getLast?_cons, if_pos h]
    cases (units.filter (failsUnder p)).getLast? <;> rfl
  · rw [List.filter_cons_of_neg h, if_neg h, Option.or_none]

/-- Where no later text fails under the path, the text itself is the last one. -/
theorem lastFailing?_cons_self {p : FilePath} {u : TextUnit} (h : u.failsUnder p)
    (units : List TextUnit) :
    lastFailing? p (u :: units) = some ((lastFailing? p units).getD u) := by
  rw [lastFailing?_cons, if_pos h]
  cases lastFailing? p units <;> rfl

section Step
variable {u : TextUnit} {s : Session} {l l' : Ledger} {p : FilePath}

/-! ## One text -/

/-- What listing a text does to the ledger. If it fails, one of the events is an error, and the text
is kept. -/
inductive Takes (u : TextUnit) (l : Ledger) : Ledger → Prop where
  | listed : u.error? = none → Takes u l l
  | failed {error : LexicalError} {told : List Event} {e : Event} : u.error? = some error →
      told.filter Event.isError = [e] → e.span? = (Listing.errorReport u.text error).span? →
      Takes u l ((l.recordAll (told.map (u.path, ·))).keepSource u.path u.text.toList)

theorem exists_place {error : LexicalError} (h : u.error? = some error) :
    ∃ fault line column, error = .atToken fault line column := by
  cases hscan : scan u.text.toList with
  | mk tokens error? =>
    rw [TextUnit.error?, hscan] at h
    exact Scanner.exists_place_of_run (hscan.trans (congrArg (Outcome.mk tokens) h))

theorem ledger_list_of_ok {tokens : Array Token} (h : scan u.text.toList = ⟨tokens, none⟩)
    (s : Session) : (u.list s).ledger = s.ledger := by
  unfold list Listing.ofText Session.within
  dsimp only
  rw [Listing.scanText_of_ok u.options h]
  exact Session.ledger_dispatch _ _

theorem ledger_list_of_error {tokens : Array Token} {error : LexicalError}
    (h : scan u.text.toList = ⟨tokens, some error⟩) (hledger : s.ledger = some l) :
    ∃ (told : List Event) (e : Event), (u.list s).ledger =
        some ((l.recordAll (told.map (u.path, ·))).keepSource u.path u.text.toList) ∧
      told.filter Event.isError = [e] ∧
      e.span? = (Listing.errorReport u.text error).span? := by
  let reports := Listing.failureReports u.options u.text tokens error
  let entered := (s.enter u.path 0).now.2
  have hcontext : entered.context = some ⟨u.path, 0⟩ := rfl
  have hentered : entered.ledger = some l := hledger
  have hafter := Session.ledger_postAll hcontext hentered reports
  have hcontext' : (entered.postAll reports).context = some ⟨u.path, 0⟩ :=
    (Session.tells_postAll entered reports).context_eq.trans hcontext
  obtain ⟨e, herror, hspan⟩ := Listing.exists_told_error u.options u.text tokens error entered
  refine ⟨(entered.toldAll reports).filter Event.isFiled, e, ?_, ?_, hspan⟩
  · unfold list Listing.ofText Session.within
    dsimp only
    rw [Listing.scanText_of_error u.options h]
    change ((entered.postAll reports).keepSource u.text.toList).ledger = _
    simp only [Session.keepSource, hcontext', hafter]
  · have hfiled : ∀ x ∈ entered.toldAll reports, (x.isError && x.isFiled) = x.isError := by
      intro x _
      cases hx : x.isError <;> simp [Event.isFiled, hx]
    rw [List.filter_filter, List.filter_congr hfiled, herror]

theorem takes_list (u : TextUnit) (h : s.ledger = some l) :
    ∃ l', (u.list s).ledger = some l' ∧ Takes u l l' := by
  cases hscan : scan u.text.toList with
  | mk tokens error? =>
    have herror : u.error? = error? := congrArg Outcome.error? hscan
    cases error? with
    | none => exact ⟨l, (ledger_list_of_ok hscan s).trans h, .listed herror⟩
    | some error =>
      obtain ⟨told, e, hledger, he, hspan⟩ := ledger_list_of_error hscan h
      exact ⟨_, hledger, .failed herror he hspan⟩

namespace Takes
variable (h : Takes u l l')
include h

theorem size_le : l.size ≤ l'.size := by
  cases h with
  | listed => exact Nat.le_refl _
  | failed => exact Ledger.size_le_recordAll

theorem events_prefix (p : FilePath) : l.events p <+: l'.events p := by
  cases h with
  | listed => exact List.prefix_rfl
  | failed => exact Ledger.events_prefix_recordAll

theorem find?_sources (p : FilePath) : l'.sources.find? p =
    if u.failsUnder p then some u.source else l.sources.find? p := by
  cases h with
  | listed hnone =>
    rw [failsUnder, hnone]
    rfl
  | failed herror =>
    rw [Ledger.find?_sources_keepSource, Ledger.sources_recordAll, failsUnder, herror]
    rfl

/-- If there is room left, the error is filed. -/
theorem exists_error {error : LexicalError} (herror : u.error? = some error)
    (hroom : l'.size < Ledger.errorLimit) : ∃ (told : List Event) (e : Event),
      l'.events u.path = l.events u.path ++ told ∧ told.filter Event.isError = [e] ∧
      e.span? = (Listing.errorReport u.text error).span? := by
  cases h with
  | listed hnone =>
    rw [hnone] at herror
    cases herror
  | @failed error' told e herror' he hspan =>
    obtain rfl : error' = error := Option.some.inj (herror'.symm.trans herror)
    refine ⟨told, e, Ledger.events_recordAll ?_, he, hspan⟩
    simpa using Ledger.size_add_length_le hroom

end Takes
end Step

/-! ## Many texts -/

section Run
variable {u : TextUnit} {units before after : List TextUnit} {s : Session} {l l' : Ledger}

/-- What listing texts one after the other does to the ledger. -/
structure TakesAll (units : List TextUnit) (l l' : Ledger) : Prop where
  size_le : l.size ≤ l'.size
  events_prefix : ∀ p, l.events p <+: l'.events p
  /-- The text that is kept for a path is the last one that failed under it. -/
  find?_sources : ∀ p, l'.sources.find? p =
    ((lastFailing? p units).map source).or (l.sources.find? p)

theorem Takes.cons {middle : Ledger} (h : Takes u l middle) (hrest : TakesAll units middle l') :
    TakesAll (u :: units) l l' where
  size_le := h.size_le.trans hrest.size_le
  events_prefix p := (h.events_prefix p).trans (hrest.events_prefix p)
  find?_sources p := by
    rw [hrest.find?_sources p, h.find?_sources p, lastFailing?_cons]
    cases lastFailing? p units with
    | some v => rfl
    | none => cases u.failsUnder p <;> rfl

theorem TakesAll.mem_errors {p : FilePath} {e : Event} (h : TakesAll units l l')
    (he : e ∈ l.errors p) : e ∈ l'.errors p := by
  obtain ⟨hmem, hisError⟩ := List.mem_filter.mp he
  exact List.mem_filter.mpr ⟨(h.events_prefix p).subset hmem, hisError⟩

theorem takesAll_listAll (units : List TextUnit) (h : s.ledger = some l) :
    ∃ l', (listAll units s).ledger = some l' ∧ TakesAll units l l' := by
  induction units generalizing s l with
  | nil => exact ⟨l, h, Nat.le_refl _, fun _ => List.prefix_rfl, fun _ => rfl⟩
  | cons u units ih =>
    obtain ⟨middle, hmiddle, htakes⟩ := takes_list u h
    obtain ⟨l', hl', hrest⟩ := ih hmiddle
    rw [listAll_cons]
    exact ⟨l', hl', htakes.cons hrest⟩

/-- In the report of `l` the error `e` of the text `u` stands above a line of the text `v`. -/
structure ShownWith (l : Ledger) (u v : TextUnit) (e : Event) (span : Span) : Prop where
  span?_eq : e.span? = some span
  /-- The error points into its own text. -/
  points : ∃ fault line column, u.error? = some (.atToken fault line column) ∧
    span = Span.single (u.source.positionOf line column)
  /-- The report has a block on the error, and the line is in this block. -/
  reported : ∃ q, q.same u.path ∧ Text.Holds l.report (l.errorBlock q e) ∧
    ∀ shown, v.source.excerpt? span = some shown → Text.Holds (l.errorBlock q e) shown
  excerpt?_eq : ∀ q, q.same u.path → l.excerpt? q e = v.source.excerpt? span
  own_iff : l.excerpt? u.path e = u.source.excerpt? span ↔
    v.source.line? span.first.line = u.source.line? span.first.line

/-- What is kept under the name decides on the line. -/
theorem ShownWith.of_source {v : TextUnit} {e : Event} {span : Span} (hspan : e.span? = some span)
    (hpoints : ∃ fault line column, u.error? = some (.atToken fault line column) ∧
      span = Span.single (u.source.positionOf line column))
    (hmem : e ∈ l.errors u.path) (hsource : l.sources.find? u.path = some v.source) :
    ShownWith l u v e span := by
  have hexcerpt : ∀ q, q.same u.path → l.excerpt? q e = v.source.excerpt? span := by
    intro q hq
    rw [Ledger.excerpt?_congr hq, Ledger.excerpt?, hspan, hsource]
    rfl
  obtain ⟨q, hq, hblock⟩ := Ledger.exists_holds_errorBlock hmem
  refine ⟨hspan, hpoints, ⟨q, hq, hblock, ?_⟩, hexcerpt, ?_⟩
  · intro shown hshown
    exact Ledger.holds_errorBlock ((hexcerpt q hq).trans hshown)
  · rw [hexcerpt u.path (FilePath.same_refl _)]
    exact LineIndex.excerpt?_eq_iff

/-- However many texts are listed, while the ledger has room each failure adds one error to those of
its name, and this error is shown with its line of the last text that failed under the name. -/
theorem shown_with_last_failing {error : LexicalError} (hledger : s.ledger = some l)
    (herror : u.error? = some error) :
    ∃ l', (listAll (before ++ u :: after) s).ledger = some l' ∧ (l'.size < Ledger.errorLimit →
      ∃ (m m' : Ledger) (told : List Event) (e : Event) (v : TextUnit) (span : Span),
        (listAll before s).ledger = some m ∧ (u.list (listAll before s)).ledger = some m' ∧
        m'.events u.path = m.events u.path ++ told ∧ told.filter Event.isError = [e] ∧
        lastFailing? u.path (u :: after) = some v ∧ ShownWith l' u v e span) := by
  obtain ⟨m, hm, -⟩ := takesAll_listAll before hledger
  obtain ⟨m', hm', htakes⟩ := takes_list u hm
  obtain ⟨l', hl', hrest⟩ := takesAll_listAll after hm'
  refine ⟨l', by rw [listAll_append, listAll_cons, hl'], fun hroom => ?_⟩
  obtain ⟨fault, line, column, rfl⟩ := exists_place herror
  obtain ⟨told, e, hevents, he, hspan⟩ :=
    htakes.exists_error herror (Nat.lt_of_le_of_lt hrest.size_le hroom)
  have hfails : u.failsUnder u.path := by
    rw [failsUnder, herror, FilePath.same_refl]
    rfl
  have hlast := lastFailing?_cons_self hfails after
  have hsource := (htakes.cons hrest).find?_sources u.path
  rw [hlast] at hsource
  have hmem : e ∈ m'.errors u.path := by
    rw [Ledger.errors, hevents, List.filter_append, he]
    exact List.mem_append_right _ (List.mem_singleton_self e)
  exact ⟨m, m', told, e, _, _, hm, hm', hevents, he, hlast,
    .of_source hspan ⟨fault, line, column, herror, rfl⟩ (hrest.mem_errors hmem) hsource⟩

/-- Two texts of one name. -/
def hashText : TextUnit :=
  { name := "A.java", text := "int a = #;\n" }

def emptyCharacterText : TextUnit :=
  { name := "A.java", text := "char b = '';\n" }

/-- What is reported of the first of them. -/
def hashError : Event where
  level := .error
  code := Code.unexpectedCharacter
  message := "Unexpected character '#' at line: 1 column: 9"
  span? := some (Span.single ⟨8, 1, 9⟩)
  details := [("file", "A.java"), ("file_id", "0")]
  time := ⟨2⟩

theorem exists_ledger_twice : ∃ l,
    (listAll [hashText, emptyCharacterText] { ledger := some {} }).ledger = some l ∧
      l.size < Ledger.errorLimit := by
  have hsize : (listAll [hashText, emptyCharacterText] { ledger := some {} }).ledger.map
      Ledger.size = some 4 := by decide +kernel
  obtain ⟨l, hl, hfour⟩ := Option.map_eq_some_iff.mp hsize
  refine ⟨l, hl, ?_⟩
  rw [hfour]
  decide

theorem shown_with_last_failing_twice : ∃ l e span,
    (listAll ([] ++ hashText :: [emptyCharacterText]) { ledger := some {} }).ledger = some l ∧
      l.size < Ledger.errorLimit ∧
      hashText.error? = some (.atToken (.unexpectedCharacter '#') 1 9) ∧
      ShownWith l hashText emptyCharacterText e span := by
  obtain ⟨l, hl, hroom⟩ := exists_ledger_twice
  rw [← List.nil_append [hashText, emptyCharacterText]] at hl
  have hledger : ({ ledger := some {} } : Session).ledger = some {} := rfl
  have herror : hashText.error? = some (.atToken (.unexpectedCharacter '#') 1 9) := by
    decide +kernel
  obtain ⟨l', hl', hrest⟩ := shown_with_last_failing hledger herror
  obtain rfl : l = l' := Option.some.inj (hl.symm.trans hl')
  obtain ⟨_, _, _, e, v, span, _, _, _, _, hv, hshown⟩ := hrest hroom
  have hlast : lastFailing? hashText.path [hashText, emptyCharacterText] =
      some emptyCharacterText := by decide +kernel
  rw [hlast, Option.some.injEq] at hv
  subst hv
  exact ⟨l, e, span, hl, hroom, herror, hshown⟩

/-- The error of the first text is shown with the line of the second. -/
theorem shown_with_other_text : ∃ m l,
    (listAll [hashText] { ledger := some {} }).ledger = some m ∧
      m.errors hashText.path = [hashError] ∧
      (listAll [hashText, emptyCharacterText] { ledger := some {} }).ledger = some l ∧
      l.size < Ledger.errorLimit ∧ hashError ∈ l.errors hashText.path ∧
      hashError.span?.bind hashText.source.excerpt? =
        some "  |\n1 | int a = #;\n  |         ^\n" ∧
      l.excerpt? hashText.path hashError = some "  |\n1 | char b = '';\n  |         ^\n" := by
  have herrors : (listAll [hashText] { ledger := some {} }).ledger.map
      (·.errors hashText.path) = some [hashError] := by decide +kernel
  have hshown : (listAll [hashText, emptyCharacterText] { ledger := some {} }).ledger.map
      (fun l => (decide (hashError ∈ l.errors hashText.path),
        l.excerpt? hashText.path hashError)) =
      some (true, some "  |\n1 | char b = '';\n  |         ^\n") := by decide +kernel
  obtain ⟨m, hm, hmerrors⟩ := Option.map_eq_some_iff.mp herrors
  obtain ⟨l, hl, hroom⟩ := exists_ledger_twice
  rw [hl, Option.map_some, Option.some.injEq, Prod.mk.injEq] at hshown
  exact ⟨m, l, hm, hmerrors, hl, hroom, of_decide_eq_true hshown.1, by decide +kernel, hshown.2⟩

end Run
end TextUnit
end JavaLex
