import JavaLex.Batch.Discovery
import JavaLex.Proofs.Files.Naming
import JavaLex.Proofs.Lexicon.Blank

/-! # Names of sources

A name is one of a Java source if the extension behind its last dot is, in any mixture of cases. No
letter outside ASCII has a small form among those of the extension, so it makes no difference
whether the cases of ASCII or of all letters are ignored.
-/
namespace JavaLex
open Text Files

namespace Unicode

theorem caseRuns_tail : caseRuns.toList.tail.all (fun r => 128 ≤ r.first) = true := by
  decide +kernel

/-- Within ASCII only the first run has capitals. -/
theorem find?_caseRuns_of_ascii {n : Nat} (h : n < 128) : caseRuns.find? (·.covers n) =
    if 0x41 ≤ n ∧ n ≤ 0x5A then some ⟨0x41, 0x5A, 1, 32⟩ else none := by
  have hfront : caseRuns.toList = ⟨0x41, 0x5A, 1, 32⟩ :: caseRuns.toList.tail := rfl
  have hrest : caseRuns.toList.tail.find? (·.covers n) = none := by
    rw [List.find?_eq_none]
    intro r hr
    have hfirst := of_decide_eq_true (List.all_eq_true.mp caseRuns_tail r hr)
    simp only [CaseRun.covers, Bool.and_eq_true, decide_eq_true_eq]
    omega
  rw [← Array.find?_toList, hfront, List.find?_cons, hrest]
  by_cases hcapital : 0x41 ≤ n ∧ n ≤ 0x5A
  · rw [if_pos hcapital]
    simp [CaseRun.covers, hcapital, Nat.mod_one]
  · have hmiss : CaseRun.covers ⟨0x41, 0x5A, 1, 32⟩ n = false := by
      simp [CaseRun.covers]
      omega
    rw [if_neg hcapital, hmiss]

theorem lowerChar_of_ascii {c : Char} (h : c.toNat < 128) : lowerChar c = [c.toLower] := by
  have hcapital : ∀ n < 128, 0x41 ≤ n ∧ n ≤ 0x5A →
      Char.ofNat (n + 32) = (Char.ofNat n).toLower := by
    decide +kernel
  have hother : ∀ n < 128, ¬(0x41 ≤ n ∧ n ≤ 0x5A) → Char.ofNat n = (Char.ofNat n).toLower := by
    decide +kernel
  have hdotted : (c.toNat == 0x130) = false := by
    simp only [beq_eq_false_iff_ne]
    omega
  rw [lowerChar, hdotted, find?_caseRuns_of_ascii h]
  by_cases hrange : 0x41 ≤ c.toNat ∧ c.toNat ≤ 0x5A
  · have hlower := hcapital c.toNat h hrange
    rw [Char.ofNat_toNat] at hlower
    rw [if_pos hrange, ← hlower]
    rfl
  · have hlower := hother c.toNat h hrange
    rw [Char.ofNat_toNat] at hlower
    rw [if_neg hrange, ← hlower]
    rfl

theorem toNat_of_mem_sourceExtension {x : Char} (hx : x ∈ sourceExtension.toList) :
    x.toNat ≠ 0 ∧ x.toNat < 128 := by
  have hletters : sourceExtension.toList = ['j', 'a', 'v', 'a'] := rfl
  have hcases : x = 'j' ∨ x = 'a' ∨ x = 'v' ∨ x = 'a' := by simpa [hletters] using hx
  rcases hcases with rfl | rfl | rfl | rfl <;> decide

theorem toLower_of_not_ascii {c : Char} (h : ¬c.toNat < 128) : c.toLower = c := by
  unfold Char.toLower
  split
  case isTrue hcapital => exact absurd (Nat.lt_of_le_of_lt hcapital.2 (by decide)) h
  case isFalse => rfl

/-- A number that is no code point gives the character zero. -/
theorem toNat_of_ofNat {n : Nat} {c : Char} (h : Char.ofNat n = c) (hc : c.toNat ≠ 0) :
    n = c.toNat := by
  by_cases hn : n.isValidChar
  · have hvalid : Char.ofNat n = Char.ofNatAux n hn := dif_pos hn
    rw [← h, hvalid]
    rfl
  · have hzero : Char.ofNat n = '\x00' := dif_neg hn
    rw [← h, hzero] at hc
    exact absurd rfl hc

theorem lowerChar_ne_nil (c : Char) : lowerChar c ≠ [] := by
  unfold lowerChar
  split
  · simp
  · split <;> simp

/-- Outside ASCII no capital of the run has a letter of the extension for its small form. -/
def CaseRun.sparesExtension (r : CaseRun) : Bool :=
  sourceExtension.toList.all fun x =>
    !r.covers ((x.toNat : Int) - r.shift).toNat || decide (((x.toNat : Int) - r.shift).toNat < 128)

theorem caseRuns_spareExtension : caseRuns.toList.all CaseRun.sparesExtension = true := by
  decide +kernel

theorem CaseRun.of_find? {runs : Array CaseRun} {n : Nat} {r : CaseRun}
    (h : runs.find? (·.covers n) = some r) : r ∈ runs ∧ r.covers n := by
  have hcovers := Array.find?_some h
  exact ⟨Array.mem_of_find?_eq_some h, hcovers⟩

/-- The letters of the extension are the small forms of no letters outside ASCII. -/
theorem ascii_of_lowerChar {c x : Char} {rest : List Char} (hx : x ∈ sourceExtension.toList)
    (h : lowerChar c = x :: rest) : c.toNat < 128 := by
  unfold lowerChar at h
  split at h
  · cases h
    exact absurd hx (by decide)
  · split at h
    case h_1 r hr =>
      have hpos : x.toNat ≠ 0 := (toNat_of_mem_sourceExtension hx).1
      have hpoint : (c.toNat + r.shift).toNat = x.toNat := toNat_of_ofNat (List.cons.inj h).1 hpos
      have hback : ((x.toNat : Int) - r.shift).toNat = c.toNat := by omega
      obtain ⟨hmem, hcovers⟩ := CaseRun.of_find? hr
      have hrun := List.all_eq_true.mp caseRuns_spareExtension r (Array.mem_toList_iff.mpr hmem)
      have hletter := List.all_eq_true.mp hrun x hx
      simpa [hback, hcovers] using hletter
    case h_2 =>
      cases h
      exact (toNat_of_mem_sourceExtension hx).2

/-- What one character comes to between those before it, read backwards, and those after it. -/
def lowered (before : List Char) (c : Char) (s : List Char) : List Char :=
  if c == 'Σ' then [if sigmaIsFinal before s then 'ς' else 'σ'] else lowerChar c

theorem lowerFrom_step (before : List Char) (c : Char) (s done : List Char) :
    lowerFrom before (c :: s) done =
      lowerFrom (c :: before) s ((lowered before c s).reverse ++ done) := by
  rw [lowerFrom, lowered]
  split <;> rfl

theorem lowerFrom_eq (before s done : List Char) :
    lowerFrom before s done = done.reverse ++ lowerFrom before s [] := by
  induction s generalizing before done with
  | nil => simp [lowerFrom]
  | cons c s ih =>
    rw [lowerFrom_step, lowerFrom_step, ih, ih (c :: before) (_ ++ [])]
    simp

theorem lowerFrom_cons (before : List Char) (c : Char) (s : List Char) :
    lowerFrom before (c :: s) [] = lowered before c s ++ lowerFrom (c :: before) s [] := by
  rw [lowerFrom_step, lowerFrom_eq]
  simp

theorem lowered_of_ascii {c : Char} (h : c.toNat < 128) (before s : List Char) :
    lowered before c s = [c.toLower] := by
  rw [lowered, if_neg, lowerChar_of_ascii h]
  simp only [beq_iff_eq]
  rintro rfl
  revert h
  decide

theorem exists_lowered {c : Char} (h : ¬c.toNat < 128) (before s : List Char) :
    ∃ x rest, lowered before c s = x :: rest ∧ x ∉ sourceExtension.toList := by
  unfold lowered
  split
  · refine ⟨_, [], rfl, ?_⟩
    split <;> decide
  · cases hlower : lowerChar c with
    | nil => exact absurd hlower (lowerChar_ne_nil c)
    | cons x rest => exact ⟨x, rest, rfl, fun hx => h (ascii_of_lowerChar hx hlower)⟩

theorem lowerFrom_eq_iff {target : List Char} (htarget : ∀ x ∈ target, x ∈ sourceExtension.toList)
    (before s : List Char) : lowerFrom before s [] = target ↔ s.map Char.toLower = target := by
  induction s generalizing before target with
  | nil => rfl
  | cons c s ih =>
    rw [lowerFrom_cons, List.map_cons]
    by_cases hc : c.toNat < 128
    · rw [lowered_of_ascii hc, List.singleton_append]
      cases target with
      | nil => simp
      | cons x target =>
        rw [List.forall_mem_cons] at htarget
        rw [List.cons.injEq, List.cons.injEq, ih htarget.2]
    · obtain ⟨x, rest, hlowered, hx⟩ := exists_lowered hc before s
      rw [hlowered, toLower_of_not_ascii hc]
      constructor
      · rintro rfl
        exact absurd (htarget x List.mem_cons_self) hx
      · rintro rfl
        exact absurd (toNat_of_mem_sourceExtension (htarget c List.mem_cons_self)).2 hc

/-- A text is the extension in all small letters if it is in those of ASCII. -/
theorem lower_eq_sourceExtension_iff {text : String} :
    lower text = sourceExtension ↔ text.toList.map Char.toLower = sourceExtension.toList := by
  rw [← String.toList_inj, lower, String.toList_ofList]
  exact lowerFrom_eq_iff (fun x hx => hx) [] text.toList

end Unicode

namespace Files

/-- A name with something before its last dot and the extension of Java sources behind, in any
mixture of cases. -/
def IsSourceName (name : String) : Prop :=
  ∃ stem extension, stem ≠ "" ∧ name = stem ++ "." ++ extension ∧
    extension.toList.map Char.toLower = sourceExtension.toList

namespace FilePath

theorem extensionOf?_eq_some_iff {name extension : String} :
    extensionOf? name = some extension ↔
      '.' ∉ extension.toList ∧ ∃ stem, stem ≠ "" ∧ name = stem ++ "." ++ extension := by
  simp only [extensionOf?]
  constructor
  · intro h
    split at h
    case isFalse => cases h
    case isTrue hlength =>
      cases h
      obtain ⟨rest, hname, htail, hstop⟩ := Lexicon.takeWhile_eq_iff.mp
        (rfl : name.toList.reverse.takeWhile (· ≠ '.') = _)
      generalize name.toList.reverse.takeWhile (· ≠ '.') = tail at hname htail hlength
      have hrest : tail.length + rest.length = name.length := by
        rw [← List.length_append, ← hname, List.length_reverse, String.length_toList]
      rcases rest with _ | ⟨dot, _ | ⟨last, stem⟩⟩
      · rw [List.length_nil] at hrest
        omega
      · rw [List.length_singleton] at hrest
        omega
      · have hdot : dot = '.' := by simpa using hstop
        refine ⟨by simpa using fun h => htail '.' h, String.ofList (last :: stem).reverse, ?_, ?_⟩
        · simp [← String.toList_inj]
        · rw [← String.toList_inj, ← List.reverse_inj, hname, hdot]
          simp
  · rintro ⟨hdot, stem, hstem, rfl⟩
    have htail : (stem ++ "." ++ extension).toList.reverse.takeWhile (· ≠ '.') =
        extension.toList.reverse := by
      refine Lexicon.takeWhile_eq_iff.mpr ⟨'.' :: stem.toList.reverse, by simp, ?_, by simp⟩
      intro c hc
      have hne : c ≠ '.' := fun h => hdot (h ▸ List.mem_reverse.mp hc)
      simpa using hne
    have hpos : 0 < stem.length := Nat.pos_of_ne_zero (by simpa using hstem)
    have hlength : (stem ++ "." ++ extension).length = stem.length + 1 + extension.length := by
      rw [String.length_append, String.length_append]
      rfl
    rw [htail, hlength, List.length_reverse, String.length_toList, if_pos (by omega)]
    simp

theorem isSourceName_iff {name : String} : IsSourceName name ↔
    ∃ extension, extensionOf? name = some extension ∧
      extension.toList.map Char.toLower = sourceExtension.toList := by
  constructor
  · rintro ⟨stem, extension, hstem, hname, hlower⟩
    have hdot : '.' ∉ extension.toList := by
      intro hdot
      have hmem := List.mem_map_of_mem (f := Char.toLower) hdot
      rw [hlower] at hmem
      exact absurd hmem (by decide)
    exact ⟨extension, extensionOf?_eq_some_iff.mpr ⟨hdot, stem, hstem, hname⟩, hlower⟩
  · rintro ⟨extension, hextension, hlower⟩
    obtain ⟨-, stem, hstem, hname⟩ := extensionOf?_eq_some_iff.mp hextension
    exact ⟨stem, extension, hstem, hname, hlower⟩

theorem fileName?_join (p : FilePath) {name : String} (h : isEntryName name) :
    (p.join name).fileName? = some name := by
  rw [fileName?, components_join p h]
  simp [Component.name?]

theorem hasSourceExtension_join (p : FilePath) {name : String} (h : isEntryName name) :
    hasSourceExtension (p.join name) ↔ IsSourceName name := by
  rw [hasSourceExtension, extension?, fileName?_join p h, Option.bind_some, Option.any_eq_true,
    isSourceName_iff]
  simp

theorem parts_intercalate {names : List String} (hne : names ≠ [])
    (h : ∀ name ∈ names, isEntryName name) : (mk (String.intercalate "/" names)).parts = names := by
  induction names with
  | nil => exact absurd rfl hne
  | cons name names ih =>
    rw [List.forall_mem_cons] at h
    cases names with
    | nil =>
      rw [String.intercalate_singleton]
      exact parts_of_isEntryName h.1
    | cons next names =>
      have hspelling : (String.intercalate "/" (name :: next :: names)).toList =
          name.toList ++ '/' :: (String.intercalate "/" (next :: names)).toList := by
        rw [String.intercalate_cons_cons]
        simp
      rw [parts_of_toList (p := ⟨String.intercalate "/" (name :: next :: names)⟩) hspelling]
      change (mk name).parts ++ (mk (String.intercalate "/" (next :: names))).parts = _
      rw [parts_of_isEntryName h.1, ih (List.cons_ne_nil next names) h.2]
      rfl

end FilePath

theorem Place.components_path {place : Place} (h : ∀ name ∈ place.names, isEntryName name) :
    place.path.components = .root :: place.names.map .name := by
  have hspelling : place.path.spelling.toList =
      [] ++ '/' :: (String.intercalate "/" place.names).toList := by
    simp [path]
  have habsolute : place.path.isAbsolute := by
    rw [FilePath.isAbsolute, hspelling]
    rfl
  have hsolid : place.path.parts.filter (fun part => part ≠ "" && part ≠ ".") = place.names := by
    rw [FilePath.parts_of_toList hspelling]
    change ("" :: (FilePath.mk (String.intercalate "/" place.names)).parts).filter _ = _
    cases hnames : place.names with
    | nil => decide
    | cons name names =>
      rw [← hnames, FilePath.parts_intercalate (by simp [hnames]) h]
      simpa [List.filter_eq_self] using fun part hpart =>
        And.intro (isEntryName_iff.mp (h part hpart)).1 (isEntryName_iff.mp (h part hpart)).2.1
  rw [FilePath.components, if_pos habsolute, hsolid, List.singleton_append]
  congr 1
  apply List.map_congr_left
  intro name hname
  rw [Component.ofText, if_neg (isEntryName_iff.mp (h name hname)).2.2.1]

/-- The path of a place ends in its own name. -/
theorem Place.fileName?_path {place : Place} (h : ∀ name ∈ place.names, isEntryName name) :
    place.path.fileName? = place.names.getLast? := by
  rw [FilePath.fileName?, components_path h]
  rcases List.eq_nil_or_concat place.names with hnames | ⟨front, name, hnames⟩
  · rw [hnames]
    rfl
  · simp [hnames, List.getLast?_cons, Component.name?]

/-- What is known about a file tells a source by its own name. -/
theorem FileFacts.isSource_ofPlace {place : Place} (h : ∀ name ∈ place.names, isEntryName name) :
    (FileFacts.ofPlace place).isSource ↔ ∃ name ∈ place.names.getLast?, IsSourceName name := by
  rw [isSource, ofPlace, beq_iff_eq, Option.map_eq_some_iff, FilePath.extension?,
    Place.fileName?_path h]
  cases place.names.getLast? with
  | none => simp
  | some name =>
    simp [FilePath.isSourceName_iff, Unicode.lower_eq_sourceExtension_iff]

end Files
end JavaLex
