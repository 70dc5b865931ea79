import JavaLex.Proofs.Batch.Discovery
import JavaLex.Proofs.Files.Extension
import JavaLex.Proofs.Files.Requests

/-! # Sources that are links

A link is found by its own name, but read under the name of the file that it leads to. So a source
that is found is objected to as one of another kind exactly if that file has another name, and only
if it is found by a link.
-/
namespace JavaLex
open Diagnostics Files

namespace FileRules

/-- A file is refused for its extension or, if that is not required, warned about for it. -/
def ObjectsToExtension (rules : FileRules) (t : FileTree) (p : FilePath) : Prop :=
  if rules.requireExtension then ∃ found?, (rules.read t p).2 = .error (.wrongExtension found?)
  else ∃ report ∈ (rules.read t p).1, report.topic = .warning Code.extensionMismatch

/-- The size is one that the rules let through. -/
def AllowsSize (rules : FileRules) (size : Nat) : Prop :=
  size ≤ maxFileSize ∧ ¬(size = 0 ∧ rules.rejectEmpty)

theorem exists_mem_warnings {p : FilePath} {facts : FileFacts} :
    (∃ report ∈ warnings p facts, report.topic = .warning Code.extensionMismatch) ↔
      ¬facts.isSource := by
  have hlarge : Code.largeFile ≠ Code.extensionMismatch := by decide
  unfold warnings
  split <;> split <;> simp_all [Report.warning]

theorem sparesExtension_of_textAt {t : FileTree} {p : FilePath} {place : Place} {refusal : Refusal}
    (h : textAt t p place = .error refusal) : refusal.SparesExtension := by
  unfold textAt at h
  split at h
  case h_1 fault _ =>
    cases h
    exact Refusal.sparesExtension_ofFault _ _ _ _
  case h_2 =>
    dsimp only at h
    split at h
    · cases h
      simp [Refusal.SparesExtension]
    · cases h

theorem refusal?_of_size {rules : FileRules} {p : FilePath} {facts : FileFacts}
    (h : ¬rules.AllowsSize facts.size) :
    ∃ refusal, rules.refusal? p facts = some refusal ∧ refusal.SparesExtension := by
  by_cases hlarge : maxFileSize < facts.size
  · exact ⟨_, if_pos hlarge, by simp [Refusal.SparesExtension]⟩
  · have hempty : facts.size = 0 ∧ rules.rejectEmpty := by
      by_contra hempty
      exact h ⟨Nat.le_of_not_lt hlarge, hempty⟩
    exact ⟨_, (if_neg hlarge).trans (if_pos hempty), by simp [Refusal.SparesExtension]⟩

theorem refusal?_of_allowed {rules : FileRules} {p : FilePath} {facts : FileFacts}
    (h : rules.AllowsSize facts.size) : rules.refusal? p facts =
      if !facts.isSource ∧ rules.requireExtension then
        some ⟨.wrongExtension facts.extension?, "File does not have the .java extension",
          [("file", p.spelling), ("extension", facts.extensionText)]⟩
      else none := by
  rw [refusal?, if_neg (Nat.not_lt.mpr h.1), if_neg h.2]

theorem topic_report_ne (refusal : Refusal) (code : Code) :
    refusal.report.topic ≠ .warning code := by
  simp [Refusal.report, Report.error]

/-- A file that is refused for another reason, with no warning before, is not objected to. -/
theorem not_objectsToExtension {rules : FileRules} {t : FileTree} {p : FilePath} {refusal : Refusal}
    (before : List Report) (h : rules.read t p = (before ++ [refusal.report], .error refusal.error))
    (hspares : refusal.SparesExtension)
    (hbefore : ∀ report ∈ before, report.topic ≠ .warning Code.extensionMismatch) :
    ¬rules.ObjectsToExtension t p := by
  rw [ObjectsToExtension, h]
  split
  case isTrue => simpa [Refusal.SparesExtension] using hspares
  case isFalse =>
    rintro ⟨report, hreport, htopic⟩
    rcases List.mem_append.mp hreport with hreport | hreport
    · exact hbefore report hreport htopic
    · cases List.mem_singleton.mp hreport
      exact topic_report_ne refusal _ htopic

/-- The extension is looked at after the size, and it is the one of the place. -/
theorem objectsToExtension_iff {t : FileTree} {p : FilePath} {place : Place} (rules : FileRules)
    (hplace : t.resolve p = .ok place) (hfile : place.entry.isFile) :
    rules.ObjectsToExtension t p ↔ t.Shows p place ∧
      rules.AllowsSize (FileFacts.ofPlace place).size ∧ ¬(FileFacts.ofPlace place).isSource := by
  by_cases hshows : t.Shows p place
  · rw [and_iff_right hshows]
    have hfind := find_of_shows hshows hfile
    generalize FileFacts.ofPlace place = facts at hfind ⊢
    have hfacts : ∀ report ∈ [facts.report], report.topic ≠ .warning Code.extensionMismatch := by
      simp [FileFacts.report, Report.debug]
    by_cases hsize : rules.AllowsSize facts.size
    · rw [ObjectsToExtension, read, hfind]
      dsimp only
      rw [refusal?_of_allowed hsize]
      by_cases hrefused : (!facts.isSource) ∧ rules.requireExtension
      · rw [if_pos hrefused, if_pos hrefused.2]
        simpa [hsize] using hrefused.1
      · rw [if_neg hrefused]
        dsimp only
        split
        case isTrue hrequired =>
          have hsource : facts.isSource := by simpa [hrequired] using hrefused
          cases hread : textAt t p place with
          | error refusal => simpa [hsource, Refusal.SparesExtension] using sparesExtension_of_textAt hread
          | ok found => simp [hsource]
        case isFalse =>
          cases hread : textAt t p place with
          | error refusal =>
            simp_all [topic_report_ne, or_and_right, exists_or, exists_mem_warnings]
          | ok found => simp_all [exists_mem_warnings]
    · obtain ⟨refusal, hrefusal, hspares⟩ := refusal?_of_size (p := p) hsize
      refine iff_of_false (not_objectsToExtension [facts.report] ?_ hspares hfacts)
        fun h => hsize h.1
      rw [read, hfind]
      dsimp only
      rw [hrefusal]
      rfl
  · refine iff_of_false ?_ fun h => hshows h.1
    rcases find_cases t p with ⟨found, hfound, -⟩ | ⟨refusal, hfind, hspares⟩
    · cases hplace.symm.trans hfound.resolve_eq
      exact absurd hfound hshows
    · refine not_objectsToExtension [] ?_ hspares (by simp)
      rw [read, hfind]
      rfl

end FileRules

namespace Files
namespace FileTree
variable {t : FileTree}

/-- The path ends in the name of a link. -/
def IsLink (t : FileTree) (p : FilePath) : Prop :=
  ∃ q name holder target, p = q.join name ∧ isEntryName name ∧ t.resolve q = .ok holder ∧
    holder.entry.child? name = some (.link target)

/-- Without a link at the end of its path a file has the name that it is found by. -/
theorem getLast?_of_resolve_join {p : FilePath} {name : String} {place : Place}
    (hp : p.spelling ≠ "") (hname : isEntryName name) (h : t.resolve (p.join name) = .ok place)
    (hlink : ¬t.IsLink (p.join name)) : place.names.getLast? = some name := by
  obtain ⟨holder, entries, child, hholder, hchild, hplace⟩ := resolve_of_join hp hname h
  have hsolid : ∀ target, child ≠ .link target := by
    rintro target rfl
    exact hlink ⟨p, name, _, target, rfl, hname, hholder, hchild⟩
  rw [hplace hsolid]
  simp

end FileTree

/-- A file below a directory is an entry of one. -/
theorem FilePath.IsBelow.exists_join {t : FileTree} {p directory : FilePath}
    (h : p.IsBelow directory) (hdirectory : t.isDirectory directory) (hfile : t.isFile p) :
    ∃ (q : FilePath) (name : String), q.spelling ≠ "" ∧ isEntryName name ∧ p = q.join name := by
  obtain ⟨names, hnames, rfl⟩ := h
  obtain ⟨holder, entries, hholder⟩ := FileTree.isDirectory_iff.mp hdirectory
  rcases List.eq_nil_or_concat names with rfl | ⟨front, name, rfl⟩
  · obtain ⟨here, content, hplace⟩ := FileTree.isFile_iff.mp hfile
    cases hholder.symm.trans hplace
  · rw [List.concat_eq_append] at hnames ⊢
    refine ⟨directory.descend front, name, ?_, hnames name (by simp), ?_⟩
    · exact spelling_descend_ne_empty (FileTree.resolve_eq_ok_iff.mp hholder).1 front
    · exact List.foldl_append

end Files

namespace BatchOptions
variable {o : BatchOptions} {t : FileTree} {directory : FilePath} {paths : List FilePath}

/-- A source that is found is objected to exactly if the file that its path leads to is shown and
has another name and a size that is let through, and then it is found by a link. -/
theorem objectsToExtension_iff_of_discovered (s : Session)
    (hfound : (o.discover t directory s).1 = .ok paths) {p : FilePath} (hp : p ∈ paths)
    (rules : FileRules) :
    ∃ place, t.resolve p = .ok place ∧
      (rules.ObjectsToExtension t p ↔ t.Shows p place ∧
        rules.AllowsSize (FileFacts.ofPlace place).size ∧
        ¬∃ name ∈ place.names.getLast?, IsSourceName name) ∧
      (rules.ObjectsToExtension t p → t.IsLink p) := by
  obtain ⟨hdirectory, found, hsources, hfront⟩ := exists_found hfound
  obtain ⟨hsource, hbelow⟩ :=
    FileTree.of_mem_sourcesWithin hsources (List.mem_mergeSort.mp (hfront.mem hp))
  rw [FileTree.isSource, Bool.and_eq_true] at hsource
  obtain ⟨q, name, hq, hname, rfl⟩ := hbelow.exists_join hdirectory hsource.1
  obtain ⟨here, content, hplace⟩ := FileTree.isFile_iff.mp hsource.1
  have hobjects := FileRules.objectsToExtension_iff rules hplace rfl
  rw [FileFacts.isSource_ofPlace (FileTree.isEntryName_of_resolve hplace)] at hobjects
  refine ⟨_, hplace, hobjects, fun hobjected => ?_⟩
  by_contra hlink
  have hlast := FileTree.getLast?_of_resolve_join hq hname hplace hlink
  exact (hobjects.mp hobjected).2.2 ⟨name, hlast, (q.hasSourceExtension_join hname).mp hsource.2⟩

/-- A link with the name of a source that leads to a file with another one. -/
def disguised : FileTree where
  root := .directory [("A.java", .link "data.txt"), ("data.txt", .file "class A {}".toUTF8)]
  working := []

theorem discover_disguised : (({ threads := 1 } : BatchOptions).discover disguised ⟨"/"⟩ {}).1 =
    .ok [⟨"/A.java"⟩] := by
  have hdirectory : disguised.isDirectory ⟨"/"⟩ := by decide +kernel
  have hfound : disguised.sources true ⟨"/"⟩ = .ok [⟨"/A.java"⟩] := rfl
  have horder : inOrder [⟨"/A.java"⟩] = [⟨"/A.java"⟩] := List.mergeSort_of_pairwise (by simp)
  simp [discover, sources, hdirectory, hfound, limited, horder, fileLimit]

theorem objectsToExtension_disguised (rules : FileRules) :
    rules.ObjectsToExtension disguised ⟨"/A.java"⟩ := by
  have hplace : disguised.resolve ⟨"/A.java"⟩ = .ok ⟨["data.txt"], .file "class A {}".toUTF8⟩ := rfl
  have hsize : (FileFacts.ofPlace ⟨["data.txt"], .file "class A {}".toUTF8⟩).size = 10 := by
    decide +kernel
  have hother : ¬IsSourceName "data.txt" := by
    intro hsource
    obtain ⟨extension, hextension, hlower⟩ := FilePath.isSourceName_iff.mp hsource
    have htext : FilePath.extensionOf? "data.txt" = some "txt" := by decide
    cases htext.symm.trans hextension
    exact absurd hlower (by decide)
  rw [FileRules.objectsToExtension_iff rules hplace rfl, FileRules.AllowsSize, hsize,
    FileFacts.isSource_ofPlace (FileTree.isEntryName_of_resolve hplace)]
  exact ⟨⟨hplace, by decide, rfl, rfl⟩, ⟨by decide, by simp⟩, by simpa using hother⟩

/-- Whatever the rules, they object to a source that is found. -/
theorem discovered_yet_objected :
    (({ threads := 1 } : BatchOptions).discover disguised ⟨"/"⟩ {}).1 = .ok [⟨"/A.java"⟩] ∧
      ∀ rules : FileRules, rules.ObjectsToExtension disguised ⟨"/A.java"⟩ :=
  ⟨discover_disguised, objectsToExtension_disguised⟩

/-- The source that is objected to is found by a link. -/
theorem objectsToExtension_iff_of_discovered_disguised :
    (({ threads := 1 } : BatchOptions).discover disguised ⟨"/"⟩ {}).1 = .ok [⟨"/A.java"⟩] ∧
      disguised.IsLink ⟨"/A.java"⟩ := by
  obtain ⟨place, -, -, hlink⟩ := objectsToExtension_iff_of_discovered {} discover_disguised
    (List.mem_singleton_self _) {}
  exact ⟨discover_disguised, hlink (objectsToExtension_disguised {})⟩

end BatchOptions
end JavaLex
