import JavaLex.Proofs.Files.Extension
import JavaLex.Proofs.Files.Requests
import JavaLex.Proofs.Listing.Untimed
import JavaLex.Proofs.Text.Cut

/-! # Which files are read

A file that may be read is read if it meets all that is asked of it. What is asked has an order, from
the path over the size and the name to the bytes and the lines, and of what is not met the first
decides the error.
-/
namespace JavaLex
open Diagnostics Files Text

namespace Files

/-- The path leads to a file with this content, and to it the names from the root. -/
def FileTree.LeadsTo (t : FileTree) (p : FilePath) (names : List String) (content : ByteArray) :
    Prop :=
  t.resolve p = .ok ⟨names, .file content⟩

theorem FileTree.LeadsTo.unique {t : FileTree} {p : FilePath} {names names' : List String}
    {content content' : ByteArray} (h : t.LeadsTo p names content)
    (h' : t.LeadsTo p names' content') : names = names' ∧ content = content' := by
  cases h.symm.trans h'
  exact ⟨rfl, rfl⟩

/-- What is asked of a path and of the file that it leads to. -/
inductive Demand where
  | named
  | present
  | regular
  | small
  | filled
  | suffixed
  | textual
  | short
  deriving DecidableEq

namespace Demand

/-- In the order in which they are looked at. -/
def all : List Demand :=
  [named, present, regular, small, filled, suffixed, textual, short]

/-- What is asked of the file itself. -/
def Suits (rules : FileRules) (names : List String) (content : ByteArray) : Demand → Prop
  | small => content.size ≤ maxFileSize
  | filled => rules.rejectEmpty → content.size ≠ 0
  | suffixed => rules.requireExtension → ∃ name ∈ names.getLast?, IsSourceName name
  | textual => ∃ text : String, content = text.toUTF8
  | short => ∃ (text : String) (n : Nat), content = text.toUTF8 ∧ HasLines text.toList n ∧
      n ≤ maxLineCount
  | _ => True

def Met (rules : FileRules) (t : FileTree) (p : FilePath) : Demand → Prop
  | named => p.spelling ≠ ""
  | present => ∃ place, t.resolve p = .ok place
  | d => ∃ names content, t.LeadsTo p names content ∧ d.Suits rules names content

/-- The error if a demand is not met. -/
inductive Refuses (t : FileTree) (p : FilePath) : Demand → FileError → Prop where
  | named : Refuses t p named (.notFile p.spelling)
  | present : Refuses t p present (.notFound p.spelling)
  | regular : Refuses t p regular (.notFile p.spelling)
  | small {names : List String} {content : ByteArray} : t.LeadsTo p names content →
      Refuses t p small (.tooLarge content.size maxFileSize)
  | filled : Refuses t p filled .empty
  | suffixed {names : List String} {content : ByteArray} : t.LeadsTo p names content →
      Refuses t p suffixed
        (.wrongExtension ((names.getLast?.bind FilePath.extensionOf?).map Unicode.lower))
  | textual {names : List String} {content : ByteArray} : t.LeadsTo p names content →
      Refuses t p textual (.notText ("/" ++ String.intercalate "/" names))
  | short {names : List String} {text : String} {n : Nat} : t.LeadsTo p names text.toUTF8 →
      HasLines text.toList n → Refuses t p short (.tooManyLines n maxLineCount)

/-- The first demand that is not met. -/
def IsFirstUnmet (rules : FileRules) (t : FileTree) (p : FilePath) (d : Demand) : Prop :=
  ∃ before after, all = before ++ d :: after ∧ (∀ earlier ∈ before, earlier.Met rules t p) ∧
    ¬d.Met rules t p

/-- The path is refused for the first demand that is not met. -/
def Refused (rules : FileRules) (t : FileTree) (p : FilePath) (e : FileError) : Prop :=
  ∃ d, IsFirstUnmet rules t p d ∧ Refuses t p d e

variable {rules : FileRules} {t : FileTree} {p : FilePath} {d d' : Demand} {e e' : FileError}
  {names : List String} {content : ByteArray}

/-- Once the path leads to a file, that file decides. -/
theorem met_iff (h : t.LeadsTo p names content) (d : Demand) :
    d.Met rules t p ↔ d.Suits rules names content := by
  have hfile : ∀ d : Demand, (∃ names content, t.LeadsTo p names content ∧
      d.Suits rules names content) ↔ d.Suits rules names content := by
    intro d
    constructor
    · rintro ⟨names', content', h', hsuits⟩
      obtain ⟨rfl, rfl⟩ := h.unique h'
      exact hsuits
    · exact fun hsuits => ⟨names, content, h, hsuits⟩
  cases d
  case named => exact iff_of_true (FileTree.resolve_eq_ok_iff.mp h).1 trivial
  case present => exact iff_of_true ⟨_, h⟩ trivial
  all_goals exact hfile _

theorem IsFirstUnmet.unique (h : IsFirstUnmet rules t p d) (h' : IsFirstUnmet rules t p d') :
    d = d' := by
  obtain ⟨before, after, hall, hbefore, hd⟩ := h
  obtain ⟨before', after', hall', hbefore', hd'⟩ := h'
  rcases List.append_eq_append_iff.mp (hall.symm.trans hall') with
    ⟨_ | ⟨first, between⟩, rfl, heq⟩ | ⟨_ | ⟨first, between⟩, rfl, heq⟩
  · exact (List.cons.inj heq).1
  · obtain ⟨rfl, -⟩ := List.cons.inj heq
    exact absurd (hbefore' d (by simp)) hd
  · exact (List.cons.inj heq).1.symm
  · obtain ⟨rfl, -⟩ := List.cons.inj heq
    exact absurd (hbefore d' (by simp)) hd'

theorem Refuses.unique (h : Refuses t p d e) (h' : Refuses t p d e') : e = e' := by
  cases h with
  | small h =>
    cases h' with | small h' =>
    obtain ⟨rfl, rfl⟩ := h.unique h'
    rfl
  | suffixed h =>
    cases h' with | suffixed h' =>
    obtain ⟨rfl, rfl⟩ := h.unique h'
    rfl
  | textual h =>
    cases h' with | textual h' =>
    obtain ⟨rfl, rfl⟩ := h.unique h'
    rfl
  | short h hlines =>
    cases h' with | short h' hlines' =>
    obtain ⟨-, hbytes⟩ := h.unique h'
    cases String.toByteArray_inj.mp hbytes
    rw [hasLines_iff.mp hlines, hasLines_iff.mp hlines']
  | named | present | regular | filled =>
    cases h'
    rfl

theorem Refused.unique (h : Refused rules t p e) (h' : Refused rules t p e') : e = e' := by
  obtain ⟨d, hfirst, hrefuses⟩ := h
  obtain ⟨d', hfirst', hrefuses'⟩ := h'
  cases hfirst.unique hfirst'
  exact hrefuses.unique hrefuses'

theorem Refused.exists_not_met (h : Refused rules t p e) : ∃ d : Demand, ¬d.Met rules t p := by
  obtain ⟨d, ⟨-, -, -, -, hd⟩, -⟩ := h
  exact ⟨d, hd⟩

/-- The file is refused if it does not suit what comes next after all that it suits. -/
theorem refused_of_leadsTo (h : t.LeadsTo p names content) (before : List Demand)
    {after : List Demand}
    (hall : all = [named, present, regular] ++ (before ++ d :: after))
    (hbefore : ∀ d ∈ before, d.Suits rules names content) (hd : ¬d.Suits rules names content)
    (hrefuses : Refuses t p d e) : Refused rules t p e := by
  have hleads : ∀ d ∈ [named, present, regular], d.Suits rules names content := by simp [Suits]
  refine ⟨d, ⟨[named, present, regular] ++ before, after, by simpa using hall, ?_, ?_⟩, hrefuses⟩
  · intro earlier hearlier
    exact (met_iff h earlier).mpr (List.forall_mem_append.mpr ⟨hleads, hbefore⟩ earlier hearlier)
  · rwa [met_iff h]

end Demand
end Files

namespace FileRules
open Demand
variable {rules : FileRules} {t : FileTree} {p : FilePath} {names : List String}
  {content : ByteArray}

/-- Where the path leads, if not to a file, is asked for first. -/
theorem found_or_refused (rules : FileRules) (h : t.Permits p) :
    (∃ names content, t.LeadsTo p names content ∧ find t p =
        .ok (⟨names, .file content⟩, FileFacts.ofPlace ⟨names, .file content⟩)) ∨
      ∃ refusal, find t p = .error refusal ∧ Refused rules t p refusal.error := by
  by_cases hnamed : p.spelling = ""
  · have hlocate : locate t p = .error ⟨.notFile p.spelling, "Empty file path provided", []⟩ :=
      if_pos (by simpa using hnamed)
    refine .inr ⟨_, by rw [find, hlocate]; rfl, .named, ⟨[], _, rfl, by simp, ?_⟩, .named⟩
    exact not_not_intro hnamed
  · have hp : ¬p.spelling.isEmpty := by simpa using hnamed
    cases hplace : t.resolve p with
    | error fault =>
      have hlocate : locate t p =
          .error ⟨.notFound p.spelling, "File not found", [("path", p.spelling)]⟩ := by
        rw [locate, if_neg hp, FileTree.exists?, hplace]
        rfl
      refine .inr ⟨_, by rw [find, hlocate]; rfl, .present, ⟨[.named], _, rfl, ?_, ?_⟩, .present⟩
      · exact List.forall_mem_singleton.mpr hnamed
      · rintro ⟨place, hok⟩
        cases hplace.symm.trans hok
    | ok place =>
      rcases place with ⟨names, content | target | entries⟩
      · exact .inl ⟨names, content, hplace, find_of_shows (h _ hplace).1 rfl⟩
      all_goals
        have hlocate : locate t p =
            .error ⟨.notFile p.spelling, "Path is not a file", [("path", p.spelling)]⟩ := by
          rw [locate, if_neg hp, FileTree.exists?, FileTree.isFile, hplace]
          rfl
        refine .inr ⟨_, by rw [find, hlocate]; rfl, .regular, ⟨[.named, .present], _, rfl, ?_, ?_⟩,
          .regular⟩
        · exact List.forall_mem_cons.mpr ⟨hnamed, List.forall_mem_singleton.mpr ⟨_, hplace⟩⟩
        · rintro ⟨names', content', h, -⟩
          cases hplace.symm.trans h

/-- The size comes before the name. -/
theorem refusal?_cases (rules : FileRules) (h : t.LeadsTo p names content) :
    (rules.refusal? p (FileFacts.ofPlace ⟨names, .file content⟩) = none ∧
        ∀ d ∈ [small, filled, suffixed], d.Suits rules names content) ∨
      ∃ refusal, rules.refusal? p (FileFacts.ofPlace ⟨names, .file content⟩) = some refusal ∧
        Refused rules t p refusal.error := by
  have hsource := FileFacts.isSource_ofPlace (FileTree.isEntryName_of_resolve h)
  have hextension : (FileFacts.ofPlace ⟨names, .file content⟩).extension? =
      (names.getLast?.bind FilePath.extensionOf?).map Unicode.lower := by
    rw [FileFacts.ofPlace, FilePath.extension?,
      Place.fileName?_path (FileTree.isEntryName_of_resolve h)]
  have hsize : (FileFacts.ofPlace ⟨names, .file content⟩).size = content.size := rfl
  rw [refusal?, hsize]
  by_cases hsmall : small.Suits rules names content
  · rw [if_neg (Nat.not_lt.mpr hsmall)]
    by_cases hfilled : filled.Suits rules names content
    · rw [if_neg fun hempty => hfilled hempty.2 hempty.1]
      by_cases hsuffixed : suffixed.Suits rules names content
      · refine .inl ⟨if_neg fun hother => ?_, by simp [hsmall, hfilled, hsuffixed]⟩
        simpa [hsource.mpr (hsuffixed hother.2)] using hother.1
      · have hother : !(FileFacts.ofPlace ⟨names, .file content⟩).isSource ∧
            rules.requireExtension := by
          simp only [Suits, Classical.not_imp, ← hsource] at hsuffixed
          simpa using hsuffixed.symm
        have hrefuses := Refuses.suffixed h
        rw [← hextension] at hrefuses
        refine .inr ⟨_, if_pos hother, refused_of_leadsTo h [small, filled] rfl ?_
          hsuffixed hrefuses⟩
        simp [hsmall, hfilled]
    · have hempty : content.size = 0 ∧ rules.rejectEmpty := by
        simpa [Suits, and_comm] using hfilled
      refine .inr ⟨_, if_pos hempty, refused_of_leadsTo h [small] rfl ?_ hfilled .filled⟩
      simp [hsmall]
  · exact .inr ⟨_, if_pos (Nat.lt_of_not_le hsmall), refused_of_leadsTo h [] rfl
      (by simp) hsmall (.small h)⟩

/-- Bytes that spell a text are read as that text, and others are not read. -/
theorem contentOf_cases (content : ByteArray) :
    (∃ text : String, content = text.toUTF8 ∧ FileTree.contentOf (.file content) = .ok text) ∨
      (¬∃ text : String, content = text.toUTF8) ∧
        FileTree.contentOf (.file content) = .error .notText := by
  rw [FileTree.contentOf, String.fromUTF8?]
  by_cases hvalid : content.IsValidUTF8
  · rw [dif_pos hvalid]
    exact .inl ⟨String.fromUTF8 content hvalid, rfl, rfl⟩
  · rw [dif_neg hvalid]
    refine .inr ⟨?_, rfl⟩
    rintro ⟨text, rfl⟩
    exact hvalid text.isValidUTF8

/-- The bytes come before the lines. -/
theorem textAt_cases (h : t.LeadsTo p names content)
    (hcontent : t.fault? .content (Place.path ⟨names, .file content⟩) = none)
    (hsuits : ∀ d ∈ [small, filled, suffixed], d.Suits rules names content) :
    (∃ text lines, textAt t p ⟨names, .file content⟩ = .ok (text, lines) ∧
        content = text.toUTF8 ∧ HasLines text.toList lines ∧ short.Suits rules names content) ∨
      ∃ refusal, textAt t p ⟨names, .file content⟩ = .error refusal ∧
        Refused rules t p refusal.error := by
  rw [textAt, FileTree.contentAt, FileTree.answer_of_none hcontent]
  rcases contentOf_cases content with ⟨text, rfl, hcontent⟩ | ⟨hbytes, hcontent⟩
  · rw [hcontent]
    have hlines : HasLines text.toList (lineCount text.toList) := hasLines_iff.mpr rfl
    by_cases hmany : maxLineCount < lineCount text.toList
    · have hshort : ¬short.Suits rules names text.toUTF8 := by
        rintro ⟨text', n, hbytes, hlines', hfew⟩
        cases String.toByteArray_inj.mp hbytes
        rw [hasLines_iff.mp hlines'] at hfew
        exact Nat.not_lt.mpr hfew hmany
      have htextual : textual.Suits rules names text.toUTF8 := ⟨text, rfl⟩
      refine .inr ⟨_, if_pos hmany, refused_of_leadsTo h
        ([small, filled, suffixed] ++ [textual]) rfl ?_ hshort (.short h hlines)⟩
      exact List.forall_mem_append.mpr ⟨hsuits, List.forall_mem_singleton.mpr htextual⟩
    · exact .inl ⟨text, _, if_neg hmany, rfl, hlines, text, _, rfl, hlines, Nat.le_of_not_lt hmany⟩
  · rw [hcontent]
    have htextual : ¬textual.Suits rules names content := hbytes
    exact .inr ⟨_, rfl, refused_of_leadsTo h _ rfl hsuits htextual (.textual h)⟩

/-- A file is read if it meets all demands, and otherwise refused for the first that it does not. -/
theorem read_cases (rules : FileRules) (h : t.Permits p) :
    (∃ names text lines, (rules.read t p).2 =
        .ok (text, { FileFacts.ofPlace ⟨names, .file text.toUTF8⟩ with lines }) ∧
        t.LeadsTo p names text.toUTF8 ∧ HasLines text.toList lines ∧
        ∀ d : Demand, d.Met rules t p) ∨
      ∃ e, (rules.read t p).2 = .error e ∧ Refused rules t p e := by
  unfold read
  rcases found_or_refused rules h with ⟨names, content, hleads, hfind⟩ | ⟨refusal, hfind, hrefused⟩
  · rw [hfind]
    dsimp only
    rcases refusal?_cases rules hleads with ⟨hnone, hsuits⟩ | ⟨refusal, hsome, hrefused⟩
    · rw [hnone]
      dsimp only
      rcases textAt_cases hleads (h _ hleads).2 hsuits with
        ⟨text, lines, hread, rfl, hlines, hshort⟩ | ⟨refusal, hread, hrefused⟩
      · rw [hread]
        refine .inl ⟨names, text, lines, rfl, hleads, hlines, fun d => ?_⟩
        rw [met_iff hleads]
        cases d with
        | named | present | regular => trivial
        | small | filled | suffixed => exact hsuits _ (by simp)
        | textual => exact ⟨text, rfl⟩
        | short => exact hshort
      · rw [hread]
        exact .inr ⟨_, rfl, hrefused⟩
    · rw [hsome]
      exact .inr ⟨_, rfl, hrefused⟩
  · rw [hfind]
    exact .inr ⟨_, rfl, hrefused⟩

theorem content_none_of_textAt {place : Place} {found : String × Nat}
    (h : textAt t p place = .ok found) : t.fault? .content place.path = none := by
  unfold textAt at h
  cases hcontent : t.contentAt place with
  | error fault => simp [hcontent] at h
  | ok text => exact (FileTree.answer_eq_ok_iff.mp hcontent).1

/-- What is read may be read. -/
theorem permits_of_read {found : String × FileFacts} (h : (rules.read t p).2 = .ok found) :
    t.Permits p := by
  unfold read at h
  rcases find_cases t p with ⟨place, hshows, hfind⟩ | ⟨refusal, hfind, -⟩
  · rw [hfind] at h
    dsimp only at h
    cases hrefusal : rules.refusal? p (FileFacts.ofPlace place) with
    | some refusal => simp [hrefusal] at h
    | none =>
      cases hread : textAt t p place with
      | error refusal => simp [hrefusal, hread] at h
      | ok found =>
        intro place' hplace
        cases hshows.resolve_eq.symm.trans hplace
        exact ⟨hshows, content_none_of_textAt hread⟩
  · simp [hfind] at h

end FileRules

namespace Files.SourceFile
open Demand

/-- A file is read exactly if it meets all demands and no request about it is refused, and then has
the text that its bytes spell, their number and the number of its lines. If no request is refused,
the first demand that is not met decides the error. -/
theorem read_admits (rules : FileRules) (t : FileTree) (p : FilePath) (s : Session) :
    ((∃ file, (read rules t p s).1 = .ok file) ↔
      (∀ d : Demand, d.Met rules t p) ∧ t.Permits p) ∧
    (∀ file, (read rules t p s).1 = .ok file →
      ∃ names, t.LeadsTo p names file.text.toUTF8 ∧ file.facts.size = file.text.toUTF8.size ∧
        HasLines file.text.toList file.facts.lines) ∧
    (t.Permits p → ∀ e,
      (read rules t p s).1 = .error e ↔ ∃ d, IsFirstUnmet rules t p d ∧ Refuses t p d e) := by
  rcases read_cases rules t p s with ⟨e, herror, hread⟩ | ⟨text, facts, duration, hok, hread⟩
  · rw [hread]
    have hrefused (hpermits : t.Permits p) : Refused rules t p e := by
      rcases FileRules.read_cases rules hpermits with ⟨_, _, _, hok, -⟩ | ⟨e', herror', hrefused⟩
      · cases herror.symm.trans hok
      · cases herror.symm.trans herror'
        exact hrefused
    refine ⟨iff_of_false (by simp) ?_, by simp, fun hpermits e' => ⟨?_, fun hrefused' => ?_⟩⟩
    · rintro ⟨hmet, hpermits⟩
      obtain ⟨d, hd⟩ := (hrefused hpermits).exists_not_met
      exact hd (hmet d)
    · rintro ⟨⟩
      exact hrefused hpermits
    · rw [(hrefused hpermits).unique hrefused']
  · have hpermits := FileRules.permits_of_read hok
    rcases FileRules.read_cases rules hpermits with
      ⟨names, text', lines, hok', h, hlines, hmet⟩ | ⟨e, herror, -⟩
    · cases hok.symm.trans hok'
      rw [hread]
      refine ⟨iff_of_true ⟨_, rfl⟩ ⟨hmet, hpermits⟩, ?_, fun _ e => iff_of_false (by simp) ?_⟩
      · rintro file ⟨⟩
        exact ⟨names, h, rfl, hlines⟩
      · intro hrefused
        obtain ⟨d, hd⟩ := Refused.exists_not_met hrefused
        exact hd (hmet d)
    · cases hok.symm.trans herror

/-- A source of two lines, and bytes that are no text under a name without an extension. -/
def mixed : FileTree where
  root := .directory [("A.java", .file "a\nb\n".toUTF8), ("blob", .file ⟨#[0xFF]⟩)]
  working := []

theorem permits_mixed {p : FilePath} {names : List String} {content : ByteArray}
    (h : mixed.LeadsTo p names content)
    (hshort : (Place.path ⟨names, .file content⟩).spelling.utf8ByteSize < FileTree.maxPathBytes) :
    mixed.Permits p := by
  intro place hplace
  cases h.symm.trans hplace
  exact ⟨⟨h, hshort, rfl, rfl⟩, rfl⟩

/-- The source is read, and of the two things wrong with the other file the name comes first. -/
theorem read_admits_mixed :
    (∃ file, (read { requireExtension := true } mixed ⟨"/A.java"⟩ {}).1 = .ok file ∧
      HasLines file.text.toList file.facts.lines) ∧
    (read { requireExtension := true } mixed ⟨"/blob"⟩ {}).1 = .error (.wrongExtension none) := by
  have hsource : mixed.LeadsTo ⟨"/A.java"⟩ ["A.java"] "a\nb\n".toUTF8 := rfl
  have hother : mixed.LeadsTo ⟨"/blob"⟩ ["blob"] ⟨#[0xFF]⟩ := rfl
  obtain ⟨hadmits, hfacts, -⟩ := read_admits { requireExtension := true } mixed ⟨"/A.java"⟩ {}
  obtain ⟨-, -, hrefuses⟩ := read_admits { requireExtension := true } mixed ⟨"/blob"⟩ {}
  constructor
  · have hmet : ∀ d : Demand, d.Met { requireExtension := true } mixed ⟨"/A.java"⟩ := by
      intro d
      rw [met_iff hsource]
      cases d with
      | named | present | regular => trivial
      | small => exact show "a\nb\n".toUTF8.size ≤ maxFileSize by decide +kernel
      | filled => exact nofun
      | suffixed => exact fun _ => ⟨"A.java", rfl, "A", "java", by decide, rfl, rfl⟩
      | textual => exact ⟨_, rfl⟩
      | short => exact ⟨_, 2, rfl, hasLines_iff.mpr rfl, by decide⟩
    obtain ⟨file, hfile⟩ := hadmits.mpr ⟨hmet, permits_mixed hsource (by decide)⟩
    obtain ⟨-, -, -, hlines⟩ := hfacts file hfile
    exact ⟨file, hfile, hlines⟩
  · have hsmall : small.Suits { requireExtension := true } ["blob"] ⟨#[0xFF]⟩ :=
      show 1 ≤ maxFileSize by decide
    have hfilled : filled.Suits { requireExtension := true } ["blob"] ⟨#[0xFF]⟩ := nofun
    have hsuffixed : ¬suffixed.Suits { requireExtension := true } ["blob"] ⟨#[0xFF]⟩ := by
      intro hsuits
      obtain ⟨name, hname, hsource⟩ := hsuits rfl
      obtain ⟨extension, hextension, -⟩ := FilePath.isSourceName_iff.mp hsource
      cases hname
      cases hextension
    have hrefused := refused_of_leadsTo hother [small, filled] rfl (by simp [hsmall, hfilled])
      hsuffixed (.suffixed hother)
    exact (hrefuses (permits_mixed hother (by decide)) _).mpr hrefused

end Files.SourceFile
end JavaLex
