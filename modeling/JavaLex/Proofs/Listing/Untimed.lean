import JavaLex.Proofs.Listing.Outcome

/-! # Listings but for the time

What comes of a file depends on the settings and the files alone. The session decides nothing but
how long it takes, and the number of the file nothing at all.
-/
namespace JavaLex
open Diagnostics Files Scan Session

/-- The result of the first act decides how it goes on. -/
theorem fst_andThen {α β ε ε' : Type} (act : Session → Except ε α × Session) (wrap : ε → ε')
    (next : α → Session → Except ε' β × Session) (s : Session) :
    (andThen act wrap next s).1 =
      match (act s).1 with
      | .error e => .error (wrap e)
      | .ok a => (next a (act s).2).1 := by
  unfold andThen
  rcases act s with ⟨_ | _, _⟩ <;> rfl

namespace Files.SourceFile

/-- A file that is read has the text and the facts that are found, whatever the session. -/
theorem read_cases (rules : FileRules) (t : FileTree) (p : FilePath) (s : Session) :
    (∃ e, (rules.read t p).2 = .error e ∧ (read rules t p s).1 = .error e) ∨
      ∃ text facts duration, (rules.read t p).2 = .ok (text, facts) ∧
        (read rules t p s).1 = .ok ⟨text, facts, duration⟩ := by
  rw [read_eq, fst_andThen]
  cases (rules.read t p).2 with
  | error e => exact .inl ⟨e, rfl, rfl⟩
  | ok found => exact .inr ⟨found.1, found.2, _, rfl, rfl⟩

end Files.SourceFile

namespace Listing

def untimed (l : Listing) : Listing :=
  { l with duration := ⟨0⟩ }

/-- What comes of a text, apart from the time. -/
def textOutcome (options : ScanOptions) (name : String) (facts? : Option FileFacts) (text : String) :
    Except ListingError Listing :=
  match scan text.toList with
  | ⟨_, some e⟩ => .error (.lexical e)
  | ⟨tokens, none⟩ => .ok ⟨name, tokens, tokens.foldl (Tally.record options) {}, facts?, ⟨0⟩⟩

/-- What comes of a file, apart from the time. -/
def fileOutcome (settings : Settings) (t : FileTree) (p : FilePath) : Except ListingError Listing :=
  match (settings.files.read t p).2 with
  | .error e => .error (.file e)
  | .ok (text, facts) => textOutcome settings.scan p.spelling (some facts) text

theorem untimed_listText (options : ScanOptions) (name text : String) (facts? : Option FileFacts)
    (start : Nat) (s : Session) : (listText options name text facts? start s).1.map untimed =
      textOutcome options name facts? text := by
  rw [listText, fst_andThen]
  cases hscan : scan text.toList with
  | mk tokens error? =>
    cases error? with
    | none =>
      rw [scanText_of_ok options hscan, textOutcome, hscan]
      rfl
    | some e =>
      rw [scanText_of_error options hscan, textOutcome, hscan]
      rfl

/-- Neither the session nor the number has a part in what comes of a file. -/
theorem untimed_ofFile (settings : Settings) (t : FileTree) (p : FilePath) (id : Nat) (s : Session) :
    (ofFile settings t p id s).1.map untimed = fileOutcome settings t p := by
  let start := (s.enter p id).now.1
  let s' := (s.enter p id).now.2.post (.info "Starting tokenization" [("file", p.spelling)])
  rw [ofFile_eq]
  change (andThen (SourceFile.read settings.files t p) .file (fun file =>
    listText settings.scan p.spelling file.text (some file.facts) start) s').1.map untimed = _
  rw [fst_andThen, fileOutcome]
  rcases SourceFile.read_cases settings.files t p s' with ⟨e, hfound, hread⟩ |
    ⟨text, facts, duration, hfound, hread⟩
  · rw [hfound, hread]
    rfl
  · rw [hfound, hread]
    exact untimed_listText _ _ _ _ _ _

end Listing
end JavaLex
