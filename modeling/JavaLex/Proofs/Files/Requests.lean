import JavaLex.Files.SourceFile
import JavaLex.Proofs.Files.Walking

/-! # Requests about a file

A file is found if its path leads to it and neither of the two requests about it is refused, the one
for its own path and the one for its size. Its content is asked for only after that.
-/
namespace JavaLex
open Files

namespace Files
namespace FileTree
variable {t : FileTree} {p : FilePath} {place : Place}

/-- The path leads to a place, and it can be had where that is and how large the file there is. -/
structure Shows (t : FileTree) (p : FilePath) (place : Place) : Prop where
  resolve_eq : t.resolve p = .ok place
  short : place.path.spelling.utf8ByteSize < maxPathBytes
  path_none : t.fault? .path p = none
  size_none : t.fault? .size place.path = none

/-- No request about what the path leads to is refused. -/
def Permits (t : FileTree) (p : FilePath) : Prop :=
  ∀ place, t.resolve p = .ok place → t.Shows p place ∧ t.fault? .content place.path = none

theorem Shows.unique {place' : Place} (h : t.Shows p place) (h' : t.Shows p place') :
    place = place' :=
  Except.ok.inj (h.resolve_eq.symm.trans h'.resolve_eq)

theorem answer_eq_ok_iff {α : Type} {request : Request} {found : Except AccessFault α} {a : α} :
    t.answer request p found = .ok a ↔ t.fault? request p = none ∧ found = .ok a := by
  rw [answer]
  cases t.fault? request p <;> simp

theorem answer_of_none {α : Type} {request : Request} (h : t.fault? request p = none)
    (found : Except AccessFault α) : t.answer request p found = found := by
  rw [answer, h]

theorem canonical_eq_ok_iff : t.canonical p = .ok place ↔ t.fault? .path p = none ∧
    t.resolve p = .ok place ∧ place.path.spelling.utf8ByteSize < maxPathBytes := by
  rw [canonical, answer_eq_ok_iff]
  refine and_congr_right fun _ => ?_
  cases hplace : t.resolve p with
  | error fault => exact iff_of_false nofun nofun
  | ok place' =>
    change (if maxPathBytes ≤ _ then _ else _) = Except.ok place ↔ _
    rw [Except.ok.injEq]
    split
    case isTrue hlong =>
      refine iff_of_false nofun ?_
      rintro ⟨rfl, hshort⟩
      exact Nat.not_lt.mpr hlong hshort
    case isFalse hshort =>
      rw [Except.ok.injEq]
      refine ⟨?_, And.left⟩
      rintro rfl
      exact ⟨rfl, Nat.lt_of_not_le hshort⟩

theorem sizeAt_eq_ok_iff {size : Nat} :
    t.sizeAt place = .ok size ↔ t.fault? .size place.path = none ∧ place.entry.size = size := by
  rw [sizeAt, answer_eq_ok_iff, Except.ok.injEq]

end FileTree

end Files

namespace Files.Refusal

/-- It has nothing to do with the extension of the file. -/
def SparesExtension (r : Refusal) : Prop :=
  ∀ found?, r.error ≠ .wrongExtension found?

theorem sparesExtension_ofFault (p : FilePath) (message : String) (name : String × String)
    (fault : AccessFault) : (ofFault p message name fault).SparesExtension := by
  intro found?
  unfold ofFault FileError.ofFault
  dsimp only
  split <;> simp

end Files.Refusal

namespace FileRules
variable {t : FileTree} {p : FilePath} {place : Place}

/-- Once there is a file, it takes no more than its own path. -/
theorem locate_of_resolve (hplace : t.resolve p = .ok place) (hfile : place.entry.isFile) :
    locate t p =
      (t.canonical p).mapError (.ofFault p "Failed to resolve path" ("path", p.spelling)) := by
  have hp : ¬p.spelling.isEmpty := by simpa using (FileTree.resolve_eq_ok_iff.mp hplace).1
  have hexists : t.exists? p := by rw [FileTree.exists?, hplace]; rfl
  have hisFile : t.isFile p := by rw [FileTree.isFile, hplace]; exact hfile
  rw [locate, if_neg hp, if_neg (by simp [hexists]), if_neg (by simp [hisFile])]

theorem locate_cases (t : FileTree) (p : FilePath) :
    (∃ place, t.canonical p = .ok place ∧ locate t p = .ok place) ∨
      ∃ refusal, locate t p = .error refusal ∧ refusal.SparesExtension := by
  unfold locate
  split
  · exact .inr ⟨_, rfl, by simp [Refusal.SparesExtension]⟩
  · split
    · exact .inr ⟨_, rfl, by simp [Refusal.SparesExtension]⟩
    · split
      · exact .inr ⟨_, rfl, by simp [Refusal.SparesExtension]⟩
      · cases t.canonical p with
        | error fault => exact .inr ⟨_, rfl, Refusal.sparesExtension_ofFault _ _ _ _⟩
        | ok place => exact .inl ⟨place, rfl, rfl⟩

theorem collect_cases (t : FileTree) (place : Place) :
    (t.fault? .size place.path = none ∧ collect t place = .ok (FileFacts.ofPlace place)) ∨
      ∃ refusal, collect t place = .error refusal ∧ refusal.SparesExtension := by
  unfold collect
  cases hsize : t.sizeAt place with
  | error fault => exact .inr ⟨_, rfl, Refusal.sparesExtension_ofFault _ _ _ _⟩
  | ok size =>
    obtain ⟨hnone, rfl⟩ := FileTree.sizeAt_eq_ok_iff.mp hsize
    exact .inl ⟨hnone, rfl⟩

theorem find_of_locate (h : locate t p = .ok place) :
    find t p = (collect t place).map fun facts => (place, facts) := by
  rw [find, h]
  rfl

theorem find_of_shows (h : t.Shows p place) (hfile : place.entry.isFile) :
    find t p = .ok (place, FileFacts.ofPlace place) := by
  have hcanonical := FileTree.canonical_eq_ok_iff.mpr ⟨h.path_none, h.resolve_eq, h.short⟩
  have hlocate : locate t p = .ok place := by
    rw [locate_of_resolve h.resolve_eq hfile, hcanonical]
    rfl
  rw [find_of_locate hlocate, collect, FileTree.sizeAt_eq_ok_iff.mpr ⟨h.size_none, rfl⟩]
  rfl

/-- What is found is shown, and what is not found is not refused for its extension. -/
theorem find_cases (t : FileTree) (p : FilePath) :
    (∃ place, t.Shows p place ∧ find t p = .ok (place, FileFacts.ofPlace place)) ∨
      ∃ refusal, find t p = .error refusal ∧ refusal.SparesExtension := by
  rcases locate_cases t p with ⟨place, hcanonical, hlocate⟩ | ⟨refusal, hlocate, hspares⟩
  · obtain ⟨hpath, hresolve, hshort⟩ := FileTree.canonical_eq_ok_iff.mp hcanonical
    rw [find_of_locate hlocate]
    rcases collect_cases t place with ⟨hsize, hcollect⟩ | ⟨refusal, hcollect, hspares⟩
    · refine .inl ⟨place, ⟨hresolve, hshort, hpath, hsize⟩, ?_⟩
      rw [hcollect]
      rfl
    · refine .inr ⟨refusal, ?_, hspares⟩
      rw [hcollect]
      rfl
  · refine .inr ⟨refusal, ?_, hspares⟩
    rw [find, hlocate]
    rfl

end FileRules
end JavaLex
