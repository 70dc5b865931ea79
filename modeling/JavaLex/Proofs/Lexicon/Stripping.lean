import JavaLex.Proofs.Lexicon.Indentation
import Mathlib.Data.List.Forall2

/-! # What is left of a body, line by line

Stripping neither loses nor joins a line: between the line feeds of the result stands what is left
of each line of the body, in order. From all that are not blank one number of characters goes, and
it is the greatest that all of them and a blank last line have to give.
-/
namespace JavaLex.Lexicon
open Text

variable {body line lead left result tail : List Char} {ended : List (List Char)} {c : Char}
  {k : Nat}

/-! ## One line -/

/-- `left` is what is left of a line that gives `k` characters at its front. A blank line gives all
that it has. -/
inductive Strips (k : Nat) : List Char → List Char → Prop where
  | blank {line : List Char} : Blank line → Strips k line []
  | content {lead left trail : List Char} {c : Char} : Blank lead → lead.length = k → Blank trail →
      left.getLast? = some c → isWhitespace c = false → Strips k (lead ++ (left ++ trail)) left

/-- The front of a line holds what it is to give. -/
theorem strips_stripLine (h : isBlank line = false → k ≤ indentation line) :
    Strips k line (stripLine k line) := by
  rcases line_cases line with hblank | ⟨lead, c, rest, rfl, hlead, hc⟩
  · rw [stripLine_of_isBlank hblank]
    exact .blank (isBlank_iff.mp hblank)
  · have hk : k ≤ lead.length := by
      rw [← indentation_content hlead hc]
      exact h (isBlank_content hc)
    obtain ⟨trail, hrest, htrail, hend⟩ := exists_trail isWhitespace (lead.drop k ++ c :: rest)
    rw [trimEnd_append_cons hc] at hrest hend
    have hline : lead ++ c :: rest =
        lead.take k ++ (lead.drop k ++ c :: trimEnd isWhitespace rest ++ trail) := by
      rw [← hrest, ← List.append_assoc, List.take_append_drop]
    have hlast : (lead.drop k ++ c :: trimEnd isWhitespace rest).getLast? =
        some ((lead.drop k ++ c :: trimEnd isWhitespace rest).getLast (by simp)) :=
      List.getLast?_eq_some_getLast _
    rw [stripLine_content hlead hc, hline]
    exact .content (fun d hd => hlead d (List.mem_of_mem_take hd)) (List.length_take_of_le hk)
      htrail hlast (hend _ hlast)

theorem Strips.indentation_eq (h : Strips k line left) (hline : isBlank line = false) :
    indentation line = indentation left + k := by
  cases h with
  | blank hblank =>
    rw [isBlank_iff.mpr hblank] at hline
    cases hline
  | @content lead left trail c hlead hlength htrail hlast hc =>
    rcases line_cases left with hblank | ⟨lead', d, rest, rfl, hlead', hd⟩
    · have hwhite := isBlank_iff.mp hblank c (List.mem_of_getLast? hlast)
      rw [hc] at hwhite
      cases hwhite
    · have hfront : Blank (lead ++ lead') := List.forall_mem_append.mpr ⟨hlead, hlead'⟩
      have hsplit : lead ++ (lead' ++ d :: rest ++ trail) =
          (lead ++ lead') ++ d :: (rest ++ trail) := by
        simp
      rw [hsplit, indentation_content hfront hd, indentation_content hlead' hd,
        List.length_append, hlength, Nat.add_comm]

/-! ## All lines -/

/-- The body is the ended lines and a remainder, and the result has between its line feeds what is
left of them if `k` characters go. -/
structure StripsEach (body result : List Char) (ended : List (List Char)) (tail : List Char)
    (k : Nat) : Prop where
  cut : Cut body ended tail
  lines_eq : lines body = ended ++ if tail = [] then [] else [tail]
  carriageReturn_not_mem : '\r' ∉ result
  count_lineFeed : result.count '\n' = ended.length
  strips : List.Forall₂ (Strips k) (ended ++ [tail]) (pieces '\n' result)
  indentation_eq : List.Forall₂ (fun line left => isBlank line = false →
    indentation line = indentation left + k) (ended ++ [tail]) (pieces '\n' result)
  /-- A body that ends in a terminator has an empty remainder and so keeps its indentation. -/
  le_closing : isBlank tail → k ≤ tail.length
  /-- No more could go. -/
  exhausts : (∃ left ∈ pieces '\n' result, isBlank left = false ∧ indentation left = 0) ∨
    isBlank tail ∧ tail.length = k

theorem pieces_stripIndent (h : Cut body ended tail) : pieces '\n' (stripIndent body) =
    (ended ++ [tail]).map (stripLine (outdent ended tail)) := by
  have hcut := cut_stripIndent h
  rw [stripIndent_of_cut h, pieces_joined hcut.isLine_of_mem hcut.isLine_tail, List.map_append,
    List.map_singleton]

theorem forall₂_stripIndent {R : List Char → List Char → Prop} (h : Cut body ended tail)
    (hR : ∀ line ∈ ended ++ [tail], R line (stripLine (outdent ended tail) line)) :
    List.Forall₂ R (ended ++ [tail]) (pieces '\n' (stripIndent body)) := by
  rw [pieces_stripIndent h, List.forall₂_map_right_iff, List.forall₂_same]
  exact hR

theorem outdent_le_indentation (hmem : line ∈ ended ++ [tail]) (hline : isBlank line = false) :
    outdent ended tail ≤ indentation line := by
  rw [outdent_eq_sharedIndent]
  apply sharedIndent_le
  exact mem_indentBounds_iff.mpr (.inl ⟨line, hmem, hline, rfl⟩)

theorem outdent_le_closing (ended : List (List Char)) (htail : isBlank tail) :
    outdent ended tail ≤ tail.length := by
  rw [outdent_eq_sharedIndent]
  apply sharedIndent_le
  exact mem_indentBounds_iff.mpr (.inr ⟨tail, List.getLast?_concat, htail, rfl⟩)

/-- One of the lines has nothing more to give. -/
theorem outdent_exhausts (ended : List (List Char)) (tail : List Char) :
    (∃ line ∈ ended ++ [tail], isBlank line = false ∧ indentation line = outdent ended tail) ∨
      isBlank tail ∧ tail.length = outdent ended tail := by
  rw [outdent_eq_sharedIndent]
  have hmem := sharedIndent_mem (indentBounds_ne_nil (List.concat_ne_nil tail ended))
  rcases mem_indentBounds_iff.mp hmem with hcontent | ⟨last, hlast, hblank, hlength⟩
  · exact .inl hcontent
  · rw [List.getLast?_concat, Option.some.injEq] at hlast
    subst hlast
    exact .inr ⟨hblank, hlength⟩

/-- A body is stripped line by line: the result has the same lines, less one number of characters
at the front and all whitespace at the end. -/
theorem stripIndent_stripsEach (body : List Char) :
    ∃ ended tail k, StripsEach body (stripIndent body) ended tail k := by
  obtain ⟨ended, tail, hcut⟩ := exists_cut body
  have hpieces := pieces_stripIndent hcut
  have hresult := cut_stripIndent hcut
  have hstrips : ∀ line ∈ ended ++ [tail],
      Strips (outdent ended tail) line (stripLine (outdent ended tail) line) :=
    fun line hmem => strips_stripLine (outdent_le_indentation hmem)
  refine ⟨ended, tail, outdent ended tail, hcut, hcut.lines_eq, ?_, ?_,
    forall₂_stripIndent hcut hstrips,
    forall₂_stripIndent hcut fun line hmem => (hstrips line hmem).indentation_eq,
    outdent_le_closing ended, ?_⟩
  · rw [stripIndent_of_cut hcut]
    exact carriageReturn_not_mem_joined hresult.isLine_of_mem hresult.isLine_tail
  · have hlength := length_pieces '\n' (stripIndent body)
    rw [hpieces, List.length_map, List.length_append, List.length_singleton] at hlength
    omega
  · rcases outdent_exhausts ended tail with ⟨line, hmem, hline, hindent⟩ | hclosing
    · refine .inl ⟨stripLine (outdent ended tail) line, ?_, ?_, ?_⟩
      · rw [hpieces]
        exact List.mem_map_of_mem hmem
      · rw [isBlank_stripLine, hline]
      · rw [indentation_stripLine hline, hindent, Nat.sub_self]
    · exact .inr hclosing

end JavaLex.Lexicon
