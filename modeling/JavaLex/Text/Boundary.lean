/-! # Cutting a text behind so many bytes

A text can only be cut where a character of its UTF-8 form ends. From a place inside a character
that one is found by stepping back byte by byte, and since a text begins where it does, every such
search finds one.
-/
namespace JavaLex.Text

/-- The last place up to `n` bytes where the text can be cut, looked for from there down. There is
none if the search goes below zero. -/
def boundary? (text : String) (n : Nat) : Option Nat :=
  if String.Pos.Raw.isValid text ⟨n⟩ then some n
  else
    match n with
    | 0 => none
    | n + 1 => boundary? text n

/-- The first `n` bytes of a text, unless there are fewer or they end inside a character and so do
not make up a text. -/
def firstBytes? (text : String) (n : Nat) : Option String :=
  if n ≤ text.utf8ByteSize then String.fromUTF8? (text.toByteArray.extract 0 n) else none

/-- The text can be cut behind `cut` bytes, and at no place from there up to `n`. -/
structure IsLastBoundary (text : String) (n cut : Nat) : Prop where
  le : cut ≤ n
  isValid : String.Pos.Raw.IsValid text ⟨cut⟩
  not_isValid : ∀ k, cut < k → k ≤ n → ¬ String.Pos.Raw.IsValid text ⟨k⟩

/-- Zero bytes are a place to stop at, so the search stays above zero wherever it begins. -/
theorem exists_boundary? (text : String) (n : Nat) :
    ∃ cut, boundary? text n = some cut ∧ IsLastBoundary text n cut := by
  induction n with
  | zero =>
    have hzero : String.Pos.Raw.IsValid text ⟨0⟩ := String.Pos.Raw.isValid_zero
    refine ⟨0, ?_, Nat.le_refl 0, hzero, fun k hk hle => by omega⟩
    rw [boundary?, if_pos (String.Pos.Raw.isValid_eq_true_iff.mpr hzero)]
  | succ n ih =>
    by_cases hvalid : String.Pos.Raw.IsValid text ⟨n + 1⟩
    · refine ⟨n + 1, ?_, Nat.le_refl _, hvalid, fun k hk hle => by omega⟩
      rw [boundary?, if_pos (String.Pos.Raw.isValid_eq_true_iff.mpr hvalid)]
    · obtain ⟨cut, hcut, hlast⟩ := ih
      refine ⟨cut, ?_, Nat.le_succ_of_le hlast.le, hlast.isValid, fun k hk hle => ?_⟩
      · rw [boundary?, if_neg (mt String.Pos.Raw.isValid_eq_true_iff.mp hvalid), hcut]
      · rcases Nat.lt_or_eq_of_le hle with hlt | rfl
        · exact hlast.not_isValid k hk (Nat.le_of_lt_succ hlt)
        · exact hvalid

theorem firstBytes?_append (first rest : String) :
    firstBytes? (first ++ rest) first.utf8ByteSize = some first := by
  have hle : first.utf8ByteSize ≤ (first ++ rest).utf8ByteSize := by
    rw [String.utf8ByteSize_append]
    exact Nat.le_add_right _ _
  rw [firstBytes?, if_pos hle, String.toByteArray_append,
    ByteArray.extract_append_eq_left String.size_toByteArray.symm, String.fromUTF8?,
    dif_pos first.isValidUTF8]
  rfl

/-- Where a text can be cut, the bytes before that place are a text. -/
theorem IsLastBoundary.exists_firstBytes? {text : String} {n cut : Nat}
    (h : IsLastBoundary text n cut) :
    ∃ first rest, text = first ++ rest ∧ first.utf8ByteSize = cut ∧
      firstBytes? text cut = some first := by
  obtain ⟨first, rest, rfl, hcut⟩ := String.Pos.Raw.isValid_iff_exists_append.mp h.isValid
  have hsize : first.utf8ByteSize = cut := (congrArg String.Pos.Raw.byteIdx hcut).symm
  exact ⟨first, rest, rfl, hsize, hsize ▸ firstBytes?_append first rest⟩

end JavaLex.Text
