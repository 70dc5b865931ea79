import JavaLex.Text.Boundary

/-! # Where a text is cut

The search for a place to cut a text stops at the last one, and what stands before it is the longest
beginning of the text that fits. The next such place is out of reach, and a character has four bytes
at most, so no more than three bytes are given up.
-/
namespace JavaLex.Text
variable {text first other rest rest' : String} {n cut : Nat}

/-- Of any four places in a row within a text there is one to cut it at. -/
theorem exists_isValid (text : String) (h : n ≤ text.utf8ByteSize) :
    ∃ k, k ≤ n ∧ n ≤ k + 3 ∧ String.Pos.Raw.IsValid text ⟨k⟩ := by
  induction text using String.push_induction with
  | empty =>
    refine ⟨0, Nat.zero_le n, ?_, String.Pos.Raw.isValid_zero⟩
    exact Nat.le_trans h (Nat.zero_le 3)
  | push text c ih =>
    rw [String.push_eq_append] at h ⊢
    rw [String.utf8ByteSize_append, String.utf8ByteSize_singleton] at h
    rcases Nat.lt_or_ge text.utf8ByteSize n with hbehind | hbefore
    · -- The place is in the last character or behind it, and these are the two ends of it.
      rcases Nat.lt_or_eq_of_le h with hinside | hend
      · have hsize : c.utf8Size ≤ 4 := c.utf8Size_le_four
        have hstart : String.Pos.Raw.IsValid text ⟨text.utf8ByteSize⟩ :=
          String.Pos.Raw.isValid_rawEndPos
        exact ⟨text.utf8ByteSize, Nat.le_of_lt hbehind, by omega, hstart.append_right _⟩
      · refine ⟨n, Nat.le_refl n, Nat.le_add_right n 3, ?_⟩
        rw [hend, ← String.utf8ByteSize_singleton, ← String.utf8ByteSize_append]
        exact String.Pos.Raw.isValid_rawEndPos
    · obtain ⟨k, hle, hnear, hvalid⟩ := ih hbefore
      exact ⟨k, hle, hnear, hvalid.append_right _⟩

theorem IsLastBoundary.le_add_three (h : IsLastBoundary text n cut)
    (hsize : n ≤ text.utf8ByteSize) : n ≤ cut + 3 := by
  obtain ⟨k, hle, hnear, hvalid⟩ := exists_isValid text hsize
  have hk : k ≤ cut := Nat.le_of_not_lt fun hlt => h.not_isValid k hlt hle hvalid
  omega

theorem IsLastBoundary.size_le (h : IsLastBoundary text n cut) (htext : text = first ++ rest)
    (hfits : first.utf8ByteSize ≤ n) : first.utf8ByteSize ≤ cut := by
  refine Nat.le_of_not_lt fun hlt => h.not_isValid _ hlt hfits ?_
  exact String.Pos.Raw.isValid_iff_exists_append.mpr ⟨first, rest, htext, rfl⟩

/-- Of two texts that one begins with, the one with fewer bytes begins the other. -/
theorem exists_append_of_size_le (h : first ++ rest = other ++ rest')
    (hsize : other.utf8ByteSize ≤ first.utf8ByteSize) : ∃ more, first = other ++ more := by
  have hlists := congrArg String.toList h
  rw [String.toList_append, String.toList_append] at hlists
  rcases List.append_eq_append_iff.mp hlists with ⟨more, hother, -⟩ | ⟨more, hfirst, -⟩
  · have heq : other = first ++ String.ofList more := by
      rw [← String.toList_inj, hother, String.toList_append, String.toList_ofList]
    rw [heq, String.utf8ByteSize_append] at hsize
    have hmore : String.ofList more = "" := by
      rw [← String.utf8ByteSize_eq_zero_iff]
      omega
    exact ⟨"", by rw [heq, hmore, String.append_empty, String.append_empty]⟩
  · refine ⟨String.ofList more, ?_⟩
    rw [← String.toList_inj, hfirst, String.toList_append, String.toList_ofList]

/-- `first` is the longest text of at most `n` bytes that `text` begins with, and to search for its
end and to cut it off both succeed. -/
structure CutsAt (text : String) (n : Nat) (first : String) : Prop where
  boundary?_eq : boundary? text n = some first.utf8ByteSize
  firstBytes?_eq : firstBytes? text first.utf8ByteSize = some first
  exists_rest : ∃ rest, text = first ++ rest
  size_le : first.utf8ByteSize ≤ n
  longest : ∀ other rest, text = other ++ rest → other.utf8ByteSize ≤ n →
    ∃ more, first = other ++ more
  /-- No more than three bytes are given up. -/
  le_add_three : n ≤ first.utf8ByteSize + 3

theorem exists_cutsAt (h : n ≤ text.utf8ByteSize) : ∃ first, CutsAt text n first := by
  obtain ⟨cut, hcut, hlast⟩ := exists_boundary? text n
  obtain ⟨first, rest, rfl, rfl, hfirst⟩ := hlast.exists_firstBytes?
  exact ⟨first, {
    boundary?_eq := hcut
    firstBytes?_eq := hfirst
    exists_rest := ⟨rest, rfl⟩
    size_le := hlast.le
    longest := fun other rest' hother hfits =>
      exists_append_of_size_le hother (hlast.size_le hother hfits)
    le_add_three := hlast.le_add_three h }⟩

theorem utf8ByteSize_replicate (n : Nat) (c : Char) :
    (String.ofList (List.replicate n c)).utf8ByteSize = n * c.utf8Size := by
  induction n with
  | zero =>
    rw [Nat.zero_mul]
    rfl
  | succ n ih =>
    rw [List.replicate_succ, String.ofList_cons, String.utf8ByteSize_append,
      String.utf8ByteSize_singleton, ih, Nat.succ_mul, Nat.add_comm]

end JavaLex.Text
