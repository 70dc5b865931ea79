import JavaLex.Proofs.Source.Place
import JavaLex.Scan.Lexeme
import Mathlib.Data.List.Infix
import Mathlib.Tactic.Basic

/-! # The bodies of literals and comments

A literal is read unit by unit up to its closer: a backslash is a unit together with the
character after it, any other character is a unit alone. A block comment has no escapes: it grows
until it ends in a closer, and that is the first closer behind its opener. Each of the three
searches finds exactly the body that is said so, whatever comes after its closer.
-/
namespace JavaLex.Scan.Lexeme

/-- The closer stands at no unit of the body, and every escape is complete. -/
inductive Units (closer : List Char) : List Char → Prop where
  | nil : Units closer []
  | escape {c : Char} {body : List Char} : Units closer body → Units closer ('\\' :: c :: body)
  | plain {c : Char} {body : List Char} : c ≠ '\\' → ¬ closer <+: c :: (body ++ closer) →
      Units closer body → Units closer (c :: body)

theorem Units.head_ne {quote c : Char} {body : List Char} (hq : quote ≠ '\\')
    (h : Units [quote] (c :: body)) : c ≠ quote := by
  cases h with
  | escape => exact hq.symm
  | plain _ hclose =>
    rintro rfl
    exact hclose (by simp)

def blockDelimiter : List Char := ['"', '"', '"']

def commentCloser : List Char := ['*', '/']

theorem quotedLength?_of_units {quote : Char} {body : List Char} (hq : quote ≠ '\\')
    (h : Units [quote] body) (n : Nat) (rest : List Char) :
    quotedLength? quote n (body ++ quote :: rest) = some (n + body.length) := by
  induction h generalizing n with
  | nil =>
    rw [List.nil_append, quotedLength?.eq_4 _ _ _ _ (by simp [hq]) (by simp [hq])]
    simp
  | escape _ ih =>
    simp only [List.cons_append, quotedLength?, ih, List.length_cons]
    congr 1
    omega
  | @plain c body hc hclose _ ih =>
    have hcq : c ≠ quote := by
      rintro rfl
      exact hclose (by simp)
    rw [List.cons_append, quotedLength?.eq_4 _ _ _ _ (by simp [hc]) (by simp [hc]), if_neg hcq, ih]
    simp only [List.length_cons]
    congr 1
    omega

theorem units_of_quotedLength? {quote : Char} {n m : Nat} {s : List Char}
    (h : quotedLength? quote n s = some m) :
    ∃ body rest, s = body ++ quote :: rest ∧ Units [quote] body ∧ m = n + body.length := by
  fun_induction quotedLength? quote n s with
  | case1 => simp at h
  | case2 => simp at h
  | case3 n c s ih =>
    obtain ⟨body, rest, rfl, hbody, rfl⟩ := ih h
    exact ⟨'\\' :: c :: body, rest, rfl, hbody.escape, by simp; omega⟩
  | case4 n s => exact ⟨[], s, rfl, .nil, by simpa using h.symm⟩
  | case5 n c s _ hescape hcq ih =>
    obtain ⟨body, rest, rfl, hbody, rfl⟩ := ih h
    have hc : c ≠ '\\' := by
      rintro rfl
      cases hs : body ++ quote :: rest with
      | nil => simp at hs
      | cons d s => exact hescape d s rfl hs
    exact ⟨c :: body, rest, rfl, .plain hc (by simpa using Ne.symm hcq) hbody, by simp; omega⟩

/-- Where a closer starts shows in the characters up to the end of the next closer. -/
theorem closer_prefix_append {closer : List Char} (c : Char) (body rest : List Char) :
    closer <+: c :: (body ++ (closer ++ rest)) ↔ closer <+: c :: (body ++ closer) := by
  have hsplit : c :: (body ++ (closer ++ rest)) = c :: (body ++ closer) ++ rest := by simp
  rw [hsplit]
  constructor
  · intro h
    exact List.prefix_of_prefix_length_le h (List.prefix_append _ _) (by simp; omega)
  · intro h
    exact h.trans (List.prefix_append _ _)

theorem blockLength?_of_units {body : List Char} (h : Units blockDelimiter body) (n : Nat)
    (rest : List Char) :
    blockLength? n (body ++ (blockDelimiter ++ rest)) = some (n + body.length) := by
  induction h generalizing n with
  | nil => simp [blockDelimiter, blockLength?]
  | escape _ ih =>
    simp only [List.cons_append, blockLength?, ih, List.length_cons]
    congr 1
    omega
  | @plain c body hc hclose _ ih =>
    rw [← closer_prefix_append c body rest] at hclose
    rw [List.cons_append, blockLength?.eq_5 _ _ _ (by simp [hc]) (by simp [hc]), ih]
    · simp only [List.length_cons]
      congr 1
      omega
    · intro tail hquote htail
      rw [hquote, htail] at hclose
      exact hclose ⟨tail, rfl⟩

theorem units_of_blockLength? {n m : Nat} {s : List Char} (h : blockLength? n s = some m) :
    ∃ body rest, s = body ++ (blockDelimiter ++ rest) ∧ Units blockDelimiter body ∧
      m = n + body.length := by
  fun_induction blockLength? n s with
  | case1 => simp at h
  | case2 => simp at h
  | case3 n c s ih =>
    obtain ⟨body, rest, rfl, hbody, rfl⟩ := ih h
    exact ⟨'\\' :: c :: body, rest, rfl, hbody.escape, by simp; omega⟩
  | case4 n s => exact ⟨[], s, rfl, .nil, by simpa using h.symm⟩
  | case5 n c s _ hescape hquotes ih =>
    obtain ⟨body, rest, rfl, hbody, rfl⟩ := ih h
    have hc : c ≠ '\\' := by
      rintro rfl
      cases hs : body ++ (blockDelimiter ++ rest) with
      | nil => simp [blockDelimiter] at hs
      | cons d s => exact hescape d s rfl hs
    have hclose : ¬ blockDelimiter <+: c :: (body ++ blockDelimiter) := by
      rw [← closer_prefix_append c body rest]
      rintro ⟨tail, htail⟩
      obtain ⟨rfl, hs⟩ := List.cons.inj htail
      exact hquotes tail rfl hs.symm
    exact ⟨c :: body, rest, rfl, .plain hc hclose hbody, by simp; omega⟩

/-- The number of characters up to the end of the first closer, on top of `n`. -/
def commentLength? (n : Nat) : List Char → Option Nat
  | [] => none
  | '*' :: '/' :: _ => some (n + 2)
  | _ :: s => commentLength? (n + 1) s

theorem commentLength?_of_first {body : List Char} (h : ¬ commentCloser <:+: body ++ ['*'])
    (n : Nat) (rest : List Char) :
    commentLength? n (body ++ (commentCloser ++ rest)) = some (n + body.length + 2) := by
  induction body generalizing n with
  | nil => simp [commentCloser, commentLength?]
  | cons c body ih =>
    rw [List.cons_append, List.infix_cons_iff, not_or] at h
    rw [List.cons_append, commentLength?.eq_3, ih h.2]
    · simp only [List.length_cons]
      congr 1
      omega
    · intro tail hstar htail
      -- The slash after a star is the first character of the body or of the closer.
      cases body with
      | nil => simp [commentCloser] at htail
      | cons d body => exact h.1 (by simp_all [commentCloser])

theorem first_of_commentLength? {n m : Nat} {s : List Char} (h : commentLength? n s = some m) :
    ∃ body rest, s = body ++ (commentCloser ++ rest) ∧ ¬ commentCloser <:+: body ++ ['*'] ∧
      m = n + body.length + 2 := by
  fun_induction commentLength? n s with
  | case1 => simp at h
  | case2 n s =>
    refine ⟨[], s, rfl, ?_, by simpa using h.symm⟩
    intro hinfix
    simpa [commentCloser] using hinfix.length_le
  | case3 n c s hcloser ih =>
    obtain ⟨body, rest, rfl, hbody, rfl⟩ := ih h
    refine ⟨c :: body, rest, rfl, ?_, by simp; omega⟩
    rw [List.cons_append, List.infix_cons_iff, not_or]
    refine ⟨?_, hbody⟩
    intro hstart
    cases body with
    | nil => simp [commentCloser] at hstart
    | cons d body =>
      simp only [commentCloser, List.cons_append, List.cons_prefix_cons] at hstart
      obtain ⟨rfl, rfl, -⟩ := hstart
      exact hcloser _ rfl rfl

theorem commentLength?_eq_none_iff {n : Nat} {s : List Char} :
    commentLength? n s = none ↔ ¬ commentCloser <:+: s := by
  fun_induction commentLength? n s with
  | case1 n => simp [commentCloser]
  | case2 n s =>
    have hstart : commentCloser <:+: '*' :: '/' :: s := ⟨[], s, rfl⟩
    simp [hstart]
  | case3 n c s hcloser ih =>
    have hstart : ¬ commentCloser <+: c :: s := by
      rintro ⟨rest, hrest⟩
      obtain ⟨rfl, rfl⟩ := List.cons.inj hrest
      exact hcloser rest rfl rfl
    rw [ih, List.infix_cons_iff, or_iff_right hstart]

theorem take_closed (body rest : List Char) :
    (body ++ (commentCloser ++ rest)).take (body.length + 2) = body ++ commentCloser := by
  rw [← List.append_assoc]
  exact List.take_left' (by simp [commentCloser])

/-! ## The text of a block comment that grows -/

def commentOpener : List Char := ['/', '*']

theorem four_le_byteLength (c d : Char) (s : List Char) :
    4 ≤ Source.byteLength (c :: d :: (s ++ commentOpener.reverse)) := by
  have hopener : Source.byteLength commentOpener.reverse = 2 := by decide
  have hc := c.utf8Size_pos
  have hd := d.utf8Size_pos
  simp only [Source.byteLength_cons, Source.byteLength_append, hopener]
  omega

/-- A comment is closed if its body ends in a closer. -/
theorem isClosedComment_iff (body : List Char) :
    isClosedComment (body.reverse ++ commentOpener.reverse) ↔ commentCloser <:+ body := by
  rw [← List.reverse_prefix, isClosedComment, Bool.and_eq_true, List.isPrefixOf_iff_prefix,
    decide_eq_true_iff]
  change commentCloser.reverse <+: _ ∧ _ ↔ _
  generalize body.reverse = taken
  match taken with
  | [] => decide
  | [c] =>
    have hshort : ¬ commentCloser.reverse <+: [c] := by simp [commentCloser]
    refine iff_of_false ?_ hshort
    rintro ⟨hcloser, hbytes⟩
    obtain ⟨rfl, -⟩ := List.cons_prefix_cons.mp hcloser
    exact absurd hbytes (by decide)
  | c :: d :: taken =>
    have hbytes : 4 ≤ Source.byteLength (c :: d :: taken ++ commentOpener.reverse) :=
      four_le_byteLength c d taken
    rw [and_iff_left hbytes]
    simp [commentCloser]

theorem closedComment?_of_closed {taken : List Char} (h : isClosedComment taken)
    (s : List Char) : closedComment? taken s = some taken.reverse := by
  cases s <;> rw [closedComment?, if_pos h]

/-- As long as the body holds no closer, the text grows up to the first one in what follows. -/
theorem closedComment?_reverse (body s : List Char) (h : ¬ commentCloser <:+: body) :
    closedComment? (body.reverse ++ commentOpener.reverse) s =
      (commentLength? 0 (body ++ s)).map fun n => commentOpener ++ (body ++ s).take n := by
  have hopen : ¬ isClosedComment (body.reverse ++ commentOpener.reverse) := by
    rw [isClosedComment_iff]
    exact fun hsuffix => h hsuffix.isInfix
  induction s generalizing body with
  | nil =>
    have hnone : commentLength? 0 (body ++ []) = none := by
      rw [List.append_nil]
      exact commentLength?_eq_none_iff.mpr h
    rw [closedComment?, if_neg hopen, hnone, Option.map_none]
  | cons c s ih =>
    have htaken : c :: (body.reverse ++ commentOpener.reverse) =
        (body ++ [c]).reverse ++ commentOpener.reverse := by simp
    rw [closedComment?, if_neg hopen, htaken, List.append_cons body c s]
    -- Either this character is the slash of the first closer, or the body goes on with it.
    by_cases hclosed : isClosedComment ((body ++ [c]).reverse ++ commentOpener.reverse)
    · obtain ⟨front, hfront⟩ := (isClosedComment_iff _).mp hclosed
      have hstar : front ++ ['*'] = body := by
        rw [commentCloser, List.append_cons] at hfront
        exact (List.append_inj' hfront rfl).1
      have hlength : commentLength? 0 (front ++ (commentCloser ++ s)) =
          some (0 + front.length + 2) := commentLength?_of_first (hstar ▸ h) 0 s
      rw [closedComment?_of_closed hclosed, ← hfront, List.append_assoc front, hlength,
        Option.map_some, Nat.zero_add, take_closed, List.reverse_append, List.reverse_reverse,
        List.reverse_reverse]
    · have hopen' : ¬ commentCloser <:+: body ++ [c] := by
        rw [List.infix_concat_iff, not_or, ← isClosedComment_iff]
        exact ⟨hclosed, h⟩
      exact ih _ hopen' hclosed

/-- The text is closed by the first closer behind the opener. -/
theorem closedComment?_opener (s : List Char) : closedComment? ['*', '/'] s =
    (commentLength? 0 s).map fun n => '/' :: '*' :: s.take n :=
  closedComment?_reverse [] s (by simp [commentCloser])

/-- The search answers `past` characters after a body exactly if the closer follows the body. -/
def Finds (search : List Char → Option Nat) (closer : List Char) (IsBody : List Char → Prop)
    (past : Nat) : Prop :=
  ∀ s m, search s = some m ↔
    ∃ body rest, s = body ++ (closer ++ rest) ∧ IsBody body ∧ m = body.length + past

section Finds
variable {search : Nat → List Char → Option Nat} {closer : List Char} {IsBody : List Char → Prop}
  {past : Nat}

/-- What a search does from every count on says what it finds from none. -/
theorem Finds.of_search
    (hsound : ∀ {n m s}, search n s = some m →
      ∃ body rest, s = body ++ (closer ++ rest) ∧ IsBody body ∧ m = n + body.length + past)
    (hcomplete : ∀ {body}, IsBody body → ∀ n rest,
      search n (body ++ (closer ++ rest)) = some (n + body.length + past)) :
    Finds (search 0) closer IsBody past := by
  intro s m
  constructor
  · intro h
    obtain ⟨body, rest, hs, hbody, hm⟩ := hsound h
    exact ⟨body, rest, hs, hbody, by omega⟩
  · rintro ⟨body, rest, rfl, hbody, rfl⟩
    rw [hcomplete hbody, Nat.zero_add]

/-- No text has two bodies, since the search finds the length of each. -/
theorem Finds.unique {find : List Char → Option Nat} (hfind : Finds find closer IsBody past)
    {body rest body' rest' : List Char} (hbody : IsBody body) (hbody' : IsBody body')
    (h : body ++ (closer ++ rest) = body' ++ (closer ++ rest')) : body = body' ∧ rest = rest' := by
  have hlength := (hfind _ _).mpr ⟨body, rest, rfl, hbody, rfl⟩
  have hlength' := (hfind _ _).mpr ⟨body', rest', h, hbody', rfl⟩
  rw [hlength, Option.some.injEq, Nat.add_right_cancel_iff] at hlength'
  obtain ⟨rfl, htail⟩ := List.append_inj h hlength'
  exact ⟨rfl, List.append_cancel_left htail⟩

end Finds

theorem finds_quoted {quote : Char} (hq : quote ≠ '\\') :
    Finds (quotedLength? quote 0) [quote] (Units [quote]) 0 :=
  .of_search units_of_quotedLength? (quotedLength?_of_units hq)

theorem finds_block : Finds (blockLength? 0) blockDelimiter (Units blockDelimiter) 0 :=
  .of_search units_of_blockLength? blockLength?_of_units

theorem finds_comment :
    Finds (commentLength? 0) commentCloser (fun body => ¬ commentCloser <:+: body ++ ['*']) 2 :=
  .of_search first_of_commentLength? commentLength?_of_first

end JavaLex.Scan.Lexeme
