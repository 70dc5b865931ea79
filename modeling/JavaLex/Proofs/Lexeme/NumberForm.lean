import JavaLex.Proofs.Lexeme.Opening
import JavaLex.Proofs.Lexicon.Longest

/-! # The forms of a number

A zero and a mark after it make a number binary, hexadecimal or octal; any other is decimal. Each
form has a language, which is told by its characters alone and not by their order. A number is the
longest prefix in the language of the form that the text opens.
-/
namespace JavaLex.Scan
open Lexicon Lexeme
open scoped Computability

inductive NumberForm where
  | binary
  | hexadecimal
  | octal
  | decimal
  deriving DecidableEq

/-- A digit stands first, or a dot before one. -/
def StartsNumber (s : List Char) : Prop :=
  ∃ c r, s = c :: r ∧ OpensNumber c r

namespace NumberForm

def digits : NumberForm → List Char
  | binary => "01_".toList
  | hexadecimal => "0123456789abcdefABCDEF._pP+-".toList
  | octal => "01234567_".toList
  | decimal => "0123456789._eE+-".toList

def suffixes : NumberForm → List Char
  | decimal => "lLdDfF".toList
  | _ => "lL".toList

/-- What makes a number of this form after a zero. -/
def marks : NumberForm → List Char
  | binary => "bB".toList
  | hexadecimal => "xX".toList
  | octal => octal.digits
  | decimal => []

/-- The zero and the mark, or the first digit. -/
def lead : NumberForm → Language Char
  | binary => oneOf ['0'] * oneOf binary.marks
  | hexadecimal => oneOf ['0'] * oneOf hexadecimal.marks
  | octal => oneOf octal.digits
  | decimal => oneOf decimal.digits

/-- A number without its suffix. -/
def stem (form : NumberForm) : Language Char :=
  form.lead * (oneOf form.digits)∗

def language (form : NumberForm) : Language Char :=
  form.stem * (1 + oneOf form.suffixes)

def Marked (form : NumberForm) (s : List Char) : Prop :=
  ∃ d ∈ form.marks, ['0', d] <+: s

/-- The text starts a number of this form. -/
def Opens (form : NumberForm) (s : List Char) : Prop :=
  form.Marked s ∨ form = decimal ∧ StartsNumber s ∧ ∀ other : NumberForm, ¬ other.Marked s

/-- What a number of this form is made of. -/
def radix : NumberForm → Radix
  | binary => .binary
  | hexadecimal => .hexadecimal
  | octal => .octal
  | decimal => .decimal

deriving instance DecidableEq for Radix

variable {form form' : NumberForm} {s text : List Char} {c d : Char}

theorem radix_injective : Function.Injective radix := by
  intro form form' h
  have hdigits := congrArg Radix.digits h
  cases form <;> cases form' <;> first | rfl | exact absurd hdigits (by decide)

theorem Marked.startsNumber (h : form.Marked s) : StartsNumber s := by
  obtain ⟨d, -, r, rfl⟩ := h
  exact ⟨'0', d :: r, rfl, .inl (by decide)⟩

theorem Opens.startsNumber (h : form.Opens s) : StartsNumber s := by
  rcases h with hmarked | ⟨-, hstarts, -⟩
  · exact hmarked.startsNumber
  · exact hstarts

theorem Marked.radix?_eq (h : form.Marked s) : radix? s = some form.radix := by
  obtain ⟨d, hd, r, rfl⟩ := h
  have hall : form.marks.all fun d => radix? ['0', d] = some form.radix := by
    cases form <;> decide
  rw [List.cons_append, List.singleton_append, radix?_cons_cons]
  simpa using List.all_eq_true.mp hall d hd

theorem radix?_none_iff : radix? s = none ↔ ¬ StartsNumber s := by
  cases s with
  | nil => simp [radix?, StartsNumber]
  | cons c r =>
    rw [radix?_eq_none_iff]
    simp [StartsNumber, OpensNumber]

theorem radix?_of_unmarked (hstarts : StartsNumber s) (h : ∀ form : NumberForm, ¬ form.Marked s) :
    radix? s = some .decimal := by
  obtain ⟨c, r, rfl, hopens⟩ := hstarts
  by_cases hzero : c = '0'
  · subst hzero
    cases r with
    | nil => rfl
    | cons d r =>
      have hd (form : NumberForm) : d ∉ form.marks := fun hd => h form ⟨d, hd, r, rfl⟩
      have hbinary : ¬ (d = 'b' ∨ d = 'B') := by simpa [marks] using hd binary
      have hhexadecimal : ¬ (d = 'x' ∨ d = 'X') := by simpa [marks] using hd hexadecimal
      have hoctal : d ∉ Radix.octal.digits := hd octal
      simp [radix?, hbinary, hhexadecimal, hoctal]
  · cases hradix : radix? (c :: r) with
    | none => exact absurd ⟨c, r, rfl, hopens⟩ (radix?_none_iff.mp hradix)
    | some r => rw [(radix?_eq_decimal hzero hradix).1]

theorem Opens.radix?_eq (h : form.Opens s) : radix? s = some form.radix := by
  rcases h with hmarked | ⟨rfl, hstarts, hunmarked⟩
  · exact hmarked.radix?_eq
  · exact radix?_of_unmarked hstarts hunmarked

theorem existsUnique_opens (h : StartsNumber s) : ∃! form : NumberForm, form.Opens s := by
  apply existsUnique_of_exists_of_unique
  · by_cases hmarked : ∃ form : NumberForm, form.Marked s
    · obtain ⟨form, hform⟩ := hmarked
      exact ⟨form, .inl hform⟩
    · exact ⟨decimal, .inr ⟨rfl, h, not_exists.mp hmarked⟩⟩
  · intro form form' hopens hopens'
    apply radix_injective
    exact Option.some.inj (hopens.radix?_eq.symm.trans hopens'.radix?_eq)

/-! ## What is read of a number -/

/-- The digits and suffixes of a form are those that are read, except that a hexadecimal digit is
never left for a suffix. -/
theorem greedy_radix (form : NumberForm) (s : List Char) :
    greedy form.radix.digits form.radix.suffixes s = greedy form.digits form.suffixes s := by
  have hread : form.radix.digits.all form.digits.contains ∧ form.radix.suffixes.all fun c =>
      form.radix.digits.contains c || form.suffixes.contains c := by
    cases form <;> decide
  have hall : form.digits.all form.radix.digits.contains ∧
      form.suffixes.all form.radix.suffixes.contains := by
    cases form <;> decide
  simp only [List.all_eq_true, List.contains_iff_mem, Bool.or_eq_true] at hread hall
  apply greedy_congr
  · exact fun c => ⟨hread.1 c, hall.1 c⟩
  · intro c hc
    exact ⟨fun hsuffix => (hread.2 c hsuffix).resolve_left hc, hall.2 c⟩

/-- The number at the head of a text is read greedily after its first characters. -/
theorem length_eq_greedy {r : Radix} {lead : List Char} (hlead : lead.length = r.lead)
    (tail : List Char) :
    r.length (lead ++ tail) = (lead ++ greedy r.digits r.suffixes tail).length := by
  obtain ⟨run, rest, rfl, hrun, hrest, hgreedy⟩ := exists_run r.digits tail
  have htake : (run ++ rest).takeWhile r.digits.contains = run := by
    refine takeWhile_eq_iff.mpr ⟨rest, rfl, ?_, ?_⟩
    · simpa using mem_kstar_oneOf.mp hrun
    · simpa using hrest
  have hlength : r.runLength (lead ++ (run ++ rest)) = (lead ++ run).length := by
    rw [Radix.runLength, ← hlead, List.drop_left, htake, List.length_append]
  rw [Radix.length_eq, hlength, hgreedy, ← List.append_assoc, List.drop_left]
  cases rest with
  | nil => simp
  | cons c rest => by_cases hc : c ∈ r.suffixes <;> simp [hc, Nat.add_assoc]

theorem number?_eq_greedy {r : Radix} {lead tail : List Char} (hlead : lead.length = r.lead)
    (h : radix? (lead ++ tail) = some r) : number? (lead ++ tail) = some
      (.token .number (lead ++ greedy r.digits r.suffixes tail)
        (lead ++ greedy r.digits r.suffixes tail).length) := by
  have hprefix : lead ++ greedy r.digits r.suffixes tail <+: lead ++ tail :=
    (List.prefix_append_right_inj lead).mpr (longest_greedy _ _ tail).isPrefix
  rw [number?, h, Option.map_some, length_eq_greedy hlead, ← List.prefix_iff_eq_take.mp hprefix]

theorem longest_lead {lead : List Char} (hlead : lead ∈ form.lead)
    (hwidth : ∀ w ∈ form.lead, w.length = lead.length) (tail : List Char) :
    Longest form.language (lead ++ tail) (lead ++ greedy form.digits form.suffixes tail) := by
  rw [language, stem, mul_assoc]
  exact (longest_greedy form.digits form.suffixes tail).append hwidth hlead

/-- What is read is the longest number of the form. -/
def ReadsLongest (form : NumberForm) (s : List Char) : Prop :=
  ∃ text, Longest form.language s text ∧ number? s = some (.token .number text text.length)

theorem readsLongest_of_mark (hlead : form.lead = oneOf ['0'] * oneOf form.marks)
    (hradix : form.radix.lead = 2) (h : form.Marked s) : form.ReadsLongest s := by
  have hread := h.radix?_eq
  obtain ⟨d, hd, tail, rfl⟩ := h
  have hmem : ['0', d] ∈ form.lead := by
    rw [hlead]
    exact ⟨['0'], ⟨'0', List.mem_singleton_self _, rfl⟩, [d], ⟨d, hd, rfl⟩, rfl⟩
  have hwidth : ∀ w ∈ form.lead, w.length = 2 := by
    rw [hlead]
    rintro _ ⟨_, ⟨a, -, rfl⟩, _, ⟨b, -, rfl⟩, rfl⟩
    rfl
  refine ⟨_, longest_lead hmem hwidth tail, ?_⟩
  have hlength : ['0', d].length = form.radix.lead := hradix.symm
  rw [number?_eq_greedy hlength hread, greedy_radix]

theorem readsLongest_of_digit (hlead : form.lead = oneOf form.digits)
    (hradix : form.radix.lead = 0) (hc : c ∈ form.digits) (h : form.Opens (c :: s)) :
    form.ReadsLongest (c :: s) := by
  have hmem : [c] ∈ form.lead := by
    rw [hlead]
    exact ⟨c, hc, rfl⟩
  have hwidth : ∀ w ∈ form.lead, w.length = 1 := by
    rw [hlead]
    rintro _ ⟨a, -, rfl⟩
    rfl
  refine ⟨_, longest_lead hmem hwidth s, ?_⟩
  have hlength : ([] : List Char).length = form.radix.lead := hradix.symm
  have hread : radix? ([] ++ c :: s) = some form.radix := h.radix?_eq
  have hnumber := number?_eq_greedy hlength hread
  rwa [List.nil_append, List.nil_append, greedy_radix, greedy_cons hc] at hnumber

theorem Opens.readsLongest (h : form.Opens s) : form.ReadsLongest s := by
  rcases h with hmarked | ⟨rfl, hstarts, hunmarked⟩
  · cases form with
    | binary => exact readsLongest_of_mark rfl rfl hmarked
    | hexadecimal => exact readsLongest_of_mark rfl rfl hmarked
    | octal =>
      obtain ⟨d, hd, r, rfl⟩ := hmarked
      exact readsLongest_of_digit rfl rfl (by decide) (.inl ⟨d, hd, r, rfl⟩)
    | decimal =>
      obtain ⟨d, hd, -⟩ := hmarked
      cases hd
  · obtain ⟨c, r, rfl, hopens⟩ := hstarts
    have hc : c ∈ decimal.digits := by
      rcases hopens with hdigit | ⟨rfl, -⟩
      · exact of_isDigit (P := (· ∈ decimal.digits)) hdigit (by decide)
      · decide
    exact readsLongest_of_digit rfl rfl hc (.inr ⟨rfl, ⟨c, r, rfl, hopens⟩, hunmarked⟩)

theorem number?_none_iff : number? s = none ↔ ¬ StartsNumber s := by
  rw [number?, Option.map_eq_none_iff, radix?_none_iff]

/-! ## Signs -/

def signs : List Char := ['+', '-']

theorem mem_digits_iff_of_sign (hsign : c ∈ signs) :
    c ∈ form.digits ↔ form = decimal ∨ form = hexadecimal := by
  have hall : signs.all fun sign =>
      form.digits.contains sign == decide (form = decimal ∨ form = hexadecimal) := by
    cases form <;> decide
  have hc := List.all_eq_true.mp hall c hsign
  rw [beq_iff_eq, Bool.eq_iff_iff] at hc
  simpa using hc

theorem head_not_sign (h : StartsNumber (c :: s)) : c ∉ signs := by
  obtain ⟨d, r, heq, hopens⟩ := h
  obtain ⟨rfl, rfl⟩ := List.cons.inj heq
  rcases hopens with hdigit | ⟨rfl, -⟩
  · exact of_isDigit (P := (· ∉ signs)) hdigit (by decide)
  · decide

theorem not_sign_of_mem {cs : List Char} (hcs : cs.all fun c => !signs.contains c) (hc : c ∈ cs) :
    c ∉ signs := by
  simpa using List.all_eq_true.mp hcs c hc

/-- No sign is a mark. -/
theorem not_sign_of_lead {w : List Char} (h : c :: w ∈ form.lead) (hd : d ∈ w) : d ∉ signs := by
  have hmarks : form.marks.all fun m => !signs.contains m := by
    cases form <;> decide
  cases form with
  | binary | hexadecimal =>
    obtain ⟨_, ⟨a, -, rfl⟩, _, ⟨m, hm, rfl⟩, heq⟩ := h
    obtain rfl : [m] = w := (List.cons.inj heq).2
    rw [List.mem_singleton.mp hd]
    exact not_sign_of_mem hmarks hm
  | octal | decimal =>
    obtain ⟨a, -, heq⟩ := h
    rw [(List.cons.inj heq).2] at hd
    cases hd

variable {before after rest : List Char} {sign : Char}

/-- A stem with a sign in it is one up to the sign. -/
theorem stem_before_sign (hstarts : StartsNumber (before ++ sign :: rest)) (hsign : sign ∈ signs)
    (h : before ++ sign :: after ∈ form.stem) : before ∈ form.stem ∧ sign ∈ form.digits := by
  obtain ⟨lead, hlead, run, hrun, heq⟩ := Language.mem_mul.mp h
  rcases List.append_eq_append_iff.mp heq with ⟨x, rfl, rfl⟩ | ⟨x, rfl, htail⟩
  · have hrun := mem_kstar_oneOf.mp hrun
    have hx : x ∈ (oneOf form.digits)∗ :=
      mem_kstar_oneOf.mpr fun c hc => hrun c (List.mem_append_left _ hc)
    exact ⟨Language.append_mem_mul hlead hx, hrun sign (by simp)⟩
  · cases x with
    | nil =>
      rw [List.nil_append] at htail
      subst htail
      rw [List.append_nil] at hlead
      refine ⟨⟨before, hlead, [], Language.nil_mem_kstar _, List.append_nil before⟩, ?_⟩
      exact mem_kstar_oneOf.mp hrun sign (by simp)
    | cons d x =>
      -- The sign would belong to the first characters of the number.
      obtain ⟨rfl, -⟩ := List.cons.inj htail
      cases before with
      | nil => exact absurd hsign (head_not_sign hstarts)
      | cons c before => exact absurd hsign (not_sign_of_lead hlead (by simp))

/-- No sign is a suffix. -/
theorem language_before_sign (hstarts : StartsNumber (before ++ sign :: rest))
    (hsign : sign ∈ signs) (h : before ++ sign :: after ∈ form.language) :
    before ∈ form.stem ∧ sign ∈ form.digits := by
  have hsuffixes : form.suffixes.all fun c => !signs.contains c := by
    cases form <;> decide
  rcases mem_mul_suffix.mp h with hstem | ⟨v, hv, c, hc, heq⟩
  · exact stem_before_sign hstarts hsign hstem
  · rcases after.eq_nil_or_concat with rfl | ⟨after, d, rfl⟩
    · obtain ⟨-, hlast⟩ := List.append_inj' heq rfl
      rw [(List.cons.inj hlast).1] at hsign
      exact absurd hsign (not_sign_of_mem hsuffixes hc)
    · rw [List.concat_eq_append, ← List.cons_append, ← List.append_assoc] at heq
      obtain ⟨hstem, -⟩ := List.append_inj' heq rfl
      rw [← hstem] at hv
      exact stem_before_sign hstarts hsign hv

theorem stem_append_digit (h : before ∈ form.stem) (hc : c ∈ form.digits) :
    before ++ [c] ∈ form.stem := by
  obtain ⟨lead, hlead, run, hrun, rfl⟩ := Language.mem_mul.mp h
  refine Language.mem_mul.mpr
    ⟨lead, hlead, run ++ [c], ?_, (List.append_assoc lead run [c]).symm⟩
  rw [mem_kstar_oneOf] at hrun ⊢
  intro d hd
  rcases List.mem_append.mp hd with hmem | hmem
  · exact hrun d hmem
  · rwa [List.mem_singleton.mp hmem]

/-- A sign belongs to the number exactly if it may stand behind what comes before it. -/
theorem length_lt_iff_of_sign (hopens : form.Opens (before ++ sign :: rest))
    (hlongest : Longest form.language (before ++ sign :: rest) text) (hsign : sign ∈ signs) :
    before.length < text.length ↔ (form = decimal ∨ form = hexadecimal) ∧ before ∈ form.stem := by
  rw [← mem_digits_iff_of_sign hsign]
  have hprefix : before ++ [sign] <+: before ++ sign :: rest := ⟨rest, by simp⟩
  constructor
  · intro hlt
    obtain ⟨after, hafter⟩ : before ++ [sign] <+: text := by
      apply List.prefix_of_prefix_length_le hprefix hlongest.isPrefix
      rw [List.length_append, List.length_singleton]
      exact hlt
    rw [List.append_assoc, List.singleton_append] at hafter
    rw [← hafter] at hlongest
    exact (language_before_sign hopens.startsNumber hsign hlongest.mem).symm
  · rintro ⟨hdigit, hstem⟩
    have hmem : before ++ [sign] ∈ form.language :=
      mem_mul_suffix.mpr (.inl (stem_append_digit hstem hdigit))
    have hle := hlongest.length_le _ hmem hprefix
    rw [List.length_append, List.length_singleton] at hle
    exact hle

end NumberForm
end JavaLex.Scan
