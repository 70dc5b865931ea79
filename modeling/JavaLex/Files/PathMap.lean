import JavaLex.Files.FilePath

/-! # Values by path

An association list in the order of its paths, each of which is there once. A path that is present
keeps the spelling under which it came in.
-/
namespace JavaLex.Files

/-- In strictly increasing order of the paths. -/
def Increasing {α : Type} (entries : List (FilePath × α)) : Prop :=
  entries.Pairwise fun a b => compare a.1 b.1 = .lt

structure PathMap (α : Type) where
  entries : List (FilePath × α) := []
  increasing : Increasing entries := by exact .nil
  deriving Repr

namespace PathMap

variable {α : Type}

instance : Inhabited (PathMap α) := ⟨{}⟩

def empty : PathMap α := {}

def isEmpty (m : PathMap α) : Bool :=
  m.entries.isEmpty

def paths (m : PathMap α) : List FilePath :=
  m.entries.map (·.1)

def find? (m : PathMap α) (p : FilePath) : Option α :=
  (m.entries.find? (·.1.same p)).map (·.2)

/-- A value is found under every spelling of its path. -/
theorem find?_congr (m : PathMap α) {p q : FilePath} (h : p.same q) : m.find? p = m.find? q := by
  unfold find?
  congr 2
  funext entry
  rw [FilePath.same_comm, FilePath.same_congr h, FilePath.same_comm]

/-- The entries with `f` applied to the value at `p`, which may be missing. -/
def alterEntries (p : FilePath) (f : Option α → α) : List (FilePath × α) → List (FilePath × α)
  | [] => [(p, f none)]
  | (q, a) :: entries =>
    match compare p q with
    | .lt => (p, f none) :: (q, a) :: entries
    | .eq => (q, f (some a)) :: entries
    | .gt => (q, a) :: alterEntries p f entries

/-- The paths are those that were there, and the one altered. -/
theorem fst_of_mem_alterEntries {p : FilePath} {f : Option α → α} {entries : List (FilePath × α)}
    {e : FilePath × α} (h : e ∈ alterEntries p f entries) :
    e.1 = p ∨ ∃ d ∈ entries, d.1 = e.1 := by
  induction entries with
  | nil => exact .inl (congrArg Prod.fst (List.mem_singleton.mp h))
  | cons d entries ih =>
    rw [alterEntries] at h
    split at h
    · rcases List.mem_cons.mp h with rfl | h
      · exact .inl rfl
      · exact .inr ⟨e, h, rfl⟩
    · rcases List.mem_cons.mp h with rfl | h
      · exact .inr ⟨d, List.mem_cons_self, rfl⟩
      · exact .inr ⟨e, List.mem_cons_of_mem d h, rfl⟩
    · rcases List.mem_cons.mp h with rfl | h
      · exact .inr ⟨d, List.mem_cons_self, rfl⟩
      · rcases ih h with hp | ⟨d', hd', heq⟩
        · exact .inl hp
        · exact .inr ⟨d', List.mem_cons_of_mem d hd', heq⟩

theorem alterEntries_increasing {entries : List (FilePath × α)} (h : Increasing entries)
    (p : FilePath) (f : Option α → α) : Increasing (alterEntries p f entries) := by
  induction entries with
  | nil => exact List.pairwise_singleton ..
  | cons d entries ih =>
    obtain ⟨hd, hentries⟩ := List.pairwise_cons.mp h
    rw [alterEntries]
    split
    case h_1 hp =>
      refine List.Pairwise.cons ?_ h
      intro e he
      rcases List.mem_cons.mp he with rfl | he
      · exact hp
      · exact Std.TransCmp.lt_trans hp (hd e he)
    case h_2 => exact List.Pairwise.cons hd hentries
    case h_3 hp =>
      refine List.Pairwise.cons ?_ (ih hentries)
      intro e he
      rcases fst_of_mem_alterEntries he with hfst | ⟨e', he', hfst⟩
      · rw [hfst]
        exact Std.OrientedCmp.lt_of_gt hp
      · rw [← hfst]
        exact hd e' he'

def alter (m : PathMap α) (p : FilePath) (f : Option α → α) : PathMap α :=
  ⟨alterEntries p f m.entries, alterEntries_increasing m.increasing p f⟩

def insert (m : PathMap α) (p : FilePath) (a : α) : PathMap α :=
  m.alter p fun _ => a

/-- A path before all others is not found among them. -/
theorem find?_eq_none_of_lt {p : FilePath} {entries : List (FilePath × α)}
    (h : ∀ e ∈ entries, compare p e.1 = .lt) : entries.find? (·.1.same p) = none := by
  rw [List.find?_eq_none]
  intro e he hsame
  rw [FilePath.same_comm] at hsame
  have heq : compare p e.1 = .eq := FilePath.compare_eq_iff.mpr hsame
  rw [h e he] at heq
  cases heq

/-- A path that comes after another is not the same. -/
theorem same_eq_false_of_gt {p q : FilePath} (h : compare p q = .gt) : q.same p = false := by
  rw [Bool.eq_false_iff]
  intro hsame
  rw [FilePath.same_comm] at hsame
  rw [FilePath.compare_eq_iff.mpr hsame] at h
  cases h

theorem lt_of_mem_cons {p : FilePath} {d e : FilePath × α} {entries : List (FilePath × α)}
    (h : Increasing (d :: entries)) (hp : compare p d.1 = .lt) (he : e ∈ d :: entries) :
    compare p e.1 = .lt := by
  rcases List.mem_cons.mp he with rfl | he
  · exact hp
  · exact Std.TransCmp.lt_trans hp ((List.pairwise_cons.mp h).1 e he)

theorem same_eq_false_of_lt {p q : FilePath} (h : compare p q = .lt) : p.same q = false := by
  exact same_eq_false_of_gt (Std.OrientedCmp.gt_of_lt h)

/-- An entry is found under its path. -/
theorem find?_of_mem (m : PathMap α) {e : FilePath × α} (h : e ∈ m.entries) :
    m.find? e.1 = some e.2 := by
  obtain ⟨entries, hincreasing⟩ := m
  unfold find?
  induction entries with
  | nil => cases h
  | cons d entries ih =>
    obtain ⟨hd, hentries⟩ := List.pairwise_cons.mp hincreasing
    rcases List.mem_cons.mp h with rfl | h
    · simp
    · simp only [List.find?_cons, same_eq_false_of_lt (hd e h)]
      exact ih hentries h

theorem pairwise_paths (m : PathMap α) : m.paths.Pairwise fun p q => p.same q = false :=
  List.pairwise_map.mpr (m.increasing.imp same_eq_false_of_lt)

theorem find?_alterEntries {entries : List (FilePath × α)} (h : Increasing entries)
    (p q : FilePath) (f : Option α → α) :
    ((alterEntries p f entries).find? (·.1.same q)).map (·.2) =
      if p.same q then some (f ((entries.find? (·.1.same p)).map (·.2)))
      else (entries.find? (·.1.same q)).map (·.2) := by
  induction entries with
  | nil => by_cases hq : p.same q <;> simp [alterEntries, hq]
  | cons d entries ih =>
    rw [alterEntries]
    split
    case h_1 hp =>
      rw [find?_eq_none_of_lt fun e he => lt_of_mem_cons h hp he]
      by_cases hq : p.same q <;> simp [hq]
    case h_2 hp =>
      have hsame : p.same d.1 := FilePath.compare_eq_iff.mp hp
      have hd : d.1.same p := (FilePath.same_comm d.1 p).trans hsame
      rw [FilePath.same_congr hsame q]
      by_cases hq : d.1.same q <;> simp [hq, hd]
    case h_3 hp =>
      have hd : d.1.same p = false := same_eq_false_of_gt hp
      by_cases hq : d.1.same q
      · rw [FilePath.same_congr hq p, FilePath.same_comm] at hd
        simp [hq, hd]
      · simp [hq, hd, ih (List.pairwise_cons.mp h).2]

theorem find?_alter (m : PathMap α) (p q : FilePath) (f : Option α → α) :
    (m.alter p f).find? q = if p.same q then some (f (m.find? p)) else m.find? q :=
  find?_alterEntries m.increasing p q f

theorem find?_insert (m : PathMap α) (p q : FilePath) (a : α) :
    (m.insert p a).find? q = if p.same q then some a else m.find? q :=
  m.find?_alter p q fun _ => a

/-- Of two paths the smaller one comes first, whichever is altered first. -/
theorem alterEntries_comm_of_lt {p q : FilePath} (h : compare p q = .lt) (f g : Option α → α)
    (entries : List (FilePath × α)) :
    alterEntries p f (alterEntries q g entries) = alterEntries q g (alterEntries p f entries) := by
  have hgt : compare q p = .gt := Std.OrientedCmp.gt_of_lt h
  induction entries with
  | nil => simp [alterEntries, h, hgt]
  | cons d entries ih =>
    cases hq : compare q d.1 with
    | lt =>
      have hp : compare p d.1 = .lt := Std.TransCmp.lt_trans h hq
      simp [alterEntries, h, hgt, hp, hq]
    | eq =>
      have hp : compare p d.1 = .lt := Std.TransCmp.lt_of_lt_of_eq h hq
      simp [alterEntries, hgt, hp, hq]
    | gt => cases hp : compare p d.1 <;> simp [alterEntries, hgt, hp, hq, ih]

/-- Values at different paths may be altered in either order. -/
theorem alter_comm (m : PathMap α) {p q : FilePath} (h : p.same q = false) (f g : Option α → α) :
    (m.alter q g).alter p f = (m.alter p f).alter q g := by
  suffices hentries : alterEntries p f (alterEntries q g m.entries) =
      alterEntries q g (alterEntries p f m.entries) by
    simp only [alter, hentries]
  cases hpq : compare p q with
  | lt => exact alterEntries_comm_of_lt hpq f g m.entries
  | eq =>
    rw [FilePath.compare_eq_iff.mp hpq] at h
    cases h
  | gt => exact (alterEntries_comm_of_lt (Std.OrientedCmp.lt_of_gt hpq) g f m.entries).symm

/-- What the values measure together. -/
def total (m : PathMap α) (measure : α → Nat) : Nat :=
  (m.entries.map fun e => measure e.2).foldr (· + ·) 0

theorem total_le_total (m : PathMap α) {measure measure' : α → Nat}
    (h : ∀ a, measure a ≤ measure' a) : m.total measure ≤ m.total measure' := by
  unfold total
  induction m.entries with
  | nil => exact Nat.le_refl 0
  | cons d entries ih => exact Nat.add_le_add (h d.2) ih

/-- No value measures more than all of them. -/
theorem elim_le_total (m : PathMap α) (p : FilePath) (measure : α → Nat) :
    (m.find? p).elim 0 measure ≤ m.total measure := by
  unfold total find?
  induction m.entries with
  | nil => exact Nat.le_refl 0
  | cons d entries ih =>
    rw [List.map_cons, List.foldr_cons]
    by_cases hd : d.1.same p
    · simp [hd]
    · simp only [List.find?_cons, Bool.eq_false_iff.mpr hd]
      omega

/-- Altering a value takes its old measure away and adds the new one. -/
theorem total_alter (m : PathMap α) (p : FilePath) (f : Option α → α) (measure : α → Nat) :
    (m.alter p f).total measure + (m.find? p).elim 0 measure =
      m.total measure + measure (f (m.find? p)) := by
  obtain ⟨entries, h⟩ := m
  simp only [total, alter, find?]
  induction entries with
  | nil => simp [alterEntries]
  | cons d entries ih =>
    rw [alterEntries]
    split
    case h_1 hp =>
      rw [find?_eq_none_of_lt fun e he => lt_of_mem_cons h hp he]
      simp [Nat.add_comm]
    case h_2 hp =>
      have hd : d.1.same p :=
        (FilePath.same_comm d.1 p).trans (FilePath.compare_eq_iff.mp hp)
      simp only [List.find?_cons, hd, Option.map_some, Option.elim_some, List.map_cons,
        List.foldr_cons]
      omega
    case h_3 hp =>
      have htail := ih (List.pairwise_cons.mp h).2
      simp only [List.find?_cons, same_eq_false_of_gt hp, List.map_cons, List.foldr_cons]
      omega

end PathMap
end JavaLex.Files
