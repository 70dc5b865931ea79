import JavaLex.Batch.Discovery
import JavaLex.Proofs.Files.Naming

/-! # Walks to entries

A walk to an entry goes through the directory that holds it, with or without a slash behind, and
the entries of a tree are no further down than its height between one link and the next. So the
paths below a directory lead down from directory to directory, and not without end. The order in
which directories list their entries does not show.
-/
namespace JavaLex
open Text Files

namespace Files
namespace Entry

theorem at?_append (e : Entry) (front back : List String) :
    e.at? (front ++ back) = (e.at? front).bind fun inner => inner.at? back := by
  induction front generalizing e with
  | nil => rfl
  | cons name front ih =>
    rw [List.cons_append, at?, at?, Option.bind_assoc]
    congr 1
    funext child
    exact ih child

theorem at?_concat {e inner : Entry} {names : List String} (h : e.at? names = some inner)
    (name : String) : e.at? (names ++ [name]) = inner.child? name := by
  rw [at?_append, h]
  cases hchild : inner.child? name <;> simp [at?, hchild]

theorem child?_isSome_iff {entries : List (String × Entry)} {name : String} :
    ((directory entries).child? name).isSome ↔ name ∈ entries.map (·.1) := by
  simp [child?, List.find?_isSome]

theorem height_le_heightOfAll {entries : List (String × Entry)} {e : String × Entry}
    (h : e ∈ entries) : e.2.height ≤ heightOfAll entries := by
  induction entries with
  | nil => cases h
  | cons first entries ih =>
    rw [heightOfAll]
    rcases List.mem_cons.mp h with rfl | h
    · exact Nat.le_max_left _ _
    · exact Nat.le_trans (ih h) (Nat.le_max_right _ _)

theorem height_of_child? {e child : Entry} {name : String} (h : e.child? name = some child) :
    child.height < e.height := by
  cases e with
  | file content => cases h
  | link target => cases h
  | directory entries =>
    rcases Option.map_eq_some_iff.mp h with ⟨found, hfound, rfl⟩
    exact Nat.lt_succ_of_le (height_le_heightOfAll (List.mem_of_find?_eq_some hfound))

theorem height_of_at? {e inner : Entry} {names : List String} (h : e.at? names = some inner) :
    names.length + inner.height ≤ e.height := by
  induction names generalizing e with
  | nil =>
    cases h
    exact Nat.le_of_eq (Nat.zero_add _)
  | cons name names ih =>
    obtain ⟨child, hchild, hinner⟩ := Option.bind_eq_some_iff.mp h
    have hlower := height_of_child? hchild
    have hrest := ih hinner
    rw [List.length_cons]
    omega

end Entry

/-- How a walk goes on after a part: from a place in the tree, or along a link. -/
inductive Turn where
  | on (here : List String)
  | along (here target : List String)

/-- What a part makes of a walk that is in a directory with these entries. -/
inductive Turns (here : List String) (entries : List (String × Entry)) (part : String) : Turn → Prop
  | stay (hpart : part = "" ∨ part = ".") : Turns here entries part (.on here)
  | up (hpart : part = "..") : Turns here entries part (.on here.dropLast)
  | down (child : Entry) (hname : part ≠ "" ∧ part ≠ "." ∧ part ≠ "..")
      (hsize : part.utf8ByteSize ≤ FileTree.maxNameBytes)
      (hchild : (Entry.directory entries).child? part = some child)
      (hlink : ∀ target, child ≠ .link target) : Turns here entries part (.on (here ++ [part]))
  | link (target : FilePath) (hname : part ≠ "" ∧ part ≠ "." ∧ part ≠ "..")
      (hsize : part.utf8ByteSize ≤ FileTree.maxNameBytes)
      (hchild : (Entry.directory entries).child? part = some (.link target.spelling)) :
      Turns here entries part (.along (if target.isAbsolute then [] else here) target.parts)

/-- A name leads to an entry that is there, and down to it if it is no link. -/
theorem Turns.exists_child {here : List String} {entries : List (String × Entry)} {name : String}
    {turn : Turn} (h : Turns here entries name turn) (hname : isEntryName name) :
    ∃ child, (Entry.directory entries).child? name = some child ∧
      ((∀ target, child ≠ .link target) → turn = .on (here ++ [name])) := by
  rw [isEntryName_iff] at hname
  cases h with
  | stay hpart => simp [hname] at hpart
  | up hpart => simp [hname] at hpart
  | down child _ _ hchild _ => exact ⟨child, hchild, fun _ => rfl⟩
  | link target _ _ hchild => exact ⟨_, hchild, fun hlink => absurd rfl (hlink target.spelling)⟩

namespace FileTree
variable {t : FileTree} {follow : List String → List String → Except AccessFault Place}

/-- The rest of the parts after a turn. -/
def walkOn (t : FileTree) (follow : List String → List String → Except AccessFault Place)
    (parts : List String) : Turn → Except AccessFault Place
  | .on here => t.walkParts follow here parts
  | .along here target => follow here (target ++ parts)

theorem walkParts_nil_eq_ok_iff {here : List String} {place : Place} :
    t.walkParts follow here [] = .ok place ↔
      ∃ entry, t.root.at? here = some entry ∧ place = ⟨here, entry⟩ := by
  rw [walkParts]
  cases t.root.at? here with
  | none => simp
  | some entry => simp [eq_comm]

theorem walkParts_cons_eq_ok_iff {here parts : List String} {part : String} {place : Place} :
    t.walkParts follow here (part :: parts) = .ok place ↔
      ∃ entries turn, t.root.at? here = some (.directory entries) ∧
        Turns here entries part turn ∧ t.walkOn follow parts turn = .ok place := by
  rw [walkParts]
  constructor
  · intro h
    split at h
    case h_2 => cases h
    case h_1 entries hentries =>
      split at h
      · exact ⟨entries, _, hentries, .stay ‹_›, h⟩
      · split at h
        · exact ⟨entries, _, hentries, .up ‹_›, h⟩
        · split at h
          · cases h
          · have hname : part ≠ "" ∧ part ≠ "." ∧ part ≠ ".." := by
              simp_all
            have hsize : part.utf8ByteSize ≤ maxNameBytes := Nat.le_of_not_lt ‹_›
            split at h
            · cases h
            case h_2 target hchild =>
              exact ⟨entries, _, hentries, .link ⟨target⟩ hname hsize hchild, h⟩
            case h_3 child hlink hchild =>
              exact ⟨entries, _, hentries, .down child hname hsize hchild hlink, h⟩
  · rintro ⟨entries, turn, hentries, hturn, h⟩
    simp only [hentries]
    cases hturn with
    | stay hpart => rwa [if_pos hpart]
    | up hpart =>
      subst hpart
      exact h
    | down child hname hsize hchild hlink =>
      rw [if_neg (by simp [hname]), if_neg hname.2.2, if_neg (Nat.not_lt.mpr hsize), hchild]
      cases child with
      | link target => exact absurd rfl (hlink target)
      | file content => exact h
      | directory inner => exact h
    | link target hname hsize hchild =>
      rw [if_neg (by simp [hname]), if_neg hname.2.2, if_neg (Nat.not_lt.mpr hsize), hchild]
      exact h

/-! ## The directory before a name -/

/-- A walk to a name goes through a directory that has an entry of that name. It ends there unless
the entry is a link. -/
def GoesThrough (follow : List String → List String → Except AccessFault Place) : Prop :=
  ∀ here parts name place, isEntryName name → follow here (parts ++ [name]) = .ok place →
    ∃ holder entries child, follow here parts = .ok ⟨holder, .directory entries⟩ ∧
      (Entry.directory entries).child? name = some child ∧
      ((∀ target, child ≠ .link target) → place = ⟨holder ++ [name], child⟩)

theorem walkParts_goesThrough (hfollow : GoesThrough follow) :
    GoesThrough (t.walkParts follow) := by
  intro here parts name place hname h
  induction parts generalizing here with
  | nil =>
    obtain ⟨entries, turn, hentries, hturn, hwalk⟩ := walkParts_cons_eq_ok_iff.mp h
    obtain ⟨child, hchild, hdown⟩ := hturn.exists_child hname
    refine ⟨here, entries, child, walkParts_nil_eq_ok_iff.mpr ⟨_, hentries, rfl⟩, hchild, ?_⟩
    intro hlink
    rw [hdown hlink, walkOn] at hwalk
    obtain ⟨entry, hentry, rfl⟩ := walkParts_nil_eq_ok_iff.mp hwalk
    rw [Entry.at?_concat hentries, hchild] at hentry
    cases hentry
    rfl
  | cons part parts ih =>
    rw [List.cons_append] at h
    obtain ⟨entries, turn, hentries, hturn, hwalk⟩ := walkParts_cons_eq_ok_iff.mp h
    have hthrough : ∃ holder inner child,
        t.walkOn follow parts turn = .ok ⟨holder, .directory inner⟩ ∧
          (Entry.directory inner).child? name = some child ∧
          ((∀ target, child ≠ .link target) → place = ⟨holder ++ [name], child⟩) := by
      cases turn with
      | on here => exact ih here hwalk
      | along here target =>
        rw [walkOn, ← List.append_assoc] at hwalk
        exact hfollow here (target ++ parts) name place hname hwalk
    obtain ⟨holder, inner, child, hwalk, hchild⟩ := hthrough
    exact ⟨holder, inner, child,
      walkParts_cons_eq_ok_iff.mpr ⟨entries, turn, hentries, hturn, hwalk⟩, hchild⟩

theorem walk_goesThrough (links : Nat) : GoesThrough (t.walk links) := by
  induction links with
  | zero => exact walkParts_goesThrough fun _ _ _ _ _ h => by cases h
  | succ links ih => exact walkParts_goesThrough ih

/-- A slash behind a directory makes no difference. -/
def BearsSlash (follow : List String → List String → Except AccessFault Place) : Prop :=
  ∀ here parts holder entries, follow here parts = .ok ⟨holder, .directory entries⟩ →
    follow here (parts ++ [""]) = .ok ⟨holder, .directory entries⟩

theorem walkParts_bearsSlash (hfollow : BearsSlash follow) : BearsSlash (t.walkParts follow) := by
  intro here parts holder entries h
  induction parts generalizing here with
  | nil =>
    obtain ⟨entry, hentry, hplace⟩ := walkParts_nil_eq_ok_iff.mp h
    cases hplace
    exact walkParts_cons_eq_ok_iff.mpr ⟨entries, _, hentry, .stay (.inl rfl), h⟩
  | cons part parts ih =>
    obtain ⟨inner, turn, hinner, hturn, hwalk⟩ := walkParts_cons_eq_ok_iff.mp h
    rw [List.cons_append]
    refine walkParts_cons_eq_ok_iff.mpr ⟨inner, turn, hinner, hturn, ?_⟩
    cases turn with
    | on here => exact ih here hwalk
    | along here target =>
      rw [walkOn, ← List.append_assoc]
      exact hfollow here (target ++ parts) holder entries hwalk

theorem walk_bearsSlash (links : Nat) : BearsSlash (t.walk links) := by
  induction links with
  | zero => exact walkParts_bearsSlash fun _ _ _ _ h => by cases h
  | succ links ih => exact walkParts_bearsSlash ih

/-! ## How far down a walk goes -/

/-- No walk ends in more than `n` names. -/
def EndsWithin (n : Nat) (follow : List String → List String → Except AccessFault Place) : Prop :=
  ∀ here parts names place, (∀ name ∈ names, isEntryName name) →
    follow here (parts ++ names) = .ok place → names.length ≤ n

/-- Along names a walk goes down, until it comes to a link. -/
theorem length_le_of_walkParts_names {n : Nat} (hfollow : EndsWithin n follow)
    {here names : List String} {place : Place} (hnames : ∀ name ∈ names, isEntryName name)
    (h : t.walkParts follow here names = .ok place) :
    here.length + names.length ≤ n + (t.root.height + 1) := by
  induction names generalizing here with
  | nil =>
    obtain ⟨entry, hentry, -⟩ := walkParts_nil_eq_ok_iff.mp h
    have hheight := Entry.height_of_at? hentry
    rw [List.length_nil]
    omega
  | cons name names ih =>
    rw [List.forall_mem_cons] at hnames
    obtain ⟨entries, turn, hentries, hturn, hwalk⟩ := walkParts_cons_eq_ok_iff.mp h
    have hheight := Entry.height_of_at? hentries
    have hname := isEntryName_iff.mp hnames.1
    rw [List.length_cons]
    cases hturn with
    | stay hpart => simp [hname] at hpart
    | up hpart => simp [hname] at hpart
    | down child _ _ hchild _ =>
      have hrest := ih hnames.2 hwalk
      rw [List.length_append, List.length_singleton] at hrest
      omega
    | link target _ _ hchild =>
      have hrest := hfollow _ target.parts names place hnames.2 hwalk
      omega

theorem walkParts_endsWithin {n : Nat} (hfollow : EndsWithin n follow) :
    EndsWithin (n + (t.root.height + 1)) (t.walkParts follow) := by
  intro here parts names place hnames h
  induction parts generalizing here with
  | nil =>
    have hlength := length_le_of_walkParts_names hfollow hnames h
    omega
  | cons part parts ih =>
    rw [List.cons_append] at h
    obtain ⟨entries, turn, -, -, hwalk⟩ := walkParts_cons_eq_ok_iff.mp h
    cases turn with
    | on here => exact ih here hwalk
    | along here target =>
      rw [walkOn, ← List.append_assoc] at hwalk
      have hlength := hfollow here (target ++ parts) names place hnames hwalk
      omega

theorem walk_endsWithin (links : Nat) :
    EndsWithin ((links + 1) * (t.root.height + 1)) (t.walk links) := by
  induction links with
  | zero =>
    rw [Nat.zero_add, Nat.one_mul, ← Nat.zero_add (t.root.height + 1)]
    exact walkParts_endsWithin fun _ _ _ _ _ h => by cases h
  | succ links ih =>
    rw [Nat.succ_mul]
    exact walkParts_endsWithin ih

end FileTree

/-! ## Paths below a directory -/

namespace FilePath

theorem spelling_join (p : FilePath) (name : String) :
    ∃ rest, (p.join name).spelling = p.spelling ++ rest := by
  unfold join
  split
  · exact ⟨name, rfl⟩
  · exact ⟨"/" ++ name, String.append_assoc⟩

theorem spelling_join_ne_empty {p : FilePath} (hp : p.spelling ≠ "") (name : String) :
    (p.join name).spelling ≠ "" := by
  obtain ⟨rest, hrest⟩ := p.spelling_join name
  rw [hrest]
  simp [hp]

theorem spelling_descend_ne_empty {p : FilePath} (hp : p.spelling ≠ "") (names : List String) :
    (p.descend names).spelling ≠ "" := by
  induction names generalizing p with
  | nil => exact hp
  | cons name names ih => exact ih (spelling_join_ne_empty hp name)

/-- Behind a last part that is not empty the names come as further parts. -/
theorem parts_descend {p : FilePath} {front names : List String} {last : String}
    (hparts : p.parts = front ++ [last]) (hlast : last ≠ "")
    (hnames : ∀ name ∈ names, isEntryName name) : (p.descend names).parts = p.parts ++ names := by
  induction names generalizing p front last with
  | nil => exact (List.append_nil _).symm
  | cons name names ih =>
    rw [List.forall_mem_cons] at hnames
    have hp : p.spelling ≠ "" := by
      intro hempty
      have hnone : p.parts = [""] := by
        rw [parts, hempty]
        rfl
      have hends := congrArg List.getLast? (hparts.symm.trans hnone)
      simp [hlast] at hends
    have hjoin : (p.join name).parts = p.parts ++ [name] := by
      obtain ⟨before, -, hjoin, hbefore, -⟩ := parts_join hp hnames.1
      rcases hbefore with hbefore | hbefore
      · rw [hjoin, hbefore]
      · rw [hparts] at hbefore
        exact absurd (List.append_inj' hbefore rfl).2 (by simpa using hlast)
    change ((p.join name).descend names).parts = _
    rw [ih hjoin (isEntryName_iff.mp hnames.1).1 hnames.2, hjoin, List.append_assoc]
    rfl

end FilePath

namespace FileTree
variable {t : FileTree} {p : FilePath}

theorem resolve_eq_ok_iff {place : Place} : t.resolve p = .ok place ↔
    p.spelling ≠ "" ∧ '\x00' ∉ p.spelling.toList ∧ p.spelling.utf8ByteSize < maxPathBytes ∧
      t.walk maxLinks (if p.isAbsolute then [] else t.working) p.parts = .ok place := by
  rw [resolve]
  split
  · simp_all
  · split
    · simp_all
    · split
      · have hlong : ¬p.spelling.utf8ByteSize < maxPathBytes := Nat.not_lt.mpr ‹_›
        simp [hlong]
      · simp_all

theorem isEntryName_of_resolve {place : Place} (h : t.resolve p = .ok place) :
    ∀ name ∈ place.names, isEntryName name := by
  obtain ⟨-, -, -, hwalk⟩ := resolve_eq_ok_iff.mp h
  exact Entry.isEntryName_of_at? t.wellNamed (walk_sound maxLinks _ _ _ hwalk)

/-- Before its last name a path leads to a directory that has an entry of that name. -/
theorem resolve_of_join {name : String} {place : Place} (hp : p.spelling ≠ "")
    (hname : isEntryName name) (h : t.resolve (p.join name) = .ok place) :
    ∃ holder entries child, t.resolve p = .ok ⟨holder, .directory entries⟩ ∧
      (Entry.directory entries).child? name = some child ∧
      ((∀ target, child ≠ .link target) → place = ⟨holder ++ [name], child⟩) := by
  obtain ⟨-, hnul, hsize, hwalk⟩ := resolve_eq_ok_iff.mp h
  obtain ⟨rest, hrest⟩ := p.spelling_join name
  obtain ⟨front, -, hjoin, hparts, habsolute⟩ := FilePath.parts_join hp hname
  rw [hjoin, habsolute] at hwalk
  obtain ⟨holder, entries, child, hfront, hchild⟩ :=
    walk_goesThrough maxLinks _ front name place hname hwalk
  have hholder : t.walk maxLinks (if p.isAbsolute then [] else t.working) p.parts =
      .ok ⟨holder, .directory entries⟩ := by
    rcases hparts with hparts | hparts
    · rwa [hparts]
    · rw [hparts]
      exact walk_bearsSlash maxLinks _ front holder entries hfront
  rw [hrest, String.toList_append, List.mem_append, not_or] at hnul
  rw [hrest, String.utf8ByteSize_append] at hsize
  exact ⟨holder, entries, child, resolve_eq_ok_iff.mpr ⟨hp, hnul.1, by omega, hholder⟩, hchild⟩

theorem isDirectory_iff : t.isDirectory p ↔
    ∃ holder entries, t.resolve p = .ok ⟨holder, .directory entries⟩ := by
  rw [isDirectory]
  cases h : t.resolve p with
  | error fault => simp
  | ok place =>
    rcases place with ⟨holder, entry⟩
    cases entry <;> simp [Entry.isDirectory]

theorem isFile_iff : t.isFile p ↔ ∃ here content, t.resolve p = .ok ⟨here, .file content⟩ := by
  rw [isFile]
  cases h : t.resolve p with
  | error fault => simp
  | ok place =>
    rcases place with ⟨here, entry⟩
    cases entry <;> simp [Entry.isFile]

theorem names_eq_ok_iff {listed : List String} : t.names p = .ok listed ↔
    ∃ holder entries, t.resolve p = .ok ⟨holder, .directory entries⟩ ∧
      listed = entries.map (·.1) := by
  rw [names]
  cases h : t.resolve p with
  | error fault => simp [bind, Except.bind]
  | ok place =>
    rcases place with ⟨holder, entry⟩
    cases entry <;> simp [bind, Except.bind, pure, Except.pure, and_assoc, @eq_comm _ listed]

theorem isDirectory_iff_names : t.isDirectory p ↔ ∃ listed, t.names p = .ok listed := by
  rw [isDirectory_iff]
  constructor
  · rintro ⟨holder, entries, hplace⟩
    exact ⟨_, names_eq_ok_iff.mpr ⟨holder, entries, hplace, rfl⟩⟩
  · rintro ⟨listed, hlisted⟩
    obtain ⟨holder, entries, hplace, -⟩ := names_eq_ok_iff.mp hlisted
    exact ⟨holder, entries, hplace⟩

theorem exists_resolve_of_descend {names : List String} (hp : p.spelling ≠ "")
    (hnames : ∀ name ∈ names, isEntryName name) {place : Place}
    (h : t.resolve (p.descend names) = .ok place) : ∃ place, t.resolve p = .ok place := by
  induction names generalizing p with
  | nil => exact ⟨place, h⟩
  | cons name names ih =>
    rw [List.forall_mem_cons] at hnames
    obtain ⟨inner, hinner⟩ := ih (FilePath.spelling_join_ne_empty hp name) hnames.2 h
    obtain ⟨holder, entries, child, hplace, -⟩ := resolve_of_join hp hnames.1 hinner
    exact ⟨_, hplace⟩

/-- The path of a file leads through directories that list the names on the way. -/
theorem names_of_isFile {name : String} {names : List String} (hp : p.spelling ≠ "")
    (hnames : ∀ part ∈ name :: names, isEntryName part) (h : t.isFile (p.descend (name :: names))) :
    ∃ listed, t.names p = .ok listed ∧ name ∈ listed := by
  rw [List.forall_mem_cons] at hnames
  obtain ⟨here, content, hfile⟩ := isFile_iff.mp h
  obtain ⟨place, hplace⟩ :=
    exists_resolve_of_descend (FilePath.spelling_join_ne_empty hp name) hnames.2 hfile
  obtain ⟨holder, entries, child, hdirectory, hchild, -⟩ := resolve_of_join hp hnames.1 hplace
  exact ⟨_, names_eq_ok_iff.mpr ⟨holder, entries, hdirectory, rfl⟩,
    Entry.child?_isSome_iff.mp (Option.isSome_of_eq_some hchild)⟩

theorem mem_names_of_isFile {name : String} {names listed : List String} (hp : p.spelling ≠ "")
    (hlisted : t.names p = .ok listed) (hnames : ∀ part ∈ name :: names, isEntryName part)
    (h : t.isFile (p.descend (name :: names))) : name ∈ listed := by
  obtain ⟨listed', hlisted', hmem⟩ := names_of_isFile hp hnames h
  cases hlisted.symm.trans hlisted'
  exact hmem

theorem isDirectory_of_isFile {names : List String} (hp : p.spelling ≠ "") (hne : names ≠ [])
    (hnames : ∀ part ∈ names, isEntryName part) (h : t.isFile (p.descend names)) :
    t.isDirectory p := by
  obtain ⟨name, rest, rfl⟩ := List.exists_cons_of_ne_nil hne
  obtain ⟨listed, hlisted, -⟩ := names_of_isFile hp hnames h
  exact isDirectory_iff_names.mpr ⟨listed, hlisted⟩

theorem isDirectory_eq_false_of_isFile (h : t.isFile p) : t.isDirectory p = false := by
  obtain ⟨here, content, hplace⟩ := isFile_iff.mp h
  rw [isDirectory, hplace]
  rfl

/-- No path of a file is deeper than the bound. -/
theorem length_le_of_isFile {names : List String} (hp : p.spelling ≠ "")
    (hnames : ∀ name ∈ names, isEntryName name) (h : t.isFile (p.descend names)) :
    names.length < t.depthBound := by
  obtain ⟨here, content, hplace⟩ := isFile_iff.mp h
  obtain ⟨-, -, -, hwalk⟩ := resolve_eq_ok_iff.mp hplace
  cases names with
  | nil => exact Nat.succ_pos _
  | cons name names =>
    rw [List.forall_mem_cons] at hnames
    obtain ⟨front, -, hjoin, -, -⟩ := FilePath.parts_join hp hnames.1
    have hparts : (p.descend (name :: names)).parts = front ++ (name :: names) := by
      change ((p.join name).descend names).parts = _
      rw [FilePath.parts_descend hjoin (isEntryName_iff.mp hnames.1).1 hnames.2, hjoin,
        List.append_assoc]
      rfl
    rw [hparts] at hwalk
    have hlength := walk_endsWithin maxLinks _ front (name :: names) _
      (List.forall_mem_cons.mpr hnames) hwalk
    exact Nat.lt_succ_of_le hlength

end FileTree
end Files
end JavaLex
