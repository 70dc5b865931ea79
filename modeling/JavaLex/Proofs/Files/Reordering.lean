import JavaLex.Proofs.Files.Walking

/-! # The order of entries

No two entries of a directory have the same name, and this stays so as entries are put in. A path
leads to the same file whatever the order in which directories list their entries.
-/
namespace JavaLex.Files

namespace Entry

/-- No two entries of one directory have the same name. -/
inductive Distinct : Entry → Prop
  | file (content : ByteArray) : Distinct (.file content)
  | link (target : String) : Distinct (.link target)
  | directory {entries : List (String × Entry)} (names : (entries.map (·.1)).Nodup)
      (inner : ∀ e ∈ entries, Distinct e.2) : Distinct (.directory entries)

theorem Distinct.of_child? {e child : Entry} {name : String} (h : e.Distinct)
    (hchild : e.child? name = some child) : child.Distinct := by
  cases h with
  | file content => cases hchild
  | link target => cases hchild
  | directory names inner =>
    rcases Option.map_eq_some_iff.mp hchild with ⟨found, hfound, rfl⟩
    exact inner found (List.mem_of_find?_eq_some hfound)

theorem Distinct.of_at? {e inner : Entry} {names : List String} (h : e.Distinct)
    (hinner : e.at? names = some inner) : inner.Distinct := by
  induction names generalizing e with
  | nil =>
    cases hinner
    exact h
  | cons name names ih =>
    obtain ⟨child, hchild, hinner⟩ := Option.bind_eq_some_iff.mp hinner
    exact ih (h.of_child? hchild) hinner

/-- The same file or link, or directories that list the same names. -/
inductive Alike : Entry → Entry → Prop
  | file (content : ByteArray) : Alike (.file content) (.file content)
  | link (target : String) : Alike (.link target) (.link target)
  | directory {entries entries' : List (String × Entry)}
      (names : (entries.map (·.1)).Perm (entries'.map (·.1))) :
      Alike (.directory entries) (.directory entries')

theorem Alike.refl (e : Entry) : e.Alike e := by
  cases e with
  | file content => exact .file content
  | link target => exact .link target
  | directory entries => exact .directory (.refl _)

theorem Alike.symm {e e' : Entry} (h : e.Alike e') : e'.Alike e := by
  cases h with
  | file content => exact .file content
  | link target => exact .link target
  | directory names => exact .directory names.symm

/-- The same entries in the same places, but directories may list theirs in another order. -/
def Reorders (e e' : Entry) : Prop :=
  ∀ names, Option.Rel Alike (e.at? names) (e'.at? names)

theorem Reorders.refl (e : Entry) : e.Reorders e := by
  intro names
  cases e.at? names with
  | none => exact .none
  | some entry => exact .some (.refl entry)

theorem Reorders.symm {e e' : Entry} (h : e.Reorders e') : e'.Reorders e := by
  intro names
  have halike := h names
  generalize e.at? names = found, e'.at? names = found' at halike ⊢
  cases halike with
  | none => exact .none
  | some halike => exact .some halike.symm

theorem Reorders.exists_at? {e e' inner : Entry} (h : e.Reorders e') {names : List String}
    (hinner : e.at? names = some inner) :
    ∃ inner', e'.at? names = some inner' ∧ inner.Alike inner' := by
  have halike := h names
  rw [hinner] at halike
  generalize e'.at? names = found at halike ⊢
  cases halike with
  | some halike => exact ⟨_, rfl, halike⟩

theorem Reorders.directory {entries entries' : List (String × Entry)}
    (hnames : (entries.map (·.1)).Perm (entries'.map (·.1)))
    (hinner : ∀ name, Option.Rel Reorders ((Entry.directory entries).child? name)
      ((Entry.directory entries').child? name)) :
    (Entry.directory entries).Reorders (Entry.directory entries') := by
  intro names
  cases names with
  | nil => exact .some (.directory hnames)
  | cons name names =>
    rw [at?, at?]
    have hchild := hinner name
    generalize (Entry.directory entries).child? name = child,
      (Entry.directory entries').child? name = child' at hchild ⊢
    cases hchild with
    | none => exact .none
    | some hchild => exact hchild names

theorem child?_eq_some_iff {entries : List (String × Entry)} (h : (entries.map (·.1)).Nodup)
    {name : String} {child : Entry} :
    (Entry.directory entries).child? name = some child ↔ (name, child) ∈ entries := by
  induction entries with
  | nil => simp [child?]
  | cons first entries ih =>
    rw [List.map_cons, List.nodup_cons] at h
    rcases first with ⟨other, e⟩
    by_cases hother : other = name
    · subst hother
      have hnone : (other, child) ∉ entries := fun hmem =>
        h.1 (List.mem_map.mpr ⟨_, hmem, rfl⟩)
      simp [child?, hnone, eq_comm]
    · have hrest := ih h.2
      rw [child?] at hrest ⊢
      rw [List.find?_cons_of_neg (by simpa using hother), hrest]
      simp [Ne.symm hother]

/-- A directory that lists its entries in another order. -/
theorem Reorders.of_perm {entries entries' : List (String × Entry)}
    (h : (entries.map (·.1)).Nodup) (hperm : entries.Perm entries') :
    (Entry.directory entries).Reorders (Entry.directory entries') := by
  have h' : (entries'.map (·.1)).Nodup := (hperm.map _).nodup_iff.mp h
  refine .directory (hperm.map _) fun name => ?_
  have hsame : (Entry.directory entries).child? name = (Entry.directory entries').child? name := by
    ext child
    rw [child?_eq_some_iff h, child?_eq_some_iff h', hperm.mem_iff]
  rw [hsame]
  cases (Entry.directory entries').child? name with
  | none => exact .none
  | some child => exact .some (.refl child)

theorem Distinct.empty : (Entry.directory []).Distinct :=
  .directory List.nodup_nil (by simp)

theorem Distinct.concat {entries : List (String × Entry)} {name : String} {entry : Entry}
    (h : (Entry.directory entries).Distinct) (hentry : entry.Distinct)
    (hname : ¬entries.any (·.1 == name)) :
    (Entry.directory (entries ++ [(name, entry)])).Distinct := by
  cases h with
  | directory names inner =>
    refine .directory ?_ ?_
    · rw [List.map_append, List.nodup_append]
      refine ⟨names, by simp, ?_⟩
      rintro other hother last hlast rfl
      cases List.mem_singleton.mp hlast
      simp_all
    · simpa [or_imp, forall_and, hentry] using inner

end Entry

namespace FileTree
variable {t t' : FileTree}

theorem nodup_of_names (h : t.root.Distinct) {p : FilePath} {listed : List String}
    (hlisted : t.names p = .ok listed) : listed.Nodup := by
  obtain ⟨holder, entries, hplace, rfl⟩ := names_eq_ok_iff.mp hlisted
  obtain ⟨-, -, -, hwalk⟩ := resolve_eq_ok_iff.mp hplace
  have hentries : (Entry.directory entries).Distinct := h.of_at? (walk_sound maxLinks _ _ _ hwalk)
  cases hentries with
  | directory names _ => exact names

theorem insertInto_distinct {entry : Entry} (hentry : entry.Distinct) {names : List String}
    {entries : List (String × Entry)} (h : (Entry.directory entries).Distinct) :
    (Entry.directory (insertInto entry names entries)).Distinct := by
  induction names generalizing entries with
  | nil => exact h
  | cons name names ih =>
    cases names with
    | nil =>
      rw [insertInto]
      split
      · exact h
      · exact h.concat hentry ‹_›
    | cons next names =>
      simp only [insertInto]
      split
      · cases h with
        | directory hnames hinner =>
          refine .directory ?_ ?_
          · -- An entry that takes another keeps its name.
            rw [List.map_map]
            refine Eq.mpr (congrArg List.Nodup (List.map_congr_left ?_)) hnames
            rintro ⟨other, e⟩ he
            cases e with
            | file content => rfl
            | link target => rfl
            | directory inner =>
              dsimp only [Function.comp_apply]
              split <;> rfl
          · intro e he
            rcases List.mem_map.mp he with ⟨⟨other, e⟩, hmem, rfl⟩
            have hold := hinner _ hmem
            cases e with
            | file content => exact hold
            | link target => exact hold
            | directory inner =>
              dsimp only
              split
              · exact ih hold
              · exact hold
      · exact h.concat (ih .empty) ‹_›

theorem insert_distinct (h : t.root.Distinct) {entry : Entry} (hentry : entry.Distinct)
    (names : List String) : (t.insert names entry).root.Distinct := by
  unfold FileTree.insert
  split
  case h_1 entries hroot =>
    split
    · exact insertInto_distinct hentry (hroot ▸ h)
    · exact h
  case h_2 => exact h

theorem ofWorking_distinct (names : List String) : (ofWorking names).root.Distinct :=
  insert_distinct .empty .empty names

/-- The same tree, in which directories may list their entries in another order. -/
structure Reorders (t t' : FileTree) : Prop where
  working : t.working = t'.working
  root : t.root.Reorders t'.root

theorem Reorders.refl (t : FileTree) : t.Reorders t :=
  ⟨rfl, .refl t.root⟩

theorem Reorders.symm (h : t.Reorders t') : t'.Reorders t :=
  ⟨h.working.symm, h.root.symm⟩

theorem Reorders.turns (h : t.Reorders t') {here : List String}
    {entries entries' : List (String × Entry)}
    (hentries : t.root.at? here = some (.directory entries))
    (hentries' : t'.root.at? here = some (.directory entries')) {part : String} {turn : Turn}
    (hturn : Turns here entries part turn) : Turns here entries' part turn := by
  have halike {child : Entry} (hchild : (Entry.directory entries).child? part = some child) :
      ∃ child', (Entry.directory entries').child? part = some child' ∧ child.Alike child' := by
    rw [← Entry.at?_concat hentries part] at hchild
    rw [← Entry.at?_concat hentries' part]
    exact h.root.exists_at? hchild
  cases hturn with
  | stay hpart => exact .stay hpart
  | up hpart => exact .up hpart
  | down child hname hsize hchild hlink =>
    obtain ⟨child', hchild', hsame⟩ := halike hchild
    refine .down child' hname hsize hchild' ?_
    cases hsame with
    | link target => exact absurd rfl (hlink target)
    | file content => simp
    | directory names => simp
  | link target hname hsize hchild =>
    obtain ⟨child', hchild', hsame⟩ := halike hchild
    cases hsame
    exact .link target hname hsize hchild'

/-- Wherever one walk comes to, the other comes too. -/
def Tracks (follow follow' : List String → List String → Except AccessFault Place) : Prop :=
  ∀ here parts place, follow here parts = .ok place →
    ∃ entry, follow' here parts = .ok ⟨place.names, entry⟩ ∧ place.entry.Alike entry

theorem Reorders.walkParts (h : t.Reorders t')
    {follow follow' : List String → List String → Except AccessFault Place}
    (hfollow : Tracks follow follow') : Tracks (t.walkParts follow) (t'.walkParts follow') := by
  intro here parts place hplace
  induction parts generalizing here with
  | nil =>
    obtain ⟨entry, hentry, rfl⟩ := walkParts_nil_eq_ok_iff.mp hplace
    obtain ⟨entry', hentry', halike⟩ := h.root.exists_at? hentry
    exact ⟨entry', walkParts_nil_eq_ok_iff.mpr ⟨entry', hentry', rfl⟩, halike⟩
  | cons part parts ih =>
    obtain ⟨entries, turn, hentries, hturn, hwalk⟩ := walkParts_cons_eq_ok_iff.mp hplace
    obtain ⟨entry', hentries', hsame⟩ := h.root.exists_at? hentries
    cases hsame with
    | @directory _ entries' _ =>
      have hturn' := h.turns hentries hentries' hturn
      have hrest : ∃ entry, t'.walkOn follow' parts turn = .ok ⟨place.names, entry⟩ ∧
          place.entry.Alike entry := by
        cases turn with
        | on here => exact ih here hwalk
        | along here target => exact hfollow here (target ++ parts) place hwalk
      obtain ⟨entry, hwalk', halike⟩ := hrest
      exact ⟨entry, walkParts_cons_eq_ok_iff.mpr ⟨entries', turn, hentries', hturn', hwalk'⟩,
        halike⟩

theorem Reorders.walk (h : t.Reorders t') (links : Nat) :
    Tracks (t.walk links) (t'.walk links) := by
  induction links with
  | zero => exact h.walkParts fun _ _ _ hplace => by cases hplace
  | succ links ih => exact h.walkParts ih

theorem Reorders.resolve (h : t.Reorders t') {p : FilePath} {place : Place}
    (hplace : t.resolve p = .ok place) :
    ∃ entry, t'.resolve p = .ok ⟨place.names, entry⟩ ∧ place.entry.Alike entry := by
  obtain ⟨hp, hnul, hsize, hwalk⟩ := resolve_eq_ok_iff.mp hplace
  rw [h.working] at hwalk
  obtain ⟨entry, hwalk', halike⟩ := h.walk maxLinks _ _ place hwalk
  exact ⟨entry, resolve_eq_ok_iff.mpr ⟨hp, hnul, hsize, hwalk'⟩, halike⟩

theorem Reorders.names (h : t.Reorders t') {p : FilePath} {listed : List String}
    (hlisted : t.names p = .ok listed) :
    ∃ listed', t'.names p = .ok listed' ∧ listed.Perm listed' := by
  obtain ⟨holder, entries, hplace, rfl⟩ := names_eq_ok_iff.mp hlisted
  obtain ⟨entry, hplace', halike⟩ := h.resolve hplace
  cases halike with
  | directory hperm => exact ⟨_, names_eq_ok_iff.mpr ⟨holder, _, hplace', rfl⟩, hperm⟩

theorem Reorders.isFile_eq (h : t.Reorders t') (p : FilePath) : t.isFile p = t'.isFile p := by
  have himp {t t' : FileTree} (h : t.Reorders t') (hfile : t.isFile p) : t'.isFile p := by
    obtain ⟨here, content, hplace⟩ := isFile_iff.mp hfile
    obtain ⟨entry, hplace', halike⟩ := h.resolve hplace
    cases halike
    exact isFile_iff.mpr ⟨here, content, hplace'⟩
  exact Bool.eq_iff_iff.mpr ⟨himp h, himp h.symm⟩

theorem Reorders.isDirectory_eq (h : t.Reorders t') (p : FilePath) :
    t.isDirectory p = t'.isDirectory p := by
  have himp {t t' : FileTree} (h : t.Reorders t') (hdirectory : t.isDirectory p) :
      t'.isDirectory p := by
    obtain ⟨holder, entries, hplace⟩ := isDirectory_iff.mp hdirectory
    obtain ⟨entry, hplace', halike⟩ := h.resolve hplace
    cases halike with
    | directory _ => exact isDirectory_iff.mpr ⟨holder, _, hplace'⟩
  exact Bool.eq_iff_iff.mpr ⟨himp h, himp h.symm⟩

end FileTree
end JavaLex.Files
