import JavaLex.Batch.Discovery
import JavaLex.Proofs.Files.Naming

/-! # What discovery finds

The sources come in increasing order, and each is spelled as a path below the directory. So two of
them that count as the same path are the same.
-/
namespace JavaLex
open Files

namespace Files

/-- The path leads down from the directory by names of entries. -/
def FilePath.IsBelow (p directory : FilePath) : Prop :=
  ∃ names, (∀ name ∈ names, isEntryName name) ∧ p = directory.descend names

theorem FilePath.IsBelow.of_join {p directory : FilePath} {name : String} (hname : isEntryName name)
    (h : p.IsBelow (directory.join name)) : p.IsBelow directory := by
  rcases h with ⟨names, hnames, rfl⟩
  exact ⟨name :: names, List.forall_mem_cons.mpr ⟨hname, hnames⟩, rfl⟩

theorem FilePath.IsBelow.eq_of_same {p q directory : FilePath} (hp : p.IsBelow directory)
    (hq : q.IsBelow directory) (h : p.same q) : p = q := by
  rcases hp with ⟨names, hnames, rfl⟩
  rcases hq with ⟨names', hnames', rfl⟩
  exact FilePath.descend_inj hnames hnames' h

theorem exists_of_mem_mapM {α β ε : Type} {f : α → Except ε β} {items : List α} {found : List β}
    (h : items.mapM f = .ok found) {b : β} (hb : b ∈ found) : ∃ a ∈ items, f a = .ok b := by
  induction items generalizing found with
  | nil =>
    cases h
    cases hb
  | cons a items ih =>
    rw [List.mapM_cons] at h
    cases hfirst : f a with
    | error e =>
      rw [hfirst] at h
      cases h
    | ok first =>
      cases hrest : items.mapM f with
      | error e =>
        rw [hfirst, hrest] at h
        cases h
      | ok rest =>
        rw [hfirst, hrest] at h
        cases h
        rcases List.mem_cons.mp hb with rfl | hb
        · exact ⟨a, List.mem_cons_self, hfirst⟩
        · rcases ih hrest hb with ⟨a', ha', hfound⟩
          exact ⟨a', List.mem_cons_of_mem a ha', hfound⟩

namespace FileTree
variable {t : FileTree}

/-- What the walk finds at one entry of a directory. -/
def foundAt (t : FileTree) (recursive : Bool) (depth : Nat) (directory : FilePath)
    (name : String) : Except (FilePath × AccessFault) (List FilePath) :=
  if t.isDirectory (directory.join name) then
    if recursive then t.sourcesWithin recursive depth (directory.join name) else .ok []
  else .ok (if t.isSource (directory.join name) then [directory.join name] else [])

theorem sourcesWithin_of_names {recursive : Bool} {depth : Nat} {directory : FilePath}
    {names : List String} (h : t.names directory = .ok names) :
    t.sourcesWithin recursive (depth + 1) directory =
      (names.mapM (t.foundAt recursive depth directory)).map List.flatten := by
  rw [sourcesWithin, h]
  change (names.mapM (t.foundAt recursive depth directory)).bind (fun lists => .ok lists.flatten) = _
  cases names.mapM (t.foundAt recursive depth directory) <;> rfl

theorem of_mem_sourcesWithin {recursive : Bool} {depth : Nat} {directory p : FilePath}
    {found : List FilePath} (h : t.sourcesWithin recursive depth directory = .ok found)
    (hp : p ∈ found) : t.isSource p ∧ p.IsBelow directory := by
  induction depth generalizing directory found with
  | zero =>
    cases h
    cases hp
  | succ depth ih =>
    cases hnames : t.names directory with
    | error fault =>
      rw [sourcesWithin, hnames] at h
      cases h
    | ok names =>
      rw [sourcesWithin_of_names hnames] at h
      cases hlists : names.mapM (t.foundAt recursive depth directory) with
      | error e =>
        rw [hlists] at h
        cases h
      | ok lists =>
        rw [hlists] at h
        cases h
        rcases List.mem_flatten.mp hp with ⟨list, hlist, hmem⟩
        rcases exists_of_mem_mapM hlists hlist with ⟨name, hname, hfound⟩
        suffices h : t.isSource p ∧ p.IsBelow (directory.join name) from
          ⟨h.1, h.2.of_join (isEntryName_of_names hnames name hname)⟩
        unfold foundAt at hfound
        split at hfound
        · split at hfound
          · exact ih hfound hmem
          · cases hfound
            cases hmem
        · cases hfound
          split at hmem
          case isTrue hsource =>
            have hp := List.mem_singleton.mp hmem
            exact ⟨hp ▸ hsource, [], by simp, hp⟩
          case isFalse => cases hmem

end FileTree
end Files

/-- Sorting by a key puts the keys in order. -/
theorem pairwise_mergeSort_compare {α β : Type} [Ord β] [Std.TransOrd β] (key : α → β)
    (items : List α) : (items.mergeSort fun a b => (compare (key a) (key b)).isLE).Pairwise
      fun a b => (compare (key a) (key b)).isLE := by
  apply List.pairwise_mergeSort
  · intro a b c
    exact Std.TransOrd.isLE_trans
  · intro a b
    rw [Std.OrientedOrd.eq_swap (a := key b)]
    cases compare (key a) (key b) <;> rfl

namespace BatchOptions

theorem pairwise_inOrder (paths : List FilePath) :
    (inOrder paths).Pairwise fun p q => (compare p q).isLE :=
  pairwise_mergeSort_compare id paths

/-- What is left of the paths that are found is the front of them. -/
theorem limited_prefix (o : BatchOptions) (paths : List FilePath) : (o.limited paths).1 <+: paths := by
  unfold limited
  split
  · exact List.prefix_refl paths
  · split
    · exact List.take_prefix _ _
    · exact List.prefix_refl paths

/-- The paths come in increasing order, and no two of them are spellings of the same. -/
structure Ordered (paths : List FilePath) : Prop where
  pairwise : paths.Pairwise fun p q => (compare p q).isLE
  eq_of_same : ∀ p ∈ paths, ∀ q ∈ paths, p.same q → p = q

/-- What discovery answers is the front of what is found, in order. -/
theorem exists_found {o : BatchOptions} {t : FileTree} {directory : FilePath}
    {paths : List FilePath} (h : (o.sources t directory).2 = .ok paths) :
    t.isDirectory directory ∧ ∃ found, t.sources o.recursive directory = .ok found ∧
      paths <+: inOrder found := by
  unfold sources at h
  split at h
  · cases h
  case isFalse hdirectory =>
    refine ⟨by simpa using hdirectory, ?_⟩
    cases hfound : t.sources o.recursive directory with
    | error fault =>
      rw [hfound] at h
      cases h
    | ok found =>
      have hpaths : paths = (o.limited (inOrder found)).1 := by
        rw [hfound] at h
        cases found with
        | nil => cases h
        | cons p found =>
          dsimp only at h
          split at h
          · cases h
          · cases h
            rfl
      exact ⟨found, rfl, hpaths ▸ o.limited_prefix (inOrder found)⟩

theorem ordered_sources {o : BatchOptions} {t : FileTree} {directory : FilePath}
    {paths : List FilePath} (h : (o.sources t directory).2 = .ok paths) : Ordered paths := by
  obtain ⟨-, found, hfound, hprefix⟩ := exists_found h
  have hbelow : ∀ p ∈ paths, p.IsBelow directory := by
    intro p hp
    have hmem : p ∈ inOrder found := hprefix.mem hp
    exact (FileTree.of_mem_sourcesWithin hfound (List.mem_mergeSort.mp hmem)).2
  exact ⟨(pairwise_inOrder found).sublist hprefix.sublist,
    fun p hp q hq => (hbelow p hp).eq_of_same (hbelow q hq)⟩

end BatchOptions
end JavaLex
