import JavaLex.Proofs.Batch.Discovery
import JavaLex.Proofs.Files.Extension
import JavaLex.Proofs.Files.Reordering

/-! # Discovery is exact

Discovery comes upon each source once: it goes into every directory on the way to a file and no
deeper than a path can lead. So what it answers is told by the sources there are, in increasing
order, whatever the order in which directories list their entries.
-/
namespace JavaLex
open Files

namespace Files

/-- Each thing with a property stands in the list, once, and nothing else does. -/
structure Enumerates {α : Type} (Q : α → Prop) (items : List α) : Prop where
  nodup : items.Nodup
  mem_iff : ∀ a, a ∈ items ↔ Q a

section Enumerates
variable {α β ε : Type} {Q : α → β → Prop}

theorem Enumerates.congr {P P' : β → Prop} {items : List β} (h : Enumerates P items)
    (hiff : ∀ b, P b ↔ P' b) : Enumerates P' items :=
  ⟨h.nodup, fun b => (h.mem_iff b).trans (hiff b)⟩

theorem Enumerates.nil {P : β → Prop} (h : ∀ b, ¬P b) : Enumerates P [] :=
  ⟨List.nodup_nil, fun b => by simp [h b]⟩

/-- If each item is answered by a list, so are all of them, one after the other. -/
theorem enumerates_flatten {f : α → Except ε (List β)} {items : List α} (hitems : items.Nodup)
    (hfound : ∀ a ∈ items, ∃ found, f a = .ok found ∧ Enumerates (Q a) found)
    (hapart : ∀ a ∈ items, ∀ a' ∈ items, ∀ b, Q a b → Q a' b → a = a') :
    ∃ lists, items.mapM f = .ok lists ∧ Enumerates (fun b => ∃ a ∈ items, Q a b) lists.flatten := by
  induction items with
  | nil => exact ⟨[], rfl, .nil (by simp)⟩
  | cons a items ih =>
    rw [List.nodup_cons] at hitems
    rw [List.forall_mem_cons] at hfound
    obtain ⟨⟨first, hfirst, hmine⟩, hothers⟩ := hfound
    have hapart' : ∀ a ∈ items, ∀ a' ∈ items, ∀ b, Q a b → Q a' b → a = a' := fun a ha a' ha' =>
      hapart a (List.mem_cons_of_mem _ ha) a' (List.mem_cons_of_mem _ ha')
    obtain ⟨lists, hlists, hrest⟩ := ih hitems.2 hothers hapart'
    refine ⟨first :: lists, ?_, ?_, ?_⟩
    · rw [List.mapM_cons, hfirst, hlists]
      rfl
    · rw [List.flatten_cons, List.nodup_append]
      refine ⟨hmine.nodup, hrest.nodup, ?_⟩
      rintro b hb _ hb' rfl
      obtain ⟨a', ha', hQ⟩ := (hrest.mem_iff b).mp hb'
      cases hapart a List.mem_cons_self a' (List.mem_cons_of_mem a ha') b
        ((hmine.mem_iff b).mp hb) hQ
      exact hitems.1 ha'
    · intro b
      simp [hmine.mem_iff, hrest.mem_iff]

end Enumerates

namespace FileTree
variable {t : FileTree} {directory : FilePath}

/-- The path is the one of a file with a source's name, below the directory by directories or, if
not `recursive`, in the directory itself. A link counts as what it leads to. -/
def IsSourceBelow (t : FileTree) (recursive : Bool) (directory p : FilePath) : Prop :=
  ∃ names name, (∀ part ∈ names ++ [name], isEntryName part) ∧ (recursive = true ∨ names = []) ∧
    p = directory.descend (names ++ [name]) ∧ t.isFile p ∧ IsSourceName name

theorem IsSourceBelow.isBelow {recursive : Bool} {p : FilePath}
    (h : t.IsSourceBelow recursive directory p) : p.IsBelow directory := by
  obtain ⟨names, name, hentry, -, hp, -, -⟩ := h
  exact ⟨names ++ [name], hentry, hp⟩

theorem IsSourceBelow.of_join {recursive : Bool} {name : String} {p : FilePath}
    (hname : isEntryName name) (hrecursive : recursive = true)
    (h : t.IsSourceBelow recursive (directory.join name) p) :
    t.IsSourceBelow recursive directory p := by
  obtain ⟨names, last, hentry, -, hp, hrest⟩ := h
  exact ⟨name :: names, last, List.forall_mem_cons.mpr ⟨hname, hentry⟩, .inl hrecursive, hp, hrest⟩

/-- What discovery makes of one entry of a directory. -/
def IsSourceAt (t : FileTree) (recursive : Bool) (directory : FilePath) (name : String)
    (p : FilePath) : Prop :=
  if t.isDirectory (directory.join name) then
    recursive = true ∧ t.IsSourceBelow recursive (directory.join name) p
  else p = directory.join name ∧ t.isSource p

theorem isSource_join_iff {name : String} (hname : isEntryName name) :
    t.isSource (directory.join name) ↔ t.isFile (directory.join name) ∧ IsSourceName name := by
  rw [isSource, Bool.and_eq_true, directory.hasSourceExtension_join hname]

theorem isSourceBelow_of_isSourceAt {recursive : Bool} {name : String} {p : FilePath}
    (hname : isEntryName name) (h : t.IsSourceAt recursive directory name p) :
    t.IsSourceBelow recursive directory p := by
  unfold IsSourceAt at h
  split at h
  · exact h.2.of_join hname h.1
  · obtain ⟨rfl, hsource⟩ := h
    exact ⟨[], name, by simpa using hname, .inr rfl, rfl, (isSource_join_iff hname).mp hsource⟩

theorem exists_isSourceAt {recursive : Bool} {listed : List String} {p : FilePath}
    (hne : directory.spelling ≠ "") (hlisted : t.names directory = .ok listed)
    (h : t.IsSourceBelow recursive directory p) :
    ∃ name ∈ listed, t.IsSourceAt recursive directory name p := by
  obtain ⟨names, last, hentry, hdepth, rfl, hfile, hsource⟩ := h
  cases names with
  | nil =>
    refine ⟨last, mem_names_of_isFile hne hlisted hentry hfile, ?_⟩
    change t.isFile (directory.join last) at hfile
    rw [IsSourceAt, if_neg (by simp [isDirectory_eq_false_of_isFile hfile])]
    exact ⟨rfl, (isSource_join_iff (hentry last (by simp))).mpr ⟨hfile, hsource⟩⟩
  | cons name names =>
    refine ⟨name, mem_names_of_isFile hne hlisted hentry hfile, ?_⟩
    rw [List.cons_append, List.forall_mem_cons] at hentry
    have hinner : t.isDirectory (directory.join name) :=
      isDirectory_of_isFile (FilePath.spelling_join_ne_empty hne name) (by simp) hentry.2 hfile
    have hrecursive : recursive = true := by simpa using hdepth
    rw [IsSourceAt, if_pos hinner]
    exact ⟨hrecursive, names, last, hentry.2, .inl hrecursive, rfl, hfile, hsource⟩

theorem IsSourceAt.isBelow {recursive : Bool} {name : String} {p : FilePath}
    (h : t.IsSourceAt recursive directory name p) : p.IsBelow (directory.join name) := by
  unfold IsSourceAt at h
  split at h
  · exact h.2.isBelow
  · exact ⟨[], by simp, h.1⟩

/-- What is below two entries of a directory is below one. -/
theorem eq_of_isBelow_join {name name' : String} {p : FilePath} (hname : isEntryName name)
    (hname' : isEntryName name') (h : p.IsBelow (directory.join name))
    (h' : p.IsBelow (directory.join name')) : name = name' := by
  obtain ⟨names, hnames, rfl⟩ := h
  obtain ⟨names', hnames', hsame⟩ := h'
  have hcomponents := congrArg FilePath.components hsame
  rw [FilePath.components_descend _ hnames, FilePath.components_descend _ hnames',
    FilePath.components_join _ hname, FilePath.components_join _ hname', List.append_assoc,
    List.append_assoc] at hcomponents
  simpa using And.left (List.cons.inj (List.append_cancel_left hcomponents))

/-- The walk finds what there is at an entry if it finds what is below the directories there. -/
theorem foundAt_enumerates {recursive : Bool} {depth : Nat} {name : String}
    (hwithin : t.isDirectory (directory.join name) →
      ∃ found, t.sourcesWithin recursive depth (directory.join name) = .ok found ∧
        Enumerates (t.IsSourceBelow recursive (directory.join name)) found) :
    ∃ found, t.foundAt recursive depth directory name = .ok found ∧
      Enumerates (t.IsSourceAt recursive directory name) found := by
  unfold IsSourceAt foundAt
  by_cases hinner : t.isDirectory (directory.join name)
  · simp only [if_pos hinner]
    cases recursive with
    | false => exact ⟨[], rfl, .nil (by simp)⟩
    | true =>
      obtain ⟨found, hfound, hall⟩ := hwithin hinner
      exact ⟨found, hfound, hall.congr (by simp)⟩
  · simp only [if_neg hinner]
    refine ⟨_, rfl, ?_⟩
    split
    case isTrue hsource => exact ⟨by simp, by simp [hsource]⟩
    case isFalse hsource => exact .nil fun p hp => hsource (hp.1 ▸ hp.2)

/-- The walk is deep enough if no path of a file is deeper. -/
theorem sourcesWithin_enumerates {recursive : Bool} {depth : Nat}
    (hdistinct : ∀ p listed, t.names p = .ok listed → listed.Nodup)
    (hne : directory.spelling ≠ "") (hdirectory : t.isDirectory directory)
    (hdepth : ∀ names, (∀ name ∈ names, isEntryName name) → t.isFile (directory.descend names) →
      names.length ≤ depth) :
    ∃ found, t.sourcesWithin recursive depth directory = .ok found ∧
      Enumerates (t.IsSourceBelow recursive directory) found := by
  induction depth generalizing directory with
  | zero =>
    refine ⟨[], rfl, .nil ?_⟩
    rintro p ⟨names, last, hentry, -, rfl, hfile, -⟩
    have hlength := hdepth (names ++ [last]) hentry hfile
    simp at hlength
  | succ depth ih =>
    obtain ⟨listed, hlisted⟩ := isDirectory_iff_names.mp hdirectory
    have hentry := isEntryName_of_names hlisted
    have hfound : ∀ name ∈ listed, ∃ found, t.foundAt recursive depth directory name = .ok found ∧
        Enumerates (t.IsSourceAt recursive directory name) found := by
      intro name hmem
      refine foundAt_enumerates fun hinner => ?_
      apply ih (FilePath.spelling_join_ne_empty hne name) hinner
      intro names hnames hfile
      exact Nat.le_of_succ_le_succ
        (hdepth (name :: names) (List.forall_mem_cons.mpr ⟨hentry name hmem, hnames⟩) hfile)
    obtain ⟨lists, hlists, hall⟩ := enumerates_flatten (hdistinct _ _ hlisted) hfound
      fun name hmem name' hmem' p h h' =>
        eq_of_isBelow_join (hentry name hmem) (hentry name' hmem') h.isBelow h'.isBelow
    have hsources (p : FilePath) : (∃ name ∈ listed, t.IsSourceAt recursive directory name p) ↔
        t.IsSourceBelow recursive directory p :=
      ⟨fun ⟨name, hmem, h⟩ => isSourceBelow_of_isSourceAt (hentry name hmem) h,
        exists_isSourceAt hne hlisted⟩
    refine ⟨lists.flatten, ?_, hall.congr hsources⟩
    rw [sourcesWithin_of_names hlisted, hlists]
    rfl

theorem sources_enumerates (hdistinct : ∀ p listed, t.names p = .ok listed → listed.Nodup)
    (hdirectory : t.isDirectory directory) (recursive : Bool) :
    ∃ found, t.sources recursive directory = .ok found ∧
      Enumerates (t.IsSourceBelow recursive directory) found := by
  have hne : directory.spelling ≠ "" := by
    obtain ⟨holder, entries, hplace⟩ := isDirectory_iff.mp hdirectory
    exact (resolve_eq_ok_iff.mp hplace).1
  exact sourcesWithin_enumerates hdistinct hne hdirectory fun names hnames hfile =>
    Nat.le_of_lt (length_le_of_isFile hne hnames hfile)

theorem Reorders.isSourceBelow_iff {t' : FileTree} (h : t.Reorders t') (recursive : Bool)
    (directory p : FilePath) :
    t.IsSourceBelow recursive directory p ↔ t'.IsSourceBelow recursive directory p := by
  rw [IsSourceBelow, IsSourceBelow, h.isFile_eq]

end FileTree

/-- Smaller paths first, and none twice. -/
def Ascending (paths : List FilePath) : Prop :=
  paths.Pairwise fun p q => compare p q = .lt

/-- Ascending paths are told by which they are. -/
theorem Ascending.eq_of_mem_iff {paths paths' : List FilePath} (h : Ascending paths)
    (h' : Ascending paths') (hmem : ∀ p, p ∈ paths ↔ p ∈ paths') : paths = paths' := by
  have hnodup {paths : List FilePath} (h : Ascending paths) : paths.Nodup :=
    h.imp fun hlt heq => by simp [heq] at hlt
  have hperm : paths.Perm paths' :=
    (List.perm_ext_iff_of_nodup (hnodup h) (hnodup h')).mpr hmem
  refine hperm.eq_of_pairwise ?_ h h'
  intro p q _ _ hpq hqp
  rw [Std.OrientedOrd.eq_swap (a := q), hpq] at hqp
  cases hqp

end Files

namespace BatchOptions
variable {o : BatchOptions} {t : FileTree} {directory : FilePath}

/-- The smallest paths, so many as are asked for. -/
def cut (o : BatchOptions) (paths : List FilePath) : List FilePath :=
  match o.maxFiles? with
  | none => paths
  | some limit => paths.take limit

theorem fst_limited (o : BatchOptions) (paths : List FilePath) :
    (o.limited paths).1 = o.cut paths := by
  rw [limited, cut]
  cases o.maxFiles? with
  | none => rfl
  | some limit =>
    dsimp only
    split
    · rfl
    · exact (List.take_of_length_le (Nat.le_of_not_lt ‹_›)).symm

theorem inOrder_eq_nil_iff {paths : List FilePath} : inOrder paths = [] ↔ paths = [] := by
  rw [← List.length_eq_zero_iff, inOrder, List.length_mergeSort, List.length_eq_zero_iff]

theorem ascending_inOrder {paths : List FilePath} (hnodup : paths.Nodup)
    (hbelow : ∀ p ∈ paths, p.IsBelow directory) : Ascending (inOrder paths) := by
  have hperm : (inOrder paths).Perm paths := List.mergeSort_perm paths _
  have hordered := (pairwise_inOrder paths).and (hperm.nodup_iff.mpr hnodup)
  refine hordered.imp_of_mem ?_
  rintro p q hp hq ⟨hle, hne⟩
  cases hcompare : compare p q with
  | lt => rfl
  | gt => simp [hcompare] at hle
  | eq =>
    have hsame := FilePath.compare_eq_iff.mp hcompare
    have hbelow_p := hbelow p (hperm.mem_iff.mp hp)
    have hbelow_q := hbelow q (hperm.mem_iff.mp hq)
    exact absurd (hbelow_p.eq_of_same hbelow_q hsame) hne

/-- What discovery answers where these are all the sources. -/
def answer (o : BatchOptions) (directory : FilePath) (all : List FilePath) :
    Except BatchError (List FilePath) :=
  if all = [] then .error (.noSources directory.spelling)
  else if fileLimit < (o.cut all).length then .error (.tooManyFiles (o.cut all).length fileLimit)
  else .ok (o.cut all)

theorem snd_sources (hdistinct : ∀ p listed, t.names p = .ok listed → listed.Nodup)
    (hdirectory : t.isDirectory directory) : ∃ all, Ascending all ∧
      (∀ p, p ∈ all ↔ t.IsSourceBelow o.recursive directory p) ∧
      (o.sources t directory).2 = o.answer directory all := by
  obtain ⟨found, hfound, hall⟩ := FileTree.sources_enumerates hdistinct hdirectory o.recursive
  have hbelow : ∀ p ∈ found, p.IsBelow directory := fun p hp => ((hall.mem_iff p).mp hp).isBelow
  refine ⟨inOrder found, ascending_inOrder hall.nodup hbelow,
    fun p => List.mem_mergeSort.trans (hall.mem_iff p), ?_⟩
  rw [sources, answer, if_neg (by simp [hdirectory]), hfound]
  simp only [inOrder_eq_nil_iff]
  cases found with
  | nil => rfl
  | cons p found =>
    rw [if_neg (List.cons_ne_nil p found)]
    simp only [← fst_limited]
    split <;> rfl

theorem answer_eq_noSources_iff {all : List FilePath} :
    o.answer directory all = .error (.noSources directory.spelling) ↔ all = [] := by
  unfold answer
  split
  · simp [*]
  · split <;> simp [*]

theorem snd_sources_of_missing (h : t.isDirectory directory = false) :
    (o.sources t directory).2 = .error (.directoryNotFound directory.spelling) := by
  rw [sources, if_pos (by simp [h])]

/-- What a search for sources comes to, however the directories list their entries. -/
structure FindsExactly (o : BatchOptions) (t : FileTree) (directory : FilePath) : Prop where
  ofMissing : t.isDirectory directory = false → ∀ t', t.Reorders t' → ∀ s,
    (o.discover t' directory s).1 = .error (.directoryNotFound directory.spelling)
  ofDirectory : t.isDirectory directory → ∃ all, Ascending all ∧
    (∀ p, p ∈ all ↔ t.IsSourceBelow o.recursive directory p) ∧
    ∀ t', t.Reorders t' → ∀ s, (o.discover t' directory s).1 = o.answer directory all
  noSources_iff : ∀ t', t.Reorders t' → ∀ s,
    (o.discover t' directory s).1 = .error (.noSources directory.spelling) ↔
      t.isDirectory directory ∧ ∀ p, ¬t.IsSourceBelow o.recursive directory p

/-- Discovery finds exactly the sources there are, in an order of their own. -/
theorem discovery_exact {t : FileTree} (h : t.root.Distinct) (o : BatchOptions)
    (directory : FilePath) : o.FindsExactly t directory := by
  have hdistinct {t' : FileTree} (ht : t.Reorders t') (p : FilePath) (listed : List String)
      (hlisted : t'.names p = .ok listed) : listed.Nodup := by
    obtain ⟨listed', hlisted', hperm⟩ := ht.symm.names hlisted
    exact hperm.nodup_iff.mpr (FileTree.nodup_of_names h hlisted')
  have hmissing (hdirectory : t.isDirectory directory = false) (t' : FileTree) (ht : t.Reorders t')
      (s : Diagnostics.Session) :
      (o.discover t' directory s).1 = .error (.directoryNotFound directory.spelling) :=
    snd_sources_of_missing (ht.isDirectory_eq directory ▸ hdirectory)
  have hfound (hdirectory : t.isDirectory directory) : ∃ all, Ascending all ∧
      (∀ p, p ∈ all ↔ t.IsSourceBelow o.recursive directory p) ∧
      ∀ t', t.Reorders t' → ∀ s, (o.discover t' directory s).1 = o.answer directory all := by
    obtain ⟨all, hall, hmem, -⟩ := snd_sources (o := o) (hdistinct (.refl t)) hdirectory
    refine ⟨all, hall, hmem, ?_⟩
    intro t' ht s
    obtain ⟨all', hall', hmem', hanswer⟩ :=
      snd_sources (o := o) (hdistinct ht) (ht.isDirectory_eq directory ▸ hdirectory)
    have hsame : all' = all := hall'.eq_of_mem_iff hall fun p =>
      (hmem' p).trans ((ht.isSourceBelow_iff o.recursive directory p).symm.trans (hmem p).symm)
    exact hsame ▸ hanswer
  refine ⟨hmissing, hfound, ?_⟩
  intro t' ht s
  cases hdirectory : t.isDirectory directory with
  | false => simp [hmissing hdirectory t' ht s]
  | true =>
    obtain ⟨all, -, hmem, hanswer⟩ := hfound hdirectory
    rw [hanswer t' ht s, answer_eq_noSources_iff, List.eq_nil_iff_forall_not_mem]
    simp [hmem]

/-- A source in a further directory, beside a file that is none, and a link to it. -/
def linked : FileTree :=
  (((FileTree.ofWorking []).insert ["A.java"] (.link "sub/B.JAVA")).insert ["sub", "B.JAVA"]
    (.file .empty)).insert ["sub", "notes"] (.file .empty)

/-- The same tree with the later entries first. -/
def linkedBack : FileTree where
  root := .directory [("sub", .directory [("notes", .file .empty), ("B.JAVA", .file .empty)]),
    ("A.java", .link "sub/B.JAVA")]
  working := []

theorem linked_distinct : linked.root.Distinct :=
  FileTree.insert_distinct (FileTree.insert_distinct (FileTree.insert_distinct
    (FileTree.ofWorking_distinct []) (.link _) _) (.file _) _) (.file _) _

theorem linked_reorders : linked.Reorders linkedBack where
  working := rfl
  root := by
    have hroot : linked.root = .directory [("A.java", .link "sub/B.JAVA"),
        ("sub", .directory [("B.JAVA", .file .empty), ("notes", .file .empty)])] := rfl
    rw [hroot]
    refine Entry.Reorders.directory (List.Perm.swap "sub" "A.java" []) fun name => ?_
    by_cases hlink : name = "A.java"
    · subst hlink
      exact .some (.refl _)
    · by_cases hsub : name = "sub"
      · subst hsub
        exact .some (.of_perm (by decide) (.swap _ _ _))
      · simp [Entry.child?, Ne.symm hlink, Ne.symm hsub]

theorem sources_linked : (({ threads := 1 } : BatchOptions).sources linked ⟨"/"⟩).2 =
    .ok [⟨"/A.java"⟩, ⟨"/sub/B.JAVA"⟩] := by
  have hdirectory : linked.isDirectory ⟨"/"⟩ := by decide +kernel
  have hfound : linked.sources true ⟨"/"⟩ = .ok [⟨"/A.java"⟩, ⟨"/sub/B.JAVA"⟩] := rfl
  have horder : inOrder [⟨"/A.java"⟩, ⟨"/sub/B.JAVA"⟩] = [⟨"/A.java"⟩, ⟨"/sub/B.JAVA"⟩] :=
    List.mergeSort_of_pairwise (by decide +kernel)
  simp [sources, hdirectory, hfound, limited, horder, fileLimit]

/-- Both the file and the link are found, whichever way the directories list their entries. -/
theorem discovery_exact_linked : linked.root.Distinct ∧
    ∀ s, (({ threads := 1 } : BatchOptions).discover linkedBack ⟨"/"⟩ s).1 =
      .ok [⟨"/A.java"⟩, ⟨"/sub/B.JAVA"⟩] := by
  refine ⟨linked_distinct, fun s => ?_⟩
  have hfinds := discovery_exact linked_distinct { threads := 1 } ⟨"/"⟩
  obtain ⟨all, -, -, hanswer⟩ := hfinds.ofDirectory (by decide +kernel)
  rw [hanswer linkedBack linked_reorders s, ← hanswer linked (.refl linked) s]
  exact sources_linked

end BatchOptions
end JavaLex
