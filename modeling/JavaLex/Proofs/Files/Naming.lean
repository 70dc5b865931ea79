import JavaLex.Files.FileTree
import JavaLex.Proofs.Text.Pieces

/-! # Paths of entries

The path of an entry has the components of its directory and one more, its name. So below one
directory a path is known by its components: two paths that count as the same are spelled alike.
-/
namespace JavaLex
open Text Files

namespace Files

theorem isEntryName_iff {name : String} : isEntryName name ↔
    name ≠ "" ∧ name ≠ "." ∧ name ≠ ".." ∧ '/' ∉ name.toList := by
  simp [isEntryName, and_assoc]

namespace FilePath

theorem parts_of_isEntryName {name : String} (h : isEntryName name) : (mk name).parts = [name] := by
  rw [isEntryName_iff] at h
  rw [parts, pieces_of_not_mem h.2.2.2]
  simp

theorem parts_of_toList {p : FilePath} {s t : List Char} (h : p.spelling.toList = s ++ '/' :: t) :
    p.parts = (pieces '/' s).map String.ofList ++ (pieces '/' t).map String.ofList := by
  rw [parts, h, pieces_append_cons, List.map_append]

/-- The name comes as a further part, in place of the empty one that a slash leaves at the end. -/
theorem parts_join {p : FilePath} {name : String} (hp : p.spelling ≠ "") (h : isEntryName name) :
    ∃ front, front ≠ [] ∧ (p.join name).parts = front ++ [name] ∧
      (p.parts = front ∨ p.parts = front ++ [""]) ∧ (p.join name).isAbsolute = p.isAbsolute := by
  have hname : (pieces '/' name.toList).map String.ofList = [name] := parts_of_isEntryName h
  have hfront (s : List Char) : (pieces '/' s).map String.ofList ≠ [] := by
    simpa using pieces_ne_nil '/' s
  rcases List.eq_nil_or_concat p.spelling.toList with hnil | ⟨s, c, hs⟩
  · exact absurd (String.toList_eq_nil_iff.mp hnil) hp
  · by_cases hc : c = '/'
    · subst hc
      have hjoin : (p.join name).spelling.toList = s ++ '/' :: name.toList := by
        simp [join, hs]
      refine ⟨_, hfront s, ?_, .inr ?_, ?_⟩
      · rw [parts_of_toList hjoin, hname]
      · rw [parts_of_toList (hs.trans List.concat_eq_append)]
        rfl
      · rw [isAbsolute, isAbsolute, hjoin, hs]
        cases s <;> rfl
    · -- The path does not end in a slash, so the join puts one between.
      have hjoin : (p.join name).spelling.toList = p.spelling.toList ++ '/' :: name.toList := by
        simp [join, hs, hc]
      refine ⟨_, hfront p.spelling.toList, ?_, .inl rfl, ?_⟩
      · rw [parts_of_toList hjoin, hname]
      · rw [isAbsolute, isAbsolute, hjoin, hs]
        cases s <;> rfl

theorem components_join (p : FilePath) {name : String} (h : isEntryName name) :
    (p.join name).components = p.components ++ [.name name] := by
  have hname := isEntryName_iff.mp h
  by_cases hp : p.spelling = ""
  · have hjoin : p.join name = ⟨name⟩ := by
      simp [join, hp]
    have habsolute : isAbsolute ⟨name⟩ = false := by
      rw [isAbsolute, beq_eq_false_iff_ne]
      exact fun hslash => hname.2.2.2 (List.mem_of_head? hslash)
    have hcomponents : p.components = [] := by
      cases p
      cases hp
      decide
    rw [hjoin, hcomponents, components, habsolute, parts_of_isEntryName h]
    simp [Component.ofText, hname]
  · rcases parts_join hp h with ⟨front, hfront, hjoin, hparts, habsolute⟩
    have hhead : (p.join name).parts.head? = p.parts.head? := by
      rcases List.exists_cons_of_ne_nil hfront with ⟨part, rest, rfl⟩
      rw [hjoin]
      rcases hparts with hparts | hparts <;> rw [hparts] <;> rfl
    have hsolid : (p.join name).parts.filter (fun part => part ≠ "" && part ≠ ".") =
        p.parts.filter (fun part => part ≠ "" && part ≠ ".") ++ [name] := by
      rw [hjoin]
      rcases hparts with hparts | hparts <;> simp [hparts, hname]
    rw [components, components, habsolute, hhead, hsolid, List.map_append, List.append_assoc]
    simp [Component.ofText, hname]

/-- The path of what is found at the end of some names below a directory. -/
def descend (p : FilePath) (names : List String) : FilePath :=
  names.foldl join p

theorem components_descend (p : FilePath) {names : List String}
    (h : ∀ name ∈ names, isEntryName name) :
    (p.descend names).components = p.components ++ names.map .name := by
  induction names generalizing p with
  | nil => simp [descend]
  | cons name names ih =>
    rw [List.forall_mem_cons] at h
    change ((p.join name).descend names).components = _
    rw [ih _ h.2, components_join p h.1, List.append_assoc]
    rfl

/-- Below a directory the components make the path. -/
theorem descend_inj {p : FilePath} {names names' : List String}
    (h : ∀ name ∈ names, isEntryName name) (h' : ∀ name ∈ names', isEntryName name)
    (hsame : (p.descend names).same (p.descend names')) : p.descend names = p.descend names' := by
  rw [same_iff, components_descend p h, components_descend p h'] at hsame
  have hnames : names.map Component.name = names'.map Component.name :=
    List.append_cancel_left hsame
  rw [List.map_inj_right (fun _ _ => Component.name.inj)] at hnames
  rw [hnames]

end FilePath

/-! ## What paths lead to -/

namespace Entry

theorem child?_wellNamed {e child : Entry} {name : String} (h : e.isWellNamed)
    (hchild : e.child? name = some child) : child.isWellNamed := by
  cases e with
  | file content => cases hchild
  | link target => cases hchild
  | directory entries =>
    rcases Option.map_eq_some_iff.mp hchild with ⟨found, hfound, rfl⟩
    exact (allWellNamed_iff.mp h found (List.mem_of_find?_eq_some hfound)).2

theorem at?_wellNamed {e inner : Entry} {names : List String} (h : e.isWellNamed)
    (hinner : e.at? names = some inner) : inner.isWellNamed := by
  induction names generalizing e with
  | nil =>
    cases hinner
    exact h
  | cons name names ih =>
    obtain ⟨child, hchild, hinner⟩ := Option.bind_eq_some_iff.mp hinner
    exact ih (child?_wellNamed h hchild) hinner

theorem isEntryName_of_child? {e child : Entry} {name : String} (h : e.isWellNamed)
    (hchild : e.child? name = some child) : isEntryName name := by
  cases e with
  | file content => cases hchild
  | link target => cases hchild
  | directory entries =>
    rcases Option.map_eq_some_iff.mp hchild with ⟨found, hfound, rfl⟩
    have hname : found.1 = name := by simpa using List.find?_some hfound
    exact hname ▸ (allWellNamed_iff.mp h found (List.mem_of_find?_eq_some hfound)).1

theorem isEntryName_of_at? {e inner : Entry} {names : List String} (h : e.isWellNamed)
    (hinner : e.at? names = some inner) : ∀ name ∈ names, isEntryName name := by
  induction names generalizing e with
  | nil => simp
  | cons name names ih =>
    obtain ⟨child, hchild, hinner⟩ := Option.bind_eq_some_iff.mp hinner
    exact List.forall_mem_cons.mpr
      ⟨isEntryName_of_child? h hchild, ih (child?_wellNamed h hchild) hinner⟩

end Entry

namespace FileTree
variable {t : FileTree}

/-- A place that is come to holds the entry of the tree that is there. -/
def Sound (t : FileTree) (follow : List String → List String → Except AccessFault Place) : Prop :=
  ∀ here parts place, follow here parts = .ok place → t.root.at? place.names = some place.entry

theorem walkParts_sound {follow : List String → List String → Except AccessFault Place}
    (hfollow : t.Sound follow) : t.Sound (t.walkParts follow) := by
  intro here parts place h
  induction parts generalizing here with
  | nil =>
    rw [walkParts] at h
    split at h
    case h_1 entry hentry =>
      cases h
      exact hentry
    case h_2 => cases h
  | cons part parts ih =>
    rw [walkParts] at h
    split at h
    case h_1 entries _ =>
      split at h
      · exact ih here h
      · split at h
        · exact ih here.dropLast h
        · split at h
          · cases h
          · split at h
            · cases h
            · exact hfollow _ _ _ h
            · exact ih (here ++ [part]) h
    case h_2 => cases h

theorem walk_sound (links : Nat) : t.Sound (t.walk links) := by
  induction links with
  | zero => exact walkParts_sound fun _ _ _ h => by cases h
  | succ links ih => exact walkParts_sound ih

theorem wellNamed_of_resolve {p : FilePath} {place : Place} (h : t.resolve p = .ok place) :
    place.entry.isWellNamed := by
  unfold resolve at h
  split at h
  · cases h
  · split at h
    · cases h
    · split at h
      · cases h
      · exact Entry.at?_wellNamed t.wellNamed (walk_sound maxLinks _ _ _ h)

theorem isEntryName_of_names {p : FilePath} {names : List String} (h : t.names p = .ok names) :
    ∀ name ∈ names, isEntryName name := by
  unfold FileTree.names at h
  cases hplace : t.resolve p with
  | error fault =>
    rw [hplace] at h
    cases h
  | ok place =>
    have hnamed := wellNamed_of_resolve hplace
    rw [hplace] at h
    rcases place with ⟨here, entry⟩
    cases entry with
    | file content => cases h
    | link target => cases h
    | directory entries =>
      cases h
      intro name hname
      rcases List.mem_map.mp hname with ⟨e, he, rfl⟩
      exact (Entry.allWellNamed_iff.mp hnamed e he).1

end FileTree
end Files
end JavaLex
