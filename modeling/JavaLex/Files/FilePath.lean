import JavaLex.Text.Line

/-! # Paths

A path is known by its spelling and compared by its components: repeated and trailing slashes do
not count, nor does a dot that is not the first component. Two dots are kept, since what they
lead to depends on the files.
-/
namespace JavaLex.Files

inductive Component where
  | root
  | current
  | parent
  | name (text : String)
  deriving DecidableEq, Repr, Inhabited, Ord

namespace Component

def ofText (text : String) : Component :=
  if text = ".." then .parent else .name text

def name? : Component → Option String
  | .name text => some text
  | _ => none

/-- Roots come first, and names last. -/
def rank : Component → Nat
  | .root => 0
  | .current => 1
  | .parent => 2
  | .name _ => 3

/-- Components are compared by rank, and names among themselves by their text. -/
theorem compare_eq :
    (compare : Component → Component → Ordering) =
      compareLex (compareOn rank) (compareOn name?) := by
  funext a b
  cases a <;> cases b
  case name.name a b =>
    simp [compare, instOrdComponent.ord, compareLex, compareOn, rank, name?, compareOfLessAndEq]
  all_goals rfl

instance : Std.TransOrd Component := by
  rw [Std.TransOrd, compare_eq]
  infer_instance

instance : Std.LawfulEqOrd Component where
  eq_of_compare {a b} h := by
    rw [compare_eq, compareLex_eq_eq] at h
    have hrank : a.rank = b.rank := Nat.compare_eq_eq.mp h.1
    have hname : a.name? = b.name? := Std.LawfulEqOrd.eq_of_compare h.2
    cases a <;> cases b <;> simp_all [rank, name?]

end Component

structure FilePath where
  spelling : String
  deriving DecidableEq, Repr, Inhabited

namespace FilePath

/-- The parts between the slashes. -/
def parts (p : FilePath) : List String :=
  (Text.pieces '/' p.spelling.toList).map String.ofList

def isAbsolute (p : FilePath) : Bool :=
  p.spelling.toList.head? == some '/'

def components (p : FilePath) : List Component :=
  let first :=
    if p.isAbsolute then [.root] else if p.parts.head? == some "." then [.current] else []
  first ++ ((p.parts.filter fun part => part ≠ "" && part ≠ ".").map Component.ofText)

instance : Ord FilePath where
  compare p q := compare p.components q.components

instance : Std.TransOrd FilePath where
  eq_swap {p q} := Std.OrientedOrd.eq_swap (a := p.components) (b := q.components)
  isLE_trans {p q r} :=
    Std.TransOrd.isLE_trans (a := p.components) (b := q.components) (c := r.components)

/-- The same components, however spelled. -/
def same (p q : FilePath) : Bool :=
  p.components == q.components

theorem same_iff {p q : FilePath} : p.same q ↔ p.components = q.components :=
  beq_iff_eq

@[simp] theorem same_refl (p : FilePath) : p.same p :=
  same_iff.mpr rfl

theorem same_congr {p q : FilePath} (h : p.same q) (r : FilePath) : p.same r = q.same r := by
  rw [same, same, same_iff.mp h]

theorem same_comm (p q : FilePath) : p.same q = q.same p := by
  rw [Bool.eq_iff_iff, same_iff, same_iff, eq_comm]

theorem compare_eq_iff {p q : FilePath} : compare p q = .eq ↔ p.same q :=
  (Std.LawfulEqOrd.compare_eq_iff_eq (α := List Component)).trans same_iff.symm

instance : ToString FilePath := ⟨FilePath.spelling⟩

/-- The name at the end. A path that ends in two dots has none. -/
def fileName? (p : FilePath) : Option String :=
  p.components.getLast?.bind Component.name?

/-- What follows the last dot of a name. A dot at the head does not count. -/
def extensionOf? (name : String) : Option String :=
  let tail := name.toList.reverse.takeWhile (· ≠ '.')
  if tail.length + 1 < name.length then some (String.ofList tail.reverse) else none

def extension? (p : FilePath) : Option String :=
  p.fileName?.bind extensionOf?

/-- The path of an entry of a directory. -/
def join (p : FilePath) (name : String) : FilePath :=
  if p.spelling.toList.getLast?.all (· == '/') then ⟨p.spelling ++ name⟩
  else ⟨p.spelling ++ "/" ++ name⟩

end FilePath
end JavaLex.Files
