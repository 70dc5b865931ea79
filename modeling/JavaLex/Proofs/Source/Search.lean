import JavaLex.Source.LineIndex
import Mathlib.Data.List.Pairwise
import Mathlib.Tactic.Basic

/-! # The search for a line

The search halves a window of the ascending offsets. What stands left of the window comes before
the offset and what stands right of it behind, and each step keeps this. So the slot that is found
is the one that the offset has, and the line above it is the last one that starts at or before the
offset.
-/
namespace JavaLex.Source.LineIndex
variable {starts : Array Nat} {offset first last : Nat}

def Ascending (starts : Array Nat) : Prop :=
  starts.toList.Pairwise (· < ·)

theorem Ascending.lt (h : Ascending starts) {i j : Nat} (hij : i < j) (hj : j < starts.size) :
    starts[i] < starts[j] := by
  have hi : i < starts.toList.length := by simpa using Nat.lt_trans hij hj
  have hj' : j < starts.toList.length := by simpa using hj
  simpa using List.pairwise_iff_getElem.mp h i j hi hj' hij

theorem Ascending.le (h : Ascending starts) {i j : Nat} (hij : i ≤ j) (hj : j < starts.size) :
    starts[i] ≤ starts[j] := by
  rcases Nat.eq_or_lt_of_le hij with rfl | hlt
  · exact Nat.le_refl _
  · exact Nat.le_of_lt (h.lt hlt hj)

/-- The offset stands behind all that comes before `first` and before all that comes from `last`
on. -/
structure Window (starts : Array Nat) (offset first last : Nat) : Prop where
  left : ∀ i (h : i < starts.size), i < first → starts[i] < offset
  right : ∀ i (h : i < starts.size), last ≤ i → offset < starts[i]

theorem window_all (starts : Array Nat) (offset : Nat) : Window starts offset 0 starts.size where
  left _ _ hi := absurd hi (Nat.not_lt_zero _)
  right _ h hi := absurd h (Nat.not_lt.mpr hi)

section Halving
variable {middle : Nat} (hascending : Ascending starts) (hwindow : Window starts offset first last)
  (hmiddle : middle < starts.size)
include hascending hwindow

theorem Window.lower (hlt : starts[middle] < offset) :
    Window starts offset (middle + 1) last where
  left i h hi := by
    have hle : starts[i] ≤ starts[middle] := hascending.le (Nat.le_of_lt_succ hi) hmiddle
    exact Nat.lt_of_le_of_lt hle hlt
  right := hwindow.right

theorem Window.upper (hlt : offset < starts[middle]) : Window starts offset first middle where
  left := hwindow.left
  right i h hi := by
    have hle : starts[middle] ≤ starts[i] := hascending.le hi h
    exact Nat.lt_of_lt_of_le hlt hle

end Halving

/-- A slot that is right: the offset is found, or it is told apart from every entry. -/
inductive IsSlot (starts : Array Nat) (offset : Nat) : Slot → Prop where
  | here {index : Nat} (h : index < starts.size) :
      starts[index] = offset → IsSlot starts offset (.here index)
  | before {index : Nat} : index ≤ starts.size → Window starts offset index index →
      IsSlot starts offset (.before index)

theorem isSlot_slotBetween (hascending : Ascending starts) (h : last ≤ starts.size)
    (hle : first ≤ last) (hwindow : Window starts offset first last) :
    IsSlot starts offset (slotBetween starts offset first last h) := by
  -- On the halvings: an empty window stands between the entries left and right of it.
  fun_induction slotBetween starts offset first last h with
  | case1 first last h hlt middle hfound => exact .here _ hfound
  | case2 first last h hlt middle hfound hlower ih =>
    apply ih
    · omega
    · exact hwindow.lower hascending _ hlower
  | case3 first last h hlt middle hfound hlower ih =>
    have hupper : offset < starts[middle] :=
      Nat.lt_of_le_of_ne (Nat.not_lt.mp hlower) (Ne.symm hfound)
    apply ih
    · omega
    · exact hwindow.upper hascending _ hupper
  | case4 first last h hlt =>
    obtain rfl : last = first := Nat.le_antisymm (Nat.not_lt.mp hlt) hle
    exact .before h hwindow

theorem isSlot_slot {m : LineIndex} (h : Ascending m.starts) (offset : Nat) :
    IsSlot m.starts offset (m.slot offset) :=
  isSlot_slotBetween h (Nat.le_refl _) (Nat.zero_le _) (window_all m.starts offset)

/-- The line of an offset is the one that starts at or before it and after which no line does. -/
theorem lineIndex?_eq_some {m : LineIndex} (h : Ascending m.starts) {line : Nat}
    (hline : line < m.starts.size) (hle : m.starts[line] ≤ offset)
    (hnext : ∀ hlt : line + 1 < m.starts.size, offset < m.starts[line + 1]) :
    m.lineIndex? offset = some line := by
  have hslot := isSlot_slot h offset
  unfold lineIndex?
  generalize m.slot offset = slot at hslot
  cases hslot with
  | @here index hindex hfound =>
    have hnotLess : ¬ index < line := by
      intro hlt
      have hstarts := h.lt hlt hline
      omega
    have hnotMore : ¬ line + 1 ≤ index := by
      intro hlt
      have hbehind := hnext (Nat.lt_of_le_of_lt hlt hindex)
      have hstarts := h.le hlt hindex
      omega
    obtain rfl : index = line := by omega
    rfl
  | @before index hsize hwindow =>
    have hmore : ¬ index ≤ line := by
      intro hge
      have hright := hwindow.right line hline hge
      omega
    have hnotNext : ¬ line + 1 < index := by
      intro hlt
      have hbound : line + 1 < m.starts.size := Nat.lt_of_lt_of_le hlt hsize
      have hbehind := hnext hbound
      have hleft := hwindow.left (line + 1) hbound hlt
      omega
    obtain rfl : index = line + 1 := by omega
    rfl

/-- Where the first line starts at the beginning, no offset comes before it. -/
theorem slot_ne_before_zero {m : LineIndex} (h : Ascending m.starts)
    (hfirst : m.starts[0]? = some 0) (offset : Nat) : m.slot offset ≠ .before 0 := by
  intro hzero
  have hslot := isSlot_slot h offset
  rw [hzero] at hslot
  cases hslot with
  | before hsize hwindow =>
    obtain ⟨hpos, hstart⟩ := Array.getElem?_eq_some_iff.mp hfirst
    have hright := hwindow.right 0 hpos (Nat.le_refl _)
    omega

end JavaLex.Source.LineIndex
