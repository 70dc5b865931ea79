import JavaLex.Unicode.RangeTable

/-! # The property Default_Ignorable_Code_Point

Fillers, joiners, selectors and other code points that Unicode 17 lets a display leave out, so
that nothing of them is seen.
-/
namespace JavaLex.Unicode

def defaultIgnorable : RangeTable := ⟨#[
  0xAD, 0xAE, 0x34F, 0x350, 0x61C, 0x61D, 0x115F, 0x1161, 0x17B4, 0x17B6,
  0x180B, 0x1810, 0x200B, 0x2010, 0x202A, 0x202F, 0x2060, 0x2070, 0x3164, 0x3165,
  0xFE00, 0xFE10, 0xFEFF, 0xFF00, 0xFFA0, 0xFFA1, 0xFFF0, 0xFFF9, 0x1BCA0, 0x1BCA4,
  0x1D173, 0x1D17B, 0xE0000, 0xE1000]⟩

end JavaLex.Unicode
