import Phrasebook.Unicode.Category

/-!
# Characters that can be shown by themselves

Letters, marks that take room of their own, numbers, punctuation, symbols, and the plain space.
Controls, unassigned characters, other spaces and characters that extend the one before them cannot.
-/

namespace Phrasebook.Unicode

/-- Characters besides the nonspacing and the enclosing marks that extend the one before them. -/
def otherExtenderRanges : List (Nat × Nat) := [
  (0x9BE, 0x9BE), (0x9D7, 0x9D7), (0xB3E, 0xB3E), (0xB57, 0xB57), (0xBBE, 0xBBE), (0xBD7, 0xBD7),
  (0xCC2, 0xCC2), (0xCD5, 0xCD6), (0xD3E, 0xD3E), (0xD57, 0xD57), (0xDCF, 0xDCF), (0xDDF, 0xDDF),
  (0x1B35, 0x1B35), (0x200C, 0x200C), (0x302E, 0x302F), (0xFF9E, 0xFF9F), (0x1133E, 0x1133E),
  (0x11357, 0x11357), (0x114B0, 0x114B0), (0x114BD, 0x114BD), (0x115AF, 0x115AF),
  (0x11930, 0x11930), (0x1D165, 0x1D165), (0x1D16E, 0x1D172), (0xE0020, 0xE007F)
]

/-- A character that extends the one before it. -/
def isExtender (c : Char) : Bool :=
  [categoryMn, categoryMe, otherExtenderRanges].any (inRanges · c)

/-- The categories of characters that can be seen. -/
def visibleCategories : List (List (Nat × Nat)) := [
  categoryLl, categoryLm, categoryLo, categoryLt, categoryLu, categoryMc, categoryMe, categoryMn,
  categoryNd, categoryNl, categoryNo, categoryPc, categoryPd, categoryPe, categoryPf, categoryPi,
  categoryPo, categoryPs, categorySc, categorySk, categorySm, categorySo
]

/-- Whether a character can be shown by itself. -/
def isVisible (c : Char) : Bool :=
  if c.toNat < 0x7F then 0x20 ≤ c.toNat
  else visibleCategories.any (inRanges · c) && !isExtender c

end Phrasebook.Unicode
