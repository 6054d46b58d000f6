import Phrasebook.Proofs.Dictionary.Editing
import Phrasebook.Proofs.Text.Blanks

/-!
# Points in keys

Only the default namespace may bring a point into a part of a key. Without one there, a key has three
segments, and a number behind it adds none.
-/

namespace Phrasebook

/-! ## Parts of keys -/

namespace Key

theorem point_notMem_underscored (text : List Char) : '.' ∉ underscored text := by
  intro member
  obtain ⟨c, -, same⟩ := List.mem_map.mp member
  split at same
  next => cases same
  next other => exact other same

theorem point_notMem_component (path : String) : '.' ∉ (component path).toList := by
  unfold component
  dsimp only
  split <;> rw [String.toList_ofList] <;> exact point_notMem_underscored _

/-! ## Keys within namespaces -/

/-- A key within a namespace is the namespace, a point and the relative key; any other key is its
own relative key. -/
theorem relative_spec (spaceName key : String) :
    spaceName ++ "." ++ relative spaceName key = key ∨
      relative spaceName key = key ∧ ¬ (spaceName ++ ".").toList <+: key.toList := by
  unfold relative
  split
  next rest found =>
    refine Or.inl (String.toList_inj.mp ?_)
    rw [Text.after?_eq_some _ _ _ found]
    simp
  next none =>
    refine Or.inr ⟨rfl, ?_⟩
    rintro ⟨rest, same⟩
    rw [← same, String.toList_append] at none
    exact nomatch (Text.after?_append _ rest).symm.trans none

end Key

namespace KeyRules

variable (rules : KeyRules)

/-- A key has two segments behind those of the namespace. -/
theorem length_keySegments_spaceName (withinRoot text : String) :
    (keySegments (rules.key withinRoot text)).length =
      (rules.spaceName withinRoot).toList.countP (· == '.') + 3 := by
  have none {part : List Char} (pointless : '.' ∉ part) : part.countP (· == '.') = 0 := by
    rw [← List.count, List.count_eq_zero]
    exact pointless
  simp only [length_keySegments, key, String.toList_append, String.toList_ofList, List.countP_append,
    none (Key.point_notMem_component withinRoot), none (Text.point_notMem_slug _ _ _)]
  rfl

variable (plain : '.' ∉ rules.defaultNamespace.toList)

include plain

theorem point_notMem_spaceName (withinRoot : String) :
    '.' ∉ (rules.spaceName withinRoot).toList := by
  unfold spaceName
  dsimp only
  split
  · rw [String.toList_ofList]
    exact Key.point_notMem_underscored _
  · exact plain

/-- A key has a segment for the namespace, one for the component and one for the text. -/
theorem length_keySegments_key (withinRoot text : String) :
    (keySegments (rules.key withinRoot text)).length = 3 := by
  rw [rules.length_keySegments_spaceName, ← List.count,
    List.count_eq_zero.mpr (rules.point_notMem_spaceName plain withinRoot)]

end KeyRules

end Phrasebook
