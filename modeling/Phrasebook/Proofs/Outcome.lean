import Mathlib

/-!
# Outcomes

What is made of a computation that may fail succeeds if the computation does.
-/

namespace Phrasebook

variable {ε α β : Type} {x : Except ε α} {b : β}

@[simp] theorem ok_bind (a : α) (f : α → Except ε β) : Except.ok a >>= f = f a := rfl

theorem toOption_eq_some_iff {a : α} : x.toOption = some a ↔ x = .ok a := by
  cases x <;> simp [Except.toOption]

theorem exists_of_map_toOption {f : α → β} (made : x.toOption.map f = some b) :
    ∃ a, x = .ok a ∧ f a = b := by
  obtain ⟨a, found, same⟩ := Option.map_eq_some_iff.mp made
  exact ⟨a, toOption_eq_some_iff.mp found, same⟩

theorem map_eq_ok_iff {f : α → β} : x.map f = .ok b ↔ ∃ a, x = .ok a ∧ f a = b := by
  cases x <;> simp [Except.map]

theorem bind_eq_ok_iff {f : α → Except ε β} : x >>= f = .ok b ↔ ∃ a, x = .ok a ∧ f a = .ok b := by
  cases x <;> simp [bind, Except.bind]

/-- Items have results only together. -/
theorem mapM_eq_some_iff {f : α → Option β} {items : List α} {results : List β} :
    items.mapM f = some results ↔ List.Forall₂ (fun a b => f a = some b) items results := by
  induction items generalizing results with
  | nil => cases results <;> simp
  | cons a items ih =>
    rw [List.mapM_cons]
    cases results <;> simp [Option.bind_eq_some_iff, ih]

theorem exists_of_mem_mapM {f : α → Option β} {items : List α} {results : List β}
    (found : items.mapM f = some results) (member : b ∈ results) : ∃ a ∈ items, f a = some b := by
  obtain ⟨i, bound, rfl⟩ := List.getElem_of_mem member
  obtain ⟨length, each⟩ := List.forall₂_iff_get.mp (mapM_eq_some_iff.mp found)
  have bound' : i < items.length := length ▸ bound
  exact ⟨items[i], List.getElem_mem bound', each i bound' bound⟩

end Phrasebook
