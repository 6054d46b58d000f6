import Phrasebook.Dictionary.Propagation
import Phrasebook.Proofs.Dictionary.Writing

/-!
# Propagation writes to its targets only

A step of a propagation writes to one target. The source, even if it is named among the targets, and
the locales that are no targets keep their messages.
-/

namespace Phrasebook

namespace Propagation

variable (source target key : String) (p : Propagation)

/-- A step leaves the dictionary alone or writes one text to its target. -/
theorem step_cases : (p.step source target key).dictionary = p.dictionary ∨
    ∃ text, (p.step source target key).dictionary = p.dictionary.write target key text := by
  unfold step
  split
  next => exact Or.inl rfl
  next text held =>
    simp only
    split
    next => exact Or.inl rfl
    next => exact Or.inr ⟨_, rfl⟩
    next =>
      split
      · exact Or.inr ⟨_, rfl⟩
      · exact Or.inl rfl
    next => exact Or.inl rfl

/-- What a propagation leaves alone: the source locale's name and the messages of one locale. -/
structure Keeps (locale : String) (before after : Dictionary) : Prop where
  sourceLocale_eq : after.sourceLocale = before.sourceLocale
  root_eq : after.root locale = before.root locale

theorem keeps_step {locale : String} (differs : target ≠ locale) :
    Keeps locale p.dictionary (p.step source target key).dictionary := by
  rcases p.step_cases source target key with same | ⟨text, written⟩
  · rw [same]
    exact ⟨rfl, rfl⟩
  · rw [written]
    exact ⟨Dictionary.sourceLocale_write _ _ _ _, Dictionary.root_write_of_ne _ _ _ _ differs⟩

theorem keeps_keys {locale : String} (differs : target ≠ locale) (keys : List String) :
    Keeps locale p.dictionary
      (keys.foldl (fun p key => p.step source target key) p).dictionary := by
  induction keys generalizing p with
  | nil => exact ⟨rfl, rfl⟩
  | cons key keys ih =>
    have first := p.keeps_step source target key differs
    have rest := ih (p.step source target key)
    exact ⟨rest.sourceLocale_eq.trans first.sourceLocale_eq, rest.root_eq.trans first.root_eq⟩

theorem keeps_targets {locale : String} (targets : List String) (spared : locale ∉ targets)
    (keys : List String) : Keeps locale p.dictionary (targets.foldl
      (fun p target => keys.foldl (fun p key => p.step source target key) p) p).dictionary := by
  induction targets generalizing p with
  | nil => exact ⟨rfl, rfl⟩
  | cons target targets ih =>
    rw [List.mem_cons, not_or] at spared
    have first := p.keeps_keys source target (Ne.symm spared.1) keys
    have rest := ih (keys.foldl (fun p key => p.step source target key) p) spared.2
    exact ⟨rest.sourceLocale_eq.trans first.sourceLocale_eq, rest.root_eq.trans first.root_eq⟩

end Propagation

/-- A propagation keeps the messages of its source and of all locales that are no targets. -/
theorem Dictionary.keeps_propagate (d : Dictionary) (source : String) (targets : List String)
    (locale : String) (spared : locale = source ∨ locale ∉ targets) :
    Propagation.Keeps locale d (d.propagate source targets).dictionary := by
  refine Propagation.keeps_targets source ⟨d, .zero, []⟩ _ (fun member => ?_) d.pending
  obtain ⟨listed, other⟩ := List.mem_filter.mp member
  rcases spared with rfl | unlisted
  · simp at other
  · exact unlisted listed

end Phrasebook
