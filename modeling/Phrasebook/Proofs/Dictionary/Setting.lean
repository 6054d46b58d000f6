import Phrasebook.Proofs.Dictionary.Awaiting

/-!
# Setting a text updates one value

A text can be put under a key if no value stands on the way, no further keys are at the place, and
what the place holds is the text already or may be replaced. Then the key holds the text, and every
other value of every locale is what it was. A text that cannot be put changes nothing.
-/

namespace Phrasebook

open Json (valueAt? IsLeaf Obstructed)

/-- What blocks a way is a value before its end or an object at its end, and its place is named. -/
theorem Messages.probeAt_eq_blocked {passed path : List String} {text place : String}
    {messages : Messages} (blocked : probeAt passed text path messages = .blocked place) :
    ∃ front rest value, front ++ rest = path ∧ place = keyOf (passed ++ front) ∧
      valueAt? front (.object messages) = some value ∧ (value.IsLeaf ↔ rest ≠ []) := by
  -- Each step that is passed on adds its name to the front of what blocks the rest.
  fun_induction probeAt passed text path messages with
  | case1 | case2 | case4 | case5 | case6 | case7 => cases blocked
  | case3 passed last messages members found =>
    cases blocked
    exact ⟨[last], [], .object members, rfl, rfl, by simp [found],
      by simp [Json.not_isLeaf_object]⟩
  | case8 passed segment rest messages proper inner found ih =>
    obtain ⟨front, behind, value, rfl, rfl, below, inTheWay⟩ := ih blocked
    exact ⟨segment :: front, behind, value, rfl, by rw [List.append_assoc, List.singleton_append],
      by rw [Json.valueAt?_cons_object, found, Option.bind_some, below], inTheWay⟩
  | case9 passed segment rest messages proper value leaf found =>
    cases blocked
    have ends : value.IsLeaf := leaf
    exact ⟨[segment], rest, value, rfl, rfl, by simp [found], iff_of_true ends proper⟩

namespace Dictionary

variable {d : Dictionary} {locale key text : String}

/-! ## Room for a text -/

/-- A key has room for a text: no value stands on the way, no further keys are at the place, and the
place is empty, holds the text already or may be overwritten. -/
structure HasRoom (d : Dictionary) (locale key text : String) (overwrite : Bool) : Prop where
  way : ¬ Obstructed (keySegments key) (d.root locale)
  place : ∀ members, valueAt? (keySegments key) (d.root locale) ≠ some (.object members)
  held : valueAt? (keySegments key) (d.root locale) = none ∨
    valueAt? (keySegments key) (d.root locale) = some (.string text) ∨ overwrite = true

/-- Why a text is turned away: a value stands on the way or further keys are at the place, which is
named, or another value is there, which is shown. -/
inductive TurnsAway (d : Dictionary) (locale key text : String) : Failure → Prop where
  | blocked (front rest : List String) (value : Json) (split : front ++ rest = keySegments key)
      (found : valueAt? front (d.root locale) = some value) (inTheWay : value.IsLeaf ↔ rest ≠ []) :
      TurnsAway d locale key text (.conflict locale key (keyOf front))
  | taken (value : Json) (leaf : value.IsLeaf) (differs : value ≠ .string text)
      (found : valueAt? (keySegments key) (d.root locale) = some value) :
      TurnsAway d locale key text (.collision locale key value.shown text)

/-! ## What is put -/

/-- One value of one locale is updated: its key holds the text, and all other values stay. -/
structure Updates (locale key text : String) (before after : Dictionary) : Prop where
  held : after.leaf? locale key = some text
  others : ∀ other path value, value.IsLeaf → (other, path) ≠ (locale, keySegments key) →
    (valueAt? path (after.root other) = some value ↔ valueAt? path (before.root other) = some value)

/-- The other texts stay with the other values. -/
theorem Updates.texts {before after : Dictionary} (updates : Updates locale key text before after)
    (other name : String) (elsewhere : (other, name) ≠ (locale, key)) :
    after.leaf? other name = before.leaf? other name := by
  have apart : (other, keySegments name) ≠ (locale, keySegments key) := fun same =>
    elsewhere (Prod.ext (Prod.mk.inj same).1 (Messages.keySegments_injective (Prod.mk.inj same).2))
  refine Option.ext fun found => ?_
  rw [leaf?_eq_some_iff, leaf?_eq_some_iff]
  exact updates.others other _ _ (Json.isLeaf_string found) apart

theorem updates_of_same (same : d.probe locale key text = .same) :
    Updates locale key text d d where
  held := (leaf?_eq_some_iff ..).mpr ((d.probe_eq_same_iff locale key text).mp same)
  others := fun _ _ _ _ _ => Iff.rfl

theorem updates_write (clear : Messages.Clear (keySegments key) (d.root locale)) :
    Updates locale key text d (d.write locale key text) where
  held := (leaf?_eq_some_iff ..).mpr <|
    (valueAt?_write_of_clear _ clear _ _ _ (Json.isLeaf_string text)).mpr (Or.inl ⟨rfl, rfl⟩)
  others := fun other path value leaf elsewhere => by
    rw [valueAt?_write_of_clear _ clear other path value leaf]
    simp only [elsewhere, false_and, ne_eq, not_false_eq_true, true_and, false_or]

/-- Remembering that a key is new changes no value. -/
theorem Updates.await {before after : Dictionary} (updates : Updates locale key text before after) :
    Updates locale key text before (after.await locale key) where
  held := by
    have held := updates.held
    rw [leaf?_eq_some_iff] at held ⊢
    rwa [root_await]
  others := fun other => by
    rw [root_await]
    exact updates.others other

/-! ## Putting a text under a key -/

/-- A key has room for a text if a look finds nothing, the text, or what may be overwritten. -/
theorem hasRoom_iff {overwrite : Bool} : d.HasRoom locale key text overwrite ↔
    d.probe locale key text = .same ∨ d.probe locale key text = .free ∨
      (∃ held, d.probe locale key text = .different held) ∧ overwrite = true := by
  have clear : d.HasRoom locale key text overwrite →
      Messages.Clear (keySegments key) (d.root locale) := fun room =>
    ⟨room.way, fun value found members same => room.place members (same ▸ found)⟩
  constructor
  · intro room
    have unblocked := (d.clear_iff locale key text).mp (clear room)
    cases looked : d.probe locale key text with
    | same => exact Or.inl rfl
    | free => exact Or.inr (Or.inl rfl)
    | blocked place => exact absurd looked (unblocked place)
    | different held =>
      obtain ⟨value, found, -, differs, -⟩ := (d.probe_eq_different_iff ..).mp looked
      -- The place holds a value other than the text, so only overwriting makes room.
      rcases room.held with absent | same | overwrites
      · rw [found] at absent
        cases absent
      · rw [found] at same
        exact absurd (Option.some.inj same) differs
      · exact Or.inr (Or.inr ⟨⟨held, rfl⟩, overwrites⟩)
  · intro found
    have unblocked : ∀ place, d.probe locale key text ≠ .blocked place := by
      rintro place blocked
      rw [blocked] at found
      simp at found
    obtain ⟨way, leaf⟩ := (d.clear_iff locale key text).mpr unblocked
    refine ⟨way, fun members here => Json.not_isLeaf_object members (leaf _ here), ?_⟩
    rcases found with same | free | ⟨-, overwrites⟩
    · exact Or.inr (Or.inl ((d.probe_eq_same_iff ..).mp same))
    · exact Or.inl ((d.probe_eq_free_iff ..).mp free).1
    · exact Or.inr (Or.inr overwrites)

theorem updates_of_set {overwrite : Bool} {changed : Dictionary}
    (returned : d.set locale key text overwrite = .ok changed) :
    Updates locale key text d changed := by
  rcases set_eq_ok_iff.mp returned with ⟨same, rfl⟩ | ⟨free, rfl⟩ | ⟨⟨held, different⟩, -, rfl⟩
  · exact updates_of_same same
  · exact (updates_write ((d.clear_iff locale key text).mpr (by simp [free]))).await
  · exact updates_write ((d.clear_iff locale key text).mpr (by simp [different]))

/-- A key waits if its text is new and one of the source locale. -/
theorem pending_of_set {overwrite : Bool} {changed : Dictionary}
    (returned : d.set locale key text overwrite = .ok changed) :
    (valueAt? (keySegments key) (d.root locale) = none ∧ locale = d.sourceLocale →
      changed.pending = d.pending ++ [key]) ∧
    (¬ (valueAt? (keySegments key) (d.root locale) = none ∧ locale = d.sourceLocale) →
      changed.pending = d.pending) := by
  rcases set_eq_ok_iff.mp returned with ⟨same, rfl⟩ | ⟨free, rfl⟩ | ⟨⟨held, different⟩, -, rfl⟩
  · have found := (changed.probe_eq_same_iff locale key text).mp same
    simp [found]
  · have absent := ((d.probe_eq_free_iff locale key text).mp free).1
    by_cases source : locale = d.sourceLocale
    · subst source
      simp [await, absent]
    · simp [await, source]
  · obtain ⟨value, found, -⟩ := (d.probe_eq_different_iff ..).mp different
    simp [found]

theorem turnsAway_of_set {overwrite : Bool} {failure : Failure}
    (returned : d.set locale key text overwrite = .error failure) :
    d.TurnsAway locale key text failure := by
  unfold set at returned
  split at returned
  next => cases returned
  next => cases returned
  next held different =>
    obtain ⟨value, found, leaf, differs, rfl⟩ := (d.probe_eq_different_iff ..).mp different
    split at returned
    next => cases returned
    next =>
      cases returned
      exact .taken value leaf differs found
  next place blocked =>
    cases returned
    obtain ⟨front, rest, value, split, rfl, found, inTheWay⟩ := Messages.probeAt_eq_blocked blocked
    exact .blocked front rest value split found inTheWay

/-- Setting a text succeeds exactly if the key has room for it. Then the key holds the text and all
other values stay, and the key waits from then on if it is a new one of the source locale. If it
fails, something is in the way or another value is there, and the dictionary stays as it was. -/
theorem set_updates (d : Dictionary) (locale key text : String) (overwrite : Bool) :
    ((∃ changed, d.set locale key text overwrite = .ok changed) ↔
      d.HasRoom locale key text overwrite) ∧
    (∀ changed, d.set locale key text overwrite = .ok changed →
      Updates locale key text d changed ∧
      (∀ other name, (other, name) ≠ (locale, key) →
        changed.leaf? other name = d.leaf? other name) ∧
      (valueAt? (keySegments key) (d.root locale) = none ∧ locale = d.sourceLocale →
        changed.pending = d.pending ++ [key]) ∧
      (¬ (valueAt? (keySegments key) (d.root locale) = none ∧ locale = d.sourceLocale) →
        changed.pending = d.pending)) ∧
    ∀ failure, d.set locale key text overwrite = .error failure →
      d.TurnsAway locale key text failure ∧
      (Addition.set locale key text overwrite).after d = d := by
  refine ⟨?_, fun changed returned => ?_, fun failure returned => ?_⟩
  · rw [hasRoom_iff]
    simp only [set_eq_ok_iff, exists_or, exists_and_left, exists_eq, and_true]
  · have updates := updates_of_set returned
    exact ⟨updates, updates.texts, pending_of_set returned⟩
  · refine ⟨turnsAway_of_set returned, ?_⟩
    rw [Addition.after, returned]

end Dictionary

end Phrasebook
