import Phrasebook.Dictionary.Basic
import Phrasebook.Proofs.Dictionary.Messages

/-!
# Writing into a dictionary

A dictionary is looked at and written to one locale at a time. A text that is put where nothing is
makes its locale grow by one value and leaves the other locales alone.
-/

namespace Phrasebook

open Json (valueAt? IsLeaf Obstructed Occupied)

namespace Dictionary

/-- The messages of a locale as one value. -/
def root (d : Dictionary) (locale : String) : Json := .object (d.messagesOf locale)

/-- A dictionary grows: no value is lost in any locale. -/
structure Grows (before after : Dictionary) : Prop where
  sourceLocale_eq : after.sourceLocale = before.sourceLocale
  roots : ∀ locale, Json.Grows (before.root locale) (after.root locale)

namespace Grows

theorem refl (d : Dictionary) : Grows d d := ⟨rfl, fun locale => .refl (d.root locale)⟩

theorem trans {a b c : Dictionary} (first : Grows a b) (second : Grows b c) : Grows a c where
  sourceLocale_eq := second.sourceLocale_eq.trans first.sourceLocale_eq
  roots := fun locale => (first.roots locale).trans (second.roots locale)

end Grows

/-- Dictionaries of the same documents, which are marked and written in the same way. -/
structure Alike (before after : Dictionary) : Prop where
  directory_eq : after.directory = before.directory
  sourceLocale_eq : after.sourceLocale = before.sourceLocale
  placeholderPrefix_eq : after.placeholderPrefix = before.placeholderPrefix
  styles_eq : after.styles = before.styles

namespace Alike

theorem refl (d : Dictionary) : Alike d d := ⟨rfl, rfl, rfl, rfl⟩

theorem trans {a b c : Dictionary} (first : Alike a b) (second : Alike b c) : Alike a c where
  directory_eq := second.directory_eq.trans first.directory_eq
  sourceLocale_eq := second.sourceLocale_eq.trans first.sourceLocale_eq
  placeholderPrefix_eq := second.placeholderPrefix_eq.trans first.placeholderPrefix_eq
  styles_eq := second.styles_eq.trans first.styles_eq

theorem symm {a b : Dictionary} (alike : Alike a b) : Alike b a :=
  ⟨alike.directory_eq.symm, alike.sourceLocale_eq.symm, alike.placeholderPrefix_eq.symm,
    alike.styles_eq.symm⟩

theorem documentPath_eq {before after : Dictionary} (alike : Alike before after) (locale : String) :
    after.documentPath locale = before.documentPath locale := by
  rw [documentPath, documentPath, alike.directory_eq]

end Alike

/-! ## Looking -/

variable (d : Dictionary) (locale key text : String)

theorem leaf?_eq_some_iff : d.leaf? locale key = some text ↔
    valueAt? (keySegments key) (d.root locale) = some (.string text) := by
  rw [leaf?, Messages.leaf?, Messages.leafAt?_eq_some_iff]
  exact and_iff_right (Messages.keySegments_ne_nil key)

theorem probe_eq_free_iff : d.probe locale key text = .free ↔
    valueAt? (keySegments key) (d.root locale) = none ∧
      ¬ Obstructed (keySegments key) (d.root locale) :=
  Messages.probeAt_eq_free_iff [] text _ (Messages.keySegments_ne_nil key) _

theorem probe_eq_same_iff : d.probe locale key text = .same ↔
    valueAt? (keySegments key) (d.root locale) = some (.string text) :=
  Messages.probeAt_eq_same_iff [] text _ (Messages.keySegments_ne_nil key) _

theorem probe_eq_different_iff (held : String) : d.probe locale key text = .different held ↔
    ∃ value, valueAt? (keySegments key) (d.root locale) = some value ∧ value.IsLeaf ∧
      value ≠ .string text ∧ value.shown = held :=
  Messages.probeAt_eq_different_iff [] text _ (Messages.keySegments_ne_nil key) _ held

theorem probe_occupied_iff :
    ((∃ held, d.probe locale key text = .different held) ∨
      ∃ place, d.probe locale key text = .blocked place) ↔
    Occupied text (keySegments key) (d.root locale) :=
  Messages.probeAt_occupied_iff [] text _ (Messages.keySegments_ne_nil key) _

theorem probe_tells :
    Messages.Tells text (keySegments key) (d.root locale) (d.probe locale key text) :=
  Messages.probeAt_tells [] text _ (Messages.keySegments_ne_nil key) _

/-- The way to a place is clear exactly if a look there is not blocked. -/
theorem clear_iff : Messages.Clear (keySegments key) (d.root locale) ↔
    ∀ place, d.probe locale key text ≠ .blocked place := by
  have tells := d.probe_tells locale key text
  cases looked : d.probe locale key text with
  | free =>
    obtain ⟨absent, way⟩ := (d.probe_eq_free_iff locale key text).mp looked
    simp [Messages.Clear, absent, way]
  | same =>
    have found := (d.probe_eq_same_iff locale key text).mp looked
    simp [Messages.Clear, found, Json.isLeaf_string, Json.not_obstructed_of_valueAt? found]
  | different held =>
    obtain ⟨value, found, leaf, -⟩ := (d.probe_eq_different_iff locale key text held).mp looked
    simp [Messages.Clear, found, leaf, Json.not_obstructed_of_valueAt? found]
  | blocked place =>
    rw [looked] at tells
    simp only [ne_eq, Probe.blocked.injEq, forall_eq', iff_false]
    rintro ⟨way, leaf⟩
    rcases tells with ⟨members, found⟩ | obstructed
    · exact Json.not_isLeaf_object members (leaf _ found)
    · exact way obstructed

/-! ## Writing -/

theorem touch_eq (other : String) :
    d.touch other = { d with dirty := (d.touch other).dirty } := by
  unfold touch
  split <;> rfl

@[simp] theorem root_touch (other : String) : (d.touch other).root locale = d.root locale := by
  unfold touch
  split <;> rfl

@[simp] theorem sourceLocale_touch (other : String) :
    (d.touch other).sourceLocale = d.sourceLocale := by
  unfold touch
  split <;> rfl

@[simp] theorem root_await (other : String) : (d.await other key).root locale = d.root locale := by
  unfold await
  split <;> rfl

@[simp] theorem sourceLocale_await (other : String) :
    (d.await other key).sourceLocale = d.sourceLocale := by
  unfold await
  split <;> rfl

@[simp] theorem sourceLocale_write : (d.write locale key text).sourceLocale = d.sourceLocale := by
  simp [write, withMessages]

theorem alike_write : Alike d (d.write locale key text) := by
  rw [write, touch_eq]
  exact ⟨rfl, rfl, rfl, rfl⟩

theorem alike_await : Alike d (d.await locale key) := by
  unfold await
  split <;> exact ⟨rfl, rfl, rfl, rfl⟩

@[simp] theorem pending_write : (d.write locale key text).pending = d.pending := by
  rw [write, touch_eq]
  rfl

theorem pending_await : d.pending ⊆ (d.await locale key).pending := by
  unfold await
  split
  · exact List.subset_append_left _ _
  · exact List.Subset.refl _

theorem root_write_self : (d.write locale key text).root locale =
    .object ((d.messagesOf locale).putAt text (keySegments key)) := by
  rw [write, root_touch, root, messagesOf, withMessages, Table.get?_put_self, Option.getD_some]
  rfl

theorem root_write_of_ne {other : String} (differs : locale ≠ other) :
    (d.write locale key text).root other = d.root other := by
  rw [write, root_touch, root, messagesOf, withMessages, Table.get?_put_of_ne differs]
  rfl

variable {d locale key} in
/-- The values of a dictionary after a text was put at the end of a clear way. -/
theorem valueAt?_write_of_clear (clear : Messages.Clear (keySegments key) (d.root locale))
    (other : String) (path : List String) (value : Json) (leaf : value.IsLeaf) :
    valueAt? path ((d.write locale key text).root other) = some value ↔
      (other, path) = (locale, keySegments key) ∧ value = .string text ∨
      (other, path) ≠ (locale, keySegments key) ∧ valueAt? path (d.root other) = some value := by
  rw [ne_eq, Prod.mk.injEq]
  by_cases same : other = locale
  · subst same
    have nonempty := Messages.keySegments_ne_nil key
    rw [root_write_self, Messages.valueAt?_putAt text _ nonempty _ clear _ _ leaf]
    simp only [true_and, ne_eq, root]
  · rw [root_write_of_ne d locale key text (Ne.symm same)]
    simp only [same, false_and, not_false_eq_true, true_and, false_or]

/-- The values of a locale that a text was put into, where nothing was. -/
theorem valueAt?_write (free : d.probe locale key text = .free) (other : String)
    (path : List String) (value : Json) (leaf : value.IsLeaf) :
    valueAt? path ((d.write locale key text).root other) = some value ↔
      valueAt? path (d.root other) = some value ∨
        other = locale ∧ path = keySegments key ∧ value = .string text := by
  have absent := ((d.probe_eq_free_iff locale key text).mp free).1
  have clear := (d.clear_iff locale key text).mpr (by simp [free])
  rw [valueAt?_write_of_clear _ clear other path value leaf]
  by_cases here : (other, path) = (locale, keySegments key)
  · -- Writing replaces what the place held, but it held nothing.
    cases here
    simp [absent]
  · have elsewhere : ¬ (other = locale ∧ path = keySegments key ∧ value = .string text) :=
      fun same => here (Prod.ext same.1 same.2.1)
    simp only [here, elsewhere, false_and, ne_eq, not_false_eq_true, true_and, false_or, or_false]

/-- A text that is put where nothing is makes the dictionary grow. -/
theorem grows_write (free : d.probe locale key text = .free) :
    Grows d (d.write locale key text) where
  sourceLocale_eq := sourceLocale_write d locale key text
  roots := fun other => by
    obtain ⟨absent, way⟩ := (d.probe_eq_free_iff locale key text).mp free
    by_cases same : other = locale
    · subst same
      rw [root_write_self]
      exact Messages.grows_putAt text _ (Messages.keySegments_ne_nil key) _ absent way
    · rw [root_write_of_ne d locale key text (Ne.symm same)]
      exact .refl _

variable {d locale key text} in
/-- What setting a text does, by what a look at the place finds. -/
theorem set_eq_ok_iff {overwrite : Bool} {changed : Dictionary} :
    d.set locale key text overwrite = .ok changed ↔
      d.probe locale key text = .same ∧ changed = d ∨
      d.probe locale key text = .free ∧ changed = (d.write locale key text).await locale key ∨
      (∃ held, d.probe locale key text = .different held) ∧ overwrite = true ∧
        changed = d.write locale key text := by
  cases looked : d.probe locale key text <;> cases overwrite <;> simp [set, looked, eq_comm]

end Dictionary

end Phrasebook
