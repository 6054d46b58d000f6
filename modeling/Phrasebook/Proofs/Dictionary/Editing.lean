import Phrasebook.Proofs.Json.Reals
import Phrasebook.Proofs.Json.Values
import Phrasebook.Proofs.Key.Stability

/-!
# Editing keeps texts

Between loading and flushing a dictionary is edited: keys are derived, texts are put under keys, and
new keys are propagated. Edits replace no text but placeholders in the targets of a propagation, and
with keys that are short enough the messages can still be written and read.
-/

namespace Phrasebook

open Json (Fits IsRegular deepest valueAt?)

/-! ## Trees -/

namespace Messages

/-- A text that is put at the end of a short way leaves a tree that fits. -/
theorem fits_putAt {kind : JsonNumber → Prop} (text : String) (path : List String)
    (nonempty : path ≠ []) {depth : Nat} (short : path.length ≤ depth) {messages : Messages}
    (fits : Fits kind depth (.object messages)) :
    Fits kind depth (.object (putAt text path messages)) := by
  -- A name that is bound anew, with the rest of the way one level below.
  have bound {depth : Nat} {segment : String} {value : Json} {messages : Messages}
      (fits : Fits kind (depth + 1) (.object messages)) (below : Fits kind depth value) :
      Fits kind (depth + 1) (.object (Table.put segment value messages)) := by
    cases fits with
    | object _ _ ordered inside =>
      refine .object depth _ (ordered.put segment value) fun member known => ?_
      rcases Table.mem_put known with rfl | old
      · exact below
      · exact inside member old
  obtain ⟨depth, rfl⟩ : ∃ less, depth = less + 1 := by
    cases fits with
    | object less => exact ⟨less, rfl⟩
  fun_induction putAt text path messages generalizing depth with
  | case1 => exact absurd rfl nonempty
  | case2 last messages => exact bound fits (.string depth text)
  | case3 segment rest messages proper found ih =>
    have enough : 1 ≤ depth := by
      have := List.length_pos_iff.mpr proper
      rw [List.length_cons] at short
      omega
    obtain ⟨less, rfl⟩ : ∃ less, depth = less + 1 := ⟨depth - 1, by omega⟩
    exact bound fits (ih proper less (by simpa using short)
      (.object less [] .nil (List.forall_mem_nil _)))
  | case4 segment rest messages proper inner found ih =>
    have below : Fits kind depth (.object inner) := by
      cases fits with
      | object _ _ _ inside => exact inside _ (Table.mem_of_get? found)
    obtain ⟨less, rfl⟩ : ∃ less, depth = less + 1 := by
      cases below with
      | object less => exact ⟨less, rfl⟩
    exact bound fits (ih proper less (by simpa using short) below)
  | case5 segment rest messages proper blocking blocked found => exact fits

end Messages

/-! ## Keys -/

theorem length_keySegments (key : String) :
    (keySegments key).length = key.toList.countP (· == '.') + 1 := by
  rw [keySegments, List.length_map, Text.length_splitBy]

/-- A number behind a key adds no segment. -/
theorem length_keySegments_suffixed (base : String) (n : Nat) :
    (keySegments (Key.suffixed base n)).length = (keySegments base).length := by
  unfold Key.suffixed
  split
  · rfl
  · have digits : (toString n).toList.countP (· == '.') = 0 := by
      rw [List.countP_eq_zero]
      intro c member same
      rw [Nat.toString_eq_ofList_toDigits, String.toList_ofList] at member
      have digit := Nat.isDigit_of_mem_toDigits (by decide) (by decide) member
      rw [eq_of_beq same] at digit
      cases digit
    have mark : "_".toList.countP (· == '.') = 0 := rfl
    rw [length_keySegments, length_keySegments, String.toList_append, String.toList_append,
      List.countP_append, List.countP_append, mark, digits]

/-! ## One write -/

/-- Messages that can be written and read again, with new keys that lead no deeper. -/
structure Dictionary.IsReadable (d : Dictionary) : Prop where
  roots : ∀ locale, Fits IsRegular deepest (d.root locale)
  pending : ∀ key ∈ d.pending, (keySegments key).length ≤ deepest

/-- What edits keep: where documents are and how they are written, and all texts that are spared.
The messages can be written and read again. -/
structure Dictionary.Kept (spared : String → String → Prop) (before after : Dictionary) : Prop where
  directory_eq : after.directory = before.directory
  placeholderPrefix_eq : after.placeholderPrefix = before.placeholderPrefix
  styles_eq : after.styles = before.styles
  readable : after.IsReadable
  texts : ∀ locale path text, spared locale text →
    valueAt? path (before.root locale) = some (.string text) →
      valueAt? path (after.root locale) = some (.string text)

namespace Dictionary

variable {spared : String → String → Prop}

theorem Kept.refl {d : Dictionary} (readable : d.IsReadable) : Kept spared d d :=
  ⟨rfl, rfl, rfl, readable, fun _ _ _ _ held => held⟩

theorem Kept.trans {a b c : Dictionary} (first : Kept spared a b) (second : Kept spared b c) :
    Kept spared a c where
  directory_eq := second.directory_eq.trans first.directory_eq
  placeholderPrefix_eq := second.placeholderPrefix_eq.trans first.placeholderPrefix_eq
  styles_eq := second.styles_eq.trans first.styles_eq
  readable := second.readable
  texts := fun locale path text spares held =>
    second.texts locale path text spares (first.texts locale path text spares held)

section

variable {d : Dictionary} (readable : d.IsReadable) {locale key text : String}
  (short : (keySegments key).length ≤ deepest)

include readable short

/-- A text is put in a place that is clear, but not in that of a text that is spared. -/
theorem kept_write (clear : Messages.Clear (keySegments key) (d.root locale))
    (free : ∀ held, valueAt? (keySegments key) (d.root locale) = some (.string held) →
      ¬ spared locale held) : Kept spared d (d.write locale key text) where
  directory_eq := (d.alike_write ..).directory_eq
  placeholderPrefix_eq := (d.alike_write ..).placeholderPrefix_eq
  styles_eq := (d.alike_write ..).styles_eq
  readable := by
    refine ⟨fun other => ?_, by rw [pending_write]; exact readable.pending⟩
    by_cases same : other = locale
    · subst same
      rw [root_write_self]
      exact Messages.fits_putAt text _ (Messages.keySegments_ne_nil key) short
        (readable.roots other)
    · rw [root_write_of_ne d locale key text (Ne.symm same)]
      exact readable.roots other
  texts := fun other path held spares found => by
    have elsewhere : (other, path) ≠ (locale, keySegments key) := by
      rintro ⟨⟩
      exact free held found spares
    exact (valueAt?_write_of_clear _ clear _ _ _ (Json.isLeaf_string held)).mpr
      (Or.inr ⟨elsewhere, found⟩)

theorem kept_write_of_free (free : d.probe locale key text = .free) :
    Kept spared d (d.write locale key text) := by
  have absent := ((d.probe_eq_free_iff locale key text).mp free).1
  have clear := (d.clear_iff locale key text).mpr (by simp [free])
  exact kept_write readable short clear (by simp [absent])

/-- Another text gives way only if it is not spared. -/
theorem kept_write_of_different {held : String}
    (different : d.probe locale key text = .different held)
    (free : ¬ spared locale held) : Kept spared d (d.write locale key text) := by
  obtain ⟨value, found, -, -, shown⟩ := (d.probe_eq_different_iff ..).mp different
  have clear := (d.clear_iff locale key text).mpr (by simp [different])
  refine kept_write readable short clear fun other here => ?_
  -- A text is shown as it is.
  rw [found, Option.some.injEq] at here
  rw [here, Json.shown] at shown
  exact shown ▸ free

theorem kept_await : Kept spared d (d.await locale key) := by
  unfold await
  split
  next =>
    refine ⟨rfl, rfl, rfl, ⟨readable.roots, ?_⟩, fun _ _ _ _ held => held⟩
    exact List.forall_mem_append.mpr ⟨readable.pending, List.forall_mem_singleton.mpr short⟩
  next => exact .refl readable

end

/-! ## Edits -/

/-- A new key of the source locale. -/
theorem kept_withNew {d : Dictionary} (readable : d.IsReadable) {key text : String}
    (short : (keySegments key).length ≤ deepest)
    (free : d.probe d.sourceLocale key text = .free) : Kept spared d (d.withNew key text) := by
  have written : Kept spared d (d.write d.sourceLocale key text) :=
    kept_write_of_free readable short free
  exact written.trans (kept_await written.readable short)

end Dictionary

open Dictionary (Kept)

theorem Propagation.kept_step {spared : String → String → Prop} {source target key : String}
    {p : Propagation} (readable : p.dictionary.IsReadable)
    (short : (keySegments key).length ≤ deepest)
    (free : ∀ held, held.startsWith p.dictionary.placeholderPrefix = true → ¬ spared target held) :
    Kept spared p.dictionary (p.step source target key).dictionary := by
  unfold step
  split
  next => exact .refl readable
  next text held =>
    dsimp only
    split
    next => exact .refl readable
    next looked => exact Dictionary.kept_write_of_free readable short looked
    next other looked =>
      split
      next marked =>
        exact Dictionary.kept_write_of_different readable short looked (free other marked)
      next => exact .refl readable
    next => exact .refl readable

/-- A propagation replaces placeholders of its targets only. -/
theorem Dictionary.kept_propagate {spared : String → String → Prop} {d : Dictionary}
    (readable : d.IsReadable) {source : String} {targets : List String}
    (free : ∀ target ∈ targets, target ≠ source → ∀ held,
      held.startsWith d.placeholderPrefix = true → ¬ spared target held) :
    Kept spared d (d.propagate source targets).dictionary := by
  unfold propagate
  refine List.foldlRecOn (motive := fun (p : Propagation) => Kept spared d p.dictionary) _ _
    (.refl readable) fun p kept target listed => ?_
  obtain ⟨listed, other⟩ := List.mem_filter.mp listed
  refine List.foldlRecOn (motive := fun (p : Propagation) => Kept spared d p.dictionary) _ _ kept
    fun p kept key known => ?_
  refine kept.trans (Propagation.kept_step kept.readable (readable.pending key known) ?_)
  rw [kept.placeholderPrefix_eq]
  exact free target listed (by simpa using other)

/-- What can happen to a dictionary between loading and flushing. -/
inductive Dictionary.Edit where
  | key (operation : KeyOperation)
  /-- A text is put under a key, in the place of no other. -/
  | set (locale name text : String)

namespace Dictionary.Edit

/-- The dictionary after an edit; a text that cannot be put anywhere leaves it alone. -/
def after (d : Dictionary) : Edit → Dictionary
  | key operation => operation.after d
  | set locale name text =>
    match d.set locale name text false with
    | .ok changed => changed
    | .error _ => d

def run (edits : List Edit) (d : Dictionary) : Dictionary := edits.foldl after d

theorem run_derive (call : KeyCall) (d : Dictionary) :
    run [key (.derive call)] d = KeyCall.after d call := by
  simp only [run, List.foldl, after, KeyOperation.after]

/-- The keys that an edit writes to have no more names than objects of a document can nest. -/
def IsShort : Edit → Prop
  | key (.derive call) => (keySegments call.base).length ≤ deepest
  | key (.propagate _ _) => True
  | set _ name _ => (keySegments name).length ≤ deepest

/-- An edit propagates from another locale to this one. -/
def Targets (locale : String) : Edit → Prop
  | key (.propagate source targets) => locale ∈ targets ∧ locale ≠ source
  | _ => False

theorem kept_derive {spared : String → String → Prop} {d : Dictionary} (readable : d.IsReadable)
    {call : KeyCall} (short : (keySegments call.base).length ≤ deepest) :
    Kept spared d (KeyCall.after d call) := by
  rcases call.after_cases d with same | ⟨n, looked, same⟩ <;> rw [same]
  · exact .refl readable
  · have long := length_keySegments_suffixed call.base n
    exact Dictionary.kept_withNew readable (Nat.le_trans (Nat.le_of_eq long) short) looked

theorem kept_set {spared : String → String → Prop} {d : Dictionary} (readable : d.IsReadable)
    {locale name text : String} (short : (keySegments name).length ≤ deepest) {changed : Dictionary}
    (returned : d.set locale name text false = .ok changed) : Kept spared d changed := by
  rcases Dictionary.set_eq_ok_iff.mp returned with ⟨-, rfl⟩ | ⟨free, rfl⟩ | ⟨-, overwrites, -⟩
  · exact .refl readable
  · have written : Kept spared d (d.write locale name text) :=
      Dictionary.kept_write_of_free readable short free
    exact written.trans (Dictionary.kept_await written.readable short)
  · cases overwrites

theorem kept_after {spared : String → String → Prop} {d : Dictionary} (readable : d.IsReadable)
    {edit : Edit} (short : edit.IsShort) (free : ∀ locale held,
      held.startsWith d.placeholderPrefix = true → edit.Targets locale → ¬ spared locale held) :
    Kept spared d (edit.after d) := by
  cases edit with
  | key operation =>
    cases operation with
    | derive call =>
      simp only [IsShort] at short
      simp only [after, KeyOperation.after]
      exact kept_derive readable short
    | propagate source targets =>
      simp only [after, KeyOperation.after]
      simp only [Targets] at free
      exact Dictionary.kept_propagate readable fun target listed other held marked =>
        free target held marked ⟨listed, other⟩
  | set locale name text =>
    simp only [IsShort] at short
    cases returned : d.set locale name text false with
    | ok changed =>
      rw [after, returned]
      exact kept_set readable short returned
    | error failure =>
      rw [after, returned]
      exact .refl readable

/-- Edits keep all texts but placeholders in the targets of a propagation. -/
theorem kept_run {d : Dictionary} (readable : d.IsReadable) (edits : List Edit)
    (short : ∀ edit ∈ edits, edit.IsShort) :
    Kept (fun locale text => text.startsWith d.placeholderPrefix = true →
      ∀ edit ∈ edits, ¬ edit.Targets locale) d (run edits d) := by
  refine List.foldlRecOn (motive := Kept _ d) edits after (.refl readable)
    fun now kept edit known => ?_
  refine kept.trans
    (kept_after kept.readable (short edit known) fun locale held marked targets => ?_)
  rw [kept.placeholderPrefix_eq] at marked
  exact fun spares => spares marked edit known targets

end Dictionary.Edit

end Phrasebook
