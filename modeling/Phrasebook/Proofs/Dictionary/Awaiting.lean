import Phrasebook.Proofs.Dictionary.Filling
import Phrasebook.Proofs.Key.Derivation

/-!
# Keys that wait for propagation

Each new key of the source locale is remembered once and holds a text there, whatever keys are
derived and whatever texts are put under keys. As a text holds no further values, the places of two
new keys are apart: neither way leads on from the end of the other.
-/

namespace Phrasebook

open Json (valueAt? IsLeaf Obstructed)

/-- Neither way leads on from the end of the other. -/
structure Apart (path other : List String) : Prop where
  behind : ¬ path <+: other
  before : ¬ other <+: path

namespace Apart

variable {path other : List String}

theorem left_ne_nil (apart : Apart path other) : path ≠ [] :=
  fun empty => apart.behind (empty ▸ List.nil_prefix)

theorem right_ne_nil (apart : Apart path other) : other ≠ [] :=
  fun empty => apart.before (empty ▸ List.nil_prefix)

theorem below {name : String} (apart : Apart (name :: path) (name :: other)) : Apart path other where
  behind := fun front => apart.behind (List.cons_prefix_cons.mpr ⟨rfl, front⟩)
  before := fun front => apart.before (List.cons_prefix_cons.mpr ⟨rfl, front⟩)

end Apart

namespace Messages

/-- A look starts with what its first name is bound to. -/
theorem probeAt_congr (passed : List String) (text name : String) (rest : List String)
    {messages others : Messages} (same : Table.get? name messages = Table.get? name others) :
    probeAt passed text (name :: rest) messages = probeAt passed text (name :: rest) others := by
  cases rest <;> simp only [probeAt, same]

theorem probeAt_of_get?_none (passed : List String) (text name : String) (rest : List String)
    {messages : Messages} (none : Table.get? name messages = none) :
    probeAt passed text (name :: rest) messages = .free := by
  have same : Table.get? name messages = Table.get? name ([] : Messages) := none
  rw [probeAt_congr passed text name rest same, probeAt_empty]

theorem probeAt_of_get?_object (passed : List String) (text name : String) {rest : List String}
    (proper : rest ≠ []) {messages inner : Messages}
    (found : Table.get? name messages = some (.object inner)) :
    probeAt passed text (name :: rest) messages = probeAt (passed ++ [name]) text rest inner := by
  cases rest with
  | nil => exact absurd rfl proper
  | cons next rest => simp only [probeAt, found]

/-- A text that is put at a place does not disturb a look at a place apart. -/
theorem probeAt_putAt_of_apart (put text : String) (path : List String) (messages : Messages)
    (passed other : List String) (apart : Apart path other) :
    probeAt passed text other (putAt put path messages) = probeAt passed text other messages := by
  obtain ⟨name, more, rfl⟩ := List.exists_cons_of_ne_nil apart.right_ne_nil
  -- As long as the ways are one, the look goes on below; where they part, what it looks for is
  -- bound as before.
  fun_induction putAt put path messages generalizing passed name more with
  | case1 => exact absurd rfl apart.left_ne_nil
  | case2 last messages =>
    refine probeAt_congr passed text name more (Table.get?_put_of_ne ?_ _ _)
    rintro rfl
    exact apart.below.left_ne_nil rfl
  | case3 segment rest messages proper none ih =>
    by_cases same : segment = name
    · subst same
      obtain ⟨next, others, rfl⟩ := List.exists_cons_of_ne_nil apart.below.right_ne_nil
      rw [probeAt_of_get?_object passed text segment (by simp) (Table.get?_put_self ..),
        ih _ next others apart.below, probeAt_empty, probeAt_of_get?_none passed text _ _ none]
    · exact probeAt_congr passed text name more (Table.get?_put_of_ne same _ _)
  | case4 segment rest messages proper inner found ih =>
    by_cases same : segment = name
    · subst same
      obtain ⟨next, others, rfl⟩ := List.exists_cons_of_ne_nil apart.below.right_ne_nil
      rw [probeAt_of_get?_object passed text segment (by simp) (Table.get?_put_self ..),
        ih _ next others apart.below, probeAt_of_get?_object passed text _ (by simp) found]
    · exact probeAt_congr passed text name more (Table.get?_put_of_ne same _ _)
  | case5 => rfl

end Messages

namespace Dictionary

theorem probe_write_of_apart (d : Dictionary) (target key text : String) (locale other : String)
    (look : String) (apart : target ≠ locale ∨ Apart (keySegments key) (keySegments other)) :
    (d.write target key text).probe locale other look = d.probe locale other look := by
  by_cases same : target = locale
  · subst same
    have messages : (d.write target key text).messagesOf target =
        (d.messagesOf target).putAt text (keySegments key) :=
      Json.object.inj (d.root_write_self target key text)
    rw [probe, probe, messages]
    exact Messages.probeAt_putAt_of_apart text look _ _ [] _
      (apart.resolve_left fun differs => differs rfl)
  · have messages : (d.write target key text).messagesOf locale = d.messagesOf locale :=
      Json.object.inj (d.root_write_of_ne target key text same)
    rw [probe, probe, messages]

/-! ## Keys that wait -/

/-- The new keys of a dictionary stand for places that differ, and each holds a text in a
source. -/
structure Awaits (source : String) (d : Dictionary) : Prop where
  nodup : (d.pending.map keySegments).Nodup
  held : ∀ key ∈ d.pending, ∃ text, d.leaf? source key = some text

namespace Awaits

variable {d : Dictionary} {source : String}

/-- The places of new keys are apart: where a text is, nothing is behind. -/
theorem apart (awaits : Awaits source d) {key other : String} (pending : key ∈ d.pending)
    (pending' : other ∈ d.pending) (differs : key ≠ other) :
    Apart (keySegments key) (keySegments other) := by
  have front (key other : String) (pending : key ∈ d.pending) (pending' : other ∈ d.pending)
      (differs : key ≠ other) : ¬ keySegments key <+: keySegments other := by
    rintro ⟨rest, split⟩
    obtain ⟨text, held⟩ := awaits.held key pending
    obtain ⟨behind, held'⟩ := awaits.held other pending'
    rw [leaf?_eq_some_iff] at held held'
    refine Json.not_obstructed_of_valueAt? held'
      ⟨_, rest, _, split, ?_, held, Json.isLeaf_string text⟩
    rintro rfl
    rw [List.append_nil] at split
    exact differs (List.inj_on_of_nodup_map awaits.nodup pending pending' split)
  exact ⟨front key other pending pending' differs,
    front other key pending' pending (Ne.symm differs)⟩

/-- Texts of the source may change, as long as texts stay there. -/
theorem of_texts (awaits : Awaits source d) {after : Dictionary}
    (pending : after.pending = d.pending) (texts : ∀ key text, d.leaf? source key = some text →
      ∃ now, after.leaf? source key = some now) : Awaits source after where
  nodup := pending ▸ awaits.nodup
  held := fun key member => by
    obtain ⟨text, held⟩ := awaits.held key (pending ▸ member)
    exact texts key text held

/-- A text that is put at the end of a clear way leaves texts where texts are. -/
theorem write (awaits : Awaits source d) {locale key text : String}
    (clear : Messages.Clear (keySegments key) (d.root locale)) :
    Awaits source (d.write locale key text) := by
  refine awaits.of_texts (d.pending_write locale key text) fun other held found => ?_
  rw [leaf?_eq_some_iff] at found
  simp only [leaf?_eq_some_iff, valueAt?_write_of_clear _ clear _ _ _ (Json.isLeaf_string _)]
  by_cases here : (source, keySegments other) = (locale, keySegments key)
  · exact ⟨text, Or.inl ⟨here, rfl⟩⟩
  · exact ⟨held, Or.inr ⟨here, found⟩⟩

/-- A new text of the source waits; one of another locale does not. -/
theorem write_await (awaits : Awaits d.sourceLocale d) {locale key text : String}
    (free : d.probe locale key text = .free) :
    Awaits d.sourceLocale ((d.write locale key text).await locale key) := by
  have absent := ((d.probe_eq_free_iff locale key text).mp free).1
  have written : Awaits d.sourceLocale (d.write locale key text) :=
    awaits.write ((d.clear_iff locale key text).mpr (by simp [free]))
  unfold await
  split
  next same =>
    rw [sourceLocale_write] at same
    subst same
    have held : (d.write d.sourceLocale key text).leaf? d.sourceLocale key = some text := by
      rw [leaf?_eq_some_iff, valueAt?_write _ _ _ _ free _ _ _ (Json.isLeaf_string text)]
      exact Or.inr ⟨rfl, rfl, rfl⟩
    constructor
    · rw [List.map_append, List.nodup_append]
      refine ⟨written.nodup, List.nodup_singleton _, ?_⟩
      -- The place of the new key was empty, those of the others were not.
      rintro path listed _ new rfl
      rw [List.map_singleton, List.mem_singleton] at new
      obtain ⟨other, pending, place⟩ := List.mem_map.mp listed
      obtain ⟨text', held'⟩ := awaits.held other (d.pending_write .. ▸ pending)
      rw [leaf?_eq_some_iff, place, new, absent] at held'
      cases held'
    · exact List.forall_mem_append.mpr
        ⟨written.held, List.forall_mem_singleton.mpr ⟨text, held⟩⟩
  next => exact written

/-- A call that yields a key adds it to those that wait, or finds it. -/
theorem derived (awaits : Awaits d.sourceLocale d) (call : KeyCall) {found : Derived}
    (returned : call.derive d = .ok found) : Awaits d.sourceLocale found.dictionary := by
  obtain ⟨n, place⟩ := call.derive_found d found returned
  rcases place.result with ⟨free, same⟩ | ⟨-, same⟩
  · rw [(Derivation.mk.inj same).2.2.2]
    exact awaits.write_await free
  · rw [(Derivation.mk.inj same).2.2.2]
    exact awaits

end Awaits

/-! ## Additions -/

/-- What brings texts into a dictionary. -/
inductive Addition where
  | derive (call : KeyCall)
  | set (locale key text : String) (overwrite : Bool)

namespace Addition

/-- The dictionary after an addition; one that fails leaves it alone. -/
def after (d : Dictionary) : Addition → Dictionary
  | derive call => KeyCall.after d call
  | set locale key text overwrite =>
    match d.set locale key text overwrite with
    | .ok changed => changed
    | .error _ => d

/-- The dictionary after additions. -/
def run (additions : List Addition) (d : Dictionary) : Dictionary := additions.foldl after d

theorem sourceLocale_after (d : Dictionary) (addition : Addition) :
    (addition.after d).sourceLocale = d.sourceLocale := by
  cases addition with
  | derive call => exact (KeyCall.grows_after call d).sourceLocale_eq
  | set locale key text overwrite =>
    simp only [after, Dictionary.set]
    cases d.probe locale key text <;> cases overwrite <;> simp

theorem awaits_set {d : Dictionary} (awaits : Awaits d.sourceLocale d) (locale key text : String)
    (overwrite : Bool) : Awaits d.sourceLocale ((set locale key text overwrite).after d) := by
  simp only [after, Dictionary.set]
  cases looked : d.probe locale key text with
  | same | blocked => exact awaits
  | free => exact awaits.write_await looked
  | different held =>
    cases overwrite with
    | true => exact awaits.write ((d.clear_iff locale key text).mpr (by simp [looked]))
    | false => exact awaits

theorem awaits_after {d : Dictionary} (awaits : Awaits d.sourceLocale d) (addition : Addition) :
    Awaits d.sourceLocale (addition.after d) := by
  cases addition with
  | derive call =>
    simp only [after, KeyCall.after]
    split
    next found returned => exact awaits.derived call returned
    next => exact awaits
  | set locale key text overwrite => exact awaits_set awaits locale key text overwrite

/-- Whatever is added to a dictionary without new keys, those that it gets wait. -/
theorem awaits_run (additions : List Addition) (d : Dictionary)
    (awaits : Awaits d.sourceLocale d) :
    (run additions d).sourceLocale = d.sourceLocale ∧
      Awaits d.sourceLocale (run additions d) := by
  induction additions generalizing d with
  | nil => exact ⟨rfl, awaits⟩
  | cons addition additions ih =>
    have first := addition.sourceLocale_after d
    have rest := ih (addition.after d) (first ▸ awaits_after awaits addition)
    rw [first] at rest
    exact rest

end Addition

end Dictionary

end Phrasebook
