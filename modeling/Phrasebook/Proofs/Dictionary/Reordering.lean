import Phrasebook.Proofs.Dictionary.Remembering
import Phrasebook.Proofs.Dictionary.Setting
import Phrasebook.Proofs.Table

/-!
# The order of new texts does not matter

Texts are put under keys one after the other, and none replaces another. Whether the next one can
be put depends on the objects that earlier ones made on their ways; still, if all can be put in one
order, they can in any, and the messages are the same in the end. Only what is remembered in a list,
the keys that wait and the locales that are dirty, may stand in another order.

The argument is that of two neighbours changing places: a place that is empty after the first text
was put was empty before, and the first text finds its own place empty behind the second.
-/

namespace Phrasebook

open Json (valueAt? IsLeaf Obstructed)

/-! ## Trees -/

namespace Json

/-- Nothing is at the end of a way, and nothing stands on it. -/
def Vacant (path : List String) (root : Json) : Prop :=
  valueAt? path root = none ∧ ¬ Obstructed path root

theorem not_vacant_nil (root : Json) : ¬ Vacant [] root := by simp [Vacant]

theorem vacant_cons_object {name : String} {rest : List String} {members : List (String × Json)} :
    Vacant (name :: rest) (.object members) ↔
      ∀ value, Table.get? name members = some value → Vacant rest value := by
  cases found : Table.get? name members <;> simp [Vacant, obstructed_cons_object, found]

theorem not_vacant_of_isLeaf {value : Json} (leaf : value.IsLeaf) (path : List String) :
    ¬ Vacant path value := by
  rintro ⟨absent, way⟩
  rw [obstructed_of_isLeaf leaf, not_not] at way
  subst way
  simp at absent

theorem vacant_empty {path : List String} (nonempty : path ≠ []) : Vacant path (.object []) := by
  cases path with
  | nil => exact absurd rfl nonempty
  | cons name rest => exact vacant_cons_object.mpr fun value found => by cases found

/-- A place that is empty once a tree has grown was empty before. -/
theorem Grows.vacant {before after : Json} (grows : Grows before after) {path : List String}
    (vacant : Vacant path after) : Vacant path before := by
  refine ⟨Option.eq_none_iff_forall_ne_some.mpr fun value found => ?_, ?_⟩
  · rcases value.isLeaf_or_object with leaf | ⟨members, rfl⟩
    · exact absurd (vacant.1.symm.trans (grows.leaves path value found leaf)) nofun
    · obtain ⟨more, found⟩ := grows.objects path members found
      exact absurd (vacant.1.symm.trans found) nofun
  · rintro ⟨front, rest, value, split, more, found, leaf⟩
    exact vacant.2 ⟨front, rest, value, split, more, grows.leaves front value found leaf, leaf⟩

end Json

open Json (Vacant)

namespace Messages

/-- What a name is bound to once a text is put at the end of a way through it. -/
def bound (text : String) (rest : List String) (old : Option Json) : Json :=
  if rest = [] then .string text else .object (putAt text rest ((old.bind Json.object?).getD []))

theorem bound_of_ne {rest : List String} (proper : rest ≠ []) (text : String) (old : Option Json) :
    bound text rest old = .object (putAt text rest ((old.bind Json.object?).getD [])) :=
  if_neg proper

/-- Putting a text binds the first name of its way, unless a value stands there. -/
theorem putAt_cons {text segment : String} {rest : List String} {messages : Messages}
    (way : ∀ value, Table.get? segment messages = some value →
      rest = [] ∨ ∃ inner, value = .object inner) :
    putAt text (segment :: rest) messages =
      Table.put segment (bound text rest (Table.get? segment messages)) messages := by
  cases rest with
  | nil => rfl
  | cons name more =>
    have proper := List.cons_ne_nil name more
    rw [putAt, bound_of_ne proper]
    · cases found : Table.get? segment messages with
      | none => rfl
      | some value =>
        obtain ⟨inner, rfl⟩ := (way value found).resolve_left proper
        rfl
    · exact proper

/-- Where an empty place lies below a name, the name is bound to nothing or to an object. -/
private theorem way_of_vacant {segment : String} {rest : List String} {messages : Messages}
    (vacant : Vacant (segment :: rest) (.object messages)) :
    ∀ value, Table.get? segment messages = some value →
      rest = [] ∨ ∃ inner, value = .object inner := by
  intro value found
  have below := Json.vacant_cons_object.mp vacant value found
  rcases value.isLeaf_or_object with leaf | object
  · exact absurd below (Json.not_vacant_of_isLeaf leaf rest)
  · exact Or.inr object

/-- A text finds its place empty behind another text too, and it does not matter which is put
first. -/
def Swaps (text other : String) (path way : List String) (messages : Messages) : Prop :=
  Vacant path (.object (putAt other way messages)) ∧
    putAt other way (putAt text path messages) = putAt text path (putAt other way messages)

section

variable {text other name : String} {rest more : List String} {messages : Messages}

/-- Ways that part at their first names. -/
private theorem swaps_apart {segment : String} (differs : name ≠ segment)
    (first : Vacant (segment :: rest) (.object messages))
    (second : Vacant (name :: more) (.object (putAt text (segment :: rest) messages))) :
    Swaps text other (segment :: rest) (name :: more) messages := by
  rw [Swaps, putAt_cons (way_of_vacant first)] at *
  -- Each text leaves the other's name as it was.
  have untouched (new : Json) := Table.get?_put_of_ne (Ne.symm differs) new messages
  have untouched' (new : Json) := Table.get?_put_of_ne differs new messages
  have alone : Vacant (name :: more) (.object messages) := by
    rwa [Json.vacant_cons_object, untouched, ← Json.vacant_cons_object] at second
  rw [putAt_cons (way_of_vacant alone)]
  have vacant : Vacant (segment :: rest) (.object
      (Table.put name (bound other more (Table.get? name messages)) messages)) := by
    rwa [Json.vacant_cons_object, untouched', ← Json.vacant_cons_object]
  refine ⟨vacant, ?_⟩
  rw [putAt_cons (way_of_vacant second), putAt_cons (way_of_vacant vacant), untouched, untouched',
    Table.put_comm differs]

/-- Ways through one name, below which the texts can change places. -/
private theorem swaps_below (first : Vacant (name :: rest) (.object messages))
    (second : Vacant (name :: more) (.object (putAt text (name :: rest) messages)))
    (below : ∀ inner : Messages, Vacant rest (.object inner) →
      Vacant more (.object (putAt text rest inner)) → Swaps text other rest more inner) :
    Swaps text other (name :: rest) (name :: more) messages := by
  rw [Swaps, putAt_cons (way_of_vacant first)] at *
  -- The first text leaves the name bound to an object, as the second finds its place below it.
  have behind := Json.vacant_cons_object.mp second _ (Table.get?_put_self ..)
  have proper : rest ≠ [] := by
    rintro rfl
    exact Json.not_vacant_of_isLeaf (Json.isLeaf_string text) more behind
  rw [bound_of_ne proper] at behind second ⊢
  have further : more ≠ [] := by
    rintro rfl
    exact Json.not_vacant_nil _ behind
  have inside : Vacant rest (.object (((Table.get? name messages).bind Json.object?).getD [])) := by
    cases found : Table.get? name messages with
    | none => exact Json.vacant_empty proper
    | some value =>
      obtain ⟨inner, rfl⟩ := (way_of_vacant first value found).resolve_left proper
      exact Json.vacant_cons_object.mp first _ found
  obtain ⟨again, swapped⟩ := below _ inside behind
  -- So the second text alone leaves it bound to an object too, and the first goes below that.
  have alone : putAt other (name :: more) messages =
      Table.put name (bound other more (Table.get? name messages)) messages :=
    putAt_cons fun value found => Or.inr ((way_of_vacant first value found).resolve_left proper)
  have vacant : Vacant (name :: rest) (.object (putAt other (name :: more) messages)) := by
    rw [alone, bound_of_ne further, Json.vacant_cons_object, Table.get?_put_self]
    rintro - ⟨⟩
    exact again
  refine ⟨vacant, ?_⟩
  rw [putAt_cons (way_of_vacant second), putAt_cons (way_of_vacant vacant), alone,
    bound_of_ne further, bound_of_ne further, bound_of_ne proper, Table.get?_put_self,
    Table.get?_put_self, Table.put_put_self, Table.put_put_self]
  exact congrArg (fun inner => Table.put name (.object inner) messages) swapped

end

/-- Of two texts that are put one after the other, each where nothing is, either can be first. -/
theorem swaps_of_vacant (text other : String) (path way : List String) (messages : Messages)
    (first : Vacant path (.object messages))
    (second : Vacant way (.object (putAt text path messages))) :
    Swaps text other path way messages := by
  -- As long as the ways are one, the texts change places below its names; where the ways part, they
  -- change places in one object, under two names.
  induction path generalizing way messages with
  | nil => exact absurd first (Json.not_vacant_nil _)
  | cons segment rest ih =>
    cases way with
    | nil => exact absurd second (Json.not_vacant_nil _)
    | cons name more =>
      by_cases same : name = segment
      · subst same
        exact swaps_below first second fun inner => ih more inner
      · exact swaps_apart same first second

end Messages

/-! ## Dictionaries -/

/-- A text to be put under a key of a locale. -/
structure Placement where
  locale : String
  key : String
  text : String
  deriving DecidableEq

attribute [ext] Placement

namespace Dictionary

/-- Puts a text under its key, in the place of no other. -/
def placeOne (d : Dictionary) (p : Placement) : Except Failure Dictionary :=
  d.set p.locale p.key p.text false

/-- Puts texts under their keys, one after the other, up to the first that is turned away. -/
def placeAll (d : Dictionary) (placements : List Placement) : Except Failure Dictionary :=
  placements.foldlM placeOne d

/-- The dictionary with a text where nothing was. -/
def added (d : Dictionary) (p : Placement) : Dictionary :=
  (d.write p.locale p.key p.text).await p.locale p.key

/-- Dictionaries with the same messages, which may have remembered in another order what has
changed and what is new. -/
structure Agrees (a b : Dictionary) : Prop where
  alike : Alike a b
  messages_eq : b.messages = a.messages
  dirty : ∀ locale, b.isDirty locale = a.isDirty locale
  pending : b.pending.Perm a.pending

/-! ### One text -/

section

variable (d : Dictionary) (p : Placement)

theorem alike_added : Alike d (d.added p) := (d.alike_write ..).trans (alike_await ..)

theorem messages_added : (d.added p).messages = Table.put p.locale
    ((d.messagesOf p.locale).putAt p.text (keySegments p.key)) d.messages := by
  have awaited (d : Dictionary) : (d.await p.locale p.key).messages = d.messages := by
    unfold await
    split <;> rfl
  rw [added, awaited, write, touch_eq]
  rfl

theorem messagesOf_added_self : (d.added p).messagesOf p.locale =
    (d.messagesOf p.locale).putAt p.text (keySegments p.key) := by
  rw [messagesOf, messages_added, Table.get?_put_self, Option.getD_some]

theorem messagesOf_added_of_ne {locale : String} (differs : p.locale ≠ locale) :
    (d.added p).messagesOf locale = d.messagesOf locale := by
  rw [messagesOf, messages_added, Table.get?_put_of_ne differs, messagesOf]

theorem isDirty_added (locale : String) :
    (d.added p).isDirty locale = (d.isDirty locale || locale == p.locale) := by
  have awaited (d : Dictionary) : (d.await p.locale p.key).dirty = d.dirty := by
    unfold await
    split <;> rfl
  rw [added, isDirty, awaited]
  exact isDirty_touch _ p.locale locale

theorem pending_added : (d.added p).pending =
    if p.locale = d.sourceLocale then d.pending ++ [p.key] else d.pending := by
  rw [added, await, sourceLocale_write]
  split
  next => simp only [pending_write]
  next => exact pending_write ..

theorem root_added (locale : String) :
    (d.added p).root locale = (d.write p.locale p.key p.text).root locale := root_await ..

variable {d p}

theorem placeAll_cons {placements : List Placement} {after : Dictionary} :
    d.placeAll (p :: placements) = .ok after ↔
      ∃ next, d.placeOne p = .ok next ∧ next.placeAll placements = .ok after := by
  rw [placeAll, List.foldlM_cons]
  cases placed : d.placeOne p with
  | error failure => simp [bind, Except.bind]
  | ok next => simp [bind, Except.bind, placeAll]

/-- A text can be put under a key that holds it already, or where nothing is. -/
theorem placeOne_eq_ok_iff {changed : Dictionary} : d.placeOne p = .ok changed ↔
    valueAt? (keySegments p.key) (d.root p.locale) = some (.string p.text) ∧ changed = d ∨
    Vacant (keySegments p.key) (d.root p.locale) ∧ changed = d.added p := by
  rw [placeOne, set_eq_ok_iff, probe_eq_same_iff, probe_eq_free_iff]
  simp only [Bool.false_eq_true, false_and, and_false, or_false]
  rfl

end

namespace Agrees

variable {a b c : Dictionary}

theorem refl (d : Dictionary) : Agrees d d := ⟨.refl d, rfl, fun _ => rfl, .refl _⟩

theorem trans (first : Agrees a b) (second : Agrees b c) : Agrees a c where
  alike := first.alike.trans second.alike
  messages_eq := second.messages_eq.trans first.messages_eq
  dirty := fun locale => (second.dirty locale).trans (first.dirty locale)
  pending := second.pending.trans first.pending

theorem messagesOf_eq (agrees : Agrees a b) (locale : String) :
    b.messagesOf locale = a.messagesOf locale := by
  rw [messagesOf, messagesOf, agrees.messages_eq]

theorem root_eq (agrees : Agrees a b) (locale : String) : b.root locale = a.root locale := by
  rw [root, root, agrees.messagesOf_eq]

theorem render_eq (agrees : Agrees a b) (locale : String) : b.render locale = a.render locale := by
  rw [render, render, agrees.messagesOf_eq, agrees.alike.styles_eq]

theorem added (agrees : Agrees a b) (p : Placement) : Agrees (a.added p) (b.added p) where
  alike := (a.alike_added p).symm.trans (agrees.alike.trans (b.alike_added p))
  messages_eq := by
    rw [messages_added, messages_added, agrees.messagesOf_eq, agrees.messages_eq]
  dirty := fun locale => by rw [isDirty_added, isDirty_added, agrees.dirty]
  pending := by
    rw [pending_added, pending_added, agrees.alike.sourceLocale_eq]
    split
    next => exact agrees.pending.append_right _
    next => exact agrees.pending

/-- Where a text can be put it can be put as well in a dictionary that agrees. -/
theorem placeOne (agrees : Agrees a b) {p : Placement} (placed : a.placeOne p = .ok c) :
    ∃ other, b.placeOne p = .ok other ∧ Agrees c other := by
  rcases placeOne_eq_ok_iff.mp placed with ⟨held, rfl⟩ | ⟨vacant, rfl⟩
  · exact ⟨b, placeOne_eq_ok_iff.mpr (Or.inl ⟨agrees.root_eq _ ▸ held, rfl⟩), agrees⟩
  · exact ⟨b.added p, placeOne_eq_ok_iff.mpr (Or.inr ⟨agrees.root_eq _ ▸ vacant, rfl⟩),
      agrees.added p⟩

theorem placeAll (agrees : Agrees a b) {placements : List Placement}
    (placed : a.placeAll placements = .ok c) :
    ∃ other, b.placeAll placements = .ok other ∧ Agrees c other := by
  induction placements generalizing a b with
  | nil =>
    cases placed
    exact ⟨b, rfl, agrees⟩
  | cons p placements ih =>
    obtain ⟨next, first, rest⟩ := placeAll_cons.mp placed
    obtain ⟨next', first', agrees⟩ := agrees.placeOne first
    obtain ⟨other, rest', agrees⟩ := ih agrees rest
    exact ⟨other, placeAll_cons.mpr ⟨next', first', rest'⟩, agrees⟩

end Agrees

/-! ### Two neighbours -/

section

variable {d : Dictionary} {p q : Placement}

theorem grows_added (vacant : Vacant (keySegments p.key) (d.root p.locale)) :
    Grows d (d.added p) := by
  have grows := d.grows_write p.locale p.key p.text ((d.probe_eq_free_iff ..).mpr vacant)
  exact ⟨(d.alike_added p).sourceLocale_eq, fun locale =>
    root_added d p locale ▸ grows.roots locale⟩

theorem grows_of_placeOne {changed : Dictionary} (placed : d.placeOne p = .ok changed) :
    Grows d changed := by
  rcases placeOne_eq_ok_iff.mp placed with ⟨-, rfl⟩ | ⟨vacant, rfl⟩
  · exact .refl changed
  · exact grows_added vacant

/-- Two texts that are put where nothing is can change places. -/
theorem added_swap (first : Vacant (keySegments p.key) (d.root p.locale))
    (second : Vacant (keySegments q.key) ((d.added p).root q.locale)) :
    Vacant (keySegments q.key) (d.root q.locale) ∧
      Vacant (keySegments p.key) ((d.added q).root p.locale) ∧
      Agrees ((d.added p).added q) ((d.added q).added p) := by
  have alone : Vacant (keySegments q.key) (d.root q.locale) :=
    ((grows_added first).roots q.locale).vacant second
  -- Texts of different locales do not meet; those of one locale change places in its tree.
  have messages : Vacant (keySegments p.key) ((d.added q).root p.locale) ∧
      ((d.added q).added p).messages = ((d.added p).added q).messages := by
    simp only [root, messages_added] at *
    by_cases same : p.locale = q.locale
    · rw [← same, messagesOf_added_self] at second
      obtain ⟨behind, swapped⟩ :=
        Messages.swaps_of_vacant p.text q.text _ _ (d.messagesOf p.locale) first second
      rw [same] at behind swapped ⊢
      have ofFirst := same ▸ d.messagesOf_added_self p
      have ofSecond := d.messagesOf_added_self q
      rw [ofFirst, ofSecond, Table.put_put_self, Table.put_put_self, swapped]
      exact ⟨behind, rfl⟩
    · rw [d.messagesOf_added_of_ne q (Ne.symm same), d.messagesOf_added_of_ne p same]
      exact ⟨first, Table.put_comm same ..⟩
  refine ⟨alone, messages.1, ?_, messages.2, fun locale => ?_, ?_⟩
  · exact ((d.alike_added p).trans ((d.added p).alike_added q)).symm.trans
      ((d.alike_added q).trans ((d.added q).alike_added p))
  · simp only [isDirty_added]
    exact Bool.or_right_comm ..
  · simp only [pending_added, (d.alike_added p).sourceLocale_eq, (d.alike_added q).sourceLocale_eq]
    split_ifs
    · rw [List.append_assoc, List.append_assoc]
      exact (List.Perm.swap ..).append_left _
    all_goals exact .refl _

/-- If a text can be put and then another, they can be put the other way round. -/
theorem placeOne_swap {next both : Dictionary} (first : d.placeOne p = .ok next)
    (second : next.placeOne q = .ok both) : ∃ next' both', d.placeOne q = .ok next' ∧
      next'.placeOne p = .ok both' ∧ Agrees both both' := by
  rcases placeOne_eq_ok_iff.mp first with ⟨held, rfl⟩ | ⟨vacant, rfl⟩
  · -- The first text was there already, and it still is behind the second.
    have kept := ((grows_of_placeOne second).roots p.locale).leaves _ _ held (Json.isLeaf_string _)
    exact ⟨both, both, second, placeOne_eq_ok_iff.mpr (Or.inl ⟨kept, rfl⟩), .refl both⟩
  · have added : d.placeOne p = .ok (d.added p) := placeOne_eq_ok_iff.mpr (Or.inr ⟨vacant, rfl⟩)
    rcases placeOne_eq_ok_iff.mp second with ⟨held, rfl⟩ | ⟨vacant', rfl⟩
    · -- The second text was there already, or it is the first once more.
      rw [root_added] at held
      have free := (d.probe_eq_free_iff p.locale p.key p.text).mpr vacant
      rcases (d.valueAt?_write _ _ _ free _ _ _ (Json.isLeaf_string _)).mp held with
        old | ⟨locale, key, text⟩
      · exact ⟨d, d.added p, placeOne_eq_ok_iff.mpr (Or.inl ⟨old, rfl⟩), added, .refl _⟩
      · obtain rfl : q = p := Placement.ext locale (Messages.keySegments_injective key)
          (Json.string.inj text)
        exact ⟨d.added q, d.added q, added, second, .refl _⟩
    · obtain ⟨alone, behind, agrees⟩ := added_swap vacant vacant'
      exact ⟨d.added q, (d.added q).added p, placeOne_eq_ok_iff.mpr (Or.inr ⟨alone, rfl⟩),
        placeOne_eq_ok_iff.mpr (Or.inr ⟨behind, rfl⟩), agrees⟩

end

/-! ### All of them -/

/-- Texts that can be put under their keys in one order, none replacing another, can be put there in
any order. The documents come out the same, the same locales are dirty, and the same keys wait. -/
theorem placeAll_perm {d after : Dictionary} {placements others : List Placement}
    (order : placements.Perm others) (placed : d.placeAll placements = .ok after) :
    ∃ other, d.placeAll others = .ok other ∧
      (∀ locale, other.render locale = after.render locale) ∧
      (∀ locale, other.isDirty locale = after.isDirty locale) ∧
      other.pending.Perm after.pending := by
  -- A reordering is made of exchanges of two neighbours. The dictionaries that they lead to agree,
  -- and so do those that the texts behind them lead to.
  have reordered : ∃ other, d.placeAll others = .ok other ∧ Agrees after other := by
    induction order generalizing d after with
    | nil => exact ⟨after, placed, .refl after⟩
    | cons p order ih =>
      obtain ⟨next, first, rest⟩ := placeAll_cons.mp placed
      obtain ⟨other, rest, agrees⟩ := ih rest
      exact ⟨other, placeAll_cons.mpr ⟨next, first, rest⟩, agrees⟩
    | swap p q placements =>
      obtain ⟨next, first, rest⟩ := placeAll_cons.mp placed
      obtain ⟨both, second, rest⟩ := placeAll_cons.mp rest
      obtain ⟨next', both', first', second', agrees⟩ := placeOne_swap first second
      obtain ⟨other, rest', agrees⟩ := agrees.placeAll rest
      exact ⟨other, placeAll_cons.mpr ⟨next', first', placeAll_cons.mpr ⟨both', second', rest'⟩⟩,
        agrees⟩
    | trans order order' ih ih' =>
      obtain ⟨between, placed, agrees⟩ := ih placed
      obtain ⟨other, placed, agrees'⟩ := ih' placed
      exact ⟨other, placed, agrees.trans agrees'⟩
  obtain ⟨other, placed, agrees⟩ := reordered
  exact ⟨other, placed, agrees.render_eq, agrees.dirty, agrees.pending⟩

/-- Two texts make the same object, another is there already, and one is of another locale. -/
theorem placeAll_perm_greetings :
    let placements : List Placement := [⟨"en", "common.b.yes", "Yes"⟩, ⟨"en", "common.a.hi", "Hi!"⟩,
      ⟨"de", "common.b", "B"⟩, ⟨"en", "common.b.no", "No"⟩]
    ∃ after other, Greeting.dictionary.placeAll placements = .ok after ∧
      Greeting.dictionary.placeAll placements.reverse = .ok other ∧
      after.pending = ["common.b.yes", "common.b.no"] ∧
      other.render "en" = after.render "en" ∧ other.isDirty "de" = after.isDirty "de" ∧
      other.pending.Perm after.pending := by
  intro placements
  have pending : (Greeting.dictionary.placeAll placements).toOption.map Dictionary.pending =
      some ["common.b.yes", "common.b.no"] := by decide
  cases placed : Greeting.dictionary.placeAll placements with
  | error failure =>
    rw [placed] at pending
    cases pending
  | ok after =>
    rw [placed] at pending
    obtain ⟨other, again, rendered, dirty, waiting⟩ :=
      placeAll_perm placements.reverse_perm.symm placed
    exact ⟨after, other, rfl, again, Option.some.inj pending, rendered "en", dirty "de", waiting⟩

end Dictionary

end Phrasebook
