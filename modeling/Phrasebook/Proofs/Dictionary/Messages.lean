import Phrasebook.Dictionary.Messages
import Phrasebook.Proofs.Text.Parts

/-!
# Values of a tree of messages

A way of names leads to a value of the tree or to none. Looking at the end of a way tells whether
the same text is there, nothing is there, or the way is occupied: another value is at its end, or a
value that is no object stands on the way. A text that is put at the end of a clear way is found
there, and every other value that is no object stays as it was.
-/

namespace Phrasebook

namespace Json

/-- The value at the end of a way. -/
def valueAt? : List String → Json → Option Json
  | [], value => some value
  | name :: rest, .object members => (Table.get? name members).bind (valueAt? rest)
  | _ :: _, _ => none

/-- A value that holds no further values by name. -/
def IsLeaf (value : Json) : Prop := ∀ members, value ≠ .object members

/-- A value as a look at its place shows it. -/
def shown : Json → String
  | .string text => text
  | other => compact other

/-- A way leads through a value that is no object. -/
def Obstructed (path : List String) (root : Json) : Prop :=
  ∃ front rest value, front ++ rest = path ∧ rest ≠ [] ∧ valueAt? front root = some value ∧
    value.IsLeaf

/-- A way is occupied for a text: something other than the text is at its end, or it is
obstructed. -/
def Occupied (text : String) (path : List String) (root : Json) : Prop :=
  (∃ value, valueAt? path root = some value ∧ value ≠ .string text) ∨ Obstructed path root

/-- A tree grows: its values stay, and its objects stay objects. -/
structure Grows (before after : Json) : Prop where
  leaves : ∀ path value, valueAt? path before = some value → value.IsLeaf →
    valueAt? path after = some value
  objects : ∀ path members, valueAt? path before = some (.object members) →
    ∃ more, valueAt? path after = some (.object more)

@[simp] theorem valueAt?_nil (value : Json) : valueAt? [] value = some value := by
  simp [valueAt?]

@[simp] theorem valueAt?_cons_object (name : String) (rest : List String)
    (members : List (String × Json)) :
    valueAt? (name :: rest) (.object members) =
      (Table.get? name members).bind (valueAt? rest) := rfl

theorem valueAt?_cons_of_isLeaf {value : Json} (leaf : value.IsLeaf) (name : String)
    (rest : List String) : valueAt? (name :: rest) value = none := by
  cases value with
  | object members => exact absurd rfl (leaf members)
  | null | bool | number | string | array => rfl

theorem isLeaf_string (text : String) : (Json.string text).IsLeaf := fun _ same => by cases same

theorem not_isLeaf_object (members : List (String × Json)) : ¬ (Json.object members).IsLeaf :=
  fun leaf => leaf members rfl

theorem isLeaf_or_object (value : Json) : value.IsLeaf ∨ ∃ members, value = .object members := by
  cases value with
  | object members => exact Or.inr ⟨members, rfl⟩
  | null | bool | number | string | array => exact Or.inl fun _ same => by cases same

/-- Below a value that is no object there is nothing. -/
theorem valueAt?_of_isLeaf {value found : Json} (leaf : value.IsLeaf) (path : List String) :
    valueAt? path value = some found ↔ path = [] ∧ found = value := by
  cases path with
  | nil => simp [eq_comm]
  | cons name rest => simp [valueAt?_cons_of_isLeaf leaf]

theorem not_obstructed_nil (root : Json) : ¬ Obstructed [] root := by
  rintro ⟨front, rest, value, split, more, -⟩
  exact more (List.append_eq_nil_iff.mp split).2

theorem obstructed_of_isLeaf {value : Json} (leaf : value.IsLeaf) (path : List String) :
    Obstructed path value ↔ path ≠ [] := by
  constructor
  · rintro ⟨front, rest, -, rfl, more, -⟩ none
    exact more (List.append_eq_nil_iff.mp none).2
  · intro more
    exact ⟨[], path, value, rfl, more, valueAt?_nil value, leaf⟩

theorem obstructed_cons_object (name : String) (rest : List String)
    (members : List (String × Json)) : Obstructed (name :: rest) (.object members) ↔
      ∃ value, Table.get? name members = some value ∧ Obstructed rest value := by
  constructor
  · rintro ⟨front, tail, value, split, more, found, leaf⟩
    cases front with
    | nil =>
      cases found
      exact absurd leaf (not_isLeaf_object members)
    | cons first front =>
      obtain ⟨rfl, rfl⟩ := List.cons.inj split
      obtain ⟨inner, here, found⟩ := Option.bind_eq_some_iff.mp found
      exact ⟨inner, here, front, tail, value, rfl, more, found, leaf⟩
  · rintro ⟨inner, here, front, tail, value, rfl, more, found, leaf⟩
    exact ⟨name :: front, tail, value, rfl, more, by simp [here, found], leaf⟩

/-- An obstructed way leads nowhere. -/
theorem valueAt?_of_obstructed {path : List String} {root : Json}
    (obstructed : Obstructed path root) : valueAt? path root = none := by
  induction path generalizing root with
  | nil => exact absurd obstructed (not_obstructed_nil root)
  | cons name rest ih =>
    rcases root.isLeaf_or_object with leaf | ⟨members, rfl⟩
    · exact valueAt?_cons_of_isLeaf leaf name rest
    · obtain ⟨value, here, inside⟩ := (obstructed_cons_object name rest members).mp obstructed
      rw [valueAt?_cons_object, here, Option.bind_some, ih inside]

theorem not_obstructed_of_valueAt? {path : List String} {root value : Json}
    (found : valueAt? path root = some value) : ¬ Obstructed path root := fun obstructed => by
  rw [valueAt?_of_obstructed obstructed] at found
  cases found

namespace Grows

theorem refl (root : Json) : Grows root root where
  leaves := fun _ _ found _ => found
  objects := fun _ members found => ⟨members, found⟩

theorem trans {a b c : Json} (first : Grows a b) (second : Grows b c) : Grows a c where
  leaves := fun path value found leaf =>
    second.leaves path value (first.leaves path value found leaf) leaf
  objects := fun path members found => by
    obtain ⟨more, found⟩ := first.objects path members found
    exact second.objects path more found

/-- What occupies a way keeps occupying it. -/
theorem occupied {before after : Json} (grows : Grows before after) {text : String}
    {path : List String} (occupied : Occupied text path before) : Occupied text path after := by
  rcases occupied with ⟨value, found, differs⟩ | ⟨front, rest, value, split, more, found, leaf⟩
  · rcases value.isLeaf_or_object with leaf | ⟨members, rfl⟩
    · exact Or.inl ⟨value, grows.leaves path value found leaf, differs⟩
    · obtain ⟨more, found⟩ := grows.objects path members found
      exact Or.inl ⟨.object more, found, fun same => by cases same⟩
  · exact Or.inr ⟨front, rest, value, split, more, grows.leaves front value found leaf, leaf⟩

end Grows

end Json

namespace Messages

open Json (valueAt? IsLeaf Obstructed Occupied Grows valueAt?_cons_object valueAt?_of_isLeaf)

theorem keySegments_ne_nil (key : String) : keySegments key ≠ [] := by
  simpa [keySegments] using Text.splitBy_ne_nil (· == '.') key.toList

/-- A key is told by the names on its way. -/
theorem keySegments_injective {key other : String} (same : keySegments key = keySegments other) :
    key = other := by
  have joined (key : String) := Text.intercalate_splitBy (· == '.') '.' key.toList fun c _ mark =>
    beq_iff_eq.mp mark
  have parts := (List.map_injective_iff.mpr fun _ _ => String.ofList_inj.mp) same
  rw [← String.toList_inj, ← joined key, parts, joined other]

/-! ## Looking at a place -/

theorem leafAt?_eq_some_iff (path : List String) (messages : Messages) (text : String) :
    leafAt? path messages = some text ↔
      path ≠ [] ∧ valueAt? path (.object messages) = some (.string text) := by
  fun_induction leafAt? path messages with
  | case1 => simp
  | case2 last messages =>
    cases found : Table.get? last messages with
    | none => simp [found]
    | some value => cases value <;> simp [found, Json.string?]
  | case3 segment rest messages proper inner found ih =>
    have more : rest ≠ [] := proper
    rw [ih, valueAt?_cons_object, found, Option.bind_some]
    simp [more]
  | case4 segment rest messages proper other =>
    -- What the name is bound to, if to anything, holds nothing by name.
    simp only [reduceCtorEq, valueAt?_cons_object, false_iff, not_and]
    rintro - held
    obtain ⟨value, found, inside⟩ := Option.bind_eq_some_iff.mp held
    have leaf : value.IsLeaf := fun inner same => other inner (same ▸ found)
    exact proper ((valueAt?_of_isLeaf leaf rest).mp inside).1

/-- What a look at the end of a way tells. -/
def Tells (text : String) (path : List String) (root : Json) : Probe → Prop
  | .free => valueAt? path root = none ∧ ¬ Obstructed path root
  | .same => valueAt? path root = some (.string text)
  | .different _ => ∃ value, valueAt? path root = some value ∧ value.IsLeaf ∧ value ≠ .string text
  | .blocked _ => (∃ members, valueAt? path root = some (.object members)) ∨ Obstructed path root

/-- Below an object the rest of a way tells what the whole way tells. -/
private theorem tells_cons {text segment : String} {rest : List String}
    {messages inner : Messages} {probe : Probe}
    (found : Table.get? segment messages = some (.object inner))
    (tells : Tells text rest (.object inner) probe) :
    Tells text (segment :: rest) (.object messages) probe := by
  have way := Json.obstructed_cons_object segment rest messages
  cases probe <;> simpa [Tells, found, way] using tells

theorem probeAt_tells (passed : List String) (text : String) (path : List String)
    (nonempty : path ≠ []) (messages : Messages) :
    Tells text path (.object messages) (probeAt passed text path messages) := by
  -- At its end the way is decided by what is there. Before, an object passes the look on, and any
  -- other value obstructs the way.
  fun_induction probeAt passed text path messages with
  | case1 => exact absurd rfl nonempty
  | case2 passed last messages found =>
    simp [Tells, found, Json.obstructed_cons_object]
  | case3 passed last messages members found =>
    exact Or.inl ⟨members, by simp [found]⟩
  | case4 passed last messages found => simp [Tells, found]
  | case5 passed last messages held found differs =>
    exact ⟨.string held, by simp [found], Json.isLeaf_string held, by simpa using differs⟩
  | case6 passed last messages other noObject noString found =>
    exact ⟨other, by simp [found], noObject, fun same => noString text same⟩
  | case7 passed segment rest messages proper found =>
    simp [Tells, found, Json.obstructed_cons_object]
  | case8 passed segment rest messages proper inner found ih =>
    exact tells_cons found (ih proper)
  | case9 passed segment rest messages proper value leaf found =>
    exact Or.inr ((Json.obstructed_cons_object segment rest messages).mpr
      ⟨value, found, (Json.obstructed_of_isLeaf leaf rest).mpr proper⟩)

theorem probeAt_empty (passed : List String) (text : String) (path : List String) :
    probeAt passed text path [] = .free := by
  cases path with
  | nil => rfl
  | cons name rest => cases rest <;> rfl

theorem probeAt_eq_free_iff (passed : List String) (text : String) (path : List String)
    (nonempty : path ≠ []) (messages : Messages) : probeAt passed text path messages = .free ↔
      valueAt? path (.object messages) = none ∧ ¬ Obstructed path (.object messages) := by
  have tells := probeAt_tells passed text path nonempty messages
  constructor
  · intro free
    rwa [free] at tells
  · rintro ⟨none, clear⟩
    cases looked : probeAt passed text path messages with
    | free => rfl
    | same | different | blocked =>
      rw [looked] at tells
      simp [Tells, none, clear] at tells

theorem probeAt_eq_same_iff (passed : List String) (text : String) (path : List String)
    (nonempty : path ≠ []) (messages : Messages) : probeAt passed text path messages = .same ↔
      valueAt? path (.object messages) = some (.string text) := by
  have tells := probeAt_tells passed text path nonempty messages
  constructor
  · intro same
    rwa [same] at tells
  · intro held
    have clear := Json.not_obstructed_of_valueAt? held
    cases looked : probeAt passed text path messages with
    | same => rfl
    | free | different | blocked =>
      rw [looked] at tells
      simp [Tells, held, clear] at tells

/-- A look finds another text or a conflict exactly if the way is occupied. -/
theorem probeAt_occupied_iff (passed : List String) (text : String) (path : List String)
    (nonempty : path ≠ []) (messages : Messages) :
    ((∃ held, probeAt passed text path messages = .different held) ∨
      ∃ place, probeAt passed text path messages = .blocked place) ↔
    Occupied text path (.object messages) := by
  have tells := probeAt_tells passed text path nonempty messages
  cases looked : probeAt passed text path messages with
  | free =>
    rw [looked] at tells
    simp [Occupied, tells.1, tells.2]
  | same =>
    rw [looked] at tells
    have held : valueAt? path (.object messages) = some (.string text) := tells
    simp [Occupied, held, Json.not_obstructed_of_valueAt? held]
  | different held =>
    rw [looked] at tells
    obtain ⟨value, found, -, differs⟩ := tells
    simp [Occupied, found, differs]
  | blocked place =>
    rw [looked] at tells
    rcases tells with ⟨members, found⟩ | obstructed
    · simp [Occupied, found]
    · simp [Occupied, obstructed]

/-- A look at the place of a value other than the text shows the value. -/
theorem probeAt_of_isLeaf (passed : List String) {text : String} {path : List String}
    {messages : Messages} {value : Json} (found : valueAt? path (.object messages) = some value)
    (leaf : value.IsLeaf) (differs : value ≠ .string text) :
    probeAt passed text path messages = .different value.shown := by
  fun_induction probeAt passed text path messages with
  | case1 => exact absurd (Option.some.inj found).symm (leaf _)
  | case2 passed last messages none => simp [none] at found
  | case3 passed last messages members here =>
    simp only [valueAt?_cons_object, here, Option.bind_some, Json.valueAt?_nil] at found
    exact absurd (Option.some.inj found).symm (leaf members)
  | case4 passed last messages here =>
    simp only [valueAt?_cons_object, here, Option.bind_some, Json.valueAt?_nil] at found
    exact absurd (Option.some.inj found).symm differs
  | case5 passed last messages held here other =>
    simp only [valueAt?_cons_object, here, Option.bind_some, Json.valueAt?_nil] at found
    cases found
    rfl
  | case6 passed last messages other noObject noString here =>
    simp only [valueAt?_cons_object, here, Option.bind_some, Json.valueAt?_nil] at found
    cases found
    rw [Json.shown]
    exact noString
  | case7 passed segment rest messages proper none => simp [none] at found
  | case8 passed segment rest messages proper inner here ih =>
    rw [valueAt?_cons_object, here, Option.bind_some] at found
    exact ih found
  | case9 passed segment rest messages proper value obstructing here =>
    rw [valueAt?_cons_object, here, Option.bind_some] at found
    exact absurd ((valueAt?_of_isLeaf obstructing rest).mp found).1 proper

theorem probeAt_eq_different_iff (passed : List String) (text : String) (path : List String)
    (nonempty : path ≠ []) (messages : Messages) (held : String) :
    probeAt passed text path messages = .different held ↔
      ∃ value, valueAt? path (.object messages) = some value ∧ value.IsLeaf ∧
        value ≠ .string text ∧ value.shown = held := by
  constructor
  · intro different
    have tells := probeAt_tells passed text path nonempty messages
    rw [different] at tells
    obtain ⟨value, found, leaf, differs⟩ := tells
    rw [probeAt_of_isLeaf passed found leaf differs] at different
    exact ⟨value, found, leaf, differs, Probe.different.inj different⟩
  · rintro ⟨value, found, leaf, differs, rfl⟩
    exact probeAt_of_isLeaf passed found leaf differs

/-! ## Putting a text at a place -/

/-- A way that a text can be put at the end of: it is not obstructed, and no object is at its
end. -/
def Clear (path : List String) (root : Json) : Prop :=
  ¬ Obstructed path root ∧ ∀ value, valueAt? path root = some value → value.IsLeaf

theorem clear_of_get?_none {segment : String} {messages : Messages}
    (found : Table.get? segment messages = none) (rest : List String) :
    Clear (segment :: rest) (.object messages) := by
  simp [Clear, Json.obstructed_cons_object, found]

theorem clear_cons {segment : String} {messages : Messages} {value : Json}
    (found : Table.get? segment messages = some value) (rest : List String) :
    Clear (segment :: rest) (.object messages) ↔ Clear rest value := by
  simp [Clear, Json.obstructed_cons_object, found]

/-- In an empty tree every way is clear. -/
theorem clear_empty (path : List String) (nonempty : path ≠ []) : Clear path (.object []) := by
  cases path with
  | nil => exact absurd rfl nonempty
  | cons segment rest => exact clear_of_get?_none rfl rest

/-- What is bound anew lies behind its name; what is bound to other names stays. -/
private theorem valueAt?_put {text segment : String} {rest : List String} {new value : Json}
    {messages : Messages} (leaf : value.IsLeaf)
    (inside : ∀ more, valueAt? more new = some value ↔ more = rest ∧ value = .string text ∨
      more ≠ rest ∧ (Table.get? segment messages).bind (valueAt? more) = some value)
    (other : List String) :
    valueAt? other (.object (Table.put segment new messages)) = some value ↔
      other = segment :: rest ∧ value = .string text ∨
      other ≠ segment :: rest ∧ valueAt? other (.object messages) = some value := by
  have notRoot (members : Messages) : valueAt? [] (.object members) ≠ some value := by
    rintro same
    exact leaf members (Option.some.inj same).symm
  -- The empty way leads to the whole tree, which is an object.
  cases other with
  | nil => simp only [notRoot, reduceCtorEq, false_and, and_false, or_self]
  | cons name more =>
    by_cases same : name = segment
    · subst same
      simp [inside]
    · simp [Table.get?_put_of_ne (Ne.symm same), same]

/-- The values of a tree after a text was put at the end of a clear way. -/
theorem valueAt?_putAt (text : String) (path : List String) (nonempty : path ≠ [])
    (messages : Messages) (clear : Clear path (.object messages)) (other : List String)
    (value : Json) (leaf : value.IsLeaf) :
    valueAt? other (.object (putAt text path messages)) = some value ↔
      other = path ∧ value = .string text ∨
      other ≠ path ∧ valueAt? other (.object messages) = some value := by
  -- One case for each step of the way: its end, a name that is bound to nothing, to an object or,
  -- which a clear way excludes, to another value.
  fun_induction putAt text path messages generalizing other with
  | case1 => exact absurd rfl nonempty
  | case2 last messages =>
    refine valueAt?_put leaf (fun more => ?_) other
    have nothing : more ≠ [] → (Table.get? last messages).bind (valueAt? more) ≠ some value := by
      intro proper held
      obtain ⟨old, found, below⟩ := Option.bind_eq_some_iff.mp held
      have oldLeaf := ((clear_cons found []).mp clear).2 old (Json.valueAt?_nil old)
      exact proper ((valueAt?_of_isLeaf oldLeaf more).mp below).1
    rw [valueAt?_of_isLeaf (Json.isLeaf_string text)]
    exact ⟨Or.inl, fun either => either.resolve_right fun other => nothing other.1 other.2⟩
  | case3 segment rest messages proper found ih =>
    refine valueAt?_put leaf (fun more => ?_) other
    have nothing : valueAt? more (.object []) ≠ some value := by
      cases more with
      | nil => exact fun same => leaf [] (Option.some.inj same).symm
      | cons name more => simp [Table.get?]
    rw [ih proper (clear_empty rest proper), found, Option.bind_none]
    simp [nothing]
  | case4 segment rest messages proper inner found ih =>
    refine valueAt?_put leaf (fun more => ?_) other
    rw [ih proper ((clear_cons found rest).mp clear), found, Option.bind_some]
  | case5 segment rest messages proper blocking blocked found =>
    have below := ((clear_cons found rest).mp clear).1
    exact absurd ((Json.obstructed_of_isLeaf blocked rest).mpr proper) below

private theorem object_put {segment : String} {new : Json} {messages : Messages}
    (inside : ∀ more members, (Table.get? segment messages).bind (valueAt? more) =
      some (.object members) → ∃ others, valueAt? more new = some (.object others))
    (other : List String) (members : List (String × Json))
    (held : valueAt? other (.object messages) = some (.object members)) :
    ∃ others,
      valueAt? other (.object (Table.put segment new messages)) = some (.object others) := by
  cases other with
  | nil => exact ⟨_, rfl⟩
  | cons name more =>
    by_cases same : name = segment
    · subst same
      rw [valueAt?_cons_object, Table.get?_put_self]
      exact inside more members held
    · rw [valueAt?_cons_object, Table.get?_put_of_ne (Ne.symm same)]
      exact ⟨members, held⟩

/-- Where an object was there is one after a text was put at the end of a clear way. -/
theorem object_putAt (text : String) (path : List String) (nonempty : path ≠ [])
    (messages : Messages) (clear : Clear path (.object messages)) (other : List String)
    (members : List (String × Json))
    (held : valueAt? other (.object messages) = some (.object members)) :
    ∃ others, valueAt? other (.object (putAt text path messages)) = some (.object others) := by
  fun_induction putAt text path messages generalizing other members with
  | case1 => exact absurd rfl nonempty
  | case2 last messages =>
    refine object_put (fun more members held => ?_) other members held
    obtain ⟨old, found, below⟩ := Option.bind_eq_some_iff.mp held
    have oldLeaf := ((clear_cons found []).mp clear).2 old (Json.valueAt?_nil old)
    exact absurd ((valueAt?_of_isLeaf oldLeaf more).mp below).2.symm (oldLeaf members)
  | case3 segment rest messages proper found ih =>
    refine object_put (fun more members held => ?_) other members held
    rw [found] at held
    cases held
  | case4 segment rest messages proper inner found ih =>
    refine object_put (fun more members held => ?_) other members held
    rw [found] at held
    exact ih proper ((clear_cons found rest).mp clear) more members held
  | case5 segment rest messages proper blocking blocked found => exact ⟨members, held⟩

/-- A tree grows when a text is put where nothing is. -/
theorem grows_putAt (text : String) (path : List String) (nonempty : path ≠ [])
    (messages : Messages) (absent : valueAt? path (.object messages) = none)
    (way : ¬ Obstructed path (.object messages)) :
    Grows (.object messages) (.object (putAt text path messages)) := by
  have clear : Clear path (.object messages) :=
    ⟨way, fun value found => by rw [absent] at found; cases found⟩
  constructor
  · intro other value found leaf
    rw [valueAt?_putAt text path nonempty messages clear other value leaf]
    refine Or.inr ⟨?_, found⟩
    rintro rfl
    rw [absent] at found
    cases found
  · exact object_putAt text path nonempty messages clear

end Messages

end Phrasebook
