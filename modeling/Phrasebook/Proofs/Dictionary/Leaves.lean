import Phrasebook.Proofs.Dictionary.Loading
import Phrasebook.Proofs.Dictionary.Setting
import Phrasebook.Proofs.Key.Forms
import Phrasebook.Proofs.Storage.Shelf
import Phrasebook.Proofs.Text.Positions

/-!
# Lists of keys

The keys of a locale are the ways to its values that are no objects, with points between the names.
They are listed in order, and every key at which a look finds a value is among them. A key does not
tell a name that holds a point from two names, so only where no name holds one are the listed keys
those at which values are found, each of them once. Texts that are put under keys bring no such
names with them.

An empty name adds nothing in front of the names below it at the top of a document, where no key
starts with a point.
-/

namespace Phrasebook

open Json (Fits IsLeaf valueAt?)

/-! ## Ways -/

namespace Json

/-- Whether a name can be told from several ones. -/
def IsPlainName (name : String) : Prop := '.' ∉ name.toList

/-- A way does not go on below an empty name at its start. -/
def StartsNamed (path : List String) : Prop := ∀ rest, path = "" :: rest → rest = []

/-- No name on the way to a value of a tree holds a point. -/
def IsPlain (root : Json) : Prop :=
  ∀ path value, valueAt? path root = some value → value.IsLeaf → ∀ name ∈ path, IsPlainName name

/-- No value of a tree lies below an empty name at its top. -/
def IsNamed (root : Json) : Prop :=
  ∀ path value, valueAt? path root = some value → value.IsLeaf → StartsNamed path

/-- A tree whose objects have each name once, in order. -/
def IsTabled (root : Json) : Prop := ∃ depth, Fits (fun _ => True) depth root

end Json

open Json (IsPlainName StartsNamed IsPlain IsNamed IsTabled)

/-- The names on the way of a key hold no points. -/
theorem isPlainName_of_mem_keySegments {key name : String} (member : name ∈ keySegments key) :
    IsPlainName name := by
  obtain ⟨part, listed, rfl⟩ := List.mem_map.mp member
  intro point
  rw [String.toList_ofList] at point
  have apart := Text.forall_mem_splitBy (· == '.') key.toList part listed '.' point
  cases apart

/-- The way of a key that does not start with a point starts with a name, or ends there. -/
theorem startsNamed_keySegments {key : String} (start : key.toList.head? ≠ some '.') :
    StartsNamed (keySegments key) := by
  intro rest same
  unfold keySegments at same
  generalize key.toList = text at start same
  cases text with
  | nil =>
    cases same
    rfl
  | cons c text =>
    have other : (c == '.') = false := beq_eq_false_iff_ne.mpr fun point => start (point ▸ rfl)
    obtain ⟨first, more, split⟩ := List.exists_cons_of_ne_nil
      (Text.splitBy_ne_nil (· == '.') text)
    simp [Text.splitBy, other, split] at same

namespace Table

/-- In a table in order a name is bound to nothing else. -/
theorem IsOrdered.get?_of_mem {α : Type} {table : Table α} (ordered : IsOrdered table) {name : String}
    {value : α} (member : (name, value) ∈ table) : get? name table = some value := by
  induction table with
  | nil => cases member
  | cons binding rest ih =>
    obtain ⟨first, others⟩ := List.pairwise_cons.mp ordered
    rcases List.mem_cons.mp member with rfl | inside
    · rw [get?, if_pos rfl]
    · have differs : binding.1 ≠ name := String.ne_of_lt (first _ inside)
      rw [get?, if_neg differs, ih others inside]

end Table

namespace Messages

/-! ## Keys of ways -/

theorem nestedKey_of_ne {outer : String} (nonempty : outer ≠ "") (name : String) :
    nestedKey outer name = outer ++ "." ++ name :=
  if_neg (by simpa [String.isEmpty_iff] using nonempty)

/-- A key that is made from names below another key has them behind its own. -/
theorem keySegments_foldl_nestedKey {outer : String} (nonempty : outer ≠ "") {path : List String}
    (plain : ∀ name ∈ path, IsPlainName name) :
    keySegments (path.foldl nestedKey outer) = keySegments outer ++ path := by
  induction path generalizing outer with
  | nil => rw [List.foldl_nil, List.append_nil]
  | cons name rest ih =>
    obtain ⟨first, others⟩ := List.forall_mem_cons.mp plain
    have below : outer ++ "." ++ name ≠ "" := by
      intro same
      have := congrArg String.toList same
      simp at this
    rw [List.foldl_cons, nestedKey_of_ne nonempty, ih below others, keySegments_join,
      keySegments_of_plain first, List.append_assoc, List.singleton_append]

/-- The way of the key of a way is that way. -/
theorem keySegments_foldl {path : List String} (nonempty : path ≠ [])
    (plain : ∀ name ∈ path, IsPlainName name) (named : StartsNamed path) :
    keySegments (path.foldl nestedKey "") = path := by
  obtain ⟨name, rest, rfl⟩ := List.exists_cons_of_ne_nil nonempty
  obtain ⟨first, others⟩ := List.forall_mem_cons.mp plain
  have top : nestedKey "" name = name := rfl
  rw [List.foldl_cons, top]
  by_cases empty : name = ""
  · subst empty
    rw [named rest rfl]
    rfl
  · rw [keySegments_foldl_nestedKey empty others, keySegments_of_plain first, List.singleton_append]

/-! ## Listed keys -/

theorem keysOfMembers_eq (outer : String) (members : List (String × Json)) :
    keysOfMembers outer members =
      members.flatMap fun member => keysOfValue (nestedKey outer member.1) member.2 := by
  induction members with
  | nil => rfl
  | cons member rest ih => rw [keysOfMembers, ih, List.flatMap_cons]

theorem keysOfValue_of_isLeaf {value : Json} (leaf : value.IsLeaf) (key : String) :
    keysOfValue key value = [key] := by
  cases value with
  | object members => exact absurd rfl (leaf members)
  | null | bool | number | string | array => rfl

variable {kind : JsonNumber → Prop} {depth : Nat} {root : Json}

/-- The keys of a value are those of the ways to the leaves below it. -/
theorem mem_keysOfValue_iff (fits : Fits kind depth root) {outer key : String} :
    key ∈ keysOfValue outer root ↔
      ∃ path value, valueAt? path root = some value ∧ value.IsLeaf ∧
        path.foldl nestedKey outer = key := by
  have ofLeaf {outer : String} {value : Json} (leaf : value.IsLeaf) : key ∈ keysOfValue outer value ↔
      ∃ path found, valueAt? path value = some found ∧ found.IsLeaf ∧
        path.foldl nestedKey outer = key := by
    rw [keysOfValue_of_isLeaf leaf, List.mem_singleton]
    constructor
    · rintro rfl
      exact ⟨[], value, Json.valueAt?_nil value, leaf, rfl⟩
    · rintro ⟨path, found, here, -, rfl⟩
      rw [((Json.valueAt?_of_isLeaf leaf path).mp here).1, List.foldl_nil]
  induction fits generalizing outer with
  | null | bool | number | string | array => exact ofLeaf fun _ same => by cases same
  | object depth members ordered inside ih =>
    rw [keysOfValue, keysOfMembers_eq, List.mem_flatMap]
    constructor
    · rintro ⟨member, listed, below⟩
      obtain ⟨path, value, found, leaf, rfl⟩ := (ih member listed).mp below
      refine ⟨member.1 :: path, value, ?_, leaf, rfl⟩
      rw [Json.valueAt?_cons_object, ordered.get?_of_mem listed, Option.bind_some, found]
    · rintro ⟨path, value, found, leaf, rfl⟩
      cases path with
      | nil =>
        cases found
        exact absurd leaf (Json.not_isLeaf_object members)
      | cons name rest =>
        obtain ⟨inner, here, below⟩ := Option.bind_eq_some_iff.mp found
        have listed := Table.mem_of_get? here
        exact ⟨(name, inner), listed, (ih _ listed).mpr ⟨rest, value, below, leaf, rfl⟩⟩

/-- Keys that tell the ways to the leaves apart are listed once. -/
theorem nodup_keysOfValue (fits : Fits kind depth root) {outer : String}
    (apart : ∀ path value other held, valueAt? path root = some value → value.IsLeaf →
      valueAt? other root = some held → held.IsLeaf →
      path.foldl nestedKey outer = other.foldl nestedKey outer → path = other) :
    (keysOfValue outer root).Nodup := by
  induction fits generalizing outer with
  | null | bool | number | string | array => exact List.nodup_singleton _
  | object depth members ordered inside ih =>
    -- A way below a member goes through its name.
    have through {member : String × Json} (listed : member ∈ members) (path : List String) :
        valueAt? (member.1 :: path) (.object members) = valueAt? path member.2 := by
      rw [Json.valueAt?_cons_object, ordered.get?_of_mem listed, Option.bind_some]
    rw [keysOfValue, keysOfMembers_eq, List.nodup_flatMap]
    constructor
    · intro member listed
      refine ih member listed fun path value other held found leaf found' leaf' same => ?_
      have whole := apart (member.1 :: path) value (member.1 :: other) held
        ((through listed path).trans found) leaf ((through listed other).trans found') leaf' same
      exact (List.cons.inj whole).2
    · refine List.Pairwise.imp_of_mem (fun {a b} first second before key here there => ?_) ordered
      obtain ⟨path, value, found, leaf, rfl⟩ := (mem_keysOfValue_iff (inside a first)).mp here
      obtain ⟨other, held, found', leaf', same⟩ := (mem_keysOfValue_iff (inside b second)).mp there
      have whole := apart (a.1 :: path) value (b.1 :: other) held
        ((through first path).trans found) leaf ((through second other).trans found') leaf' same.symm
      exact String.ne_of_lt before (List.cons.inj whole).1

/-! ## The list of a document -/

theorem mem_leafKeys_iff {messages : Messages} (tabled : IsTabled (.object messages))
    {key : String} : key ∈ leafKeys messages ↔
      ∃ path value, valueAt? path (.object messages) = some value ∧ value.IsLeaf ∧
        path.foldl nestedKey "" = key := by
  obtain ⟨depth, fits⟩ := tabled
  rw [← mem_keysOfValue_iff fits, keysOfValue, leafKeys, List.mem_mergeSort]

/-- Keys are listed in order, whatever they are. -/
theorem sorted_leafKeys (messages : Messages) : (leafKeys messages).Pairwise (· ≤ ·) := by
  have sorted := Text.sorted_mergeSort (fun a b : String => decide (b < a))
    (fun a b c first second => ?_) (fun a b => ?_) (keysOfMembers "" messages)
  · simpa only [leafKeys, decide_eq_false_iff_not, String.not_lt] using sorted
  · simp only [decide_eq_false_iff_not, String.not_lt] at *
    exact String.le_trans first second
  · simp only [decide_eq_false_iff_not, String.not_lt]
    exact String.le_total a b

section

variable {messages : Messages} (tabled : IsTabled (.object messages))
  (named : IsNamed (.object messages))

include tabled named

/-- The key of every value is listed. -/
theorem mem_leafKeys_of_valueAt? {key : String} {value : Json}
    (found : valueAt? (keySegments key) (.object messages) = some value) (leaf : value.IsLeaf) :
    key ∈ leafKeys messages := by
  refine (mem_leafKeys_iff tabled).mpr ⟨keySegments key, value, found, leaf, ?_⟩
  exact keySegments_injective (keySegments_foldl (keySegments_ne_nil key)
    (fun _ member => isPlainName_of_mem_keySegments member) (named _ _ found leaf))

variable (plain : IsPlain (.object messages))

include plain

omit tabled in
/-- The way of the key of a way to a value is that way. -/
theorem keySegments_of_valueAt? {path : List String} {value : Json}
    (found : valueAt? path (.object messages) = some value) (leaf : value.IsLeaf) :
    keySegments (path.foldl nestedKey "") = path := by
  have nonempty : path ≠ [] := by
    rintro rfl
    exact leaf messages (Option.some.inj found).symm
  exact keySegments_foldl nonempty (plain path value found leaf) (named path value found leaf)

/-- Where no name holds a point, the listed keys are those of the values. -/
theorem mem_leafKeys_iff_of_isPlain {key : String} : key ∈ leafKeys messages ↔
    ∃ value, valueAt? (keySegments key) (.object messages) = some value ∧ value.IsLeaf := by
  constructor
  · intro listed
    obtain ⟨path, value, found, leaf, rfl⟩ := (mem_leafKeys_iff tabled).mp listed
    rw [keySegments_of_valueAt? named plain found leaf]
    exact ⟨value, found, leaf⟩
  · rintro ⟨value, found, leaf⟩
    exact mem_leafKeys_of_valueAt? tabled named found leaf

/-- Where no name holds a point, each key is listed once. -/
theorem nodup_leafKeys : (leafKeys messages).Nodup := by
  obtain ⟨depth, fits⟩ := id tabled
  have once : (keysOfValue "" (.object messages)).Nodup := by
    refine nodup_keysOfValue fits fun path value other held found leaf found' leaf' same => ?_
    rw [← keySegments_of_valueAt? named plain found leaf, same,
      keySegments_of_valueAt? named plain found' leaf']
  exact (List.mergeSort_perm _ _).nodup_iff.mpr once

end

end Messages

/-! ## Names of a tree -/

namespace Json

variable {members : List (String × Json)}

theorem isPlain_of_isLeaf {value : Json} (leaf : value.IsLeaf) : IsPlain value := by
  intro path found here _ name member
  rw [((valueAt?_of_isLeaf leaf path).mp here).1] at member
  cases member

/-- Names are plain in an object if they are at its top and below. -/
theorem isPlain_object
    (inside : ∀ member ∈ members, IsPlainName member.1 ∧ IsPlain member.2) :
    IsPlain (.object members) := by
  intro path value found leaf
  cases path with
  | nil => exact List.forall_mem_nil _
  | cons name rest =>
    obtain ⟨inner, here, below⟩ := Option.bind_eq_some_iff.mp found
    obtain ⟨first, others⟩ := inside (name, inner) (Table.mem_of_get? here)
    exact List.forall_mem_cons.mpr ⟨first, others rest value below leaf⟩

mutual

/-- Whether no name in a value holds a point. -/
def hasPlainNames : Json → Bool
  | .object members => havePlainNames members
  | _ => true

def havePlainNames : List (String × Json) → Bool
  | [] => true
  | (name, value) :: rest =>
    !name.toList.contains '.' && hasPlainNames value && havePlainNames rest

end

mutual

theorem isPlain_of_hasPlainNames : ∀ value : Json, hasPlainNames value = true → IsPlain value
  | .object members, plain => isPlain_object (isPlain_of_havePlainNames members plain)
  | .null, _ | .bool _, _ | .number _, _ | .string _, _ | .array _, _ =>
    isPlain_of_isLeaf fun _ same => by cases same

theorem isPlain_of_havePlainNames : ∀ members : List (String × Json),
    havePlainNames members = true → ∀ member ∈ members, IsPlainName member.1 ∧ IsPlain member.2
  | [], _ => List.forall_mem_nil _
  | (name, value) :: rest, plain => by
    simp only [havePlainNames, Bool.and_eq_true, Bool.not_eq_true', List.contains_eq_mem,
      decide_eq_false_iff_not] at plain
    obtain ⟨⟨first, inside⟩, others⟩ := plain
    exact List.forall_mem_cons.mpr
      ⟨⟨first, isPlain_of_hasPlainNames value inside⟩, isPlain_of_havePlainNames rest others⟩

end

/-- No value lies below an empty name if no object is bound to it. -/
theorem isNamed_object (unnamed : ((Table.get? "" members).bind object?).isNone = true) :
    IsNamed (.object members) := by
  rintro path value found leaf rest rfl
  obtain ⟨inner, here, below⟩ := Option.bind_eq_some_iff.mp found
  rcases inner.isLeaf_or_object with ends | ⟨more, rfl⟩
  · exact ((valueAt?_of_isLeaf ends rest).mp below).1
  · simp [here, object?] at unnamed

end Json

/-! ## Texts that are put -/

/-- A text to be put under a key of a locale, in the place of another one if that is asked for. -/
structure Assignment where
  locale : String
  key : String
  text : String
  overwrite : Bool

namespace Dictionary

/-- A look at a key, beside a text that might be put there, finds a value that is no object. -/
def FindsLeaf (d : Dictionary) (locale key text : String) : Prop :=
  d.probe locale key text = .same ∨ ∃ held, d.probe locale key text = .different held

/-- The keys of a locale are listed in order, each once, and they are those at which a look finds a
value that is no object. -/
structure ListsLeaves (d : Dictionary) (locale : String) : Prop where
  sorted : (d.leafKeys locale).Pairwise (· ≤ ·)
  nodup : (d.leafKeys locale).Nodup
  listed : ∀ key text, key ∈ d.leafKeys locale ↔ d.FindsLeaf locale key text

/-- Puts a text under its key. -/
def assign (d : Dictionary) (a : Assignment) : Except Failure Dictionary :=
  d.set a.locale a.key a.text a.overwrite

/-- Puts texts under their keys, one after the other. -/
def assignAll (d : Dictionary) (assignments : List Assignment) : Except Failure Dictionary :=
  assignments.foldlM assign d

theorem findsLeaf_iff {d : Dictionary} {locale key text : String} : d.FindsLeaf locale key text ↔
    ∃ value, valueAt? (keySegments key) (d.root locale) = some value ∧ value.IsLeaf := by
  simp only [FindsLeaf, probe_eq_same_iff, probe_eq_different_iff]
  constructor
  · rintro (same | ⟨-, value, found, leaf, -⟩)
    · exact ⟨_, same, Json.isLeaf_string text⟩
    · exact ⟨value, found, leaf⟩
  · rintro ⟨value, found, leaf⟩
    by_cases same : value = .string text
    · exact Or.inl (same ▸ found)
    · exact Or.inr ⟨_, value, found, leaf, same, rfl⟩

section

variable {d changed : Dictionary} {a : Assignment} (assigned : d.assign a = .ok changed)
  {locale : String}

include assigned

/-- A text that is put leaves trees in order. -/
theorem isTabled_assign (tabled : ∀ locale, IsTabled (d.root locale)) :
    IsTabled (changed.root locale) := by
  have written : IsTabled ((d.write a.locale a.key a.text).root locale) := by
    by_cases same : a.locale = locale
    · subst same
      obtain ⟨depth, fits⟩ := tabled a.locale
      rw [root_write_self]
      -- The tree may become as deep as the way is long.
      refine ⟨depth + (keySegments a.key).length, Messages.fits_putAt _ _
        (Messages.keySegments_ne_nil _) (Nat.le_add_left _ _) (fits.mono (Nat.le_add_right _ _))⟩
    · rw [root_write_of_ne _ _ _ _ same]
      exact tabled locale
  rcases set_eq_ok_iff.mp assigned with ⟨-, rfl⟩ | ⟨-, rfl⟩ | ⟨-, -, rfl⟩
  · exact tabled locale
  · rw [root_await]
    exact written
  · exact written

/-- All values but the text that is put were there before. -/
theorem valueAt?_of_assign {path : List String} {value : Json}
    (found : valueAt? path (changed.root locale) = some value) (leaf : value.IsLeaf) :
    a.locale = locale ∧ path = keySegments a.key ∨ valueAt? path (d.root locale) = some value := by
  by_cases here : (locale, path) = (a.locale, keySegments a.key)
  · exact Or.inl ⟨(Prod.mk.inj here).1.symm, (Prod.mk.inj here).2⟩
  · exact Or.inr (((updates_of_set assigned).others locale path value leaf here).mp found)

/-- A text that is put brings no names with points. -/
theorem isPlain_assign (plain : IsPlain (d.root locale)) : IsPlain (changed.root locale) := by
  intro path value found leaf
  rcases valueAt?_of_assign assigned found leaf with ⟨-, rfl⟩ | old
  · exact fun name member => isPlainName_of_mem_keySegments member
  · exact plain path value old leaf

/-- A text whose key does not start with a point is not put below an empty name. -/
theorem isNamed_assign (started : a.locale = locale → a.key.toList.head? ≠ some '.')
    (named : IsNamed (d.root locale)) : IsNamed (changed.root locale) := by
  intro path value found leaf
  rcases valueAt?_of_assign assigned found leaf with ⟨here, rfl⟩ | old
  · exact startsNamed_keySegments (started here)
  · exact named path value old leaf

end

theorem assignAll_cons {d after : Dictionary} {a : Assignment} {assignments : List Assignment} :
    d.assignAll (a :: assignments) = .ok after ↔
      ∃ next, d.assign a = .ok next ∧ next.assignAll assignments = .ok after := by
  rw [assignAll, List.foldlM_cons]
  exact bind_eq_ok_iff

/-- Texts that are put keep trees in order and their names as they should be. -/
theorem assignAll_keeps {d after : Dictionary} {assignments : List Assignment}
    (assigned : d.assignAll assignments = .ok after) {locale : String}
    (started : ∀ a ∈ assignments, a.locale = locale → a.key.toList.head? ≠ some '.')
    (tabled : ∀ locale, IsTabled (d.root locale)) (named : IsNamed (d.root locale)) :
    IsTabled (after.root locale) ∧ IsNamed (after.root locale) ∧
      (IsPlain (d.root locale) → IsPlain (after.root locale)) := by
  induction assignments generalizing d with
  | nil =>
    cases assigned
    exact ⟨tabled locale, named, id⟩
  | cons a assignments ih =>
    obtain ⟨first, others⟩ := List.forall_mem_cons.mp started
    obtain ⟨next, put, rest⟩ := assignAll_cons.mp assigned
    obtain ⟨tabled, named, plain⟩ := ih rest others (fun _ => isTabled_assign put tabled)
      (isNamed_assign put first named)
    exact ⟨tabled, named, fun before => plain (isPlain_assign put before)⟩

/-- Documents are loaded, and texts are put under keys, none of them below an empty name at the top.
Then the keys of a locale are listed in order, and every key at which a look finds a value is among
them. If no name of the document holds a point, they are the keys at which a look finds a value,
each of them once. -/
theorem leafKeys_assignAll {σ : Type} [Storage σ] (storage : σ) (directory : String)
    (settings : Settings) (locales : List String) (assignments : List Assignment)
    (locale : String) (after : Dictionary)
    (accepted : ((empty directory settings).loadAll storage locales).1 = none)
    (named : IsNamed (((empty directory settings).loadAll storage locales).2.root locale))
    (started : ∀ a ∈ assignments, a.locale = locale → a.key.toList.head? ≠ some '.')
    (assigned : ((empty directory settings).loadAll storage locales).2.assignAll assignments =
      .ok after) :
    (after.leafKeys locale).Pairwise (· ≤ ·) ∧
      (∀ key text, after.FindsLeaf locale key text → key ∈ after.leafKeys locale) ∧
      (IsPlain (((empty directory settings).loadAll storage locales).2.root locale) →
        after.ListsLeaves locale) := by
  have loaded := isLoaded_empty directory settings storage locales accepted
  have readable := loaded.isReadable rfl
  have tabled (locale : String) :
      IsTabled (((empty directory settings).loadAll storage locales).2.root locale) :=
    ⟨_, (readable.roots locale).imp fun _ _ => trivial⟩
  obtain ⟨tabled, named, plain⟩ := assignAll_keeps assigned started tabled named
  have sorted := Messages.sorted_leafKeys (after.messagesOf locale)
  refine ⟨sorted, fun key text finds => ?_, fun before => ⟨sorted, ?_, fun key text => ?_⟩⟩
  · obtain ⟨value, found, leaf⟩ := findsLeaf_iff.mp finds
    exact Messages.mem_leafKeys_of_valueAt? tabled named found leaf
  · exact Messages.nodup_leafKeys tabled named (plain before)
  · rw [findsLeaf_iff]
    exact Messages.mem_leafKeys_iff_of_isPlain tabled named (plain before)

/-! A document with a number and an empty name. -/

namespace Listed

def shelf : Shelf :=
  ⟨[("m/en.json", "\x7b\"\": \"none\", \"b\": \x7b\"y\": \"Y\", \"x\": 1\x7d\x7d")], [], []⟩

def assignments : List Assignment :=
  [⟨"en", "b.x", "X", true⟩, ⟨"de", ".a", "A", false⟩, ⟨"en", "a.a", "AA", false⟩]

end Listed

theorem leafKeys_assignAll_listed : ∃ after,
    ((empty "m" .standard).loadAll Listed.shelf ["en"]).2.assignAll Listed.assignments =
      .ok after ∧
    after.leafKeys "en" = ["", "a.a", "b.x", "b.y"] ∧ after.ListsLeaves "en" := by
  have keys : (((empty "m" .standard).loadAll Listed.shelf ["en"]).2.assignAll
      Listed.assignments).toOption.map (fun d => Messages.keysOfMembers "" (d.messagesOf "en")) =
        some ["", "a.a", "b.x", "b.y"] := by
    decide +kernel
  obtain ⟨after, assigned, same⟩ := exists_of_map_toOption keys
  have sorted : after.leafKeys "en" = ["", "a.a", "b.x", "b.y"] := by
    rw [leafKeys, Messages.leafKeys, same]
    exact List.mergeSort_of_pairwise (by decide)
  have accepted : ((empty "m" .standard).loadAll Listed.shelf ["en"]).1 = none := by
    decide +kernel
  have named : IsNamed (((empty "m" .standard).loadAll Listed.shelf ["en"]).2.root "en") :=
    Json.isNamed_object (by decide +kernel)
  have plain : IsPlain (((empty "m" .standard).loadAll Listed.shelf ["en"]).2.root "en") :=
    Json.isPlain_of_hasPlainNames _ (by decide +kernel)
  obtain ⟨-, -, lists⟩ := leafKeys_assignAll Listed.shelf "m" .standard ["en"] Listed.assignments
    "en" after accepted named (by decide) assigned
  exact ⟨after, assigned, sorted, lists plain⟩

/-- A key is listed at which no value is found: the point is in a name. -/
theorem leafKeys_of_point :
    let shelf : Shelf := ⟨[("m/en.json", "\x7b\"a.b\": \"x\"\x7d")], [], []⟩
    let loaded := (empty "m" .standard).loadAll shelf ["en"]
    loaded.1 = none ∧ "a.b" ∈ loaded.2.leafKeys "en" ∧ ¬ loaded.2.FindsLeaf "en" "a.b" "x" := by
  intro shelf loaded
  have free : loaded.2.probe "en" "a.b" "x" = .free := by decide +kernel
  refine ⟨by decide +kernel, by decide +kernel, ?_⟩
  rw [FindsLeaf, free]
  simp

end Dictionary

end Phrasebook
