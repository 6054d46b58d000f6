import Mathlib
import Phrasebook.Proofs.Dictionary.Propagating

/-!
# Propagation fills places

A propagation asks each target, with each new key, for one place. A place is open if nothing is
there or another value that shows itself as a placeholder; an open place is filled with the
placeholder of the source text. What is done to the messages is told here apart from what is
counted: values stay or are filled, and what is gained are placeholders.

A propagation changes no text of a target but placeholders, and it changes them to placeholders of
the source text. A value that is no text is compared as it is written: a list, a number or a truth
value passes for a placeholder if its own writing starts with the marker.
-/

namespace Phrasebook

open Json (valueAt? IsLeaf Obstructed)

/-- What is found takes a placeholder. -/
def Probe.isOpen (marker : String) : Probe → Bool
  | .free => true
  | .different held => held.startsWith marker
  | .same | .blocked _ => false

/-- A value that passes for a placeholder. -/
structure Json.IsMarked (marker : String) (value : Json) : Prop where
  leaf : value.IsLeaf
  marked : value.shown.startsWith marker = true

theorem Json.isMarked_string (marker text : String) : IsMarked marker (.string (marker ++ text)) :=
  ⟨isLeaf_string _, by simp [shown]⟩

namespace Dictionary

/-- The places that a propagation asks for: targets with new keys. -/
def requests (d : Dictionary) (source : String) (targets : List String) : List (String × String) :=
  (targets.filter (· != source)).product d.pending

/-- What is found at a place, beside the placeholder of the key's source text. -/
def look? (d : Dictionary) (source : String) (request : String × String) : Option Probe :=
  (d.leaf? source request.2).map fun text =>
    d.probe request.1 request.2 (d.placeholderPrefix ++ text)

/-- Fills a place with the placeholder of the key's source text, if it is open. -/
def fill (source : String) (d : Dictionary) (request : String × String) : Dictionary :=
  match d.leaf? source request.2 with
  | none => d
  | some text =>
    if (d.probe request.1 request.2 (d.placeholderPrefix ++ text)).isOpen d.placeholderPrefix then
      d.write request.1 request.2 (d.placeholderPrefix ++ text)
    else d

theorem mem_requests {d : Dictionary} {source : String} {targets : List String}
    {request : String × String} : request ∈ d.requests source targets ↔
      request.1 ∈ targets ∧ request.1 ≠ source ∧ request.2 ∈ d.pending := by
  obtain ⟨target, key⟩ := request
  simp [requests, List.product, and_assoc]

end Dictionary

namespace Propagation

theorem dictionary_step (source : String) (p : Propagation) (request : String × String) :
    (p.step source request.1 request.2).dictionary = p.dictionary.fill source request := by
  cases held : p.dictionary.leaf? source request.2 with
  | none => simp only [step, Dictionary.fill, held]
  | some text =>
    simp only [step, Dictionary.fill, held]
    cases looked : p.dictionary.probe request.1 request.2 (p.dictionary.placeholderPrefix ++ text)
    case different other =>
      cases marked : other.startsWith p.dictionary.placeholderPrefix <;>
        simp [Probe.isOpen, marked, refresh, preserve]
    all_goals rfl

end Propagation

namespace Dictionary

theorem propagate_eq (d : Dictionary) (source : String) (targets : List String) :
    d.propagate source targets = (d.requests source targets).foldl
      (fun p request => p.step source request.1 request.2) ⟨d, .zero, []⟩ := by
  simp only [propagate, requests, List.product, List.foldl_flatMap, List.foldl_map]

theorem dictionary_propagate (d : Dictionary) (source : String) (targets : List String) :
    (d.propagate source targets).dictionary =
      (d.requests source targets).foldl (fill source) d := by
  rw [propagate_eq]
  exact (List.foldl_hom Propagation.dictionary
    fun p request => (p.dictionary_step source request).symm).symm

/-! ## One place -/

section

variable (d : Dictionary) (locale key text : String)

/-- Where a place is open its way is clear, and what is there passes for a placeholder. -/
theorem clear_of_isOpen {marker : String}
    (looked : (d.probe locale key text).isOpen marker = true) :
    Messages.Clear (keySegments key) (d.root locale) ∧
      ∀ value, valueAt? (keySegments key) (d.root locale) = some value → value.IsMarked marker := by
  have clear := d.clear_iff locale key text
  cases found : d.probe locale key text with
  | same | blocked => simp [found, Probe.isOpen] at looked
  | free =>
    have absent := ((d.probe_eq_free_iff locale key text).mp found).1
    exact ⟨clear.mpr (by simp [found]), by simp [absent]⟩
  | different held =>
    obtain ⟨value, here, leaf, -, shown⟩ := (d.probe_eq_different_iff locale key text held).mp found
    rw [found, Probe.isOpen, ← shown] at looked
    exact ⟨clear.mpr (by simp [found]), by simp [here, Json.IsMarked.mk leaf looked]⟩

/-- Where another value is that passes for a placeholder, a place is open. -/
theorem isOpen_of_isMarked {marker : String} {value : Json}
    (found : valueAt? (keySegments key) (d.root locale) = some value)
    (marked : value.IsMarked marker) (differs : value ≠ .string text) :
    (d.probe locale key text).isOpen marker = true := by
  have looked : d.probe locale key text = .different value.shown :=
    (d.probe_eq_different_iff locale key text _).mpr ⟨value, found, marked.leaf, differs, rfl⟩
  rw [looked]
  exact marked.marked

end

/-! ## What filling does to the values -/

/-- Places are asked to be filled with placeholders of texts. In between all values stay but
placeholders in those places, and nothing is gained but placeholders there. -/
structure Fills (asked : String → List String → String → Prop) (before after : Dictionary) :
    Prop where
  sourceLocale_eq : after.sourceLocale = before.sourceLocale
  placeholderPrefix_eq : after.placeholderPrefix = before.placeholderPrefix
  pending_eq : after.pending = before.pending
  roots : ∀ locale, (∀ path text, ¬ asked locale path text) →
    after.root locale = before.root locale
  objects : ∀ locale path members, valueAt? path (before.root locale) = some (.object members) →
    ∃ more, valueAt? path (after.root locale) = some (.object more)
  leaves : ∀ locale path value, value.IsLeaf → valueAt? path (before.root locale) = some value →
    valueAt? path (after.root locale) = some value ∨
      value.IsMarked before.placeholderPrefix ∧ ∃ text, asked locale path text ∧
        valueAt? path (after.root locale) = some (.string (before.placeholderPrefix ++ text))
  gains : ∀ locale path value, value.IsLeaf → valueAt? path (after.root locale) = some value →
    valueAt? path (before.root locale) = some value ∨
      ∃ text, asked locale path text ∧ value = .string (before.placeholderPrefix ++ text)

namespace Fills

variable {asked : String → List String → String → Prop}

theorem refl (d : Dictionary) : Fills asked d d where
  sourceLocale_eq := rfl
  placeholderPrefix_eq := rfl
  pending_eq := rfl
  roots := fun _ _ => rfl
  objects := fun _ _ members found => ⟨members, found⟩
  leaves := fun _ _ _ _ found => Or.inl found
  gains := fun _ _ _ _ found => Or.inl found

theorem trans {a b c : Dictionary} (first : Fills asked a b) (second : Fills asked b c) :
    Fills asked a c where
  sourceLocale_eq := second.sourceLocale_eq.trans first.sourceLocale_eq
  placeholderPrefix_eq := second.placeholderPrefix_eq.trans first.placeholderPrefix_eq
  pending_eq := second.pending_eq.trans first.pending_eq
  roots := fun locale spared => (second.roots locale spared).trans (first.roots locale spared)
  objects := fun locale path members found => by
    obtain ⟨more, found⟩ := first.objects locale path members found
    exact second.objects locale path more found
  leaves := fun locale path value leaf found => by
    have marker := first.placeholderPrefix_eq
    rcases first.leaves locale path value leaf found with stays | ⟨marked, text, due, filled⟩
    · rcases second.leaves locale path value leaf stays with stays | ⟨marked, text, due, filled⟩
      · exact Or.inl stays
      · exact Or.inr ⟨marker ▸ marked, text, due, marker ▸ filled⟩
    · rcases second.leaves locale path _ (Json.isLeaf_string _) filled with
        stays | ⟨-, other, due', filled'⟩
      · exact Or.inr ⟨marked, text, due, stays⟩
      · exact Or.inr ⟨marked, other, due', marker ▸ filled'⟩
  gains := fun locale path value leaf found => by
    have marker := first.placeholderPrefix_eq
    rcases second.gains locale path value leaf found with old | ⟨text, due, same⟩
    · exact first.gains locale path value leaf old
    · exact Or.inr ⟨text, due, marker ▸ same⟩

/-- The texts of a source that is not asked stay. -/
theorem leaf?_source {before after : Dictionary} (fills : Fills asked before after)
    {source : String} (spared : ∀ path text, ¬ asked source path text) (key : String) :
    after.leaf? source key = before.leaf? source key := by
  apply Option.ext
  intro text
  rw [leaf?_eq_some_iff, leaf?_eq_some_iff, fills.roots source spared]

end Fills

/-- One open place is filled. -/
theorem fills_write {asked : String → List String → String → Prop} (d : Dictionary)
    {target key text : String} (due : asked target (keySegments key) text)
    (looked : (d.probe target key (d.placeholderPrefix ++ text)).isOpen d.placeholderPrefix = true) :
    Fills asked d (d.write target key (d.placeholderPrefix ++ text)) := by
  obtain ⟨clear, marked⟩ := d.clear_of_isOpen target key _ looked
  have values := valueAt?_write_of_clear (d.placeholderPrefix ++ text) clear
  refine ⟨by simp, (d.alike_write ..).placeholderPrefix_eq, d.pending_write .., ?_, ?_, ?_, ?_⟩
  · intro locale spared
    refine d.root_write_of_ne target key _ ?_
    rintro rfl
    exact spared _ _ due
  · intro locale path members found
    by_cases same : target = locale
    · subst same
      rw [root_write_self]
      exact Messages.object_putAt _ _ (Messages.keySegments_ne_nil key) _ clear path members found
    · rw [d.root_write_of_ne target key _ same]
      exact ⟨members, found⟩
  · intro locale path value leaf found
    by_cases here : (locale, path) = (target, keySegments key)
    · cases here
      exact Or.inr ⟨marked value found, text, due,
        (values _ _ _ (Json.isLeaf_string _)).mpr (Or.inl ⟨rfl, rfl⟩)⟩
    · exact Or.inl ((values _ _ _ leaf).mpr (Or.inr ⟨here, found⟩))
  · intro locale path value leaf found
    rcases (values _ _ _ leaf).mp found with ⟨here, rfl⟩ | ⟨-, old⟩
    · cases here
      exact Or.inr ⟨text, due, rfl⟩
    · exact Or.inl old

/-- A place that holds another placeholder, or nothing, holds the placeholder of the source text
after it is filled. -/
theorem valueAt?_write_of_isOpen (d : Dictionary) {target key text : String} {marker : String}
    (looked : (d.probe target key text).isOpen marker = true) :
    valueAt? (keySegments key) ((d.write target key text).root target) = some (.string text) := by
  obtain ⟨clear, -⟩ := d.clear_of_isOpen target key _ looked
  exact (valueAt?_write_of_clear _ clear _ _ _ (Json.isLeaf_string _)).mpr (Or.inl ⟨rfl, rfl⟩)

/-- What a propagation asks for: a new key names the place in a target and holds the text in the
source. -/
def Asked (d : Dictionary) (source : String) (targets : List String) (locale : String)
    (path : List String) (text : String) : Prop :=
  locale ∈ targets ∧ locale ≠ source ∧
    ∃ key ∈ d.pending, keySegments key = path ∧ d.leaf? source key = some text

theorem not_asked_source (d : Dictionary) (source : String) (targets path : List String)
    (text : String) : ¬ d.Asked source targets source path text := fun asked => asked.2.1 rfl

/-- Some of the places that are asked for are filled, one after another. -/
theorem Fills.foldl {d now : Dictionary} {source : String} {targets : List String}
    (filled : Fills (d.Asked source targets) d now) (requests : List (String × String))
    (part : ∀ request ∈ requests, request ∈ d.requests source targets) :
    Fills (d.Asked source targets) now (requests.foldl (fill source) now) := by
  refine List.foldlRecOn (motive := Fills (d.Asked source targets) now) requests _ (.refl now)
    fun next fills request listed => fills.trans ?_
  obtain ⟨target, other, pending⟩ := mem_requests.mp (part request listed)
  unfold fill
  split
  next => exact .refl next
  next text held =>
    split
    next looked =>
      rw [(filled.trans fills).leaf?_source (d.not_asked_source source targets)] at held
      exact next.fills_write ⟨target, other, request.2, pending, rfl, held⟩ looked
    next => exact .refl next

theorem alike_fill (source : String) (d : Dictionary) (request : String × String) :
    Alike d (d.fill source request) := by
  unfold fill
  split
  next => exact .refl d
  next =>
    split
    next => exact d.alike_write ..
    next => exact .refl d

theorem alike_propagate (d : Dictionary) (source : String) (targets : List String) :
    Alike d (d.propagate source targets).dictionary := by
  rw [dictionary_propagate]
  exact List.foldlRecOn (motive := Alike d) _ _ (.refl d)
    fun now alike request _ => alike.trans (alike_fill source now request)

/-- A propagation fills places that it asks for. -/
theorem fills_propagate (d : Dictionary) (source : String) (targets : List String) :
    Fills (d.Asked source targets) d (d.propagate source targets).dictionary := by
  rw [dictionary_propagate]
  exact (Fills.refl d).foldl _ fun _ listed => listed

end Dictionary

/-! ## Translations and placeholders -/

/-- A text that starts with the marker. -/
def Json.IsPlaceholder (marker : String) (value : Json) : Prop :=
  ∃ text, value = .string text ∧ text.startsWith marker = true

namespace Dictionary

/-- A value that passes for a placeholder gives way to the placeholder of the source text. -/
theorem valueAt?_fill (d : Dictionary) {source target key text : String} {value : Json}
    (held : d.leaf? source key = some text)
    (found : valueAt? (keySegments key) (d.root target) = some value)
    (marked : value.IsMarked d.placeholderPrefix) :
    valueAt? (keySegments key) ((d.fill source (target, key)).root target) =
      some (.string (d.placeholderPrefix ++ text)) := by
  simp only [fill, held]
  by_cases same : value = .string (d.placeholderPrefix ++ text)
  · have looked := (d.probe_eq_same_iff target key (d.placeholderPrefix ++ text)).mpr
      (same ▸ found)
    rw [looked, Probe.isOpen, if_neg (by decide), found, same]
  · have looked := d.isOpen_of_isMarked target key _ found marked same
    rw [if_pos looked]
    exact d.valueAt?_write_of_isOpen looked

/-- Where a propagation asks for a place, a value that passes for a placeholder becomes a text. -/
theorem exists_string_propagate (d : Dictionary) {source : String} {targets : List String}
    {locale : String} {path : List String} {text : String} {value : Json}
    (asked : d.Asked source targets locale path text)
    (found : valueAt? path (d.root locale) = some value)
    (marked : value.IsMarked d.placeholderPrefix) : ∃ held,
      valueAt? path ((d.propagate source targets).dictionary.root locale) = some (.string held) := by
  obtain ⟨target, other, key, pending, rfl, held⟩ := asked
  have listed : (locale, key) ∈ d.requests source targets :=
    mem_requests.mpr ⟨target, other, pending⟩
  obtain ⟨first, second, split⟩ := List.append_of_mem listed
  have part (request : String × String) (member : request ∈ first ∨ request ∈ second) :
      request ∈ d.requests source targets := by
    rw [split, List.mem_append, List.mem_cons]
    exact member.imp_right Or.inr
  rw [dictionary_propagate, split, List.foldl_append, List.foldl_cons]
  -- Before the place is filled it holds the value still or a placeholder; both give way.
  have before := (Fills.refl d).foldl first fun request member => part request (Or.inl member)
  generalize first.foldl (fill source) d = now at before
  have waiting : ∃ now' : Json, valueAt? (keySegments key) (now.root locale) = some now' ∧
      now'.IsMarked now.placeholderPrefix := by
    rw [before.placeholderPrefix_eq]
    rcases before.leaves locale _ value marked.leaf found with stays | ⟨-, other, -, filled⟩
    · exact ⟨value, stays, marked⟩
    · exact ⟨_, filled, Json.isMarked_string _ other⟩
  obtain ⟨waiting, here, passes⟩ := waiting
  rw [← before.leaf?_source (d.not_asked_source source targets)] at held
  have filled := now.valueAt?_fill held here passes
  -- Afterwards it may be asked for again, which leaves a text there.
  have between := before.trans (before.foldl [(locale, key)]
    (List.forall_mem_singleton.mpr listed))
  have after := between.foldl second fun request member => part request (Or.inr member)
  rcases after.leaves locale _ _ (Json.isLeaf_string _) filled with stays | ⟨-, other, -, again⟩
  · exact ⟨_, stays⟩
  · exact ⟨_, again⟩

/-- A propagation keeps its source, fills places with placeholders and keeps everything else. It
keeps all values that are no placeholders exactly if, in the places that it asks for, no value but
a text passes for a placeholder. -/
theorem propagate_spares_translations (d : Dictionary) (source : String) (targets : List String) :
    let after := (d.propagate source targets).dictionary
    after.root source = d.root source ∧
    Fills (d.Asked source targets) d after ∧
    ((∀ locale path value, value.IsLeaf → valueAt? path (d.root locale) = some value →
        ¬ value.IsPlaceholder d.placeholderPrefix →
        valueAt? path (after.root locale) = some value) ↔
      ∀ locale path text value, d.Asked source targets locale path text →
        valueAt? path (d.root locale) = some value → value.IsMarked d.placeholderPrefix →
        value.IsPlaceholder d.placeholderPrefix) := by
  intro after
  have fills : Fills (d.Asked source targets) d after := d.fills_propagate source targets
  refine ⟨fills.roots source (d.not_asked_source source targets), fills, fun spares => ?_,
    fun texts => ?_⟩
  · intro locale path text value asked found marked
    refine Classical.byContradiction fun other => ?_
    have stays := spares locale path value marked.leaf found other
    obtain ⟨held, changed⟩ := d.exists_string_propagate asked found marked
    obtain rfl : value = .string held := Option.some.inj (stays.symm.trans changed)
    exact other ⟨held, rfl, marked.marked⟩
  · intro locale path value leaf found other
    rcases fills.leaves locale path value leaf found with stays | ⟨marked, text, asked, -⟩
    · exact stays
    · exact absurd (texts locale path text value asked found marked) other

/-! Weekdays that are a list in one locale and a new text in the other. -/

namespace Weekdays

def days : Json := .array [.string "Mon", .string "Tue"]

def dictionary : Dictionary where
  directory := ""
  sourceLocale := "en"
  placeholderPrefix := "["
  messages := [("de", [("common", .object [("days", days)])]),
    ("en", [("common", .object [("days", .string "Days")])])]
  styles := []
  pending := ["common.days"]
  dirty := ["en"]

end Weekdays

/-- A list starts with the bracket that marks placeholders, and is lost. -/
theorem propagate_loses_list :
    Weekdays.dictionary.placeholderPrefix ≠ "" ∧ Weekdays.days.IsLeaf ∧
    ¬ Weekdays.days.IsPlaceholder Weekdays.dictionary.placeholderPrefix ∧
    valueAt? ["common", "days"] (Weekdays.dictionary.root "de") = some Weekdays.days ∧
    valueAt? ["common", "days"]
        ((Weekdays.dictionary.propagate "en" ["de"]).dictionary.root "de") =
      some (.string "[Days") := by
  have way : keySegments "common.days" = ["common", "days"] := by decide
  have held : (Weekdays.dictionary.propagate "en" ["de"]).dictionary.leaf? "de" "common.days" =
    some "[Days" := by decide +kernel
  rw [leaf?_eq_some_iff, way] at held
  refine ⟨by decide, (fun _ same => by cases same), ?_, rfl, held⟩
  rintro ⟨text, same, -⟩
  cases same

end Dictionary

end Phrasebook
