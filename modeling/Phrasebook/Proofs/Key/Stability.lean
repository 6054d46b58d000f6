import Phrasebook.Proofs.Dictionary.Propagating
import Phrasebook.Proofs.Key.Derivation
import Phrasebook.Proofs.Outcome

/-!
# Keys are stable

Once a text of a file has a key, it gets the same key again. What occupied the attempts before the
key occupies them for ever, as nothing is removed from the source locale, and the key itself holds
the text.

So the keys of a run are found again, each where it was, in any dictionary that recalls the one that
the run has left: texts of the source locale are there, and what was occupied is occupied. A text that
found no key finds none again, and the calls of the run leave such a dictionary alone.
-/

namespace Phrasebook

open Json (valueAt? Occupied)

namespace Dictionary

/-- The source locale grows. -/
structure SourceGrows (before after : Dictionary) : Prop where
  sourceLocale_eq : after.sourceLocale = before.sourceLocale
  root : Json.Grows (before.root before.sourceLocale) (after.root before.sourceLocale)

theorem Grows.source {before after : Dictionary} (grows : before.Grows after) :
    SourceGrows before after := ⟨grows.sourceLocale_eq, grows.roots _⟩

theorem SourceGrows.trans {a b c : Dictionary} (first : SourceGrows a b)
    (second : SourceGrows b c) : SourceGrows a c where
  sourceLocale_eq := second.sourceLocale_eq.trans first.sourceLocale_eq
  root := by
    have rest := second.root
    rw [first.sourceLocale_eq] at rest
    exact first.root.trans rest

/-- In between, texts of the source locale stay, and what is occupied stays so. -/
structure Recalls (before after : Dictionary) : Prop where
  sourceLocale_eq : after.sourceLocale = before.sourceLocale
  texts : ∀ path text, valueAt? path (before.root before.sourceLocale) = some (.string text) →
    valueAt? path (after.root before.sourceLocale) = some (.string text)
  occupied : ∀ text path, Occupied text path (before.root before.sourceLocale) →
    Occupied text path (after.root before.sourceLocale)

theorem SourceGrows.recalls {before after : Dictionary} (grows : SourceGrows before after) :
    Recalls before after where
  sourceLocale_eq := grows.sourceLocale_eq
  texts := fun path _ found => grows.root.leaves path _ found (Json.isLeaf_string _)
  occupied := fun _ _ => grows.root.occupied

namespace Recalls

variable {a b c : Dictionary}

theorem trans (first : Recalls a b) (second : Recalls b c) : Recalls a c where
  sourceLocale_eq := second.sourceLocale_eq.trans first.sourceLocale_eq
  texts := fun path text found => by
    have later := second.texts path text
    rw [first.sourceLocale_eq] at later
    exact later (first.texts path text found)
  occupied := fun text path here => by
    have later := second.occupied text path
    rw [first.sourceLocale_eq] at later
    exact later (first.occupied text path here)

theorem occupiedFor (recalls : Recalls a b) {text key : String} (here : a.OccupiedFor text key) :
    b.OccupiedFor text key := by
  rw [OccupiedFor, recalls.sourceLocale_eq]
  exact recalls.occupied _ _ here

end Recalls

/-- A key that was found is found again where the texts and what is occupied are recalled. -/
theorem FoundAt.deriveFrom_recalled {d later : Dictionary} {base text : String}
    {first count n : Nat} {found : Derivation}
    (place : d.FoundAt base text first (first + count) n found)
    (recalls : Recalls found.dictionary later) :
    later.deriveFrom base text first count = .ok ⟨found.key, .reused, n, later⟩ := by
  have whole : Recalls d later := place.grows.source.recalls.trans recalls
  -- No earlier attempt becomes free: what occupied it is still there, or an object with more in it.
  have occupied : ∀ m, first ≤ m → m < n → later.OccupiedFor text (Key.suffixed base m) :=
    fun m low high => whole.occupiedFor (place.occupied m low high)
  -- The attempt that succeeded holds the text, and keeps it.
  have same : later.probe later.sourceLocale (Key.suffixed base n) text = .same := by
    have held := (leaf?_eq_some_iff _ _ _ _).mp place.leaf?_eq
    have source := place.grows.sourceLocale_eq
    rw [probe_eq_same_iff, whole.sourceLocale_eq, ← place.key_eq, ← source]
    exact recalls.texts _ _ (source ▸ held)
  rw [later.deriveFrom_of_shared base text first count n place.low place.high occupied same,
    place.key_eq]

end Dictionary

/-- What happens to a dictionary between the calls of a run. -/
inductive KeyOperation where
  | derive (call : KeyCall)
  | propagate (source : String) (targets : List String)

namespace KeyOperation

open Dictionary (SourceGrows)

/-- The dictionary after an operation. -/
def after (d : Dictionary) : KeyOperation → Dictionary
  | derive call => KeyCall.after d call
  | propagate source targets => (d.propagate source targets).dictionary

/-- The dictionary after operations. -/
def run (operations : List KeyOperation) (d : Dictionary) : Dictionary := operations.foldl after d

end KeyOperation

/-! ## Keys that are found again -/

/-- An entry whose key was there before. -/
def Entry.again (e : Entry) : Entry := { e with status := .reused }

open Dictionary (Recalls)

namespace Dictionary

/-- Where all attempts are occupied, there is no key. -/
theorem deriveFrom_of_all_occupied (d : Dictionary) (base text : String) (attempt count : Nat)
    (occupied : ∀ m, attempt ≤ m → m < attempt + count →
      d.OccupiedFor text (Key.suffixed base m)) :
    d.deriveFrom base text attempt count = .error (.suffixesExhausted base Key.maxSuffix) := by
  induction count generalizing attempt with
  | zero => rfl
  | succ count ih =>
    rw [deriveFrom_of_occupied d base text attempt count (occupied attempt (Nat.le_refl _) (by omega))]
    exact ih (attempt + 1) fun m low high => occupied m (by omega) (by omega)

end Dictionary

namespace KeyCall

variable {d later : Dictionary}

/-- A call that is made again comes to the same end. -/
theorem derive_again (call : KeyCall) (recalls : Recalls (after d call) later) :
    call.derive later = (call.derive d).map fun found =>
      { entry := found.entry.again, suffixed := found.suffixed, dictionary := later } := by
  have whole : 0 + (Key.maxSuffix + 1) = Key.maxSuffix + 1 := Nat.zero_add _
  cases returned : call.derive d with
  | ok found =>
    have same : after d call = found.dictionary := by rw [after, returned]
    obtain ⟨derivation, searched, rfl⟩ := call.exists_derivation d found returned
    obtain ⟨n, place⟩ := d.deriveFrom_found _ _ _ _ _ searched
    have recalls' : Recalls derivation.dictionary later := by rwa [same] at recalls
    rw [derive_eq, Dictionary.derive, place.deriveFrom_recalled recalls', ← place.attempt_eq]
    rfl
  | error failure =>
    have same : after d call = d := by rw [after, returned]
    obtain ⟨rfl, occupied⟩ := call.derive_eq_error d failure returned
    rw [derive_eq, Dictionary.derive, Dictionary.deriveFrom_of_all_occupied]
    · rfl
    · intro m _ high
      exact (same ▸ recalls).occupiedFor (occupied m (by omega))

/-- The entry that a call brings. -/
def yielded? (call : KeyCall) (d : Dictionary) : Option Entry :=
  (call.derive d).toOption.map Derived.entry

/-- The entries that calls bring, one after another. -/
def entries : List KeyCall → Dictionary → List Entry
  | [], _ => []
  | call :: rest, d => (call.yielded? d).toList ++ entries rest (after d call)

theorem entries_append (calls more : List KeyCall) (d : Dictionary) :
    entries (calls ++ more) d = entries calls d ++ entries more (run calls d) := by
  induction calls generalizing d with
  | nil => rfl
  | cons call calls ih =>
    simp only [List.cons_append, entries, ih, run, List.foldl_cons, List.append_assoc]

theorem run_append (calls more : List KeyCall) (d : Dictionary) :
    run (calls ++ more) d = run more (run calls d) := List.foldl_append

/-- Each entry has the key that one of the calls asks for, with or without a number behind it. -/
theorem exists_call_of_mem_entries {calls : List KeyCall} {e : Entry} (member : e ∈ entries calls d) :
    ∃ call ∈ calls, ∃ n, e.key = Key.suffixed call.base n := by
  induction calls generalizing d with
  | nil => exact absurd member List.not_mem_nil
  | cons call calls ih =>
    rcases List.mem_append.mp member with here | later
    · obtain ⟨found, returned, rfl⟩ := Option.map_eq_some_iff.mp (Option.mem_toList.mp here)
      obtain ⟨n, place⟩ := call.derive_found d found (toOption_eq_some_iff.mp returned)
      exact ⟨call, List.mem_cons_self, n, place.key_eq⟩
    · obtain ⟨other, listed, found⟩ := ih later
      exact ⟨other, List.mem_cons_of_mem _ listed, found⟩

/-- Calls that are made again bring the same entries, whose keys are all there, and change nothing. -/
theorem entries_again (calls : List KeyCall) (recalls : Recalls (run calls d) later) :
    entries calls later = (entries calls d).map Entry.again ∧ run calls later = later := by
  induction calls generalizing d with
  | nil => exact ⟨rfl, rfl⟩
  | cons call calls ih =>
    rw [run, List.foldl_cons] at recalls
    -- The calls that follow lose nothing of what this one has left.
    have here := call.derive_again ((grows_run calls (after d call)).source.recalls.trans recalls)
    have stays : after later call = later := by
      rw [after, here]
      cases call.derive d <;> rfl
    have brought : call.yielded? later = (call.yielded? d).map Entry.again := by
      rw [yielded?, yielded?, here]
      cases call.derive d <;> rfl
    obtain ⟨rest, unchanged⟩ := ih recalls
    constructor
    · rw [entries, entries, stays, brought, rest, List.map_append, Option.toList_map]
    · rw [run, List.foldl_cons, stays]
      exact unchanged

end KeyCall

end Phrasebook
