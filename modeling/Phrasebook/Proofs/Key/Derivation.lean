import Phrasebook.Key.Derivation
import Phrasebook.Proofs.Dictionary.Writing
import Phrasebook.Proofs.Outcome

/-!
# Deriving keys is safe

A derived key holds its text, at once and after any further calls, so different texts never share a
key. No call changes or removes a value of any locale. A call fails only if the key and all numbers
behind it are occupied.
-/

namespace Phrasebook

open Json (valueAt? IsLeaf Occupied)

namespace Dictionary

/-- The dictionary with a new text of the source locale. -/
def withNew (d : Dictionary) (key text : String) : Dictionary :=
  (d.write d.sourceLocale key text).await d.sourceLocale key

/-- A key is occupied for a text of the source locale. -/
def OccupiedFor (d : Dictionary) (text key : String) : Prop :=
  Occupied text (keySegments key) (d.root d.sourceLocale)

/-- Where a text found its key, among attempts from `first` on and before `stop`: those before are
occupied, and there either nothing is, and the text is put there, or the text is there already. -/
structure FoundAt (d : Dictionary) (base text : String) (first stop n : Nat) (found : Derivation) :
    Prop where
  low : first ≤ n
  high : n < stop
  occupied : ∀ m, first ≤ m → m < n → d.OccupiedFor text (Key.suffixed base m)
  result :
    d.probe d.sourceLocale (Key.suffixed base n) text = .free ∧
        found = ⟨Key.suffixed base n, .new, n, d.withNew (Key.suffixed base n) text⟩ ∨
      d.probe d.sourceLocale (Key.suffixed base n) text = .same ∧
        found = ⟨Key.suffixed base n, .reused, n, d⟩

theorem set_of_free (d : Dictionary) (key text : String)
    (free : d.probe d.sourceLocale key text = .free) :
    d.set d.sourceLocale key text false = .ok (d.withNew key text) := by
  simp only [set, free, withNew]

/-- A text that asks for a free key gets it. -/
theorem derive_of_free (d : Dictionary) (base text : String)
    (free : d.probe d.sourceLocale base text = .free) :
    d.derive base text = .ok ⟨base, .new, 0, d.withNew base text⟩ := by
  have first : Key.suffixed base 0 = base := rfl
  have added := d.set_of_free base text free
  simp only [derive, deriveFrom, first, free, added]
  rfl

/-- An attempt that is occupied is followed by the next one. -/
theorem deriveFrom_of_occupied (d : Dictionary) (base text : String) (attempt count : Nat)
    (occupied : d.OccupiedFor text (Key.suffixed base attempt)) :
    d.deriveFrom base text attempt (count + 1) = d.deriveFrom base text (attempt + 1) count := by
  rcases (probe_occupied_iff _ _ _ _).mpr occupied with ⟨held, looked⟩ | ⟨place, looked⟩
  · simp only [deriveFrom, looked]
  · simp only [deriveFrom, looked]

/-- Every attempt is free, shared or occupied. -/
theorem probe_cases (d : Dictionary) (key text : String) :
    d.probe d.sourceLocale key text = .free ∨ d.probe d.sourceLocale key text = .same ∨
      d.OccupiedFor text key := by
  have occupied := d.probe_occupied_iff d.sourceLocale key text
  cases looked : d.probe d.sourceLocale key text with
  | free => exact Or.inl rfl
  | same => exact Or.inr (Or.inl rfl)
  | different held => exact Or.inr (Or.inr (occupied.mp (Or.inl ⟨held, looked⟩)))
  | blocked place => exact Or.inr (Or.inr (occupied.mp (Or.inr ⟨place, looked⟩)))

/-- One more occupied attempt in front of others. -/
private theorem occupied_cons {d : Dictionary} {base text : String} {first stop : Nat}
    (here : d.OccupiedFor text (Key.suffixed base first))
    (others : ∀ m, first + 1 ≤ m → m < stop → d.OccupiedFor text (Key.suffixed base m)) :
    ∀ m, first ≤ m → m < stop → d.OccupiedFor text (Key.suffixed base m) := by
  intro m low high
  rcases Nat.eq_or_lt_of_le low with rfl | later
  · exact here
  · exact others m later high

/-- A search for a key that succeeds found it. -/
theorem deriveFrom_found (d : Dictionary) (base text : String) (attempt count : Nat)
    (found : Derivation) (returned : d.deriveFrom base text attempt count = .ok found) :
    ∃ n, d.FoundAt base text attempt (attempt + count) n found := by
  induction count generalizing attempt with
  | zero => cases returned
  | succ count ih =>
    rcases d.probe_cases (Key.suffixed base attempt) text with free | same | occupied
    · have added := d.set_of_free _ text free
      simp only [deriveFrom, free, added, Except.map, Except.ok.injEq] at returned
      exact ⟨attempt, Nat.le_refl _, by omega, fun m low high => by omega,
        Or.inl ⟨free, returned.symm⟩⟩
    · simp only [deriveFrom, same, Except.ok.injEq] at returned
      exact ⟨attempt, Nat.le_refl _, by omega, fun m low high => by omega,
        Or.inr ⟨same, returned.symm⟩⟩
    · rw [deriveFrom_of_occupied d base text attempt count occupied] at returned
      -- This attempt is one more occupied one before the attempt that succeeds.
      obtain ⟨n, later⟩ := ih (attempt + 1) returned
      have := later.low
      have := later.high
      exact ⟨n, by omega, by omega, occupied_cons occupied later.occupied, later.result⟩

/-- A search for a key fails only if all attempts are occupied. -/
theorem deriveFrom_eq_error (d : Dictionary) (base text : String) (attempt count : Nat)
    (failure : Failure) (returned : d.deriveFrom base text attempt count = .error failure) :
    failure = .suffixesExhausted base Key.maxSuffix ∧
      ∀ m, attempt ≤ m → m < attempt + count → d.OccupiedFor text (Key.suffixed base m) := by
  induction count generalizing attempt with
  | zero =>
    cases returned
    exact ⟨rfl, fun m low high => by omega⟩
  | succ count ih =>
    rcases d.probe_cases (Key.suffixed base attempt) text with free | same | occupied
    · have added := d.set_of_free _ text free
      -- A free attempt ends the search with a key, as does one that holds the text.
      simp [deriveFrom, free, added, Except.map] at returned
    · simp [deriveFrom, same] at returned
    · rw [deriveFrom_of_occupied d base text attempt count occupied] at returned
      obtain ⟨exhausted, others⟩ := ih (attempt + 1) returned
      exact ⟨exhausted, occupied_cons occupied fun m low high => others m low (by omega)⟩

/-- If an attempt holds the text and all before it are occupied, the text is found there. -/
theorem deriveFrom_of_shared (d : Dictionary) (base text : String) (attempt count n : Nat)
    (low : attempt ≤ n) (high : n < attempt + count)
    (occupied : ∀ m, attempt ≤ m → m < n → d.OccupiedFor text (Key.suffixed base m))
    (same : d.probe d.sourceLocale (Key.suffixed base n) text = .same) :
    d.deriveFrom base text attempt count = .ok ⟨Key.suffixed base n, .reused, n, d⟩ := by
  induction count generalizing attempt with
  | zero => omega
  | succ count ih =>
    rcases Nat.eq_or_lt_of_le low with rfl | later
    · simp only [deriveFrom, same]
    · rw [deriveFrom_of_occupied d base text attempt count (occupied attempt (Nat.le_refl _) later)]
      exact ih (attempt + 1) later (by omega) fun m low high => occupied m (by omega) high

/-! ## What a search does to the dictionary -/

/-- A locale gains one value, and no other value of any locale changes. -/
structure GainsLeaf (before after : Dictionary) (locale : String) (path : List String)
    (text : String) : Prop where
  absent : valueAt? path (before.root locale) = none
  values : ∀ other place value, value.IsLeaf →
    (valueAt? place (after.root other) = some value ↔
      valueAt? place (before.root other) = some value ∨
        other = locale ∧ place = path ∧ value = .string text)

theorem root_withNew (d : Dictionary) (key text locale : String) :
    (d.withNew key text).root locale = (d.write d.sourceLocale key text).root locale := by
  rw [withNew, root_await]

theorem grows_withNew (d : Dictionary) (key text : String)
    (free : d.probe d.sourceLocale key text = .free) : d.Grows (d.withNew key text) where
  sourceLocale_eq := by rw [withNew, sourceLocale_await, sourceLocale_write]
  roots := fun locale => by
    rw [root_withNew]
    exact (d.grows_write d.sourceLocale key text free).roots locale

theorem alike_withNew (d : Dictionary) (key text : String) : Alike d (d.withNew key text) :=
  (d.alike_write ..).trans (alike_await ..)

@[simp] theorem pending_withNew (d : Dictionary) (key text : String) :
    (d.withNew key text).pending = d.pending ++ [key] := by
  rw [withNew, await, if_pos (sourceLocale_write ..).symm, pending_write]

theorem gainsLeaf_withNew (d : Dictionary) (key text : String)
    (free : d.probe d.sourceLocale key text = .free) :
    d.GainsLeaf (d.withNew key text) d.sourceLocale (keySegments key) text where
  absent := ((d.probe_eq_free_iff d.sourceLocale key text).mp free).1
  values := fun other place value leaf => by
    rw [root_withNew]
    exact d.valueAt?_write d.sourceLocale key text free other place value leaf

namespace FoundAt

variable {d : Dictionary} {base text : String} {first stop n : Nat} {found : Derivation}

theorem key_eq (place : d.FoundAt base text first stop n found) :
    found.key = Key.suffixed base n := by
  rcases place.result with ⟨-, rfl⟩ | ⟨-, rfl⟩ <;> rfl

theorem attempt_eq (place : d.FoundAt base text first stop n found) : found.attempt = n := by
  rcases place.result with ⟨-, rfl⟩ | ⟨-, rfl⟩ <;> rfl

theorem grows (place : d.FoundAt base text first stop n found) : d.Grows found.dictionary := by
  rcases place.result with ⟨free, rfl⟩ | ⟨-, rfl⟩
  · exact d.grows_withNew _ text free
  · exact .refl d

theorem of_reused (place : d.FoundAt base text first stop n found)
    (reused : found.status = .reused) : found.dictionary = d := by
  rcases place.result with ⟨-, rfl⟩ | ⟨-, rfl⟩
  · cases reused
  · rfl

theorem of_new (place : d.FoundAt base text first stop n found) (new : found.status = .new) :
    d.GainsLeaf found.dictionary d.sourceLocale (keySegments found.key) text := by
  rcases place.result with ⟨free, rfl⟩ | ⟨-, rfl⟩
  · exact d.gainsLeaf_withNew _ text free
  · cases new

/-- The key that was found holds the text. -/
theorem leaf?_eq (place : d.FoundAt base text first stop n found) :
    found.dictionary.leaf? d.sourceLocale found.key = some text := by
  rw [leaf?_eq_some_iff]
  rcases place.result with ⟨free, rfl⟩ | ⟨same, rfl⟩
  · exact ((d.gainsLeaf_withNew _ text free).values _ _ _ (Json.isLeaf_string text)).mpr
      (Or.inr ⟨rfl, rfl, rfl⟩)
  · exact (d.probe_eq_same_iff _ _ _).mp same

end FoundAt

/-- A text that a key holds stays while the dictionary grows. -/
theorem Grows.leaf?_eq {before after : Dictionary} (grows : before.Grows after)
    {locale key text : String} (held : before.leaf? locale key = some text) :
    after.leaf? locale key = some text := by
  rw [leaf?_eq_some_iff] at held ⊢
  exact (grows.roots locale).leaves _ _ held (Json.isLeaf_string text)

end Dictionary

/-! ## Calls -/

/-- A candidate of a file that gets its key. -/
structure KeyCall where
  rules : KeyRules
  withinRoot : String
  candidate : Candidate

namespace KeyCall

/-- The key that a call asks for. -/
def base (call : KeyCall) : String := call.rules.key call.withinRoot call.candidate.text

def derive (call : KeyCall) (d : Dictionary) : Except Failure Derived :=
  call.rules.derive call.withinRoot call.candidate d

/-- The dictionary after a call; a call that fails leaves it alone. -/
def after (d : Dictionary) (call : KeyCall) : Dictionary :=
  match call.derive d with
  | .ok found => found.dictionary
  | .error _ => d

/-- The dictionary after calls. -/
def run (calls : List KeyCall) (d : Dictionary) : Dictionary := calls.foldl after d

theorem derive_eq (call : KeyCall) (d : Dictionary) :
    call.derive d = (d.derive call.base call.candidate.text).map fun found =>
      { entry := ⟨call.candidate, found.key, call.rules.spaceName call.withinRoot, found.status⟩
        suffixed := found.attempt ≠ 0
        dictionary := found.dictionary } := rfl

theorem after_of_free (call : KeyCall) {d : Dictionary}
    (free : d.probe d.sourceLocale call.base call.candidate.text = .free) :
    after d call = d.withNew call.base call.candidate.text := by
  rw [after, derive_eq, d.derive_of_free _ _ free]
  rfl

/-- A call that yields an entry yields one for its candidate, with the key that was found. -/
theorem exists_derivation (call : KeyCall) (d : Dictionary) (found : Derived)
    (returned : call.derive d = .ok found) :
    ∃ derivation, d.derive call.base call.candidate.text = .ok derivation ∧ found =
      { entry := ⟨call.candidate, derivation.key, call.rules.spaceName call.withinRoot,
          derivation.status⟩
        suffixed := derivation.attempt ≠ 0
        dictionary := derivation.dictionary } := by
  rw [derive_eq] at returned
  obtain ⟨derivation, searched, same⟩ := map_eq_ok_iff.mp returned
  exact ⟨derivation, searched, same.symm⟩

theorem candidate_of_derive (call : KeyCall) (d : Dictionary) (found : Derived)
    (returned : call.derive d = .ok found) : found.entry.candidate = call.candidate := by
  obtain ⟨derivation, -, rfl⟩ := call.exists_derivation d found returned
  rfl

theorem derive_found (call : KeyCall) (d : Dictionary) (found : Derived)
    (returned : call.derive d = .ok found) :
    ∃ n, d.FoundAt call.base call.candidate.text 0 (Key.maxSuffix + 1) n
      ⟨found.entry.key, found.entry.status, n, found.dictionary⟩ := by
  obtain ⟨derivation, searched, rfl⟩ := call.exists_derivation d found returned
  obtain ⟨n, place⟩ := d.deriveFrom_found _ _ _ _ _ searched
  have attempt := place.attempt_eq
  rw [Nat.zero_add] at place
  subst attempt
  exact ⟨derivation.attempt, place⟩

theorem derive_eq_error (call : KeyCall) (d : Dictionary) (failure : Failure)
    (returned : call.derive d = .error failure) :
    failure = .suffixesExhausted call.base Key.maxSuffix ∧
      ∀ n ≤ Key.maxSuffix, d.OccupiedFor call.candidate.text (Key.suffixed call.base n) := by
  rw [derive_eq] at returned
  cases searched : d.derive call.base call.candidate.text with
  | error failure =>
    rw [searched] at returned
    cases returned
    obtain ⟨exhausted, occupied⟩ := d.deriveFrom_eq_error _ _ _ _ _ searched
    exact ⟨exhausted, fun n high => occupied n (Nat.zero_le n) (by omega)⟩
  | ok derivation =>
    rw [searched] at returned
    cases returned

/-- A call puts its text under a free key, or it does nothing. -/
theorem after_cases (call : KeyCall) (d : Dictionary) : after d call = d ∨ ∃ n,
    d.probe d.sourceLocale (Key.suffixed call.base n) call.candidate.text = .free ∧
      after d call = d.withNew (Key.suffixed call.base n) call.candidate.text := by
  unfold after
  split
  next found returned =>
    obtain ⟨n, place⟩ := call.derive_found d found returned
    rcases place.result with ⟨free, same⟩ | ⟨-, same⟩
    · exact Or.inr ⟨n, free, congrArg Derivation.dictionary same⟩
    · exact Or.inl (congrArg Derivation.dictionary same)
  next => exact Or.inl rfl

theorem grows_after (call : KeyCall) (d : Dictionary) : d.Grows (after d call) := by
  rcases call.after_cases d with same | ⟨n, free, same⟩ <;> rw [same]
  · exact .refl d
  · exact d.grows_withNew _ _ free

theorem alike_after (call : KeyCall) (d : Dictionary) : d.Alike (after d call) := by
  rcases call.after_cases d with same | ⟨n, -, same⟩ <;> rw [same]
  · exact .refl d
  · exact d.alike_withNew _ _

theorem alike_run (calls : List KeyCall) (d : Dictionary) : d.Alike (run calls d) :=
  List.foldlRecOn (motive := d.Alike) calls after (.refl d)
    fun now alike call _ => alike.trans (call.alike_after now)

theorem grows_run (calls : List KeyCall) (d : Dictionary) : d.Grows (run calls d) := by
  induction calls generalizing d with
  | nil => exact .refl d
  | cons call calls ih =>
    rw [run, List.foldl_cons]
    exact (grows_after call d).trans (ih (after d call))

theorem sourceLocale_run (calls : List KeyCall) (d : Dictionary) :
    (run calls d).sourceLocale = d.sourceLocale := (grows_run calls d).sourceLocale_eq

/-- A call among others: if it yields a key, the key holds the call's text from then on, later keys
of other texts differ from it, and the dictionary loses nothing and gains at most the text. If it
fails, the key and all numbers behind it are occupied, and nothing happens. -/
theorem derive_collision_safe (d : Dictionary) (earlier later : List KeyCall) (call : KeyCall) :
    let before := run earlier d
    let text := call.candidate.text
    (∀ found, call.derive before = .ok found →
      found.dictionary.leaf? d.sourceLocale found.entry.key = some text ∧
      (run later found.dictionary).leaf? d.sourceLocale found.entry.key = some text ∧
      (∀ (next : KeyCall) (other : Derived), next.derive (run later found.dictionary) = .ok other →
        next.candidate.text ≠ text → other.entry.key ≠ found.entry.key) ∧
      before.Grows found.dictionary ∧
      (found.entry.status = .reused → found.dictionary = before) ∧
      (found.entry.status = .new → before.GainsLeaf found.dictionary d.sourceLocale
        (keySegments found.entry.key) text)) ∧
    ∀ failure, call.derive before = .error failure →
      failure = .suffixesExhausted call.base Key.maxSuffix ∧
      (∀ n ≤ Key.maxSuffix, before.OccupiedFor text (Key.suffixed call.base n)) ∧
      after before call = before := by
  intro before text
  -- All that is known of `before` is that it comes from `d`, with the same source locale.
  have source : before.sourceLocale = d.sourceLocale := sourceLocale_run earlier d
  refine ⟨fun found returned => ?_, fun failure returned => ?_⟩
  · obtain ⟨n, place⟩ := call.derive_found before found returned
    have held := place.leaf?_eq
    rw [source] at held
    have kept := (grows_run later found.dictionary).leaf?_eq held
    refine ⟨held, kept, fun next other again differs same => ?_, place.grows, place.of_reused,
      fun new => source ▸ place.of_new new⟩
    · -- One key holds one text: it holds `text` still, and what the later call put there.
      obtain ⟨m, found'⟩ := next.derive_found _ other again
      have held' := found'.leaf?_eq
      have kept' := found'.grows.leaf?_eq kept
      rw [sourceLocale_run, place.grows.sourceLocale_eq, source] at held'
      rw [same, kept'] at held'
      exact differs (Option.some.inj held').symm
  · obtain ⟨exhausted, occupied⟩ := call.derive_eq_error before failure returned
    refine ⟨exhausted, occupied, ?_⟩
    rw [after, returned]

end KeyCall

/-! Greetings that ask for one key. -/

namespace Greeting

def call (text : String) : KeyCall where
  rules := ⟨"common", [], 4, 32⟩
  withinRoot := "a.ts"
  candidate := ⟨text, text, "a.ts", ⟨1, 1⟩, .markupText, none, ""⟩

def dictionary : Dictionary where
  directory := ""
  sourceLocale := "en"
  placeholderPrefix := "?"
  messages := [("en", [("common", .object [("a", .object [("hi", .string "Hi!")])])])]
  styles := []
  pending := []
  dirty := []

example : (KeyCall.run [call "Hi!", call "Hi", call "HI", call "Hi"] dictionary).pending =
    ["common.a.hi_1", "common.a.hi_2"] := by decide +kernel

end Greeting

end Phrasebook
