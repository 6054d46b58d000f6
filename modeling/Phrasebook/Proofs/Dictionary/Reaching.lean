import Phrasebook.Proofs.Dictionary.Awaiting

/-!
# New keys reach every target

As the places of new keys are apart, what a propagation finds at a place is what was there before
it. So its counts are those of the places that it asks for, each place is filled, keeps its
translation or is blocked, and nothing is left to do.
-/

namespace Phrasebook

open Json (valueAt? IsLeaf Obstructed)

/-! ## One look -/

/-- How a place is treated. -/
inductive Treatment where
  | inserted
  | refreshed
  | preserved
  | conflicting
  deriving DecidableEq

namespace Probe

/-- How a place is treated where this is found. -/
def treatment (marker : String) : Probe → Treatment
  | .free => .inserted
  | .same => .preserved
  | .different held => if held.startsWith marker then .refreshed else .preserved
  | .blocked _ => .conflicting

/-- What is found afterwards. -/
def settled (marker : String) (probe : Probe) : Probe := if probe.isOpen marker then .same else probe

theorem isOpen_settled (marker : String) (probe : Probe) :
    (probe.settled marker).isOpen marker = false := by
  unfold settled
  split
  next => rfl
  next closed => simpa using closed

theorem settled_settled (marker : String) (probe : Probe) :
    (probe.settled marker).settled marker = probe.settled marker := by
  rw [settled, isOpen_settled]
  rfl

end Probe

/-- How many places were treated in a way. -/
def PropagationCounts.count (c : PropagationCounts) : Treatment → Nat
  | .inserted => c.inserted
  | .refreshed => c.refreshed
  | .preserved => c.preserved
  | .conflicting => c.conflicts

def PropagationCounts.total (c : PropagationCounts) : Nat :=
  c.inserted + c.refreshed + c.preserved + c.conflicts

namespace Dictionary

/-- How a place is treated; not at all if the source holds no text. -/
def treatment? (d : Dictionary) (source : String) (request : String × String) : Option Treatment :=
  (d.look? source request).map (Probe.treatment d.placeholderPrefix)

end Dictionary

theorem Propagation.count_step (source : String) (p : Propagation) (request : String × String)
    (way : Treatment) : (p.step source request.1 request.2).counts.count way =
      p.counts.count way + if p.dictionary.treatment? source request = some way then 1 else 0 := by
  cases held : p.dictionary.leaf? source request.2 with
  | none =>
    have untreated : p.dictionary.treatment? source request = none := by
      simp [Dictionary.treatment?, Dictionary.look?, held]
    simp [step, held, untreated]
  | some text =>
    have treated : p.dictionary.treatment? source request =
        some ((p.dictionary.probe request.1 request.2 (p.dictionary.placeholderPrefix ++ text)
          ).treatment p.dictionary.placeholderPrefix) := by
      simp [Dictionary.treatment?, Dictionary.look?, held]
    simp only [step, held, treated, Option.some.injEq]
    cases looked : p.dictionary.probe request.1 request.2 (p.dictionary.placeholderPrefix ++ text)
    case different other =>
      cases marked : other.startsWith p.dictionary.placeholderPrefix <;> cases way <;>
        simp [Probe.treatment, marked, refresh, preserve, PropagationCounts.count]
    all_goals
      cases way <;>
        simp [Probe.treatment, insert, preserve, conflict, PropagationCounts.count]

namespace Dictionary

/-! ## Looks while places are filled -/

theorem fill_of_look? {d : Dictionary} {source : String} {request : String × String}
    (closed : ∀ probe, d.look? source request = some probe →
      probe.isOpen d.placeholderPrefix = false) : d.fill source request = d := by
  unfold fill
  split
  next => rfl
  next text held =>
    rw [if_neg]
    exact Bool.eq_false_iff.mp (closed _ (by rw [look?, held]; rfl))

section

variable {d : Dictionary} {source : String} {targets : List String}

/-- What filling a place leaves to later looks. -/
theorem fills_fill {request : String × String} (asked : request ∈ d.requests source targets) :
    Fills (d.Asked source targets) d (d.fill source request) :=
  (Fills.refl d).foldl [request] (List.forall_mem_singleton.mpr asked)

theorem Awaits.of_fills {after : Dictionary} (awaits : Awaits source d)
    (fills : Fills (d.Asked source targets) d after) : Awaits source after :=
  awaits.of_texts fills.pending_eq fun key text held =>
    ⟨text, (fills.leaf?_source (d.not_asked_source source targets) key).trans held⟩

/-- Filling a place settles what is found there and nothing else. -/
theorem look?_fill (awaits : Awaits source d) {request other : String × String}
    (asked : request ∈ d.requests source targets) (asked' : other ∈ d.requests source targets) :
    (d.fill source request).look? source other =
      if other = request then (d.look? source other).map (Probe.settled d.placeholderPrefix)
      else d.look? source other := by
  have fills := fills_fill asked
  rw [look?, look?, fills.placeholderPrefix_eq, fills.leaf?_source (d.not_asked_source _ _)]
  obtain ⟨-, -, pending⟩ := mem_requests.mp asked
  obtain ⟨-, -, pending'⟩ := mem_requests.mp asked'
  obtain ⟨text, held⟩ := awaits.held other.2 pending'
  simp only [held, Option.map_some, apply_ite]
  by_cases same : other = request
  · subst same
    simp only [fill, held, if_true, Probe.settled, Option.some.injEq]
    split
    next looked =>
      rw [probe_eq_same_iff]
      exact d.valueAt?_write_of_isOpen looked
    next => rfl
  · rw [if_neg same]
    unfold fill
    split
    next => rfl
    next placed held' =>
      split
      next =>
        rw [probe_write_of_apart]
        -- Of two places one differs in its target or in its key.
        by_cases target : request.1 = other.1
        · refine Or.inr (awaits.apart pending pending' fun key => same (Prod.ext ?_ ?_))
          · exact target.symm
          · exact key.symm
        · exact Or.inl target
      next => rfl

theorem requests_of_fills {after : Dictionary} (fills : Fills (d.Asked source targets) d after) :
    after.requests source targets = d.requests source targets := by
  rw [requests, requests, fills.pending_eq]

/-- Filling places settles what is found in these places and nothing else. -/
theorem look?_foldl (awaits : Awaits source d) (requests : List (String × String))
    (part : ∀ request ∈ requests, request ∈ d.requests source targets) {other : String × String}
    (asked : other ∈ d.requests source targets) :
    (requests.foldl (fill source) d).look? source other =
      if other ∈ requests then (d.look? source other).map (Probe.settled d.placeholderPrefix)
      else d.look? source other := by
  induction requests generalizing d with
  | nil => rfl
  | cons request requests ih =>
    obtain ⟨first, rest⟩ := List.forall_mem_cons.mp part
    have fills := fills_fill first
    have same := requests_of_fills fills
    rw [List.foldl_cons, ih (awaits.of_fills fills) (same ▸ rest) (same ▸ asked),
      look?_fill awaits first asked, fills.placeholderPrefix_eq]
    by_cases here : other = request
    · simp only [here, if_true, List.mem_cons_self, Option.map_map]
      split
      · congr 1
        funext probe
        exact probe.settled_settled _
      · rfl
    · simp only [here, if_false, List.mem_cons, false_or]

theorem look?_propagate (awaits : Awaits source d) {request : String × String}
    (asked : request ∈ d.requests source targets) :
    (d.propagate source targets).dictionary.look? source request =
      (d.look? source request).map (Probe.settled d.placeholderPrefix) := by
  rw [dictionary_propagate, look?_foldl awaits _ (fun _ listed => listed) asked, if_pos asked]

/-! ## Counts -/

theorem count_foldl {p : Propagation} (awaits : Awaits source p.dictionary)
    (requests : List (String × String)) (nodup : requests.Nodup)
    (part : ∀ request ∈ requests, request ∈ p.dictionary.requests source targets)
    (way : Treatment) :
    (requests.foldl (fun p request => p.step source request.1 request.2) p).counts.count way =
      p.counts.count way +
        requests.countP fun request => p.dictionary.treatment? source request = some way := by
  induction requests generalizing p with
  | nil => rfl
  | cons request requests ih =>
    obtain ⟨first, rest⟩ := List.forall_mem_cons.mp part
    obtain ⟨fresh, nodup⟩ := List.nodup_cons.mp nodup
    have fills := fills_fill first
    rw [← p.dictionary_step] at fills
    have same := requests_of_fills fills
    -- The places that follow are other ones, so they are treated as if nothing had happened.
    have later : requests.countP (fun other => (p.step source request.1 request.2).dictionary.treatment?
          source other = some way) =
        requests.countP fun other => p.dictionary.treatment? source other = some way := by
      refine List.countP_congr fun other listed => ?_
      have differs : other ≠ request := fun here => fresh (here ▸ listed)
      have looked := look?_fill awaits first (rest other listed)
      rw [if_neg differs, ← p.dictionary_step] at looked
      rw [treatment?, treatment?, looked, fills.placeholderPrefix_eq]
    rw [List.foldl_cons, ih (awaits.of_fills fills) nodup (same ▸ rest), later, p.count_step,
      List.countP_cons]
    simp only [decide_eq_true_eq]
    omega

/-- Each place that is treated is treated in one way. -/
theorem sum_countP_treatments (treat : String × String → Option Treatment)
    (requests : List (String × String)) (all : ∀ request ∈ requests, ∃ way, treat request = some way) :
    (requests.countP fun request => treat request = some .inserted) +
      (requests.countP fun request => treat request = some .refreshed) +
      (requests.countP fun request => treat request = some .preserved) +
      (requests.countP fun request => treat request = some .conflicting) = requests.length := by
  induction requests with
  | nil => rfl
  | cons request requests ih =>
    obtain ⟨⟨way, treated⟩, rest⟩ := List.forall_mem_cons.mp all
    have others := ih rest
    cases way <;> simp [treated] <;> omega

theorem count_propagate (awaits : Awaits source d) (nodup : (d.requests source targets).Nodup)
    (way : Treatment) : (d.propagate source targets).counts.count way =
      (d.requests source targets).countP fun request => d.treatment? source request = some way := by
  rw [propagate_eq, count_foldl awaits _ nodup (fun _ listed => listed)]
  cases way <;> exact Nat.zero_add _

theorem Awaits.exists_look? (awaits : Awaits source d) {request : String × String}
    (asked : request ∈ d.requests source targets) : ∃ text, d.leaf? source request.2 = some text ∧
      d.look? source request = some (d.probe request.1 request.2 (d.placeholderPrefix ++ text)) := by
  obtain ⟨-, -, pending⟩ := mem_requests.mp asked
  obtain ⟨text, held⟩ := awaits.held request.2 pending
  exact ⟨text, held, by rw [look?, held]; rfl⟩

theorem total_propagate (awaits : Awaits source d) (nodup : (d.requests source targets).Nodup) :
    (d.propagate source targets).counts.total = (d.requests source targets).length := by
  rw [← sum_countP_treatments (d.treatment? source) _ fun request asked => ?_]
  · simp only [← count_propagate awaits nodup]
    rfl
  · obtain ⟨text, -, looked⟩ := awaits.exists_look? asked
    exact ⟨_, by rw [treatment?, looked]; rfl⟩

theorem nodup_requests (awaits : Awaits source d) (nodup : targets.Nodup) :
    (d.requests source targets).Nodup :=
  (nodup.filter _).product (.of_map _ awaits.nodup)

/-! ## Places afterwards -/

/-- A place is blocked if further keys are there, or the way leads through a value. -/
theorem probe_blocked_iff (locale key text : String) :
    (∃ place, d.probe locale key text = .blocked place) ↔
      ¬ Messages.Clear (keySegments key) (d.root locale) := by
  rw [d.clear_iff locale key text, not_forall]
  simp only [ne_eq, not_not]

/-- How a text reaches a place: a translation is kept, a placeholder or nothing becomes the
placeholder of the text, or the place is blocked. -/
inductive Reached (marker text : String) (path : List String) (before after : Json) : Prop where
  | kept (value : Json) (leaf : value.IsLeaf) (found : valueAt? path before = some value)
      (translated : ¬ value.IsMarked marker) (stays : valueAt? path after = some value)
  | filled (clear : Messages.Clear path before)
      (marked : ∀ value, valueAt? path before = some value → value.IsMarked marker)
      (holds : valueAt? path after = some (.string (marker ++ text)))
  | blocked (before : ¬ Messages.Clear path before) (after : ¬ Messages.Clear path after)

theorem reached_propagate (awaits : Awaits source d) {request : String × String}
    (asked : request ∈ d.requests source targets) {text : String}
    (held : d.leaf? source request.2 = some text) :
    Reached d.placeholderPrefix text (keySegments request.2) (d.root request.1)
      ((d.propagate source targets).dictionary.root request.1) := by
  have fills := d.fills_propagate source targets
  have settled := look?_propagate awaits asked
  rw [look?, look?, fills.placeholderPrefix_eq, fills.leaf?_source (d.not_asked_source _ _),
    held] at settled
  simp only [Option.map_some, Option.some.injEq] at settled
  -- An open place is filled. A closed one is settled before, and what it holds says how.
  by_cases looked : (d.probe request.1 request.2 (d.placeholderPrefix ++ text)).isOpen
    d.placeholderPrefix = true
  · obtain ⟨clear, marked⟩ := d.clear_of_isOpen _ _ _ looked
    rw [Probe.settled, if_pos looked, probe_eq_same_iff] at settled
    exact .filled clear marked settled
  · rw [Probe.settled, if_neg looked] at settled
    cases found : d.probe request.1 request.2 (d.placeholderPrefix ++ text) with
    | free => exact absurd (by rw [found]; rfl) looked
    | same =>
      rw [found, probe_eq_same_iff] at settled
      have here := (d.probe_eq_same_iff _ _ _).mp found
      have clear := (d.clear_iff request.1 request.2 (d.placeholderPrefix ++ text)).mpr
        (by simp [found])
      refine .filled clear (fun value held => ?_) settled
      rw [here, Option.some.injEq] at held
      exact held ▸ Json.isMarked_string _ text
    | different other =>
      obtain ⟨value, here, leaf, -, shown⟩ := (d.probe_eq_different_iff _ _ _ _).mp found
      have translated : ¬ value.IsMarked d.placeholderPrefix := fun marked => by
        rw [found, Probe.isOpen, ← shown] at looked
        exact looked marked.marked
      refine .kept value leaf here translated ?_
      exact (fills.leaves _ _ value leaf here).resolve_right fun filled => translated filled.1
    | blocked place =>
      exact .blocked ((probe_blocked_iff _ _ _).mp ⟨place, found⟩)
        ((probe_blocked_iff _ _ _).mp ⟨place, settled.trans found⟩)

/-- Where no conflict is counted, no place was blocked. -/
theorem untroubled_foldl {p : Propagation} (awaits : Awaits source p.dictionary)
    (requests : List (String × String))
    (part : ∀ request ∈ requests, request ∈ p.dictionary.requests source targets)
    (none : (requests.foldl (fun p request => p.step source request.1 request.2) p).counts.conflicts
      = 0) :
    p.counts.conflicts = 0 ∧
      ∀ request ∈ requests, p.dictionary.treatment? source request ≠ some .conflicting := by
  induction requests generalizing p with
  | nil => exact ⟨none, List.forall_mem_nil _⟩
  | cons request requests ih =>
    obtain ⟨first, rest⟩ := List.forall_mem_cons.mp part
    have fills := fills_fill first
    rw [← p.dictionary_step] at fills
    have same := requests_of_fills fills
    obtain ⟨still, others⟩ := ih (awaits.of_fills fills) (same ▸ rest) none
    have counted := p.count_step source request .conflicting
    simp only [PropagationCounts.count, still] at counted
    have here : p.dictionary.treatment? source request ≠ some .conflicting := fun blocked => by
      rw [if_pos blocked] at counted
      omega
    refine ⟨by omega, List.forall_mem_cons.mpr ⟨here, fun other listed => ?_⟩⟩
    by_cases again : other = request
    · exact again ▸ here
    · have looked := look?_fill awaits first (rest other listed)
      rw [if_neg again, ← p.dictionary_step] at looked
      have treated := others other listed
      rwa [treatment?, looked, fills.placeholderPrefix_eq] at treated

/-- Where no conflict is counted, each new key holds a value in each target afterwards. -/
theorem exists_leaf_propagate (awaits : Awaits source d)
    (none : (d.propagate source targets).counts.conflicts = 0) {request : String × String}
    (asked : request ∈ d.requests source targets) : ∃ value : Json, value.IsLeaf ∧
      valueAt? (keySegments request.2) ((d.propagate source targets).dictionary.root request.1) =
        some value := by
  obtain ⟨text, held, looked⟩ := awaits.exists_look? asked
  cases reached_propagate awaits asked held with
  | kept value leaf _ _ stays => exact ⟨value, leaf, stays⟩
  | filled _ _ holds => exact ⟨_, Json.isLeaf_string _, holds⟩
  | blocked before =>
    rw [propagate_eq] at none
    obtain ⟨place, found⟩ :=
      (d.probe_blocked_iff request.1 request.2 (d.placeholderPrefix ++ text)).mpr before
    refine absurd ?_ ((untroubled_foldl awaits _ (fun _ listed => listed) none).2 request asked)
    rw [treatment?, looked, found]
    rfl

/-- A propagation leaves nothing to do. -/
theorem propagate_again (awaits : Awaits source d) :
    ((d.propagate source targets).dictionary.propagate source targets).dictionary =
      (d.propagate source targets).dictionary := by
  have fills := d.fills_propagate source targets
  rw [dictionary_propagate, requests_of_fills fills]
  refine List.foldlRecOn (motive := (· = (d.propagate source targets).dictionary)) _ _ rfl
    fun now same request asked => ?_
  rw [same]
  refine fill_of_look? fun probe looked => ?_
  rw [look?_propagate awaits asked] at looked
  obtain ⟨before, -, rfl⟩ := Option.map_eq_some_iff.mp looked
  rw [fills.placeholderPrefix_eq]
  exact before.isOpen_settled _

end

/-- New keys reach all targets: whatever is added to a dictionary without new keys, a propagation
gives each new key to each other target, counts each of these places once, as a conflict exactly if
it is blocked, and a second one changes nothing. -/
theorem propagate_reaches_targets (start : Dictionary) (fresh : start.pending = [])
    (additions : List Addition) (targets : List String) :
    let d := Addition.run additions start
    let asked := d.requests d.sourceLocale targets
    let p := d.propagate d.sourceLocale targets
    (∀ key ∈ d.pending, ∃ text, d.leaf? d.sourceLocale key = some text ∧
      ∀ target ∈ targets, target ≠ d.sourceLocale → Reached d.placeholderPrefix text
        (keySegments key) (d.root target) (p.dictionary.root target)) ∧
    (targets.Nodup → asked.Nodup ∧ p.counts.total = asked.length ∧
      ∃ blocked : List (String × String), blocked.Nodup ∧
        (∀ place, place ∈ blocked ↔
          place ∈ asked ∧ ¬ Messages.Clear (keySegments place.2) (d.root place.1)) ∧
        p.counts.conflicts = blocked.length) ∧
    (p.dictionary.propagate d.sourceLocale targets).dictionary = p.dictionary := by
  intro d asked p
  have awaits : Awaits d.sourceLocale d := by
    have none : Awaits start.sourceLocale start :=
      ⟨by rw [fresh]; exact .nil, by rw [fresh]; exact List.forall_mem_nil _⟩
    obtain ⟨source, awaits⟩ := Addition.awaits_run additions start none
    exact source ▸ awaits
  refine ⟨fun key pending => ?_, fun nodup => ?_, propagate_again awaits⟩
  · obtain ⟨text, held⟩ := awaits.held key pending
    refine ⟨text, held, fun target listed other => ?_⟩
    have request : (target, key) ∈ d.requests d.sourceLocale targets :=
      mem_requests.mpr ⟨listed, other, pending⟩
    exact reached_propagate awaits request held
  · have once : asked.Nodup := nodup_requests awaits nodup
    refine ⟨once, total_propagate awaits once, _, once.filter
      (fun place => d.treatment? d.sourceLocale place = some .conflicting), fun place => ?_, ?_⟩
    · rw [List.mem_filter, decide_eq_true_eq]
      refine and_congr_right fun listed => ?_
      obtain ⟨text, -, looked⟩ := awaits.exists_look? listed
      rw [treatment?, looked, ← probe_blocked_iff place.1 place.2 (d.placeholderPrefix ++ text)]
      cases found : d.probe place.1 place.2 (d.placeholderPrefix ++ text)
      case different other =>
        cases marked : other.startsWith d.placeholderPrefix <;> simp [Probe.treatment, marked]
      all_goals simp [Probe.treatment]
    · rw [← List.countP_eq_length_filter]
      exact count_propagate awaits once .conflicting

/-! A locale with a translation, an old placeholder and further keys below a key. -/

namespace Partly

def dictionary : Dictionary where
  directory := ""
  sourceLocale := "en"
  placeholderPrefix := "?"
  messages := [("de", [("common", .object [("a", .object [("bye", .string "?Tschau"),
    ("hi", .string "Hallo"), ("ok", .object [("yes", .string "Ja")])])])])]
  styles := []
  pending := []
  dirty := []

def additions : List Addition := [.derive (Greeting.call "Hi"), .derive (Greeting.call "Bye"),
  .set "en" "common.a.ok" "OK" false, .set "en" "common.a.hi" "Hi!" true,
  .derive (Greeting.call "Good day")]

end Partly

theorem propagate_reaches_targets_partly :
    Partly.dictionary.pending = [] ∧ ["de", "en"].Nodup ∧
    let d := Addition.run Partly.additions Partly.dictionary
    let asked := d.requests "en" ["de", "en"]
    let p := d.propagate "en" ["de", "en"]
    p.counts = ⟨1, 1, 1, 1⟩ ∧ asked.Nodup ∧ p.counts.total = asked.length ∧
    (∃ text, d.leaf? "en" "common.a.bye" = some text ∧ ∀ target ∈ ["de", "en"], target ≠ "en" →
      Reached "?" text (keySegments "common.a.bye") (d.root target) (p.dictionary.root target)) ∧
    (p.dictionary.propagate "en" ["de", "en"]).dictionary = p.dictionary := by
  have source : (Addition.run Partly.additions Partly.dictionary).sourceLocale = "en" := by
    decide +kernel
  have marker : (Addition.run Partly.additions Partly.dictionary).placeholderPrefix = "?" := by
    decide +kernel
  have waits : "common.a.bye" ∈ (Addition.run Partly.additions Partly.dictionary).pending := by
    decide +kernel
  obtain ⟨each, counted, again⟩ :=
    propagate_reaches_targets Partly.dictionary rfl Partly.additions ["de", "en"]
  obtain ⟨once, total, -⟩ := counted (by decide)
  have reached := each "common.a.bye" waits
  rw [source] at once total again reached
  rw [marker] at reached
  exact ⟨rfl, by decide, by decide +kernel, once, total, reached, again⟩

end Dictionary

end Phrasebook
