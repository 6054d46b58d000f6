import Phrasebook.Proofs.Run.Tallying
import Phrasebook.Proofs.Table

/-!
# The counts of a tally

Every candidate that is found is turned down, gets a key that is new or was there before, or finds
no key. The counts say so after each file, and while a file is at hand they lack only the candidates
that are still to come.
-/

namespace Phrasebook

/-! ## Tables of counts -/

namespace Table

/-- The sum of all counts. -/
def total (table : Table Nat) : Nat := (table.map (·.2)).sum

theorem total_put {table : Table Nat} (ordered : IsOrdered table) (name : String) (count : Nat) :
    total (put name count table) + (get? name table).getD 0 = total table + count := by
  fun_induction put name count table with
  | case1 => simp [total, get?]
  | case2 rest old =>
    simp only [total, List.map_cons, List.sum_cons, get?, if_pos, Option.getD_some]
    omega
  | case3 other old rest differs earlier =>
    obtain ⟨first, -⟩ := List.pairwise_cons.mp ordered
    -- The name comes before all others, so it was not bound.
    have unbound : get? name rest = none := by
      refine Option.eq_none_iff_forall_not_mem.mpr fun held found => ?_
      have later : other < name := first _ (mem_of_get? found)
      exact String.lt_asymm earlier later
    simp only [total, List.map_cons, List.sum_cons, get?, if_neg differs, unbound, Option.getD_none]
    omega
  | case4 other old rest differs later ih =>
    have others := ih (List.pairwise_cons.mp ordered).2
    simp only [total, List.map_cons, List.sum_cons, get?, if_neg differs] at others ⊢
    omega

theorem IsOrdered.modify {table : Table Nat} (ordered : IsOrdered table) (name : String)
    (change : Nat → Nat) : IsOrdered (modify name 0 change table) :=
  ordered.put name _

/-- One more of a name is one more of all. -/
theorem total_modify {table : Table Nat} (ordered : IsOrdered table) (name : String) :
    total (modify name 0 (· + 1) table) = total table + 1 := by
  have put := total_put ordered name ((get? name table).getD 0 + 1)
  rw [modify]
  omega

end Table

theorem ExtractionReport.rejectedTotal_eq (r : ExtractionReport) :
    r.rejectedTotal = r.rejected.total :=
  List.sum_eq_foldl.symm

/-! ## Keys that are new -/

namespace Entry

/-- The keys of the entries that are new. -/
def newKeys (entries : List Entry) : List String :=
  (entries.filter fun e => e.status = .new).map Entry.key

theorem mem_newKeys_iff {entries : List Entry} {key : String} :
    key ∈ newKeys entries ↔ ∃ e ∈ entries, e.status = .new ∧ e.key = key := by
  simp [newKeys, and_assoc]

theorem newKeys_append (entries more : List Entry) :
    newKeys (entries ++ more) = newKeys entries ++ newKeys more := by
  rw [newKeys, List.filter_append, List.map_append]
  rfl

theorem newKeys_of_new {e : Entry} (new : e.status = .new) : newKeys [e] = [e.key] := by
  simp [newKeys, new]

theorem newKeys_of_reused {e : Entry} (reused : e.status = .reused) : newKeys [e] = [] := by
  simp [newKeys, reused]

end Entry

namespace Tally

variable {t : Tally} {waiting unlisted : Nat}

/-! ## Candidates -/

/-- The counts of a tally add up, but for candidates of the file at hand: so many wait for a key or
to be turned down, and so many are not listed with their file. -/
structure AddsUp (waiting unlisted : Nat) (t : Tally) : Prop where
  found : t.report.candidatesFound = t.report.rejected.total + t.report.newlyExtracted +
    t.report.reused + t.report.keyFailures.length + waiting
  listed : t.report.candidatesFound =
    t.report.rejected.total + (t.report.byFile.map (·.2.candidates)).sum + unlisted
  keyed : t.entries.length = t.report.newlyExtracted + t.report.reused
  fresh : (Entry.newKeys t.entries).length = t.report.newlyExtracted
  placed : t.report.byNamespace.total = t.entries.length
  tags : Table.IsOrdered t.report.rejected
  spaces : Table.IsOrdered t.report.byNamespace

theorem addsUp_start (d : Dictionary) : (start d).AddsUp 0 0 where
  found := rfl
  listed := rfl
  keyed := rfl
  fresh := rfl
  placed := rfl
  tags := .nil
  spaces := .nil

namespace AddsUp

theorem addRejected (adds : t.AddsUp (waiting + 1) (unlisted + 1)) (c : Candidate)
    (reason : Rejection) : (t.addRejected c reason).AddsUp waiting unlisted := by
  have more := Table.total_modify adds.tags reason.tag
  have found := adds.found
  have listed := adds.listed
  refine { adds with found := ?_, listed := ?_, tags := adds.tags.modify reason.tag _ }
  · simp only [Tally.addRejected, more]
    omega
  · simp only [Tally.addRejected, more]
    omega

theorem addDerived (adds : t.AddsUp (waiting + 1) unlisted) (found : Derived) :
    (t.addDerived found).AddsUp waiting unlisted := by
  have more := Table.total_modify adds.spaces found.entry.spaceName
  have counted := adds.found
  have keyed := adds.keyed
  have fresh := adds.fresh
  have placed := adds.placed
  refine { adds with
    found := ?_, keyed := ?_, fresh := ?_, placed := ?_, spaces := adds.spaces.modify _ _ }
  · simp only [Tally.addDerived]
    split <;> omega
  · simp only [Tally.addDerived, List.length_append, List.length_singleton]
    split <;> omega
  · simp only [Tally.addDerived, Entry.newKeys_append, List.length_append, fresh]
    cases status : found.entry.status with
    | new => simp [Entry.newKeys_of_new status]
    | reused => simp [Entry.newKeys_of_reused status]
  · simp only [Tally.addDerived, List.length_append, List.length_singleton, more, placed]

theorem addKeyFailure (adds : t.AddsUp (waiting + 1) unlisted) (f : Failure) :
    (t.addKeyFailure f).AddsUp waiting unlisted := by
  have found := adds.found
  refine { adds with found := ?_ }
  simp only [Tally.addKeyFailure, List.length_append, List.length_singleton]
  omega

/-- A candidate that is accepted gets a key or finds none. -/
theorem addAccepted (adds : t.AddsUp (waiting + 1) unlisted) (rules : ExtractionRules)
    (withinRoot : String) (c : Candidate) :
    (t.addAccepted rules withinRoot c).AddsUp waiting unlisted := by
  unfold Tally.addAccepted
  split
  next found _ => exact adds.addDerived found
  next f _ => exact adds.addKeyFailure f

theorem foldl_accepted (rules : ExtractionRules) (withinRoot : String) (accepted : List Candidate)
    (adds : t.AddsUp (waiting + accepted.length) unlisted) :
    (accepted.foldl (Tally.addAccepted rules withinRoot) t).AddsUp waiting unlisted := by
  induction accepted generalizing t with
  | nil => exact adds
  | cons c rest ih =>
    have adds : t.AddsUp (waiting + rest.length + 1) unlisted := adds
    have next := adds.addAccepted rules withinRoot c
    rw [List.foldl_cons]
    exact ih next

/-- Those that are turned down are done with, and the others go on waiting. -/
theorem foldl_rejected (rejection? : Candidate → Option Rejection) (candidates : List Candidate)
    (adds : t.AddsUp (waiting + candidates.length) (unlisted + candidates.length)) :
    (candidates.foldl (fun t c => (rejection? c).elim t (t.addRejected c)) t).AddsUp
      (waiting + (candidates.filter fun c => (rejection? c).isNone).length)
      (unlisted + (candidates.filter fun c => (rejection? c).isNone).length) := by
  induction candidates generalizing t waiting unlisted with
  | nil => exact adds
  | cons c rest ih =>
    rw [List.foldl_cons]
    cases turned : rejection? c with
    | none =>
      rw [List.filter_cons_of_pos (by simp [turned]), List.length_cons, ← Nat.add_assoc,
        ← Nat.add_assoc, Nat.add_right_comm waiting, Nat.add_right_comm unlisted]
      rw [List.length_cons, ← Nat.add_assoc, ← Nat.add_assoc, Nat.add_right_comm waiting,
        Nat.add_right_comm unlisted] at adds
      exact ih adds
    | some reason =>
      have adds : t.AddsUp (waiting + rest.length + 1) (unlisted + rest.length + 1) := adds
      rw [List.filter_cons_of_neg (by simp [turned])]
      exact ih (adds.addRejected c reason)

end AddsUp

/-! ## Files -/

/-- What a tally says of files. -/
def files (t : Tally) : Nat × List FailureRecord × List String × Table FileCounts :=
  (t.report.filesScanned, t.report.parseFailures, t.report.notProcessed, t.report.byFile)

/-- Candidates that are turned down say nothing of files. -/
theorem files_foldl_rejected (rejection? : Candidate → Option Rejection)
    (candidates : List Candidate) (t : Tally) :
    (candidates.foldl (fun t c => (rejection? c).elim t (t.addRejected c)) t).files = t.files := by
  refine List.foldlRecOn (motive := fun now => files now = files t) candidates _ rfl ?_
  intro now same c _
  cases rejection? c with
  | none => exact same
  | some reason => exact same

theorem files_foldl_accepted (rules : ExtractionRules) (withinRoot : String)
    (accepted : List Candidate) (t : Tally) :
    (accepted.foldl (addAccepted rules withinRoot) t).files = t.files := by
  refine List.foldlRecOn (motive := fun now => files now = files t) accepted _ rfl ?_
  intro now same c _
  unfold addAccepted
  split
  next => exact same
  next => exact same

end Tally

namespace FileSearch

/-- The file was searched. -/
def isFound : FileSearch → Bool
  | .found _ => true
  | _ => false

def failure? : FileSearch → Option Failure
  | .failed f => some f
  | _ => none

/-- The run did not come to the file. -/
def isLeft : FileSearch → Bool
  | .notProcessed => true
  | _ => false

end FileSearch

/-- Gives keys to what was found in files. -/
def Tally.ofSearch (rules : ExtractionRules) (search : SourceFile → FileSearch)
    (files : List SourceFile) (d : Dictionary) : Tally :=
  files.foldl (fun t file => t.add rules file (search file)) (.start d)

namespace Tally

variable {t : Tally} {search : SourceFile → FileSearch}

/-- A tally tells of every file once: it was searched, it failed, or the run did not come to it.
Each file that was searched has a row. -/
structure Covers (search : SourceFile → FileSearch) (files : List SourceFile) (t : Tally) :
    Prop where
  scanned : t.report.filesScanned = (files.filter fun f => (search f).isFound).length
  failed : t.report.parseFailures =
    (files.filterMap fun f => (search f).failure?).map Failure.record
  left : t.report.notProcessed =
    (files.filter fun f => (search f).isLeft).map SourceFile.relative
  rows : t.report.byFile.map (·.1) =
    (files.filter fun f => (search f).isFound).map SourceFile.relative

theorem covers_start (search : SourceFile → FileSearch) (d : Dictionary) :
    (start d).Covers search [] :=
  ⟨rfl, rfl, rfl, rfl⟩

/-- Every file is counted once. -/
theorem Covers.count {files : List SourceFile} (covers : t.Covers search files) :
    t.report.filesScanned + t.report.parseFailures.length + t.report.notProcessed.length =
      files.length := by
  rw [covers.scanned, covers.failed, covers.left, List.length_map, List.length_map]
  clear covers
  induction files with
  | nil => rfl
  | cons file rest ih =>
    simp only [List.filter_cons, List.filterMap_cons, List.length_cons]
    generalize (rest.filter fun f => (search f).isFound) = scanned at ih ⊢
    generalize (rest.filterMap fun f => (search f).failure?) = failed at ih ⊢
    generalize (rest.filter fun f => (search f).isLeft) = left at ih ⊢
    cases search file <;>
      simp only [FileSearch.isFound, FileSearch.failure?, FileSearch.isLeft, if_true,
        Bool.false_eq_true, if_false, List.length_cons] <;> omega

/-- A file that was searched is counted, and gets its row behind the others. -/
theorem addFound_spec (adds : t.AddsUp 0 0) (rules : ExtractionRules) (file : SourceFile)
    (occurrences : List Occurrence) (last : ∀ row ∈ t.report.byFile, row.1 < file.relative) :
    (t.addFound rules file occurrences).AddsUp 0 0 ∧ ∃ counts,
      (t.addFound rules file occurrences).files =
        (t.report.filesScanned + 1, t.report.parseFailures, t.report.notProcessed,
          t.report.byFile ++ [(file.relative, counts)]) := by
  let candidates := occurrences.filterMap Occurrence.candidate?
  let rejection? := rules.acceptance.candidateRejection?
  let accepted := candidates.filter fun c => (rejection? c).isNone
  let opened : Tally := { t with
    report := { t.report with
      filesScanned := t.report.filesScanned + 1
      candidatesFound := t.report.candidatesFound + candidates.length
      alreadyTranslated :=
        t.report.alreadyTranslated + (occurrences.length - candidates.length) } }
  let kept := candidates.foldl (fun t c => (rejection? c).elim t (t.addRejected c)) opened
  let keyed := accepted.foldl (addAccepted rules file.withinRoot) kept
  -- All candidates of the file wait first, then the accepted ones, and in the end none.
  have waiting : opened.AddsUp (0 + candidates.length) (0 + candidates.length) := by
    have found := adds.found
    have listed := adds.listed
    exact { adds with
      found := by simp only [opened]; omega
      listed := by simp only [opened]; omega }
  have turned : kept.AddsUp (0 + accepted.length) (0 + accepted.length) :=
    waiting.foldl_rejected rejection? candidates
  have unlisted : keyed.AddsUp 0 (0 + accepted.length) :=
    turned.foldl_accepted rules file.withinRoot accepted
  have same : keyed.files = opened.files :=
    (files_foldl_accepted rules file.withinRoot accepted kept).trans
      (files_foldl_rejected rejection? candidates opened)
  obtain ⟨scanned, failed, left, rows⟩ : keyed.report.filesScanned = t.report.filesScanned + 1 ∧
      keyed.report.parseFailures = t.report.parseFailures ∧
      keyed.report.notProcessed = t.report.notProcessed ∧
      keyed.report.byFile = t.report.byFile := by
    simpa [files, opened] using same
  let counts : FileCounts := ⟨accepted.length, occurrences.length - candidates.length,
    keyed.report.newlyExtracted - kept.report.newlyExtracted⟩
  have put : Table.put file.relative counts keyed.report.byFile =
      t.report.byFile ++ [(file.relative, counts)] := by
    rw [rows, Table.put_of_last counts last]
  have whole : t.addFound rules file occurrences = { keyed with
      report := { keyed.report with byFile := t.report.byFile ++ [(file.relative, counts)] } } := by
    rw [← put]
    rfl
  rw [whole]
  refine ⟨{ unlisted with listed := ?_ }, counts, ?_⟩
  · have listed := unlisted.listed
    simp only [rows, List.map_append, List.map_cons, List.map_nil, List.sum_append,
      List.sum_cons, List.sum_nil, counts] at listed ⊢
    omega
  · simp only [files, scanned, failed, left]

/-- One more file, whose path comes after those of the files before. -/
theorem Covers.add {files : List SourceFile} (covers : t.Covers search files) (adds : t.AddsUp 0 0)
    (rules : ExtractionRules) (file : SourceFile)
    (last : ∀ f ∈ files, f.relative < file.relative) :
    (t.add rules file (search file)).AddsUp 0 0 ∧
      (t.add rules file (search file)).Covers search (files ++ [file]) := by
  cases kind : search file with
  | found occurrences =>
    have behind : ∀ row ∈ t.report.byFile, row.1 < file.relative := fun row member => by
      have listed : row.1 ∈ t.report.byFile.map (·.1) := List.mem_map_of_mem member
      rw [covers.rows] at listed
      obtain ⟨f, inside, same⟩ := List.mem_map.mp listed
      exact same ▸ last f (List.mem_filter.mp inside).1
    obtain ⟨added, counts, same⟩ := addFound_spec adds rules file occurrences behind
    obtain ⟨scanned, failed, left, rows⟩ := by simpa only [Tally.files, Prod.mk.injEq] using same
    refine ⟨added, ?_, ?_, ?_, ?_⟩
    · rw [Tally.add, scanned, covers.scanned]
      simp [kind, FileSearch.isFound]
    · rw [Tally.add, failed, covers.failed]
      simp [kind, FileSearch.failure?]
    · rw [Tally.add, left, covers.left]
      simp [kind, FileSearch.isLeft]
    · rw [Tally.add, rows, List.map_append, covers.rows]
      simp [kind, FileSearch.isFound]
  | failed f =>
    refine ⟨{ adds with }, ?_, ?_, ?_, ?_⟩
    · simp [Tally.add, addFailed, covers.scanned, kind, FileSearch.isFound]
    · simp [Tally.add, addFailed, covers.failed, kind, FileSearch.failure?]
    · simp [Tally.add, addFailed, covers.left, kind, FileSearch.isLeft]
    · simp [Tally.add, addFailed, covers.rows, kind, FileSearch.isFound]
  | notProcessed =>
    refine ⟨{ adds with }, ?_, ?_, ?_, ?_⟩
    · simp [Tally.add, covers.scanned, kind, FileSearch.isFound]
    · simp [Tally.add, covers.failed, kind, FileSearch.failure?]
    · simp [Tally.add, covers.left, kind, FileSearch.isLeft]
    · simp [Tally.add, covers.rows, kind, FileSearch.isFound]

/-- Whatever was found in files that are taken in the order of their paths, the counts add up and
tell of every file. -/
theorem ofSearch_counts (rules : ExtractionRules) (search : SourceFile → FileSearch)
    (d : Dictionary) {files : List SourceFile}
    (rising : files.Pairwise fun f g => f.relative < g.relative) :
    (ofSearch rules search files d).AddsUp 0 0 ∧
      (ofSearch rules search files d).Covers search files := by
  induction files using List.reverseRecOn with
  | nil => exact ⟨addsUp_start d, covers_start search d⟩
  | append_singleton files file ih =>
    obtain ⟨before, -, last⟩ := List.pairwise_append.mp rising
    obtain ⟨adds, covers⟩ := ih before
    have next := covers.add adds rules file fun f member =>
      last f member file (List.mem_singleton_self _)
    rw [ofSearch, List.foldl_append]
    exact next

/-! ## Keys -/

/-- What holds of the entries and the dictionary of a tally if every key that is found keeps it. -/
theorem ofSearch_rec {motive : List Entry → Dictionary → Prop} {rules : ExtractionRules}
    {d : Dictionary} (start : motive [] d)
    (derived : ∀ entries now withinRoot c found, motive entries now →
      rules.keys.derive withinRoot c now = .ok found →
        motive (entries ++ [found.entry]) found.dictionary)
    (search : SourceFile → FileSearch) (files : List SourceFile) :
    motive (ofSearch rules search files d).entries (ofSearch rules search files d).dictionary := by
  refine List.foldlRecOn (motive := fun t : Tally => motive t.entries t.dictionary) files _ start ?_
  intro t kept file _
  cases search file with
  | failed | notProcessed => exact kept
  | found occurrences =>
    unfold Tally.add addFound
    refine List.foldlRecOn (motive := fun t : Tally => motive t.entries t.dictionary) _ _ ?_ ?_
    · refine List.foldlRecOn (motive := fun t : Tally => motive t.entries t.dictionary) _ _ kept ?_
      intro t kept c _
      cases rules.acceptance.candidateRejection? c with
      | none => exact kept
      | some reason => exact kept
    · intro t kept c _
      unfold addAccepted
      split
      next found returned => exact derived _ _ _ _ _ kept returned
      next => exact kept

end Tally

/-- What entries have brought to the source locale of a dictionary: those that are new have keys of
their own, which held nothing before, and their texts have joined, no others. -/
structure Dictionary.Brings (d : Dictionary) (entries : List Entry) (now : Dictionary) : Prop where
  grows : d.Grows now
  held : ∀ e ∈ entries, now.leaf? d.sourceLocale e.key = some e.candidate.text
  absent : ∀ e ∈ entries, e.status = .new → d.leaf? d.sourceLocale e.key = none
  once : (Entry.newKeys entries).Nodup
  texts : ∀ key text, now.leaf? d.sourceLocale key = some text ↔
    d.leaf? d.sourceLocale key = some text ∨
      ∃ e ∈ entries, e.status = .new ∧ e.key = key ∧ e.candidate.text = text

namespace Dictionary

variable {d now : Dictionary} {entries : List Entry}

theorem brings_nil (d : Dictionary) : d.Brings [] d where
  grows := .refl d
  held := List.forall_mem_nil _
  absent := List.forall_mem_nil _
  once := List.nodup_nil
  texts := by simp

/-- A key that is found brings its text if it is new, and nothing otherwise. -/
theorem Brings.derived (brings : d.Brings entries now) {rules : KeyRules} {withinRoot : String}
    {c : Candidate} {found : Derived} (returned : rules.derive withinRoot c now = .ok found) :
    d.Brings (entries ++ [found.entry]) found.dictionary := by
  let call : KeyCall := ⟨rules, withinRoot, c⟩
  obtain ⟨n, place⟩ := call.derive_found now found returned
  have candidate : found.entry.candidate = c := call.candidate_of_derive now found returned
  have source := brings.grows.sourceLocale_eq
  have here : found.dictionary.leaf? d.sourceLocale found.entry.key = some c.text :=
    source ▸ place.leaf?_eq
  have held : ∀ e ∈ entries ++ [found.entry],
      found.dictionary.leaf? d.sourceLocale e.key = some e.candidate.text :=
    List.forall_mem_append.mpr ⟨fun e member => place.grows.leaf?_eq (brings.held e member),
      List.forall_mem_singleton.mpr (candidate ▸ here)⟩
  have grows := brings.grows.trans place.grows
  cases status : found.entry.status with
  | reused =>
    have same : found.dictionary = now := place.of_reused status
    have old : Entry.newKeys (entries ++ [found.entry]) = Entry.newKeys entries := by
      rw [Entry.newKeys_append, Entry.newKeys_of_reused status, List.append_nil]
    refine ⟨grows, held, ?_, old ▸ brings.once, fun key text => ?_⟩
    · refine List.forall_mem_append.mpr ⟨brings.absent, List.forall_mem_singleton.mpr fun new => ?_⟩
      rw [status] at new
      cases new
    · rw [same, brings.texts key text]
      simp [List.mem_append, or_and_right, exists_or, status]
  | new =>
    have gains := place.of_new status
    dsimp only at gains
    rw [source] at gains
    have free : now.leaf? d.sourceLocale found.entry.key = none := by
      refine Option.eq_none_iff_forall_not_mem.mpr fun text held => ?_
      have occupied := (leaf?_eq_some_iff ..).mp held
      rw [gains.absent] at occupied
      cases occupied
    have news : Entry.newKeys (entries ++ [found.entry]) =
        Entry.newKeys entries ++ [found.entry.key] := by
      rw [Entry.newKeys_append, Entry.newKeys_of_new status]
    refine ⟨grows, held, ?_, ?_, fun key text => ?_⟩
    · refine List.forall_mem_append.mpr ⟨brings.absent, List.forall_mem_singleton.mpr fun _ => ?_⟩
      refine Option.eq_none_iff_forall_not_mem.mpr fun text before => ?_
      rw [brings.grows.leaf?_eq before] at free
      cases free
    · -- Earlier keys hold their texts, so this one is none of them.
      rw [news, List.nodup_append]
      refine ⟨brings.once, List.nodup_singleton _, fun key listed other new same => ?_⟩
      obtain ⟨e, member, -, rfl⟩ := Entry.mem_newKeys_iff.mp listed
      rw [← List.mem_singleton.mp new, ← same, brings.held e member] at free
      cases free
    · rw [leaf?_eq_some_iff, gains.values _ _ _ (Json.isLeaf_string text), ← leaf?_eq_some_iff,
        brings.texts key text]
      simp only [List.mem_append, List.mem_singleton, or_and_right, exists_or, exists_eq_left,
        status, true_and, or_assoc, candidate, Json.string.injEq]
      refine or_congr_right (or_congr_right (and_congr ?_ eq_comm))
      exact ⟨fun same => Messages.keySegments_injective same.symm, fun same => same ▸ rfl⟩

/-- The new keys are those that hold a text now and held none before. -/
theorem Brings.mem_newKeys_iff (brings : d.Brings entries now) (key : String) :
    key ∈ Entry.newKeys entries ↔
      d.leaf? d.sourceLocale key = none ∧ (now.leaf? d.sourceLocale key).isSome = true := by
  rw [Entry.mem_newKeys_iff]
  constructor
  · rintro ⟨e, member, new, rfl⟩
    exact ⟨brings.absent e member new, Option.isSome_iff_exists.mpr ⟨_, brings.held e member⟩⟩
  · rintro ⟨absent, some⟩
    obtain ⟨text, held⟩ := Option.isSome_iff_exists.mp some
    rcases (brings.texts key text).mp held with before | ⟨e, member, new, same, -⟩
    · rw [absent] at before
      cases before
    · exact ⟨e, member, new, same⟩

/-- Other keys hold what they held. -/
theorem Brings.leaf?_eq (brings : d.Brings entries now) {key : String}
    (old : key ∉ Entry.newKeys entries) :
    now.leaf? d.sourceLocale key = d.leaf? d.sourceLocale key := by
  refine Option.ext fun text => (brings.texts key text).trans (or_iff_left ?_)
  rintro ⟨e, member, new, same, -⟩
  exact old (Entry.mem_newKeys_iff.mpr ⟨e, member, new, same⟩)

end Dictionary

/-- A search brings the texts of its new entries. -/
theorem Tally.brings_ofSearch (rules : ExtractionRules) (search : SourceFile → FileSearch)
    (files : List SourceFile) (d : Dictionary) :
    d.Brings (ofSearch rules search files d).entries (ofSearch rules search files d).dictionary :=
  ofSearch_rec (motive := d.Brings) d.brings_nil
    (fun _ _ _ _ _ brings returned => brings.derived returned) search files

end Phrasebook
