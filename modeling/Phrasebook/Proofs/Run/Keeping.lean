import Phrasebook.Command.Report
import Phrasebook.Proofs.Report.Records
import Phrasebook.Proofs.Rewrite.Asking
import Phrasebook.Proofs.Rewrite.Claiming
import Phrasebook.Proofs.Rewrite.Repetition
import Phrasebook.Proofs.Run.Accounting
import Phrasebook.Proofs.Run.Agreeing
import Phrasebook.Proofs.Syntax.Documents

/-!
# Reports that are kept

A report that was saved is loaded as it was, and to report again writes the same record. A
replacement keeps what the record says of the extraction before it, and says anew what it has done
itself. The files of a manifest may lead to the record, too: what can be read as a report has no
component when it is read as a module, so it is not rewritten.
-/

namespace Phrasebook

open LawfulStorage (place)
open FileStorage (fileAt?)

/-! ## Documents that are rewritten -/

theorem Component.ofItem?_eq_none {t : Syntax.Tree}
    (kind : t.kind = .expressionStatement ∨ t.kind = .block) : ofItem? t = none := by
  obtain ⟨kind', span, children⟩ := t
  rcases kind with same | same <;> cases same <;> rfl

namespace RewriteRules

variable (rules : RewriteRules) {file : String} {source : List Char} {entries : List Entry}
  {d : Dictionary} {r : Rewrite}

/-- A document is not changed, whatever entries are applied to it. -/
theorem edits_of_document {j : Json} (document : Json.readWritten source = .ok j)
    (shape : (∃ items, j = .array items) ∨ ∃ members, j = .object members)
    (returned : rules.rewrite file source entries d = .ok r) : r.edits = [] := by
  obtain ⟨tree, read, reports⟩ := rules.rewrite_reports file source d entries r returned
  obtain ⟨t, children, kind⟩ :=
    Syntax.module_of_document document shape (readModule_of_readSource read)
  have bare : Component.ofModule? tree = none := by
    rw [Component.ofModule?, children, List.findSome?_cons, Component.ofItem?_eq_none kind]
    rfl
  have idle : (Plan.ofEntries (rules.scene file source tree d) entries).edits = [] := by
    rw [Plan.ofEntries_edits_eq_nil_iff]
    intro e _ edit found
    obtain ⟨start, -, -, inside, -⟩ := (RewriteScene.edit?_eq_ok_iff _ _ _).mp found
    obtain ⟨c, component, -⟩ := (RewriteScene.inScope_iff _ _).mp inside
    cases bare.symm.trans component
  exact reports.edits_eq.trans (rules.edits_idle tree _ _ idle).edits_eq

end RewriteRules

namespace RunReport

/-- What is read as a report is an array or an object. -/
theorem document_of_ofText? {text : String} {r : RunReport} (found : ofText? text = some r) :
    ∃ j, Json.readWritten text.toList = .ok j ∧
      ((∃ items, j = .array items) ∨ ∃ members, j = .object members) := by
  rw [ofText?] at found
  split at found
  next j whole =>
    refine ⟨j, whole, ?_⟩
    obtain ⟨field, fields, -⟩ := Option.bind_eq_some_iff.mp found
    cases j with
    | array items => exact Or.inl ⟨items, rfl⟩
    | object members => exact Or.inr ⟨members, rfl⟩
    | _ => cases fields
  next => cases found

end RunReport

/-! ## Counts that fit -/

/-- What a rewrite reports of its entries: it counts none twice, and skips come from entries. -/
structure Rewrite.IsWithin (r : Rewrite) (entries : List Entry) : Prop where
  applied : r.applied ≤ entries.length
  declared : r.accessorsAdded.length ≤ entries.length
  skipped : ∀ skip ∈ r.skips, ∃ e ∈ entries, skip.position = e.candidate.position

/-- Entries need no more namespaces than there are entries. -/
theorem Plan.Covers.length_orderedSpaceNames_le {scene : RewriteScene} {entries : List Entry}
    {plan : Plan} (covers : plan.Covers scene entries) :
    plan.orderedSpaceNames.length ≤ entries.length := by
  have part : plan.orderedSpaceNames ⊆ entries.map Entry.spaceName := by
    intro name needed
    obtain ⟨e, known, same, -⟩ := covers.named name ((plan.mem_orderedSpaceNames name).mp needed)
    exact List.mem_map.mpr ⟨e, known, same⟩
  have fewer := (plan.nodup_orderedSpaceNames.subperm part).length_le
  rwa [List.length_map] at fewer

namespace RewriteRules

variable (rules : RewriteRules) {file : String} {source : List Char} {entries : List Entry}
  {d : Dictionary} {r : Rewrite}

theorem length_accessorsAdded_le (tree : Syntax.Tree) (scene : RewriteScene) (plan : Plan) :
    (rules.edits scene tree plan).accessorsAdded.length ≤ plan.orderedSpaceNames.length := by
  unfold edits
  split
  next => exact Nat.zero_le _
  next component _ =>
    split
    next => exact Nat.zero_le _
    next =>
      show ((component.lacking plan.orderedSpaceNames).map Key.accessor).length ≤ _
      rw [List.length_map]
      exact List.length_filter_le _ _

theorem isWithin_rewrite (returned : rules.rewrite file source entries d = .ok r) :
    r.IsWithin entries := by
  obtain ⟨tree, -, reports⟩ := rules.rewrite_reports file source d entries r returned
  let scene := rules.scene file source tree d
  let plan := Plan.ofEntries scene entries
  obtain ⟨applied, skipped, late, ledger⟩ := Plan.exists_ledger scene entries
  refine ⟨?_, ?_, fun skip member => ?_⟩
  · have sum : plan.edits.length + plan.skips.length + late.length = entries.length :=
      ledger.length_eq
    have counted : r.applied = plan.edits.length := reports.applied_eq
    omega
  · rw [reports.accessorsAdded_eq]
    exact (rules.length_accessorsAdded_le tree scene plan).trans
      (Plan.covers_ofEntries scene entries).length_orderedSpaceNames_le
  · obtain ⟨e, inside, -, same⟩ := ledger.exists_skipped skip (reports.skips_eq ▸ member)
    exact ⟨e, (ledger.mem_entries e).mpr (Or.inr (Or.inl inside)), congrArg Skip.position same⟩

end RewriteRules

/-- What is reported of a file stays within its entries. -/
def FileOutcome.IsWithin (entries : List Entry) : FileOutcome → Prop
  | .rewritten r | .unchanged r => r.IsWithin entries
  | .failed _ | .notProcessed _ => True

namespace ReplacementReport

/-- A report that counts no more than so much, with places that fit 64 bits. -/
structure IsWithin (r : ReplacementReport) (most : Nat) : Prop where
  filesUnchanged : r.filesUnchanged ≤ most
  replacementsApplied : r.replacementsApplied ≤ most
  importsAdded : r.importsAdded ≤ most
  accessorsAdded : r.accessorsAdded ≤ most
  skipped : ∀ skip ∈ r.skipped, skip.IsProper

variable {r : ReplacementReport} {most : Nat}

theorem isWithin_empty : empty.IsWithin 0 :=
  ⟨Nat.le_refl 0, Nat.le_refl 0, Nat.le_refl 0, Nat.le_refl 0, List.forall_mem_nil _⟩

theorem IsWithin.isProper (within : r.IsWithin most) (count : Json.IsCount most) : r.IsProper where
  filesUnchanged := within.filesUnchanged.trans count
  replacementsApplied := within.replacementsApplied.trans count
  skipped := within.skipped
  importsAdded := within.importsAdded.trans count
  accessorsAdded := within.accessorsAdded.trans count

/-- The outcome of a file with entries. -/
structure Fits (group : String × List Entry) (outcome : FileOutcome) : Prop where
  occupied : group.2 ≠ []
  words : ∀ e ∈ group.2, e.HasWords
  within : outcome.IsWithin group.2

/-- One more file counts no more than its entries. -/
theorem IsWithin.add (within : r.IsWithin most) {group : String × List Entry}
    {outcome : FileOutcome} (fits : Fits group outcome) :
    (r.add outcome).IsWithin (most + group.2.length) := by
  obtain ⟨occupied, words, inside⟩ := fits
  obtain ⟨unchanged, applied, imports, accessors, skipped⟩ := within
  have one : 0 < group.2.length := List.length_pos_iff.mpr occupied
  have places (w : Rewrite) (inside : w.IsWithin group.2) :
      ∀ skip ∈ r.skipped ++ w.skips, skip.IsProper := by
    intro skip member
    rcases List.mem_append.mp member with old | new
    · exact skipped skip old
    · obtain ⟨e, known, same⟩ := inside.skipped skip new
      obtain ⟨line, column⟩ := words e known
      exact ⟨same ▸ Nat.le_of_lt_succ line, same ▸ Nat.le_of_lt_succ column⟩
  cases outcome with
  | rewritten w =>
    have single : (if w.importAdded then 1 else 0) ≤ 1 := by split <;> decide
    exact ⟨Nat.le_add_right_of_le unchanged, Nat.add_le_add applied inside.applied,
      Nat.add_le_add imports (single.trans one), Nat.add_le_add accessors inside.declared,
      places w inside⟩
  | unchanged w =>
    exact ⟨Nat.add_le_add unchanged one, Nat.le_add_right_of_le applied,
      Nat.le_add_right_of_le imports, Nat.le_add_right_of_le accessors, places w inside⟩
  | failed | notProcessed =>
    exact ⟨Nat.le_add_right_of_le unchanged, Nat.le_add_right_of_le applied,
      Nat.le_add_right_of_le imports, Nat.le_add_right_of_le accessors, skipped⟩

theorem IsWithin.foldl (within : r.IsWithin most) {groups : List (String × List Entry)}
    {outcomes : List FileOutcome} (fits : List.Forall₂ Fits groups outcomes) :
    (outcomes.foldl ReplacementReport.add r).IsWithin (most + (groups.flatMap (·.2)).length) := by
  induction fits generalizing r most with
  | nil => exact within
  | cons first _ ih =>
    have rest := ih (within.add first)
    rwa [Nat.add_assoc, ← List.length_append] at rest

end ReplacementReport

namespace Project

section

variable {σ : Type} [Storage σ] {p : Project} {scene : ReplacementScene}

theorem isWithin_plan (storage : σ) (file : String) (entries : List Entry) :
    (p.plan scene storage file entries).IsWithin entries := by
  rcases p.plan_cases scene storage file entries with
    ⟨text, r, -, ⟨bare, rewritten, same⟩, planned⟩ | ⟨-, planned⟩ | ⟨f, planned⟩
  · have within : r.IsWithin entries := by
      obtain ⟨applied, declared, skipped⟩ := scene.rules.isWithin_rewrite rewritten
      rw [same]
      exact ⟨applied, declared, skipped⟩
    rw [planned]
    split <;> exact within
  · rw [planned]
    trivial
  · rw [planned]
    trivial

theorem isWithin_carryOut (storage : σ) (file : String) (entries : List Entry) :
    (p.carryOut scene storage file entries).1.IsWithin entries := by
  have planned : (p.plan scene storage file entries).IsWithin entries :=
    isWithin_plan storage file entries
  unfold carryOut
  cases made : p.plan scene storage file entries with
  | rewritten r =>
    rw [made] at planned
    dsimp only
    split
    next => exact planned
    next =>
      have follows := saveRewrite_cases scene (Path.join p.root file) r storage
      generalize (saveRewrite scene (Path.join p.root file) r storage).1 = outcome at follows
      cases follows with
      | same => exact planned
      | unsaved => trivial
  | unchanged | failed | notProcessed =>
    rw [made] at planned
    exact planned

theorem isWithin_carryOutAll (storage : σ) (items : List (String × List Entry)) :
    List.Forall₂ (fun item outcome => outcome.IsWithin item.2) items
      (p.carryOutAll scene storage items).1 := by
  induction items generalizing storage with
  | nil => exact .nil
  | cons item rest ih => exact .cons (isWithin_carryOut storage item.1 item.2) (ih _)

/-- What a replacement reports of a manifest that was read fits 64 bits, as its entries do. -/
theorem isProper_ofOutcomes {text : String} {found : Manifest}
    (read : Manifest.ofText? text = some found) (count : Json.IsCount found.entries.length)
    (storage : σ) :
    (ReplacementReport.ofOutcomes (p.carryOutAll scene storage found.byFile).1).IsProper := by
  have split := (Manifest.isOrdered_of_ofText? read).isSplit_byFile
  have words : ∀ group ∈ found.byFile, ∀ e ∈ group.2, e.HasWords := by
    intro group member e inside
    refine Manifest.hasWords_of_ofText? read e ?_
    exact split.whole ▸ List.mem_flatMap.mpr ⟨group, member, inside⟩
  have fits : List.Forall₂ ReplacementReport.Fits found.byFile
      (p.carryOutAll scene storage found.byFile).1 := by
    have both := (List.forall₂_and_left _ _).mpr
      ⟨fun group member => And.intro (split.occupied group member) (words group member),
        @isWithin_carryOutAll _ _ p scene storage found.byFile⟩
    exact both.imp fun _ _ fits => ⟨fits.1.1, fits.1.2, fits.2⟩
  have within := ReplacementReport.isWithin_empty.foldl fits
  rw [split.whole, Nat.zero_add] at within
  exact within.isProper count

end

end Project

/-! ## Saving -/

namespace RunReport

section

variable {σ : Type} [Storage σ]

/-- A directory's record has a text. -/
def IsRecorded (storage : σ) (directory text : String) : Prop :=
  Storage.read storage (recordPath directory) = .ok text

theorem load_eq_ok_iff {storage : σ} {directory : String} {r : RunReport} :
    load storage directory = .ok r ↔
      ∃ text, IsRecorded storage directory text ∧ ofText? text = some r := by
  unfold load IsRecorded
  dsimp only
  cases Storage.read storage (recordPath directory) with
  | error e => simp [Except.mapError, bind, Except.bind]
  | ok text =>
    cases whole : ofText? text with
    | none => simp [Except.mapError, bind, Except.bind, whole]
    | some found => simp [Except.mapError, bind, Except.bind, whole, pure, Except.pure]

theorem IsProper.load_eq {storage : σ} {directory : String} {r : RunReport} (proper : r.IsProper)
    (recorded : IsRecorded storage directory r.text) : load storage directory = .ok r :=
  load_eq_ok_iff.mpr ⟨r.text, recorded, proper.ofText?_text⟩

theorem load_of_undisturbed {before after : σ} {directory : String} {r : RunReport}
    (loaded : load before directory = .ok r)
    (undisturbed : Undisturbed (recordPath directory) before after) :
    load after directory = .ok r := by
  obtain ⟨text, recorded, whole⟩ := load_eq_ok_iff.mp loaded
  exact load_eq_ok_iff.mpr ⟨text, undisturbed.kept text recorded, whole⟩

variable [LawfulStorage σ]

/-- The record is in the place of no file whose name ends otherwise. -/
theorem place_record_ne (storage : σ) (directory other front ending : String)
    (whole : '/' ∉ ending.toList) (long : 2 < ending.toList.length)
    (differs : ending.toList.getLast? ≠ some 'n') :
    place storage (recordPath directory) ≠ place storage (Path.join other (front ++ ending)) :=
  LawfulStorage.place_document_ne storage directory "report" other front ending whole long differs

/-- To save a report writes its record and its page. If a file cannot be written the run stops, and
a record that could not be written is the old one. -/
theorem ends_save_kept (r : RunReport) (directory : String) (s : Session σ) :
    Run.Ends (r.save directory) s
      (fun _ after => IsRecorded after.storage directory r.text ∧
        Storage.read after.storage (pagePath directory) = .ok r.page)
      (fun e after => e = .reportUnwritten (recordPath directory) ∧
          (∀ text, IsRecorded s.storage directory text → IsRecorded after.storage directory text) ∨
        e = .reportUnwritten (pagePath directory) ∧ IsRecorded after.storage directory r.text) := by
  simp only [save, Run.ends_bind, Run.ends_change, Run.ends_ofExcept]
  have recorded := LawfulStorage.read_of_write s.storage (recordPath directory) r.text
  have stays := LawfulStorage.undisturbed_of_error s.storage (recordPath directory) r.text
  refine ⟨fun _ written => ?_, fun e failed => Or.inl ⟨trivial, (stays e failed).kept⟩⟩
  have apart (storage : σ) : place storage (recordPath directory) ≠
      place storage (pagePath directory) :=
    place_record_ne storage directory directory "" pageName (by decide) (by decide) (by decide)
  have kept := (LawfulStorage.undisturbed_write _ _ r.page _ (apart _)).kept r.text
    (recorded written)
  exact ⟨fun _ shown => ⟨kept, LawfulStorage.read_of_write _ _ _ shown⟩,
    fun e _ => Or.inr ⟨trivial, kept⟩⟩

end

end RunReport

namespace Project

section

variable {σ : Type} [Storage σ] [LawfulStorage σ] {p : Project} {s : Session σ}

/-- To report again leaves a record that was saved as it is, and shows it anew. -/
theorem ends_runReport {r : RunReport} (proper : r.IsProper)
    (recorded : RunReport.IsRecorded s.storage p.outputDirectory r.text) :
    Run.Ends p.runReport s
      (fun _ after => RunReport.IsRecorded after.storage p.outputDirectory r.text ∧
        (p.settings.dryRun = false →
          Storage.read after.storage (RunReport.pagePath p.outputDirectory) = .ok r.page))
      (fun e after => (e = .reportUnwritten (RunReport.recordPath p.outputDirectory) ∨
          e = .reportUnwritten (RunReport.pagePath p.outputDirectory)) ∧
        RunReport.IsRecorded after.storage p.outputDirectory r.text) := by
  have held := LawfulStorage.holds_of_read _ _ _ recorded
  have loaded := proper.load_eq recorded
  simp only [runReport, Run.ends_bind, Run.ends_print, Run.ends_storage, held, Bool.not_true,
    Bool.false_eq_true, if_false, Run.ends_ofExcept, loaded, Except.ok.injEq, forall_eq',
    reduceCtorEq, false_implies, implies_true, and_true]
  split
  next dry =>
    simp only [Run.ends_bind, Run.ends_print]
    exact ⟨recorded, fun wet => absurd dry (Bool.eq_false_iff.mp wet)⟩
  next =>
    rw [Run.ends_bind]
    refine (RunReport.ends_save_kept r _ _).mono (fun _ after saved => ?_) fun e after failed => ?_
    · simp only [Run.ends_bind, Run.ends_print]
      exact ⟨saved.1, fun _ => saved.2⟩
    · rcases failed with ⟨rfl, kept⟩ | ⟨rfl, recorded⟩
      · exact ⟨Or.inl rfl, kept r.text recorded⟩
      · exact ⟨Or.inr rfl, recorded⟩

end

/-! ## Replacing -/

section

variable {σ : Type} [Storage σ] [SteadyStorage σ] {p : Project} {scene : ReplacementScene}
  {text : String} {old : RunReport}

/-- A file that is replaced is not the record of a report, by whatever path it is reached. -/
theorem place_record_ne_of_plan {storage : σ} {file : String} {entries : List Entry} {r : Rewrite}
    (recorded : RunReport.IsRecorded storage p.outputDirectory text)
    (whole : RunReport.ofText? text = some old)
    (planned : p.plan scene storage file entries = .rewritten r) :
    place storage (RunReport.recordPath p.outputDirectory) ≠
      place storage (Path.join p.root file) := by
  intro same
  rcases p.plan_cases scene storage file entries with
    ⟨content, r', read, ⟨bare, rewritten, laidOut⟩, decided⟩ | ⟨-, other⟩ | ⟨f, other⟩
  · -- The file holds what the record holds, and so is not changed.
    have here := FileStorage.fileAt?_of_read storage _ _ read
    rw [← same, FileStorage.fileAt?_of_read storage _ _ recorded] at here
    cases here
    obtain ⟨j, document, shape⟩ := RunReport.document_of_ofText? whole
    have idle : r'.isChanged = false := by
      rw [laidOut, Rewrite.isChanged]
      simp [scene.rules.edits_of_document document shape rewritten]
    rw [decided, idle] at planned
    cases planned
  · cases other.symm.trans planned
  · cases other.symm.trans planned

theorem isRecorded_carryOut {storage : σ} (file : String) (entries : List Entry)
    (recorded : RunReport.IsRecorded storage p.outputDirectory text)
    (whole : RunReport.ofText? text = some old) :
    RunReport.IsRecorded (p.carryOut scene storage file entries).2 p.outputDirectory text := by
  unfold carryOut
  split
  next r planned =>
    split
    next => exact recorded
    next =>
      have aside : place storage (RunReport.recordPath p.outputDirectory) ≠
          place storage (scene.backups.place (Path.join p.root file)) :=
        LawfulStorage.place_ne storage p.outputDirectory "report" scene.backups _
      exact (untouched_saveRewrite (place_record_ne_of_plan recorded whole planned) aside
        r).undisturbed.kept text recorded
  next => exact recorded

/-- Whatever files are replaced, the record of a report is kept. -/
theorem isRecorded_carryOutAll {storage : σ} (items : List (String × List Entry))
    (recorded : RunReport.IsRecorded storage p.outputDirectory text)
    (whole : RunReport.ofText? text = some old) :
    RunReport.IsRecorded (p.carryOutAll scene storage items).2 p.outputDirectory text := by
  induction items generalizing storage with
  | nil => exact recorded
  | cons item rest ih => exact ih (isRecorded_carryOut item.1 item.2 recorded whole)

/-- A report with what a replacement has done. -/
def merged (p : Project) (occasion : Occasion) (old : RunReport) (outcomes : List FileOutcome) :
    RunReport where
  generatedAt := occasion.time
  dryRun := p.settings.dryRun
  extraction := old.extraction
  replacement := some (.ofOutcomes outcomes)

/-- There is a report still that says of the extraction what it said before. -/
def SparesExtraction (p : Project) (old : RunReport) (storage : σ) : Prop :=
  ∃ left, RunReport.load storage p.outputDirectory = .ok left ∧ left.extraction = old.extraction

omit [SteadyStorage σ] in
theorem SparesExtraction.of_isRecorded {storage : σ}
    (recorded : RunReport.IsRecorded storage p.outputDirectory text)
    (whole : RunReport.ofText? text = some old) : p.SparesExtraction old storage :=
  ⟨old, RunReport.load_eq_ok_iff.mpr ⟨text, recorded, whole⟩, rfl⟩

/-- The end of a replacement puts its outcomes into the report that is there. -/
theorem ends_concludeReplacement_merged (wet : p.settings.dryRun = false) (occasion : Occasion)
    (outcomes : List FileOutcome) (s : Session σ)
    (recorded : RunReport.IsRecorded s.storage p.outputDirectory text)
    (whole : RunReport.ofText? text = some old)
    (proper : (ReplacementReport.ofOutcomes outcomes).IsProper) :
    Run.Ends (p.concludeReplacement occasion outcomes) s
      (fun x after => x.report = p.merged occasion old outcomes ∧
        RunReport.load after.storage p.outputDirectory = .ok x.report)
      (fun _ after => p.SparesExtraction old after.storage) := by
  have loaded : RunReport.load s.storage p.outputDirectory = .ok old :=
    RunReport.load_eq_ok_iff.mpr ⟨text, recorded, whole⟩
  have existing : RunReport.loadExisting s.storage p.outputDirectory = (some old, []) := by
    rw [RunReport.loadExisting, if_pos (LawfulStorage.holds_of_read _ _ _ recorded), loaded]
  have fits : (p.merged occasion old outcomes).IsProper := by
    refine ⟨(RunReport.isProper_of_ofText? whole).extraction, ?_⟩
    rintro _ ⟨⟩
    exact proper
  have report : (⟨occasion.time, p.settings.dryRun, old.extraction, some (.ofOutcomes outcomes)⟩ :
      RunReport) = p.merged occasion old outcomes := rfl
  have writes : (!p.settings.dryRun) = true := by rw [wet]; rfl
  simp only [concludeReplacement, Run.ends_bind, Run.ends_storage, Run.ends_notify, existing,
    writes, if_true, Run.ends_tryCatch, Run.ends_throw, Option.bind_some, report]
  refine (RunReport.ends_save_kept (p.merged occasion old outcomes) _ _).mono ?_ ?_
  · intro _ after saved
    exact (Run.ends_pure _).mpr ⟨rfl, fits.load_eq saved.1⟩
  · rintro e after (⟨-, kept⟩ | ⟨-, recorded⟩)
    · exact .of_isRecorded (kept text recorded) whole
    · exact ⟨_, fits.load_eq recorded, rfl⟩

theorem ends_replaceFiles_merged (wet : p.settings.dryRun = false) (occasion : Occasion)
    (launch : Launcher) (cancelled : Bool) {found : Manifest} {note : String}
    (read : Manifest.ofText? note = some found) (count : Json.IsCount found.entries.length)
    (s : Session σ) (recorded : RunReport.IsRecorded s.storage p.outputDirectory text)
    (whole : RunReport.ofText? text = some old) :
    Run.Ends (p.replaceFiles occasion launch cancelled found) s
      (fun x after => RunReport.load after.storage p.outputDirectory = .ok x.report ∧
        ∃ d, p.dictionary.loadAll s.storage [p.settings.sourceLocale] = (none, d) ∧
          x.report = p.merged occasion old
            (p.carryOutAll (p.scene occasion launch cancelled d) s.storage found.byFile).1)
      (fun _ after => p.SparesExtraction old after.storage) := by
  simp only [replaceFiles_eq, Run.ends_bind, Run.ends_storage, Run.ends_ofExcept]
  refine ⟨fun d loaded => ?_, fun _ _ => .of_isRecorded recorded whole⟩
  obtain ⟨notices, outcomes⟩ :=
    @run_outcomes _ _ p (p.scene occasion launch cancelled d) found.byFile s
  rw [Run.ends_iff_of_ok outcomes]
  refine (ends_concludeReplacement_merged wet occasion _ _
    (isRecorded_carryOutAll found.byFile recorded whole) whole
    (isProper_ofOutcomes read count s.storage)).mono (fun x after done => ?_) fun _ _ kept => kept
  exact ⟨done.2, d, loadDictionary_eq_ok loaded, done.1⟩

/-- A replacement keeps what a report says of the extraction, and says what it has done itself. -/
theorem ends_replace_merged (wet : p.settings.dryRun = false) (occasion : Occasion)
    (launch : Launcher) (cancelled : Bool) (asked : Option String) (s : Session σ)
    (loaded : RunReport.load s.storage p.outputDirectory = .ok old)
    (count : ∀ found, p.readManifest asked s.storage = .ok found →
      Json.IsCount found.entries.length) :
    Run.Ends (p.replace occasion launch cancelled asked) s
      (fun x after => RunReport.load after.storage p.outputDirectory = .ok x.report ∧
        ∃ found d, p.readManifest asked s.storage = .ok found ∧
          p.dictionary.loadAll (p.workplace s.storage) [p.settings.sourceLocale] = (none, d) ∧
          x.report = p.merged occasion old (p.carryOutAll (p.scene occasion launch cancelled d)
            (p.workplace s.storage) found.byFile).1)
      (fun _ after => p.SparesExtraction old after.storage) := by
  obtain ⟨text, recorded, whole⟩ := RunReport.load_eq_ok_iff.mp loaded
  rw [ends_replace_iff]
  cases read : p.readManifest asked s.storage with
  | error e => exact .of_isRecorded recorded whole
  | ok found =>
    obtain ⟨note, -, parsed⟩ := exists_of_readManifest read
    have apart : place s.storage (RunReport.recordPath p.outputDirectory) ≠
        place s.storage (Path.join p.outputDirectory Disk.lockName) :=
      RunReport.place_record_ne s.storage _ p.outputDirectory "" Disk.lockName (by decide)
        (by decide) (by decide)
    have taken := (FileStorage.undisturbed_lock s.storage p.outputDirectory _ apart).kept text
      recorded
    have given {storage : σ} {r : RunReport}
        (load : RunReport.load storage p.outputDirectory = .ok r) :=
      RunReport.load_of_undisturbed load
        (FileStorage.undisturbed_unlock storage p.outputDirectory _)
    have work : p.workplace s.storage = (Storage.lock s.storage p.outputDirectory).2 := by
      rw [workplace, wet, if_neg Bool.false_ne_true]
    dsimp only
    rw [Run.lockedUnless, wet, if_neg Bool.false_ne_true, Run.ends_locked, work]
    refine ⟨fun e storage refused => ?_, fun storage locked => ?_⟩
    · rw [refused] at taken
      exact .of_isRecorded taken whole
    · rw [locked] at taken ⊢
      dsimp only at taken ⊢
      refine (ends_replaceFiles_merged wet occasion launch cancelled parsed (count found read)
        { s with storage } taken whole).mono (fun x after done => ?_) fun e after kept => ?_
      · obtain ⟨load, d, dictionary, report⟩ := done
        exact ⟨given load, found, d, rfl, dictionary, report⟩
      · obtain ⟨left, load, same⟩ := kept
        exact ⟨left, given load, same⟩

/-- A report that was saved is loaded as it was. To report again leaves its record as it is, byte
for byte, and writes its page. A replacement that finds a report keeps what it says of the
extraction, and puts its own outcomes in the place of those before; if it stops, what the report says
of the extraction is kept as well. -/
theorem reports_are_kept (p : Project) (s : Session σ) :
    (∀ r : RunReport, r.IsProper →
      Run.Ends (r.save p.outputDirectory) s
        (fun _ saved => RunReport.load saved.storage p.outputDirectory = .ok r ∧
          RunReport.IsRecorded saved.storage p.outputDirectory r.text)
        (fun e after => e = .reportUnwritten (RunReport.recordPath p.outputDirectory) ∨
          e = .reportUnwritten (RunReport.pagePath p.outputDirectory) ∧
            RunReport.load after.storage p.outputDirectory = .ok r) ∧
      (RunReport.IsRecorded s.storage p.outputDirectory r.text →
        Run.Ends p.runReport s
          (fun _ after => RunReport.IsRecorded after.storage p.outputDirectory r.text ∧
            (p.settings.dryRun = false →
              Storage.read after.storage (RunReport.pagePath p.outputDirectory) = .ok r.page))
          (fun e after => (e = .reportUnwritten (RunReport.recordPath p.outputDirectory) ∨
              e = .reportUnwritten (RunReport.pagePath p.outputDirectory)) ∧
            RunReport.IsRecorded after.storage p.outputDirectory r.text))) ∧
    ∀ (old : RunReport) (occasion : Occasion) (launch : Launcher) (cancelled : Bool)
      (asked : Option String), p.settings.dryRun = false →
      RunReport.load s.storage p.outputDirectory = .ok old →
      (∀ found, p.readManifest asked s.storage = .ok found →
        Json.IsCount found.entries.length) →
      Run.Ends (p.replace occasion launch cancelled asked) s
        (fun x after => RunReport.load after.storage p.outputDirectory = .ok x.report ∧
          x.report.extraction = old.extraction ∧
          ∃ found d, p.readManifest asked s.storage = .ok found ∧
            p.dictionary.loadAll (p.workplace s.storage) [p.settings.sourceLocale] = (none, d) ∧
            x.report.replacement = some (.ofOutcomes (p.carryOutAll
              (p.scene occasion launch cancelled d) (p.workplace s.storage) found.byFile).1))
        (fun _ after => ∃ left, RunReport.load after.storage p.outputDirectory = .ok left ∧
          left.extraction = old.extraction) := by
  refine ⟨fun r proper => ⟨?_, ends_runReport proper⟩,
    fun old occasion launch cancelled asked wet loaded count => ?_⟩
  · refine (RunReport.ends_save_kept r p.outputDirectory s).mono
      (fun _ _ saved => ⟨proper.load_eq saved.1, saved.1⟩) fun e after failed => ?_
    exact failed.imp And.left fun ⟨page, recorded⟩ => ⟨page, proper.load_eq recorded⟩
  · refine (ends_replace_merged wet occasion launch cancelled asked s loaded count).mono ?_
      fun _ _ kept => kept
    rintro x after ⟨load, found, d, read, dictionary, report⟩
    refine ⟨load, ?_, found, d, read, dictionary, ?_⟩
    · rw [report]
      rfl
    · rw [report]
      rfl

end

/-! A manifest that names the record itself, beside the module of one text. -/

namespace Included

open Halfway (project occasion launch entry shelf)

/-- What an extraction and a replacement have said. -/
def report : RunReport where
  generatedAt := ""
  dryRun := false
  extraction := some { ExtractionReport.empty with
    filesScanned := 1
    candidatesFound := 2
    rejected := [("TooShort", 1)]
    newlyExtracted := 1
    byNamespace := [("common", 1)]
    byFile := [("src/a.ts", ⟨1, 0, 1⟩)] }
  replacement := some { ReplacementReport.empty with
    skipped := [⟨"src/a.ts", ⟨1, 3⟩, "common.a.a_b", "A b", .drift⟩]
    filesUnchanged := 1 }

/-- An entry of the record. -/
def recorded : Entry :=
  { entry .new with candidate := { Halfway.candidate with file := ".i18n-lift/report.json" } }

def entries : List Entry := [entry .new, recorded]

def storage : Shelf :=
  shelf [] [] [(".i18n-lift/manifest.json", (Manifest.ofEntries entries).text),
    (".i18n-lift/report.json", report.text)]

theorem isProper_report : report.IsProper where
  extraction := by
    rintro _ ⟨⟩
    have single {α : Type} {kind : α → Prop} {name : String} {a : α} (fits : kind a) :
        Json.TableHolds kind [(name, a)] :=
      ⟨List.pairwise_singleton .., List.forall_mem_singleton.mpr fits⟩
    have counts : FileCounts.IsProper ⟨1, 0, 1⟩ := ⟨by decide, by decide, by decide⟩
    exact ⟨by decide, by decide, single (by decide), by decide, by decide, by decide, by decide,
      ⟨by decide, by decide, by decide, by decide⟩, single (by decide), single counts⟩
  replacement := by
    rintro _ ⟨⟩
    exact ⟨by decide, by decide, List.forall_mem_singleton.mpr ⟨by decide, by decide⟩, by decide,
      by decide⟩

theorem isRecorded_report : RunReport.IsRecorded storage project.outputDirectory report.text := by
  rw [RunReport.IsRecorded, Halfway.places.output, Halfway.places.record]
  rfl

theorem readManifest_eq : project.readManifest none storage = .ok (.ofEntries entries) := by
  have words : ∀ e ∈ entries, e.candidate.position.line < 2 ^ 64 ∧
      e.candidate.position.column < 2 ^ 64 := by decide
  have read : Storage.read storage (project.manifestPath none) =
      .ok (Manifest.ofEntries entries).text := by
    rw [Halfway.places.manifest]
    rfl
  exact readManifest_eq_ok (LawfulStorage.holds_of_read _ _ _ read) read
    ((Manifest.isOrdered_ofEntries entries).ofText?_text fun e member =>
      words e ((Manifest.perm_ofEntries entries).mem_iff.mp member))

end Included

/-- The record is an entry's file, and still the extraction is kept. -/
theorem reports_are_kept_included :
    Included.report.IsProper ∧
    RunReport.IsRecorded Included.storage Halfway.project.outputDirectory Included.report.text ∧
    Halfway.project.settings.dryRun = false ∧
    RunReport.load Included.storage Halfway.project.outputDirectory = .ok Included.report ∧
    (∃ found, Halfway.project.readManifest none Included.storage = .ok found ∧
      ".i18n-lift/report.json" ∈ found.files ∧ Json.IsCount found.entries.length) ∧
    Run.Ends (Included.report.save Halfway.project.outputDirectory) (.start Included.storage)
      (fun _ saved =>
        RunReport.load saved.storage Halfway.project.outputDirectory = .ok Included.report)
      (fun _ _ => True) ∧
    Run.Ends Halfway.project.runReport (.start Included.storage)
      (fun _ after => RunReport.IsRecorded after.storage Halfway.project.outputDirectory
        Included.report.text)
      (fun _ _ => True) ∧
    Run.Ends (Halfway.project.replace Halfway.occasion Halfway.launch false none)
      (.start Included.storage)
      (fun x after => RunReport.load after.storage Halfway.project.outputDirectory = .ok x.report ∧
        x.report.extraction = Included.report.extraction)
      (fun _ after => ∃ left,
        RunReport.load after.storage Halfway.project.outputDirectory = .ok left ∧
          left.extraction = Included.report.extraction) := by
  have loaded := Included.isProper_report.load_eq Included.isRecorded_report
  have count : Json.IsCount (Manifest.ofEntries Included.entries).entries.length := by
    rw [(Manifest.perm_ofEntries Included.entries).length_eq]
    decide
  have counts : ∀ found, Halfway.project.readManifest none Included.storage = .ok found →
      Json.IsCount found.entries.length := by
    intro found read
    cases Included.readManifest_eq.symm.trans read
    exact count
  have named : ".i18n-lift/report.json" ∈ (Manifest.ofEntries Included.entries).files := by
    refine (Manifest.ofEntries Included.entries).mem_files.mpr ⟨Included.recorded, ?_, rfl⟩
    exact (Manifest.perm_ofEntries Included.entries).mem_iff.mpr (by simp [Included.entries])
  obtain ⟨kept, merges⟩ := reports_are_kept Halfway.project (.start Included.storage)
  obtain ⟨saved, again⟩ := kept Included.report Included.isProper_report
  refine ⟨Included.isProper_report, Included.isRecorded_report, rfl, loaded,
    ⟨_, Included.readManifest_eq, named, count⟩, ?_, ?_, ?_⟩
  · exact saved.mono (fun _ _ done => done.1) fun _ _ _ => trivial
  · exact (again Included.isRecorded_report).mono (fun _ _ done => done.1) fun _ _ _ => trivial
  · exact (merges Included.report Halfway.occasion Halfway.launch false none rfl loaded counts).mono
      (fun _ _ done => ⟨done.1, done.2.1⟩) fun _ _ stopped => stopped

end Project

end Phrasebook
