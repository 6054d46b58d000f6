import Phrasebook.Proofs.Outcome
import Phrasebook.Proofs.Run.Ending
import Phrasebook.Run.Replacement

/-!
# What a replacement does to one file

What becomes of a file is planned from what is read; only a rewrite that is planned is carried out,
and only then anything is written. A replacement of many files carries out one plan after another, and
reports each outcome once.
-/

namespace Phrasebook

namespace FileOutcome

def rewrite? : FileOutcome → Option Rewrite
  | .rewritten r => some r
  | _ => none

def failure? : FileOutcome → Option Failure
  | .failed f => some f
  | _ => none

end FileOutcome

/-- The report of a replacement tells of all outcomes. -/
structure ReplacementReport.Covers (r : ReplacementReport) (outcomes : List FileOutcome) :
    Prop where
  covered : r.filesRewritten.length + r.filesUnchanged + r.filesFailed.length +
    r.notProcessed.length = outcomes.length
  rewritten : r.filesRewritten = (outcomes.filterMap FileOutcome.rewrite?).map Rewrite.file
  applied : r.replacementsApplied =
    ((outcomes.filterMap FileOutcome.rewrite?).map Rewrite.applied).sum
  failed : r.filesFailed = (outcomes.filterMap FileOutcome.failure?).map Failure.record

namespace ReplacementReport

/-- One more outcome. -/
theorem Covers.add {r : ReplacementReport} {outcomes : List FileOutcome}
    (covers : r.Covers outcomes) (outcome : FileOutcome) :
    (r.add outcome).Covers (outcomes ++ [outcome]) := by
  obtain ⟨covered, rewritten, applied, failed⟩ := covers
  have rewrites : (outcomes ++ [outcome]).filterMap FileOutcome.rewrite? =
      outcomes.filterMap FileOutcome.rewrite? ++ outcome.rewrite?.toList := by
    rw [List.filterMap_append]
    cases outcome <;> rfl
  refine ⟨?_, ?_, ?_, ?_⟩
  · rw [List.length_append, List.length_singleton, ← covered]
    cases outcome <;>
      simp only [ReplacementReport.add, List.length_append, List.length_singleton] <;> omega
  · rw [rewrites, List.map_append, ← rewritten]
    cases outcome <;> simp [ReplacementReport.add, FileOutcome.rewrite?]
  · rw [rewrites, List.map_append, List.sum_append, ← applied]
    cases outcome <;> simp [ReplacementReport.add, FileOutcome.rewrite?]
  · rw [List.filterMap_append, List.map_append, ← failed]
    cases outcome <;> simp [ReplacementReport.add, List.filterMap_cons, FileOutcome.failure?]

theorem covers_ofOutcomes (outcomes : List FileOutcome) :
    (ofOutcomes outcomes).Covers outcomes := by
  induction outcomes using List.reverseRecOn with
  | nil => exact ⟨rfl, rfl, rfl, rfl⟩
  | append_singleton outcomes outcome ih =>
    rw [ofOutcomes, List.foldl_append]
    exact ih.add outcome

end ReplacementReport

namespace Project

/-- What decides about a replacement with a dictionary. -/
def scene (p : Project) (occasion : Occasion) (launch : Launcher) (cancelled : Bool)
    (d : Dictionary) : ReplacementScene where
  rules := .ofSettings p.settings
  formatter := Formatter.ofArguments? p.settings.formatter
  launch := launch
  dictionary := d
  backups := p.backups occasion
  cancelled := cancelled

variable {σ : Type} [Storage σ] (p : Project) (scene : ReplacementScene)

/-- What a replacement makes of a file, nothing failing from here on. -/
def plan (storage : σ) (file : String) (entries : List Entry) : FileOutcome :=
  if scene.cancelled then .notProcessed file
  else
    match Storage.read storage (Path.join p.root file) with
    | .error e => .failed (.storage file e.message)
    | .ok text =>
      match rewriteText scene file text entries with
      | .error f => .failed f
      | .ok (r, _) => if r.isChanged then .rewritten r else .unchanged r

/-- What becomes of a file, and of the storage. -/
def carryOut (storage : σ) (file : String) (entries : List Entry) : FileOutcome × σ :=
  match p.plan scene storage file entries with
  | .rewritten r =>
    if p.settings.dryRun then (.rewritten r, storage)
    else saveRewrite scene (Path.join p.root file) r storage
  | outcome => (outcome, storage)

/-- One file after another. -/
def carryOutAll (storage : σ) : List (String × List Entry) → List FileOutcome × σ
  | [] => ([], storage)
  | (file, entries) :: rest =>
    let first := p.carryOut scene storage file entries
    let others := carryOutAll first.2 rest
    (first.1 :: others.1, others.2)

variable {p scene}

/-- Where no formatter is at work, what is planned is the rewrite. -/
theorem plan_of_rewrite {storage : σ} {file text : String} {entries : List Entry} {r : Rewrite}
    (going : scene.cancelled = false) (bare : scene.formatter = none)
    (read : Storage.read storage (Path.join p.root file) = .ok text)
    (made : scene.rules.rewrite file text.toList entries scene.dictionary = .ok r) :
    p.plan scene storage file entries = if r.isChanged then .rewritten r else .unchanged r := by
  have kept : rewriteText scene file text entries = .ok (r, r.skips.map Skip.notice) := by
    rw [rewriteText, made, ok_bind, bare]
    cases r.isChanged <;> rfl
  rw [plan, going, if_neg Bool.false_ne_true, read]
  dsimp only
  rw [kept]

/-- A rewrite that is laid out differs in its content only. -/
theorem rewrite_of_rewriteText {file text : String} {entries : List Entry} {r : Rewrite}
    {notices : List Notice} (made : rewriteText scene file text entries = .ok (r, notices)) :
    ∃ bare, scene.rules.rewrite file text.toList entries scene.dictionary = .ok bare ∧
      r = { bare with content := r.content } := by
  obtain ⟨bare, rewritten, laid⟩ := bind_eq_ok_iff.mp made
  refine ⟨bare, rewritten, ?_⟩
  split at laid <;> cases laid <;> rfl

variable (p scene) in
/-- A file is planned to be rewritten, or left as it is, by what is read from it. -/
theorem plan_cases (storage : σ) (file : String) (entries : List Entry) :
    (∃ text r, Storage.read storage (Path.join p.root file) = .ok text ∧
      (∃ bare, scene.rules.rewrite file text.toList entries scene.dictionary = .ok bare ∧
        r = { bare with content := r.content }) ∧
      p.plan scene storage file entries = if r.isChanged then .rewritten r else .unchanged r) ∨
    scene.cancelled = true ∧ p.plan scene storage file entries = .notProcessed file ∨
    ∃ f, p.plan scene storage file entries = .failed f := by
  unfold plan
  split
  next stopped => exact Or.inr (Or.inl ⟨stopped, rfl⟩)
  next =>
    cases read : Storage.read storage (Path.join p.root file) with
    | error e => exact Or.inr (Or.inr ⟨_, rfl⟩)
    | ok text =>
      dsimp only
      cases made : rewriteText scene file text entries with
      | error f => exact Or.inr (Or.inr ⟨_, rfl⟩)
      | ok found => exact Or.inl ⟨text, found.1, rfl, rewrite_of_rewriteText made, rfl⟩

variable (scene) in
theorem carryOut_dry (dry : p.settings.dryRun = true) (storage : σ) (file : String)
    (entries : List Entry) :
    p.carryOut scene storage file entries = (p.plan scene storage file entries, storage) := by
  unfold carryOut
  split
  next r planned => rw [if_pos dry, planned]
  next => rfl

/-- In a dry run nothing is carried out. -/
theorem carryOutAll_dry (dry : p.settings.dryRun = true) (storage : σ)
    (items : List (String × List Entry)) :
    p.carryOutAll scene storage items =
      (items.map fun (file, entries) => p.plan scene storage file entries, storage) := by
  induction items with
  | nil => rfl
  | cons item rest ih =>
    rw [carryOutAll, carryOut_dry scene dry, ih]
    rfl

theorem run_replaceFile (file : String) (entries : List Entry) (s : Session σ) : ∃ notices,
    (p.replaceFile scene file entries).run s = (.ok (p.carryOut scene s.storage file entries).1,
      { s with storage := (p.carryOut scene s.storage file entries).2, notices }) := by
  unfold replaceFile carryOut plan
  by_cases cancelled : scene.cancelled = true
  · simp only [cancelled, if_true]
    exact ⟨s.notices, rfl⟩
  · simp only [cancelled, if_false, Bool.false_eq_true]
    rw [Run.run_bind (show Run.storage.run s = (.ok s.storage, s) from rfl)]
    cases Storage.read s.storage (Path.join p.root file) with
    | error e => exact ⟨s.notices, rfl⟩
    | ok text =>
      dsimp only
      cases rewriteText scene file text entries with
      | error f => exact ⟨s.notices, rfl⟩
      | ok rewritten =>
        obtain ⟨r, notices⟩ := rewritten
        cases changed : r.isChanged <;> cases p.settings.dryRun <;>
          simp only [changed, Bool.not_true, Bool.not_false, if_true, if_false,
            Bool.false_eq_true] <;>
          exact ⟨s.notices ++ notices, rfl⟩

theorem run_outcomes (items : List (String × List Entry)) (s : Session σ) : ∃ notices,
    (items.mapM fun (file, entries) => p.replaceFile scene file entries).run s =
      (.ok (p.carryOutAll scene s.storage items).1,
        { s with storage := (p.carryOutAll scene s.storage items).2, notices }) := by
  induction items generalizing s with
  | nil => exact ⟨s.notices, rfl⟩
  | cons item rest ih =>
    obtain ⟨file, entries⟩ := item
    obtain ⟨notices, first⟩ := run_replaceFile file entries s
    obtain ⟨more, others⟩ := ih { s with
      storage := (p.carryOut scene s.storage file entries).2, notices }
    rw [List.mapM_cons, Run.run_bind first, Run.run_bind others]
    exact ⟨more, rfl⟩

/-- What is left of a replacement when all files are done. -/
def concludeReplacement (p : Project) (occasion : Occasion) (outcomes : List FileOutcome) :
    Run σ Replacement := do
  Run.notify (outcomes.filterMap fun
    | .failed f => some (.error f.message)
    | _ => none)
  let (existing, notices) := RunReport.loadExisting (← Run.storage) p.outputDirectory
  Run.notify notices
  let report : RunReport := {
    generatedAt := occasion.time
    dryRun := p.settings.dryRun
    extraction := existing.bind RunReport.extraction
    replacement := some (.ofOutcomes outcomes) }
  if !p.settings.dryRun then
    tryCatchThe RunError (report.save p.outputDirectory) fun _ => throw .sharedReportUnwritten
  return {
    report
    rewrites := outcomes.filterMap fun
      | .rewritten r => some r
      | _ => none }

/-- A replacement of files reads the source's document, does one file after another, and reports. -/
theorem replaceFiles_eq (occasion : Occasion) (launch : Launcher) (cancelled : Bool)
    (manifest : Manifest) : (p.replaceFiles occasion launch cancelled manifest : Run σ Replacement) =
    (do
      let d ← Run.ofExcept id (p.loadDictionary (← Run.storage) [p.settings.sourceLocale]
        "Cannot load the source locale: ")
      let outcomes ← manifest.byFile.mapM fun (file, entries) =>
        p.replaceFile (p.scene occasion launch cancelled d) file entries
      p.concludeReplacement occasion outcomes) :=
  rfl

/-- The end of a replacement reports its outcomes; in a dry run it writes nothing and does not
fail. -/
theorem ends_concludeReplacement (occasion : Occasion) (outcomes : List FileOutcome)
    (s : Session σ) :
    Run.Ends (p.concludeReplacement occasion outcomes) s
      (fun x after => x.rewrites = outcomes.filterMap FileOutcome.rewrite? ∧
        x.report.replacement = some (.ofOutcomes outcomes) ∧
        (p.settings.dryRun = true → after.storage = s.storage))
      fun _ _ => p.settings.dryRun = false := by
  simp only [concludeReplacement, Run.ends_bind, Run.ends_storage, Run.ends_notify]
  split
  next wet =>
    have wet : p.settings.dryRun = false := by simpa using wet
    rw [Run.ends_bind]
    refine (Run.ends_trivial _ _).mono (fun _ _ _ => ?_) fun _ _ _ => wet
    refine (Run.ends_pure _).mpr ⟨rfl, rfl, fun dry => ?_⟩
    rw [wet] at dry
    cases dry
  next => exact (Run.ends_pure _).mpr ⟨rfl, rfl, fun _ => rfl⟩

/-- The manifest that a replacement works on. -/
def readManifest (p : Project) (asked : Option String) (storage : σ) : Except RunError Manifest :=
  let path := p.manifestPath asked
  if Storage.holds storage path then
    match Storage.read storage path with
    | .error _ => .error (.manifestUnread path)
    | .ok text =>
      match Manifest.ofText? text with
      | some found => .ok found
      | none => .error (.manifestMalformed path)
  else
    .error (.failure (.setup ("No manifest at " ++ path ++ " (run `i18n-lift extract` first)")))

theorem readManifest_eq_ok {asked : Option String} {storage : σ} {text : String} {found : Manifest}
    (held : Storage.holds storage (p.manifestPath asked) = true)
    (read : Storage.read storage (p.manifestPath asked) = .ok text)
    (parsed : Manifest.ofText? text = some found) : p.readManifest asked storage = .ok found := by
  rw [readManifest, if_pos held, read]
  dsimp only
  rw [parsed]

theorem exists_of_readManifest {asked : Option String} {storage : σ} {found : Manifest}
    (read : p.readManifest asked storage = .ok found) :
    ∃ text, Storage.read storage (p.manifestPath asked) = .ok text ∧
      Manifest.ofText? text = some found := by
  unfold readManifest at read
  dsimp only at read
  split at read
  next =>
    split at read
    next => cases read
    next text there =>
      split at read
      next parsed =>
        cases read
        exact ⟨text, there, parsed⟩
      next => cases read
  next => cases read

/-- A replacement reads its manifest, and goes on with the files that are named there. -/
theorem ends_replace_iff {occasion : Occasion} {launch : Launcher} {cancelled : Bool}
    {asked : Option String} {s : Session σ} {good : Replacement → Session σ → Prop}
    {bad : RunError → Session σ → Prop} :
    Run.Ends (p.replace occasion launch cancelled asked) s good bad ↔
      match p.readManifest asked s.storage with
      | .error e => bad e s
      | .ok found => Run.Ends (Run.lockedUnless p.settings.dryRun p.outputDirectory
          (p.replaceFiles occasion launch cancelled found)) s good bad := by
  simp only [replace, Run.ends_bind, Run.ends_storage, readManifest]
  cases held : Storage.holds s.storage (p.manifestPath asked) with
  | false => simp
  | true =>
    cases read : Storage.read s.storage (p.manifestPath asked) with
    | error e => simp [read]
    | ok text => cases parsed : Manifest.ofText? text <;> simp [read, parsed]

end Project

end Phrasebook
