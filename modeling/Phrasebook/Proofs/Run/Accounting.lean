import Phrasebook.Proofs.Dictionary.Propagating
import Phrasebook.Proofs.Dictionary.Remembering
import Phrasebook.Proofs.Manifest.Order
import Phrasebook.Proofs.Run.Counting
import Phrasebook.Proofs.Run.Rehearsing

/-!
# Reports add up

The counts in the report of an extraction are those of its candidates, its keys and its files, and
the counts in the report of a replacement are those of the manifest's files. They add up wherever a
run is cancelled: files that it comes to later are counted as well.
-/

namespace Phrasebook

variable {σ : Type} [Storage σ]

/-! ## Runs that are cancelled under way -/

namespace Project

variable (p : Project) (occasion : Occasion)

/-- What is left of an extraction when all files are searched. -/
def concludeExtraction (asked : Option String) (t : Tally) : Run σ Extraction := do
  Run.notify t.notices
  let propagated := t.dictionary.propagate p.settings.sourceLocale p.settings.targetLocales
  Run.notify propagated.notices
  let report := { t.report with propagation := propagated.counts }
  let done : Extraction := {
    report := ⟨occasion.time, p.settings.dryRun, some report, none⟩
    manifest := .ofEntries t.entries
    manifestPath := p.manifestPath asked
    dictionary := propagated.dictionary }
  if p.settings.dryRun then return done else p.saveExtraction occasion done report

/-- The part of an extraction that needs the lock; it leaves the files that it comes to after it is
cancelled. -/
def extractFilesUntil (rules : ExtractionRules) (cancelled : SourceFile → Bool)
    (asked : Option String) (files : List SourceFile) : Run σ Extraction := do
  let d ← Run.ofExcept id (p.loadDictionary (← Run.storage) p.settings.locales
    "Cannot load locale documents: ")
  Run.notify [.detail ("Scanning " ++ toString files.length ++ " file(s)")]
  let storage ← Run.storage
  p.concludeExtraction occasion asked
    (.ofSearch rules (fun file => searchFile rules (cancelled file) storage file) files d)

/-- An extraction that may be cancelled at any of its files. -/
def extractUntil (cancelled : SourceFile → Bool) (asked : Option String) : Run σ Extraction := do
  let (files, notices) ←
    Run.ofExcept .settings (Selection.select (← Run.storage) p.root p.settings)
  Run.notify notices
  let rules ← Run.ofExcept .settings (ExtractionRules.ofSettings p.settings)
  Run.lockedUnless p.settings.dryRun p.outputDirectory
    (p.extractFilesUntil occasion rules cancelled asked files)

theorem extract_eq (cancelled : Bool) (asked : Option String) :
    (p.extract occasion cancelled asked : Run σ Extraction) =
      p.extractUntil occasion (fun _ => cancelled) asked :=
  rfl

/-- The part of a replacement that needs the lock; it leaves the files that it comes to after it is
cancelled. -/
def replaceFilesUntil (launch : Launcher) (cancelled : String → Bool) (manifest : Manifest) :
    Run σ Replacement := do
  let d ← Run.ofExcept id (p.loadDictionary (← Run.storage) [p.settings.sourceLocale]
    "Cannot load the source locale: ")
  let outcomes ← manifest.byFile.mapM fun (file, entries) =>
    p.replaceFile (p.scene occasion launch (cancelled file) d) file entries
  p.concludeReplacement occasion outcomes

/-- A replacement that may be cancelled at any of its files. -/
def replaceUntil (launch : Launcher) (cancelled : String → Bool) (asked : Option String) :
    Run σ Replacement := do
  let found ← Run.ofExcept id (p.readManifest asked (← Run.storage))
  Run.lockedUnless p.settings.dryRun p.outputDirectory
    (p.replaceFilesUntil occasion launch cancelled found)

/-- A replacement looks for its manifest first, whatever it does with it. -/
theorem replace_eq (launch : Launcher) (cancelled : Bool) (asked : Option String) :
    (p.replace occasion launch cancelled asked : Run σ Replacement) =
      p.replaceUntil occasion launch (fun _ => cancelled) asked := by
  refine ExceptT.ext (StateT.ext fun s => ?_)
  have start : (Run.storage : Run σ σ).run s = (.ok s.storage, s) := rfl
  show (p.replace occasion launch cancelled asked).run s =
    (p.replaceUntil occasion launch (fun _ => cancelled) asked).run s
  rw [replace, replaceUntil, Run.run_bind start, Run.run_bind start, readManifest]
  cases held : Storage.holds s.storage (p.manifestPath asked) with
  | false => rfl
  | true =>
    simp only [Bool.not_true, Bool.false_eq_true, if_false, if_true]
    rw [Run.run_bind start]
    cases Storage.read s.storage (p.manifestPath asked) with
    | error e => rfl
    | ok text =>
      rw [Run.run_bind (show (Run.ofExcept _ (Except.ok text)).run s = (.ok text, s) from rfl)]
      dsimp only
      cases Manifest.ofText? text <;> rfl

end Project

/-! ## Files -/

namespace SourceFile

theorem le_iff (a b : SourceFile) : le a b = true ↔
    Prod.Lex (· < ·) (· ≤ ·) (a.relative, a.withinRoot) (b.relative, b.withinRoot) := by
  simp only [Prod.lex_iff, le, Bool.or_eq_true, Bool.and_eq_true, decide_eq_true_eq, beq_iff_eq,
    Bool.not_eq_true', decide_eq_false_iff_not, String.not_lt]

theorem le_trans (a b c : SourceFile) (first : le a b = true) (second : le b c = true) :
    le a c = true :=
  (le_iff a c).mpr (((le_iff a b).mp first).trans ((le_iff b c).mp second))

theorem le_total (a b : SourceFile) : (le a b || le b a) = true := by
  rw [Bool.or_eq_true, le_iff, le_iff]
  exact Std.Total.total _ _

theorem relative_le {a b : SourceFile} (order : le a b = true) : a.relative ≤ b.relative := by
  rcases Prod.lex_iff.mp ((le_iff a b).mp order) with earlier | ⟨same, -⟩
  · exact earlier.le
  · exact same.le

/-- Files in order, each path once. -/
theorem rising_dropRepeated {files : List SourceFile}
    (ordered : files.Pairwise fun f g => f.relative ≤ g.relative) :
    (dropRepeated files).Pairwise fun f g => f.relative < g.relative := by
  fun_induction dropRepeated files with
  | case1 => exact .nil
  | case2 f => exact List.pairwise_singleton _ f
  | case3 f g rest same ih =>
    exact ih (ordered.sublist ((List.sublist_cons_self g rest).cons_cons f))
  | case4 f g rest differs ih =>
    obtain ⟨first, others⟩ := List.pairwise_cons.mp ordered
    obtain ⟨second, -⟩ := List.pairwise_cons.mp others
    have earlier : f.relative < g.relative :=
      lt_of_le_of_ne (first g List.mem_cons_self) differs
    refine List.pairwise_cons.mpr ⟨fun h member => ?_, ih others⟩
    rcases List.mem_cons.mp (mem_of_mem_dropRepeated member) with rfl | later
    · exact earlier
    · exact earlier.trans_le (second h later)

end SourceFile

/-- The sources of a project come in the order of their paths, each path once. -/
theorem Selection.rising_select {storage : σ} {projectRoot : String} {s : Settings}
    {files : List SourceFile} {notices : List Notice}
    (selected : select storage projectRoot s = .ok (files, notices)) :
    files.Pairwise fun f g => f.relative < g.relative := by
  obtain ⟨globs, -, same⟩ := (map_eq_ok_iff ..).mp selected
  obtain ⟨rfl, -⟩ := Prod.mk.inj same
  refine SourceFile.rising_dropRepeated (List.Pairwise.imp SourceFile.relative_le ?_)
  exact List.pairwise_mergeSort SourceFile.le_trans SourceFile.le_total _

/-! ## Extraction -/

/-- The keys that an extraction has found to be new. -/
def Extraction.newKeys (x : Extraction) : List String := Entry.newKeys x.manifest.entries

/-- The report of an extraction adds up. What came of each file, and the dictionary that was loaded,
are given. -/
structure Extraction.AddsUp (x : Extraction) (r : ExtractionReport) (files : List SourceFile)
    (search : SourceFile → FileSearch) (before : Dictionary) : Prop where
  found : r.candidatesFound =
    r.rejectedTotal + r.newlyExtracted + r.reused + r.keyFailures.length
  keyed : x.manifest.entries.length = r.newlyExtracted + r.reused
  placed : (r.byNamespace.map (·.2)).sum = x.manifest.entries.length
  listed : r.rejectedTotal + (r.byFile.map (·.2.candidates)).sum = r.candidatesFound
  /-- Every file that was searched has one row. -/
  rows : r.byFile.map (·.1) =
    (files.filter fun f => (search f).isFound).map SourceFile.relative
  once : (r.byFile.map (·.1)).Nodup
  scanned : r.filesScanned = r.byFile.length
  covered : r.filesScanned + r.parseFailures.length + r.notProcessed.length = files.length
  new : r.newlyExtracted = x.newKeys.length
  distinct : x.newKeys.Nodup
  /-- The new keys are those that hold a text now and held none before. -/
  written : ∀ key, key ∈ x.newKeys ↔ before.leaf? before.sourceLocale key = none ∧
    (x.dictionary.leaf? before.sourceLocale key).isSome = true
  /-- Every other key of the source locale holds what it held. -/
  kept : ∀ key ∉ x.newKeys,
    x.dictionary.leaf? before.sourceLocale key = before.leaf? before.sourceLocale key

/-- An extraction that reports what a tally of its files says, and has its entries and its texts. -/
structure Extraction.Concludes (x : Extraction) (source : String) (t : Tally) : Prop where
  manifest : x.manifest = .ofEntries t.entries
  report : ∃ counts written failures, x.report.extraction = some { t.report with
    propagation := counts, localesWritten := written, localeFailures := failures }
  texts : ∀ key, x.dictionary.leaf? source key = t.dictionary.leaf? source key

/-- What a tally says of files in the order of their paths, an extraction reports. -/
theorem Extraction.Concludes.addsUp {x : Extraction} {before : Dictionary} {t : Tally}
    {files : List SourceFile} {search : SourceFile → FileSearch}
    (concludes : x.Concludes before.sourceLocale t) (adds : t.AddsUp 0 0)
    (covers : t.Covers search files) (brings : before.Brings t.entries t.dictionary)
    (rising : files.Pairwise fun f g => f.relative < g.relative) :
    ∃ r, x.report.extraction = some r ∧ x.AddsUp r files search before := by
  obtain ⟨manifest, ⟨counts, written, failures, report⟩, texts⟩ := concludes
  have entries : x.manifest.entries.Perm t.entries := manifest ▸ Manifest.perm_ofEntries t.entries
  have news : x.newKeys.Perm (Entry.newKeys t.entries) :=
    (entries.filter _).map _
  -- Rising paths are different paths, so no file has two rows.
  have searched : ((files.filter fun f => (search f).isFound).map SourceFile.relative).Nodup :=
    List.pairwise_map.mpr ((rising.filter _).imp ne_of_lt)
  refine ⟨_, report, ?_⟩
  exact {
    found := by
      rw [ExtractionReport.rejectedTotal_eq]
      exact adds.found
    keyed := entries.length_eq.trans adds.keyed
    placed := adds.placed.trans entries.length_eq.symm
    listed := by
      rw [ExtractionReport.rejectedTotal_eq]
      exact adds.listed.symm
    rows := covers.rows
    once := by
      rw [covers.rows]
      exact searched
    scanned := by
      have rows := congrArg List.length covers.rows
      rw [List.length_map, List.length_map] at rows
      exact covers.scanned.trans rows.symm
    covered := covers.count
    new := (news.length_eq.trans adds.fresh).symm
    distinct := news.nodup_iff.mpr brings.once
    written := fun key => by
      rw [news.mem_iff, texts]
      exact brings.mem_newKeys_iff key
    kept := fun key old => by
      rw [news.mem_iff] at old
      rw [texts]
      exact brings.leaf?_eq old }

namespace Project

variable {p : Project} {occasion : Occasion} {asked : Option String} {s : Session σ}

/-- The end of an extraction changes no counts and no texts of the source locale. -/
theorem ends_concludeExtraction (t : Tally) :
    Run.Ends (p.concludeExtraction occasion asked t) s
      (fun x _ => x.Concludes p.settings.sourceLocale t) fun _ _ => True := by
  let propagated := t.dictionary.propagate p.settings.sourceLocale p.settings.targetLocales
  have spared : propagated.dictionary.root p.settings.sourceLocale =
      t.dictionary.root p.settings.sourceLocale :=
    (t.dictionary.keeps_propagate _ _ _ (Or.inl rfl)).root_eq
  have texts (key : String) : propagated.dictionary.leaf? p.settings.sourceLocale key =
      t.dictionary.leaf? p.settings.sourceLocale key := by
    rw [Dictionary.leaf?, Dictionary.leaf?, Json.object.inj spared]
  simp only [concludeExtraction, Run.ends_bind, Run.ends_notify]
  split
  next => exact (Run.ends_pure _).mpr ⟨rfl, ⟨_, _, _, rfl⟩, texts⟩
  next =>
    simp only [saveExtraction, Run.ends_bind, Run.ends_change, Run.ends_ofExcept, Run.ends_notify]
    refine ⟨fun _ _ => (Run.ends_trivial _ _).mono (fun _ _ _ => (Run.ends_pure _).mpr ?_)
      fun _ _ _ => trivial, fun _ _ => trivial⟩
    refine ⟨rfl, ⟨_, _, _, rfl⟩, fun key => ?_⟩
    rw [Dictionary.dictionary_flush]
    exact texts key

/-- The storage that a run works on: it has the lock unless nothing is to be written. -/
def workplace (p : Project) (storage : σ) : σ :=
  if p.settings.dryRun then storage else (Storage.lock storage p.outputDirectory).2

/-- What a part of a run results in does not depend on whether it needs the lock. -/
theorem ends_lockedUnless {α : Type} {part : Run σ α} {good : α → Prop}
    (ends : Run.Ends part { s with storage := p.workplace s.storage } (fun a _ => good a)
      fun _ _ => True) :
    Run.Ends (Run.lockedUnless p.settings.dryRun p.outputDirectory part) s (fun a _ => good a)
      fun _ _ => True := by
  unfold Run.lockedUnless
  unfold workplace at ends
  split
  next dry => rwa [if_pos dry] at ends
  next wet =>
    rw [if_neg wet] at ends
    rw [Run.ends_locked]
    refine ⟨fun _ _ _ => trivial, fun storage taken => ?_⟩
    rw [taken] at ends
    exact ends

/-- An extraction of files in the order of their paths adds up. -/
theorem ends_extractFilesUntil {files : List SourceFile}
    (rising : files.Pairwise fun f g => f.relative < g.relative) (rules : ExtractionRules)
    (cancelled : SourceFile → Bool) :
    Run.Ends (p.extractFilesUntil occasion rules cancelled asked files) s
      (fun x _ => ∃ before r, p.dictionary.loadAll s.storage p.settings.locales = (none, before) ∧
        x.report.extraction = some r ∧ x.AddsUp r files
          (fun file => searchFile rules (cancelled file) s.storage file) before)
      fun _ _ => True := by
  simp only [extractFilesUntil, Run.ends_bind, Run.ends_storage, Run.ends_ofExcept, Run.ends_notify,
    implies_true, and_true]
  intro d loaded
  have loaded := loadDictionary_eq_ok loaded
  have source : p.settings.sourceLocale = d.sourceLocale :=
    (isLoaded_of_loadAll loaded).sourceLocale_eq.symm
  let search (file : SourceFile) : FileSearch := searchFile rules (cancelled file) s.storage file
  obtain ⟨adds, covers⟩ := Tally.ofSearch_counts rules search d rising
  have brings := Tally.brings_ofSearch rules search files d
  refine (ends_concludeExtraction _).mono (fun x _ concludes => ?_) fun _ _ _ => trivial
  rw [source] at concludes
  obtain ⟨r, report, counts⟩ := concludes.addsUp adds covers brings rising
  exact ⟨d, r, loaded, report, counts⟩

theorem ends_extractUntil (cancelled : SourceFile → Bool) :
    Run.Ends (p.extractUntil occasion cancelled asked) s
      (fun x _ => ∃ files notices rules before r,
        Selection.select s.storage p.root p.settings = .ok (files, notices) ∧
        ExtractionRules.ofSettings p.settings = .ok rules ∧
        p.dictionary.loadAll (p.workplace s.storage) p.settings.locales = (none, before) ∧
        x.report.extraction = some r ∧
        x.AddsUp r files
          (fun file => searchFile rules (cancelled file) (p.workplace s.storage) file) before)
      fun _ _ => True := by
  simp only [extractUntil, Run.ends_bind, Run.ends_storage, Run.ends_ofExcept, Run.ends_notify,
    implies_true, and_true]
  rintro ⟨files, notices⟩ selected rules ruled
  refine ends_lockedUnless ((ends_extractFilesUntil (Selection.rising_select selected) rules
    cancelled).mono (fun x _ accounted => ?_) fun _ _ _ => trivial)
  obtain ⟨before, r, loaded, report, counts⟩ := accounted
  exact ⟨files, notices, rules, before, r, selected, ruled, loaded, report, counts⟩

end Project

/-! ## Replacement -/

/-- The report of a replacement adds up: every file of the manifest is counted once, and so is every
token that was replaced. -/
structure Replacement.AddsUp (x : Replacement) (r : ReplacementReport) (found : Manifest) :
    Prop where
  covered : r.filesRewritten.length + r.filesUnchanged + r.filesFailed.length +
    r.notProcessed.length = (found.entries.map fun e => e.candidate.file).toFinset.card
  rewritten : r.filesRewritten = x.rewrites.map Rewrite.file
  applied : r.replacementsApplied = (x.rewrites.map Rewrite.applied).sum

/-- As many files as the entries name. -/
theorem Manifest.length_files (m : Manifest) :
    m.files.length = (m.entries.map fun e => e.candidate.file).toFinset.card := by
  rw [← List.toFinset_card_of_nodup m.nodup_files]
  congr 1
  ext file
  rw [List.mem_toFinset, List.mem_toFinset, m.mem_files, List.mem_map]

namespace Project

variable {p : Project} {occasion : Occasion} {launch : Launcher} {asked : Option String}
  {s : Session σ}

theorem ends_replaceFilesUntil (cancelled : String → Bool) (found : Manifest) :
    Run.Ends (p.replaceFilesUntil occasion launch cancelled found) s
      (fun x _ => ∃ r, x.report.replacement = some r ∧ x.AddsUp r found) fun _ _ => True := by
  simp only [replaceFilesUntil, Run.ends_bind, Run.ends_storage, Run.ends_ofExcept, implies_true,
    and_true]
  intro d _
  refine (Run.ends_mapM_length _ _ s).mono (fun outcomes _ same => ?_) fun _ _ _ => trivial
  refine (ends_concludeReplacement ..).mono (fun x _ concluded => ?_) fun _ _ _ => trivial
  obtain ⟨rewrites, report, -⟩ := concluded
  have files : outcomes.length = found.files.length := by
    rw [same, Manifest.byFile, List.length_map]
  obtain ⟨covered, rewritten, applied, -⟩ := ReplacementReport.covers_ofOutcomes outcomes
  rw [← rewrites] at rewritten applied
  exact ⟨_, report, covered.trans (files.trans found.length_files), rewritten, applied⟩

theorem ends_replaceUntil (cancelled : String → Bool) :
    Run.Ends (p.replaceUntil occasion launch cancelled asked) s
      (fun x _ => ∃ found r, p.readManifest asked s.storage = .ok found ∧
        x.report.replacement = some r ∧ x.AddsUp r found) fun _ _ => True := by
  simp only [replaceUntil, Run.ends_bind, Run.ends_storage, Run.ends_ofExcept, implies_true,
    and_true]
  intro found read
  refine ends_lockedUnless ((ends_replaceFilesUntil cancelled found).mono
    (fun x _ accounted => ?_) fun _ _ _ => trivial)
  obtain ⟨r, report, counts⟩ := accounted
  exact ⟨found, r, read, report, counts⟩

/-- Reports add up, wherever a run is cancelled: every candidate and every file is counted once, and
every new key is one that the source locale has got. -/
theorem reports_add_up (p : Project) (occasion : Occasion) (launch : Launcher)
    (asked : Option String) (s : Session σ) :
    (∀ cancelled : Bool,
      (p.extract occasion cancelled asked : Run σ Extraction) =
        p.extractUntil occasion (fun _ => cancelled) asked ∧
      (p.replace occasion launch cancelled asked : Run σ Replacement) =
        p.replaceUntil occasion launch (fun _ => cancelled) asked) ∧
    (∀ cancelled : SourceFile → Bool,
      Run.Ends (p.extractUntil occasion cancelled asked) s
        (fun x _ => ∃ files notices rules before r,
          Selection.select s.storage p.root p.settings = .ok (files, notices) ∧
          ExtractionRules.ofSettings p.settings = .ok rules ∧
          p.dictionary.loadAll (p.workplace s.storage) p.settings.locales = (none, before) ∧
          x.report.extraction = some r ∧
          x.AddsUp r files
            (fun file => searchFile rules (cancelled file) (p.workplace s.storage) file) before)
        fun _ _ => True) ∧
    ∀ cancelled : String → Bool,
      Run.Ends (p.replaceUntil occasion launch cancelled asked) s
        (fun x _ => ∃ found r, p.readManifest asked s.storage = .ok found ∧
          x.report.replacement = some r ∧ x.AddsUp r found)
        fun _ _ => True :=
  ⟨fun cancelled => ⟨p.extract_eq occasion cancelled asked,
    p.replace_eq occasion launch cancelled asked⟩, ends_extractUntil, ends_replaceUntil⟩

open Halfway

/-- An extraction that cannot write the document of its target is done, and adds up: the text of the
module has one new key. -/
theorem reports_add_up_halfway :
    Run.Ends (project.extract Halfway.occasion false none)
      (.start (shelf ["src/messages/de.json"] [] []))
      (fun x _ => x.newKeys = ["common.a.a_b"] ∧ ∃ r, x.report.extraction = some r ∧
        r.newlyExtracted = 1 ∧ r.reused = 0 ∧
        r.candidatesFound = r.rejectedTotal + 1 + r.keyFailures.length)
      fun _ _ => False := by
  have launch : Launcher := fun _ _ _ => none
  obtain ⟨same, adds, -⟩ := reports_add_up project Halfway.occasion launch none
    (.start (shelf ["src/messages/de.json"] [] []))
  have adds := adds fun _ => false
  rw [← (same false).1] at adds
  obtain ⟨b, -, tallied⟩ :=
    exists_begun (Or.inl (filesBelow_eq ["src/messages/de.json"] [])) (loadAll_void _ _)
  have listed (other : project.Begun (shelf ["src/messages/de.json"] [] [])) :
      (other.manifest false).entries = [entry .new] := by
    rw [other.eq b, Begun.manifest, tallied, entries_eq.1, Manifest.ofEntries,
      List.mergeSort_singleton]
  obtain ⟨c, x, manifest, record, page, outcome⟩ := exists_outcome
  have ends := c.ends rfl Halfway.occasion false none (.start _) rfl
  have extracted := project.extracted rfl Halfway.occasion false none
    (.start (shelf ["src/messages/de.json"] [] []))
  refine ⟨fun y after returned => ?_, fun e after stopped => ?_⟩
  · have ended := extracted.of_ok y after returned
    obtain ⟨files, notices, rules, before, r, -, -, -, report, counts⟩ :=
      adds.of_ok y after returned
    have entries : y.manifest.entries = [entry .new] := by
      generalize after.storage = storage at ended
      cases ended with
      | done other =>
        exact listed other
    have news : y.newKeys = ["common.a.a_b"] := by
      rw [Extraction.newKeys, entries]
      rfl
    have one := counts.new
    have whole := counts.keyed
    have found := counts.found
    rw [news, List.length_singleton] at one
    rw [entries, List.length_singleton] at whole
    exact ⟨news, r, report, one, by omega, by omega⟩
  · have stopped := ends.of_error e after stopped
    cases outcome.symm.trans stopped

end Project
end Phrasebook
