import Phrasebook.Proofs.Run.Rehearsing

/-!
# Dry runs and the runs that write

A replacement without writing plans what the replacement carries out, if every file can be told from
its path and has a place of its own. Extraction and replacement together: a dry run changes nothing
and finds what the run finds.
-/

namespace Phrasebook

open Json (deepest mapNumbers mapNumbersMembers)
open LawfulStorage (place)

variable {σ : Type} [Storage σ]

/-! ## Outcomes -/

namespace FileOutcome

/-- What becomes of a plan: it is carried out, or the file cannot be saved. A file that cannot be
read has no plan. -/
inductive Follows : FileOutcome → FileOutcome → Prop where
  | same (plan : FileOutcome) : Follows plan plan
  | unsaved (r : Rewrite) (f : Failure) (subject : f.subject = r.file) :
    Follows (.rewritten r) (.failed f)
  | unread (f g : Failure) : Follows (.failed f) (.failed g)

/-- What was carried out was planned. -/
theorem rewrites_sublist {plans outcomes : List FileOutcome}
    (follows : List.Forall₂ Follows plans outcomes) :
    (outcomes.filterMap rewrite?).Sublist (plans.filterMap rewrite?) := by
  induction follows with
  | nil => exact .refl _
  | cons first rest ih =>
    cases first with
    | same plan =>
      rw [List.filterMap_cons, List.filterMap_cons]
      split
      · exact ih
      · exact ih.cons_cons _
    | unsaved r f subject => exact ih.cons r
    | unread f g => exact ih

/-- What was planned and not carried out has failed. -/
theorem mem_or_failed {plans outcomes : List FileOutcome}
    (follows : List.Forall₂ Follows plans outcomes) {r : Rewrite}
    (planned : r ∈ plans.filterMap rewrite?) : r ∈ outcomes.filterMap rewrite? ∨
      ∃ f ∈ outcomes.filterMap failure?, f.subject = r.file := by
  induction follows with
  | nil => cases planned
  | cons first rest ih =>
    obtain ⟨plan, member, here⟩ := List.mem_filterMap.mp planned
    rcases List.mem_cons.mp member with rfl | later
    · cases first with
      | same => exact Or.inl (List.mem_filterMap.mpr ⟨_, List.mem_cons_self, here⟩)
      | unsaved r' f subject =>
        cases here
        exact Or.inr ⟨f, List.mem_filterMap.mpr ⟨_, List.mem_cons_self, rfl⟩, subject⟩
      | unread => cases here
    · have below := ih (List.mem_filterMap.mpr ⟨plan, later, here⟩)
      refine below.imp (fun inside => ?_) fun ⟨f, inside, subject⟩ => ⟨f, ?_, subject⟩
      · obtain ⟨outcome, there, same⟩ := List.mem_filterMap.mp inside
        exact List.mem_filterMap.mpr ⟨outcome, List.mem_cons_of_mem _ there, same⟩
      · obtain ⟨outcome, there, same⟩ := List.mem_filterMap.mp inside
        exact List.mem_filterMap.mpr ⟨outcome, List.mem_cons_of_mem _ there, same⟩

end FileOutcome

namespace Project

variable [SteadyStorage σ] {p : Project}

/-! ## Replacement -/

/-- Copies that are put aside lie in the output directory. -/
theorem exists_place_backup (p : Project) {occasion : Occasion}
    (plain : '/' ∉ occasion.stamp.toList) (storage : σ) (path : String) :
    place storage p.outputDirectory <+: place storage ((p.backups occasion).place path) := by
  have proper := (p.backups occasion).isName_extend plain path
  have some : Path.extend ((p.backups occasion).kept path) (p.backups occasion).ending ≠ [] :=
    List.append_ne_nil_of_right_ne_nil _ (List.cons_ne_nil _ _)
  have name : Path.ofComponents ["backups".toList] = "backups" := by
    rw [Path.ofComponents, List.intercalate_singleton, String.ofList_toList]
  have directory := SteadyStorage.place_join storage p.outputDirectory ["backups".toList]
    (List.cons_ne_nil _ _) (by decide)
  rw [name] at directory
  rw [Backups.place_eq, SteadyStorage.place_join _ _ _ some proper]
  show _ <+: place storage (Path.join p.outputDirectory "backups") ++ _
  rw [directory, List.append_assoc]
  exact List.prefix_append _ _

variable {scene : ReplacementScene} {storage : σ}

omit [SteadyStorage σ] in
/-- A plan that is made later is the one that was made before, with nothing done to the file. -/
theorem plan_back {before now : σ} {file : String}
    (reaches : Path.Reaches before (Path.join p.root file))
    (untouched : Untouched (Path.join p.root file) before now) (entries : List Entry) :
    (p.plan scene before file entries).Follows (p.plan scene now file entries) := by
  unfold plan
  by_cases cancelled : scene.cancelled = true
  · simp only [cancelled, if_true]
    exact .same _
  · simp only [cancelled, if_false, Bool.false_eq_true]
    cases read : Storage.read now (Path.join p.root file) with
    | ok text =>
      rw [reaches.read_eq untouched read]
      exact .same _
    | error e =>
      cases read' : Storage.read before (Path.join p.root file) with
      | ok text =>
        rw [untouched.undisturbed.kept text read'] at read
        cases read
      | error e' => exact .unread _ _

omit [SteadyStorage σ] in
/-- A rewrite is saved, or its file has failed. -/
theorem saveRewrite_cases (scene : ReplacementScene) (path : String) (r : Rewrite) (storage : σ) :
    (FileOutcome.rewritten r).Follows (saveRewrite scene path r storage).1 := by
  unfold saveRewrite
  split
  next => exact .unsaved r _ rfl
  next =>
    split
    next => exact .unsaved r _ rfl
    next => exact .same _

/-- What is done to one file touches no other one. -/
theorem untouched_saveRewrite {scene : ReplacementScene} {path other : String} {storage : σ}
    (apart : place storage other ≠ place storage path)
    (aside : place storage other ≠ place storage (scene.backups.place path)) (r : Rewrite) :
    Untouched other storage (saveRewrite scene path r storage).2 := by
  have saved : Untouched other storage (scene.backups.save storage path).2 := .save aside
  unfold saveRewrite
  split
  next e between failed =>
    rw [failed] at saved
    exact saved
  next copied between put =>
    rw [put] at saved
    have places := (changes_save storage scene.backups path).place_eq
    rw [put] at places
    have apart : place between other ≠ place between path := by
      rw [places, places]
      exact apart
    have both := saved.trans (Untouched.write apart r.content)
    split
    next e after failed =>
      rw [failed] at both
      exact both
    next after done =>
      rw [done] at both
      exact both

/-- Files that a replacement can tell apart: each one can be told from its path, lies outside the
output directory and is in a place of its own. -/
structure AreApart (p : Project) (storage : σ) (files : List String) : Prop where
  reaches : ∀ file ∈ files, Path.Reaches storage (Path.join p.root file)
  outside : ∀ file ∈ files,
    ¬ place storage p.outputDirectory <+: place storage (Path.join p.root file)
  distinct : files.Pairwise fun a b =>
    place storage (Path.join p.root a) ≠ place storage (Path.join p.root b)

/-- A file is carried out as planned, and touches nothing that is outside the output directory and
in another place. -/
theorem carryOut_follows {before now : σ} {occasion : Occasion}
    (same : scene.backups = p.backups occasion) (plain : '/' ∉ occasion.stamp.toList)
    (places : ∀ path, place now path = place before path) {file : String}
    (reaches : Path.Reaches before (Path.join p.root file))
    (untouched : Untouched (Path.join p.root file) before now) (entries : List Entry) :
    (p.plan scene before file entries).Follows (p.carryOut scene now file entries).1 ∧
    (∀ path, place (p.carryOut scene now file entries).2 path = place before path) ∧
    ∀ other, ¬ place before p.outputDirectory <+: place before other →
      place before other ≠ place before (Path.join p.root file) →
        Untouched other now (p.carryOut scene now file entries).2 := by
  have planned : (p.plan scene before file entries).Follows (p.plan scene now file entries) :=
    plan_back reaches untouched entries
  unfold carryOut
  cases made : p.plan scene now file entries with
  | rewritten r =>
    rw [made] at planned
    dsimp only
    split
    next => exact ⟨planned, places, fun other _ _ => .refl other now⟩
    next =>
      refine ⟨?_, ?_, fun other outside differs => untouched_saveRewrite ?_ ?_ r⟩
      · generalize p.plan scene before file entries = plan at planned
        cases planned
        exact saveRewrite_cases ..
      · intro path
        rw [(changes_saveRewrite scene (Path.join p.root file) r now).place_eq, places]
      · rwa [places, places]
      · rw [places, places, same]
        intro here
        rw [here] at outside
        exact outside (p.exists_place_backup plain before _)
  | unchanged | failed | notProcessed =>
    rw [made] at planned
    exact ⟨planned, places, fun other _ _ => .refl other now⟩

/-- Files that are apart are carried out as planned, each in turn. -/
theorem carryOutAll_follows {before now : σ} {occasion : Occasion}
    (same : scene.backups = p.backups occasion) (plain : '/' ∉ occasion.stamp.toList)
    (places : ∀ path, place now path = place before path) {items : List (String × List Entry)}
    (apart : p.AreApart before (items.map Prod.fst))
    (untouched : ∀ file ∈ items.map Prod.fst, Untouched (Path.join p.root file) before now) :
    List.Forall₂ FileOutcome.Follows
      (items.map fun (file, entries) => p.plan scene before file entries)
      (p.carryOutAll scene now items).1 := by
  induction items generalizing now with
  | nil => exact .nil
  | cons item rest ih =>
    obtain ⟨file, entries⟩ := item
    obtain ⟨reaches, outside, distinct⟩ := apart
    obtain ⟨reaches, reachesRest⟩ := List.forall_mem_cons.mp reaches
    obtain ⟨-, outsideRest⟩ := List.forall_mem_cons.mp outside
    obtain ⟨differs, distinctRest⟩ := List.pairwise_cons.mp distinct
    obtain ⟨here, untouchedRest⟩ := List.forall_mem_cons.mp untouched
    obtain ⟨follows, places, spared⟩ := carryOut_follows same plain places reaches here entries
    refine .cons follows (ih places ⟨reachesRest, outsideRest, distinctRest⟩ ?_)
    intro other member
    exact (untouchedRest other member).trans
      (spared _ (outsideRest other member) (Ne.symm (differs other member)))

section

variable {occasion : Occasion} {launch : Launcher} {cancelled : Bool} {asked : Option String}
variable {manifest : Manifest} {s : Session σ}

omit [SteadyStorage σ] in
/-- A replacement tells what it has carried out. -/
theorem ends_replaceFiles_outcomes :
    Run.Ends (p.replaceFiles occasion launch cancelled manifest) s
      (fun x _ => ∃ d, p.loadDictionary s.storage [p.settings.sourceLocale]
          "Cannot load the source locale: " = .ok d ∧
        let outcomes := (p.carryOutAll (p.scene occasion launch cancelled d) s.storage
          manifest.byFile).1
        x.rewrites = outcomes.filterMap FileOutcome.rewrite? ∧
        x.report.replacement = some (.ofOutcomes outcomes)) (fun _ _ => True) := by
  rw [replaceFiles_eq, Run.ends_bind, Run.ends_storage, Run.ends_bind, Run.ends_ofExcept]
  refine ⟨fun d loaded => ?_, fun _ _ => trivial⟩
  obtain ⟨notices, outcomes⟩ :=
    @run_outcomes _ _ p (p.scene occasion launch cancelled d) manifest.byFile s
  rw [Run.ends_bind]
  refine (Run.ends_iff_of_ok outcomes).mpr ?_
  exact (ends_concludeReplacement ..).mono
    (fun x _ concluded => ⟨d, loaded, concluded.1, concluded.2.1⟩) fun _ _ _ => trivial

omit [SteadyStorage σ] in
/-- A dry run plans for every file and writes nothing. -/
theorem rehearse_replaceFiles {d : Dictionary}
    (loaded : p.loadDictionary s.storage [p.settings.sourceLocale]
      "Cannot load the source locale: " = .ok d) :
    Run.Ends (p.rehearsed.replaceFiles occasion launch cancelled manifest) s
      (fun y after => after.storage = s.storage ∧
        y.rewrites = (manifest.byFile.map fun (file, entries) =>
          p.plan (p.scene occasion launch cancelled d) s.storage file entries).filterMap
            FileOutcome.rewrite?) (fun _ _ => False) := by
  have loaded : p.rehearsed.loadDictionary s.storage [p.rehearsed.settings.sourceLocale]
      "Cannot load the source locale: " = .ok d := loaded
  have dry : p.rehearsed.settings.dryRun = true := rfl
  obtain ⟨notices, outcomes⟩ := @run_outcomes _ _ p.rehearsed
    (p.rehearsed.scene occasion launch cancelled d) manifest.byFile s
  rw [carryOutAll_dry dry] at outcomes
  rw [replaceFiles_eq, Run.ends_bind, Run.ends_storage, Run.ends_bind, Run.ends_ofExcept]
  refine ⟨fun d' again => ?_, fun e refused => ?_⟩
  · cases loaded.symm.trans again
    rw [Run.ends_bind]
    refine (Run.ends_iff_of_ok outcomes).mpr ?_
    refine (ends_concludeReplacement ..).mono
      (fun y _ concluded => ⟨concluded.2.2 dry, concluded.1⟩) fun _ _ wet => ?_
    rw [dry] at wet
    cases wet
  · cases loaded.symm.trans refused

variable (launch cancelled) in
/-- Under the lock the files of a manifest are carried out as planned without it. -/
theorem locked_follows (plain : '/' ∉ occasion.stamp.toList) {before : σ}
    (apart : p.AreApart before manifest.files) (d : Dictionary) :
    List.Forall₂ FileOutcome.Follows
      (manifest.byFile.map fun (file, entries) =>
        p.plan (p.scene occasion launch cancelled d) before file entries)
      (p.carryOutAll (p.scene occasion launch cancelled d)
        (Storage.lock before p.outputDirectory).2 manifest.byFile).1 := by
  have files : manifest.byFile.map Prod.fst = manifest.files := by
    rw [Manifest.byFile, List.map_map]
    exact List.map_id _
  apply carryOutAll_follows rfl plain (FileStorage.place_lock before p.outputDirectory)
  · rw [files]
    exact apart
  · rw [files]
    intro file member
    exact .lock (ne_place_lock (apart.outside file member))

/-- The document of the source locale is found without the lock. -/
theorem loadDictionary_back {before : σ} {d : Dictionary} {complaint : String}
    (reaches : Path.Reaches before (p.dictionary.documentPath p.settings.sourceLocale))
    (loaded : p.loadDictionary (Storage.lock before p.outputDirectory).2
      [p.settings.sourceLocale] complaint = .ok d) :
    p.loadDictionary before [p.settings.sourceLocale] complaint = .ok d := by
  have elsewhere := p.documentPath_ne_lock before
  have loaded := Dictionary.loadAll_back (List.forall_mem_singleton.mpr reaches)
    (fun locale _ => .lock (elsewhere locale)) (loadDictionary_eq_ok loaded)
  rw [loadDictionary, loaded]

/-- A replacement carries out what a dry run plans. -/
theorem replace_rehearsed (wet : p.settings.dryRun = false) (plain : '/' ∉ occasion.stamp.toList)
    (reaches : Path.Reaches s.storage (p.dictionary.documentPath p.settings.sourceLocale))
    (apart : ∀ manifest, p.readManifest asked s.storage = .ok manifest →
      p.AreApart s.storage manifest.files) :
    Run.Ends (p.replace occasion launch cancelled asked) s
      (fun x _ => Run.Ends (p.rehearsed.replace occasion launch cancelled asked) s
        (fun y after => after.storage = s.storage ∧ x.rewrites.Sublist y.rewrites ∧
          ∀ r ∈ y.rewrites, r ∈ x.rewrites ∨
            ∃ done, x.report.replacement = some done ∧
              ∃ f ∈ done.filesFailed, f.subject = r.file) (fun _ _ => False))
      (fun _ _ => True) := by
  rw [ends_replace_iff]
  cases found : p.readManifest asked s.storage with
  | error e => trivial
  | ok manifest =>
    have apart := apart manifest found
    have again : p.rehearsed.readManifest asked s.storage = .ok manifest := found
    have dry : p.rehearsed.settings.dryRun = true := rfl
    dsimp only
    rw [Run.lockedUnless, wet, if_neg Bool.false_ne_true, Run.ends_locked]
    refine ⟨fun _ _ _ => trivial, fun locked taken => ?_⟩
    have locked_eq : locked = (Storage.lock s.storage p.outputDirectory).2 := by rw [taken]
    subst locked_eq
    refine ends_replaceFiles_outcomes.mono (fun x _ replaced => ?_) fun _ _ _ => trivial
    obtain ⟨d, loaded, rewrites, report⟩ := replaced
    have follows := locked_follows launch cancelled plain apart d
    rw [ends_replace_iff, again]
    dsimp only
    rw [Run.lockedUnless, dry, if_pos rfl]
    -- The lock is only held by the run that writes, and the documents are read the same without it.
    refine (rehearse_replaceFiles (loadDictionary_back reaches loaded)).mono
      (fun y after rehearsed => ?_) fun _ _ never => never
    obtain ⟨unchanged, plans⟩ := rehearsed
    rw [rewrites, plans]
    refine ⟨unchanged, FileOutcome.rewrites_sublist follows, fun r planned => ?_⟩
    refine (FileOutcome.mem_or_failed follows planned).imp_right fun failure => ?_
    obtain ⟨f, failed, subject⟩ := failure
    refine ⟨_, report, f.record, ?_, subject⟩
    rw [(ReplacementReport.covers_ofOutcomes _).failed]
    exact List.mem_map_of_mem failed

end

/-- Dry runs change nothing and find what the runs that write find, with an output directory that
lies in no root of the sources and documents and files that can be told from their paths. -/
theorem dry_runs_agree (p : Project) (wet : p.settings.dryRun = false) (occasion : Occasion)
    (plain : '/' ∉ occasion.stamp.toList) (launch : Launcher) (cancelled : Bool)
    (asked : Option String) (s : Session σ) (sound : SteadyStorage.IsSound s.storage)
    (apart : p.KeepsOutside s.storage) (reaches : ∀ locale ∈ p.settings.locales,
      Path.Reaches s.storage (p.dictionary.documentPath locale)) :
    (Run.Ends (p.rehearsed.extract occasion cancelled asked) s
      (fun _ after => after.storage = s.storage) (fun _ after => after.storage = s.storage) ∧
    Run.Ends (p.extract occasion cancelled asked) s
      (fun x _ => Run.Ends (p.rehearsed.extract occasion cancelled asked) s
        (fun y _ => y.manifest = x.manifest ∧ y.report = x.report.rehearsed ∧
          ∀ locale, y.dictionary.render locale = x.dictionary.render locale) (fun _ _ => False))
      (fun _ _ => True)) ∧
    Run.Ends (p.rehearsed.replace occasion launch cancelled asked) s
      (fun _ after => after.storage = s.storage) (fun _ after => after.storage = s.storage) ∧
    ((∀ manifest, p.readManifest asked s.storage = .ok manifest →
        p.AreApart s.storage manifest.files) →
      Run.Ends (p.replace occasion launch cancelled asked) s
        (fun x _ => Run.Ends (p.rehearsed.replace occasion launch cancelled asked) s
          (fun y _ => x.rewrites.Sublist y.rewrites ∧ ∀ r ∈ y.rewrites, r ∈ x.rewrites ∨
            ∃ done, x.report.replacement = some done ∧
              ∃ f ∈ done.filesFailed, f.subject = r.file) (fun _ _ => False))
        (fun _ _ => True)) := by
  have dry : p.rehearsed.settings.dryRun = true := rfl
  refine ⟨⟨?_, ?_⟩, ?_, fun files => ?_⟩
  · exact (extract_dry dry cancelled asked s).mono (fun _ _ same => same) fun _ _ stopped =>
      stopped.1
  · refine (p.extracted wet occasion cancelled asked s).mono (fun x after ended => ?_)
      fun _ _ _ => trivial
    generalize after.storage = storage at ended
    cases ended with
    | done b =>
      refine (b.rehearse cancelled sound apart reaches occasion asked s rfl).mono ?_
        fun _ _ never => never
      rintro y after ⟨-, rfl⟩
      exact ⟨rfl, rfl, fun locale => (Dictionary.render_flush ..).symm⟩
  · refine (ends_replace launch cancelled asked s).mono (fun _ _ same => same dry)
      fun _ _ stopped => (stopped.dry dry).1
  · refine (replace_rehearsed wet plain (reaches _ source_mem_locales) files).mono
      (fun x _ rehearsed => rehearsed.mono (fun _ _ found => found.2) fun _ _ never => never)
      fun _ _ _ => trivial

/-! The module of one text, with a manifest. -/

namespace Halfway

/-- A manifest of the text. -/
def note : String := "[\x7b\"text\":\"A b\",\"raw\":\"'A b'\",\"file\":\"src/a.ts\",\"line\":1," ++
  "\"column\":3,\"syntacticContext\":\"StringLiteral\",\"surroundingContext\":\"f('A b')\"," ++
  "\"suggestedKey\":\"common.a.a_b\",\"namespace\":\"common\",\"status\":\"new\"\x7d]"

/-- No program can be started. -/
def launch : Launcher := fun _ _ _ => none

/-- The module with the manifest. -/
def noted : Shelf := shelf [] [] [(".i18n-lift/manifest.json", note)]

/-- Where the manifest stands, and what stands outside the output directory. -/
theorem places_noted : project.manifestPath none = ".i18n-lift/manifest.json" ∧
    (∀ root ∈ ["src"], ¬ Path.components (Path.join project.root root).toList <+:
      Path.components project.outputDirectory.toList) ∧
    ∀ file ∈ ["src/a.ts"], Path.IsDirect (Path.join project.root file) ∧
      ¬ Path.components project.outputDirectory.toList <+:
      Path.components (Path.join project.root file).toList := by
  decide +kernel

theorem ofText?_note : Manifest.ofText? note = some ⟨[entry .new]⟩ := by
  have entries : (Json.readWritten note.toList).toOption.bind (Json.listOf? Entry.ofJson?) =
      some [entry .new] := by
    have joined (a b c : String) : (a ++ b ++ c).toList = a.toList ++ b.toList ++ c.toList := by
      rw [String.toList_append, String.toList_append]
    -- The characters of a literal are known, so the text does not have to be decoded.
    rw [show note.toList = _ from joined _ _ _, String.toList_ofList, String.toList_ofList,
      String.toList_ofList]
    decide +kernel
  rw [Manifest.ofText?]
  cases result : Json.readWritten note.toList with
  | error e =>
    rw [result] at entries
    cases entries
  | ok j =>
    rw [result] at entries
    have entries : Json.listOf? Entry.ofJson? j = some [entry .new] := entries
    dsimp only
    rw [entries, Option.map_some, Manifest.ofEntries, List.mergeSort_singleton]

theorem files_noted {found : Manifest} (read : project.readManifest none noted = .ok found) :
    found.files = ["src/a.ts"] := by
  obtain ⟨path, -⟩ := places_noted
  have whole : Storage.read noted ".i18n-lift/manifest.json" = .ok note := rfl
  have held : Storage.holds noted ".i18n-lift/manifest.json" = true :=
    LawfulStorage.holds_of_read _ _ _ whole
  rw [← path] at held whole
  have same := (readManifest_eq_ok held whole ofText?_note).symm.trans read
  rw [← Except.ok.inj same, Manifest.files, List.map_singleton]
  have single : [(entry .new).candidate.file].eraseDups = ["src/a.ts"] := by decide
  rw [single, List.mergeSort_singleton]

theorem keepsOutside_noted : project.KeepsOutside noted := by
  obtain ⟨-, outside, -⟩ := places_noted
  exact outside

theorem areApart_noted : project.AreApart noted ["src/a.ts"] := by
  obtain ⟨-, -, outside⟩ := places_noted
  exact ⟨fun file listed => Or.inr (outside file listed).1, fun file listed => (outside file listed).2,
    List.pairwise_singleton ..⟩

end Halfway

open Halfway

theorem dry_runs_agree_noted :
    project.settings.dryRun = false ∧ '/' ∉ Halfway.occasion.stamp.toList ∧
    project.KeepsOutside noted ∧
    (∀ locale ∈ ["en", "de"], Path.Reaches noted (project.dictionary.documentPath locale)) ∧
    project.AreApart noted ["src/a.ts"] ∧
    Run.Ends (project.extract Halfway.occasion false none) (.start noted)
      (fun x _ => Run.Ends (project.rehearsed.extract Halfway.occasion false none) (.start noted)
        (fun y _ => y.manifest = x.manifest) (fun _ _ => False)) (fun _ _ => True) ∧
    Run.Ends (project.replace Halfway.occasion launch false none) (.start noted)
      (fun x _ => Run.Ends (project.rehearsed.replace Halfway.occasion launch false none)
        (.start noted) (fun y _ => x.rewrites.Sublist y.rewrites) (fun _ _ => False))
      (fun _ _ => True) := by
  have reaches : ∀ locale ∈ ["en", "de"],
      Path.Reaches noted (project.dictionary.documentPath locale) := by
    have direct : ∀ locale ∈ ["en", "de"], Path.IsDirect (project.dictionary.documentPath locale) := by
      decide +kernel
    exact fun locale listed => Or.inr (direct locale listed)
  obtain ⟨⟨-, extracts⟩, -, replaces⟩ := dry_runs_agree project rfl Halfway.occasion (by decide)
    launch false none (.start noted) trivial keepsOutside_noted reaches
  have files : ∀ manifest, project.readManifest none noted = .ok manifest →
      project.AreApart noted manifest.files := by
    intro manifest read
    rw [files_noted read]
    exact areApart_noted
  refine ⟨rfl, by decide, keepsOutside_noted, reaches, areApart_noted, ?_, ?_⟩
  · exact extracts.mono (fun x _ ends => ends.mono (fun _ _ same => same.1) fun _ _ no => no)
      fun _ _ _ => trivial
  · exact (replaces files).mono (fun x _ ends => ends.mono (fun _ _ part => part.1) fun _ _ no => no)
      fun _ _ _ => trivial

/-! A project whose messages are found through the output directory. -/

namespace Detour

def project : Project :=
  ⟨"", { Settings.standard with exclude := [], messagesDir := ".i18n-lift/../src/messages" }⟩

def messages : Messages := [("title", .string "Title")]

def document : String := Style.standard.render messages

/-- The document of the source locale, and nothing else. -/
def disk : Disk where
  entries := [(["src".toList, "messages".toList, "en.json".toList], .file (.text document))]
  workingDirectory := []
  locked := []

/-- The disk while the lock is taken. -/
def locked : Disk :=
  let lock := [".i18n-lift".toList, Disk.lockName.toList]
  { disk with
    entries := disk.entries ++ [([".i18n-lift".toList], .directory), (lock, .file (.text ""))]
    locked := [lock] }

def void : Dictionary := project.dictionary.withMessages "en" []

def known : Dictionary :=
  { project.dictionary.withMessages "en" messages with
    styles := [("en", Style.detect document.toList)] }

theorem ofDocument_eq (path : String) : Messages.ofDocument path document = .ok messages := by
  have put : Messages.putAt "Title" ["title"] [] = messages := rfl
  have fits : Json.Fits Json.IsRegular deepest (.object messages) :=
    put ▸ Messages.fits_putAt "Title" _ (by decide) (by decide) Messages.fits_nil
  rw [document, Messages.ofDocument_render Style.isProper_standard Json.read_text fits path]
  simp [messages, mapNumbersMembers, mapNumbers]

/-- The lock makes the output directory. Without it there is no way to the document. -/
structure Places : Prop where
  taken : Storage.lock disk project.outputDirectory = (.ok (), locked)
  scanned : Selection.ofRoot disk "" project.settings [] "src" = ([], [])
  absent : Storage.holds disk (project.dictionary.documentPath "en") = false
  there : Storage.holds locked (project.dictionary.documentPath "en") = true
  read : Storage.read locked (project.dictionary.documentPath "en") = .ok document
  manifest : project.manifestPath none = ".i18n-lift/manifest.json"
  record : RunReport.recordPath project.outputDirectory = ".i18n-lift/report.json"
  page : RunReport.pagePath project.outputDirectory = ".i18n-lift/report.md"

theorem places : Places := by
  constructor <;> decide +kernel

theorem loadAll_disk : project.dictionary.loadAll disk ["en"] = (none, void) := by
  rw [Dictionary.loadAll, Dictionary.load_of_absent _ (Places.absent places)]
  rfl

theorem loadAll_locked : project.dictionary.loadAll locked ["en"] = (none, known) := by
  rw [Dictionary.loadAll, Dictionary.load_of_read _ (Places.there places) (Places.read places)
    (ofDocument_eq _)]
  rfl

theorem select_eq : Selection.select disk "" project.settings = .ok ([], []) :=
  Selection.select_of_rising rfl rfl (Places.scanned places) .nil

theorem exists_outcome : ∃ b : project.Begun disk, ∃ x after,
    b.outcome Halfway.occasion false none = (.ok x, after) ∧ x.dictionary = known := by
  let b : project.Begun disk :=
    ⟨[], [], _, locked, known, select_eq, rfl, Places.taken places, loadAll_locked⟩
  have clean : (b.propagated false).dictionary.dirty = [] := rfl
  have flushed : b.flushed Halfway.occasion false = ⟨known, locked, [], []⟩ :=
    Dictionary.flush_of_clean clean locked project.settings.locales _
  -- What is written behind the documents goes into the directory of the lock.
  have writes (manifest record page : String) : ∃ saved recorded shown,
      Storage.write locked (project.manifestPath none) manifest = (.ok (), saved) ∧
      Storage.write saved (RunReport.recordPath project.outputDirectory) record =
        (.ok (), recorded) ∧
      Storage.write recorded (RunReport.pagePath project.outputDirectory) page = (.ok (), shown) := by
    rw [Places.manifest places, Places.record places, Places.page places]
    exact ⟨_, _, _, rfl, rfl, rfl⟩
  obtain ⟨saved, recorded, shown, save, record, page⟩ := writes (b.manifest false).text
    (b.report Halfway.occasion false).text (b.report Halfway.occasion false).page
  have save : b.saved Halfway.occasion false none = (.ok (), saved) := by
    rw [Begun.saved, flushed, save]
  have record : b.recorded Halfway.occasion false none = (.ok (), recorded) := by
    rw [Begun.recorded, save, record]
  have page : b.shown Halfway.occasion false none = (.ok (), shown) := by
    rw [Begun.shown, record, page]
  refine ⟨b, _, _, by rw [Begun.outcome, save, record, page], ?_⟩
  rw [flushed]

end Detour

/-- A dry run does not find a document whose path leads through the output directory that the run
itself would make. -/
theorem dry_extract_misses_document :
    Detour.project.settings.dryRun = false ∧ SteadyStorage.IsSound Detour.disk ∧
    Detour.project.KeepsOutside Detour.disk ∧
    Run.Ends (Detour.project.extract Halfway.occasion false none) (.start Detour.disk)
      (fun x _ => x.dictionary.render "en" = "\x7b\n  \"title\": \"Title\"\n\x7d\n")
      (fun _ _ => False) ∧
    Run.Ends (Detour.project.rehearsed.extract Halfway.occasion false none) (.start Detour.disk)
      (fun y _ => y.dictionary.render "en" = "\x7b\x7d\n") (fun _ _ => False) := by
  have sound : SteadyStorage.IsSound Detour.disk := by
    let here : Place := ["src".toList, "messages".toList, "en.json".toList]
    have proper : ∀ name ∈ here, (name ≠ [] ∧ '/' ∉ name ∧ name ≠ ['.']) ∧ name ≠ ['.', '.'] := by
      decide
    have above : ∀ n < here.length, Detour.disk.entryAt? (here.take n) = some .directory := by
      decide
    intro e member
    obtain rfl := List.mem_singleton.mp member
    refine ⟨proper, fun front name back inside => ?_⟩
    have inside : here = front ++ name :: back := inside
    have short : front.length < here.length := by simp [inside]
    have same : here.take front.length = front := by rw [inside, List.take_left]
    exact same ▸ above front.length short
  have outside : Detour.project.KeepsOutside Detour.disk := by
    have apart : ∀ root ∈ ["src"], ¬ place Detour.disk (Path.join Detour.project.root root) <+:
        place Detour.disk Detour.project.outputDirectory := by
      decide +kernel
    exact apart
  obtain ⟨b, x, after, outcome, found⟩ := Detour.exists_outcome
  refine ⟨rfl, sound, outside, (b.ends rfl _ _ _ _ rfl).mono (fun z _ done => ?_)
    fun e _ stopped => ?_, ?_⟩
  · obtain ⟨same, -⟩ := Prod.mk.inj (outcome.symm.trans done)
    rw [← Except.ok.inj same, found]
    decide
  · cases outcome.symm.trans stopped
  · refine (ends_rehearsed Detour.select_eq rfl Detour.loadAll_disk _ _ _).mono
      (fun y _ ended => ?_) fun _ _ no => no
    rw [ended.2]
    decide

end Project
end Phrasebook
