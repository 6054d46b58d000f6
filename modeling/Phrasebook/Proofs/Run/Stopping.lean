import Phrasebook.Proofs.Run.Extracting
import Phrasebook.Proofs.Run.Planning
import Phrasebook.Proofs.Storage.Changing

/-!
# What commands leave behind when they stop

A command that stops before it has results changes no file but that of the lock, byte for byte, and
in a dry run not even that one. A command that has its results and cannot save the manifest or the
report has written documents or sources by then.
-/

namespace Phrasebook.Project

open LawfulStorage (place)

variable {σ : Type} [Storage σ] [FileStorage σ]

/-! ## Places -/

variable (p : Project) (occasion : Occasion)

/-- The file whose lock a run takes. -/
def lockPlace (storage : σ) : Place := place storage (Path.join p.outputDirectory Disk.lockName)

/-- A file with this path, and the copy of it that is put aside. -/
def IsFileOrCopy (storage : σ) (path : String) (target : Place) : Prop :=
  target = place storage path ∨ target = place storage ((p.backups occasion).place path)

/-- What an extraction has written when it stops with an error: the documents, the manifest if the
report could not be saved, and the record if its page could not. -/
def HasExtracted (manifest : Option String) (storage : σ) (e : RunError) (target : Place) : Prop :=
  (∃ locale ∈ p.settings.locales,
    p.IsFileOrCopy occasion storage (p.dictionary.documentPath locale) target) ∨
  (∃ path, e = .reportUnwritten path) ∧ target = place storage (p.manifestPath manifest) ∨
  e = .reportUnwritten (RunReport.pagePath p.outputDirectory) ∧
    target = place storage (RunReport.recordPath p.outputDirectory)

/-- The files of a manifest, and the record. -/
def HasRewritten (found : Manifest) (storage : σ) (target : Place) : Prop :=
  (∃ file ∈ found.files, p.IsFileOrCopy occasion storage (Path.join p.root file) target) ∨
  target = place storage (RunReport.recordPath p.outputDirectory)

/-- What a replacement has written when it stops with an error: the files of its manifest, and the
record. -/
def HasReplaced (manifest : Option String) (storage : σ) (target : Place) : Prop :=
  ∃ text found, Storage.read storage (p.manifestPath manifest) = .ok text ∧
    Manifest.ofText? text = some found ∧ p.HasRewritten occasion found storage target

/-- How a command that stops with an error leaves a storage. -/
structure Stopped (places : Place → Prop) (e : RunError) (before after : σ) : Prop where
  dry : p.settings.dryRun = true → after = before ∧ e.isUnsaved = false
  early : e.isUnsaved = false → ChangesOnly (· = p.lockPlace before) before after
  late : ChangesOnly (fun target => target = p.lockPlace before ∨ places target) before after

variable {p occasion}

theorem Stopped.of_same {places : Place → Prop} {e : RunError} (early : e.isUnsaved = false)
    (storage : σ) : p.Stopped places e storage storage :=
  ⟨fun _ => ⟨rfl, early⟩, fun _ => .refl _ storage, .refl _ storage⟩

theorem Stopped.of_lock {places : Place → Prop} {e : RunError} (wet : p.settings.dryRun = false)
    {before after : σ} (changes : ChangesOnly (· = p.lockPlace before) before after) :
    p.Stopped places e before after where
  dry := fun dry => absurd dry (Bool.eq_false_iff.mp wet)
  early := fun _ => changes
  late := changes.mono fun _ same => Or.inl same

theorem Stopped.of_late {places : Place → Prop} {e : RunError} (wet : p.settings.dryRun = false)
    (unsaved : e.isUnsaved = true) {before after : σ}
    (changes : ChangesOnly (fun target => target = p.lockPlace before ∨ places target) before
      after) :
    p.Stopped places e before after where
  dry := fun dry => absurd dry (Bool.eq_false_iff.mp wet)
  early := fun early => absurd unsaved (Bool.eq_false_iff.mp early)
  late := changes

/-! ## Extraction -/

omit [FileStorage σ] in
/-- A dry run of an extraction changes nothing. -/
theorem extract_dry (dry : p.settings.dryRun = true) (cancelled : Bool)
    (manifest : Option String) (s : Session σ) :
    Run.Ends (p.extract occasion cancelled manifest) s
      (fun _ after => after.storage = s.storage)
      (fun e after => after.storage = s.storage ∧ e.isUnsaved = false) := by
  simp only [extract, Run.lockedUnless, dry, if_true, extractFiles, Run.ends_bind, Run.ends_storage,
    Run.ends_ofExcept, Run.ends_notify, Run.ends_pure, id]
  refine ⟨fun _ _ => ⟨fun rules _ => ⟨fun d _ => trivial, fun e refused => ⟨trivial, ?_⟩⟩,
    fun e _ => ⟨trivial, rfl⟩⟩, fun e _ => ⟨trivial, rfl⟩⟩
  obtain ⟨f, rfl⟩ := loadDictionary_eq_error refused
  rfl

namespace Begun

variable {before : σ} (b : p.Begun before) (cancelled : Bool)

/-- The lock is taken and the documents are written. -/
theorem changes_flushed : ChangesOnly (fun target => target = p.lockPlace before ∨
    ∃ locale ∈ p.settings.locales, p.IsFileOrCopy occasion before (p.dictionary.documentPath locale)
      target) before (b.flushed occasion cancelled).storage := by
  have lock := changes_lock before p.outputDirectory
  rw [b.taken] at lock
  have flush := changes_flush b.locked (b.propagated cancelled).dictionary p.settings.locales
    (p.backups occasion)
  simp only [b.documentPath_propagated, lock.place_eq] at flush
  refine (lock.mono fun _ => Or.inl).trans (flush.mono fun target => Or.inr ∘ ?_)
  exact fun ⟨locale, listed, inside⟩ => ⟨locale, listed, inside.imp_left And.right⟩

/-- A manifest that is written, in one place behind the documents. -/
theorem changes_saved (asked : Option String) :
    ChangesOnly (fun target => target = p.lockPlace before ∨
      (∃ locale ∈ p.settings.locales, p.IsFileOrCopy occasion before
        (p.dictionary.documentPath locale) target) ∨
      target = place before (p.manifestPath asked)) before
      (b.saved occasion cancelled asked).2 := by
  have flushed := @changes_flushed _ _ _ _ occasion _ b cancelled
  have written := changes_write (b.flushed occasion cancelled).storage
    (p.manifestPath asked) (b.manifest cancelled).text
  rw [flushed.place_eq] at written
  exact (flushed.mono fun _ => Or.imp_right Or.inl).trans
    (written.mono fun _ same => Or.inr (Or.inr same))

end Begun

theorem Extracted.stopped (wet : p.settings.dryRun = false) {cancelled : Bool}
    {asked : Option String} {before after : σ} {e : RunError}
    (ended : p.Extracted occasion cancelled asked before (.error e) after) :
    p.Stopped (p.HasExtracted occasion asked before e) e before after := by
  cases ended with
  | refused => exact .of_same rfl before
  | contended e _ refused =>
    have lock := changes_lock before p.outputDirectory
    rw [refused] at lock
    exact .of_lock wet lock
  | unread f complaint locked taken =>
    have lock := changes_lock before p.outputDirectory
    rw [taken] at lock
    exact .of_lock wet (lock.trans (changes_unlock locked _ _))
  | manifestUnwritten b e failed =>
    -- From here on the documents have been written, and each stop leaves one file more.
    refine .of_late wet rfl ?_
    have flushed := @Begun.changes_flushed _ _ _ _ occasion _ b cancelled
    have written := changes_write_of_error _ _ _ failed
    refine (flushed.mono fun _ => Or.imp_right Or.inl).trans (.trans ?_ (changes_unlock _ _ _))
    exact written.mono fun _ never => never.elim
  | recordUnwritten b e _ failed =>
    refine .of_late wet rfl ?_
    have saved := @Begun.changes_saved _ _ _ _ occasion _ b cancelled asked
    have written := changes_write_of_error _ _ _ failed
    refine .trans (saved.mono fun target => ?_) (.trans (written.mono fun _ never => never.elim)
      (changes_unlock _ _ _))
    exact Or.imp_right (Or.imp_right fun same => Or.inl ⟨⟨_, rfl⟩, same⟩)
  | pageUnwritten b e _ _ failed =>
    refine .of_late wet rfl ?_
    have saved := @Begun.changes_saved _ _ _ _ occasion _ b cancelled asked
    have recorded := changes_write (b.saved occasion cancelled asked).2
      (RunReport.recordPath p.outputDirectory) (b.report occasion cancelled).text
    rw [saved.place_eq] at recorded
    have shown := changes_write_of_error _ _ _ failed
    refine .trans (saved.mono fun target => ?_) (.trans (recorded.mono fun target same => ?_)
      (.trans (shown.mono fun _ never => never.elim) (changes_unlock _ _ _)))
    · exact Or.imp_right (Or.imp_right fun same => Or.inl ⟨⟨_, rfl⟩, same⟩)
    · exact Or.inr (Or.inr (Or.inr ⟨rfl, same⟩))

/-! ## Replacement -/

theorem changes_saveRewrite (scene : ReplacementScene) (path : String) (r : Rewrite) (storage : σ) :
    ChangesOnly (fun target => target = place storage path ∨
      target = place storage (scene.backups.place path)) storage
      (saveRewrite scene path r storage).2 := by
  have copied := changes_save storage scene.backups path
  unfold saveRewrite
  split
  next e after failed =>
    rw [failed] at copied
    exact copied.mono fun _ same => Or.inr same
  next some between put =>
    rw [put] at copied
    have written := changes_write between path r.content
    rw [copied.place_eq] at written
    have both := (copied.mono fun _ same => Or.inr same).trans (written.mono fun _ same => Or.inl same)
    split
    next e after returned =>
      rw [returned] at both
      exact both
    next after returned =>
      rw [returned] at both
      exact both

/-- A file is rewritten, or nothing changes. -/
theorem changes_carryOut {scene : ReplacementScene} (same : scene.backups = p.backups occasion)
    (storage : σ) (file : String) (entries : List Entry) :
    ChangesOnly (p.IsFileOrCopy occasion storage (Path.join p.root file)) storage
      (p.carryOut scene storage file entries).2 := by
  unfold carryOut
  split
  next r _ =>
    split
    next => exact .refl _ storage
    next =>
      have saved := changes_saveRewrite scene (Path.join p.root file) r storage
      rw [same] at saved
      exact saved
  next => exact .refl _ storage

theorem changes_carryOutAll {scene : ReplacementScene} (same : scene.backups = p.backups occasion)
    (storage : σ) (items : List (String × List Entry)) :
    ChangesOnly (fun target => ∃ item ∈ items,
      p.IsFileOrCopy occasion storage (Path.join p.root item.1) target) storage
      (p.carryOutAll scene storage items).2 := by
  induction items generalizing storage with
  | nil => exact .refl _ storage
  | cons item rest ih =>
    have first := changes_carryOut same storage item.1 item.2
    have others := ih (p.carryOut scene storage item.1 item.2).2
    -- What is written for the first file moves no other one to another place.
    simp only [IsFileOrCopy, first.place_eq] at others
    exact (first.mono fun target inside => ⟨item, List.mem_cons_self, inside⟩).trans
      (others.mono fun target ⟨other, listed, inside⟩ =>
        ⟨other, List.mem_cons_of_mem item listed, inside⟩)

/-- Files that are rewritten so far are files of the manifest, and so are those put aside. -/
def RewritesOnly (p : Project) (occasion : Occasion) (manifest : Manifest) (before after : σ) :
    Prop :=
  (p.settings.dryRun = true → after = before) ∧
    ChangesOnly (fun target => ∃ file ∈ manifest.files,
      p.IsFileOrCopy occasion before (Path.join p.root file) target) before after

theorem rewritesOnly_carryOutAll {scene : ReplacementScene}
    (same : scene.backups = p.backups occasion) (manifest : Manifest) (storage : σ) :
    p.RewritesOnly occasion manifest storage
      (p.carryOutAll scene storage manifest.byFile).2 := by
  refine ⟨fun dry => by rw [carryOutAll_dry dry], ?_⟩
  refine (changes_carryOutAll same storage manifest.byFile).mono fun target ⟨item, listed, inside⟩ => ?_
  obtain ⟨file, member, rfl⟩ := List.mem_map.mp listed
  exact ⟨file, member, inside⟩

/-- Only a report that cannot be written stops a replacement after it has rewritten files. -/
def StopsReplacing (p : Project) (occasion : Occasion) (manifest : Manifest) (before : σ)
    (e : RunError) (after : σ) : Prop :=
  after = before ∧ e.isUnsaved = false ∨
    p.settings.dryRun = false ∧ e = .sharedReportUnwritten ∧
      ChangesOnly (p.HasRewritten occasion manifest before) before after

theorem ends_saveReport (wet : p.settings.dryRun = false) (manifest : Manifest) (report : RunReport)
    {before : σ} (s : Session σ)
    (rewrites : p.RewritesOnly occasion manifest before s.storage) :
    Run.Ends (tryCatchThe RunError (report.save p.outputDirectory)
        fun _ => throw .sharedReportUnwritten) s (fun _ _ => True)
      (fun e after => p.StopsReplacing occasion manifest before e after.storage) := by
  have rewritten : ChangesOnly (p.HasRewritten occasion manifest before) before s.storage :=
    rewrites.2.mono fun _ => Or.inl
  have recorded (text : String) : ChangesOnly (p.HasRewritten occasion manifest before) before
      (Storage.write s.storage (RunReport.recordPath p.outputDirectory) text).2 :=
    rewritten.trans ((changes_write s.storage _ text).mono fun target same => by
      rw [rewrites.2.place_eq] at same
      exact Or.inr same)
  simp only [Run.ends_tryCatch, Run.ends_throw, RunReport.save, Run.ends_bind, Run.ends_change,
    Run.ends_ofExcept, implies_true, true_and]
  refine ⟨fun _ _ e failed => Or.inr ⟨wet, rfl, ?_⟩, fun e failed => Or.inr ⟨wet, rfl, recorded _⟩⟩
  exact (recorded _).trans ((changes_write_of_error _ _ _ failed).mono
    fun _ never => never.elim)

theorem ends_replaceFiles (launch : Launcher) (cancelled : Bool) (manifest : Manifest)
    (s : Session σ) : Run.Ends (p.replaceFiles occasion launch cancelled manifest) s
      (fun _ after => p.settings.dryRun = true → after.storage = s.storage)
      (fun e after => p.StopsReplacing occasion manifest s.storage e after.storage) := by
  simp only [replaceFiles_eq, Run.ends_bind, Run.ends_storage, Run.ends_ofExcept]
  refine ⟨fun d _ => ?_, fun e refused => ?_⟩
  · obtain ⟨notices, outcomes⟩ :=
      @run_outcomes _ _ p (p.scene occasion launch cancelled d) manifest.byFile s
    rw [Run.ends_iff_of_ok outcomes]
    have rewrites := @rewritesOnly_carryOutAll _ _ _ p occasion
      (p.scene occasion launch cancelled d) rfl manifest s.storage
    simp only [concludeReplacement, Run.ends_bind, Run.ends_storage, Run.ends_notify]
    split
    next wet =>
      have wet : p.settings.dryRun = false := by simpa using wet
      rw [Run.ends_bind]
      refine .mono (ends_saveReport wet manifest _ _ rewrites) (fun _ after _ => ?_)
        fun _ _ stops => stops
      exact (Run.ends_pure _).mpr fun dry => absurd dry (Bool.eq_false_iff.mp wet)
    next => exact (Run.ends_pure _).mpr rewrites.1
  · obtain ⟨f, rfl⟩ := loadDictionary_eq_error refused
    exact Or.inl ⟨rfl, rfl⟩

omit [FileStorage σ] in
theorem isUnsaved_of_readManifest {asked : Option String} {storage : σ} {e : RunError}
    (refused : p.readManifest asked storage = .error e) : e.isUnsaved = false := by
  unfold readManifest at refused
  dsimp only at refused
  split at refused
  next =>
    split at refused
    next =>
      cases refused
      rfl
    next =>
      split at refused
      next => cases refused
      next =>
        cases refused
        rfl
  next =>
    cases refused
    rfl

/-- How a replacement that stops leaves the storage. -/
theorem ends_replace (launch : Launcher) (cancelled : Bool) (manifest : Option String)
    (s : Session σ) : Run.Ends (p.replace occasion launch cancelled manifest) s
      (fun _ after => p.settings.dryRun = true → after.storage = s.storage)
      (fun e after => p.Stopped (p.HasReplaced occasion manifest s.storage) e s.storage
        after.storage) := by
  rw [ends_replace_iff]
  cases read : p.readManifest manifest s.storage with
  | error e => exact .of_same (isUnsaved_of_readManifest read) s.storage
  | ok found =>
    dsimp only
    unfold Run.lockedUnless
    split
    next dry =>
      refine (ends_replaceFiles launch cancelled found s).mono (fun _ _ kept => kept) ?_
      rintro e after (⟨same, early⟩ | ⟨wet, -⟩)
      · rw [same]
        exact .of_same early s.storage
      · exact absurd dry (Bool.eq_false_iff.mp wet)
    next wet =>
      have wet : p.settings.dryRun = false := Bool.eq_false_iff.mpr wet
      have lock := changes_lock s.storage p.outputDirectory
      rw [Run.ends_locked]
      refine ⟨fun e storage refused => ?_, fun locked taken => ?_⟩
      · rw [refused] at lock
        exact .of_lock wet lock
      · rw [taken] at lock
        refine (ends_replaceFiles launch cancelled found _).mono
          (fun _ _ _ dry => absurd dry (Bool.eq_false_iff.mp wet)) ?_
        rintro e after (⟨same, -⟩ | ⟨-, rfl, changes⟩)
        · rw [same]
          exact .of_lock wet (lock.trans (changes_unlock _ _ _))
        · obtain ⟨text, there, parsed⟩ := exists_of_readManifest read
          refine .of_late wet rfl (.trans (lock.mono fun _ => Or.inl)
            (.trans (changes.mono fun target inside => Or.inr ?_) (changes_unlock _ _ _)))
          simp only [HasRewritten, IsFileOrCopy, lock.place_eq] at inside
          exact ⟨text, found, there, parsed, inside⟩

/-- A command that stops changes no file but its lock, except when it has its results and cannot
save the manifest or the report. -/
theorem stopped_spares_files (p : Project) (occasion : Occasion) (launch : Launcher)
    (cancelled : Bool) (manifest : Option String) (s : Session σ) :
    Run.Ends (p.extract occasion cancelled manifest) s
      (fun _ after => p.settings.dryRun = true → after.storage = s.storage)
      (fun e after => p.Stopped (p.HasExtracted occasion manifest s.storage e) e s.storage
        after.storage) ∧
    Run.Ends (p.replace occasion launch cancelled manifest) s
      (fun _ after => p.settings.dryRun = true → after.storage = s.storage)
      (fun e after => p.Stopped (p.HasReplaced occasion manifest s.storage) e s.storage
        after.storage) := by
  refine ⟨?_, ends_replace launch cancelled manifest s⟩
  cases wet : p.settings.dryRun with
  | true =>
    refine (extract_dry wet cancelled manifest s).mono (fun _ _ same _ => same) ?_
    rintro e after ⟨same, early⟩
    rw [same]
    exact .of_same early s.storage
  | false =>
    refine (p.extracted wet occasion cancelled manifest s).mono (fun _ _ _ dry => by cases dry) ?_
    exact fun e after ended => ended.stopped wet

/-- A shelf on which a manifest can be written and no report. -/
def unreported (manifest : String) (locked : List String) : Shelf :=
  ⟨[(".i18n-lift/manifest.json", manifest)], [".i18n-lift/report.json"], locked⟩

theorem select_unreported : ∃ notices,
    Selection.select (unreported "[ ]" []) "" .standard = .ok ([], notices) := by
  have globs : Settings.standard.excludeGlobs =
    .ok (Settings.standard.excludeGlobs.toOption.getD []) := rfl
  have absent : ¬ Storage.isDirectory (unreported "[ ]" []) (Path.join "" "src") = true := by
    decide +kernel
  exact ⟨_, Selection.select_of_rising globs rfl (if_neg absent) .nil⟩

theorem begun_unreported : ∃ b : Begun ⟨"", .standard⟩ (unreported "[ ]" []),
    b.saved ⟨"", ""⟩ false none = (.ok (), unreported "[]\n" [".i18n-lift"]) := by
  obtain ⟨notices, selected⟩ := select_unreported
  refine ⟨⟨[], notices, _, unreported "[ ]" [".i18n-lift"], _, selected, rfl, by decide +kernel,
    Prod.ext (by decide +kernel) rfl⟩, ?_⟩
  simp only [Begun.saved, Begun.flushed, Begun.propagated, Begun.manifest, Begun.tally, tally,
    List.foldl_nil, Tally.start, Manifest.ofEntries, List.mergeSort_nil]
  decide +kernel

/-- The manifest is another one when the extraction stops. -/
theorem extract_changes_manifest :
    Storage.read (unreported "[ ]" []) ".i18n-lift/manifest.json" = .ok "[ ]" ∧
    Run.Ends (extract ⟨"", .standard⟩ ⟨"", ""⟩ false none) (Session.start (unreported "[ ]" []))
      (fun _ _ => False)
      (fun e after => e = .reportUnwritten ".i18n-lift/report.json" ∧
        Storage.read after.storage ".i18n-lift/manifest.json" = .ok "[]\n") := by
  obtain ⟨b, saved⟩ := begun_unreported
  have path : RunReport.recordPath (outputDirectory ⟨"", .standard⟩) = ".i18n-lift/report.json" := by
    decide +kernel
  have recorded : b.recorded ⟨"", ""⟩ false none =
      (.error (.denied ".i18n-lift/report.json"), unreported "[]\n" [".i18n-lift"]) := by
    rw [Begun.recorded, saved, path]
    exact Shelf.write_denied (by decide) _
  have outcome : b.outcome ⟨"", ""⟩ false none =
      (.error (.reportUnwritten ".i18n-lift/report.json"), unreported "[]\n" []) := by
    have unlocked : Storage.unlock (unreported "[]\n" [".i18n-lift"])
        (outputDirectory ⟨"", .standard⟩) = unreported "[]\n" [] := by
      decide +kernel
    rw [Begun.outcome, saved, recorded, path]
    exact Prod.ext rfl unlocked
  refine ⟨by decide, (b.ends rfl _ _ _ _ rfl).mono (fun x after done => ?_)
    fun e after stopped => ?_⟩
  · cases outcome.symm.trans done
  · obtain ⟨same, storage⟩ := Prod.mk.inj (outcome.symm.trans stopped)
    rw [← storage]
    exact ⟨(Except.error.inj same).symm, by decide⟩

end Phrasebook.Project
