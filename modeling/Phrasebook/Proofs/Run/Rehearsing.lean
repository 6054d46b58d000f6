import Phrasebook.Proofs.Run.History
import Phrasebook.Proofs.Run.Planning
import Phrasebook.Proofs.Run.Stopping
import Phrasebook.Proofs.Storage.Steady

/-!
# Dry runs

A dry run finds what the run that writes would find, as long as nothing of that is made by the run
itself: it reads the same sources and documents, without the lock, and plans the same.
-/

namespace Phrasebook

open LawfulStorage (place)

variable {σ : Type} [Storage σ]

/-! ## Documents -/

namespace Dictionary

variable [LawfulStorage σ] {before after : σ} {d d' : Dictionary}

omit [LawfulStorage σ] in
/-- Loading a locale looks only at its document. -/
theorem load_congr {locale : String}
    (held : Storage.holds after (d.documentPath locale) =
      Storage.holds before (d.documentPath locale))
    (read : Storage.holds before (d.documentPath locale) = true →
      Storage.read after (d.documentPath locale) = Storage.read before (d.documentPath locale)) :
    d.load after locale = d.load before locale := by
  unfold load
  dsimp only
  rw [held]
  split
  next there => rw [read there]
  next => rfl

/-- A document that is loaded later could be loaded before. -/
theorem load_back {locale : String} (reaches : Path.Reaches before (d.documentPath locale))
    (untouched : Untouched (d.documentPath locale) before after)
    (loaded : d.load after locale = .ok d') : d.load before locale = .ok d' := by
  rw [← loaded]
  symm
  cases held : Storage.holds before (d.documentPath locale) with
  | true => exact load_congr (held ▸ (untouched.stands held).1) fun _ => (untouched.stands held).2
  | false =>
    apply load_congr _ fun there => absurd there (Bool.eq_false_iff.mp held)
    rcases load_cases loaded with ⟨text, messages, read, -, -⟩ | ⟨missing, -⟩
    · -- What can be read later was there before.
      have there := LawfulStorage.holds_of_read before _ text
        (reaches.read_eq untouched read)
      rw [held] at there
      cases there
    · rw [missing, held]

omit [LawfulStorage σ] in
theorem directory_of_load {storage : σ} {locale : String} (loaded : d.load storage locale = .ok d') :
    d'.directory = d.directory := by
  rcases load_cases loaded with ⟨text, messages, -, -, rfl⟩ | ⟨-, rfl⟩ <;> rfl

theorem loadAll_back {locales : List String}
    (reaches : ∀ locale ∈ locales, Path.Reaches before (d.documentPath locale))
    (untouched : ∀ locale ∈ locales, Untouched (d.documentPath locale) before after)
    (loaded : d.loadAll after locales = (none, d')) : d.loadAll before locales = (none, d') := by
  induction locales generalizing d with
  | nil => exact loaded
  | cons locale rest ih =>
    obtain ⟨reaches, reachesRest⟩ := List.forall_mem_cons.mp reaches
    obtain ⟨untouched, untouchedRest⟩ := List.forall_mem_cons.mp untouched
    rw [loadAll] at loaded ⊢
    split at loaded
    next first returned =>
      have path (other : String) : first.documentPath other = d.documentPath other := by
        rw [documentPath, documentPath, directory_of_load returned]
      rw [load_back reaches untouched returned]
      dsimp only
      apply ih _ _ loaded <;> simpa only [path]
    next => cases loaded

end Dictionary

/-! ## Sources -/

theorem SourceFile.mem_of_mem_dropRepeated {f : SourceFile} {files : List SourceFile}
    (member : f ∈ dropRepeated files) : f ∈ files := by
  fun_induction dropRepeated files with
  | case1 | case2 => exact member
  | case3 f g rest same ih =>
    rcases List.mem_cons.mp (ih member) with here | there
    · exact here ▸ List.mem_cons_self
    · exact List.mem_cons_of_mem _ (List.mem_cons_of_mem _ there)
  | case4 f g rest differs ih =>
    rcases List.mem_cons.mp member with here | there
    · exact here ▸ List.mem_cons_self
    · exact List.mem_cons_of_mem _ (ih there)

/-- Every source is listed by one of the roots. -/
theorem Selection.mem_select {storage : σ} {projectRoot : String} {s : Settings}
    {files : List SourceFile} {notices : List Notice}
    (selected : select storage projectRoot s = .ok (files, notices)) {f : SourceFile}
    (member : f ∈ files) : ∃ root ∈ s.roots,
      Storage.isDirectory storage (Path.join projectRoot root) = true ∧
      ∃ path ∈ Storage.filesBelow storage (Path.join projectRoot root),
        f.path = Path.join (Path.join projectRoot root) path := by
  obtain ⟨globs, -, same⟩ := (map_eq_ok_iff ..).mp selected
  obtain ⟨rfl, -⟩ := Prod.mk.inj same
  have found := List.mem_mergeSort.mp (SourceFile.mem_of_mem_dropRepeated member)
  obtain ⟨part, inside, found⟩ := List.mem_flatMap.mp found
  obtain ⟨root, listed, rfl⟩ := List.mem_map.mp inside
  refine ⟨root, listed, ?_⟩
  unfold ofRoot at found
  dsimp only at found
  split at found
  next there =>
    obtain ⟨_, ending, rfl⟩ := List.mem_map.mp (List.mem_filter.mp found).1
    obtain ⟨path, below, rfl⟩ := List.mem_map.mp (List.mem_filter.mp ending).1
    exact ⟨there, path, below, rfl⟩
  next => cases found

/-! ## Extraction -/

/-- What a report says of documents that were written. -/
def Tally.saved (t : Tally) : List String × List FailureRecord :=
  (t.report.localesWritten, t.report.localeFailures)

/-- A search writes no documents. -/
theorem Project.saved_tally (rules : ExtractionRules) (cancelled : Bool) (storage : σ)
    (files : List SourceFile) (d : Dictionary) :
    (tally rules cancelled storage files d).saved = ([], []) := by
  have accepted (withinRoot : String) (t : Tally) (c : Candidate) :
      (t.addAccepted rules withinRoot c).saved = t.saved := by
    unfold Tally.addAccepted
    split <;> rfl
  have rejected (t : Tally) (c : Candidate) :
      ((rules.acceptance.candidateRejection? c).elim t (t.addRejected c)).saved = t.saved := by
    cases rules.acceptance.candidateRejection? c <;> rfl
  refine List.foldlRecOn (motive := fun t : Tally => t.saved = ([], [])) files _ rfl ?_
  intro t unsaved file member
  cases searchFile rules cancelled storage file with
  | notProcessed => exact unsaved
  | failed f => exact unsaved
  | found occurrences =>
    apply List.foldlRecOn (motive := fun t : Tally => t.saved = ([], []))
    · apply List.foldlRecOn (motive := fun t : Tally => t.saved = ([], []))
      · exact unsaved
      · exact fun t unsaved c _ => (rejected t c).trans unsaved
    · exact fun t unsaved c _ => (accepted file.withinRoot t c).trans unsaved

/-- The report of a dry run in place of one that writes. -/
def RunReport.rehearsed (r : RunReport) : RunReport :=
  { r with
    dryRun := true
    extraction := r.extraction.map fun e => { e with localesWritten := [], localeFailures := [] } }

/-- Writing documents changes no text. -/
theorem Dictionary.render_flush (d : Dictionary) (storage : σ) (locales : List String)
    (backups : Backups) (locale : String) :
    (d.flush storage locales backups).dictionary.render locale = d.render locale := by
  let texts (f : Flush σ) : Table Messages × Table Style :=
    (f.dictionary.messages, f.dictionary.styles)
  have kept : texts (d.flush storage locales backups) = (d.messages, d.styles) := by
    refine List.foldlRecOn (motive := fun f => texts f = (d.messages, d.styles)) locales _ rfl ?_
    intro f same other _
    unfold Flush.step
    split
    · dsimp only
      split
      · exact same
      · split <;> exact same
    · exact same
  obtain ⟨messages, styles⟩ := Prod.mk.inj kept
  rw [render, render, messagesOf, messagesOf, messages, styles]

namespace Project

variable {p : Project}

/-- The project for a dry run. -/
def rehearsed (p : Project) : Project :=
  { p with settings := { p.settings with dryRun := true } }

/-- No root of the sources holds the output directory. -/
def KeepsOutside [SteadyStorage σ] (p : Project) (storage : σ) : Prop :=
  ∀ root ∈ p.settings.roots,
    ¬ place storage (Path.join p.root root) <+: place storage p.outputDirectory

variable [SteadyStorage σ] {before : σ}

theorem place_lock_eq (p : Project) (storage : σ) :
    p.lockPlace storage = place storage p.outputDirectory ++ [Disk.lockName.toList] := by
  have name : Path.ofComponents [Disk.lockName.toList] = Disk.lockName := by
    rw [Path.ofComponents, List.intercalate_singleton, String.ofList_toList]
  have joined := SteadyStorage.place_join storage p.outputDirectory [Disk.lockName.toList]
    (List.cons_ne_nil _ _) (by decide)
  rwa [name] at joined

/-- What is outside the output directory is not the lock. -/
theorem ne_place_lock {storage : σ} {path : String}
    (outside : ¬ place storage p.outputDirectory <+: place storage path) :
    place storage path ≠ p.lockPlace storage := by
  intro same
  rw [place_lock_eq] at same
  exact outside ⟨_, same.symm⟩

theorem documentPath_ne_lock (p : Project) (storage : σ) (locale : String) :
    place storage (p.dictionary.documentPath locale) ≠ p.lockPlace storage := by
  have apart := LawfulStorage.place_document_ne storage p.messagesDirectory locale p.outputDirectory
    "" Disk.lockName (by decide) (by decide) (by decide)
  rwa [String.empty_append] at apart

omit [SteadyStorage σ] in
/-- What a dry run ends with. -/
theorem ends_rehearsed {s : Session σ} {files : List SourceFile} {notices : List Notice}
    {rules : ExtractionRules} {d : Dictionary}
    (selected : Selection.select s.storage p.root p.settings = .ok (files, notices))
    (ruled : ExtractionRules.ofSettings p.settings = .ok rules)
    (loaded : p.dictionary.loadAll s.storage p.settings.locales = (none, d))
    (occasion : Occasion) (cancelled : Bool) (asked : Option String) :
    Run.Ends (p.rehearsed.extract occasion cancelled asked) s
      (fun x after => after.storage = s.storage ∧
        let t := tally rules cancelled s.storage files d
        let propagated :=
          t.dictionary.propagate p.settings.sourceLocale p.settings.targetLocales
        x = ⟨⟨occasion.time, true, some { t.report with propagation := propagated.counts }, none⟩,
          .ofEntries t.entries, p.manifestPath asked, propagated.dictionary⟩)
      (fun _ _ => False) := by
  have selected : Selection.select s.storage p.rehearsed.root p.rehearsed.settings =
      .ok (files, notices) := selected
  have ruled : ExtractionRules.ofSettings p.rehearsed.settings = .ok rules := ruled
  have loaded : p.rehearsed.loadDictionary s.storage p.rehearsed.settings.locales
      "Cannot load locale documents: " = .ok d := by
    have loaded : p.rehearsed.dictionary.loadAll s.storage p.rehearsed.settings.locales =
        (none, d) := loaded
    rw [loadDictionary, loaded]
  have dry : p.rehearsed.settings.dryRun = true := rfl
  simp only [extract, Run.ends_bind, Run.ends_storage, Run.ends_ofExcept, Run.ends_notify,
    selected, ruled, Except.ok.injEq, forall_eq', reduceCtorEq, false_implies, implies_true,
    and_true, Run.lockedUnless, dry, if_true, extractFiles, loaded, Run.ends_pure, true_and]
  rfl

namespace Begun

variable (b : p.Begun before) {occasion : Occasion} (cancelled : Bool)

omit [SteadyStorage σ] in
theorem locked_eq : b.locked = (Storage.lock before p.outputDirectory).2 := by rw [b.taken]

/-- Sources are read under the lock as before it is taken. -/
theorem read_eq (sound : SteadyStorage.IsSound before) (apart : p.KeepsOutside before)
    {f : SourceFile} (member : f ∈ b.files) :
    Storage.read b.locked f.path = Storage.read before f.path := by
  obtain ⟨root, listed, there, path, below, same⟩ := Selection.mem_select b.selected member
  obtain ⟨held, names, some, inside⟩ := SteadyStorage.listed before _ sound there path below
  rw [← same] at held inside
  have elsewhere : place before f.path ≠ p.lockPlace before := by
    intro here
    rw [place_lock_eq, inside] at here
    have above := congrArg List.dropLast here
    rw [List.dropLast_append_of_ne_nil some, List.dropLast_concat] at above
    exact apart root listed ⟨_, above⟩
  rw [b.locked_eq]
  exact (SteadyStorage.stands_lock before p.outputDirectory f.path elsewhere held).2

/-- The search finds the same before the lock is taken. -/
theorem tally_eq (sound : SteadyStorage.IsSound before) (apart : p.KeepsOutside before) :
    Project.tally b.rules cancelled before b.files b.dictionary = b.tally cancelled := by
  rw [tally, Project.tally, Project.tally]
  apply List.foldl_ext
  intro t file member
  rw [searchFile, searchFile, b.read_eq sound apart member]

/-- So do the documents that the run loads. -/
theorem loaded_eq (reaches : ∀ locale ∈ p.settings.locales,
      Path.Reaches before (p.dictionary.documentPath locale)) :
    p.dictionary.loadAll before p.settings.locales = (none, b.dictionary) := by
  have elsewhere := p.documentPath_ne_lock before
  have loaded := b.loaded
  rw [b.locked_eq] at loaded
  exact Dictionary.loadAll_back reaches (fun locale _ => .lock (elsewhere locale)) loaded

/-- A run that has begun would end in the same way without writing. -/
theorem rehearse (sound : SteadyStorage.IsSound before)
    (apart : p.KeepsOutside before) (reaches : ∀ locale ∈ p.settings.locales,
      Path.Reaches before (p.dictionary.documentPath locale)) (occasion : Occasion)
    (asked : Option String) (s : Session σ) (here : s.storage = before) :
    Run.Ends (p.rehearsed.extract occasion cancelled asked) s
      (fun x after => after.storage = s.storage ∧ x = ⟨(b.report occasion cancelled).rehearsed,
        b.manifest cancelled, p.manifestPath asked, (b.propagated cancelled).dictionary⟩)
      (fun _ _ => False) := by
  subst here
  refine (ends_rehearsed b.selected b.ruled (b.loaded_eq reaches) occasion cancelled asked).mono
    (fun x after ended => ⟨ended.1, ended.2.trans ?_⟩) fun _ _ never => never
  have unsaved : (b.tally cancelled).saved = ([], []) := saved_tally ..
  obtain ⟨unwritten, unfailed⟩ := Prod.mk.inj unsaved
  rw [b.tally_eq cancelled sound apart, report, RunReport.rehearsed, Option.map_some, ← unwritten,
    ← unfailed]
  rfl

end Begun

end Project

end Phrasebook
