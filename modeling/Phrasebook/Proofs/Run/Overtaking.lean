import Phrasebook.Proofs.Json.Rereading
import Phrasebook.Proofs.Manifest.Reloading
import Phrasebook.Proofs.Rewrite.Recorded
import Phrasebook.Proofs.Run.Working

/-!
# Extraction and replacement at the same time

Of two commands that both succeed, the second to get the lock works on what the first has left. But
it has chosen its files, or read its manifest, before it asked for the lock: what it works with can
be older than what it works on.
-/

namespace Phrasebook

open ExclusiveStorage (IsLocked)
open Json (deepest mapNumbers mapNumbersMembers)

variable {σ : Type} [Storage σ]

section

variable [ExclusiveStorage σ] {directory : String}

/-! ## The lock is kept -/

theorem Backups.isLocked_save (backups : Backups) (path : String) (s : σ)
    (held : IsLocked s directory) : IsLocked (backups.save s path).2 directory := by
  unfold save
  split
  · exact ExclusiveStorage.isLocked_copy s path _ directory held
  · exact held

theorem RunReport.keeps_saveTask (r : RunReport) (target : String) :
    (r.saveTask target).Keeps fun s : σ => IsLocked s directory := by
  have write (path text : String) (s : σ) := ExclusiveStorage.isLocked_write s path text directory
  refine Task.keeps_change (write _ _) fun result => ?_
  cases result with
  | error e => trivial
  | ok _ =>
    refine Task.keeps_change (write _ _) fun result => ?_
    cases result <;> trivial

theorem Dictionary.Flush.isLocked_step (backups : Backups) (locale : String) (f : Flush σ)
    (held : IsLocked f.storage directory) :
    IsLocked (f.step backups locale).storage directory := by
  unfold step
  split
  next =>
    have saved := backups.isLocked_save (f.dictionary.documentPath locale) f.storage held
    dsimp only
    split
    next e between copied =>
      rw [copied] at saved
      exact saved
    next kept between copied =>
      rw [copied] at saved
      have written := ExclusiveStorage.isLocked_write between (f.dictionary.documentPath locale)
        (f.dictionary.render locale) directory saved
      split
      next after done =>
        rw [done] at written
        exact written
      next e after done =>
        rw [done] at written
        exact written
  next => exact held

theorem Dictionary.keeps_flushTask (backups : Backups) (locales : List String) (f : Flush σ) :
    (flushTask backups locales f).Keeps fun s => IsLocked s directory := by
  induction locales generalizing f with
  | nil => trivial
  | cons locale rest ih =>
    exact Task.keeps_change (fun s held => Flush.isLocked_step backups locale { f with storage := s }
      held) fun f => ih f

namespace Project

variable (p : Project)

theorem keeps_fileTask (scene : ReplacementScene) (file : String) (entries : List Entry) :
    (p.fileTask scene file entries).Keeps fun s : σ => IsLocked s directory := by
  refine Task.keeps_look fun plan => ?_
  cases plan with
  | rewritten r =>
    dsimp only
    split
    next => trivial
    next =>
      refine Task.keeps_change (scene.backups.isLocked_save _) fun copied => ?_
      cases copied with
      | error e => trivial
      | ok _ =>
        refine Task.keeps_change (fun s => ExclusiveStorage.isLocked_write s _ _ directory)
          fun written => ?_
        cases written <;> trivial
  | unchanged r => trivial
  | failed f => trivial
  | notProcessed file => trivial

theorem keeps_filesTask (scene : ReplacementScene) (items : List (String × List Entry)) :
    (p.filesTask scene items).Keeps fun s : σ => IsLocked s directory := by
  induction items with
  | nil => trivial
  | cons item rest ih =>
    obtain ⟨file, entries⟩ := item
    exact (p.keeps_fileTask scene file entries).andThen fun _ => ih.andThen fun _ => trivial

theorem keepsLock_extraction (occasion : Occasion) (cancelled : Bool) (asked : Option String) :
    (p.extraction (σ := σ) occasion cancelled asked).KeepsLock directory := by
  intro found
  show (p.extractWork occasion cancelled asked found).Keeps _
  refine Task.keeps_look fun loaded => ?_
  cases loaded with
  | error e => trivial
  | ok d =>
    refine Task.keeps_look fun t => Task.keeps_look fun start =>
      (Dictionary.keeps_flushTask _ _ start).andThen fun flushed => ?_
    refine Task.keeps_change (fun s => ExclusiveStorage.isLocked_write s _ _ directory)
      fun written => ?_
    cases written with
    | error e => trivial
    | ok _ => exact (RunReport.keeps_saveTask _ _).andThen fun _ => trivial

theorem keepsLock_replacement (occasion : Occasion) (launch : Launcher) (cancelled : Bool)
    (asked : Option String) :
    (p.replacement (σ := σ) occasion launch cancelled asked).KeepsLock directory := by
  intro manifest
  show (p.replaceWork occasion launch cancelled manifest).Keeps _
  refine Task.keeps_look fun loaded => ?_
  cases loaded with
  | error e => trivial
  | ok d =>
    refine (p.keeps_filesTask _ _).andThen fun outcomes => Task.keeps_look fun existing => ?_
    refine (RunReport.keeps_saveTask _ _).andThen fun saved => ?_
    cases saved <;> trivial

end Project

end

/-! ## One after the other -/

/-- From a storage on, a part of a run ends with a result, and leaves another storage. -/
def Run.Gives {α : Type} (part : Run σ α) (start : σ) (x : α) (after : σ) : Prop :=
  ∀ s : Session σ, s.storage = start →
    Run.Ends part s (fun found last => found = x ∧ last.storage = after) fun _ _ => False

namespace Project

omit [Storage σ] in
/-- What a task comes to, the part of the run comes to that it stands for. -/
theorem gives_of_does {α : Type} {part : Run σ α} {t : Task σ (Except RunError α)}
    (does : ∀ s, Does part s t) {start after : σ} {x : α} (ran : t.run start = (.ok x, after)) :
    part.Gives start x after := by
  rintro s rfl
  refine (does s).mono (fun found last same => ?_) fun e last same => ?_
  · obtain ⟨found_eq, last_eq⟩ := Prod.mk.inj (same.symm.trans ran)
    exact ⟨Except.ok.inj found_eq, last_eq⟩
  · cases same.symm.trans ran

section

variable {p : Project} {occasion occasion' : Occasion} {launch : Launcher}
variable {cancelled cancelled' : Bool} {asked asked' : Option String}

variable (p occasion cancelled asked) in
/-- The storages that an extraction passes through. -/
def extractionTrail (start : σ) : List σ :=
  ((p.extraction occasion cancelled asked).task p.outputDirectory).trail start

variable (p occasion launch cancelled asked) in
/-- The storages that a replacement passes through. -/
def replacementTrail (start : σ) : List σ :=
  ((p.replacement occasion launch cancelled asked).task p.outputDirectory).trail start

variable (p occasion occasion' launch cancelled cancelled' asked asked') in
/-- An extraction and a replacement, about to start. -/
def duo (start : σ) : Duo σ (Except RunError Extraction) (Except RunError Replacement) where
  storage := start
  one := (p.extraction occasion cancelled asked).task p.outputDirectory
  other := (p.replacement occasion' launch cancelled' asked').task p.outputDirectory

/-- An extraction and a replacement that take turns and both succeed come to what they come to one
after the other, except that the second one works with what it has chosen in a storage that the first
one has passed through. If it would choose the same again, they are serial. -/
theorem concurrent_runs_follow [ExclusiveStorage σ] (p : Project) (wet : p.settings.dryRun = false)
    (occasion occasion' : Occasion) (launch : Launcher) (cancelled cancelled' : Bool)
    (asked asked' : Option String) (start after : σ) (turns : List Bool) (x : Extraction)
    (y : Replacement)
    (ended : (p.duo occasion occasion' launch cancelled cancelled' asked asked' start).run turns =
      ⟨after, .done (.ok x), .done (.ok y)⟩) :
    (∃ between, (p.extract occasion cancelled asked).Gives start x between ∧
      ∃ old ∈ p.extractionTrail occasion cancelled asked start, ∃ manifest,
        p.readManifest asked' old = .ok manifest ∧
        (Run.locked p.outputDirectory
          (p.replaceFiles occasion' launch cancelled' manifest)).Gives between y after ∧
        (p.readManifest asked' between = .ok manifest →
          (p.replace occasion' launch cancelled' asked').Gives between y after)) ∨
    (∃ between, (p.replace occasion' launch cancelled' asked').Gives start y between ∧
      ∃ old ∈ p.replacementTrail occasion' launch cancelled' asked' start, ∃ files rules,
        p.selectFiles old = .ok (files, rules) ∧
        (Run.locked p.outputDirectory
          (p.extractFiles occasion rules cancelled asked files)).Gives between x after ∧
        (p.selectFiles between = .ok (files, rules) →
          (p.extract occasion cancelled asked).Gives between x after)) := by
  rcases Errand.follows_of_ok (p.keepsLock_extraction occasion cancelled asked)
      (p.keepsLock_replacement occasion' launch cancelled' asked') ended with follows | follows
  · obtain ⟨between, first, old, passed, manifest, read, second⟩ := follows
    refine Or.inl ⟨between, gives_of_does (extract_does wet) first, old, passed, manifest, read,
      gives_of_does (locked_does (replaceFiles_does wet manifest)) second, fun same => ?_⟩
    exact gives_of_does (replace_does wet) ((Errand.run_task same).trans second)
  · obtain ⟨between, first, old, passed, ⟨files, rules⟩, chosen, second⟩ := follows
    refine Or.inr ⟨between, gives_of_does (replace_does wet) first, old, passed, files, rules, chosen,
      gives_of_does (locked_does (extractFiles_does wet rules files)) second, fun same => ?_⟩
    exact gives_of_does (extract_does wet) ((Errand.run_task same).trans second)

end

/-! A module with one text, and a manifest that has its key in another namespace. -/

namespace Overtaken

def project : Project where
  root := ""
  settings := { Settings.standard with
    exclude := []
    defaultNamespace := "c"
    binding := ⟨"u", "n", "v", "m"⟩
    createBackups := false }

def occasion : Occasion := ⟨"", ""⟩

/-- No program can be started. -/
def launch : Launcher := fun _ _ _ => none

def rules : ExtractionRules :=
  ⟨.ofSettings project.settings, ⟨2, 120, [], 4, 20⟩, .ofSettings project.settings⟩

/-- The module, with a token in place of its text. -/
def content (token : String) : String :=
  "import\x7bu\x7dfrom'n';export function A()\x7blet tX,tC=[\n\n\n" ++ token ++ "]\x7d"

def source : String := content "\"A b\""

def file : SourceFile := ⟨"src/a.ts", "a.ts", "src/a.ts"⟩

def candidate : Candidate :=
  ⟨"A b", "\"A b\"", "src/a.ts", ⟨4, 1⟩, .stringLiteral, none, "\n\n\"A b\"]\x7d"⟩

def manifest (spaceName : String) : Manifest := ⟨[⟨candidate, "c.a.a_b", spaceName, .new⟩]⟩

def messages : Messages := [("c", .object [("a", .object [("a_b", .string "A b")])])]

def document : String := Style.standard.render messages

def void : Dictionary := project.dictionary.withMessages "en" []

def known : Dictionary := project.dictionary.withDocument "en" messages (Style.detect document.toList)

/-- A shelf with the module, where everything can be written and nobody works. -/
structure IsReady (shelf : Shelf) : Prop where
  opened : shelf.denied = []
  free : shelf.locked = []
  read : Storage.read shelf "src/a.ts" = .ok source

theorem occurrences_eq :
    occurrences rules.search "src/a.ts" source.toList = .ok [.candidate candidate] :=
  occurrences_of_visit (by decide +kernel) (List.pairwise_singleton ..)

theorem ofDocument_eq (path : String) : Messages.ofDocument path document = .ok messages := by
  have put : Messages.putAt "A b" ["c", "a", "a_b"] [] = messages := rfl
  have fits : Json.Fits Json.IsRegular deepest (.object messages) :=
    put ▸ Messages.fits_putAt "A b" _ (by decide) (by decide) Messages.fits_nil
  rw [document, Messages.ofDocument_render Style.isProper_standard Json.read_text fits path]
  simp [messages, mapNumbersMembers, mapNumbers]

/-- Each manifest is read as it is written. -/
theorem ofText?_text (spaceName : String) :
    Manifest.ofText? (manifest spaceName).text = some (manifest spaceName) := by
  have ordered : (manifest spaceName).IsOrdered := List.pairwise_singleton ..
  have words : candidate.position.line < 2 ^ 64 ∧ candidate.position.column < 2 ^ 64 := by decide
  exact ordered.ofText?_text (List.forall_mem_singleton.mpr words)

/-- The lookup that a namespace gives. -/
def lookup (spaceName : String) : String :=
  if spaceName = "x" then "tX('c.a.a_b')" else "tC('a.a_b')"

/-- What a dictionary makes of the module. -/
def scene (d : Dictionary) : RewriteScene where
  file := "src/a.ts"
  source := source.toList
  tokens := [⟨51, ⟨4, 1⟩, "\"A b\"", .stringLiteral⟩]
  component := some ⟨"A", false, 36, 58, some 37, ["tX", "tC"]⟩
  text? := d.leaf? "en"

theorem readings_eq : (readSource "src/a.ts" source.toList).toOption.map (fun tree =>
    let found := Search.visit ⟨rules.search, "src/a.ts", source.toList⟩ false tree
    (found.filterMap Occurrence.seen?,
      decide (found.Pairwise fun a b => (!b.position.before a.position) = true),
      Component.ofModule? tree, ModuleHead.ofModule tree)) =
    some ([(⟨4, 1⟩, "\"A b\"", .stringLiteral)], true,
      some ⟨"A", false, 36, 58, some 37, ["tX", "tC"]⟩, ⟨some 17, none, ["u"]⟩) := by
  decide +kernel

def rewrite (code : String) : Rewrite :=
  ⟨"src/a.ts", content code, [⟨51, 56, code⟩], 1, [], false, []⟩

/-- With the key at hand, each manifest puts its own lookup into the module. -/
theorem rewrite_known : ∀ spaceName ∈ ["c", "x"],
    RewriteRules.rewrite (.ofSettings project.settings) "src/a.ts" source.toList
      (manifest spaceName).entries known = .ok (rewrite (lookup spaceName)) := by
  have planned : ∀ spaceName ∈ ["c", "x"],
      Plan.empty.add (scene known) ⟨candidate, "c.a.a_b", spaceName, .new⟩ =
        ⟨[⟨51, 56, lookup spaceName⟩], [spaceName], []⟩ := by
    decide +kernel
  have declared : ∀ spaceName ∈ ["c", "x"],
      ["tX", "tC"].contains (Key.accessor spaceName) = true := by
    decide +kernel
  have made : ∀ spaceName ∈ ["c", "x"],
      (⟨51, 56, lookup spaceName⟩ : Text.Edit).fault? source.toList = none ∧
      (⟨51, 56, lookup spaceName⟩ : Text.Edit).make source.toList = (content (lookup spaceName)).toList ∧
      (readSource "src/a.ts" (content (lookup spaceName)).toList).toOption.isSome = true := by
    decide +kernel
  intro spaceName listed
  obtain ⟨fits, made, readable⟩ := made spaceName listed
  refine RewriteRules.rewrite_eq_lookup (.ofSettings project.settings) "src/a.ts" source.toList known
    _ (scene known) ⟨"A", false, 36, 58, some 37, ["tX", "tC"]⟩ _ _ ⟨51, 56, lookup spaceName⟩
    spaceName [] _ rfl readings_eq (by decide +kernel) ?_ (by decide) (declared spaceName listed) fits
    made readable
  rw [manifest, Plan.ofEntries_singleton]
  exact planned spaceName listed

/-- Without the key nothing is rewritten. -/
theorem rewrite_void : ∃ r, RewriteRules.rewrite (.ofSettings project.settings) "src/a.ts"
    source.toList (manifest "x").entries void = .ok r ∧ r.isChanged = false := by
  obtain ⟨tree, read, -, looked⟩ := RewriteRules.exists_scene (.ofSettings project.settings)
    "src/a.ts" source.toList void _ (scene void).tokens _ _ readings_eq (by decide +kernel)
  have planned : (Plan.empty.add (scene void) ⟨candidate, "c.a.a_b", "x", .new⟩).edits = [] := by
    decide +kernel
  have idle (r : Rewrite) (none : r.edits = []) : r.isChanged = false := by
    rw [Rewrite.isChanged, none]
    rfl
  have bare : ((RewriteRules.ofSettings project.settings).edits (scene void) tree
      (Plan.ofEntries (scene void) (manifest "x").entries)).edits = [] := by
    rw [manifest, Plan.ofEntries_singleton]
    rcases RewriteRules.edits_cases (.ofSettings project.settings) tree (scene void)
      (Plan.empty.add (scene void) ⟨candidate, "c.a.a_b", "x", .new⟩) with same | ⟨_, _, some, _⟩
    · rw [same, planned]
    · exact absurd planned some
  refine ⟨_, (RewriteRules.rewrite_eq_ok_iff ..).mpr ⟨tree, read, ?_⟩, idle _ bare⟩
  rw [show RewriteRules.scene (.ofSettings project.settings) "src/a.ts" source.toList tree void =
    scene void from looked, RewriteRules.make, idle _ bare]
  rfl

/-! What the commands make of shelves. -/

/-- The shelf at work. -/
def taken (shelf : Shelf) : Shelf := { shelf with locked := [".i18n-lift"] }

/-- A report is written behind the work. -/
def reported (shelf : Shelf) (r : RunReport) : Shelf :=
  let recorded := (Storage.write shelf ".i18n-lift/report.json" r.text).2
  (Storage.write recorded ".i18n-lift/report.md" r.page).2

/-- Where everything stands. What is written stands in places of its own. -/
structure Places : Prop where
  output : project.outputDirectory = ".i18n-lift"
  manifest : project.manifestPath none = ".i18n-lift/manifest.json"
  record : RunReport.recordPath ".i18n-lift" = ".i18n-lift/report.json"
  page : RunReport.pagePath ".i18n-lift" = ".i18n-lift/report.md"
  module : Path.join project.root "src/a.ts" = "src/a.ts"
  document : project.dictionary.documentPath "en" = "src/messages/en.json"
  scanned : Path.join "" "src" = "src"
  reports : ∀ path ∈ ["src/a.ts", ".i18n-lift/manifest.json", "src/messages/en.json"],
    Path.components path.toList ≠ Path.components ".i18n-lift/report.json".toList ∧
    Path.components path.toList ≠ Path.components ".i18n-lift/report.md".toList
  sources : ∀ target ∈ [".i18n-lift/manifest.json", "src/messages/en.json"],
    Path.components "src/a.ts".toList ≠ Path.components target.toList
  documents : Path.components "src/messages/en.json".toList ≠
    Path.components ".i18n-lift/manifest.json".toList

theorem places : Places := by
  constructor <;> decide +kernel

theorem lock_eq {shelf : Shelf} (ready : IsReady shelf) :
    Storage.lock shelf ".i18n-lift" = (.ok (), taken shelf) := by
  show shelf.lock ".i18n-lift" = _
  rw [Shelf.lock, ready.free]
  rfl

theorem run_saveTask_eq {shelf : Shelf} (opened : shelf.denied = []) (r : RunReport) :
    (r.saveTask ".i18n-lift").run shelf = (.ok (), reported shelf r) := by
  obtain ⟨recorded, opened⟩ := Shelf.write_of_open opened ".i18n-lift/report.json" r.text
  obtain ⟨shown, -⟩ := Shelf.write_of_open opened ".i18n-lift/report.md" r.page
  rw [RunReport.run_saveTask, Places.record places, Places.page places, reported,
    ← Prod.eta (Storage.write shelf _ _), recorded]
  dsimp only
  rw [← Prod.eta (Storage.write _ ".i18n-lift/report.md" _), shown]

theorem denied_reported {shelf : Shelf} (opened : shelf.denied = []) (r : RunReport) :
    (reported shelf r).denied = [] :=
  (Shelf.write_of_open (Shelf.write_of_open opened _ _).2 _ _).2

theorem locked_reported (shelf : Shelf) (r : RunReport) :
    (reported shelf r).locked = shelf.locked :=
  (Shelf.locked_write ..).trans (Shelf.locked_write ..)

theorem read_reported (shelf : Shelf) (r : RunReport) (path : String)
    (apart : Path.components path.toList ≠ Path.components ".i18n-lift/report.json".toList ∧
      Path.components path.toList ≠ Path.components ".i18n-lift/report.md".toList) :
    Storage.read (reported shelf r) path = Storage.read shelf path := by
  show ((shelf.write ".i18n-lift/report.json" r.text).2.write ".i18n-lift/report.md" r.page).2.read
    path = shelf.read path
  rw [Shelf.read_write_of_ne _ _ _ _ apart.2, Shelf.read_write_of_ne _ _ _ _ apart.1]

theorem byFile_eq (spaceName : String) :
    (manifest spaceName).byFile = [("src/a.ts", (manifest spaceName).entries)] := by
  have single : ["src/a.ts"].eraseDups = ["src/a.ts"] := by decide
  have files : (manifest spaceName).files = ["src/a.ts"] := by
    rw [Manifest.files, manifest, List.map_singleton, candidate, single, List.mergeSort_singleton]
  rw [Manifest.byFile, files]
  rfl

/-- The shelf at work with a rewrite of the module. -/
def rewritten (shelf : Shelf) (r : Rewrite) : Shelf :=
  if r.isChanged then (Storage.write (taken shelf) "src/a.ts" r.content).2 else taken shelf

theorem denied_rewritten {shelf : Shelf} (opened : shelf.denied = []) (r : Rewrite) :
    (rewritten shelf r).denied = [] := by
  unfold rewritten
  split
  · exact (Shelf.write_of_open (show (taken shelf).denied = [] from opened) _ _).2
  · exact opened

/-- A rewrite is written if it changes anything. -/
theorem carryOut_eq {shelf : Shelf} (ready : IsReady shelf) {d : Dictionary} {entries : List Entry}
    {r : Rewrite} (made : RewriteRules.rewrite (.ofSettings project.settings) "src/a.ts"
      source.toList entries d = .ok r) :
    ∃ outcome, project.carryOut (project.scene occasion launch false d) (taken shelf) "src/a.ts"
      entries = (outcome, rewritten shelf r) := by
  have path := Places.module places
  have read : Storage.read (taken shelf) (Path.join project.root "src/a.ts") = .ok source :=
    path.symm ▸ ready.read
  have plan : project.plan (project.scene occasion launch false d) (taken shelf) "src/a.ts" entries =
      if r.isChanged then .rewritten r else .unchanged r := plan_of_rewrite rfl rfl read made
  rw [carryOut, plan, rewritten]
  cases changed : r.isChanged with
  | false => exact ⟨.unchanged r, rfl⟩
  | true =>
    have bare : (project.scene occasion launch false d).backups.save (taken shelf) "src/a.ts" =
        (.ok none, taken shelf) := if_neg (by exact Bool.false_ne_true)
    have written := (Shelf.write_of_open (show (taken shelf).denied = [] from ready.opened)
      "src/a.ts" r.content).1
    refine ⟨.rewritten r, ?_⟩
    simp only [if_true]
    rw [if_neg (by exact Bool.false_ne_true), saveRewrite, path, bare]
    dsimp only
    rw [← Prod.eta (Storage.write (taken shelf) _ _), written]

/-- A replacement by one of the manifests. -/
theorem run_replacement {shelf : Shelf} (ready : IsReady shelf) {d : Dictionary}
    (loaded : project.dictionary.loadAll (taken shelf) ["en"] = (none, d)) (spaceName : String)
    {r : Rewrite} (made : RewriteRules.rewrite (.ofSettings project.settings) "src/a.ts"
      source.toList (manifest spaceName).entries d = .ok r) :
    ∃ y, ((project.replacement occasion launch false none).locked project.outputDirectory
      (manifest spaceName)).run shelf =
        (.ok y, Storage.unlock (reported (rewritten shelf r) y.report) ".i18n-lift") := by
  have load : project.loadDictionary (taken shelf) ["en"] "Cannot load the source locale: " =
      .ok d := by
    rw [loadDictionary, loaded]
  obtain ⟨outcome, carried⟩ := carryOut_eq ready made
  have work : ∃ y, (project.replaceWork occasion launch false (manifest spaceName)).run
      (taken shelf) = (.ok y, reported (rewritten shelf r) y.report) := by
    rw [replaceWork, Task.run_look, show project.settings.sourceLocale = "en" from rfl, load]
    dsimp only
    rw [Task.run_andThen, run_filesTask, byFile_eq, carryOutAll, carryOutAll, carried,
      Task.run_look, Task.run_andThen, Places.output places,
      run_saveTask_eq (denied_rewritten ready.opened r)]
    exact ⟨_, rfl⟩
  obtain ⟨y, work⟩ := work
  have work : ((project.replacement occasion launch false none).work (manifest spaceName)).run
      (taken shelf) = _ := work
  refine ⟨y, ?_⟩
  rw [Places.output places, Errand.locked, Task.run_change, lock_eq ready]
  dsimp only
  rw [Task.run_closing, work]

theorem select_eq {shelf : Shelf} (below : Storage.filesBelow shelf "src" = ["a.ts"]) :
    Selection.select shelf "" project.settings = .ok ([file], []) := by
  have sources : Selection.ofRoot shelf "" project.settings [] "src" = ([file], []) := by
    have there : Storage.isDirectory shelf "src" = true := by
      show (!(Storage.filesBelow shelf "src").isEmpty) = true
      rw [below]
      rfl
    rw [Selection.ofRoot, Places.scanned places, if_pos there, below]
    decide +kernel
  exact Selection.select_of_rising rfl rfl sources (List.pairwise_singleton ..)

/-- The module brings its text. -/
def tallied : Tally := (Tally.start void).addFound rules file [.candidate candidate]

theorem tally_eq {shelf : Shelf} (read : Storage.read shelf "src/a.ts" = .ok source) :
    tally rules false shelf [file] void = tallied := by
  have read : Storage.read shelf file.path = .ok source := read
  exact tally_singleton read occurrences_eq void

/-- The text gets its key, and the document is to be written. -/
theorem tallied_eq : tallied.entries = (manifest "c").entries ∧
    (tallied.dictionary.propagate "en" []).dictionary.isDirty "en" = true ∧
    (tallied.dictionary.propagate "en" []).dictionary.documentPath "en" = "src/messages/en.json" ∧
    (tallied.dictionary.propagate "en" []).dictionary.render "en" = document := by
  decide +kernel

theorem load_void {shelf : Shelf} (absent : Storage.holds shelf "src/messages/en.json" = false) :
    project.loadDictionary (taken shelf) project.settings.locales
      "Cannot load locale documents: " = .ok void := by
  have absent : Storage.holds (taken shelf) (project.dictionary.documentPath "en") = false := by
    rw [Places.document places]
    exact absent
  rw [loadDictionary, show project.settings.locales = ["en"] from rfl, Dictionary.loadAll,
    Dictionary.load_of_absent _ absent]
  rfl

/-- The shelf at work with the document, and then with the manifest. -/
def filed (shelf : Shelf) : Shelf := (Storage.write (taken shelf) "src/messages/en.json" document).2

def listed (shelf : Shelf) : Shelf :=
  (Storage.write (filed shelf) ".i18n-lift/manifest.json" (manifest "c").text).2

/-- The document is written once the key is propagated. -/
theorem run_flushTask_eq {shelf : Shelf} (opened : shelf.denied = []) :
    (Dictionary.flushTask (project.backups occasion) project.settings.locales
      ⟨(tallied.dictionary.propagate "en" []).dictionary, taken shelf, [], []⟩).run (taken shelf) =
        (Dictionary.Flush.settle
          ⟨(tallied.dictionary.propagate "en" []).dictionary, filed shelf, [], []⟩ "en",
          filed shelf) := by
  obtain ⟨-, dirty, path, shown⟩ := tallied_eq
  have written := (Shelf.write_of_open (show (taken shelf).denied = [] from opened)
    "src/messages/en.json" document).1
  have step : Dictionary.Flush.step (project.backups occasion) "en"
      ⟨(tallied.dictionary.propagate "en" []).dictionary, taken shelf, [], []⟩ =
        Dictionary.Flush.settle
          ⟨(tallied.dictionary.propagate "en" []).dictionary, filed shelf, [], []⟩ "en" := by
    have bare : (project.backups occasion).save (taken shelf) "src/messages/en.json" =
        (.ok none, taken shelf) := if_neg (by exact Bool.false_ne_true)
    rw [Dictionary.Flush.step, if_pos dirty]
    dsimp only
    rw [path, bare]
    dsimp only
    rw [shown, ← Prod.eta (Storage.write (taken shelf) _ _), written, filed]
  have run := Dictionary.run_flushTask (project.backups occasion) ["en"]
    ⟨(tallied.dictionary.propagate "en" []).dictionary, taken shelf, [], []⟩
  rw [List.foldl_cons, List.foldl_nil, step] at run
  exact run

/-- All that an extraction writes can be written. -/
theorem run_extractWork_eq {shelf : Shelf} (ready : IsReady shelf)
    (absent : Storage.holds shelf "src/messages/en.json" = false) :
    ∃ x, (project.extractWork occasion false none ([file], rules)).run (taken shelf) =
      (.ok x, reported (listed shelf) x.report) := by
  have opened := (Shelf.write_of_open (show (taken shelf).denied = [] from ready.opened)
    "src/messages/en.json" document).2
  obtain ⟨saved, opened⟩ := Shelf.write_of_open opened ".i18n-lift/manifest.json" (manifest "c").text
  have sorted : Manifest.ofEntries tallied.entries = manifest "c" := by
    rw [tallied_eq.1, manifest, Manifest.ofEntries, List.mergeSort_singleton]
  have found : tally rules false (taken shelf) [file] void = tallied := tally_eq ready.read
  rw [extractWork, Task.run_look, load_void absent]
  dsimp only
  rw [Task.run_look, found, Task.run_look, Task.run_andThen,
    show project.settings.sourceLocale = "en" from rfl,
    show project.settings.targetLocales = [] from rfl, run_flushTask_eq ready.opened]
  dsimp only
  rw [finishTask, Task.run_change, sorted, Places.manifest places, filed, saved, Task.run_andThen,
    Places.output places, run_saveTask_eq opened]
  exact ⟨_, rfl⟩

/-- An extraction where there is no document yet. -/
theorem run_extraction {shelf : Shelf} (ready : IsReady shelf)
    (below : Storage.filesBelow shelf "src" = ["a.ts"])
    (absent : Storage.holds shelf "src/messages/en.json" = false) :
    ∃ x after, ((project.extraction occasion false none).task project.outputDirectory).run shelf =
      (.ok x, after) ∧ IsReady after ∧
      Storage.read after ".i18n-lift/manifest.json" = .ok (manifest "c").text ∧
      Storage.read after "src/messages/en.json" = .ok document := by
  have looked : (project.extraction occasion false none).look shelf = .ok ([file], rules) := by
    show project.selectFiles shelf = _
    rw [selectFiles, show project.root = "" from rfl, select_eq below]
    rfl
  have opened : (taken shelf).denied = [] := ready.opened
  obtain ⟨written, opened⟩ := Shelf.write_of_open opened "src/messages/en.json" document
  obtain ⟨saved, opened⟩ := Shelf.write_of_open opened ".i18n-lift/manifest.json" (manifest "c").text
  obtain ⟨x, work⟩ := run_extractWork_eq ready absent
  have work : ((project.extraction occasion false none).work ([file], rules)).run (taken shelf) =
    (.ok x, reported (listed shelf) x.report) := work
  refine ⟨x, Storage.unlock (reported (listed shelf) x.report) ".i18n-lift", ?_, ⟨?_, ?_, ?_⟩, ?_, ?_⟩
  · rw [Errand.run_task looked, Places.output places, Errand.locked, Task.run_change, lock_eq ready]
    dsimp only
    rw [Task.run_closing, work]
  · exact denied_reported opened x.report
  · have locked : (listed shelf).locked = [".i18n-lift"] :=
      (Shelf.locked_write ..).trans (Shelf.locked_write ..)
    show (reported (listed shelf) x.report).locked.erase ".i18n-lift" = []
    rw [locked_reported, locked]
    rfl
  · show Storage.read (reported (listed shelf) x.report) "src/a.ts" = _
    rw [read_reported _ _ _ (Places.reports places _ (by simp))]
    exact ((Shelf.read_write_of_ne _ _ _ _ (Places.sources places _ (by simp))).trans
      (Shelf.read_write_of_ne _ _ _ _ (Places.sources places _ (by simp)))).trans ready.read
  · show Storage.read (reported (listed shelf) x.report) _ = _
    rw [read_reported _ _ _ (Places.reports places _ (by simp))]
    exact Shelf.read_of_write _ _ _ saved
  · show Storage.read (reported (listed shelf) x.report) _ = _
    rw [read_reported _ _ _ (Places.reports places _ (by simp))]
    exact (Shelf.read_write_of_ne _ _ _ _ (Places.documents places)).trans
      (Shelf.read_of_write _ _ _ written)

/-- The module and the manifest. -/
def start : Shelf :=
  ⟨[("src/a.ts", source), (".i18n-lift/manifest.json", (manifest "x").text)], [], []⟩

theorem isReady_start : IsReady start := ⟨rfl, rfl, rfl⟩

theorem filesBelow_start : Storage.filesBelow start "src" = ["a.ts"] ∧
    Storage.holds start "src/messages/en.json" = false := by
  rw [Shelf.filesBelow_eq, Shelf.holds_eq, start]
  simp only [List.map_cons, List.map_nil]
  decide +kernel

theorem readManifest_eq {shelf : Shelf} {spaceName : String}
    (read : Storage.read shelf ".i18n-lift/manifest.json" = .ok (manifest spaceName).text) :
    project.readManifest none shelf = .ok (manifest spaceName) := by
  rw [← Places.manifest places] at read
  exact readManifest_eq_ok (LawfulStorage.holds_of_read _ _ _ read) read (ofText?_text spaceName)

theorem loadAll_known {shelf : Shelf} (read : Storage.read shelf "src/messages/en.json" = .ok document) :
    project.dictionary.loadAll shelf ["en"] = (none, known) := by
  have there := LawfulStorage.holds_of_read _ _ _ read
  rw [← Places.document places] at read there
  rw [Dictionary.loadAll, Dictionary.load_of_read _ there read (ofDocument_eq _)]
  rfl

theorem loadAll_void {shelf : Shelf} (absent : Storage.holds shelf "src/messages/en.json" = false) :
    project.dictionary.loadAll shelf ["en"] = (none, void) := by
  rw [← Places.document places] at absent
  rw [Dictionary.loadAll, Dictionary.load_of_absent _ absent]
  rfl

/-- Where the key is known, a replacement puts the lookup in. -/
theorem run_replacement_known {shelf : Shelf} (ready : IsReady shelf)
    (read : Storage.read shelf "src/messages/en.json" = .ok document) {spaceName : String}
    (listed : spaceName ∈ ["c", "x"]) :
    ∃ y after, ((project.replacement occasion launch false none).locked project.outputDirectory
      (manifest spaceName)).run shelf = (.ok y, after) ∧
      Storage.read after "src/a.ts" = .ok (content (lookup spaceName)) := by
  have loaded : project.dictionary.loadAll (taken shelf) ["en"] = (none, known) := loadAll_known read
  obtain ⟨y, ran⟩ := run_replacement ready loaded spaceName (rewrite_known spaceName listed)
  have changed : (rewrite (lookup spaceName)).isChanged = true := rfl
  rw [rewritten, if_pos changed] at ran
  refine ⟨y, _, ran, ?_⟩
  have opened : (taken shelf).denied = [] := ready.opened
  show Storage.read (reported _ y.report) "src/a.ts" = _
  rw [read_reported _ _ _ (Places.reports places _ (by simp))]
  exact Shelf.read_of_write _ _ _ (Shelf.write_of_open opened _ _).1

/-- Without the key, a replacement leaves everything to a later extraction. -/
theorem run_replacement_void :
    ∃ y after, ((project.replacement occasion launch false none).task project.outputDirectory).run
      start = (.ok y, after) ∧ IsReady after ∧ Storage.filesBelow after "src" = ["a.ts"] ∧
      Storage.holds after "src/messages/en.json" = false := by
  obtain ⟨r, made, idle⟩ := rewrite_void
  obtain ⟨-, absent⟩ := filesBelow_start
  have loaded : project.dictionary.loadAll (taken start) ["en"] = (none, void) :=
    loadAll_void absent
  obtain ⟨y, ran⟩ := run_replacement isReady_start loaded "x" made
  rw [rewritten, idle, if_neg Bool.false_ne_true] at ran
  have looked : (project.replacement occasion launch false none).look start =
      .ok (manifest "x") := readManifest_eq rfl
  refine ⟨y, _, (Errand.run_task looked).trans ran, ⟨?_, ?_, rfl⟩, ?_⟩
  · exact @denied_reported (taken start) rfl y.report
  · show (reported (taken start) y.report).locked.erase ".i18n-lift" = []
    rw [locked_reported]
    rfl
  · have paths : (reported (taken start) y.report).texts.map Prod.fst =
        ["src/a.ts", ".i18n-lift/manifest.json", ".i18n-lift/report.json", ".i18n-lift/report.md"] := by
      rw [reported, taken, start]
      generalize (manifest "x").text = old
      generalize y.report.text = record
      generalize y.report.page = page
      rfl
    rw [Shelf.filesBelow_eq, Shelf.holds_eq]
    show (((reported (taken start) y.report).texts.map Prod.fst).filterMap _ = _) ∧
      ((reported (taken start) y.report).texts.map Prod.fst).any _ = false
    rw [paths]
    decide +kernel

/-- The replacement reads its manifest before the extraction, and works after it. -/
theorem exists_interleaving : ∃ turns x y after,
    (project.duo occasion occasion launch false false none none start).run turns =
      ⟨after, .done (.ok x), .done (.ok y)⟩ ∧
    Storage.read after "src/a.ts" = .ok (content (lookup "x")) := by
  obtain ⟨below, absent⟩ := filesBelow_start
  obtain ⟨x, between, extracted, ready, -, read⟩ := run_extraction isReady_start below absent
  have listed : "x" ∈ ["c", "x"] := by simp
  obtain ⟨y, after, replaced, rewritten⟩ := run_replacement_known ready read listed
  have looked : (project.replacement occasion launch false none).look start =
      .ok (manifest "x") := readManifest_eq rfl
  let one := (project.extraction (σ := Shelf) occasion false none).task project.outputDirectory
  let other := (project.replacement (σ := Shelf) occasion launch false none).locked
    project.outputDirectory (manifest "x")
  have first : (project.duo occasion occasion launch false false none none start).run [false] =
      ⟨start, one, other⟩ := by
    rw [Duo.run, List.foldl_cons, List.foldl_nil, Duo.move, duo, Errand.move_task looked]
  obtain ⟨turns, second⟩ := Duo.exists_turns start one other
  rw [show one.run start = _ from extracted] at second
  obtain ⟨more, third⟩ := Duo.exists_other_turns between (.done (.ok x) : Task Shelf
    (Except RunError Extraction)) other
  rw [show other.run between = _ from replaced] at third
  refine ⟨[false] ++ turns ++ more, x, y, after, ?_, rewritten⟩
  rw [Duo.run_append, Duo.run_append, first, second]
  exact third

end Overtaken

open Overtaken

theorem concurrent_runs_follow_overtaken :
    project.settings.dryRun = false ∧ ∃ turns x y after,
      (project.duo occasion occasion launch false false none none start).run turns =
        ⟨after, .done (.ok x), .done (.ok y)⟩ ∧
      Storage.read after "src/a.ts" = .ok (content (lookup "x")) ∧
      ((∃ between, (project.extract occasion false none).Gives start x between ∧
        ∃ old ∈ project.extractionTrail occasion false none start, ∃ manifest,
          project.readManifest none old = .ok manifest ∧
          (Run.locked project.outputDirectory
            (project.replaceFiles occasion launch false manifest)).Gives between y after) ∨
      (∃ between, (project.replace occasion launch false none).Gives start y between ∧
        ∃ old ∈ project.replacementTrail occasion launch false none start, ∃ files rules,
          project.selectFiles old = .ok (files, rules) ∧
          (Run.locked project.outputDirectory
            (project.extractFiles occasion rules false none files)).Gives between x after)) := by
  obtain ⟨turns, x, y, after, ended, rewritten⟩ := exists_interleaving
  refine ⟨rfl, turns, x, y, after, ended, rewritten, ?_⟩
  rcases concurrent_runs_follow project rfl occasion occasion launch false false none none start
    after turns x y ended with follows | follows
  · obtain ⟨between, first, old, passed, manifest, read, second, -⟩ := follows
    exact Or.inl ⟨between, first, old, passed, manifest, read, second⟩
  · obtain ⟨between, first, old, passed, files, rules, chosen, second, -⟩ := follows
    exact Or.inr ⟨between, first, old, passed, files, rules, chosen, second⟩

/-- A replacement that reads its manifest before an extraction gets the lock, and gets the lock after
it, puts a lookup into the module that neither order of the two commands puts there. -/
theorem concurrent_runs_not_serial :
    project.settings.dryRun = false ∧
    (∃ turns x y after, (project.duo occasion occasion launch false false none none start).run turns =
        ⟨after, .done (.ok x), .done (.ok y)⟩ ∧
      Storage.read after "src/a.ts" = .ok (content "tX('c.a.a_b')")) ∧
    (∃ x between y after, (project.extract occasion false none).Gives start x between ∧
      (project.replace occasion launch false none).Gives between y after ∧
      Storage.read after "src/a.ts" = .ok (content "tC('a.a_b')")) ∧
    (∃ y between x after, (project.replace occasion launch false none).Gives start y between ∧
      (project.extract occasion false none).Gives between x after ∧
      Storage.read after "src/a.ts" = .ok (content "\"A b\"")) := by
  obtain ⟨below, absent⟩ := filesBelow_start
  refine ⟨rfl, exists_interleaving, ?_, ?_⟩
  · obtain ⟨x, between, extracted, ready, listed, read⟩ := run_extraction isReady_start below absent
    have either : "c" ∈ ["c", "x"] := by simp
    obtain ⟨y, after, replaced, rewritten⟩ := run_replacement_known ready read either
    have looked : (project.replacement occasion launch false none).look between =
        .ok (manifest "c") := readManifest_eq listed
    exact ⟨x, between, y, after, gives_of_does (extract_does rfl) extracted,
      gives_of_does (replace_does rfl) ((Errand.run_task looked).trans replaced), rewritten⟩
  · obtain ⟨y, between, replaced, ready, below, absent⟩ := run_replacement_void
    obtain ⟨x, after, extracted, ready, -⟩ := run_extraction ready below absent
    exact ⟨y, between, x, after, gives_of_does (replace_does rfl) replaced,
      gives_of_does (extract_does rfl) extracted, ready.read⟩

end Project

end Phrasebook
