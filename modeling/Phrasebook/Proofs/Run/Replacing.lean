import Phrasebook.Proofs.Manifest.Order
import Phrasebook.Proofs.Run.Crews
import Phrasebook.Proofs.Run.Overtaking

/-!
# Files that are replaced side by side

The files of a manifest are read, rewritten, put aside and written by tasks that take turns. Each
file and its copy belong to one task, so each file ends as it ends alone, in whatever order the
turns go and whatever fails: as it was, or with the content that is reported for it.
-/

namespace Phrasebook

open IndependentStorage (cell)

variable {σ : Type} [Storage σ] [IndependentStorage σ]

namespace Backups

variable (b : Backups) {storage : σ} {path text : String}

/-- What can be read is there, so it is put aside if anything is. -/
theorem save_of_read (read : Storage.read storage path = .ok text) : b.save storage path =
    if b.enabled then
      ((Storage.copy storage path (b.place path)).1.map fun _ => some (b.place path),
        (Storage.copy storage path (b.place path)).2)
    else (.ok Option.none, storage) := by
  rw [save, IndependentStorage.holds_of_read storage path text read, Bool.and_true]

/-- A file stays as it is when it is put aside, and its copy holds what the file holds. -/
theorem save_keeps (read : Storage.read storage path = .ok text)
    (apart : Path.components path.toList ≠ Path.components (b.place path).toList) :
    cell (b.save storage path).2 (Path.components path.toList) =
        cell storage (Path.components path.toList) ∧
      ∀ kept, (b.save storage path).1 = .ok kept → b.enabled = true →
        Storage.read (b.save storage path).2 (b.place path) = .ok text := by
  rw [b.save_of_read read]
  split
  next =>
    refine ⟨IndependentStorage.cell_copy _ _ _ _ apart, fun kept saved _ => ?_⟩
    obtain ⟨⟨⟩, copied, -⟩ := map_eq_ok_iff.mp saved
    exact (IndependentStorage.read_of_copy storage path _ copied).trans read
  next bare => exact ⟨rfl, fun _ _ enabled => absurd enabled bare⟩

/-- Putting a file aside is alike where the file and its copy are. -/
theorem save_congr {own : Place → Prop} {other : σ} (agree : Agree own storage other)
    (read : Storage.read storage path = .ok text) (origin : own (Path.components path.toList))
    (mine : b.enabled = true → own (Path.components (b.place path).toList)) :
    (b.save other path).1 = (b.save storage path).1 ∧
      Agree own (b.save storage path).2 (b.save other path).2 ∧
      ∀ place, ¬ own place → cell (b.save other path).2 place = cell other place := by
  have there := IndependentStorage.read_congr storage other path (agree _ origin)
  rw [b.save_of_read read, b.save_of_read (there.symm.trans read)]
  split
  next enabled =>
    obtain ⟨result, alike, elsewhere⟩ := agree.copy path (b.place path) origin (mine enabled)
    exact ⟨congrArg (Except.map _) result, alike, elsewhere⟩
  next => exact ⟨rfl, agree, fun _ _ => rfl⟩

end Backups

namespace Manifest

/-- A file that a manifest names. -/
@[ext] structure Named (m : Manifest) where
  name : String
  listed : name ∈ m.files
  deriving DecidableEq

def entriesOf (m : Manifest) (file : String) : List Entry :=
  m.entries.filter fun e => e.candidate.file == file

/-- The files, in order. -/
def named (m : Manifest) : List m.Named := m.files.attach.map fun file => ⟨file.1, file.2⟩

variable (m : Manifest)

theorem mem_named (file : m.Named) : file ∈ m.named :=
  List.mem_map.mpr ⟨⟨file.name, file.listed⟩, List.mem_attach _ _, rfl⟩

theorem nodup_named : m.named.Nodup := by
  refine (List.nodup_attach.mpr m.nodup_files).map fun a b same => Subtype.ext ?_
  exact congrArg Named.name same

theorem byFile_eq : m.byFile = m.named.map fun file => (file.name, m.entriesOf file.name) := by
  conv_lhs => rw [byFile, ← List.attach_map_subtype_val m.files, List.map_map]
  rw [named, List.map_map]
  rfl

end Manifest

namespace Project

/-! ## One file -/

section

variable (p : Project) (b : Backups)

/-- The place of a file. -/
def source (file : String) : Place := Path.components (Path.join p.root file).toList

/-- The place of its copy. -/
def aside (file : String) : Place := Path.components (b.place (Path.join p.root file)).toList

/-- The places that a file's task writes to. -/
def Owns (file : String) (place : Place) : Prop :=
  place = p.source file ∨
    b.enabled = true ∧ p.settings.dryRun = false ∧ place = p.aside b file

/-- What has become of a file: it is as it was, or it holds the content that is reported, and its
copy what it held before. A dry run only reports. -/
inductive Settles (before after : σ) (file : String) : FileOutcome → Prop where
  | unchanged (r : Rewrite) (same : cell after (p.source file) = cell before (p.source file)) :
    Settles before after file (.unchanged r)
  | failed (f : Failure) (same : cell after (p.source file) = cell before (p.source file)) :
    Settles before after file (.failed f)
  | notProcessed (same : cell after (p.source file) = cell before (p.source file)) :
    Settles before after file (.notProcessed file)
  | rehearsed (r : Rewrite) (dry : p.settings.dryRun = true) (named : r.file = file)
      (same : cell after (p.source file) = cell before (p.source file)) :
    Settles before after file (.rewritten r)
  | rewritten (r : Rewrite) (old : String) (wet : p.settings.dryRun = false) (named : r.file = file)
      (was : Storage.read before (Path.join p.root file) = .ok old)
      (now : Storage.read after (Path.join p.root file) = .ok r.content)
      (copied : b.enabled = true →
        Storage.read after (b.place (Path.join p.root file)) = .ok old) :
    Settles before after file (.rewritten r)

end

section

variable {p : Project} {scene : ReplacementScene} {b : Backups} {file : String}
  {entries : List Entry}

theorem Settles.congr {before after later : σ} {outcome : FileOutcome}
    (settles : p.Settles b before after file outcome) (agree : Agree (p.Owns b file) after later) :
    p.Settles b before later file outcome := by
  have file := agree _ (Or.inl rfl)
  cases settles with
  | unchanged r same => exact .unchanged r (file.symm.trans same)
  | failed f same => exact .failed f (file.symm.trans same)
  | notProcessed same => exact .notProcessed (file.symm.trans same)
  | rehearsed r dry named same => exact .rehearsed r dry named (file.symm.trans same)
  | rewritten r old wet named was now copied =>
    have now := (IndependentStorage.read_congr _ _ _ file).symm.trans now
    exact .rewritten r old wet named was now fun enabled =>
      (IndependentStorage.read_congr _ _ _ (agree _ (Or.inr ⟨enabled, wet, rfl⟩))).symm.trans
        (copied enabled)

omit [IndependentStorage σ] in
theorem plan_congr {a b : σ}
    (same : Storage.read a (Path.join p.root file) = Storage.read b (Path.join p.root file)) :
    p.plan scene a file entries = p.plan scene b file entries := by
  rw [plan, plan, same]

omit [IndependentStorage σ] in
/-- What is planned to be rewritten can be read, and is reported under its name, whatever a
formatter makes of it. -/
theorem read_of_plan {storage : σ} {r : Rewrite}
    (planned : p.plan scene storage file entries = .rewritten r) :
    r.file = file ∧ ∃ text, Storage.read storage (Path.join p.root file) = .ok text := by
  rcases p.plan_cases scene storage file entries with
    ⟨text, r', read, ⟨bare, rewritten, laidOut⟩, decided⟩ | ⟨-, other⟩ | ⟨f, other⟩
  · obtain ⟨tree, -, spliced⟩ := (RewriteRules.rewrite_eq_ok_iff ..).mp rewritten
    have named : bare.file = file := by
      rcases RewriteRules.make_cases _ _ _ spliced with ⟨-, rfl⟩ | ⟨-, content, -, -, -, rfl⟩ <;>
        exact RewriteRules.edits_file ..
    rw [decided] at planned
    split at planned <;> cases planned
    exact ⟨laidOut ▸ named, text, read⟩
  · cases other.symm.trans planned
  · cases other.symm.trans planned

omit [IndependentStorage σ] in
theorem cancelled_of_plan {storage : σ} {other : String}
    (planned : p.plan scene storage file entries = .notProcessed other) :
    scene.cancelled = true ∧ other = file := by
  rcases p.plan_cases scene storage file entries with
    ⟨text, r, -, -, decided⟩ | ⟨stopped, same⟩ | ⟨f, failed⟩
  · rw [decided] at planned
    split at planned <;> cases planned
  · cases same.symm.trans planned
    exact ⟨stopped, rfl⟩
  · cases failed.symm.trans planned

/-- Where no rewrite is planned, nothing happens. -/
theorem settles_plan {storage : σ} (idle : ∀ r, p.plan scene storage file entries ≠ .rewritten r) :
    p.Settles b storage storage file (p.plan scene storage file entries) := by
  cases planned : p.plan scene storage file entries with
  | rewritten r => exact absurd planned (idle r)
  | unchanged r => exact .unchanged r rfl
  | failed f => exact .failed f rfl
  | notProcessed other => exact (cancelled_of_plan planned).2 ▸ .notProcessed rfl

/-- A file is written as a whole, after its copy, or stays as it was. -/
theorem settles_carryOut (apart : p.source file ≠ p.aside scene.backups file) (storage : σ) :
    p.Settles scene.backups storage (p.carryOut scene storage file entries).2 file
      (p.carryOut scene storage file entries).1 := by
  by_cases idle : ∀ r, p.plan scene storage file entries ≠ .rewritten r
  · have same : p.carryOut scene storage file entries =
        (p.plan scene storage file entries, storage) := by
      unfold carryOut
      split
      next r planned => exact absurd planned (idle r)
      next => rfl
    rw [same]
    exact settles_plan idle
  · -- The copy is the first to be written, and the file is only written if the copy is.
    push Not at idle
    obtain ⟨r, planned⟩ := idle
    obtain ⟨named, old, was⟩ := read_of_plan planned
    obtain ⟨kept, copied⟩ := scene.backups.save_keeps was apart
    rw [carryOut, planned]
    dsimp only
    split
    next dry => exact .rehearsed r dry named rfl
    next wet =>
      rw [saveRewrite]
      cases saved : scene.backups.save storage (Path.join p.root file) with
      | mk result between =>
        rw [saved] at kept copied
        cases result with
        | error e => exact .failed _ kept
        | ok copy =>
          have elsewhere := IndependentStorage.cell_write between (Path.join p.root file) r.content
            _ apart.symm
          have stays := IndependentStorage.cell_of_error between (Path.join p.root file) r.content
          have now := IndependentStorage.read_of_write between (Path.join p.root file) r.content
          dsimp only
          cases written : Storage.write between (Path.join p.root file) r.content with
          | mk result after =>
            rw [written] at elsewhere stays now
            cases result with
            | error e => exact .failed _ ((stays e _ rfl).trans kept)
            | ok =>
              exact .rewritten r old (by simpa using wet) named was (now rfl) fun enabled =>
                (IndependentStorage.read_congr _ _ _ elsewhere).trans (copied copy rfl enabled)

omit [IndependentStorage σ] in
/-- A file is left out only where the run is cancelled before its turn. -/
theorem carryOut_eq_notProcessed_iff (storage : σ) :
    (p.carryOut scene storage file entries).1 = .notProcessed file ↔ scene.cancelled = true := by
  constructor
  · intro left
    unfold carryOut at left
    split at left
    next =>
      split at left
      next => cases left
      next =>
        unfold saveRewrite at left
        split at left
        next => cases left
        next => split at left <;> cases left
    next => exact (cancelled_of_plan left).1
  · intro stopped
    have planned : p.plan scene storage file entries = .notProcessed file := by
      rw [plan, stopped, if_pos rfl]
    rw [carryOut, planned]

/-- The task of a file keeps to the file and its copy. -/
theorem keepsTo_fileTask (storage : σ) :
    (p.fileTask scene file entries).KeepsTo (p.Owns scene.backups file) storage := by
  refine Task.keepsTo_look (fun other agree => (plan_congr
    (IndependentStorage.read_congr _ _ _ (agree _ (Or.inl rfl)))).symm) ?_
  cases planned : p.plan scene storage file entries with
  | rewritten r =>
    dsimp only
    split
    next => exact trivial
    next wet =>
      obtain ⟨-, text, read⟩ := read_of_plan planned
      refine Task.keepsTo_change (fun other agree => scene.backups.save_congr agree read
        (Or.inl rfl) fun enabled => Or.inr ⟨enabled, by simpa using wet, rfl⟩) ?_
      split
      next => exact trivial
      next =>
        refine Task.keepsTo_change (fun other agree => agree.write _ _ (Or.inl rfl)) ?_
        split <;> exact trivial
  | unchanged | failed | notProcessed => exact trivial

omit [IndependentStorage σ] in
/-- It reads, copies and writes at most once. -/
theorem endsWithin_fileTask :
    (p.fileTask scene file entries : Task σ FileOutcome).EndsWithin 3 := by
  intro storage
  dsimp only
  split
  next r planned =>
    split
    next => exact trivial
    next =>
      intro before
      dsimp only
      split
      next => exact trivial
      next =>
        intro between
        dsimp only
        split <;> exact trivial
  next => exact trivial

end

/-! ## Many files -/

/-- The files of a manifest have names of their own below the project, and none of them lies in the
output directory. -/
structure StandsApart (p : Project) (manifest : Manifest) : Prop where
  plain : ∀ file ∈ manifest.files, Path.IsPlain file
  distinct : ∀ file ∈ manifest.files, ∀ other ∈ manifest.files,
    Path.components file.toList = Path.components other.toList → file = other
  outside : ∀ file ∈ manifest.files,
    ¬ Path.components p.outputDirectory.toList <+: p.source file

theorem prefix_aside (p : Project) (occasion : Occasion) (file : String) :
    Path.components p.outputDirectory.toList <+: p.aside (p.backups occasion) file := by
  have plain : Path.IsPlain "backups" := by decide
  have inside := (p.backups occasion).prefix_place (Path.join p.root file)
  rw [show (p.backups occasion).directory = Path.join p.outputDirectory "backups" from rfl,
    plain.components_join] at inside
  exact (List.prefix_append _ _).trans inside

section

variable {p : Project} {manifest : Manifest}

theorem StandsApart.source_ne_aside (apart : p.StandsApart manifest) (occasion : Occasion)
    (file : manifest.Named) (other : String) :
    p.source file.name ≠ p.aside (p.backups occasion) other := by
  intro same
  have inside := p.prefix_aside occasion other
  rw [← same] at inside
  exact apart.outside file.name file.listed inside

/-- No place belongs to two of the files. -/
theorem StandsApart.eq_of_owns (apart : p.StandsApart manifest) (occasion : Occasion)
    (a b : manifest.Named) (place : Place) (mine : p.Owns (p.backups occasion) a.name place)
    (yours : p.Owns (p.backups occasion) b.name place) : a = b := by
  have plain := apart.plain a.name a.listed
  have plain' := apart.plain b.name b.listed
  refine Manifest.Named.ext (apart.distinct a.name a.listed b.name b.listed ?_)
  -- A copy lies in the output directory and a file does not, so two that meet are of one kind.
  rcases mine with mine | ⟨-, -, mine⟩ <;> rcases yours with yours | ⟨-, -, yours⟩ <;>
    have same := mine.symm.trans yours
  · rw [source, source, plain.components_join, plain'.components_join] at same
    exact List.append_cancel_left same
  · exact absurd same (apart.source_ne_aside occasion a b.name)
  · exact absurd same.symm (apart.source_ne_aside occasion b a.name)
  · exact (p.backups occasion).components_eq_of_place plain plain' same

section

variable (p) (occasion : Occasion) (launch : Launcher) (d : Dictionary)
  (stop : manifest.Named → Bool) (storage : σ)

/-- What a file comes to when it is the only one. -/
def alone (file : manifest.Named) : FileOutcome × σ :=
  p.carryOut (p.scene occasion launch (stop file) d) storage file.name
    (manifest.entriesOf file.name)

/-- The tasks of all files; the run may be cancelled before the turns of any of them. -/
def crew : Crew σ manifest.Named FileOutcome where
  storage := storage
  tasks file := p.fileTask (p.scene occasion launch (stop file) d) file.name
    (manifest.entriesOf file.name)

variable {p} in
/-- Whatever the order of turns, each file comes to what it comes to alone, and leaves there what it
leaves alone. -/
theorem StandsApart.run_crew (apart : p.StandsApart manifest) (turns : List manifest.Named)
    (fair : ∀ file, 3 ≤ turns.count file) :
    ∃ after, (p.crew occasion launch d stop storage).run turns =
        ⟨after, fun file => .done (p.alone occasion launch d stop storage file).1⟩ ∧
      (∀ file : manifest.Named, Agree (p.Owns (p.backups occasion) file.name)
        (p.alone occasion launch d stop storage file).2 after) ∧
      ∀ place, (∀ file : manifest.Named, ¬ p.Owns (p.backups occasion) file.name place) →
        cell after place = cell storage place := by
  have alone (file : manifest.Named) :
      ((p.crew occasion launch d stop storage).tasks file).run storage =
        p.alone occasion launch d stop storage file := run_fileTask ..
  have keeps (file : manifest.Named) : ((p.crew occasion launch d stop storage).tasks file).KeepsTo
      (p.Owns (p.backups occasion) file.name) storage := by
    show Task.KeepsTo (p.Owns (p.scene occasion launch (stop file) d).backups file.name) _ storage
    exact keepsTo_fileTask storage
  have ends (file : manifest.Named) :
      ((p.crew occasion launch d stop storage).tasks file).EndsWithin 3 := endsWithin_fileTask
  obtain ⟨after, ran, agree, others⟩ :=
    Crew.run_eq (apart.eq_of_owns occasion) keeps ends fair
  refine ⟨after, ?_, fun file => alone file ▸ agree file, others⟩
  rw [ran]
  exact congrArg (Crew.mk after) (funext fun file =>
    congrArg (fun r => Task.done r.1) (alone file))

/-- What the files of a manifest have become: each what it becomes alone, a file as it was or with
the content that is reported for it, and nothing but files and copies has changed, in a dry run
nothing at all. -/
structure IsReplaced (after : σ) : Prop where
  alike : ∀ file : manifest.Named, cell after (p.source file.name) =
    cell (p.alone occasion launch d stop storage file).2 (p.source file.name)
  settled : ∀ file : manifest.Named, p.Settles (p.backups occasion) storage after file.name
    (p.alone occasion launch d stop storage file).1
  stopped : ∀ file : manifest.Named,
    (p.alone occasion launch d stop storage file).1 = .notProcessed file.name ↔ stop file = true
  others : ∀ place, (∀ file : manifest.Named, ¬ p.Owns (p.backups occasion) file.name place) →
    cell after place = cell storage place

/-- Whatever the order of turns, whatever fails and wherever the run is cancelled, files are
replaced as a whole or not at all, and come to what they come to alone. -/
theorem crew_settles (apart : p.StandsApart manifest) (turns : List manifest.Named)
    (fair : ∀ file, 3 ≤ turns.count file) :
    ∃ after, (p.crew occasion launch d stop storage).run turns =
        ⟨after, fun file => .done (p.alone occasion launch d stop storage file).1⟩ ∧
      p.IsReplaced occasion launch d stop storage after := by
  obtain ⟨after, ran, agree, others⟩ := apart.run_crew occasion launch d stop storage turns fair
  refine ⟨after, ran, fun file => (agree file _ (Or.inl rfl)).symm, fun file => ?_,
    fun file => carryOut_eq_notProcessed_iff storage, others⟩
  have apart : p.source file.name ≠
    p.aside (p.scene occasion launch (stop file) d).backups file.name :=
      apart.source_ne_aside occasion file file.name
  have settles : p.Settles (p.scene occasion launch (stop file) d).backups storage
      (p.alone occasion launch d stop storage file).2 file.name
      (p.alone occasion launch d stop storage file).1 := settles_carryOut apart storage
  exact settles.congr (agree file)

omit [IndependentStorage σ] in
/-- Files that have all of their turns at once are replaced one after the other. -/
theorem run_crew_inOrder (files : List manifest.Named) (once : files.Nodup) (cancelled : Bool)
    (c : Crew σ manifest.Named FileOutcome)
    (begun : ∀ file ∈ files, c.tasks file = p.fileTask (p.scene occasion launch cancelled d)
      file.name (manifest.entriesOf file.name)) :
    (c.run (files.flatMap (List.replicate 3))).storage =
        (p.carryOutAll (p.scene occasion launch cancelled d) c.storage
          (files.map fun file => (file.name, manifest.entriesOf file.name))).2 ∧
      files.map (c.run (files.flatMap (List.replicate 3))).tasks =
        (p.carryOutAll (p.scene occasion launch cancelled d) c.storage
          (files.map fun file => (file.name, manifest.entriesOf file.name))).1.map .done := by
  induction files generalizing c with
  | nil => exact ⟨rfl, rfl⟩
  | cons file files ih =>
    obtain ⟨new, once⟩ := List.nodup_cons.mp once
    obtain ⟨here, begun⟩ := List.forall_mem_cons.mp begun
    have ends : (c.tasks file).EndsWithin 3 := here ▸ endsWithin_fileTask
    have first := Crew.run_replicate ends
    rw [here, run_fileTask] at first
    have others := ih once (c.run (List.replicate 3 file)) fun other member => by
      rw [first]
      exact (Function.update_of_ne (ne_of_mem_of_not_mem member new) ..).trans (begun other member)
    have idle : file ∉ files.flatMap (List.replicate 3) := by simpa using new
    rw [List.flatMap_cons, Crew.run_append, List.map_cons, List.map_cons, carryOutAll,
      Crew.tasks_run_of_not_mem idle, others.1, others.2, first]
    exact ⟨rfl, congrArg (· :: _) (Function.update_self ..)⟩

omit [IndependentStorage σ] in
/-- One of the orders is that of a run with nothing else at work: the files one after the other. -/
theorem exists_turns_inOrder (cancelled : Bool) : ∃ turns : List manifest.Named,
    (∀ file, 3 ≤ turns.count file) ∧
      ((p.crew occasion launch d (fun _ => cancelled) storage).run turns).storage =
        (p.carryOutAll (p.scene occasion launch cancelled d) storage manifest.byFile).2 ∧
      manifest.named.map ((p.crew occasion launch d (fun _ => cancelled) storage).run turns).tasks =
        (p.carryOutAll (p.scene occasion launch cancelled d) storage
          manifest.byFile).1.map .done := by
  refine ⟨manifest.named.flatMap (List.replicate 3), fun file => ?_, ?_⟩
  · rw [← List.replicate_sublist_iff]
    exact List.sublist_flatten_of_mem (List.mem_map_of_mem (manifest.mem_named file))
  · rw [manifest.byFile_eq]
    exact p.run_crew_inOrder occasion launch d manifest.named manifest.nodup_named cancelled _
      fun _ _ => rfl

end

end

/-! A manifest of two files, one of which is missing. -/

namespace Paired

open Overtaken (content lookup known occasion launch candidate)

def project (dry : Bool) : Project :=
  { Overtaken.project with
    settings := { Overtaken.project.settings with createBackups := true, dryRun := dry } }

def entry (file : String) : Entry := ⟨{ candidate with file }, "c.a.a_b", "c", .new⟩

def manifest : Manifest := ⟨[entry "src/a.ts", entry "src/b.ts"]⟩

def shelf : Shelf := ⟨[("src/a.ts", Overtaken.source)], [], []⟩

theorem mem_files (file : String) :
    file ∈ manifest.files ↔ file = "src/a.ts" ∨ file = "src/b.ts" := by
  simp [Manifest.files, manifest, entry]

def there : manifest.Named := ⟨"src/a.ts", (mem_files _).mpr (Or.inl rfl)⟩

def missing : manifest.Named := ⟨"src/b.ts", (mem_files _).mpr (Or.inr rfl)⟩

theorem standsApart (dry : Bool) : (project dry).StandsApart manifest := by
  have plain : Path.IsPlain "src/a.ts" ∧ Path.IsPlain "src/b.ts" := by decide
  have distinct : Path.components "src/a.ts".toList ≠ Path.components "src/b.ts".toList := by decide
  have outside : ¬ Path.components (project dry).outputDirectory.toList <+:
      (project dry).source "src/a.ts" ∧
      ¬ Path.components (project dry).outputDirectory.toList <+:
        (project dry).source "src/b.ts" := by
    cases dry <;> decide +kernel
  constructor
  · intro file listed
    rcases (mem_files file).mp listed with rfl | rfl
    exacts [plain.1, plain.2]
  · intro file listed other listed'
    rcases (mem_files file).mp listed with rfl | rfl <;>
      rcases (mem_files other).mp listed' with rfl | rfl <;> intro same
    exacts [rfl, absurd same distinct, absurd same.symm distinct, rfl]
  · intro file listed
    rcases (mem_files file).mp listed with rfl | rfl
    exacts [outside.1, outside.2]

theorem read_shelf : Storage.read shelf "src/a.ts" = .ok Overtaken.source := by
  decide

theorem path_eq (dry : Bool) : Path.join (project dry).root "src/a.ts" = "src/a.ts" :=
  Overtaken.Places.module Overtaken.places

def scene (dry : Bool) : ReplacementScene := (project dry).scene occasion launch false known

/-- What the lookup makes of the module. -/
def rewrite : Rewrite := Overtaken.rewrite (lookup "c")

/-- The module is planned to get the lookup. -/
theorem plan_eq (dry : Bool) : (project dry).plan (scene dry) shelf "src/a.ts"
    (manifest.entriesOf "src/a.ts") = .rewritten rewrite := by
  have made : (scene dry).rules.rewrite "src/a.ts" Overtaken.source.toList
      (manifest.entriesOf "src/a.ts") (scene dry).dictionary = .ok rewrite :=
    Overtaken.rewrite_known "c" (by decide)
  have read : Storage.read shelf (Path.join (project dry).root "src/a.ts") = .ok Overtaken.source :=
    (path_eq dry).symm ▸ read_shelf
  exact plan_of_rewrite rfl rfl read made

/-- Where the copy of the module goes. -/
def copy : String := ".i18n-lift/backups/src/a.ts..bak"

theorem place_eq : ((project false).backups occasion).place "src/a.ts" = copy := by
  decide +kernel

/-- What a file comes to alone, where nothing is cancelled. -/
def lone (dry : Bool) (file : manifest.Named) : FileOutcome × Shelf :=
  (project dry).alone occasion launch known (fun _ => false) shelf file

/-- A replacement puts the module aside and the lookup in. -/
theorem lone_wet : lone false there = (.rewritten rewrite,
    (shelf.hold copy Overtaken.source).hold "src/a.ts" (content (lookup "c"))) := by
  have saved : (scene false).backups.save shelf "src/a.ts" =
      (.ok (some copy), shelf.hold copy Overtaken.source) := by
    show ((project false).backups occasion).save shelf "src/a.ts" = _
    rw [Backups.save_of_read _ read_shelf, if_pos (by rfl), place_eq,
      Shelf.copy_of_read _ read_shelf, Shelf.write_eq_hold shelf (by rfl)]
    rfl
  show (project false).carryOut (scene false) shelf "src/a.ts" (manifest.entriesOf "src/a.ts") = _
  rw [carryOut, plan_eq]
  dsimp only
  rw [if_neg (by exact Bool.false_ne_true), saveRewrite, path_eq, saved]
  rfl

/-- A dry run reports it as well, and leaves the shelf. -/
theorem lone_dry : lone true there = (.rewritten rewrite, shelf) := by
  show (project true).carryOut (scene true) shelf "src/a.ts" (manifest.entriesOf "src/a.ts") = _
  rw [carryOut, plan_eq]
  exact if_pos rfl

/-- The two tasks, one between the turns of the other. -/
def turns : List manifest.Named := [missing, there, there, missing, missing, there]

theorem fair_turns (file : manifest.Named) : 3 ≤ turns.count file := by
  have either : file = there ∨ file = missing :=
    ((mem_files file.name).mp file.listed).imp Manifest.Named.ext Manifest.Named.ext
  rcases either with rfl | rfl <;> decide

/-- The two tasks after some turns. -/
def crew (dry : Bool) : Crew Shelf manifest.Named FileOutcome :=
  ((project dry).crew occasion launch known (fun _ => false) shelf).run turns

theorem crew_settles_paired : (project false).StandsApart manifest ∧
    (∀ file, 3 ≤ turns.count file) ∧
    ∃ after, crew false = ⟨after, fun file => .done (lone false file).1⟩ ∧
      (lone false there).1 = .rewritten rewrite ∧
      Storage.read after "src/a.ts" = .ok (content (lookup "c")) ∧
      Storage.read after copy = .ok Overtaken.source := by
  obtain ⟨after, ran, replaced⟩ := crew_settles (project false) occasion launch known
    (fun _ => false) shelf (standsApart false) turns fair_turns
  refine ⟨standsApart false, fair_turns, after, ran, congrArg Prod.fst lone_wet, ?_⟩
  have settled : (project false).Settles ((project false).backups occasion) shelf after "src/a.ts"
    (lone false there).1 := replaced.settled there
  rw [lone_wet] at settled
  cases settled with
  | rehearsed r dry => cases dry
  | rewritten r old wet named was now copied =>
    have copied := copied rfl
    rw [path_eq] at was now copied
    rw [place_eq] at copied
    have same := Except.ok.inj (was.symm.trans read_shelf)
    exact ⟨now, same ▸ copied⟩

/-- A dry run reports a content that the file does not get, and a replacement with copies changes
what is under a path that the manifest does not name. -/
theorem crew_spares_and_copies :
    (∃ r, (crew true).tasks there = .done (.rewritten r) ∧
      Storage.read (crew true).storage "src/a.ts" = .ok Overtaken.source ∧
      r.content ≠ Overtaken.source) ∧
    (∀ file ∈ manifest.files, (project false).source file ≠ Path.components copy.toList) ∧
    Storage.read shelf copy = .error (.notFound copy) ∧
    Storage.read (crew false).storage copy = .ok Overtaken.source := by
  obtain ⟨dry, ran, agree, -⟩ := (standsApart true).run_crew occasion launch known (fun _ => false)
    shelf turns fair_turns
  obtain ⟨wet, ran', agree', -⟩ := (standsApart false).run_crew occasion launch known
    (fun _ => false) shelf turns fair_turns
  have ran : crew true = ⟨dry, fun file => .done (lone true file).1⟩ := ran
  have ran' : crew false = ⟨wet, fun file => .done (lone false file).1⟩ := ran'
  rw [ran, ran']
  have outside : ∀ file ∈ ["src/a.ts", "src/b.ts"],
      (project false).source file ≠ Path.components copy.toList := by
    decide +kernel
  refine ⟨⟨_, congrArg (fun result => Task.done result.1) lone_dry, ?_, by decide⟩,
    fun file listed => outside file (by simpa using (mem_files file).mp listed), by decide,
    ?_⟩
  · have kept : cell (lone true there).2 ((project true).source "src/a.ts") =
      cell dry ((project true).source "src/a.ts") := agree there _ (Or.inl rfl)
    rw [lone_dry, source, path_eq] at kept
    exact (IndependentStorage.read_congr _ _ _ kept).symm.trans read_shelf
  · have kept : cell (lone false there).2 ((project false).aside _ "src/a.ts") =
      cell wet ((project false).aside _ "src/a.ts") := agree' there _ (Or.inr ⟨rfl, rfl, rfl⟩)
    rw [lone_wet, aside, path_eq, place_eq] at kept
    have apart : Path.components copy.toList ≠ Path.components "src/a.ts".toList := by
      decide
    exact (IndependentStorage.read_congr _ _ _ kept).symm.trans
      ((Shelf.read_hold_of_ne _ _ _ apart).trans (shelf.read_hold copy Overtaken.source))

end Paired

end Project

end Phrasebook
