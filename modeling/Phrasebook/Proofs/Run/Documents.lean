import Phrasebook.Proofs.Dictionary.Flushing
import Phrasebook.Proofs.Dictionary.Reaching
import Phrasebook.Proofs.Dictionary.Remembering
import Phrasebook.Proofs.Run.Extracting
import Phrasebook.Proofs.Storage.Changing

/-!
# What an extraction makes of the documents

From reading the documents to writing them, an extraction gives its dictionary new texts of the
source locale, and placeholders for them in the targets. A key of the manifest has a value in a
locale if the locale is the source, if the key is new, or if there was a value before.

A document that an extraction writes holds the values of its dictionary. The other documents stay,
so a key that had a value still has one. Nothing that an extraction writes besides takes the place of
a document.
-/

namespace Phrasebook

open Json (valueAt? IsLeaf deepest mapNumbers mapNumbersMembers)
open LawfulStorage (place)
open FileStorage (fileAt?)

/-! ## The messages of an extraction -/

/-- A key holds a value. -/
def Messages.HasValue (messages : Messages) (key : String) : Prop :=
  ∃ value : Json, value.IsLeaf ∧ valueAt? (keySegments key) (.object messages) = some value

namespace Dictionary

def HasValue (d : Dictionary) (locale key : String) : Prop := (d.messagesOf locale).HasValue key

variable {before after : Dictionary} {locale key : String}

theorem HasValue.of_leaf? {text : String} (held : before.leaf? locale key = some text) :
    before.HasValue locale key :=
  ⟨.string text, Json.isLeaf_string text, (before.leaf?_eq_some_iff locale key text).mp held⟩

theorem HasValue.of_grows (held : before.HasValue locale key) (grows : before.Grows after) :
    after.HasValue locale key :=
  held.imp fun _ ⟨leaf, found⟩ => ⟨leaf, (grows.roots locale).leaves _ _ found leaf⟩

theorem HasValue.of_fills {asked : String → List String → String → Prop}
    (held : before.HasValue locale key) (fills : Fills asked before after) :
    after.HasValue locale key := by
  obtain ⟨value, leaf, found⟩ := held
  rcases fills.leaves locale _ value leaf found with stays | ⟨-, text, -, filled⟩
  · exact ⟨value, leaf, stays⟩
  · exact ⟨_, Json.isLeaf_string _, filled⟩

end Dictionary

namespace Project.Begun

variable {σ : Type} [Storage σ] {p : Project} {before : σ} (b : p.Begun before) (cancelled : Bool)
  {locale key : String}

theorem sourceLocale_eq : b.dictionary.sourceLocale = p.settings.sourceLocale :=
  b.isLoaded.sourceLocale_eq

theorem pending_eq : b.dictionary.pending = [] := b.isLoaded.pending_eq

/-- The new keys are those of the entries that are new. -/
theorem mem_pending : key ∈ (b.tally cancelled).dictionary.pending ↔
    ∃ e ∈ (b.tally cancelled).entries, e.key = key ∧ e.status = .new := by
  rw [(b.derives_tally cancelled).pending, b.pending_eq, List.nil_append, List.mem_map]
  simp only [List.mem_filter, decide_eq_true_eq]
  exact ⟨fun ⟨e, ⟨listed, new⟩, same⟩ => ⟨e, listed, same, new⟩,
    fun ⟨e, listed, same, new⟩ => ⟨e, ⟨listed, new⟩, same⟩⟩

theorem awaits : Dictionary.Awaits p.settings.sourceLocale (b.tally cancelled).dictionary := by
  have none : Dictionary.Awaits b.dictionary.sourceLocale b.dictionary :=
    ⟨by rw [b.pending_eq]; exact .nil, by rw [b.pending_eq]; exact List.forall_mem_nil _⟩
  obtain ⟨calls, -, run⟩ := (b.derives_tally cancelled).calls
  obtain ⟨-, awaits⟩ := Dictionary.Addition.awaits_run (calls.map .derive) b.dictionary none
  rw [Dictionary.Addition.run, List.foldl_map, b.sourceLocale_eq] at awaits
  exact run ▸ awaits

theorem fills : Dictionary.Fills ((b.tally cancelled).dictionary.Asked p.settings.sourceLocale
    p.settings.targetLocales) (b.tally cancelled).dictionary (b.propagated cancelled).dictionary :=
  Dictionary.fills_propagate ..

theorem remembers : b.dictionary.Remembers (b.propagated cancelled).dictionary := by
  obtain ⟨calls, -, run⟩ := (b.derives_tally cancelled).calls
  have tallied : b.dictionary.Remembers (b.tally cancelled).dictionary :=
    run ▸ KeyCall.remembers_run calls b.dictionary
  exact tallied.trans (Dictionary.remembers_propagate ..)

/-- No value is lost. -/
theorem hasValue_propagated (held : b.dictionary.HasValue locale key) :
    (b.propagated cancelled).dictionary.HasValue locale key :=
  (held.of_grows (b.derives_tally cancelled).grows).of_fills (b.fills cancelled)

/-- What is gained are values of new keys. -/
theorem of_hasValue_propagated
    (held : (b.propagated cancelled).dictionary.HasValue locale key) :
    b.dictionary.HasValue locale key ∨ key ∈ (b.tally cancelled).dictionary.pending := by
  obtain ⟨value, leaf, found⟩ := held
  rcases (b.fills cancelled).gains locale _ value leaf found with
    there | ⟨text, ⟨-, -, other, waits, same, -⟩, -⟩
  · obtain ⟨calls, -, run⟩ := (b.derives_tally cancelled).calls
    rw [run] at there ⊢
    rcases KeyCall.gains_run calls b.dictionary locale _ value leaf there with
      old | ⟨-, other, waits, same⟩
    · exact Or.inl ⟨value, leaf, old⟩
    · exact Or.inr (Messages.keySegments_injective same ▸ waits)
  · exact Or.inr (Messages.keySegments_injective same ▸ waits)

/-- Without conflicts a new key has a value everywhere. -/
theorem hasValue_of_pending (none : (b.propagated cancelled).counts.conflicts = 0)
    (waits : key ∈ (b.tally cancelled).dictionary.pending) (listed : locale ∈ p.settings.locales) :
    (b.propagated cancelled).dictionary.HasValue locale key := by
  by_cases source : locale = p.settings.sourceLocale
  · obtain ⟨text, held⟩ := (b.awaits cancelled).held key waits
    exact source ▸ (Dictionary.HasValue.of_leaf? held).of_fills (b.fills cancelled)
  · have target := (List.mem_cons.mp listed).resolve_left source
    have asked : (locale, key) ∈ (b.tally cancelled).dictionary.requests p.settings.sourceLocale
        p.settings.targetLocales := Dictionary.mem_requests.mpr ⟨target, source, waits⟩
    exact Dictionary.exists_leaf_propagate (b.awaits cancelled) none asked

/-- Where the keys of the manifest have values. -/
theorem hasValue_iff (none : (b.propagated cancelled).counts.conflicts = 0) {e : Entry}
    (member : e ∈ (b.tally cancelled).entries) (listed : locale ∈ p.settings.locales) :
    (b.propagated cancelled).dictionary.HasValue locale e.key ↔
      locale = p.settings.sourceLocale ∨
      (∃ other ∈ (b.tally cancelled).entries, other.key = e.key ∧ other.status = .new) ∨
      b.dictionary.HasValue locale e.key := by
  rw [← b.mem_pending cancelled]
  constructor
  · exact fun held => Or.inr (b.of_hasValue_propagated cancelled held).symm
  · rintro (source | waits | held)
    · have held := (b.derives_tally cancelled).held e member
      rw [b.sourceLocale_eq] at held
      exact source ▸ (Dictionary.HasValue.of_leaf? held).of_fills (b.fills cancelled)
    · exact b.hasValue_of_pending cancelled none waits listed
    · exact b.hasValue_propagated cancelled held

end Project.Begun

/-! ## Documents -/

/-- Numbers do not matter to whether there is a value. -/
theorem Messages.hasValue_mapNumbers (f : JsonNumber → JsonNumber) (messages : Messages)
    (key : String) :
    HasValue (mapNumbersMembers f messages) key ↔ HasValue messages key := by
  have again := Json.valueAt?_mapNumbers (f := f) (keySegments key) (.object messages)
  rw [mapNumbers] at again
  simp only [HasValue, again, Option.map_eq_some_iff]
  constructor
  · rintro ⟨_, leaves, value, found, rfl⟩
    exact ⟨value, Json.isLeaf_mapNumbers.mp leaves, found⟩
  · rintro ⟨value, leaves, found⟩
    exact ⟨_, Json.isLeaf_mapNumbers.mpr leaves, value, found, rfl⟩

namespace Project

variable {σ : Type} [Storage σ] [FileStorage σ] (p : Project)

/-- The messages of a locale's document, as a run reads them. -/
def Reads (storage : σ) (locale : String) (messages : Messages) : Prop :=
  ∃ text, Storage.read storage (p.dictionary.documentPath locale) = .ok text ∧
    Messages.ofDocument (p.dictionary.documentPath locale) text = .ok messages

/-- The messages in the file of a locale's document, which its path need not lead to yet. -/
def Files (storage : σ) (locale : String) (messages : Messages) : Prop :=
  ∃ text, fileAt? storage (place storage (p.dictionary.documentPath locale)) = some (.text text) ∧
    Messages.ofDocument (p.dictionary.documentPath locale) text = .ok messages

/-- In between, the documents stay what they are. -/
structure SparesDocuments (before after : σ) : Prop where
  place_eq : ∀ path, place after path = place before path
  read : ∀ locale ∈ p.settings.locales, ∀ text,
    Storage.read before (p.dictionary.documentPath locale) = .ok text →
      Storage.read after (p.dictionary.documentPath locale) = .ok text
  file : ∀ locale ∈ p.settings.locales,
    fileAt? after (place before (p.dictionary.documentPath locale)) =
      fileAt? before (place before (p.dictionary.documentPath locale))

variable {p}

theorem Reads.files {storage : σ} {locale : String} {messages : Messages}
    (reads : p.Reads storage locale messages) : p.Files storage locale messages :=
  reads.imp fun _ ⟨read, parsed⟩ => ⟨FileStorage.fileAt?_of_read _ _ _ read, parsed⟩

theorem Files.unique {storage : σ} {locale : String} {messages other : Messages}
    (files : p.Files storage locale messages) (files' : p.Files storage locale other) :
    messages = other := by
  obtain ⟨text, there, parsed⟩ := files
  obtain ⟨text', there', parsed'⟩ := files'
  cases there.symm.trans there'
  cases parsed.symm.trans parsed'
  rfl

namespace SparesDocuments

variable {a b c : σ} {locale : String} {messages : Messages}

theorem refl (storage : σ) : p.SparesDocuments storage storage :=
  ⟨fun _ => rfl, fun _ _ _ => id, fun _ _ => rfl⟩

theorem trans (first : p.SparesDocuments a b) (second : p.SparesDocuments b c) :
    p.SparesDocuments a c where
  place_eq := fun path => (second.place_eq path).trans (first.place_eq path)
  read := fun locale listed text => second.read locale listed text ∘ first.read locale listed text
  file := fun locale listed => by
    have later := second.file locale listed
    rw [first.place_eq] at later
    exact later.trans (first.file locale listed)

theorem reads (spares : p.SparesDocuments a b) (listed : locale ∈ p.settings.locales)
    (reads : p.Reads a locale messages) : p.Reads b locale messages :=
  reads.imp fun text ⟨read, parsed⟩ => ⟨spares.read locale listed text read, parsed⟩

theorem files_iff (spares : p.SparesDocuments a b) (listed : locale ∈ p.settings.locales) :
    p.Files b locale messages ↔ p.Files a locale messages := by
  rw [Files, Files, spares.place_eq, spares.file locale listed]

theorem write (storage : σ) (path text : String) (apart : ∀ locale ∈ p.settings.locales,
      place storage (p.dictionary.documentPath locale) ≠ place storage path) :
    p.SparesDocuments storage (Storage.write storage path text).2 where
  place_eq := LawfulStorage.place_write storage path text
  read := fun locale listed =>
    (LawfulStorage.undisturbed_write storage path text _ (apart locale listed)).kept
  file := fun locale listed => FileStorage.fileAt?_write storage path text _ (apart locale listed)

theorem lock (storage : σ) (directory : String) :
    p.SparesDocuments storage (Storage.lock storage directory).2 := by
  have apart (locale : String) : place storage (p.dictionary.documentPath locale) ≠
      place storage (Path.join directory Disk.lockName) :=
    LawfulStorage.place_document_ne storage _ locale directory "" Disk.lockName (by decide)
      (by decide) (by decide)
  exact ⟨FileStorage.place_lock storage directory,
    fun locale _ => (FileStorage.undisturbed_lock storage directory _ (apart locale)).kept,
    fun locale _ => FileStorage.fileAt?_lock storage directory _ (apart locale)⟩

theorem unlock (storage : σ) (directory : String) :
    p.SparesDocuments storage (Storage.unlock storage directory) where
  place_eq := FileStorage.place_unlock storage directory
  read := fun _ _ => (FileStorage.undisturbed_unlock storage directory _).kept
  file := fun _ _ => FileStorage.fileAt?_unlock storage directory _

end SparesDocuments

variable (p) in
/-- A key has a value in a locale's document, as it is read. -/
def Holds (storage : σ) (locale key : String) : Prop :=
  ∃ messages, p.Reads storage locale messages ∧ messages.HasValue key

variable (p) in
/-- A key has a value in the file of a locale's document. -/
def Stores (storage : σ) (locale key : String) : Prop :=
  ∃ messages, p.Files storage locale messages ∧ messages.HasValue key

theorem Holds.stores {storage : σ} {locale key : String} (holds : p.Holds storage locale key) :
    p.Stores storage locale key :=
  holds.imp fun _ ⟨reads, held⟩ => ⟨reads.files, held⟩

namespace SparesDocuments

variable {a b : σ} {locale key : String}

theorem holds (spares : p.SparesDocuments a b) (listed : locale ∈ p.settings.locales)
    (holds : p.Holds a locale key) : p.Holds b locale key :=
  holds.imp fun _ ⟨reads, held⟩ => ⟨spares.reads listed reads, held⟩

theorem stores_iff (spares : p.SparesDocuments a b) (listed : locale ∈ p.settings.locales) :
    p.Stores b locale key ↔ p.Stores a locale key := by
  simp only [Stores, spares.files_iff listed]

end SparesDocuments

variable (p) in
/-- Documents have places of their own, and the keys of an extraction lead no deeper than objects of
a document can nest. -/
structure IsOrderly (cancelled : Bool) (asked : Option String) (before : σ) : Prop where
  distinct : ∀ a ∈ p.settings.locales, ∀ b ∈ p.settings.locales, a ≠ b →
    place before (p.dictionary.documentPath a) ≠ place before (p.dictionary.documentPath b)
  manifest : ∀ locale ∈ p.settings.locales,
    place before (p.dictionary.documentPath locale) ≠ place before (p.manifestPath asked)
  record : ∀ locale ∈ p.settings.locales,
    place before (p.dictionary.documentPath locale) ≠
      place before (RunReport.recordPath p.outputDirectory)
  short : ∀ b : p.Begun before, ∀ e ∈ (b.tally cancelled).entries,
    (keySegments e.key).length ≤ deepest

namespace Begun

variable {before : σ} (b : p.Begun before) {cancelled : Bool} {asked : Option String}
  (orderly : p.IsOrderly cancelled asked before) (occasion : Occasion) {locale key : String}

/-! ## Reading -/

theorem spares_locked : p.SparesDocuments before b.locked := by
  have lock := SparesDocuments.lock (p := p) before p.outputDirectory
  rwa [b.taken] at lock

/-- A document that can be read is one that was read. -/
theorem messages_eq (listed : locale ∈ p.settings.locales) {messages : Messages}
    (reads : p.Reads b.locked locale messages) : messages = b.dictionary.messagesOf locale := by
  obtain ⟨text, read, parsed⟩ := reads
  rw [← b.documentPath_eq] at read parsed
  exact Except.ok.inj (parsed.symm.trans (b.isLoaded.mirrors listed read))

omit [FileStorage σ] in
/-- Where there is a value, there is a document. -/
theorem reads_of_hasValue (held : b.dictionary.HasValue locale key) :
    p.Reads b.locked locale (b.dictionary.messagesOf locale) := by
  rcases b.isLoaded.each locale with ⟨text, read, parsed, -⟩ | ⟨void, -⟩
  · rw [b.documentPath_eq] at read parsed
    exact ⟨text, read, parsed⟩
  · obtain ⟨value, leaf, found⟩ := held
    obtain ⟨name, rest, way⟩ := List.exists_cons_of_ne_nil (Messages.keySegments_ne_nil key)
    rw [void, way, Json.valueAt?_cons_object] at found
    cases found

theorem holds_iff (listed : locale ∈ p.settings.locales) :
    p.Holds b.locked locale key ↔ b.dictionary.HasValue locale key := by
  constructor
  · rintro ⟨messages, reads, held⟩
    rwa [b.messages_eq listed reads] at held
  · exact fun held => ⟨_, b.reads_of_hasValue held, held⟩

/-! ## Writing -/

include orderly

/-- The messages can be written and read again. -/
theorem readable : (b.propagated cancelled).dictionary.IsReadable := by
  obtain ⟨calls, known, run⟩ := (b.derives_tally cancelled).calls
  have start := b.isLoaded.isReadable rfl
  have short (call : KeyCall) (member : call ∈ calls) : (keySegments call.base).length ≤ deepest := by
    obtain ⟨-, e, listed, n, same⟩ := known call member
    have bound := orderly.short b e listed
    rwa [same, length_keySegments_suffixed] at bound
  have tallied : Dictionary.Kept (fun _ _ => False) b.dictionary (b.tally cancelled).dictionary := by
    rw [run]
    exact List.foldlRecOn (motive := Dictionary.Kept _ b.dictionary) calls _ (.refl start)
      fun now kept call member => kept.trans (Dictionary.Edit.kept_derive kept.readable
        (short call member))
  exact (tallied.trans (Dictionary.kept_propagate tallied.readable
    fun _ _ _ _ _ never => never)).readable

theorem flushes : Dictionary.Flushes (b.propagated cancelled).dictionary b.locked p.settings.locales
    (b.flushed occasion cancelled) := by
  refine .flush ?_ (p.backups occasion)
  simp only [b.documentPath_propagated, b.spares_locked.place_eq]
  exact orderly.distinct

/-- A document that is written holds the messages, each number as its own text is read. -/
theorem reads_of_written (listed : locale ∈ p.settings.locales)
    (written : locale ∈ (b.flushed occasion cancelled).written) :
    p.Reads (b.flushed occasion cancelled).storage locale
      (mapNumbersMembers Json.reread ((b.propagated cancelled).dictionary.messagesOf locale)) := by
  have read := (b.flushes orderly occasion).written locale listed written
  have proper := b.isLoaded.isProper locale
  rw [b.documentPath_propagated] at read
  rw [← (b.alike_propagated cancelled).styles_eq] at proper
  exact ⟨_, read, (Dictionary.read_render (b.readable orderly) proper _).2⟩

/-- A document that is not written stays as it is. -/
theorem spared_of_not_written (listed : locale ∈ p.settings.locales)
    (waits : locale ∉ (b.flushed occasion cancelled).written) (messages : Messages) :
    (p.Reads b.locked locale messages →
      p.Reads (b.flushed occasion cancelled).storage locale messages) ∧
    (p.Files (b.flushed occasion cancelled).storage locale messages ↔
      p.Files b.locked locale messages) := by
  have flushes := b.flushes orderly occasion
  have same := flushes.others locale listed waits
  rw [b.documentPath_propagated] at same
  refine ⟨fun reads => reads.imp fun text ⟨read, parsed⟩ => ⟨same.kept text read, parsed⟩, ?_⟩
  have changes := changes_flush b.locked (b.propagated cancelled).dictionary p.settings.locales
    (p.backups occasion)
  have file := changes.files (place b.locked (p.dictionary.documentPath locale)) (by
    rintro ⟨other, member, ⟨written, here⟩ | here⟩
    · rw [b.documentPath_propagated, b.spares_locked.place_eq, b.spares_locked.place_eq] at here
      refine orderly.distinct locale listed other member ?_ here
      rintro rfl
      exact waits written
    · exact LawfulStorage.place_ne b.locked _ locale (p.backups occasion) _ here)
  have place_eq := flushes.place_eq (p.dictionary.documentPath locale)
  rw [Files, Files, place_eq]
  exact ⟨fun ⟨text, there, parsed⟩ => ⟨text, file.symm.trans there, parsed⟩,
    fun ⟨text, there, parsed⟩ => ⟨text, file.trans there, parsed⟩⟩

theorem holds_flushed (listed : locale ∈ p.settings.locales)
    (held : (b.propagated cancelled).dictionary.HasValue locale key)
    (old : locale ∉ (b.flushed occasion cancelled).written → b.dictionary.HasValue locale key) :
    p.Holds (b.flushed occasion cancelled).storage locale key := by
  by_cases written : locale ∈ (b.flushed occasion cancelled).written
  · exact ⟨_, b.reads_of_written orderly occasion listed written,
      (Messages.hasValue_mapNumbers ..).mpr held⟩
  · have held := old written
    exact ⟨_, (b.spared_of_not_written orderly occasion listed written _).1
      (b.reads_of_hasValue held), held⟩

/-- Without failures the documents hold all values. -/
theorem holds_of_whole (listed : locale ∈ p.settings.locales)
    (whole : (b.flushed occasion cancelled).failures = [])
    (held : (b.propagated cancelled).dictionary.HasValue locale key) :
    p.Holds (b.flushed occasion cancelled).storage locale key := by
  refine b.holds_flushed orderly occasion listed held fun waits => ?_
  -- A document that waits although nothing failed is the one of a locale that has not changed.
  have clean : (b.propagated cancelled).dictionary.isDirty locale = false :=
    Bool.eq_false_iff.mpr fun marked => waits (Dictionary.written_flush _ _ _ _ whole listed marked)
  have same := (b.remembers cancelled).clean locale clean
  rwa [Dictionary.HasValue, Json.object.inj same] at held

theorem of_stores_flushed (listed : locale ∈ p.settings.locales)
    (stores : p.Stores (b.flushed occasion cancelled).storage locale key) :
    (b.propagated cancelled).dictionary.HasValue locale key ∧
        locale ∈ (b.flushed occasion cancelled).written ∨
      p.Stores before locale key ∧ locale ∉ (b.flushed occasion cancelled).written := by
  obtain ⟨messages, files, held⟩ := stores
  by_cases written : locale ∈ (b.flushed occasion cancelled).written
  · have same := files.unique (b.reads_of_written orderly occasion listed written).files
    exact Or.inl ⟨(Messages.hasValue_mapNumbers ..).mp (same ▸ held), written⟩
  · have old := (b.spared_of_not_written orderly occasion listed written messages).2.mp files
    exact Or.inr ⟨⟨messages, (b.spares_locked.files_iff listed).mp old, held⟩, written⟩

/-- Nothing that is written behind the documents takes the place of one. -/
theorem spares_saved : p.SparesDocuments (b.flushed occasion cancelled).storage
    (b.saved occasion cancelled asked).2 := by
  refine .write _ _ _ fun locale listed => ?_
  have flushes := (b.flushes orderly occasion).place_eq
  rw [flushes, flushes, b.spares_locked.place_eq, b.spares_locked.place_eq]
  exact orderly.manifest locale listed

theorem spares_recorded : p.SparesDocuments (b.flushed occasion cancelled).storage
    (b.recorded occasion cancelled asked).2 := by
  have saved := b.spares_saved orderly occasion
  refine saved.trans (.write _ _ _ fun locale listed => ?_)
  have flushes := (b.flushes orderly occasion).place_eq
  rw [saved.place_eq, saved.place_eq, flushes, flushes, b.spares_locked.place_eq,
    b.spares_locked.place_eq]
  exact orderly.record locale listed

theorem spares_shown : p.SparesDocuments (b.flushed occasion cancelled).storage
    (b.shown occasion cancelled asked).2 :=
  (b.spares_recorded orderly occasion).trans (.write _ _ _ fun locale _ =>
    LawfulStorage.place_document_ne _ _ locale p.outputDirectory "" RunReport.pageName (by decide)
      (by decide) (by decide))

end Begun

end Project

end Phrasebook
