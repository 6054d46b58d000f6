import Phrasebook.Proofs.Dictionary.Loading
import Phrasebook.Proofs.Json.Depth
import Phrasebook.Proofs.Json.Rereading
import Phrasebook.Proofs.Key.Naming
import Phrasebook.Proofs.Storage.Disk
import Phrasebook.Proofs.Storage.Shelf

/-!
# Flushing keeps documents

A flush writes the documents of the locales that have changed and leaves the others alone. Whatever
was edited between loading and flushing, the documents can be read afterwards, and hold the texts
that they held before.
-/

namespace Phrasebook

open Json (Fits IsRegular deepest valueAt? mapNumbers mapNumbersMembers)

/-! ## Numbers that are read again -/

namespace Json

variable {f : JsonNumber → JsonNumber}

theorem get?_mapNumbersMembers (name : String) (members : List (String × Json)) :
    Table.get? name (mapNumbersMembers f members) =
      (Table.get? name members).map (mapNumbers f) := by
  induction members with
  | nil => rfl
  | cons member rest ih =>
    obtain ⟨other, value⟩ := member
    rw [mapNumbersMembers, Table.get?, Table.get?]
    split
    next => rfl
    next => exact ih

theorem isLeaf_mapNumbers {value : Json} : (mapNumbers f value).IsLeaf ↔ value.IsLeaf := by
  cases value <;> simp [mapNumbers, IsLeaf]

theorem valueAt?_mapNumbers (path : List String) (root : Json) :
    valueAt? path (mapNumbers f root) = (valueAt? path root).map (mapNumbers f) := by
  induction path generalizing root with
  | nil => simp
  | cons name rest ih =>
    rcases root.isLeaf_or_object with leaf | ⟨members, rfl⟩
    · rw [valueAt?_cons_of_isLeaf leaf, valueAt?_cons_of_isLeaf (isLeaf_mapNumbers.mpr leaf),
        Option.map_none]
    · rw [mapNumbers, valueAt?_cons_object, valueAt?_cons_object, get?_mapNumbersMembers]
      cases Table.get? name members with
      | none => rfl
      | some value => exact ih value

/-- Numbers do not matter to whether a way is occupied for a text. -/
theorem occupied_mapNumbers {text : String} {path : List String} {root : Json}
    (occupied : Occupied text path root) : Occupied text path (mapNumbers f root) := by
  rcases occupied with ⟨value, found, differs⟩ | ⟨front, rest, value, split, proper, found, leaf⟩
  · refine .inl ⟨mapNumbers f value, by rw [valueAt?_mapNumbers, found, Option.map_some], ?_⟩
    cases value with
    | string other => exact differs
    | null | bool | number | array | object => simp [mapNumbers]
  · exact .inr ⟨front, rest, mapNumbers f value, split, proper,
      by rw [valueAt?_mapNumbers, found, Option.map_some], isLeaf_mapNumbers.mpr leaf⟩

end Json

/-! ## What becomes of a document -/

/-- A document before and after documents are written, this one perhaps among them. -/
structure DocumentKept {σ : Type} [Storage σ] (path : String) (written : Prop)
    (spared : String → Prop) (before after : σ) : Prop where
  stays : (∃ old, Storage.read before path = .ok old) ∨ written →
    ∃ now, Storage.read after path = .ok now
  /-- Unless it is blank and was left alone, the document is an object. Nothing is known of what
  appears under a path that leads back from a directory. -/
  object : ∀ now, Storage.read after path = .ok now →
    (∃ old, Storage.read before path = .ok old) ∨ written ∨ Path.IsDirect path →
    ∃ tree, Messages.ofDocument path now = .ok tree ∧ (Json.read now = .ok (.object tree) ∨
      now.toList.all Unicode.isBlank = true ∧ ¬ written ∧ Storage.read before path = .ok now)
  texts : ∀ old now messages tree, Storage.read before path = .ok old →
    Messages.ofDocument path old = .ok messages → Storage.read after path = .ok now →
    Messages.ofDocument path now = .ok tree → ∀ names text, spared text →
      valueAt? names (.object messages) = some (.string text) →
        valueAt? names (.object tree) = some (.string text)

namespace DocumentKept

variable {σ : Type} [Storage σ] {path : String} {written : Prop} {spared : String → Prop}
  {before after : σ}

/-- A document that is left alone. -/
theorem of_undisturbed (other : ¬ written) (same : Undisturbed path before after)
    (documents : ∀ text, Storage.read before path = .ok text →
      ∃ messages, Messages.ofDocument path text = .ok messages) :
    DocumentKept path written spared before after where
  stays := by
    rintro (⟨old, read⟩ | here)
    · exact ⟨old, same.kept old read⟩
    · exact absurd here other
  object := fun now reads there => by
    have read : Storage.read before path = .ok now := by
      rcases there with ⟨old, read⟩ | here | direct
      · rw [read, ← same.kept old read]
        exact reads
      · exact absurd here other
      · exact same.appeared direct now reads
    obtain ⟨tree, parsed⟩ := documents now read
    refine ⟨tree, parsed, ?_⟩
    rcases (Messages.ofDocument_eq_ok_iff path now tree).mp parsed with ⟨blank, -⟩ | ⟨-, whole⟩
    · exact Or.inr ⟨blank, other, read⟩
    · exact Or.inl whole
  texts := fun old now messages tree read parsed reads again names text _ found => by
    cases (same.kept old read).symm.trans reads
    cases parsed.symm.trans again
    exact found

/-- A document that is written. -/
theorem of_written {now : String} {tree : Messages} (reads : Storage.read after path = .ok now)
    (whole : Json.read now = .ok (.object tree))
    (parsed : Messages.ofDocument path now = .ok tree)
    (kept : ∀ old messages, Storage.read before path = .ok old →
      Messages.ofDocument path old = .ok messages → ∀ names text, spared text →
        valueAt? names (.object messages) = some (.string text) →
          valueAt? names (.object tree) = some (.string text)) :
    DocumentKept path written spared before after where
  stays := fun _ => ⟨now, reads⟩
  object := fun other reads' _ => by
    cases reads.symm.trans reads'
    exact ⟨tree, parsed, Or.inl whole⟩
  texts := fun old other messages tree' read known reads' parsed' => by
    cases reads.symm.trans reads'
    cases parsed.symm.trans parsed'
    exact kept old messages read known

end DocumentKept

/-! ## Putting copies aside -/

section

variable {σ : Type} [Storage σ] [LawfulStorage σ]

open LawfulStorage (place place_write place_copy)

theorem Backups.place_save (backups : Backups) (storage : σ) (source path : String) :
    LawfulStorage.place (backups.save storage source).2 path =
      LawfulStorage.place storage path := by
  unfold save
  split
  · exact place_copy ..
  · rfl

/-- No document is disturbed by the copies that are put aside. -/
theorem Backups.undisturbed_save (backups : Backups) (storage : σ) (source : String)
    (directory locale : String) :
    Undisturbed (Path.join directory (locale ++ ".json")) storage
      (backups.save storage source).2 := by
  unfold save
  split
  · have apart := LawfulStorage.place_ne storage directory locale backups source
    exact LawfulStorage.undisturbed_copy _ _ _ _ apart
  · exact .refl ..

namespace Dictionary

/-- A flush under way, of a dictionary to a storage: documents of these locales are as they were
rendered, or as they were before. -/
structure Flushes (d : Dictionary) (storage : σ) (locales : List String) (f : Flush σ) : Prop where
  directory_eq : f.dictionary.directory = d.directory
  render_eq : ∀ locale, f.dictionary.render locale = d.render locale
  place_eq : ∀ path, place f.storage path = place storage path
  written : ∀ locale ∈ locales, locale ∈ f.written →
    Storage.read f.storage (d.documentPath locale) = .ok (d.render locale)
  others : ∀ locale ∈ locales, locale ∉ f.written →
    Undisturbed (d.documentPath locale) storage f.storage

namespace Flushes

variable {d : Dictionary} {storage : σ} {locales : List String} {f : Flush σ}

/-- A change of the storage that disturbs no document. -/
theorem undisturbed (flushes : Flushes d storage locales f) {changed : σ}
    (places : ∀ path, place changed path = place f.storage path)
    (kept : ∀ locale ∈ locales, Undisturbed (d.documentPath locale) f.storage changed) :
    Flushes d storage locales { f with storage := changed } where
  directory_eq := flushes.directory_eq
  render_eq := flushes.render_eq
  place_eq := fun path => (places path).trans (flushes.place_eq path)
  written := fun locale listed done =>
    (kept locale listed).kept _ (flushes.written locale listed done)
  others := fun locale listed waiting =>
    (flushes.others locale listed waiting).trans (kept locale listed)

theorem fail (flushes : Flushes d storage locales f) (path reason : String) :
    Flushes d storage locales (f.fail path reason) :=
  ⟨flushes.directory_eq, flushes.render_eq, flushes.place_eq, flushes.written, flushes.others⟩

/-- One document is written, and the others are not disturbed. -/
theorem settle (flushes : Flushes d storage locales f) {changed : σ} {locale : String}
    (places : ∀ path, place changed path = place f.storage path)
    (written : Storage.read changed (d.documentPath locale) = .ok (d.render locale))
    (kept : ∀ other ∈ locales, other ≠ locale →
      Undisturbed (d.documentPath other) f.storage changed) :
    Flushes d storage locales ({ f with storage := changed }.settle locale) where
  directory_eq := flushes.directory_eq
  render_eq := flushes.render_eq
  place_eq := fun path => (places path).trans (flushes.place_eq path)
  written := fun other listed done => by
    by_cases same : other = locale
    · exact same ▸ written
    · have before : other ∈ f.written :=
        (List.mem_append.mp done).resolve_right fun here => same (List.mem_singleton.mp here)
      exact (kept other listed same).kept _ (flushes.written other listed before)
  others := fun other listed waiting => by
    have apart : other ∉ f.written ∧ other ≠ locale := by
      simpa [Flush.settle] using waiting
    exact (flushes.others other listed apart.1).trans (kept other listed apart.2)

variable (distinct : ∀ a ∈ locales, ∀ b ∈ locales, a ≠ b →
  place storage (d.documentPath a) ≠ place storage (d.documentPath b))

include distinct

/-- Each step writes one document, or it fails and disturbs none. -/
theorem step (flushes : Flushes d storage locales f) (backups : Backups) {locale : String}
    (listed : locale ∈ locales) : Flushes d storage locales (f.step backups locale) := by
  have path : f.dictionary.documentPath locale = d.documentPath locale := by
    rw [documentPath, documentPath, flushes.directory_eq]
  unfold Flush.step
  split
  next =>
    rw [path]
    dsimp only
    have saved := flushes.undisturbed (backups.place_save f.storage (d.documentPath locale))
      fun other _ => backups.undisturbed_save f.storage (d.documentPath locale) d.directory other
    split
    next e after failed =>
      rw [failed] at saved
      exact saved.fail _ _
    next copied after aside =>
      rw [aside] at saved
      rw [flushes.render_eq]
      -- The copy has left all places as they are, so the documents are still apart.
      have apart (other : String) (member : other ∈ locales) (differs : other ≠ locale) :
          Undisturbed (d.documentPath other) after
            (Storage.write after (d.documentPath locale) (d.render locale)).2 := by
        refine LawfulStorage.undisturbed_write _ _ _ _ ?_
        rw [saved.place_eq, saved.place_eq]
        exact distinct other member locale listed differs
      have places (other : String) :
          place (Storage.write after (d.documentPath locale) (d.render locale)).2 other =
            place after other := place_write ..
      split
      next last done =>
        have reads := LawfulStorage.read_of_write after (d.documentPath locale) (d.render locale)
          (by rw [done])
        rw [done] at reads apart places
        exact saved.settle places reads apart
      next e last failed =>
        have still := LawfulStorage.undisturbed_of_error after (d.documentPath locale)
          (d.render locale) e (by rw [failed])
        rw [failed] at still apart places
        refine (saved.undisturbed places fun other member => ?_).fail _ _
        by_cases same : other = locale
        · exact same ▸ still
        · exact apart other member same
  next => exact flushes

/-- After a flush each document is as it is rendered now, or as it was. -/
theorem flush_of_subset {part : List String} (subset : part ⊆ locales) (backups : Backups) :
    Flushes d storage locales (d.flush storage part backups) := by
  refine List.foldlRecOn (motive := Flushes d storage locales) part _ ?_
    fun f flushes locale listed => flushes.step distinct backups (subset listed)
  exact ⟨rfl, fun _ => rfl, fun _ => rfl, fun _ _ member => absurd member List.not_mem_nil,
    fun _ _ _ => .refl ..⟩

theorem flush (backups : Backups) :
    Flushes d storage locales (d.flush storage locales backups) :=
  flush_of_subset distinct (List.Subset.refl locales) backups

end Flushes

/-! ## From loading to flushing -/

/-- A locale with a document is loaded from it. -/
theorem IsLoaded.mirrors {start d : Dictionary} {storage : σ} {locales : List String}
    (loaded : IsLoaded start storage locales d) {locale : String} (listed : locale ∈ locales)
    {text : String} (read : Storage.read storage (d.documentPath locale) = .ok text) :
    Messages.ofDocument (d.documentPath locale) text = .ok (d.messagesOf locale) := by
  rcases loaded.listed locale listed with ⟨other, read', parsed, -⟩ | missing
  · rw [read'] at read
    exact Except.ok.inj read ▸ parsed
  · rw [LawfulStorage.holds_of_read storage _ text read] at missing
    cases missing

/-- What is written is read again, each number as its own text is read. -/
theorem read_render {d : Dictionary} (readable : d.IsReadable) {locale : String}
    (proper : ((Table.get? locale d.styles).getD .standard).IsProper) (path : String) :
    Json.read (d.render locale) =
      .ok (.object (mapNumbersMembers Json.reread (d.messagesOf locale))) ∧
    Messages.ofDocument path (d.render locale) =
      .ok (mapNumbersMembers Json.reread (d.messagesOf locale)) :=
  ⟨proper.read_render Json.read_text (readable.roots locale),
    Messages.ofDocument_render proper Json.read_text (readable.roots locale) path⟩

/-- Documents that are loaded, edited and flushed are kept, with all their texts but placeholders of
locales that keys were propagated to. -/
theorem flush_keeps_documents (storage : σ) (directory : String) (settings : Settings)
    (locales : List String) (edits : List Edit) (backups : Backups)
    (distinct : ∀ a ∈ locales, ∀ b ∈ locales, a ≠ b →
      place storage (Path.join directory (a ++ ".json")) ≠
        place storage (Path.join directory (b ++ ".json")))
    (accepted : ((empty directory settings).loadAll storage locales).1 = none)
    (short : ∀ edit ∈ edits, edit.IsShort) :
    let loaded := ((empty directory settings).loadAll storage locales).2
    let flushed := (Edit.run edits loaded).flush storage locales backups
    ∀ locale ∈ locales,
      DocumentKept (Path.join directory (locale ++ ".json")) (locale ∈ flushed.written)
        (fun text => text.startsWith settings.placeholderPrefix = true →
          ∀ edit ∈ edits, ¬ edit.Targets locale) storage flushed.storage := by
  intro loaded flushed locale listed
  have begun : IsLoaded (empty directory settings) storage locales loaded :=
    isLoaded_empty directory settings storage locales accepted
  have edited := Edit.kept_run (begun.isReadable rfl) edits short
  have first := begun.documentPath_eq
  have last (other : String) :
      (Edit.run edits loaded).documentPath other = Path.join directory (other ++ ".json") := by
    rw [← first, documentPath, documentPath, edited.directory_eq]
  have flushes : Flushes (Edit.run edits loaded) storage locales flushed :=
    .flush (by simpa only [last] using distinct) backups
  have documents (text : String)
      (read : Storage.read storage (Path.join directory (locale ++ ".json")) = .ok text) :
      Messages.ofDocument (Path.join directory (locale ++ ".json")) text =
        .ok (loaded.messagesOf locale) := by
    rw [← first] at read ⊢
    exact begun.mirrors listed read
  by_cases done : locale ∈ flushed.written
  · have written := flushes.written locale listed done
    rw [last] at written
    have proper := begun.isProper locale
    rw [← edited.styles_eq] at proper
    obtain ⟨whole, parsed⟩ := read_render edited.readable proper _
    refine .of_written written whole parsed
      fun old messages read known names text spared found => ?_
    cases (documents old read).symm.trans known
    have marker : loaded.placeholderPrefix = settings.placeholderPrefix := begun.placeholderPrefix_eq
    rw [← marker] at spared
    -- Only numbers change where a text is written and read again.
    have again := Json.valueAt?_mapNumbers (f := Json.reread) names
      ((Edit.run edits loaded).root locale)
    rw [edited.texts locale names text spared found] at again
    exact again
  · have same := flushes.others locale listed done
    rw [last] at same
    exact .of_undisturbed done same fun text read => ⟨_, documents text read⟩

end Dictionary

end

/-! Two documents, of which one holds a placeholder. -/

namespace Bilingual

def disk : Disk where
  entries := [(["messages".toList, "en.json".toList], .file (.text "\x7b\"title\": \"Title\"\x7d")),
    (["messages".toList, "de.json".toList],
      .file (.text "\x7b\"exit\": \"Ende\", \"title\": \"[TODO] Titel\"\x7d"))]
  workingDirectory := []
  locked := []

def edits : List Dictionary.Edit :=
  [.key (.derive (Greeting.call "Hi")), .set "en" "exit" "Exit", .key (.propagate "en" ["de"])]

def backups : Backups := ⟨"", "backups", "1", true⟩

theorem isShort : ∀ edit ∈ edits, edit.IsShort := by
  have derived : (keySegments (Greeting.call "Hi").base).length ≤ deepest := by
    rw [KeyCall.base, KeyRules.length_keySegments_key _ (by decide)]
    decide
  have set : (keySegments "exit").length ≤ deepest := by decide
  exact List.forall_mem_cons.mpr ⟨derived, List.forall_mem_cons.mpr ⟨set,
    List.forall_mem_singleton.mpr trivial⟩⟩

end Bilingual

namespace Dictionary

theorem flush_keeps_documents_bilingual :
    (∀ a ∈ ["en", "de"], ∀ b ∈ ["en", "de"], a ≠ b →
      LawfulStorage.place Bilingual.disk (Path.join "messages" (a ++ ".json")) ≠
        LawfulStorage.place Bilingual.disk (Path.join "messages" (b ++ ".json"))) ∧
    ((empty "messages" .standard).loadAll Bilingual.disk ["en", "de"]).1 = none ∧
    (∀ edit ∈ Bilingual.edits, edit.IsShort) ∧
    let loaded := ((empty "messages" .standard).loadAll Bilingual.disk ["en", "de"]).2
    let flushed :=
      (Edit.run Bilingual.edits loaded).flush Bilingual.disk ["en", "de"] Bilingual.backups
    flushed.written = ["en", "de"] ∧ ∀ locale ∈ ["en", "de"],
      DocumentKept (Path.join "messages" (locale ++ ".json")) (locale ∈ flushed.written)
        (fun text => text.startsWith Settings.standard.placeholderPrefix = true →
          ∀ edit ∈ Bilingual.edits, ¬ edit.Targets locale) Bilingual.disk flushed.storage := by
  have distinct : ∀ a ∈ ["en", "de"], ∀ b ∈ ["en", "de"], a ≠ b →
      LawfulStorage.place Bilingual.disk (Path.join "messages" (a ++ ".json")) ≠
        LawfulStorage.place Bilingual.disk (Path.join "messages" (b ++ ".json")) := by
    decide +kernel
  have accepted : ((empty "messages" .standard).loadAll Bilingual.disk ["en", "de"]).1 = none := by
    decide +kernel
  exact ⟨distinct, accepted, Bilingual.isShort, by decide +kernel,
    flush_keeps_documents Bilingual.disk "messages" .standard ["en", "de"] Bilingual.edits
      Bilingual.backups distinct accepted Bilingual.isShort⟩

end Dictionary

/-! ## Keys that lead too deep -/

namespace Dictionary

/-- No way in messages that are written and read again is longer than objects of a document can
nest. -/
theorem length_le_of_read_render {d : Dictionary} {locale : String} {depth : Nat}
    (fits : Fits IsRegular depth (d.root locale))
    (proper : ((Table.get? locale d.styles).getD .standard).IsProper) {j : Json}
    (returned : Json.read (d.render locale) = .ok j) {path : List String} {value : Json}
    (found : valueAt? path (d.root locale) = some value) : path.length ≤ deepest := by
  have again := Json.fits_of_read_pretty proper.isBlank_layout Json.read_text fits
    (Style.isBlank_ending _) returned
  have found' : valueAt? path (mapNumbers Json.reread (d.root locale)) =
      some (mapNumbers Json.reread value) := by
    rw [Json.valueAt?_mapNumbers, found]
    rfl
  exact again.length_le found'

end Dictionary

/-! A key that has one name more than objects of a document can nest, and a directory that is found
by way of another one that is not there. -/

namespace Deep

/-- A name, and as many more after points. -/
def spaceName (more : Nat) : String :=
  String.ofList ('a' :: (List.replicate more ['.', 'a']).flatten)

def call : KeyCall where
  rules := ⟨spaceName 125, [], 4, 20⟩
  withinRoot := "page.tsx"
  candidate := ⟨"Verify code", "Verify code", "page.tsx", ⟨1, 1⟩, .markupText, none, ""⟩

/-- One document is empty, and one is blank. -/
def shelf : Shelf := ⟨[("messages/en.json", "\x7b\x7d"), ("messages/de.json", " ")], [], []⟩

def loaded : Dictionary :=
  ((Dictionary.empty "messages" .standard).loadAll shelf ["en", "de"]).2

/-- The documents are accepted, and they hold nothing. -/
theorem accepted : ((Dictionary.empty "messages" .standard).loadAll shelf ["en", "de"]).1 = none ∧
    (loaded.messagesOf "en").isEmpty = true := by
  decide +kernel

theorem isLoaded : Dictionary.IsLoaded (.empty "messages" .standard) shelf ["en", "de"] loaded :=
  Dictionary.isLoaded_empty _ _ _ _ accepted.1

theorem sourceLocale : loaded.sourceLocale = "en" := isLoaded.sourceLocale_eq

theorem documentPath (locale : String) :
    loaded.documentPath locale = Path.join "messages" (locale ++ ".json") := by
  rw [Dictionary.documentPath, isLoaded.directory_eq]
  rfl

theorem free : loaded.probe loaded.sourceLocale call.base call.candidate.text = .free := by
  rw [sourceLocale, Dictionary.probe, Messages.probe, List.isEmpty_iff.mp accepted.2,
    Messages.probeAt_empty]

theorem after_eq : KeyCall.after loaded call = loaded.withNew call.base call.candidate.text :=
  call.after_of_free free

theorem countP_spaceName (more : Nat) :
    (spaceName more).toList.countP (· == '.') = more := by
  have point : ['.', 'a'].countP (· == '.') = 1 := rfl
  rw [spaceName, String.toList_ofList, List.countP_cons, List.countP_flatten, List.map_replicate,
    point, List.sum_replicate_nat, Nat.mul_one]
  rfl

theorem length_base : (keySegments call.base).length = deepest + 1 := by
  have directories : ((Text.splitBy (· == '/') call.withinRoot.toList).filter
      fun s => !s.isEmpty).dropLast = [] := by
    decide
  have outer : call.rules.spaceName call.withinRoot = spaceName 125 := by
    simp only [KeyRules.spaceName, directories, List.find?_nil]
    rfl
  rw [KeyCall.base, KeyRules.length_keySegments_spaceName, outer, countP_spaceName]
  rfl

/-- What is derived is written, and cannot be read. -/
theorem not_read (j : Json) : Json.read ((KeyCall.after loaded call).render "en") ≠ .ok j := by
  intro returned
  have nonempty := Messages.keySegments_ne_nil call.base
  have room := ((isLoaded.isReadable rfl).roots loaded.sourceLocale).mono (Nat.le_succ deepest)
  have proper := isLoaded.isProper loaded.sourceLocale
  rw [after_eq, ← sourceLocale] at returned
  have fits := Messages.fits_putAt call.candidate.text _ nonempty (Nat.le_of_eq length_base) room
  rw [← Dictionary.root_write_self, ← Dictionary.root_withNew] at fits
  have held := ((loaded.gainsLeaf_withNew _ _ free).values _ _ _ (Json.isLeaf_string _)).mpr
    (Or.inr ⟨rfl, rfl, rfl⟩)
  rw [← (loaded.alike_withNew call.base call.candidate.text).styles_eq] at proper
  have short := Dictionary.length_le_of_read_render fits proper returned held
  rw [length_base] at short
  exact Nat.not_succ_le_self _ short

theorem documentPath_after (locale : String) :
    (KeyCall.after loaded call).documentPath locale = loaded.documentPath locale := by
  rw [after_eq, (Dictionary.alike_withNew ..).documentPath_eq]

/-- The dictionary is flushed after the text is derived. -/
theorem flushes : Dictionary.Flushes (KeyCall.after loaded call) shelf ["en", "de"]
    ((KeyCall.after loaded call).flush shelf ["en", "de"] .none) := by
  have distinct : ∀ a ∈ ["en", "de"], ∀ b ∈ ["en", "de"], a ≠ b →
      LawfulStorage.place shelf (loaded.documentPath a) ≠
        LawfulStorage.place shelf (loaded.documentPath b) := by
    simp only [documentPath]
    decide +kernel
  simp only [← documentPath_after] at distinct
  exact .flush distinct Backups.none

theorem written_eq :
    ((KeyCall.after loaded call).flush shelf ["en", "de"] .none).written = ["en"] := by
  rw [after_eq]
  decide +kernel

/-- A disk with one file. -/
def disk : Disk := ⟨[(["de.json".toList], .file (.text "?"))], [], []⟩

end Deep

namespace Dictionary

/-- A text whose key leads too deep is written, but what is written cannot be read. A blank document
stays blank. And where a path leads back from a directory that has to be made, anything may come to
be found. -/
theorem flush_loses_documents :
    (let loaded := (empty "messages" .standard).loadAll Deep.shelf ["en", "de"]
      let edited := Edit.run [.key (.derive Deep.call)] loaded.2
      let flushed := edited.flush Deep.shelf ["en", "de"] .none
      loaded.1 = none ∧
      (∃ now fault, Storage.read flushed.storage "messages/en.json" = .ok now ∧
        Json.read now = .error fault) ∧
      Storage.read flushed.storage "messages/de.json" = .ok " " ∧
      Json.read " " = .error .unexpected) ∧
    let loaded := (empty "new/.." .standard).loadAll Deep.disk ["en", "de"]
    let edited := Edit.run [.set "en" "a" "b"] loaded.2
    let flushed := edited.flush Deep.disk ["en", "de"] .none
    loaded.1 = none ∧ Storage.read flushed.storage "new/../de.json" = .ok "?" ∧
    Json.read "?" = .error .unexpected := by
  have en : Deep.loaded.documentPath "en" = "messages/en.json" :=
    (Deep.documentPath "en").trans (by decide +kernel)
  have de : Deep.loaded.documentPath "de" = "messages/de.json" :=
    (Deep.documentPath "de").trans (by decide +kernel)
  have written := Deep.flushes.written "en" (by decide) (by rw [Deep.written_eq]; decide)
  have blank := (Deep.flushes.others "de" (by decide) (by rw [Deep.written_eq]; decide)).kept " "
  rw [Deep.documentPath_after, en, ← Edit.run_derive, Deep.loaded] at written
  rw [Deep.documentPath_after, de, ← Edit.run_derive, Deep.loaded] at blank
  refine ⟨⟨Deep.accepted.1, ?_, blank rfl, by rfl⟩, by decide +kernel, by decide +kernel, by rfl⟩
  cases returned : Json.read ((KeyCall.after Deep.loaded Deep.call).render "en") with
  | ok j => exact absurd returned (Deep.not_read j)
  | error fault =>
    rw [← Edit.run_derive, Deep.loaded] at returned
    exact ⟨_, fault, written, returned⟩

end Dictionary

end Phrasebook
