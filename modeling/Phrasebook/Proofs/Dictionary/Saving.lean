import Phrasebook.Proofs.Dictionary.Remembering
import Phrasebook.Proofs.Storage.Copies
import Phrasebook.Proofs.Storage.Shelf

/-!
# Documents are saved one by one

On a shelf a flush writes the document of each dirty locale, after the old one was put aside, or it
leaves the document alone and says so. A document that was refused stays refused, so a locale that
is listed twice is not both. Nothing else changes but what is put aside.
-/

namespace Phrasebook

/-! ## Copies -/

namespace Backups

variable (backups : Backups) (shelf : Shelf) (path : String)

/-- A file that is there cannot be put aside. -/
def IsStuck : Prop :=
  backups.enabled = true ∧ Storage.holds shelf path = true ∧
    ((∀ text, Storage.read shelf path ≠ .ok text) ∨ shelf.denies (backups.place path) = true)

/-- What becomes of a file that is to be put aside: that fails and changes nothing, there is nothing
to do, or the copy is made. -/
theorem save_cases :
    (∃ e, backups.save shelf path = (.error e, shelf) ∧ backups.IsStuck shelf path) ∨
    (∃ target, backups.save shelf path = (.ok target, shelf) ∧ ¬ backups.IsStuck shelf path ∧
      (backups.enabled = true → ∀ text, Storage.read shelf path ≠ .ok text)) ∨
    ∃ text target, backups.save shelf path = (.ok target, shelf.hold (backups.place path) text) ∧
      ¬ backups.IsStuck shelf path ∧ backups.enabled = true ∧
        Storage.read shelf path = .ok text := by
  unfold save
  by_cases there : (backups.enabled && Storage.holds shelf path) = true
  · rw [if_pos there]
    obtain ⟨enabled, held⟩ := Bool.and_eq_true_iff.mp there
    dsimp only
    cases read : Storage.read shelf path with
    | error e =>
      rw [shelf.copy_of_error read]
      exact .inl ⟨e, rfl, enabled, held, .inl (by simp [read])⟩
    | ok text =>
      rw [shelf.copy_of_read read]
      by_cases denied : shelf.denies (backups.place path) = true
      · rw [shelf.write_eq_of_denies denied]
        exact .inl ⟨_, rfl, enabled, held, .inr denied⟩
      · rw [shelf.write_eq_hold (Bool.eq_false_iff.mpr denied)]
        refine .inr (.inr ⟨text, _, rfl, ?_, enabled, rfl⟩)
        rintro ⟨-, -, unreadable | stuck⟩
        · exact unreadable text read
        · exact denied stuck
  · rw [if_neg there]
    rw [Bool.and_eq_true] at there
    refine .inr (.inl ⟨_, rfl, fun ⟨enabled, held, _⟩ => there ⟨enabled, held⟩,
      fun enabled text read => there ⟨enabled, ?_⟩⟩)
    exact LawfulStorage.holds_of_read shelf path text read

/-- A file cannot be saved: it cannot be put aside, or not be written. -/
def IsRefused : Prop := backups.IsStuck shelf path ∨ shelf.denies path = true

/-- The shelf once a file, if there is one, is put aside. -/
inductive Aside : Shelf → Prop
  | same : Aside shelf
  | copy (text : String) : backups.enabled = true → Storage.read shelf path = .ok text →
      Aside (shelf.hold (backups.place path) text)

/-- A copy that should be there is there. -/
def Copied (before after : Shelf) : Prop :=
  backups.enabled = true → ∀ old, Storage.read before path = .ok old →
    Storage.read after (backups.place path) = .ok old

variable {backups shelf path}

/-- What is refused is refused whatever else is written. -/
theorem isRefused_hold {target text : String}
    (apart : Path.components path.toList ≠ Path.components target.toList) :
    backups.IsRefused shelf path → backups.IsRefused (shelf.hold target text) path := by
  rintro (⟨on, held, unreadable | denied⟩ | denied)
  · refine .inl ⟨on, shelf.holds_hold target text held, .inl fun other => ?_⟩
    rw [shelf.read_hold_of_ne target text apart]
    exact unreadable other
  · exact .inl ⟨on, shelf.holds_hold target text held, .inr denied⟩
  · exact .inr denied

/-- Putting a file aside does not decide whether it is refused. -/
theorem Aside.isRefused_iff {changed : Shelf} (put : backups.Aside shelf path changed)
    (apart : Path.components path.toList ≠ Path.components (backups.place path).toList) :
    backups.IsRefused changed path ↔ backups.IsRefused shelf path := by
  cases put with
  | same => exact .rfl
  | copy text on read =>
    refine ⟨?_, isRefused_hold apart⟩
    rintro (⟨-, -, unreadable | denied⟩ | denied)
    · exact absurd ((shelf.read_hold_of_ne _ text apart).trans read) (unreadable text)
    · exact .inl ⟨on, LawfulStorage.holds_of_read shelf path text read, .inr denied⟩
    · exact .inr denied

end Backups

namespace Dictionary

/-! ## Documents -/

/-- The file names of documents. -/
theorem isName_document {locale : String} (plain : '/' ∉ locale.toList) :
    Path.IsName (locale ++ ".json").toList ∧ (locale ++ ".json").toList ≠ ['.', '.'] := by
  have json : ".json".toList = ['.', 'j', 's', 'o', 'n'] := by rfl
  have long (short : List Char) (size : short.length ≤ 4) : (locale ++ ".json").toList ≠ short := by
    intro same
    have length := congrArg List.length same
    rw [String.toList_append, json, List.length_append] at length
    simp only [List.length_cons, List.length_nil] at length
    omega
  refine ⟨⟨long [] (by decide), ?_, long _ (by decide)⟩, long _ (by decide)⟩
  rw [String.toList_append, json]
  simp [plain]

variable (d : Dictionary) {a b : String}

theorem documentPath_eq (locale : String) : d.documentPath locale =
    Path.join d.directory (String.ofList (locale ++ ".json").toList) := by
  rw [String.ofList_toList, documentPath]

theorem document_name_ne (differ : a ≠ b) : (a ++ ".json").toList ≠ (b ++ ".json").toList := by
  intro same
  rw [String.toList_append, String.toList_append] at same
  exact differ (String.toList_inj.mp (List.append_cancel_right same))

/-- Documents of different locales have different paths. -/
theorem components_document_ne (plain : '/' ∉ a.toList) (plain' : '/' ∉ b.toList) (differ : a ≠ b) :
    Path.components (d.documentPath a).toList ≠ Path.components (d.documentPath b).toList := by
  have joined {locale : String} (plain : '/' ∉ locale.toList) :
      Path.components (d.documentPath locale).toList =
        Path.components d.directory.toList ++ [(locale ++ ".json").toList] := by
    have single : String.ofList (locale ++ ".json").toList =
        Path.ofComponents [(locale ++ ".json").toList] := by
      rw [Path.ofComponents, List.intercalate_singleton]
    rw [documentPath_eq, single]
    exact Path.components_join d.directory (List.cons_ne_nil _ _)
      (by simpa using (isName_document plain).1)
  rw [joined plain, joined plain']
  intro same
  exact document_name_ne differ (List.cons.inj (List.append_cancel_left same)).1

/-- Copies of them do, too. -/
theorem components_copy_ne (backups : Backups) (plain : '/' ∉ a.toList) (plain' : '/' ∉ b.toList)
    (differ : a ≠ b) : Path.components (backups.place (d.documentPath a)).toList ≠
      Path.components (backups.place (d.documentPath b)).toList := by
  rw [documentPath_eq, documentPath_eq]
  exact backups.components_place_ne d.directory (isName_document plain) (isName_document plain')
    (document_name_ne differ)

/-- No copy takes the place of a document. -/
theorem components_document_ne_copy (backups : Backups) (locale path : String) :
    Path.components (d.documentPath locale).toList ≠
      Path.components (backups.place path).toList :=
  LawfulStorage.place_ne (⟨[], [], []⟩ : Shelf) d.directory locale backups path

/-! ## Steps -/

namespace Flush

/-- A dirty locale is refused, or its document is written over the one put aside. -/
theorem step_dirty {f : Flush Shelf} {backups : Backups} {locale path : String}
    (marked : f.dictionary.isDirty locale = true)
    (place : f.dictionary.documentPath locale = path) :
    (backups.IsRefused f.storage path ∧ ∃ shelf reason, backups.Aside f.storage path shelf ∧
      f.step backups locale = { f with storage := shelf }.fail path reason) ∨
    (¬ backups.IsRefused f.storage path ∧ ∃ shelf, backups.Aside f.storage path shelf ∧
      backups.Copied path f.storage shelf ∧ f.step backups locale =
        settle { f with storage := shelf.hold path (f.dictionary.render locale) } locale) := by
  subst place
  unfold step
  rw [if_pos marked]
  dsimp only
  rcases backups.save_cases f.storage (f.dictionary.documentPath locale) with
    ⟨e, failed, stuck⟩ | ⟨target, idle, unstuck, empty⟩ | ⟨text, target, copied, unstuck, on, read⟩
  · rw [failed]
    exact .inl ⟨.inl stuck, _, _, .same, rfl⟩
  · rw [idle]
    dsimp only
    by_cases denied : f.storage.denies (f.dictionary.documentPath locale) = true
    · rw [Shelf.write_eq_of_denies _ denied]
      exact .inl ⟨.inr denied, _, _, .same, rfl⟩
    · rw [Shelf.write_eq_hold _ (Bool.eq_false_iff.mpr denied)]
      exact .inr ⟨not_or.mpr ⟨unstuck, denied⟩, _, .same,
        fun on old read => absurd read (empty on old), rfl⟩
  · rw [copied]
    dsimp only
    by_cases denied : f.storage.denies (f.dictionary.documentPath locale) = true
    · rw [Shelf.write_eq_of_denies _ (by rwa [Shelf.denies_hold])]
      exact .inl ⟨.inr denied, _, _, .copy text on read, rfl⟩
    · rw [Shelf.write_eq_hold _ (by rwa [Shelf.denies_hold, ← Bool.not_eq_true])]
      refine .inr ⟨not_or.mpr ⟨unstuck, denied⟩, _, .copy text on read, fun _ old held => ?_, rfl⟩
      cases read.symm.trans held
      exact Shelf.read_hold ..

theorem step_clean {f : Flush Shelf} {backups : Backups} {locale : String}
    (clean : f.dictionary.isDirty locale = false) : f.step backups locale = f :=
  if_neg (by simp [clean])

/-- The document of a locale is reported as not saved. -/
def Reports (d : Dictionary) (failures : List Failure) (locale : String) : Prop :=
  ∃ reason, .storage (d.documentPath locale) reason ∈ failures

/-- What a flush of a dictionary to a shelf has done so far. -/
structure Saves (d : Dictionary) (shelf : Shelf) (locales : List String) (backups : Backups)
    (f : Flush Shelf) : Prop where
  dictionary_eq : f.dictionary = { d with
    dirty := d.dirty.filter (!f.written.contains ·)
    pending := if d.sourceLocale ∈ f.written then [] else d.pending }
  once : f.written.Nodup
  marked : ∀ locale ∈ f.written, locale ∈ locales ∧ d.isDirty locale = true
  documents : ∀ locale ∈ f.written,
    Storage.read f.storage (d.documentPath locale) = .ok (d.render locale)
  copies : ∀ locale ∈ f.written, backups.Copied (d.documentPath locale) shelf f.storage
  failures : ∀ failure ∈ f.failures, ∃ locale ∈ locales, d.isDirty locale = true ∧
    locale ∉ f.written ∧ backups.IsRefused f.storage (d.documentPath locale) ∧
      ∃ reason, failure = .storage (d.documentPath locale) reason
  elsewhere : ∀ path,
    (∀ locale ∈ f.written,
      Path.components path.toList ≠ Path.components (d.documentPath locale).toList) →
    (∀ locale ∈ locales, d.isDirty locale = true → backups.enabled = true →
      ∀ old, Storage.read shelf (d.documentPath locale) = .ok old →
        Path.components path.toList ≠
          Path.components (backups.place (d.documentPath locale)).toList) →
    Storage.read f.storage path = Storage.read shelf path

namespace Saves

variable {d : Dictionary} {shelf changed : Shelf} {locales : List String} {backups : Backups}
  {f : Flush Shelf} {locale : String}

theorem start (d : Dictionary) (shelf : Shelf) (locales : List String) (backups : Backups) :
    Saves d shelf locales backups ⟨d, shelf, [], []⟩ where
  dictionary_eq := by
    have all : d.dirty.filter (fun locale => !([] : List String).contains locale) = d.dirty :=
      List.filter_eq_self.mpr fun _ _ => rfl
    rw [all, if_neg List.not_mem_nil]
  once := .nil
  marked := fun _ member => absurd member List.not_mem_nil
  documents := fun _ member => absurd member List.not_mem_nil
  copies := fun _ member => absurd member List.not_mem_nil
  failures := fun _ member => absurd member List.not_mem_nil
  elsewhere := fun _ _ _ => rfl

theorem documentPath_eq (saves : Saves d shelf locales backups f) (locale : String) :
    f.dictionary.documentPath locale = d.documentPath locale := by
  rw [saves.dictionary_eq]
  rfl

theorem render_eq (saves : Saves d shelf locales backups f) (locale : String) :
    f.dictionary.render locale = d.render locale := by
  rw [saves.dictionary_eq]
  rfl

theorem isDirty_eq (saves : Saves d shelf locales backups f) (locale : String) :
    f.dictionary.isDirty locale = (d.isDirty locale && !f.written.contains locale) := by
  rw [saves.dictionary_eq, Bool.eq_iff_iff]
  simp [isDirty, and_comm]

variable (plain : ∀ locale ∈ locales, '/' ∉ locale.toList)

include plain

/-- A document that was not written is as it was. -/
theorem unwritten_eq (saves : Saves d shelf locales backups f) (listed : locale ∈ locales)
    (unwritten : locale ∉ f.written) : Storage.read f.storage (d.documentPath locale) =
      Storage.read shelf (d.documentPath locale) := by
  refine saves.elsewhere _ (fun other done => ?_) fun other _ _ _ _ _ =>
    d.components_document_ne_copy backups locale _
  exact d.components_document_ne (plain locale listed) (plain other (saves.marked other done).1)
    fun same => unwritten (same ▸ done)

/-- Putting a document aside touches neither documents nor other copies. -/
theorem aside (saves : Saves d shelf locales backups f) (listed : locale ∈ locales)
    (dirty : d.isDirty locale = true) (unwritten : locale ∉ f.written)
    (put : backups.Aside f.storage (d.documentPath locale) changed) :
    Saves d shelf locales backups { f with storage := changed } := by
  cases put with
  | same => exact saves
  | copy text on read =>
    have documents (other : String) := d.components_document_ne_copy backups other
      (d.documentPath locale)
    exact {
      saves with
      documents := fun other done =>
        (f.storage.read_hold_of_ne _ text (documents other)).trans (saves.documents other done)
      copies := fun other done on old held => by
        refine (f.storage.read_hold_of_ne _ text ?_).trans (saves.copies other done on old held)
        exact d.components_copy_ne backups (plain other (saves.marked other done).1)
          (plain locale listed) fun same => unwritten (same ▸ done)
      failures := fun failure member => by
        obtain ⟨other, known, marked, waits, refused, said⟩ := saves.failures failure member
        exact ⟨other, known, marked, waits, Backups.isRefused_hold (documents other) refused, said⟩
      elsewhere := fun path outside apart => by
        refine (f.storage.read_hold_of_ne _ text ?_).trans (saves.elsewhere path outside apart)
        exact apart locale listed dirty on text
          ((saves.unwritten_eq plain listed unwritten).symm.trans read) }

omit plain in
/-- A document that is refused is reported. -/
theorem fail (saves : Saves d shelf locales backups f) (listed : locale ∈ locales)
    (dirty : d.isDirty locale = true) (unwritten : locale ∉ f.written)
    (refused : backups.IsRefused f.storage (d.documentPath locale)) (reason : String) :
    Saves d shelf locales backups (f.fail (d.documentPath locale) reason) where
  dictionary_eq := saves.dictionary_eq
  once := saves.once
  marked := saves.marked
  documents := saves.documents
  copies := saves.copies
  failures := fun failure member => by
    rcases List.mem_append.mp member with old | new
    · exact saves.failures failure old
    · rw [List.mem_singleton] at new
      exact ⟨locale, listed, dirty, unwritten, refused, reason, new⟩
  elsewhere := saves.elsewhere

/-- A document is written, unless it is refused. -/
theorem settle (saves : Saves d shelf locales backups f) (listed : locale ∈ locales)
    (dirty : d.isDirty locale = true) (unwritten : locale ∉ f.written)
    (free : ¬ backups.IsRefused f.storage (d.documentPath locale))
    (copied : backups.Copied (d.documentPath locale) shelf f.storage) :
    Saves d shelf locales backups (Flush.settle
      { f with storage := f.storage.hold (d.documentPath locale) (d.render locale) } locale) := by
  have others {other : String} (known : other ∈ locales) (differs : other ≠ locale) :=
    d.components_document_ne (plain other known) (plain locale listed) differs
  have aside (path : String) := (d.components_document_ne_copy backups locale path).symm
  -- What is said of a written document is said of the earlier ones or of this one.
  have both (other : String) (done : other ∈ f.written ++ [locale]) :
      other ∈ f.written ∧ other ≠ locale ∨ other = locale := by
    rcases List.mem_append.mp done with before | here
    · exact .inl ⟨before, fun same => unwritten (same ▸ before)⟩
    · exact .inr (List.mem_singleton.mp here)
  refine ⟨?_, ?_, fun other done => ?_, fun other done => ?_, fun other done on old held => ?_,
    fun failure member => ?_, fun path outside apart => ?_⟩
  · exact Flush.dictionary_settle saves.dictionary_eq _ locale
  · rw [Flush.settle, List.nodup_append]
    exact ⟨saves.once, List.nodup_singleton locale, fun other done here same =>
      fun equal => unwritten (by rw [← List.mem_singleton.mp same, ← equal]; exact done)⟩
  · rcases both other done with ⟨before, -⟩ | rfl
    · exact saves.marked other before
    · exact ⟨listed, dirty⟩
  · rcases both other done with ⟨before, differs⟩ | rfl
    · exact (f.storage.read_hold_of_ne _ _ (others (saves.marked other before).1 differs)).trans
        (saves.documents other before)
    · exact f.storage.read_hold _ _
  · refine (f.storage.read_hold_of_ne _ _ (aside _)).trans ?_
    rcases both other done with ⟨before, -⟩ | rfl
    · exact saves.copies other before on old held
    · exact copied on old held
  · obtain ⟨other, known, marked, waits, refused, said⟩ := saves.failures failure member
    have differs : other ≠ locale := fun same => free (same ▸ refused)
    refine ⟨other, known, marked, fun done => ?_,
      Backups.isRefused_hold (others known differs) refused, said⟩
    rcases both other done with ⟨before, -⟩ | same
    · exact waits before
    · exact differs same
  · refine (f.storage.read_hold_of_ne _ _ (outside locale ?_)).trans
      (saves.elsewhere path (fun other done => outside other (List.mem_append_left _ done)) apart)
    exact List.mem_append_right _ (List.mem_singleton_self locale)

/-- One more locale is tried. -/
theorem step (saves : Saves d shelf locales backups f) (listed : locale ∈ locales) :
    Saves d shelf locales backups (f.step backups locale) := by
  by_cases marked : f.dictionary.isDirty locale = true
  · have known := saves.isDirty_eq locale
    rw [marked, eq_comm, Bool.and_eq_true, Bool.not_eq_true', ← Bool.not_eq_true,
      List.contains_iff_mem] at known
    obtain ⟨dirty, unwritten⟩ := known
    rcases step_dirty marked (saves.documentPath_eq locale) with
      ⟨refused, changed, reason, put, same⟩ | ⟨free, changed, put, copied, same⟩
    · rw [same]
      exact (saves.aside plain listed dirty unwritten put).fail listed dirty unwritten
        ((put.isRefused_iff (d.components_document_ne_copy backups locale _)).mpr refused) reason
    · rw [same, saves.render_eq]
      refine (saves.aside plain listed dirty unwritten put).settle plain listed dirty unwritten
        (mt (put.isRefused_iff (d.components_document_ne_copy backups locale _)).mp free)
        fun on old held => ?_
      exact copied on old ((saves.unwritten_eq plain listed unwritten).trans held)
  · rw [step_clean (Bool.eq_false_iff.mpr marked)]
    exact saves

omit plain in
/-- A dirty locale that is tried is written or reported. -/
theorem tried (saves : Saves d shelf locales backups f) (dirty : d.isDirty locale = true) :
    locale ∈ (f.step backups locale).written ∨
      Reports d (f.step backups locale).failures locale := by
  by_cases marked : f.dictionary.isDirty locale = true
  · rcases step_dirty marked (saves.documentPath_eq locale) with
      ⟨-, changed, reason, -, same⟩ | ⟨-, changed, -, -, same⟩
    · rw [same]
      exact .inr ⟨reason, List.mem_append_right _ (List.mem_singleton_self _)⟩
    · rw [same]
      exact .inl (List.mem_append_right _ (List.mem_singleton_self _))
  · have known := saves.isDirty_eq locale
    rw [Bool.eq_false_iff.mpr marked, dirty, Bool.true_and, eq_comm, Bool.not_eq_false',
      List.contains_iff_mem] at known
    rw [step_clean (Bool.eq_false_iff.mpr marked)]
    exact .inl known

theorem foldl (saves : Saves d shelf locales backups f) (part : List String)
    (listed : part ⊆ locales) :
    Saves d shelf locales backups (part.foldl (fun f locale => f.step backups locale) f) :=
  List.foldlRecOn (motive := Saves d shelf locales backups) part _ saves
    fun _ now _ member => now.step plain (listed member)

end Saves

/-- A flush saves documents one by one. Each dirty locale of those listed is written, with what was
there put aside, or it is reported and left as it was; nothing else changes but the copies. -/
structure IsAtomic (d : Dictionary) (shelf : Shelf) (locales : List String) (backups : Backups)
    (f : Flush Shelf) : Prop where
  messages_eq : f.dictionary.messages = d.messages
  styles_eq : f.dictionary.styles = d.styles
  isDirty_eq : ∀ locale,
    f.dictionary.isDirty locale = (d.isDirty locale && !f.written.contains locale)
  pending_eq : f.dictionary.pending = if d.sourceLocale ∈ f.written then [] else d.pending
  once : f.written.Nodup
  written : ∀ locale ∈ f.written, locale ∈ locales ∧ d.isDirty locale = true ∧
    ¬ Reports d f.failures locale ∧
    Storage.read f.storage (d.documentPath locale) = .ok (d.render locale) ∧
    backups.Copied (d.documentPath locale) shelf f.storage
  unwritten : ∀ locale ∈ locales, d.isDirty locale = true → locale ∉ f.written →
    Reports d f.failures locale ∧ Storage.read f.storage (d.documentPath locale) =
      Storage.read shelf (d.documentPath locale)
  /-- Only locales that could not be saved are reported. -/
  failures : ∀ failure ∈ f.failures, ∃ locale ∈ locales, d.isDirty locale = true ∧
    locale ∉ f.written ∧ ∃ reason, failure = .storage (d.documentPath locale) reason
  elsewhere : ∀ path,
    (∀ locale ∈ f.written,
      Path.components path.toList ≠ Path.components (d.documentPath locale).toList) →
    (∀ locale ∈ locales, d.isDirty locale = true → backups.enabled = true →
      ∀ old, Storage.read shelf (d.documentPath locale) = .ok old →
        Path.components path.toList ≠
          Path.components (backups.place (d.documentPath locale)).toList) →
    Storage.read f.storage path = Storage.read shelf path

end Flush

/-- On a shelf, whatever it denies, a flush is atomic for each locale, whichever locales are listed
and however often. -/
theorem flush_isAtomic (d : Dictionary) (shelf : Shelf) (locales : List String)
    (plain : ∀ locale ∈ locales, '/' ∉ locale.toList) (backups : Backups) :
    (d.flush shelf locales backups).IsAtomic d shelf locales backups := by
  have start := Flush.Saves.start d shelf locales backups
  have saves : Flush.Saves d shelf locales backups (d.flush shelf locales backups) :=
    start.foldl plain locales (List.Subset.refl _)
  -- What is reported stays so, and each locale is tried somewhere in the list.
  have tried {locale : String} (listed : locale ∈ locales) (dirty : d.isDirty locale = true) :
      locale ∈ (d.flush shelf locales backups).written ∨
        Flush.Reports d (d.flush shelf locales backups).failures locale := by
    obtain ⟨first, rest, rfl⟩ := List.append_of_mem listed
    rw [flush, List.foldl_append, List.foldl_cons]
    have before := start.foldl plain first (List.subset_append_left _ _)
    generalize first.foldl _ _ = f at before ⊢
    have after := Flush.proceeds_foldl backups rest (f.step backups locale)
    rcases before.tried dirty with done | ⟨reason, said⟩
    · exact .inl (after.written done)
    · exact .inr ⟨reason, after.failures said⟩
  exact {
    messages_eq := by rw [saves.dictionary_eq]
    styles_eq := by rw [saves.dictionary_eq]
    isDirty_eq := saves.isDirty_eq
    pending_eq := by rw [saves.dictionary_eq]
    once := saves.once
    written := fun locale done => by
      obtain ⟨listed, dirty⟩ := saves.marked locale done
      refine ⟨listed, dirty, ?_, saves.documents locale done, saves.copies locale done⟩
      rintro ⟨reason, said⟩
      obtain ⟨other, known, -, waits, -, _, same⟩ := saves.failures _ said
      have paths := congrArg (fun path => Path.components path.toList) (Failure.storage.inj same).1
      exact d.components_document_ne (plain locale listed) (plain other known)
        (fun equal => waits (equal ▸ done)) paths
    unwritten := fun locale listed dirty waits =>
      ⟨(tried listed dirty).resolve_left waits, saves.unwritten_eq plain listed waits⟩
    failures := fun failure said => by
      obtain ⟨locale, listed, dirty, waits, -, reason, same⟩ := saves.failures failure said
      exact ⟨locale, listed, dirty, waits, reason, same⟩
    elsewhere := saves.elsewhere }

/-! Two locales, of which one cannot be written. -/

namespace Halfway

def dictionary : Dictionary where
  directory := "m"
  sourceLocale := "en"
  placeholderPrefix := "?"
  messages := [("en", [("a", .string "x")]), ("fr", [("a", .string "y")])]
  styles := []
  pending := ["a"]
  dirty := ["fr", "en"]

def shelf : Shelf := ⟨[("m/en.json", "\x7b\x7d"), ("m/fr.json", "\x7b\x7d")], ["m/fr.json"], []⟩

def backups : Backups := ⟨"", "b", "s", true⟩

end Halfway

/-- Both locales are listed twice; each time the one is written or clean, and the other refused. -/
theorem flush_isAtomic_halfway :
    (∀ locale ∈ ["fr", "en", "fr", "en"], '/' ∉ locale.toList) ∧
    (Halfway.dictionary.flush Halfway.shelf ["fr", "en", "fr", "en"] Halfway.backups).IsAtomic
      Halfway.dictionary Halfway.shelf ["fr", "en", "fr", "en"] Halfway.backups ∧
    (Halfway.dictionary.flush Halfway.shelf ["fr", "en", "fr", "en"] Halfway.backups).written =
      ["en"] ∧
    Storage.read (Halfway.dictionary.flush Halfway.shelf ["fr", "en", "fr", "en"]
      Halfway.backups).storage "b/m/en.json.s.bak" = .ok "\x7b\x7d" := by
  have plain : ∀ locale ∈ ["fr", "en", "fr", "en"], '/' ∉ locale.toList := by decide
  exact ⟨plain, flush_isAtomic _ _ _ plain _, by decide +kernel, by decide +kernel⟩

end Dictionary

end Phrasebook
