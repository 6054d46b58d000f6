import Phrasebook.Proofs.Dictionary.Awaiting
import Phrasebook.Proofs.Dictionary.Flushing
import Phrasebook.Proofs.Dictionary.Remembering

/-!
# Nothing is forgotten

Once documents are loaded, keys are derived, texts are put under keys, new keys are propagated and
documents are written, in any order and again and again, and some documents may fail to be written.
At any time a locale that is not its document is dirty, and a value of the source locale that is not
in its document waits.
-/

namespace Phrasebook

open Json (IsLeaf deepest mapNumbersMembers valueAt?)

/-- Messages as a document holds them: as they are, or as what is written is read. -/
def Messages.Reflects (stored messages : Messages) : Prop :=
  stored = messages ∨ stored = mapNumbersMembers Json.reread messages

/-- What a document holds has a value wherever the messages have one. -/
theorem Messages.Reflects.covers {stored messages : Messages} (reflects : Reflects stored messages)
    {path : List String} {value : Json} (leaf : value.IsLeaf)
    (found : valueAt? path (.object messages) = some value) :
    ∃ held : Json, held.IsLeaf ∧ valueAt? path (.object stored) = some held := by
  rcases reflects with rfl | rfl
  · exact ⟨value, leaf, found⟩
  · refine ⟨Json.mapNumbers Json.reread value, Json.isLeaf_mapNumbers.mpr leaf, ?_⟩
    have again := Json.valueAt?_mapNumbers (f := Json.reread) path (.object messages)
    rw [found] at again
    exact again

namespace Dictionary

/-! ## Edits -/

/-- What an edit of a dictionary accounts for: changed locales are dirty, and what the source locale
gains has a key that waits. -/
structure Accounts (before after : Dictionary) : Prop where
  alike : Alike before after
  remembers : Remembers before after
  readable : after.IsReadable
  pending : before.pending ⊆ after.pending
  gains : ∀ path value, value.IsLeaf →
    valueAt? path (after.root before.sourceLocale) = some value →
      (∃ held : Json, held.IsLeaf ∧ valueAt? path (before.root before.sourceLocale) = some held) ∨
        ∃ key ∈ after.pending, keySegments key = path

namespace Accounts

variable {d : Dictionary} (readable : d.IsReadable)

include readable

theorem refl : Accounts d d where
  alike := .refl d
  remembers := .refl d
  readable := readable
  pending := List.Subset.refl _
  gains := fun _ value leaf found => .inl ⟨value, leaf, found⟩

theorem derive {call : KeyCall} (short : (keySegments call.base).length ≤ deepest) :
    Accounts d ((Addition.derive call).after d) := by
  simp only [Addition.after]
  have kept : Kept (fun _ _ => False) d (KeyCall.after d call) := Edit.kept_derive readable short
  rcases call.after_cases d with same | ⟨n, free, same⟩ <;> rw [same] at kept ⊢
  · exact refl readable
  · have waits : Key.suffixed call.base n ∈
        (d.withNew (Key.suffixed call.base n) call.candidate.text).pending := by
      rw [pending_withNew]
      exact List.mem_append_right _ List.mem_cons_self
    refine ⟨alike_withNew .., remembers_withNew .., kept.readable, ?_, fun path value leaf found => ?_⟩
    · rw [pending_withNew]
      exact List.subset_append_left _ _
    · rcases ((d.gainsLeaf_withNew _ _ free).values _ path value leaf).mp found with
        old | ⟨-, rfl, -⟩
      · exact .inl ⟨value, leaf, old⟩
      · exact .inr ⟨_, waits, rfl⟩

section

variable {locale key text : String} (short : (keySegments key).length ≤ deepest)

include short

/-- A text that is put where nothing is waits, if it is one of the source locale. -/
theorem add (free : d.probe locale key text = .free) :
    Accounts d ((d.write locale key text).await locale key) := by
  have written : Kept (fun _ _ => False) d (d.write locale key text) :=
    kept_write_of_free readable short free
  have kept : Kept (fun _ _ => False) d ((d.write locale key text).await locale key) :=
    written.trans (kept_await written.readable short)
  refine ⟨(d.alike_write ..).trans (alike_await ..), ?_, kept.readable, ?_,
    fun path value leaf found => ?_⟩
  · exact (d.remembers_write ..).trans (remembers_await ..)
  · have same := d.pending_write locale key text
    exact same ▸ (d.write locale key text).pending_await locale key
  · rw [root_await] at found
    rcases (d.valueAt?_write _ _ _ free _ path value leaf).mp found with old | ⟨source, rfl, -⟩
    · exact .inl ⟨value, leaf, old⟩
    · refine .inr ⟨key, ?_, rfl⟩
      rw [await, if_pos (source.symm.trans (sourceLocale_write ..).symm)]
      exact List.mem_append_right _ List.mem_cons_self

/-- Another text takes the place of a value. -/
theorem replace {held : String} (different : d.probe locale key text = .different held) :
    Accounts d (d.write locale key text) := by
  have kept : Kept (fun _ _ => False) d (d.write locale key text) :=
    kept_write_of_different readable short different id
  obtain ⟨old, found, leaf, -⟩ := (d.probe_eq_different_iff locale key text held).mp different
  have clear := (d.clear_iff locale key text).mpr (by simp [different])
  refine ⟨d.alike_write .., d.remembers_write .., kept.readable,
    fun _ waits => (d.pending_write ..).symm ▸ waits, fun path value leaf' now => .inl ?_⟩
  rcases (valueAt?_write_of_clear _ clear _ _ _ leaf').mp now with ⟨here, -⟩ | ⟨-, before⟩
  · cases here
    exact ⟨old, leaf, found⟩
  · exact ⟨value, leaf', before⟩

theorem set (overwrite : Bool) : Accounts d ((Addition.set locale key text overwrite).after d) := by
  simp only [Addition.after, Dictionary.set]
  cases looked : d.probe locale key text with
  | same | blocked => exact refl readable
  | free => exact add readable short looked
  | different held =>
    cases overwrite with
    | true => exact replace readable short looked
    | false => exact refl readable

end

theorem propagate (targets : List String) :
    Accounts d (d.propagate d.sourceLocale targets).dictionary := by
  have kept : Kept (fun _ _ => False) d (d.propagate d.sourceLocale targets).dictionary :=
    kept_propagate readable fun _ _ _ _ _ => id
  have fills := d.fills_propagate d.sourceLocale targets
  refine ⟨d.alike_propagate .., d.remembers_propagate .., kept.readable,
    fun _ waits => fills.pending_eq.symm ▸ waits, fun path value leaf found => ?_⟩
  rw [fills.roots d.sourceLocale (d.not_asked_source d.sourceLocale targets)] at found
  exact .inl ⟨value, leaf, found⟩

end Accounts

/-- New keys keep waiting while they are propagated. -/
theorem Awaits.propagated {d : Dictionary} (awaits : Awaits d.sourceLocale d)
    (targets : List String) :
    Awaits d.sourceLocale (d.propagate d.sourceLocale targets).dictionary := by
  have fills := d.fills_propagate d.sourceLocale targets
  refine awaits.of_texts fills.pending_eq fun key text held => ⟨text, ?_⟩
  rw [fills.leaf?_source (d.not_asked_source d.sourceLocale targets)]
  exact held

/-! ## Documents and what is known of them -/

variable {σ : Type} [Storage σ]

/-- The document of a locale holds these messages; one that is not there holds none. -/
def DocumentHolds (d : Dictionary) (storage : σ) (locale : String) (messages : Messages) : Prop :=
  (∃ text, Storage.read storage (d.documentPath locale) = .ok text ∧
    Messages.ofDocument (d.documentPath locale) text = .ok messages) ∨
  (∀ text, Storage.read storage (d.documentPath locale) ≠ .ok text) ∧ messages = []

/-- Of each locale it is known whether it may differ from its document, and of the source locale
which keys its document lacks. -/
structure IsBooked (d : Dictionary) (storage : σ) (locales : List String) : Prop where
  /-- What differs from its document is dirty. -/
  dirty : ∀ locale ∈ locales, ∃ stored, d.DocumentHolds storage locale stored ∧
    (¬ stored.Reflects (d.messagesOf locale) → d.isDirty locale = true)
  /-- What the document of the source locale lacks waits. -/
  waits : ∀ stored, d.DocumentHolds storage d.sourceLocale stored →
    ∀ path value, value.IsLeaf → valueAt? path (d.root d.sourceLocale) = some value →
      (∃ held : Json, held.IsLeaf ∧ valueAt? path (.object stored) = some held) ∨
        ∃ key ∈ d.pending, keySegments key = path
  nodup : d.pending.Nodup
  held : ∀ key ∈ d.pending, ∃ text, d.leaf? d.sourceLocale key = some text

namespace DocumentHolds

variable {d : Dictionary} {storage : σ} {locale : String} {a b : Messages}

/-- A document that is there holds what is parsed of it. -/
theorem iff_of_read {text : String}
    (read : Storage.read storage (d.documentPath locale) = .ok text) :
    d.DocumentHolds storage locale a ↔ Messages.ofDocument (d.documentPath locale) text = .ok a := by
  constructor
  · rintro (⟨other, read', parsed⟩ | ⟨missing, -⟩)
    · cases read.symm.trans read'
      exact parsed
    · exact absurd read (missing text)
  · exact fun parsed => .inl ⟨text, read, parsed⟩

theorem not_of_read {α : Type} (f : Messages → α) {text : String}
    (read : Storage.read storage (d.documentPath locale) = .ok text)
    (differs : (Messages.ofDocument (d.documentPath locale) text).toOption.map f ≠ some (f a)) :
    ¬ d.DocumentHolds storage locale a := by
  rw [iff_of_read read]
  intro parsed
  rw [parsed] at differs
  exact differs rfl

theorem unique (first : d.DocumentHolds storage locale a)
    (second : d.DocumentHolds storage locale b) : a = b := by
  rcases first with ⟨text, read, parsed⟩ | ⟨missing, rfl⟩
  · exact Except.ok.inj (parsed.symm.trans ((iff_of_read read).mp second))
  · rcases second with ⟨text, read, -⟩ | ⟨-, rfl⟩
    · exact absurd read (missing text)
    · rfl

/-- A document that is not disturbed holds what it held. -/
theorem undisturbed (holds : d.DocumentHolds storage locale a) {changed : σ}
    (same : Undisturbed (d.documentPath locale) storage changed)
    (known : (∃ text, Storage.read storage (d.documentPath locale) = .ok text) ∨
      Path.IsDirect (d.documentPath locale)) :
    d.DocumentHolds changed locale a := by
  rcases holds with ⟨text, read, parsed⟩ | ⟨missing, rfl⟩
  · exact .inl ⟨text, same.kept text read, parsed⟩
  · rcases known with ⟨text, read⟩ | direct
    · exact absurd read (missing text)
    · exact .inr ⟨fun text read => missing text (same.appeared direct text read), rfl⟩

end DocumentHolds

end Dictionary

open Dictionary (Accounts Addition Awaits DocumentHolds IsBooked IsLoaded)

/-! ## At work -/

/-- A dictionary at work, with the storage of its documents. -/
structure Desk (σ : Type) where
  dictionary : Dictionary
  storage : σ

/-- What is done at a desk. -/
inductive Deed where
  | add (addition : Addition)
  /-- New keys of the source locale are propagated. -/
  | propagate (targets : List String)
  | flush (part : List String) (backups : Backups)

namespace Desk

variable {σ : Type} [Storage σ]

/-- The desk after a deed; a document that cannot be written is left as it was. -/
def after (desk : Desk σ) : Deed → Desk σ
  | .add addition => { desk with dictionary := addition.after desk.dictionary }
  | .propagate targets => { desk with
      dictionary := (desk.dictionary.propagate desk.dictionary.sourceLocale targets).dictionary }
  | .flush part backups =>
    let flushed := desk.dictionary.flush desk.storage part backups
    ⟨flushed.dictionary, flushed.storage⟩

def run (deeds : List Deed) (desk : Desk σ) : Desk σ := deeds.foldl after desk

end Desk

/-- Keys that are written to have no more names than objects of a document can nest, and the
documents of loaded locales alone are written. -/
def Deed.IsFit (locales : List String) : Deed → Prop
  | .add (.derive call) => (keySegments call.base).length ≤ deepest
  | .add (.set _ key _ _) => (keySegments key).length ≤ deepest
  | .propagate _ => True
  | .flush part _ => part ⊆ locales

open LawfulStorage (place)

variable {σ : Type} [Storage σ] [LawfulStorage σ]

/-- A desk with what a dictionary has become, where nothing was forgotten so far, and nothing will
be. -/
structure Desk.IsKept (start : Dictionary) (locales : List String) (desk : Desk σ) : Prop where
  alike : start.Alike desk.dictionary
  source : desk.dictionary.sourceLocale ∈ locales
  distinct : ∀ a ∈ locales, ∀ b ∈ locales, a ≠ b →
    place desk.storage (desk.dictionary.documentPath a) ≠
      place desk.storage (desk.dictionary.documentPath b)
  known : ∀ locale ∈ locales,
    (∃ text, Storage.read desk.storage (desk.dictionary.documentPath locale) = .ok text) ∨
      Path.IsDirect (desk.dictionary.documentPath locale)
  readable : desk.dictionary.IsReadable
  proper : ∀ locale, ((Table.get? locale desk.dictionary.styles).getD .standard).IsProper
  awaits : Awaits desk.dictionary.sourceLocale desk.dictionary
  booked : desk.dictionary.IsBooked desk.storage locales

namespace Desk.IsKept

variable {start : Dictionary} {locales : List String} {desk : Desk σ}

/-- An edit that accounts for what it changes forgets nothing. -/
theorem edit (kept : IsKept start locales desk) {after : Dictionary}
    (accounts : Accounts desk.dictionary after) (awaits : Awaits desk.dictionary.sourceLocale after) :
    IsKept start locales { desk with dictionary := after } := by
  have source := accounts.alike.sourceLocale_eq
  have path := accounts.alike.documentPath_eq
  have holds {locale : String} {stored : Messages} :
      after.DocumentHolds desk.storage locale stored ↔
        desk.dictionary.DocumentHolds desk.storage locale stored := by
    rw [DocumentHolds, DocumentHolds, path]
  refine ⟨kept.alike.trans accounts.alike, ?_, ?_, ?_, accounts.readable, ?_, ?_, ?_, ?_, ?_, ?_⟩
  · simpa only [source] using kept.source
  · simpa only [path] using kept.distinct
  · simpa only [path] using kept.known
  · simpa only [accounts.alike.styles_eq] using kept.proper
  · simpa only [source] using awaits
  · intro locale listed
    obtain ⟨stored, here, marked⟩ := kept.booked.dirty locale listed
    refine ⟨stored, holds.mpr here, fun differs => Bool.of_not_eq_false fun clean => ?_⟩
    -- A locale that is clean after the edit was clean before, and is as it was.
    have same := accounts.remembers.clean locale clean
    have before := accounts.remembers.dirty locale (marked fun reflects => differs ?_)
    · rw [before] at clean
      cases clean
    · rw [Json.object.inj same]
      exact reflects
  · intro stored here place value leaf found
    rw [source] at here found
    rcases accounts.gains place value leaf found with ⟨old, leaf', before⟩ | waits
    · refine (kept.booked.waits stored (holds.mp here) place old leaf' before).imp_right ?_
      rintro ⟨key, waits, same⟩
      exact ⟨key, accounts.pending waits, same⟩
    · exact .inr waits
  · exact awaits.nodup.of_map _
  · simpa only [source] using awaits.held

section

variable {d : Dictionary} {storage after : σ} {written : List String}
  {failures : List Failure}

omit [LawfulStorage σ] in
theorem mem_pending_settled {key : String} (waits : key ∈ (d.settled written).pending) :
    d.sourceLocale ∉ written ∧ key ∈ d.pending := by
  unfold Dictionary.settled at waits
  split at waits
  next => cases waits
  next unwritten => exact ⟨unwritten, waits⟩

variable (kept : IsKept start locales ⟨d, storage⟩)

include kept

theorem awaits_settled : Awaits d.sourceLocale (d.settled written) := by
  refine ⟨?_, fun key waits => kept.awaits.held key (mem_pending_settled waits).2⟩
  unfold Dictionary.settled
  dsimp only
  split
  · exact List.nodup_nil
  · exact kept.awaits.nodup

variable
  (flushes : Dictionary.Flushes d storage locales ⟨d.settled written, after, written, failures⟩)

include flushes

/-- A document that is written holds what is read of it. -/
theorem holds_of_written {locale : String} (listed : locale ∈ locales) (done : locale ∈ written) :
    (d.settled written).DocumentHolds after locale
      (mapNumbersMembers Json.reread (d.messagesOf locale)) :=
  .inl ⟨_, flushes.written locale listed done,
    (Dictionary.read_render kept.readable (kept.proper locale) _).2⟩

/-- All others hold what they held. -/
theorem holds_of_unwritten {locale : String} (listed : locale ∈ locales) (waits : locale ∉ written)
    {stored : Messages} (holds : d.DocumentHolds storage locale stored) :
    (d.settled written).DocumentHolds after locale stored :=
  holds.undisturbed (flushes.others locale listed waits) (kept.known locale listed)

theorem booked_settled : (d.settled written).IsBooked after locales := by
  have awaits : Awaits d.sourceLocale (d.settled written) := kept.awaits_settled
  refine ⟨fun locale listed => ?_, fun stored holds place value leaf found => ?_,
    awaits.nodup.of_map _, awaits.held⟩
  · by_cases done : locale ∈ written
    · exact ⟨_, kept.holds_of_written flushes listed done, fun differs => absurd (.inr rfl) differs⟩
    · obtain ⟨stored, holds, marked⟩ := kept.booked.dirty locale listed
      refine ⟨stored, kept.holds_of_unwritten flushes listed done holds, fun differs => ?_⟩
      have before : locale ∈ d.dirty := by simpa [Dictionary.isDirty] using marked differs
      simpa [Dictionary.isDirty, Dictionary.settled, done] using before
  · by_cases done : d.sourceLocale ∈ written
    · cases (kept.holds_of_written flushes kept.source done).unique holds
      exact .inl (Messages.Reflects.covers (.inr rfl) leaf found)
    · obtain ⟨before, held, -⟩ := kept.booked.dirty d.sourceLocale kept.source
      cases (kept.holds_of_unwritten flushes kept.source done held).unique holds
      refine (kept.booked.waits _ held place value leaf found).imp_right ?_
      rintro ⟨key, waits, same⟩
      exact ⟨key, by simpa only [Dictionary.settled, if_neg done] using waits, same⟩

end

/-- A flush settles what it writes, and all else stays as it was. -/
theorem flush (kept : IsKept start locales desk) {part : List String} (subset : part ⊆ locales)
    (backups : Backups) : IsKept start locales (desk.after (.flush part backups)) := by
  obtain ⟨d, storage⟩ := desk
  have flushes := Dictionary.Flushes.flush_of_subset kept.distinct subset backups
  have left := d.dictionary_flush storage part backups
  simp only [Desk.after]
  generalize d.flush storage part backups = f at flushes left ⊢
  obtain ⟨dictionary, after, written, failures⟩ := f
  change dictionary = d.settled written at left
  subst left
  refine ⟨kept.alike.trans ⟨rfl, rfl, rfl, rfl⟩, kept.source, ?_, fun locale listed => ?_,
    ⟨kept.readable.roots, fun key waits => kept.readable.pending key (mem_pending_settled waits).2⟩,
    kept.proper, kept.awaits_settled, kept.booked_settled flushes⟩
  · intro a listed b listed' differs
    dsimp only
    rw [flushes.place_eq, flushes.place_eq]
    exact kept.distinct a listed b listed' differs
  · by_cases done : locale ∈ written
    · exact .inl ⟨_, flushes.written locale listed done⟩
    · exact (kept.known locale listed).imp_left fun ⟨text, read⟩ =>
        ⟨text, (flushes.others locale listed done).kept text read⟩

/-- No deed forgets anything. -/
theorem after (kept : IsKept start locales desk) {deed : Deed} (fit : deed.IsFit locales) :
    IsKept start locales (desk.after deed) := by
  cases deed with
  | add addition =>
    have awaits := Addition.awaits_after kept.awaits addition
    cases addition with
    | derive call =>
      simp only [Deed.IsFit] at fit
      exact kept.edit (.derive kept.readable fit) awaits
    | set locale key text overwrite =>
      simp only [Deed.IsFit] at fit
      exact kept.edit (.set kept.readable fit overwrite) awaits
  | propagate targets =>
    exact kept.edit (.propagate kept.readable targets) (kept.awaits.propagated targets)
  | flush part backups => exact kept.flush fit backups

theorem run (kept : IsKept start locales desk) (deeds : List Deed)
    (fit : ∀ deed ∈ deeds, deed.IsFit locales) : IsKept start locales (desk.run deeds) := by
  refine List.foldlRecOn (motive := IsKept start locales) deeds Desk.after kept
    fun now kept deed listed => kept.after (fit deed listed)

/-- Nothing is forgotten when documents are loaded. -/
theorem of_loaded {storage : σ} {directory : String} {settings : Settings} {d : Dictionary}
    (source : settings.sourceLocale ∈ locales)
    (distinct : ∀ a ∈ locales, ∀ b ∈ locales, a ≠ b →
      place storage (Path.join directory (a ++ ".json")) ≠
        place storage (Path.join directory (b ++ ".json")))
    (known : ∀ locale ∈ locales,
      Storage.holds storage (Path.join directory (locale ++ ".json")) = true ∨
        Path.IsDirect (Path.join directory (locale ++ ".json")))
    (loaded : IsLoaded (.empty directory settings) storage locales d) :
    IsKept d locales ⟨d, storage⟩ := by
  have path := loaded.documentPath_eq
  have listed : d.sourceLocale ∈ locales := by
    rw [loaded.sourceLocale_eq]
    exact source
  have none : d.pending = [] := loaded.pending_eq
  have unwaited (key : String) : key ∉ d.pending := by
    rw [none]
    exact List.not_mem_nil
  -- A loaded locale is its document, or both are empty.
  have mirrors (locale : String) (listed : locale ∈ locales) :
      d.DocumentHolds storage locale (d.messagesOf locale) := by
    rcases loaded.each locale with ⟨text, read, parsed, -⟩ | ⟨empty, -⟩
    · exact .inl ⟨text, read, parsed⟩
    · rcases loaded.listed locale listed with ⟨text, read, parsed, -⟩ | missing
      · exact .inl ⟨text, read, parsed⟩
      · refine .inr ⟨fun text read => ?_, empty⟩
        rw [LawfulStorage.holds_of_read storage _ text read] at missing
        cases missing
  refine ⟨.refl d, listed, ?_, fun locale member => ?_, loaded.isReadable rfl, loaded.isProper, ?_,
    ?_, ?_, ?_, fun key member => absurd member (unwaited key)⟩
  · simpa only [path] using distinct
  · rcases loaded.listed locale member with ⟨text, read, -, -⟩ | missing
    · exact .inl ⟨text, read⟩
    · refine .inr ?_
      rw [path] at missing ⊢
      exact (known locale member).resolve_left (by simp [missing])
  · refine ⟨?_, fun key member => absurd member (unwaited key)⟩
    rw [none]
    exact List.nodup_nil
  · exact fun locale member => ⟨_, mirrors locale member, fun differs => absurd (.inl rfl) differs⟩
  · intro stored holds place value leaf found
    cases (mirrors d.sourceLocale listed).unique holds
    exact .inl ⟨value, leaf, found⟩
  · rw [none]
    exact List.nodup_nil

end Desk.IsKept

/-- Whatever is done with loaded documents, and whichever of them fail to be written: a locale that
is not its document is dirty, and a value of the source locale that its document lacks waits. -/
theorem Desk.run_isBooked (storage : σ) (directory : String) (settings : Settings)
    (locales : List String) (deeds : List Deed) (source : settings.sourceLocale ∈ locales)
    (distinct : ∀ a ∈ locales, ∀ b ∈ locales, a ≠ b →
      place storage (Path.join directory (a ++ ".json")) ≠
        place storage (Path.join directory (b ++ ".json")))
    (known : ∀ locale ∈ locales,
      Storage.holds storage (Path.join directory (locale ++ ".json")) = true ∨
        Path.IsDirect (Path.join directory (locale ++ ".json")))
    (accepted : ((Dictionary.empty directory settings).loadAll storage locales).1 = none)
    (fit : ∀ deed ∈ deeds, deed.IsFit locales) :
    let loaded := ((Dictionary.empty directory settings).loadAll storage locales).2
    let now := Desk.run deeds ⟨loaded, storage⟩
    now.dictionary.sourceLocale = settings.sourceLocale ∧
      (∀ locale, now.dictionary.documentPath locale = Path.join directory (locale ++ ".json")) ∧
      now.dictionary.IsBooked now.storage locales := by
  intro loaded now
  have begun : IsLoaded (.empty directory settings) storage locales loaded :=
    Dictionary.isLoaded_empty directory settings storage locales accepted
  have kept : IsKept loaded locales now :=
    (IsKept.of_loaded source distinct known begun).run deeds fit
  refine ⟨kept.alike.sourceLocale_eq.trans begun.sourceLocale_eq, fun locale => ?_, kept.booked⟩
  rw [kept.alike.documentPath_eq, begun.documentPath_eq]

namespace Bilingual

def deeds : List Deed :=
  [.add (.derive (Greeting.call "Hi")), .flush ["de"] backups, .propagate ["de"],
    .flush ["en", "de"] .none, .add (.set "en" "title" "Heading" true),
    .add (.set "en" "exit" "Exit" false)]

theorem isFit : ∀ deed ∈ deeds, deed.IsFit ["en", "de"] := by
  have derived : (keySegments (Greeting.call "Hi").base).length ≤ deepest := by
    rw [KeyCall.base, KeyRules.length_keySegments_key _ (by decide)]
    decide
  have replaced : (keySegments "title").length ≤ deepest := by decide
  have added : (keySegments "exit").length ≤ deepest := by decide
  simp only [deeds, List.forall_mem_cons, Deed.IsFit]
  exact ⟨derived, by simp, trivial, by simp, replaced, added, List.forall_mem_nil _⟩

end Bilingual

/-- Both documents were written; then one text of the source locale was replaced and another one
added. -/
theorem Desk.run_isBooked_bilingual :
    "en" ∈ ["en", "de"] ∧
    (∀ a ∈ ["en", "de"], ∀ b ∈ ["en", "de"], a ≠ b →
      place Bilingual.disk (Path.join "messages" (a ++ ".json")) ≠
        place Bilingual.disk (Path.join "messages" (b ++ ".json"))) ∧
    (∀ locale ∈ ["en", "de"],
      Storage.holds Bilingual.disk (Path.join "messages" (locale ++ ".json")) = true ∨
        Path.IsDirect (Path.join "messages" (locale ++ ".json"))) ∧
    ((Dictionary.empty "messages" .standard).loadAll Bilingual.disk ["en", "de"]).1 = none ∧
    (∀ deed ∈ Bilingual.deeds, deed.IsFit ["en", "de"]) ∧
    let loaded := ((Dictionary.empty "messages" .standard).loadAll Bilingual.disk ["en", "de"]).2
    let now := Desk.run Bilingual.deeds ⟨loaded, Bilingual.disk⟩
    now.dictionary.dirty = ["en"] ∧ now.dictionary.pending = ["exit"] ∧
      now.dictionary.sourceLocale = "en" ∧
      (∀ locale, now.dictionary.documentPath locale = Path.join "messages" (locale ++ ".json")) ∧
      now.dictionary.IsBooked now.storage ["en", "de"] := by
  have distinct : ∀ a ∈ ["en", "de"], ∀ b ∈ ["en", "de"], a ≠ b →
      place Bilingual.disk (Path.join "messages" (a ++ ".json")) ≠
        place Bilingual.disk (Path.join "messages" (b ++ ".json")) := by
    decide +kernel
  have known : ∀ locale ∈ ["en", "de"],
      Storage.holds Bilingual.disk (Path.join "messages" (locale ++ ".json")) = true ∨
        Path.IsDirect (Path.join "messages" (locale ++ ".json")) := by
    decide +kernel
  have accepted :
      ((Dictionary.empty "messages" .standard).loadAll Bilingual.disk ["en", "de"]).1 = none := by
    decide +kernel
  exact ⟨by decide, distinct, known, accepted, Bilingual.isFit, by decide +kernel, by decide +kernel,
    Desk.run_isBooked Bilingual.disk "messages" .standard ["en", "de"] Bilingual.deeds (by decide)
      distinct known accepted Bilingual.isFit⟩

/-! ## Clean locales that are not their documents

One document holds a number that is read as another one once it was written, and one is found by way
of a directory that has to be made. -/

namespace Unshown

def shelf : Shelf := ⟨[("messages/en.json", "\x7b\"n\": 1.38e38\x7d")], [], []⟩

def disk : Disk := ⟨[(["de.json".toList], .file (.text "\x7b\"a\": \"b\"\x7d"))], [], []⟩

/-- The number under a name. -/
def number? (name : String) (messages : Messages) : Option JsonNumber :=
  match Table.get? name messages with
  | some (.number n) => some n
  | _ => none

end Unshown

/-- A locale is clean although it is not its document. -/
def Desk.Forgets (desk : Desk σ) (locale : String) : Prop :=
  desk.dictionary.isDirty locale = false ∧ ¬ desk.dictionary.DocumentHolds desk.storage locale
    (desk.dictionary.messagesOf locale)

omit [LawfulStorage σ] in
theorem Desk.run_add_flush (addition : Addition) (part : List String) (backups : Backups)
    (d : Dictionary) (storage : σ) :
    Desk.run [.add addition, .flush part backups] ⟨d, storage⟩ =
      ⟨((addition.after d).flush storage part backups).dictionary,
        ((addition.after d).flush storage part backups).storage⟩ :=
  rfl

omit [LawfulStorage σ] in
/-- A document that was written and cannot be read is not what its locale holds. -/
theorem Dictionary.Flush.forgets {f : Flush σ} {d : Dictionary} {locale : String}
    (left : f.dictionary = d.settled f.written) (done : locale ∈ f.written)
    (read : Storage.read f.storage (d.documentPath locale) = .ok (d.render locale))
    (unread : ∀ j, Json.read (d.render locale) ≠ .ok j) :
    (⟨f.dictionary, f.storage⟩ : Desk σ).Forgets locale := by
  refine ⟨?_, fun holds => ?_⟩
  · simp [left, Dictionary.isDirty, Dictionary.settled, done]
  · dsimp only at holds
    rw [left] at holds
    have parsed := (DocumentHolds.iff_of_read read).mp holds
    rcases (Messages.ofDocument_eq_ok_iff _ _ _).mp parsed with ⟨blank, -⟩ | ⟨-, whole⟩
    · exact Style.not_isBlank_render _ _ blank
    · exact unread _ whole

/-- A text whose key leads too deep is written, and nothing can be read. -/
theorem Deep.forgets :
    (Desk.run [.add (.derive call), .flush ["en", "de"] .none] ⟨loaded, shelf⟩).Forgets "en" := by
  have left := (KeyCall.after loaded call).dictionary_flush shelf ["en", "de"] .none
  have done : "en" ∈ ((KeyCall.after loaded call).flush shelf ["en", "de"] .none).written := by
    rw [written_eq]
    exact List.mem_singleton_self _
  have read := flushes.written "en" (by decide) done
  rw [Desk.run_add_flush]
  exact Dictionary.Flush.forgets left done read not_read

/-- A number may be read as another one, a text too deep is not read at all, and a document that was
not there may come to be found. -/
theorem Desk.run_forgets :
    (let loaded := (Dictionary.empty "messages" .standard).loadAll Unshown.shelf ["en"]
     loaded.1 = none ∧ (Desk.run [.add (.set "en" "a" "b" false), .flush ["en"] .none]
       ⟨loaded.2, Unshown.shelf⟩).Forgets "en") ∧
    (let loaded := (Dictionary.empty "messages" .standard).loadAll Deep.shelf ["en", "de"]
     loaded.1 = none ∧ (Desk.run [.add (.derive Deep.call), .flush ["en", "de"] .none]
       ⟨loaded.2, Deep.shelf⟩).Forgets "en") ∧
    let loaded := (Dictionary.empty "new/.." .standard).loadAll Unshown.disk ["en", "de"]
    loaded.1 = none ∧ (Desk.run [.add (.set "en" "a" "b" false), .flush ["en"] .none]
      ⟨loaded.2, Unshown.disk⟩).Forgets "de" := by
  refine ⟨⟨by decide +kernel, by decide +kernel, ?_⟩, ⟨Deep.accepted.1, Deep.forgets⟩,
    by decide +kernel, by decide +kernel, ?_⟩
  · generalize same : Desk.run _ (_ : Desk Shelf) = now
    have read : Storage.read now.storage (now.dictionary.documentPath "en") =
        .ok "\x7b\n  \"a\": \"b\",\n  \"n\": 1.3800000000000001e+38\n\x7d" := by
      subst same
      decide +kernel
    refine DocumentHolds.not_of_read (Unshown.number? "n") read ?_
    subst same
    decide +kernel
  · generalize same : Desk.run _ (_ : Desk Disk) = now
    have read : Storage.read now.storage (now.dictionary.documentPath "de") =
        .ok "\x7b\"a\": \"b\"\x7d" := by
      subst same
      decide +kernel
    refine DocumentHolds.not_of_read List.length read ?_
    subst same
    decide +kernel

end Phrasebook
