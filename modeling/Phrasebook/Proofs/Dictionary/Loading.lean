import Phrasebook.Proofs.Dictionary.Editing
import Phrasebook.Proofs.Dictionary.Style

/-!
# Loaded dictionaries

Once all documents are loaded, each locale with a document has the messages and the style of its
document, and every other locale has none. Such messages can be written and read again.
-/

namespace Phrasebook

open Json (Fits IsRegular deepest)

/-! ## Styles of documents -/

namespace Text

theorem mem_of_mem_lines (text : List Char) : ∀ line ∈ lines text, ∀ c ∈ line, c ∈ text := by
  fun_induction lines text with
  | case1 => simp
  | case2 rest ih =>
    intro line member c inside
    rcases List.mem_cons.mp member with rfl | later
    · cases inside
    · exact List.mem_cons_of_mem _ (ih line later c inside)
  | case3 c rest proper none => exact absurd none (lines_ne_nil rest)
  | case4 c rest proper first more split ih =>
    rw [split] at ih
    obtain ⟨here, others⟩ := List.forall_mem_cons.mp ih
    intro line member d inside
    rcases List.mem_cons.mp member with rfl | later
    · rcases List.mem_cons.mp inside with rfl | behind
      · exact List.mem_cons_self
      · exact List.mem_cons_of_mem _ (here d behind)
    · exact List.mem_cons_of_mem _ (others line later d inside)

end Text

namespace Style

theorem isProper_standard : standard.IsProper := ⟨List.all_eq_true.mp rfl, by decide, by decide⟩

/-- Blanks show no indent. -/
theorem isProper_detect_of_blank {text : List Char} (blank : text.all Unicode.isBlank = true) :
    (detect text).IsProper := by
  have none : (Text.lines text).findSome? indentOfLine? = none := by
    rw [List.findSome?_eq_none_iff]
    intro line member
    rw [Option.eq_none_iff_forall_ne_some]
    intro indent told
    obtain ⟨-, -, c, rest, rfl, mark⟩ := (indentOfLine?_eq_some_iff line indent).mp told
    have inside : c ∈ text := Text.mem_of_mem_lines text _ member c (by simp)
    have visible : Unicode.isBlank c = false := by
      rcases mark with rfl | rfl | rfl <;> decide
    rw [List.all_eq_true.mp blank c inside] at visible
    cases visible
  have indent : (detect text).indent = standard.indent := by
    rw [detect, none]
    rfl
  exact ⟨indent ▸ isProper_standard.blank, indent ▸ isProper_standard.single,
    indent ▸ isProper_standard.nonempty⟩

end Style

namespace Messages

theorem fits_nil : Fits IsRegular deepest (.object []) :=
  .object (deepest - 1) [] .nil (List.forall_mem_nil _)

/-- A document holds blanks and no messages, or it is read as an object. -/
theorem ofDocument_eq_ok_iff (path text : String) (messages : Messages) :
    ofDocument path text = .ok messages ↔
      text.toList.all Unicode.isBlank = true ∧ messages = [] ∨
      text.toList.all Unicode.isBlank = false ∧ Json.read text = .ok (.object messages) := by
  unfold ofDocument
  split
  next blank => simp [blank, eq_comm]
  next visible =>
    have visible : text.toList.all Unicode.isBlank = false := Bool.eq_false_iff.mpr visible
    split
    next members returned => simp [visible, returned]
    next other object returned =>
      simp only [visible, returned, Except.ok.injEq, Bool.false_eq_true, false_and, true_and,
        false_or, reduceCtorEq, false_iff]
      exact object messages
    next fault returned => simp [visible, returned]

/-- What a document holds can be written, in the style of the document. -/
theorem ofDocument_sound {path text : String} {messages : Messages}
    (parsed : ofDocument path text = .ok messages) :
    Fits IsRegular deepest (.object messages) ∧ (Style.detect text.toList).IsProper := by
  rcases (ofDocument_eq_ok_iff path text messages).mp parsed with ⟨blank, rfl⟩ | ⟨-, returned⟩
  · exact ⟨fits_nil, Style.isProper_detect_of_blank blank⟩
  · obtain ⟨document, fits⟩ := Json.read_sound Json.unsigned_yields returned
    exact ⟨fits, Style.isProper_detect (Json.lined_of_isDocument document)⟩

end Messages

/-! ## Loading -/

namespace Dictionary

variable {σ : Type} [Storage σ]

/-- A locale has the messages and the style of its document. -/
def Mirrors (d : Dictionary) (storage : σ) (locale : String) : Prop :=
  ∃ text, Storage.read storage (d.documentPath locale) = .ok text ∧
    Messages.ofDocument (d.documentPath locale) text = .ok (d.messagesOf locale) ∧
    Table.get? locale d.styles = some (Style.detect text.toList)

/-- A locale without messages and without a style. -/
def IsVoid (d : Dictionary) (locale : String) : Prop :=
  d.messagesOf locale = [] ∧ Table.get? locale d.styles = none

/-- A dictionary that was loaded from documents, those of some locales among them. -/
structure IsLoaded (start : Dictionary) (storage : σ) (locales : List String) (d : Dictionary) :
    Prop where
  directory_eq : d.directory = start.directory
  sourceLocale_eq : d.sourceLocale = start.sourceLocale
  placeholderPrefix_eq : d.placeholderPrefix = start.placeholderPrefix
  pending_eq : d.pending = start.pending
  each : ∀ locale, d.Mirrors storage locale ∨ d.IsVoid locale
  listed : ∀ locale ∈ locales, d.Mirrors storage locale ∨
    Storage.holds storage (d.documentPath locale) = false

/-- Loading a locale gives it its document, if there is one, and leaves it alone if not. -/
theorem load_cases {d after : Dictionary} {storage : σ} {locale : String}
    (loaded : d.load storage locale = .ok after) :
    (∃ text messages, Storage.read storage (d.documentPath locale) = .ok text ∧
      Messages.ofDocument (d.documentPath locale) text = .ok messages ∧
      after = d.withDocument locale messages (Style.detect text.toList)) ∨
    (Storage.holds storage (d.documentPath locale) = false ∧
      after = d.withMessages locale (d.messagesOf locale)) := by
  unfold load at loaded
  dsimp only at loaded
  split at loaded
  next held =>
    obtain ⟨text, read, loaded⟩ := bind_eq_ok_iff.mp loaded
    obtain ⟨messages, parsed, same⟩ := bind_eq_ok_iff.mp loaded
    cases same
    refine Or.inl ⟨text, messages, ?_, parsed, rfl⟩
    cases returned : Storage.read storage (d.documentPath locale) with
    | ok other =>
      rw [returned] at read
      exact congrArg Except.ok (Except.ok.inj read)
    | error e =>
      rw [returned] at read
      cases read
  next missing =>
    cases loaded
    exact Or.inr ⟨Bool.eq_false_iff.mpr missing, rfl⟩

theorem load_of_read (d : Dictionary) {storage : σ} {locale text : String} {messages : Messages}
    (held : Storage.holds storage (d.documentPath locale) = true)
    (read : Storage.read storage (d.documentPath locale) = .ok text)
    (parsed : Messages.ofDocument (d.documentPath locale) text = .ok messages) :
    d.load storage locale = .ok (d.withDocument locale messages (Style.detect text.toList)) := by
  rw [load, if_pos held, read]
  simp only [Except.mapError, ok_bind, parsed]
  rfl

theorem load_of_absent (d : Dictionary) {storage : σ} {locale : String}
    (absent : Storage.holds storage (d.documentPath locale) = false) :
    d.load storage locale = .ok (d.withMessages locale (d.messagesOf locale)) :=
  if_neg (Bool.eq_false_iff.mp absent)

/-- One more locale is loaded, from its document if it has one, and the others stay as they are. -/
theorem IsLoaded.insert {start d after : Dictionary} {storage : σ} {done : List String}
    (before : IsLoaded start storage done d) {locale : String}
    (directory : after.directory = d.directory) (source : after.sourceLocale = d.sourceLocale)
    (marker : after.placeholderPrefix = d.placeholderPrefix) (new : after.pending = d.pending)
    (others : ∀ other, other ≠ locale → after.messagesOf other = d.messagesOf other ∧
      Table.get? other after.styles = Table.get? other d.styles)
    (here : after.Mirrors storage locale ∨
      Storage.holds storage (after.documentPath locale) = false ∧
        (after.Mirrors storage locale ↔ d.Mirrors storage locale) ∧
        (after.IsVoid locale ↔ d.IsVoid locale)) :
    IsLoaded start storage (done ++ [locale]) after := by
  have path (other : String) : after.documentPath other = d.documentPath other := by
    rw [documentPath, documentPath, directory]
  -- A locale may be listed twice: where it was loaded before, `here` says what it is now.
  have mirrors {other : String} (kept : d.Mirrors storage other) : after.Mirrors storage other := by
    by_cases same : other = locale
    · subst same
      exact here.elim id fun absent => absent.2.1.mpr kept
    · obtain ⟨messages, style⟩ := others other same
      unfold Mirrors
      rw [messages, style, path]
      exact kept
  refine ⟨directory.trans before.directory_eq, source.trans before.sourceLocale_eq,
    marker.trans before.placeholderPrefix_eq, new.trans before.pending_eq, fun other => ?_,
    fun other member => ?_⟩
  · rcases before.each other with kept | void
    · exact Or.inl (mirrors kept)
    · by_cases same : other = locale
      · subst same
        exact here.imp id fun absent => absent.2.2.mpr void
      · obtain ⟨messages, style⟩ := others other same
        unfold IsVoid
        rw [messages, style]
        exact Or.inr void
  · rcases List.mem_append.mp member with old | last
    · rw [path]
      exact (before.listed other old).imp_left mirrors
    · cases List.mem_singleton.mp last
      exact here.imp_right And.left

/-- Messages that are put into a locale are not put into another one. -/
theorem messagesOf_withMessages_of_ne (d : Dictionary) {locale other : String}
    (differs : other ≠ locale) (messages : Messages) :
    (d.withMessages locale messages).messagesOf other = d.messagesOf other := by
  rw [messagesOf, messagesOf, withMessages, Table.get?_put_of_ne (Ne.symm differs)]

theorem IsLoaded.load {start d after : Dictionary} {storage : σ} {done : List String}
    (before : IsLoaded start storage done d) {locale : String}
    (loaded : d.load storage locale = .ok after) :
    IsLoaded start storage (done ++ [locale]) after := by
  rcases load_cases loaded with ⟨text, messages, read, parsed, rfl⟩ | ⟨missing, rfl⟩
  · refine before.insert rfl rfl rfl rfl (fun other differs => ?_) (Or.inl ⟨text, read, ?_, ?_⟩)
    · exact ⟨d.messagesOf_withMessages_of_ne differs messages,
        Table.get?_put_of_ne (Ne.symm differs) ..⟩
    · rw [messagesOf_withDocument]
      exact parsed
    · exact Table.get?_put_self ..
  · -- A locale without a document keeps the messages that it has.
    have same : (d.withMessages locale (d.messagesOf locale)).messagesOf locale =
        d.messagesOf locale := by
      simp [withMessages, messagesOf]
    refine before.insert rfl rfl rfl rfl (fun other differs => ?_) (Or.inr ⟨missing, ?_, ?_⟩)
    · exact ⟨d.messagesOf_withMessages_of_ne differs _, rfl⟩
    · rw [Mirrors, same]
      rfl
    · rw [IsVoid, same]
      rfl

/-- Loading all documents gives each locale its own. -/
theorem IsLoaded.loadAll {start d : Dictionary} {storage : σ} {done : List String}
    (before : IsLoaded start storage done d) (locales : List String)
    (accepted : (d.loadAll storage locales).1 = none) :
    IsLoaded start storage (done ++ locales) (d.loadAll storage locales).2 := by
  induction locales generalizing d done with
  | nil =>
    rw [List.append_nil]
    exact before
  | cons locale rest ih =>
    rw [Dictionary.loadAll] at accepted ⊢
    split at accepted
    next after loaded =>
      have := ih (before.load loaded) accepted
      rwa [List.append_assoc] at this
    next => cases accepted

/-- A dictionary that is loaded from documents alone. -/
theorem isLoaded_empty (directory : String) (settings : Settings) (storage : σ)
    (locales : List String)
    (accepted : ((empty directory settings).loadAll storage locales).1 = none) :
    IsLoaded (empty directory settings) storage locales
      ((empty directory settings).loadAll storage locales).2 := by
  have start : IsLoaded (empty directory settings) storage [] (empty directory settings) :=
    ⟨rfl, rfl, rfl, rfl, fun _ => Or.inr ⟨rfl, rfl⟩, List.forall_mem_nil _⟩
  exact start.loadAll locales accepted

namespace IsLoaded

variable {start d : Dictionary} {storage : σ} {locales : List String}

theorem documentPath_eq {directory : String} {settings : Settings}
    (loaded : IsLoaded (empty directory settings) storage locales d) (locale : String) :
    d.documentPath locale = Path.join directory (locale ++ ".json") := by
  rw [documentPath, loaded.directory_eq]
  rfl

/-- Documents can be written again. -/
theorem isReadable (loaded : IsLoaded start storage locales d) (none : start.pending = []) :
    d.IsReadable where
  roots := fun locale => by
    rcases loaded.each locale with ⟨text, -, parsed, -⟩ | ⟨same, -⟩
    · exact (Messages.ofDocument_sound parsed).1
    · rw [root, same]
      exact Messages.fits_nil
  pending := by
    rw [loaded.pending_eq, none]
    exact List.forall_mem_nil _

theorem isProper (loaded : IsLoaded start storage locales d) (locale : String) :
    ((Table.get? locale d.styles).getD .standard).IsProper := by
  rcases loaded.each locale with ⟨text, -, parsed, style⟩ | ⟨-, style⟩
  · rw [style]
    exact (Messages.ofDocument_sound parsed).2
  · rw [style]
    exact Style.isProper_standard

end IsLoaded

end Dictionary

end Phrasebook
