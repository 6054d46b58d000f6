import Phrasebook.Dictionary.Basic
import Phrasebook.Json.Reader
import Phrasebook.Storage.Backups

/-!
# Documents of dictionaries

Each locale has a document: a JSON object with its messages. Documents are read before a run, and
the changed ones are written after it. A document that cannot be read must not be overwritten.
-/

namespace Phrasebook

/-- The messages of a document. A blank document holds none. -/
def Messages.ofDocument (path text : String) : Except Failure Messages :=
  if text.toList.all Unicode.isBlank then .ok []
  else
    match Json.read text with
    | .ok (.object members) => .ok members
    | .ok _ => .error (.storage path "locale document must be a JSON object")
    | .error e => .error (.storage path ("invalid JSON: " ++ e.message))

namespace Dictionary

variable {σ : Type} [Storage σ]

/-- Reads a locale's document. A locale without a document keeps the messages that it has. -/
def load (d : Dictionary) (storage : σ) (locale : String) : Except Failure Dictionary :=
  let path := d.documentPath locale
  if Storage.holds storage path then do
    let text ← (Storage.read storage path).mapError fun e => .storage path e.message
    let messages ← Messages.ofDocument path text
    return { d.withMessages locale messages with
      styles := Table.put locale (Style.detect text.toList) d.styles }
  else .ok (d.withMessages locale (d.messagesOf locale))

/-- Reads the documents of locales up to the first that fails. -/
def loadAll (d : Dictionary) (storage : σ) : List String → Option Failure × Dictionary
  | [] => (none, d)
  | locale :: rest =>
    match d.load storage locale with
    | .ok d => d.loadAll storage rest
    | .error failure => (some failure, d)

/-- What became of the documents of the changed locales. -/
structure Flush (σ : Type) where
  dictionary : Dictionary
  storage : σ
  written : List String
  failures : List Failure

namespace Flush

def fail (f : Flush σ) (path reason : String) : Flush σ :=
  { f with failures := f.failures ++ [.storage path reason] }

/-- After its document is written, a locale is clean, and new keys of the source locale are new no
more. -/
def settle (f : Flush σ) (locale : String) : Flush σ :=
  { f with
    dictionary := { f.dictionary with
      dirty := f.dictionary.dirty.filter (· != locale)
      pending := if locale = f.dictionary.sourceLocale then [] else f.dictionary.pending }
    written := f.written ++ [locale] }

/-- Writes the document of a locale that has changed, after putting the old one aside. -/
def step (backups : Backups) (locale : String) (f : Flush σ) : Flush σ :=
  if f.dictionary.isDirty locale then
    let path := f.dictionary.documentPath locale
    match backups.save f.storage path with
    | (.error e, storage) => { f with storage }.fail path ("backup failed: " ++ e.message)
    | (.ok _, storage) =>
      match Storage.write storage path (f.dictionary.render locale) with
      | (.ok (), storage) => { f with storage }.settle locale
      | (.error e, storage) => { f with storage }.fail path e.message
  else f

end Flush

/-- Writes the documents of the changed locales among those given. One that fails stays as it was;
the others are still written. -/
def flush (d : Dictionary) (storage : σ) (locales : List String) (backups : Backups) : Flush σ :=
  locales.foldl (fun f locale => f.step backups locale) ⟨d, storage, [], []⟩

end Dictionary

end Phrasebook
