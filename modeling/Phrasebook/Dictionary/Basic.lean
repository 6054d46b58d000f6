import Phrasebook.Dictionary.Messages
import Phrasebook.Dictionary.Style
import Phrasebook.Failure
import Phrasebook.Project.Path
import Phrasebook.Settings.Basic

/-!
# Dictionaries

A dictionary holds the messages of every locale. It remembers which keys of the source locale are
new and which locales have changed since their documents were written.
-/

namespace Phrasebook

structure Dictionary where
  /-- The directory of the documents. -/
  directory : String
  sourceLocale : String
  /-- Marks a text that still needs translation. -/
  placeholderPrefix : String
  messages : Table Messages
  styles : Table Style
  /-- Keys that the source locale has got since its document was last written, in order. -/
  pending : List String
  /-- Locales that have changed since their documents were last written. -/
  dirty : List String

namespace Dictionary

/-- A dictionary without messages whose documents are in a directory. -/
def empty (directory : String) (s : Settings) : Dictionary where
  directory := directory
  sourceLocale := s.sourceLocale
  placeholderPrefix := s.placeholderPrefix
  messages := []
  styles := []
  pending := []
  dirty := []

/-- The path of a locale's document. -/
def documentPath (d : Dictionary) (locale : String) : String :=
  Path.join d.directory (locale ++ ".json")

def messagesOf (d : Dictionary) (locale : String) : Messages :=
  (Table.get? locale d.messages).getD []

/-- Gives a locale its messages. -/
def withMessages (d : Dictionary) (locale : String) (messages : Messages) : Dictionary :=
  { d with messages := Table.put locale messages d.messages }

/-- The text that a key holds in a locale. -/
def leaf? (d : Dictionary) (locale key : String) : Option String :=
  (d.messagesOf locale).leaf? key

def probe (d : Dictionary) (locale key text : String) : Probe :=
  (d.messagesOf locale).probe key text

def isDirty (d : Dictionary) (locale : String) : Bool := d.dirty.contains locale

/-- Remembers that a locale has changed. -/
def touch (d : Dictionary) (locale : String) : Dictionary :=
  if d.isDirty locale then d else { d with dirty := locale :: d.dirty }

/-- Puts a text into a locale's messages, whatever is there. -/
def write (d : Dictionary) (locale key text : String) : Dictionary :=
  (d.withMessages locale ((d.messagesOf locale).put key text)).touch locale

/-- Remembers that a key of a locale is new; only the source locale's keys are remembered. -/
def await (d : Dictionary) (locale key : String) : Dictionary :=
  if locale = d.sourceLocale then { d with pending := d.pending ++ [key] } else d

/-- Puts a text under a key. A text that is there already stays; another one is replaced only when
asked for. -/
def set (d : Dictionary) (locale key text : String) (overwrite : Bool) :
    Except Failure Dictionary :=
  match d.probe locale key text with
  | .same => .ok d
  | .free => .ok ((d.write locale key text).await locale key)
  | .different held =>
    if overwrite then .ok (d.write locale key text)
    else .error (.collision locale key held text)
  | .blocked place => .error (.conflict locale key place)

/-- A locale's document. -/
def render (d : Dictionary) (locale : String) : String :=
  ((Table.get? locale d.styles).getD .standard).render (d.messagesOf locale)

/-- The keys of a locale's values, in order. -/
def leafKeys (d : Dictionary) (locale : String) : List String := (d.messagesOf locale).leafKeys

end Dictionary

end Phrasebook
