import Phrasebook.Text.Lines

/-!
# Candidates

A candidate is a piece of text in a source that might need translation. It remembers the token it
was read from, and where that token stands.
-/

namespace Phrasebook

/-- What kind of token a text was found in; it decides what replaces the token. -/
inductive TokenKind where
  | stringLiteral
  | markupText
  | markupAttribute
  deriving DecidableEq, Repr

namespace TokenKind

def name : TokenKind → String
  | stringLiteral => "StringLiteral"
  | markupText => "MarkupText"
  | markupAttribute => "MarkupAttribute"

def all : List TokenKind := [stringLiteral, markupText, markupAttribute]

def ofName? (name : String) : Option TokenKind := all.find? (·.name == name)

end TokenKind

structure Candidate where
  /-- The shown text, composed and with single spaces. -/
  text : String
  /-- The token as it stands in the file. -/
  raw : String
  file : String
  position : Text.Position
  token : TokenKind
  /-- The attribute that the token is the value of. -/
  attributeName : Option String
  /-- The lines around the token. -/
  surroundings : String
  deriving DecidableEq, Repr

/-- Something found in a source. -/
inductive Occurrence where
  | candidate (c : Candidate)
  /-- A lookup of a translation, with its key if that is plain. -/
  | lookup (key : Option String) (position : Text.Position)
  deriving DecidableEq, Repr

namespace Occurrence

def position : Occurrence → Text.Position
  | candidate c => c.position
  | lookup _ p => p

def candidate? : Occurrence → Option Candidate
  | candidate c => some c
  | lookup .. => none

end Occurrence

end Phrasebook
