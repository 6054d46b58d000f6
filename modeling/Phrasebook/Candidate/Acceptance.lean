import Phrasebook.Candidate.Basic
import Phrasebook.Candidate.Shape
import Phrasebook.Settings.Check
import Phrasebook.Text.Slug

/-!
# Accepting candidates

A candidate is accepted when its length is within bounds, no ignore pattern occurs in it, its shape
is that of a text for people, and a slug can be made of it. The first of these that fails is the
reason for which it is turned down.
-/

namespace Phrasebook

/-- Why a candidate is not taken for a text for people. -/
inductive Rejection where
  | tooShort
  | tooLong
  | ignorePattern
  | noLetters
  | url
  | path
  | classList
  | identifier
  | codeLike
  | hashLike
  | numeral
  | placeholder
  | emptySlug
  deriving DecidableEq, Repr

namespace Rejection

def tag : Rejection → String
  | tooShort => "too-short"
  | tooLong => "too-long"
  | ignorePattern => "ignore-pattern"
  | noLetters => "no-letters"
  | url => "url"
  | path => "path"
  | classList => "class-list"
  | identifier => "identifier"
  | codeLike => "code-like"
  | hashLike => "hash-like"
  | numeral => "numeral"
  | placeholder => "placeholder"
  | emptySlug => "empty-slug"

def all : List Rejection :=
  [tooShort, tooLong, ignorePattern, noLetters, url, path, classList, identifier, codeLike,
    hashLike, numeral, placeholder, emptySlug]

def ofTag? (tag : String) : Option Rejection := all.find? (·.tag == tag)

end Rejection

/-- The reason that lies in the shape of a text. Between tags even a single word is for people, so
there fewer shapes count. -/
def shapeRejection? (text : List Char) (token : TokenKind) : Option Rejection :=
  let text := Text.trim text
  if !text.any Unicode.isAlphabetic then some .noLetters
  else if Shape.isUrl text then some .url
  else if Shape.isPath text then some .path
  else if Shape.isHash text then some .hashLike
  else if Shape.isNumeral text then some .numeral
  else if token = .markupText then none
  else if Shape.isPlaceholder text then some .placeholder
  else if Shape.isClassList text then some .classList
  else if Shape.isIdentifier text then some .identifier
  else if Shape.isCode text then some .codeLike
  else none

/-- What decides about candidates. -/
structure AcceptanceRules where
  minLength : Nat
  maxLength : Nat
  ignored : List Regex
  slugMaxWords : Nat
  slugMaxChars : Nat

def AcceptanceRules.ofSettings (s : Settings) : Except SettingsError AcceptanceRules :=
  s.ignoreRegexes.map fun ignored =>
    { minLength := s.minLength, maxLength := s.maxLength, ignored := ignored
      slugMaxWords := s.slugMaxWords, slugMaxChars := s.slugMaxChars }

namespace AcceptanceRules

/-- The reason to turn a text down, if there is one. -/
def rejection? (rules : AcceptanceRules) (text : List Char) (token : TokenKind) :
    Option Rejection :=
  if text.length < rules.minLength then some .tooShort
  else if rules.maxLength < text.length then some .tooLong
  else if rules.ignored.any (·.occursIn text) then some .ignorePattern
  else
    match shapeRejection? text token with
    | some reason => some reason
    | none =>
      if (Text.slug rules.slugMaxWords rules.slugMaxChars text).isEmpty then some .emptySlug
      else none

def candidateRejection? (rules : AcceptanceRules) (c : Candidate) : Option Rejection :=
  rules.rejection? c.text.toList c.token

end AcceptanceRules

end Phrasebook
