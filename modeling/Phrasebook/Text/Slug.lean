import Phrasebook.Text.Spacing
import Phrasebook.Unicode.Mark

/-!
# Slugs

The form of a text that can stand in a key: small ASCII letters, digits and underscores, cut to a
number of words and characters.
-/

namespace Phrasebook.Text

open Unicode (isBlank isMark decomposed)

/-- What a slug is made from: ASCII letters, digits, underscores and blanks. -/
def isSlugSource (c : Char) : Bool := c.isAlphanum || c == '_' || isBlank c

/-- Small letters without accents, digits, underscores and blanks. No letter but an ASCII one has an
ASCII letter as its small form once accents are taken off. -/
def foldForSlug (text : List Char) : List Char :=
  (((decomposed text).filter fun c => !isMark c).map Char.toLower).filter isSlugSource

/-- A text without underscores at its ends. -/
def trimUnderscores (text : List Char) : List Char :=
  ((text.dropWhile (· == '_')).reverse.dropWhile (· == '_')).reverse

/-- The slug of a text; empty when nothing is left of it. -/
def slug (maxWords maxChars : Nat) (text : List Char) : List Char :=
  let joined := ['_'].intercalate ((words (foldForSlug text)).take maxWords)
  trimUnderscores (joined.take maxChars)

end Phrasebook.Text
