import Phrasebook.Unicode.Blank
import Phrasebook.Unicode.Normalization

/-!
# Blanks between words
-/

namespace Phrasebook.Text

open Unicode (isBlank)

def trimStart (text : List Char) : List Char := text.dropWhile isBlank

def trimEnd (text : List Char) : List Char := (text.reverse.dropWhile isBlank).reverse

/-- A text without blanks at its ends. -/
def trim (text : List Char) : List Char := trimEnd (trimStart text)

/-- Puts a character in front of the first word; a blank ends that word. -/
def pushWord (c : Char) : List (List Char) → List (List Char)
  | [] => if isBlank c then [] else [[c]]
  | word :: rest =>
    if isBlank c then (if word.isEmpty then word :: rest else [] :: word :: rest)
    else (c :: word) :: rest

/-- The runs of characters that are not blank. -/
def words (text : List Char) : List (List Char) :=
  (text.foldr pushWord []).filter fun word => !word.isEmpty

/-- The composed normal form with single spaces between words. -/
def squeeze (text : List Char) : List Char :=
  [' '].intercalate (words (Unicode.composed text))

end Phrasebook.Text
