/-!
# Splitting a text
-/

namespace Phrasebook.Text

/-- The parts of a text between the characters that pass a test; never empty. -/
def splitBy (test : Char → Bool) : List Char → List (List Char)
  | [] => [[]]
  | c :: rest =>
    if test c then [] :: splitBy test rest
    else
      match splitBy test rest with
      | first :: more => (c :: first) :: more
      | [] => [[c]]

/-- Whether a text occurs in another. -/
def contains (part : List Char) : List Char → Bool
  | [] => part.isEmpty
  | c :: rest => part.isPrefixOf (c :: rest) || contains part rest

/-- Replaces a part after passing over `skip` characters. -/
def replaceFrom (part new : List Char) : (skip : Nat) → List Char → List Char
  | _, [] => []
  | skip + 1, _ :: rest => replaceFrom part new skip rest
  | 0, c :: rest =>
    if part.isPrefixOf (c :: rest) then new ++ replaceFrom part new (part.length - 1) rest
    else c :: replaceFrom part new 0 rest

/-- Replaces every occurrence of a part that is not empty, from left to right. -/
def replaceAll (part new text : List Char) : List Char := replaceFrom part new 0 text

/-- What follows a prefix. -/
def after? : (start : List Char) → List Char → Option (List Char)
  | [], rest => some rest
  | s :: start, c :: rest => if s = c then after? start rest else none
  | _ :: _, [] => none

end Phrasebook.Text
