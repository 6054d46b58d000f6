import Phrasebook.Text.Split

/-!
# Words joined by capitals
-/

namespace Phrasebook.Text

/-- A word with a capital in front. -/
def capitalize : List Char → List Char
  | [] => []
  | c :: rest => c.toUpper :: rest

/-- The runs of ASCII letters and digits, each with a capital, joined. -/
def pascal (text : List Char) : List Char :=
  ((splitBy (fun c => !c.isAlphanum) text).map capitalize).flatten

end Phrasebook.Text
