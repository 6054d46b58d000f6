import Phrasebook.Regex.Basic
import Phrasebook.Unicode.Alphabetic
import Phrasebook.Unicode.Blank
import Phrasebook.Unicode.Category
import Phrasebook.Unicode.Lowercase
import Phrasebook.Unicode.Mark
import Phrasebook.Unicode.Script
import Phrasebook.Unicode.Uppercase

/-!
# Named sets of characters

The sets that a pattern can name. Names of properties are compared without case, blanks, hyphens
and underscores.
-/

namespace Phrasebook.Regex

open Unicode

/-! ## By a letter after a backslash -/

def digits : CharSet := .ranges categoryNd

def blanks : CharSet := .ranges blankRanges

/-- Letters, marks, digits, connecting punctuation and the two joiners. -/
def wordCharacters : CharSet :=
  .ranges (alphabeticRanges ++ markRanges ++ categoryNd ++ categoryPc ++ [(0x200C, 0x200D)])

def asciiDigits : CharSet := .ranges [(0x30, 0x39)]

def asciiBlanks : CharSet := .ranges [(0x09, 0x0D), (0x20, 0x20)]

def asciiWordCharacters : CharSet := .ranges [(0x30, 0x39), (0x41, 0x5A), (0x5F, 0x5F), (0x61, 0x7A)]

/-- The set of a letter after a backslash. -/
def letterSet? (unicode : Bool) (letter : Char) : Option CharSet :=
  let pick (wide narrow : CharSet) := if unicode then wide else narrow
  match letter with
  | 'd' => some (pick digits asciiDigits)
  | 'D' => some (.complement (pick digits asciiDigits))
  | 's' => some (pick blanks asciiBlanks)
  | 'S' => some (.complement (pick blanks asciiBlanks))
  | 'w' => some (pick wordCharacters asciiWordCharacters)
  | 'W' => some (.complement (pick wordCharacters asciiWordCharacters))
  | _ => none

/-! ## By a name in brackets -/

def bracketSet? (name : String) : Option CharSet :=
  match name with
  | "alnum" => some (.ranges [(0x30, 0x39), (0x41, 0x5A), (0x61, 0x7A)])
  | "alpha" => some (.ranges [(0x41, 0x5A), (0x61, 0x7A)])
  | "ascii" => some (.ranges [(0x00, 0x7F)])
  | "blank" => some (.ranges [(0x09, 0x09), (0x20, 0x20)])
  | "cntrl" => some (.ranges [(0x00, 0x1F), (0x7F, 0x7F)])
  | "digit" => some asciiDigits
  | "graph" => some (.ranges [(0x21, 0x7E)])
  | "lower" => some (.ranges [(0x61, 0x7A)])
  | "print" => some (.ranges [(0x20, 0x7E)])
  | "punct" => some (.ranges [(0x21, 0x2F), (0x3A, 0x40), (0x5B, 0x60), (0x7B, 0x7E)])
  | "space" => some asciiBlanks
  | "upper" => some (.ranges [(0x41, 0x5A)])
  | "word" => some asciiWordCharacters
  | "xdigit" => some (.ranges [(0x30, 0x39), (0x41, 0x46), (0x61, 0x66)])
  | _ => none

/-! ## By a property -/

/-- A name without what does not count in it. -/
def looseName (name : List Char) : String :=
  String.ofList ((name.filter fun c => !(c == ' ' || c == '-' || c == '_' || c == '\t')).map Char.toLower)

def letterRanges : List (Nat × Nat) := categoryLu ++ categoryLl ++ categoryLt ++ categoryLm ++ categoryLo

def punctuationRanges : List (Nat × Nat) :=
  categoryPc ++ categoryPd ++ categoryPe ++ categoryPf ++ categoryPi ++ categoryPo ++ categoryPs

/-- Everything that has a category of its own. -/
def assignedRanges : List (Nat × Nat) :=
  letterRanges ++ categoryMc ++ categoryMe ++ categoryMn ++ categoryNd ++ categoryNl ++ categoryNo ++
    punctuationRanges ++ categorySc ++ categorySk ++ categorySm ++ categorySo ++ categoryZl ++
    categoryZp ++ categoryZs ++ categoryCc ++ categoryCf ++ [(0xE000, 0xF8FF), (0xF0000, 0xFFFFD),
    (0x100000, 0x10FFFD)]

/-- The set of a general category. -/
def categorySet? (name : String) : Option CharSet :=
  let found (ranges : List (Nat × Nat)) : Option CharSet := some (.ranges ranges)
  match name with
  | "any" => found [(0, 0x10FFFF)]
  | "ascii" => found [(0, 0x7F)]
  | "assigned" => found assignedRanges
  | "lu" | "uppercaseletter" => found categoryLu
  | "ll" | "lowercaseletter" => found categoryLl
  | "lt" | "titlecaseletter" => found categoryLt
  | "lc" | "casedletter" => found (categoryLu ++ categoryLl ++ categoryLt)
  | "lm" | "modifierletter" => found categoryLm
  | "lo" | "otherletter" => found categoryLo
  | "l" | "letter" => found letterRanges
  | "mc" | "spacingmark" => found categoryMc
  | "me" | "enclosingmark" => found categoryMe
  | "mn" | "nonspacingmark" => found categoryMn
  | "m" | "mark" | "combiningmark" => found (categoryMc ++ categoryMe ++ categoryMn)
  | "nd" | "decimalnumber" | "digit" => found categoryNd
  | "nl" | "letternumber" => found categoryNl
  | "no" | "othernumber" => found categoryNo
  | "n" | "number" => found (categoryNd ++ categoryNl ++ categoryNo)
  | "pc" | "connectorpunctuation" => found categoryPc
  | "pd" | "dashpunctuation" => found categoryPd
  | "pe" | "closepunctuation" => found categoryPe
  | "pf" | "finalpunctuation" => found categoryPf
  | "pi" | "initialpunctuation" => found categoryPi
  | "po" | "otherpunctuation" => found categoryPo
  | "ps" | "openpunctuation" => found categoryPs
  | "p" | "punctuation" | "punct" => found punctuationRanges
  | "sc" | "currencysymbol" => found categorySc
  | "sk" | "modifiersymbol" => found categorySk
  | "sm" | "mathsymbol" => found categorySm
  | "so" | "othersymbol" => found categorySo
  | "s" | "symbol" => found (categorySc ++ categorySk ++ categorySm ++ categorySo)
  | "zl" | "lineseparator" => found categoryZl
  | "zp" | "paragraphseparator" => found categoryZp
  | "zs" | "spaceseparator" => found categoryZs
  | "z" | "separator" => found (categoryZl ++ categoryZp ++ categoryZs)
  | "cc" | "control" | "cntrl" => found categoryCc
  | "cf" | "format" => found categoryCf
  | "co" | "privateuse" => found [(0xE000, 0xF8FF), (0xF0000, 0xFFFFD), (0x100000, 0x10FFFD)]
  | "cn" | "unassigned" => some (.complement (.ranges assignedRanges))
  | "c" | "other" =>
    some (.union (.ranges (categoryCc ++ categoryCf)) (.union
      (.ranges [(0xE000, 0xF8FF), (0xF0000, 0xFFFFD), (0x100000, 0x10FFFD)])
      (.complement (.ranges assignedRanges))))
  | _ => none

/-- The set of a script. -/
def scriptSet? (name : String) : Option CharSet :=
  let found (ranges : List (Nat × Nat)) : Option CharSet := some (.ranges ranges)
  match name with
  | "latin" | "latn" => found scriptLatin
  | "greek" | "grek" => found scriptGreek
  | "cyrillic" | "cyrl" => found scriptCyrillic
  | "han" | "hani" => found scriptHan
  | "hiragana" | "hira" => found scriptHiragana
  | "katakana" | "kana" => found scriptKatakana
  | "hangul" | "hang" => found scriptHangul
  | "arabic" | "arab" => found scriptArabic
  | "hebrew" | "hebr" => found scriptHebrew
  | "thai" => found scriptThai
  | "devanagari" | "deva" => found scriptDevanagari
  | _ => none

/-- The set of a property that a character has or has not. -/
def propertySet? (name : String) : Option CharSet :=
  match name with
  | "alphabetic" | "alpha" => some (.ranges alphabeticRanges)
  | "lowercase" | "lower" => some (.ranges lowercaseRanges)
  | "uppercase" | "upper" => some (.ranges uppercaseRanges)
  | "whitespace" | "wspace" | "space" => some blanks
  | _ => none

/-- The set that a name in braces stands for. Of properties with one name the general one wins. -/
def namedSet? (name : List Char) : Option CharSet :=
  let loose := looseName name
  (propertySet? loose).or ((categorySet? loose).or (scriptSet? loose))

/-- The set of the values of a property. -/
def valueSet? (property value : List Char) : Option CharSet :=
  match looseName property with
  | "gc" | "generalcategory" => categorySet? (looseName value)
  | "sc" | "script" | "scx" | "scriptextensions" => scriptSet? (looseName value)
  | _ => none

end Phrasebook.Regex
