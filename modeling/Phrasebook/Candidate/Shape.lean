import Phrasebook.Text.Spacing
import Phrasebook.Text.Split
import Phrasebook.Unicode.Alphabetic
import Phrasebook.Unicode.Category
import Phrasebook.Unicode.Folding
import Phrasebook.Unicode.Ranges

/-!
# Shapes of texts

Tests that tell texts made for programs from texts made for people. Each looks at the form of a text
as a whole, without blanks around it.
-/

namespace Phrasebook.Shape

open Unicode (isBlank)

def hasBlank (text : List Char) : Bool := text.any isBlank

/-- A prefix in any case; what follows it. -/
def afterFolded? : (start : List Char) → List Char → Option (List Char)
  | [], rest => some rest
  | s :: start, c :: rest => if Unicode.fold c = s then afterFolded? start rest else none
  | _ :: _, [] => none

/-! ## Addresses -/

/-- A small ASCII letter, or a character that differs from one in case only. -/
def isFoldedLetter (c : Char) : Bool := (Unicode.fold c).isLower

def isSchemePart (c : Char) : Bool :=
  isFoldedLetter c || c.isDigit || c == '+' || c == '.' || c == '-'

/-- What follows a scheme such as `https://`. -/
def afterScheme? (text : List Char) : Option (List Char) :=
  match text with
  | c :: rest =>
    if isFoldedLetter c then Text.after? "://".toList (rest.dropWhile isSchemePart) else none
  | [] => none

/-- The openings of addresses that need no scheme. -/
def addressStarts : List String := ["mailto:", "tel:", "www.", "//"]

/-- An address of a page, a mailbox or a telephone. -/
def isUrl (text : List Char) : Bool :=
  let rest := (afterScheme? text).or (addressStarts.findSome? fun s => afterFolded? s.toList text)
  rest.any fun rest => !hasBlank rest

/-! ## Paths -/

/-- Letters, marks, digits, connecting punctuation and the two joiners. -/
def isWordCharacter (c : Char) : Bool :=
  Unicode.isAlphabetic c || Unicode.inRanges Unicode.categoryMn c ||
    Unicode.inRanges Unicode.categoryMc c || Unicode.inRanges Unicode.categoryMe c ||
    Unicode.inRanges Unicode.categoryNd c || Unicode.inRanges Unicode.categoryPc c ||
    c == '\u200C' || c == '\u200D'

def isFirstSegmentPart (c : Char) : Bool :=
  isWordCharacter c || c == '.' || c == '-' || c == '[' || c == ']' || c == '@'

def isSegmentPart (c : Char) : Bool := isFirstSegmentPart c || c == '(' || c == ')'

def pathStarts : List String := ["./", "../", "@/", "~/", "/"]

/-- The segments between slashes; a slash at the end opens none. -/
def segments (text : List Char) : List (List Char) :=
  let parts := Text.splitBy (· == '/') text
  if parts.getLast? == some [] then parts.dropLast else parts

def isSegmented (text : List Char) : Bool :=
  match segments text with
  | first :: second :: rest =>
    !first.isEmpty && first.all isFirstSegmentPart &&
      (second :: rest).all fun s => !s.isEmpty && s.all isSegmentPart
  | _ => false

/-- A path of a file or a module. -/
def isPath (text : List Char) : Bool :=
  (pathStarts.any (fun s => s.toList.isPrefixOf text) && !hasBlank text) || isSegmented text

/-! ## Hashes -/

def isHexDigit (c : Char) : Bool := c.isDigit || ('a' ≤ c && c ≤ 'f') || ('A' ≤ c && c ≤ 'F')

def isHashPart (c : Char) : Bool :=
  c.isAlphanum || c == '_' || c == '-' || c == '+' || c == '/' || c == '='

/-- A hash sign and what follows it, or a text without one. -/
def withoutHashSign (text : List Char) : List Char :=
  match text with
  | '#' :: rest => rest
  | _ => text

def isHashForm (text : List Char) : Bool :=
  let bare := withoutHashSign text
  (bare.all isHexDigit && 6 ≤ bare.length) ||
    (text.head? == some '#' && bare.all isHexDigit && (bare.length == 3 || bare.length == 4)) ||
    (text.all isHashPart && 20 ≤ text.length)

/-- A colour, a digest or another opaque token, with both letters and digits. -/
def isHash (text : List Char) : Bool :=
  isHashForm text && text.any Char.isDigit && text.any Char.isAlpha

/-! ## Numbers -/

def isDigit (c : Char) : Bool := Unicode.inRanges Unicode.categoryNd c

/-- Units of measure that may follow a number. -/
def units : List String :=
  ["", "px", "em", "rem", "%", "vh", "vw", "pt", "ms", "s", "kb", "mb", "gb", "k", "m", "x"]

def withoutSign (text : List Char) : List Char :=
  match text with
  | '-' :: rest | '+' :: rest => rest
  | _ => text

/-- A number, perhaps with a unit in any case. -/
def isNumeral (text : List Char) : Bool :=
  match withoutSign text with
  | c :: rest =>
    let unit := rest.dropWhile fun c => isDigit c || c == '.' || c == ',' || isBlank c
    isDigit c && units.contains (String.ofList (unit.map Unicode.fold))
  | [] => false

/-! ## Lists of style classes -/

def isClassHead (c : Char) : Bool := c.isLower || c.isDigit

def isClassSeparator (c : Char) : Bool := c == '-' || c == ':' || c == '/' || c == '.'

def isClassPart (c : Char) : Bool :=
  isClassHead c || c == '[' || c == ']' || c == '#' || c == '%' || c == '.' || c == '(' || c == ')'

/-- Where a class name stands while it is read. -/
inductive ClassState where
  /-- In the word that it starts with. -/
  | head
  /-- Behind a separator. -/
  | separated
  | part
  /-- Behind an opening bracket. -/
  | opened
  | bracketed
  /-- Behind a closing bracket. -/
  | closed
  deriving DecidableEq, Repr

namespace ClassState

/-- A further group may start here, and the name may end here. -/
def mayEnd : ClassState → Bool
  | head | part | closed => true
  | separated | opened | bracketed => false

/-- The states after a separator or an opening bracket. -/
def newGroup (c : Char) (s : ClassState) : List ClassState :=
  if !s.mayEnd then [] else
  if isClassSeparator c then [separated] else if c == '[' then [opened] else []

/-- The states inside a group. -/
def inGroup (c : Char) : ClassState → List ClassState
  | head => if isClassHead c then [head] else []
  | separated | part => if isClassPart c then [part] else []
  | opened => if isBlank c || c == ']' then [] else [bracketed]
  | bracketed => if c == ']' then [closed] else if isBlank c then [] else [bracketed]
  | closed => []

/-- The states after one more character. -/
def next (c : Char) (s : ClassState) : List ClassState := s.newGroup c ++ s.inGroup c

end ClassState

/-- The states after a text. -/
def classStates (states : List ClassState) (text : List Char) : List ClassState :=
  text.foldl (fun states c => (states.flatMap (ClassState.next c)).eraseDups) states

/-- The rest of a class name after marks in front of it. -/
def afterMark (mark : Char) (text : List Char) : List Char :=
  match text with
  | c :: rest => if c = mark then rest else text
  | [] => []

/-- A class name: a word, then groups behind separators or in brackets. -/
def isClassName (text : List Char) : Bool :=
  match afterMark '-' (afterMark '!' text) with
  | c :: rest => isClassHead c && (classStates [.head] rest).any ClassState.mayEnd
  | [] => false

def hasClassSign (text : List Char) : Bool :=
  text.any fun c => c == '-' || c == ':' || c == '/' || c == '['

/-- Class names, at least one of them with a separator or a bracket. -/
def isClassList (text : List Char) : Bool :=
  let tokens := Text.words text
  tokens.all isClassName && tokens.any hasClassSign

/-! ## Identifiers -/

def isLowerPart (c : Char) : Bool := c.isLower || c.isDigit

def isUpperPart (c : Char) : Bool := c.isUpper || c.isDigit

/-- At least two parts with a sign between them, none of them empty. -/
def isJoined (sign : Char) (part : Char → Bool) (text : List Char) : Bool :=
  let parts := Text.splitBy (· == sign) text
  2 ≤ parts.length && parts.all fun p => !p.isEmpty && p.all part

/-- Two humps: a capital, a small letter or digit, and a further capital. -/
def hasTwoHumps : List Char → Bool
  | a :: b :: rest => a.isUpper && isLowerPart b && rest.any Char.isUpper
  | _ => false

/-- A name of the kind that programs use. -/
def isIdentifier (text : List Char) : Bool :=
  match text with
  | [] => false
  | c :: rest =>
    (c.isLower && rest.all Char.isAlphanum) ||
      (rest.all Char.isAlphanum && hasTwoHumps text) ||
      (c.isAlpha && isJoined '_' Char.isAlphanum text) ||
      (c.isLower && isJoined '-' isLowerPart text) ||
      (c.isUpper && rest.all isUpperPart)

/-! ## Code and placeholders -/

def isClosingMark (c : Char) : Bool := c == '.' || c == '!' || c == '?' || c == ':' || c == '…'

def isCodeSign (c : Char) : Bool :=
  [':', '/', '.', '@', '#', '=', '&', '?', '_', '<', '>'].contains c

/-- A single token with signs of code inside. Marks that close a sentence do not count. -/
def isCode (text : List Char) : Bool :=
  !hasBlank text && (text.reverse.dropWhile isClosingMark).any isCodeSign

/-- A text with places to be filled in. -/
def isPlaceholder (text : List Char) : Bool :=
  Text.contains ['{', '{'] text || Text.contains ['$', '{'] text ||
    text.head? == some '{' || text.head? == some '$'

end Phrasebook.Shape
