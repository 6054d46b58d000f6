import Phrasebook.Json.Reader
import Phrasebook.Unicode.Blank
import Phrasebook.Unicode.Category

/-!
# Reading relaxed JSON

A syntax made for people: comments, single quotes, names without quotes, a comma at the end of a
list, and more ways to write numbers. A number is read as the greatest 64-bit natural number that
does not exceed it, zero if there is none.
-/

namespace Phrasebook.Json.Relaxed

open Number (Binary64)

/-- Characters of the category Zs. -/
def isSpace (c : Char) : Bool := Unicode.inRanges Unicode.categoryZs c

def isLineEnd (c : Char) : Bool := c == '\n' || c == '\r' || c == '\u2028' || c == '\u2029'

def isBlank (c : Char) : Bool :=
  c == '\t' || c == '\x0b' || c == '\x0c' || c == '\uFEFF' || isSpace c || isLineEnd c

/-- What follows a comment's end, if it has one. -/
def afterComment? : List Char → Option (List Char)
  | '*' :: '/' :: rest => some rest
  | _ :: rest => afterComment? rest
  | [] => none

/-- Blanks and comments are passed over. `fuel` bounds the characters read. -/
def skip : Nat → List Char → List Char
  | 0, text => text
  | fuel + 1, text =>
    match text with
    | '/' :: '/' :: rest => skip fuel (rest.dropWhile fun c => !isLineEnd c)
    | '/' :: '*' :: rest =>
      match afterComment? rest with
      | some rest => skip fuel rest
      | none => text
    | c :: rest => if isBlank c then skip fuel rest else text
    | [] => []

def skipBlanks (text : List Char) : List Char := skip (text.length + 1) text

/-! ## Numbers -/

def natOfDigits (digits : List Char) : Nat := digits.foldl (fun n c => n * 10 + digitValue c) 0

/-- The greatest 64-bit natural number that does not exceed a double. -/
def floorWord (x : Binary64) : Nat :=
  if x.negative then 0 else min maxWord (x.units >>> 1074)

/-- The whole digits: a zero alone, or digits without a zero in front. -/
def wholeDigits (text : List Char) : List Char × List Char :=
  match text with
  | '0' :: rest => (['0'], rest)
  | _ => (text.takeWhile Char.isDigit, text.dropWhile Char.isDigit)

/-- An exponent, if one follows. -/
def exponent (text : List Char) : Int × List Char :=
  let digitsOf (negative : Bool) (rest : List Char) : Int × List Char :=
    let digits := rest.takeWhile Char.isDigit
    if digits.isEmpty then (0, text)
    else
      let n : Int := natOfDigits digits
      (if negative then -n else n, rest.drop digits.length)
  match text with
  | e :: rest =>
    if e == 'e' || e == 'E' then
      match rest with
      | '-' :: rest => digitsOf true rest
      | '+' :: rest => digitsOf false rest
      | rest => digitsOf false rest
    else (0, text)
  | [] => (0, text)

/-- A decimal as a natural number. Beyond a thousand places it is too large, or nothing is left. -/
def ofDecimal (negative : Bool) (digits : Nat) (scale : Int) : Except Fault Nat :=
  if digits = 0 || scale < -1000 then .ok 0
  else if 1000 < scale then .error .numberOutOfRange
  else
    match Binary64.ofDecimal negative ⟨digits, scale⟩ with
    | some x => .ok (floorWord x)
    | none => .error .numberOutOfRange

/-- A decimal number after its sign. -/
def decimal (negative : Bool) : Step Nat := fun text =>
  let (whole, rest) := wholeDigits text
  match rest with
  | '.' :: more =>
    let fraction := more.takeWhile Char.isDigit
    if whole.isEmpty && fraction.isEmpty then .error .unexpected
    else
      let (e, rest) := exponent (more.drop fraction.length)
      (ofDecimal negative (natOfDigits (whole ++ fraction)) (e - fraction.length)).map (·, rest)
  | _ =>
    if whole.isEmpty then .error .unexpected
    else
      let (e, rest) := exponent rest
      (ofDecimal negative (natOfDigits whole) e).map (·, rest)

def hexDigits (text : List Char) : List Char := text.takeWhile fun c => (hexValue? c).isSome

/-- A hexadecimal number of 32 bits, which has no sign. -/
def hexadecimal (signed : Bool) : Step Nat := fun text =>
  let digits := hexDigits text
  let n := digits.foldl (fun n c => n * 16 + (hexValue? c).getD 0) 0
  if signed || digits.isEmpty then .error .unexpected
  else if Nat.pow 2 32 ≤ n then .error .numberOutOfRange
  else .ok (n, text.drop digits.length)

/-- A number after its sign, if it has one. -/
def number (sign : Option Char) : Step Nat := fun text =>
  let negative := sign == some '-'
  match text with
  | '0' :: 'x' :: rest | '0' :: 'X' :: rest => hexadecimal sign.isSome rest
  | 'I' :: 'n' :: 'f' :: 'i' :: 'n' :: 'i' :: 't' :: 'y' :: rest =>
    if sign == some '+' then .error .numberOutOfRange else .ok (if negative then 0 else maxWord, rest)
  | 'N' :: 'a' :: 'N' :: rest =>
    if sign == some '+' then .error .numberOutOfRange else .ok (0, rest)
  | text => decimal negative text

/-! ## Strings -/

/-- The unit after `\u`, a surrogate pair being one character. -/
def unicodeEscape : Step Char := Json.unicodeEscape

/-- What follows a backslash: the character it stands for, or nothing for a continued line. -/
def escape : Step (Option Char)
  | '\r' :: '\n' :: rest => .ok (none, rest)
  | 'u' :: rest => (unicodeEscape rest).map fun (c, rest) => (some c, rest)
  | 'x' :: a :: b :: rest =>
    match hexValue? a, hexValue? b with
    | some a, some b => .ok (some (Char.ofNat (a * 16 + b)), rest)
    | _, _ => .error .unexpected
  | c :: rest =>
    if isLineEnd c then .ok (none, rest)
    else
      match c with
      | 'b' => .ok (some '\x08', rest)
      | 'f' => .ok (some '\x0c', rest)
      | 'n' => .ok (some '\n', rest)
      | 'r' => .ok (some '\r', rest)
      | 't' => .ok (some '\t', rest)
      | 'v' => .ok (some '\x0b', rest)
      | '0' => .ok (some '\x00', rest)
      | 'x' => .error .unexpected
      | c => if c.isDigit then .error .unexpected else .ok (some c, rest)
  | [] => .error .unexpected

/-- The rest of a string after its opening quote. -/
def stringBody (quote : Char) : Nat → Step (List Char)
  | 0, _ => .error .unexpected
  | _, [] => .error .unexpected
  | fuel + 1, c :: rest =>
    if c = quote then .ok ([], rest)
    else if c = '\\' then do
      let (d, rest) ← escape rest
      let (more, rest) ← stringBody quote fuel rest
      .ok (d.toList ++ more, rest)
    else if isLineEnd c then .error .unexpected
    else do
      let (more, rest) ← stringBody quote fuel rest
      .ok (c :: more, rest)

def string (quote : Char) : Step String := fun text =>
  (stringBody quote (text.length + 1) text).map fun (cs, rest) => (String.ofList cs, rest)

/-! ## Names -/

def isNameStart (c : Char) : Bool :=
  c == '$' || c == '_' ||
    Unicode.inRanges (Unicode.categoryLu ++ Unicode.categoryLl ++ Unicode.categoryLt ++
      Unicode.categoryLm ++ Unicode.categoryLo ++ Unicode.categoryNl) c

def isNamePart (c : Char) : Bool :=
  isNameStart c || c == '\u200C' || c == '\u200D' ||
    Unicode.inRanges (Unicode.categoryMn ++ Unicode.categoryNd ++ Unicode.categoryPc) c

/-- A name without quotes; escapes stand for any character. -/
def nameBody : Nat → (first : Bool) → Step (List Char)
  | 0, _, _ => .error .unexpected
  | fuel + 1, first, text =>
    let ends : Except Fault (List Char × List Char) :=
      if first then .error .unexpected else .ok ([], text)
    match text with
    | '\\' :: 'u' :: rest => do
      let (c, rest) ← unicodeEscape rest
      let (more, rest) ← nameBody fuel false rest
      .ok (c :: more, rest)
    | c :: rest =>
      if (if first then isNameStart c else isNamePart c) then do
        let (more, rest) ← nameBody fuel false rest
        .ok (c :: more, rest)
      else ends
    | [] => ends

/-- The name of a member. -/
def memberName : Step String := fun text =>
  match text with
  | '"' :: rest => string '"' rest
  | '\'' :: rest => string '\'' rest
  | _ => (nameBody (text.length + 1) true text).map fun (cs, rest) => (String.ofList cs, rest)

/-! ## Values -/

/-- What follows an item: the end of the list, or more items. -/
def afterItem (closing : Char) (more : Step (List α)) : Step (List α) := fun text =>
  match skipBlanks text with
  | ',' :: rest =>
    match skipBlanks rest with
    | c :: tail => if c = closing then .ok ([], tail) else more (c :: tail)
    | [] => .error .unexpected
  | c :: rest => if c = closing then .ok ([], rest) else .error .unexpected
  | [] => .error .unexpected

/-- Items with commas between them, up to the closing character. -/
def items (closing : Char) (item : Step α) : Nat → Step (List α)
  | 0, _ => .error .unexpected
  | fuel + 1, text => do
    let (a, rest) ← item text
    let (more, rest) ← afterItem closing (items closing item fuel) rest
    .ok (a :: more, rest)

/-- A list after its opening character. -/
def listBody (closing : Char) (item : Step α) : Step (List α) := fun text =>
  match skipBlanks text with
  | c :: rest =>
    if c = closing then .ok ([], rest) else items closing item (rest.length + 2) (c :: rest)
  | [] => .error .unexpected

def member (value : Step Json) : Step (String × Json) := fun text => do
  let (name, rest) ← memberName text
  match skipBlanks rest with
  | ':' :: rest =>
    let (j, rest) ← value (skipBlanks rest)
    .ok ((name, j), rest)
  | _ => .error .unexpected

def natValue (found : Except Fault (Nat × List Char)) : Except Fault (Json × List Char) :=
  found.map fun (n, rest) => (.ofNat n, rest)

/-- A value; `depth` bounds how deep it nests. -/
def value : Nat → Step Json
  | 0, _ => .error .tooDeep
  | depth + 1, text =>
    match text with
    | 'n' :: 'u' :: 'l' :: 'l' :: rest => .ok (.null, rest)
    | 't' :: 'r' :: 'u' :: 'e' :: rest => .ok (.bool true, rest)
    | 'f' :: 'a' :: 'l' :: 's' :: 'e' :: rest => .ok (.bool false, rest)
    | '"' :: rest => (string '"' rest).map fun (s, rest) => (.string s, rest)
    | '\'' :: rest => (string '\'' rest).map fun (s, rest) => (.string s, rest)
    | '[' :: rest => (listBody ']' (value depth) rest).map fun (v, rest) => (.array v, rest)
    | '{' :: rest =>
      (listBody '}' (member (value depth)) rest).map fun (v, rest) => (.object v, rest)
    | '+' :: rest => natValue (number (some '+') rest)
    | '-' :: rest => natValue (number (some '-') rest)
    | _ => natValue (number none text)

/-- A whole text as one value, members in the order written. -/
def readWritten (text : List Char) : Except Fault Json := do
  let (j, rest) ← value (text.length + 1) (skipBlanks text)
  if (skipBlanks rest).isEmpty then .ok j else .error .trailing

end Phrasebook.Json.Relaxed
