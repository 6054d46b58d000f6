import Phrasebook.Json.Basic

/-!
# Reading JSON

The strict grammar, nested at most 127 deep. Whole numbers that do not fit 64 bits become doubles.
A number with a point or an exponent is its first digits, as many as fit 64 bits, scaled by a power
of ten in double arithmetic.
-/

namespace Phrasebook.Json

open Number (Binary64)

/-- Why a text is not JSON. -/
inductive Fault where
  | unexpected
  | tooDeep
  | trailing
  | numberOutOfRange
  | loneSurrogate
  deriving DecidableEq, Repr

def Fault.message : Fault → String
  | .unexpected => "unexpected character or end of input"
  | .tooDeep => "recursion limit exceeded"
  | .trailing => "trailing characters"
  | .numberOutOfRange => "number out of range"
  | .loneSurrogate => "lone surrogate in escape"

/-- A step reads a value off the front of the text and leaves the rest. -/
abbrev Step (α : Type) := List Char → Except Fault (α × List Char)

def isBlank (c : Char) : Bool := c == ' ' || c == '\n' || c == '\t' || c == '\r'

def skipBlanks (text : List Char) : List Char := text.dropWhile isBlank

/-! ## Numbers -/

def digitValue (c : Char) : Nat := c.toNat - '0'.toNat

/-- The greatest 64-bit natural number. -/
def maxWord : Nat := Nat.pow 2 64 - 1

/-- Takes digits while the number they form fits 64 bits; gives that number, the count of digits
taken and the rest. -/
def takeDigits (value count : Nat) : List Char → Nat × Nat × List Char
  | [] => (value, count, [])
  | c :: rest =>
    if c.isDigit && value * 10 + digitValue c ≤ maxWord then
      takeDigits (value * 10 + digitValue c) (count + 1) rest
    else (value, count, c :: rest)

/-- `significand * 10 ^ scale`, one power of ten up to 10^308 at a time. -/
def scaleReal (tries : Nat) (x : Binary64) (scale : Int) : Except Fault Binary64 :=
  let power (k : Nat) : Except Fault Binary64 :=
    match Binary64.ofNat (Nat.pow 10 k) with
    | some p => .ok p
    | none => .error .numberOutOfRange
  let orRange (y : Option Binary64) : Except Fault Binary64 :=
    match y with
    | some y => .ok y
    | none => .error .numberOutOfRange
  if scale.natAbs ≤ 308 then do
    let p ← power scale.natAbs
    orRange (if 0 ≤ scale then x.mul p else x.div p)
  else if x.isZero then .ok x
  else if 0 ≤ scale then .error .numberOutOfRange
  else
    match tries with
    | 0 => .ok (.zero x.negative)
    | tries + 1 => do
      let p ← power 308
      let y ← orRange (x.div p)
      scaleReal tries y (scale + 308)

/-- A double from its parts. Three divisions by 10^308 leave nothing of any significand. -/
def realOfParts (negative : Bool) (significand : Nat) (scale : Int) : Except Fault JsonNumber :=
  match Binary64.ofNat significand with
  | none => .error .numberOutOfRange
  | some x => do
    let y ← scaleReal 4 x scale
    .ok (.real { y with negative })

/-- The greatest exponent that is read as a number. -/
def maxExponent : Nat := Nat.pow 2 31 - 1

/-- The exponent after `e`, then the whole number. -/
def exponentPart (negative : Bool) (significand : Nat) (scale : Int) : Step JsonNumber := fun text =>
  let (down, text) :=
    match text with
    | '+' :: rest => (false, rest)
    | '-' :: rest => (true, rest)
    | _ => (false, text)
  let digits := text.takeWhile Char.isDigit
  let rest := text.dropWhile Char.isDigit
  if digits.isEmpty then .error .unexpected
  else
    let exponent := digits.foldl (fun n c => n * 10 + digitValue c) 0
    if maxExponent < exponent then
      if significand ≠ 0 && !down then .error .numberOutOfRange
      else .ok (.real (.zero negative), rest)
    else
      (realOfParts negative significand (if down then scale - exponent else scale + exponent)).map
        (·, rest)

def exponentOrEnd (negative : Bool) (significand : Nat) (scale : Int) : Step JsonNumber
  | 'e' :: rest | 'E' :: rest => exponentPart negative significand scale rest
  | text => (realOfParts negative significand scale).map (·, text)

/-- The digits after the point, then the rest of the number. -/
def fractionPart (negative : Bool) (significand : Nat) (scale : Int) : Step JsonNumber := fun text =>
  let (value, count, rest) := takeDigits significand 0 text
  let past := rest.dropWhile Char.isDigit
  if count = 0 && past.length = text.length then .error .unexpected
  else exponentOrEnd negative value (scale - count) past

/-- A number after its sign. -/
def unsigned (negative : Bool) : Step JsonNumber
  | '0' :: rest =>
    match rest with
    | '.' :: rest => fractionPart negative 0 0 rest
    | 'e' :: rest | 'E' :: rest => exponentPart negative 0 0 rest
    | _ =>
      if rest.head?.any Char.isDigit then .error .unexpected
      else .ok (if negative then .real (.zero true) else .natural 0, rest)
  | text =>
    let (value, count, rest) := takeDigits 0 0 text
    if count = 0 then .error .unexpected
    else
      let more := rest.takeWhile Char.isDigit
      let past := rest.dropWhile Char.isDigit
      match past with
      | '.' :: tail => fractionPart negative value more.length tail
      | 'e' :: tail | 'E' :: tail => exponentPart negative value more.length tail
      | _ =>
        if more.isEmpty then
          if !negative then .ok (.natural value, past)
          else if value ≤ Nat.pow 2 63 then .ok (.negative value, past)
          else (realOfParts negative value 0).map (·, past)
        else (realOfParts negative value more.length).map (·, past)

/-! ## Strings -/

def hexValue? (c : Char) : Option Nat :=
  if c.isDigit then some (c.toNat - '0'.toNat)
  else if 'a' ≤ c && c ≤ 'f' then some (c.toNat - 'a'.toNat + 10)
  else if 'A' ≤ c && c ≤ 'F' then some (c.toNat - 'A'.toNat + 10)
  else none

/-- Four hexadecimal digits. -/
def hexUnit? : List Char → Option (Nat × List Char)
  | a :: b :: c :: d :: rest => do
    let a ← hexValue? a
    let b ← hexValue? b
    let c ← hexValue? c
    let d ← hexValue? d
    some (((a * 16 + b) * 16 + c) * 16 + d, rest)
  | _ => none

/-- The character of a `\u` escape, a surrogate pair being one character. -/
def unicodeEscape : Step Char := fun text =>
  match hexUnit? text with
  | none => .error .unexpected
  | some (high, rest) =>
    if 0xD800 ≤ high && high < 0xDC00 then
      match rest with
      | '\\' :: 'u' :: tail =>
        match hexUnit? tail with
        | none => .error .unexpected
        | some (low, tail) =>
          if 0xDC00 ≤ low && low < 0xE000 then
            .ok (Char.ofNat (0x10000 + (high - 0xD800) * 0x400 + (low - 0xDC00)), tail)
          else .error .loneSurrogate
      | _ => .error .loneSurrogate
    else if 0xDC00 ≤ high && high < 0xE000 then .error .loneSurrogate
    else .ok (Char.ofNat high, rest)

/-- The character a backslash and one more character stand for. -/
def simpleEscape? : Char → Option Char
  | '"' => some '"'
  | '\\' => some '\\'
  | '/' => some '/'
  | 'b' => some '\x08'
  | 'f' => some '\x0c'
  | 'n' => some '\n'
  | 'r' => some '\r'
  | 't' => some '\t'
  | _ => none

/-- The rest of a string after its opening quote; `fuel` bounds the characters read. -/
def stringBody : Nat → Step (List Char)
  | 0, _ => .error .unexpected
  | _, [] => .error .unexpected
  | fuel + 1, c :: rest =>
    if c = '"' then .ok ([], rest)
    else if c = '\\' then
      match rest with
      | 'u' :: rest => do
        let (d, rest) ← unicodeEscape rest
        let (more, rest) ← stringBody fuel rest
        .ok (d :: more, rest)
      | e :: rest =>
        match simpleEscape? e with
        | none => .error .unexpected
        | some d => do
          let (more, rest) ← stringBody fuel rest
          .ok (d :: more, rest)
      | [] => .error .unexpected
    else if c.toNat < 0x20 then .error .unexpected
    else do
      let (more, rest) ← stringBody fuel rest
      .ok (c :: more, rest)

def quoted : Step String := fun text =>
  (stringBody (text.length + 1) text).map fun (cs, rest) => (String.ofList cs, rest)

/-! ## Values -/

/-- The items of an array after its first one, up to the closing bracket. -/
def moreItems (value : Step Json) : Nat → Step (List Json)
  | 0, _ => .error .unexpected
  | fuel + 1, text =>
    match skipBlanks text with
    | ']' :: rest => .ok ([], rest)
    | ',' :: rest => do
      let (item, rest) ← value rest
      let (items, rest) ← moreItems value fuel rest
      .ok (item :: items, rest)
    | _ => .error .unexpected

def arrayBody (value : Step Json) : Step (List Json) := fun text =>
  match skipBlanks text with
  | ']' :: rest => .ok ([], rest)
  | _ => do
    let (item, rest) ← value text
    let (items, rest) ← moreItems value (rest.length + 1) rest
    .ok (item :: items, rest)

/-- A name, a colon and a value. -/
def memberPart (value : Step Json) : Step (String × Json) := fun text =>
  match skipBlanks text with
  | '"' :: rest => do
    let (name, rest) ← quoted rest
    match skipBlanks rest with
    | ':' :: rest =>
      let (item, rest) ← value rest
      .ok ((name, item), rest)
    | _ => .error .unexpected
  | _ => .error .unexpected

/-- The members of an object after its first one, up to the closing brace. -/
def moreMembers (value : Step Json) : Nat → Step (List (String × Json))
  | 0, _ => .error .unexpected
  | fuel + 1, text =>
    match skipBlanks text with
    | '}' :: rest => .ok ([], rest)
    | ',' :: rest => do
      let (item, rest) ← memberPart value rest
      let (items, rest) ← moreMembers value fuel rest
      .ok (item :: items, rest)
    | _ => .error .unexpected

def objectBody (value : Step Json) : Step (List (String × Json)) := fun text =>
  match skipBlanks text with
  | '}' :: rest => .ok ([], rest)
  | _ => do
    let (item, rest) ← memberPart value text
    let (items, rest) ← moreMembers value (rest.length + 1) rest
    .ok (item :: items, rest)

/-- A value in which arrays and objects nest less than `depth` deep. Members of an object are given
in the order written. -/
def writtenValue : Nat → Step Json
  | depth, text =>
    match skipBlanks text with
    | 'n' :: 'u' :: 'l' :: 'l' :: rest => .ok (.null, rest)
    | 't' :: 'r' :: 'u' :: 'e' :: rest => .ok (.bool true, rest)
    | 'f' :: 'a' :: 'l' :: 's' :: 'e' :: rest => .ok (.bool false, rest)
    | '"' :: rest => (quoted rest).map fun (s, rest) => (.string s, rest)
    | '-' :: rest => (unsigned true rest).map fun (n, rest) => (.number n, rest)
    | '[' :: rest =>
      match depth with
      | 0 | 1 => .error .tooDeep
      | depth + 1 => (arrayBody (writtenValue depth) rest).map fun (v, rest) => (.array v, rest)
    | '{' :: rest =>
      match depth with
      | 0 | 1 => .error .tooDeep
      | depth + 1 => (objectBody (writtenValue depth) rest).map fun (v, rest) => (.object v, rest)
    | c :: rest =>
      if c.isDigit then (unsigned false (c :: rest)).map fun (n, rest) => (.number n, rest)
      else .error .unexpected
    | [] => .error .unexpected

mutual

/-- Orders the members of every object, the last binding of a name winning. -/
def normalize : Json → Json
  | .array items => .array (normalizeAll items)
  | .object members => .ofMembers (normalizeMembers members)
  | other => other

def normalizeAll : List Json → List Json
  | [] => []
  | item :: rest => normalize item :: normalizeAll rest

def normalizeMembers : List (String × Json) → List (String × Json)
  | [] => []
  | (name, item) :: rest => (name, normalize item) :: normalizeMembers rest

end

/-- Arrays and objects may not nest this deep. -/
def depthLimit : Nat := 128

/-- A whole text as one value, members in the order written and names possibly repeated. -/
def readWritten (text : List Char) : Except Fault Json := do
  let (value, rest) ← writtenValue depthLimit text
  if (skipBlanks rest).isEmpty then .ok value else .error .trailing

/-- A whole text as one value. -/
def read (text : String) : Except Fault Json :=
  (readWritten text.toList).map normalize

end Phrasebook.Json
