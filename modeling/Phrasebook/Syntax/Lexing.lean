import Phrasebook.Syntax.Token
import Phrasebook.Unicode.Blank
import Phrasebook.Unicode.Identifier

/-!
# Reading tokens

Every reader here takes the byte offset of the text it is given and returns the offset of the text
it leaves. `fuel` bounds the characters a reader may take.
-/

namespace Phrasebook.Syntax

open Unicode (isBlank isIdStart isIdContinue)

def isLineEnd (c : Char) : Bool :=
  c == '\n' || c == '\r' || c == '\u2028' || c == '\u2029'

/-! ## Blanks and comments -/

inductive Between where
  | blanks
  | lineComment
  | blockComment
  deriving DecidableEq, Repr

/-- What was passed over before a token. -/
structure Gap where
  newline : Bool
  offset : Nat
  rest : List Char
  deriving Repr

/-- Passes over blanks and comments. `<!--` opens a line comment, and so does `-->` at the start of
a line. A block comment may be left open at the end of the text. -/
def skipGap : Between → Bool → Nat → List Char → Gap
  | _, newline, offset, [] => ⟨newline, offset, []⟩
  | .lineComment, newline, offset, c :: rest =>
    if isLineEnd c then skipGap .blanks true (offset + c.utf8Size) rest
    else skipGap .lineComment newline (offset + c.utf8Size) rest
  | .blockComment, newline, offset, '*' :: '/' :: rest => skipGap .blanks newline (offset + 2) rest
  | .blockComment, newline, offset, c :: rest =>
    skipGap .blockComment (newline || isLineEnd c) (offset + c.utf8Size) rest
  | .blanks, newline, offset, '/' :: '/' :: rest => skipGap .lineComment newline (offset + 2) rest
  | .blanks, newline, offset, '/' :: '*' :: rest => skipGap .blockComment newline (offset + 2) rest
  | .blanks, newline, offset, '<' :: '!' :: '-' :: '-' :: rest =>
    skipGap .lineComment newline (offset + 4) rest
  | .blanks, newline, offset, '-' :: '-' :: '>' :: rest =>
    if newline then skipGap .lineComment newline (offset + 3) rest
    else ⟨newline, offset, '-' :: '-' :: '>' :: rest⟩
  | .blanks, newline, offset, c :: rest =>
    if isLineEnd c then skipGap .blanks true (offset + c.utf8Size) rest
    else if isBlank c || c == '\uFEFF' then skipGap .blanks newline (offset + c.utf8Size) rest
    else ⟨newline, offset, c :: rest⟩

/-! ## Words -/

def isWordStart (c : Char) : Bool :=
  c.isAlpha || c == '_' || c == '$' || (0x80 ≤ c.toNat && isIdStart c)

def isWordPart (c : Char) : Bool :=
  c.isAlphanum || c == '_' || c == '$' || c == '\u200C' || c == '\u200D' ||
    (0x80 ≤ c.toNat && isIdContinue c)

def hexValue? (c : Char) : Option Nat :=
  if c.isDigit then some (c.toNat - '0'.toNat)
  else if 'a' ≤ c && c ≤ 'f' then some (c.toNat - 'a'.toNat + 10)
  else if 'A' ≤ c && c ≤ 'F' then some (c.toNat - 'A'.toNat + 10)
  else none

/-- The digits of a braced code point: its value, the bytes read with the brace, the rest. -/
def bracedHex (value count : Nat) : List Char → Option (Nat × Nat × List Char)
  | [] => none
  | '}' :: rest => if count = 0 then none else some (value, count + 1, rest)
  | c :: rest =>
    match hexValue? c with
    | some d =>
      if value * 16 + d < 0x110000 then bracedHex (value * 16 + d) (count + 1) rest else none
    | none => none

/-- The code point after `\u`: its value, the bytes read, the rest. -/
def unicodeEscape? : List Char → Option (Nat × Nat × List Char)
  | '{' :: rest => (bracedHex 0 0 rest).map fun (n, bytes, rest) => (n, bytes + 1, rest)
  | a :: b :: c :: d :: rest => do
    let a ← hexValue? a
    let b ← hexValue? b
    let c ← hexValue? c
    let d ← hexValue? d
    some (((a * 16 + b) * 16 + c) * 16 + d, 4, rest)
  | _ => none

structure Word where
  chars : List Char
  escaped : Bool
  offset : Nat
  rest : List Char
  deriving Repr

/-- The longest run of characters that may follow in a word. -/
def wordRest : Nat → Nat → List Char → Word
  | 0, offset, text => ⟨[], false, offset, text⟩
  | _, offset, [] => ⟨[], false, offset, []⟩
  | fuel + 1, offset, c :: rest =>
    if isWordPart c then
      let more := wordRest fuel (offset + c.utf8Size) rest
      { more with chars := c :: more.chars }
    else
      match c, rest with
      | '\\', 'u' :: tail =>
        match unicodeEscape? tail with
        | some (n, bytes, tail) =>
          if isWordPart (Char.ofNat n) then
            let more := wordRest fuel (offset + 2 + bytes) tail
            { more with chars := Char.ofNat n :: more.chars, escaped := true }
          else ⟨[], false, offset, c :: rest⟩
        | none => ⟨[], false, offset, c :: rest⟩
      | _, _ => ⟨[], false, offset, c :: rest⟩

/-! ## Strings -/

/-- Appends a code unit, joining two halves of a surrogate pair. The units are in reverse. -/
def pushUnit (unit : Nat) : List Nat → List Nat
  | high :: rest =>
    if 0xD800 ≤ high && high < 0xDC00 && 0xDC00 ≤ unit && unit < 0xE000 then
      (0x10000 + (high - 0xD800) * 0x400 + (unit - 0xDC00)) :: rest
    else unit :: high :: rest
  | [] => [unit]

/-- The text of reversed code units, if none is half a surrogate pair. -/
def unitsText? (units : List Nat) : Option String :=
  if units.all fun n => n < 0xD800 || 0xE000 ≤ n then
    some (String.ofList (units.reverse.map Char.ofNat))
  else none

def octalValue? (c : Char) : Option Nat :=
  if '0' ≤ c && c ≤ '7' then some (c.toNat - '0'.toNat) else none

/-- An escape of up to three octal digits below 256. -/
def octalEscape (first : Nat) (rest : List Char) : Option Nat × Nat × List Char :=
  match rest with
  | b :: more =>
    match octalValue? b with
    | none => (some first, 1, rest)
    | some d =>
      let two := first * 8 + d
      match more with
      | c :: last =>
        match octalValue? c with
        | some e => if two * 8 + e < 256 then (some (two * 8 + e), 3, last) else (some two, 2, more)
        | none => (some two, 2, more)
      | [] => (some two, 2, more)
  | [] => (some first, 1, rest)

/-- What follows a backslash in a string: the unit it stands for, none for a continued line; the
bytes read; the rest. Malformed escapes give nothing. -/
def stringEscape? : List Char → Option (Option Nat × Nat × List Char)
  | [] => none
  | '\r' :: '\n' :: rest => some (none, 2, rest)
  | 'x' :: rest =>
    match rest with
    | a :: b :: tail => do
      let a ← hexValue? a
      let b ← hexValue? b
      some (some (a * 16 + b), 3, tail)
    | _ => none
  | 'u' :: rest => (unicodeEscape? rest).map fun (n, bytes, tail) => (some n, bytes + 1, tail)
  | c :: rest =>
    if isLineEnd c then some (none, c.utf8Size, rest)
    else
      match octalValue? c with
      | some d => some (octalEscape d rest)
      | none =>
        let unit :=
          match c with
          | 'n' => 0x0A
          | 't' => 0x09
          | 'r' => 0x0D
          | 'b' => 0x08
          | 'v' => 0x0B
          | 'f' => 0x0C
          | c => c.toNat
        some (some unit, c.utf8Size, rest)

/-- The rest of a string after its opening quote, its units in reverse. A string left open ends
before the line does. -/
def stringRest (quote : Char) :
    Nat → List Nat → Nat → List Char → Except Fault (List Nat × Nat × List Char)
  | 0, units, offset, text => .ok (units, offset, text)
  | _, units, offset, [] => .ok (units, offset, [])
  | fuel + 1, units, offset, c :: rest =>
    if c = quote then .ok (units, offset + 1, rest)
    else if c = '\n' || c = '\r' then .ok (units, offset, c :: rest)
    else if c = '\\' then
      match stringEscape? rest with
      | none => .error ⟨offset, .badEscape⟩
      | some (none, bytes, tail) => stringRest quote fuel units (offset + 1 + bytes) tail
      | some (some unit, bytes, tail) =>
        stringRest quote fuel (pushUnit unit units) (offset + 1 + bytes) tail
    else stringRest quote fuel (pushUnit c.toNat units) (offset + c.utf8Size) rest

/-- The end of a markup string, which has no escapes and may span lines. One left open goes on to the
end of the text. A closing quote belongs to the string if two more characters follow it, as they do
wherever the tag is closed. -/
def markupStringRest (quote : Char) : Nat → List Char → Nat × List Char
  | offset, [] => (offset, [])
  | offset, c :: rest =>
    if c = quote then
      match rest with
      | _ :: _ :: _ => (offset + 1, rest)
      | _ => (offset, c :: rest)
    else markupStringRest quote (offset + c.utf8Size) rest

/-- The end of a stretch of a template: at a backtick, or before an embedded expression. -/
def templateRest : Nat → List Char → Option (Bool × Nat × List Char)
  | _, [] => none
  | offset, '`' :: rest => some (true, offset + 1, rest)
  | offset, '$' :: '{' :: rest => some (false, offset + 2, rest)
  | offset, '\\' :: c :: rest => templateRest (offset + 1 + c.utf8Size) rest
  | offset, c :: rest => templateRest (offset + c.utf8Size) rest

/-! ## Regular expressions -/

/-- The end of a regular expression, after its closing slash. A slash in brackets or after a
backslash does not close it, a line end leaves it open. -/
def regexRest (escaped bracketed : Bool) : Nat → List Char → Option (Nat × List Char)
  | _, [] => none
  | offset, c :: rest =>
    if isLineEnd c then none
    else if escaped then regexRest false bracketed (offset + c.utf8Size) rest
    else if c = '/' && !bracketed then some (offset + 1, rest)
    else
      regexRest (c = '\\') ((bracketed || c = '[') && c ≠ ']') (offset + c.utf8Size) rest

/-! ## Numbers -/

/-- Digits and the underscores between them: bytes read and the rest. -/
def digitRun (digit : Char → Bool) : Nat → List Char → Nat × List Char
  | offset, [] => (offset, [])
  | offset, c :: rest =>
    if digit c || c = '_' then digitRun digit (offset + 1) rest else (offset, c :: rest)

def isHexDigit (c : Char) : Bool := (hexValue? c).isSome

def isOctalDigit (c : Char) : Bool := (octalValue? c).isSome

def isBinaryDigit (c : Char) : Bool := c = '0' || c = '1'

/-- An exponent, if one follows. -/
def exponentRest (offset : Nat) (text : List Char) : Except Fault (Nat × List Char) :=
  let digits (start : Nat) (text : List Char) : Except Fault (Nat × List Char) :=
    match text with
    | d :: _ => if d.isDigit then .ok (digitRun Char.isDigit start text) else .error ⟨start, .badNumber⟩
    | [] => .error ⟨start, .badNumber⟩
  match text with
  | e :: rest =>
    if e = 'e' || e = 'E' then
      match rest with
      | '+' :: tail | '-' :: tail => digits (offset + 2) tail
      | _ => digits (offset + 1) rest
    else .ok (offset, text)
  | [] => .ok (offset, text)

/-- Digits in a base, after the two characters that name it. -/
def basedRest (digit : Char → Bool) (start offset : Nat) (text : List Char) :
    Except Fault (Nat × List Char) :=
  match text with
  | d :: _ =>
    if digit d then
      match digitRun digit offset text with
      | (stop, 'n' :: rest) => .ok (stop + 1, rest)
      | found => .ok found
    else .error ⟨start, .badNumber⟩
  | [] => .error ⟨start, .badNumber⟩

/-- The rest of a decimal number after its whole part. -/
def fractionRest (offset : Nat) (text : List Char) : Except Fault (Nat × List Char) :=
  match text with
  | 'n' :: rest => .ok (offset + 1, rest)
  | '.' :: rest =>
    let (offset, rest) := digitRun Char.isDigit (offset + 1) rest
    exponentRest offset rest
  | _ => exponentRest offset text

/-- A number and what follows it. -/
def numberRest (offset : Nat) (text : List Char) : Except Fault (Nat × List Char) :=
  match text with
  | '0' :: b :: rest =>
    if b = 'x' || b = 'X' then basedRest isHexDigit offset (offset + 2) rest
    else if b = 'o' || b = 'O' then basedRest isOctalDigit offset (offset + 2) rest
    else if b = 'b' || b = 'B' then basedRest isBinaryDigit offset (offset + 2) rest
    else
      let (stop, rest) := digitRun Char.isDigit offset text
      fractionRest stop rest
  | '.' :: rest =>
    let (stop, rest) := digitRun Char.isDigit (offset + 1) rest
    exponentRest stop rest
  | _ =>
    let (stop, rest) := digitRun Char.isDigit offset text
    fractionRest stop rest

/-! ## Signs -/

/-- Signs of three characters down to one, longest first. -/
def signs : List String :=
  ["...", "===", "!==", "**=", "<<=", "&&=", "||=", "??=",
    "=>", "==", "!=", "++", "--", "<<", "<=", "&&", "||", "??", "?.", "+=", "-=", "*=", "/=", "%=",
    "&=", "|=", "^=", "**",
    "\x7b", "\x7d", "(", ")", "[", "]", ".", ";", ",", "<", ">", "+", "-", "*", "/", "%", "&", "|", "^",
    "!", "~", "?", ":", "=", "@", "#"]

/-- What follows a sign that the text starts with. -/
def afterSign? : List Char → List Char → Option (List Char)
  | [], rest => some rest
  | s :: sign, c :: rest => if s = c then afterSign? sign rest else none
  | _ :: _, [] => none

/-- `?.` before a digit is a question mark and a number. -/
def isChainSign (sign : String) (rest : List Char) : Bool :=
  sign != "?." || !(rest.head?.any Char.isDigit)

/-- The longest sign at the start of the text. -/
def readSign? (text : List Char) : Option (String × List Char) :=
  signs.findSome? fun sign =>
    match afterSign? sign.toList text with
    | some rest => if isChainSign sign rest then some (sign, rest) else none
    | none => none

/-! ## Tokens -/

def word (fuel : Nat) (gap : Gap) : Lexeme :=
  let w := wordRest fuel gap.offset gap.rest
  ⟨.word (String.ofList w.chars) w.escaped, ⟨gap.offset, w.offset⟩, gap.newline, w.rest⟩

/-- A token that ends where a reader says, or the reader's fault. -/
def located (gap : Gap) (token : Token) : Except Fault (Nat × List Char) → Lexeme
  | .ok (stop, rest) => ⟨token, ⟨gap.offset, stop⟩, gap.newline, rest⟩
  | .error fault => ⟨.invalid fault false, ⟨gap.offset, fault.offset⟩, gap.newline, gap.rest.drop 1⟩

/-- A number; no word may follow it directly. -/
def number (gap : Gap) : Lexeme :=
  match numberRest gap.offset gap.rest with
  | .ok (stop, rest) =>
    if rest.head?.any isWordStart then
      ⟨.invalid ⟨stop, .nameAfterNumber⟩ false, ⟨gap.offset, stop⟩, gap.newline, rest⟩
    else located gap .number (.ok (stop, rest))
  | failed => located gap .number failed

def quotedString (fuel : Nat) (gap : Gap) (quote : Char) (rest : List Char) : Lexeme :=
  match stringRest quote fuel [] (gap.offset + 1) rest with
  | .ok (units, stop, rest) => located gap (.string (unitsText? units)) (.ok (stop, rest))
  | .error fault => located gap .number (.error fault)

/-- The stretch of a template that starts at a backtick or at the brace after an expression. -/
def templatePart (gap : Gap) (rest : List Char) : Lexeme :=
  match templateRest (gap.offset + 1) rest with
  | some (last, stop, rest) => ⟨.template last, ⟨gap.offset, stop⟩, gap.newline, rest⟩
  | none =>
    ⟨.invalid ⟨gap.offset, .unterminated "template"⟩ false, ⟨gap.offset, gap.offset⟩, gap.newline, []⟩

/-- A word that starts with an escape, or a stray backslash. -/
def escapedWord (fuel : Nat) (gap : Gap) : Lexeme :=
  let w := word fuel gap
  if w.span.stop = gap.offset then
    ⟨.invalid ⟨gap.offset, .unknownCharacter⟩ false, ⟨gap.offset, gap.offset + 1⟩, gap.newline,
      gap.rest.drop 1⟩
  else w

/-- The token after a gap. -/
def tokenAt (fuel : Nat) (gap : Gap) : Lexeme :=
  match gap.rest with
  | [] => ⟨.endOfText, ⟨gap.offset, gap.offset⟩, gap.newline, []⟩
  | c :: rest =>
    if isWordStart c then word fuel gap
    else if c.isDigit || (c = '.' && rest.head?.any Char.isDigit) then number gap
    else if c = '"' || c = '\'' then quotedString fuel gap c rest
    else if c = '`' then templatePart gap rest
    else if c = '\\' then escapedWord fuel gap
    else
      match readSign? (c :: rest) with
      | some (sign, rest) =>
        ⟨.sign sign, ⟨gap.offset, gap.offset + sign.length⟩, gap.newline, rest⟩
      | none =>
        ⟨.invalid ⟨gap.offset, .unknownCharacter⟩ false, ⟨gap.offset, gap.offset + c.utf8Size⟩,
          gap.newline, rest⟩

/-- The next token of a text that starts at a byte offset. -/
def lexeme (fuel offset : Nat) (text : List Char) : Lexeme :=
  tokenAt fuel (skipGap .blanks false offset text)

/-! ## Tokens that only the grammar can tell -/

/-- A regular expression that starts at a slash. -/
def regexAt (fuel : Nat) (newline : Bool) (start : Nat) (afterSlash : List Char) : Lexeme :=
  match regexRest false false (start + 1) afterSlash with
  | some (stop, rest) =>
    let flags := wordRest fuel stop rest
    ⟨.regex, ⟨start, flags.offset⟩, newline, flags.rest⟩
  | none =>
    ⟨.invalid ⟨start, .unterminated "regular expression"⟩ true, ⟨start, start⟩, newline, afterSlash⟩

/-- The signs that a greater-than sign starts, longest first. -/
def greaterSigns : List String := [">>>=", ">>>", ">>=", ">>", ">="]

/-- The operator that a greater-than sign starts. -/
def greaterAt (newline : Bool) (start : Nat) (afterSign : List Char) : Lexeme :=
  let found := greaterSigns.findSome? fun sign =>
    (afterSign? sign.toList ('>' :: afterSign)).map (sign, ·)
  match found with
  | some (sign, rest) => ⟨.sign sign, ⟨start, start + sign.length⟩, newline, rest⟩
  | none => ⟨.sign ">", ⟨start, start + 1⟩, newline, afterSign⟩

/-- What stands between markup tags: a brace, a tag's opening or text. -/
def markupChild (start : Nat) (text : List Char) : Lexeme :=
  match text with
  | [] => ⟨.endOfText, ⟨start, start⟩, false, []⟩
  | '{' :: rest => ⟨.sign "\x7b", ⟨start, start + 1⟩, false, rest⟩
  | '<' :: '/' :: rest => ⟨.sign "</", ⟨start, start + 2⟩, false, rest⟩
  | '<' :: rest => ⟨.sign "<", ⟨start, start + 1⟩, false, rest⟩
  | _ =>
    let shown := text.takeWhile fun c => c ≠ '{' && c ≠ '<'
    let size := shown.foldl (fun n c => n + c.utf8Size) 0
    ⟨.markupText, ⟨start, start + size⟩, false, text.drop shown.length⟩

/-- A markup name goes on over hyphens. -/
def markupNameRest (fuel offset : Nat) (text : List Char) : Word :=
  match fuel with
  | 0 => ⟨[], false, offset, text⟩
  | fuel + 1 =>
    match text with
    | c :: rest =>
      if c = '-' || isWordPart c then
        let more := markupNameRest fuel (offset + c.utf8Size) rest
        { more with chars := c :: more.chars }
      else ⟨[], false, offset, text⟩
    | [] => ⟨[], false, offset, text⟩

/-- The value of a markup attribute. -/
def markupValue (fuel offset : Nat) (text : List Char) : Lexeme :=
  let gap := skipGap .blanks false offset text
  match gap.rest with
  | c :: rest =>
    if c = '"' || c = '\'' then
      located gap .markupString (.ok (markupStringRest c (gap.offset + 1) rest))
    else tokenAt fuel gap
  | [] => tokenAt fuel gap

end Phrasebook.Syntax
