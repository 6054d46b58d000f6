import Phrasebook.Regex.Classes

/-!
# Reading regular expressions

Patterns that look ahead or behind, or refer back to a group, are not read. Which alternative a
group took is not told apart, so greedy and lazy repetition read alike.
-/

namespace Phrasebook.Regex

/-- What may be switched on and off inside a pattern. -/
structure Flags where
  ignoreCase : Bool
  multiLine : Bool
  dotAll : Bool
  /-- Blanks and comments in the pattern are passed over. -/
  verbose : Bool
  /-- A carriage return ends a line too. -/
  returns : Bool
  unicode : Bool
  deriving DecidableEq, Repr

def Flags.standard : Flags := ⟨false, false, false, false, false, true⟩

/-- The text still to be read, and the names of groups so far. -/
structure Reading where
  rest : List Char
  names : List String

abbrev Reader := StateT Reading Option

namespace Reader

def peek? : Reader (Option Char) := return (← get).rest.head?

def peekSecond? : Reader (Option Char) := return ((← get).rest.drop 1).head?

/-- The next character, which must be there. -/
def next : Reader Char := do
  let s ← get
  match s.rest with
  | c :: rest =>
    set { s with rest }
    return c
  | [] => failure

def drop (n : Nat) : Reader Unit := modify fun s => { s with rest := s.rest.drop n }

def startsWith (word : String) : Reader Bool := return word.toList.isPrefixOf (← get).rest

/-- Passes over a word if it stands here. -/
def eat (word : String) : Reader Bool := do
  if ← startsWith word then
    drop word.length
    return true
  else return false

def expect (c : Char) : Reader Unit := do
  if (← next) != c then failure

/-- Blanks and comments of a verbose pattern. -/
def skipVerbose : Nat → List Char → List Char
  | 0, text => text
  | _, [] => []
  | fuel + 1, c :: rest =>
    if Unicode.isBlank c then skipVerbose fuel rest
    else if c == '#' then skipVerbose fuel (rest.dropWhile (· != '\n'))
    else c :: rest

def skip (flags : Flags) : Reader Unit := do
  if flags.verbose then modify fun s => { s with rest := skipVerbose (s.rest.length + 1) s.rest }

/-- The next character after what is passed over. -/
def peekAfter? (flags : Flags) : Reader (Option Char) := do
  let rest := (← get).rest.drop 1
  return (if flags.verbose then skipVerbose (rest.length + 1) rest else rest).head?

/-- Characters up to a closing one, which is passed over. -/
def upTo (closing : Char) : Reader (List Char) := do
  let s ← get
  let found := s.rest.takeWhile (· != closing)
  match s.rest.drop found.length with
  | _ :: rest =>
    set { s with rest }
    return found
  | [] => failure

end Reader

open Reader

/-! ## Escapes -/

/-- What an escape stands for. -/
inductive Escaped where
  | literal (c : Char)
  | set (members : CharSet)
  | test (assertion : Assertion)

def hexDigitValue? (c : Char) : Option Nat :=
  if c.isDigit then some (c.toNat - '0'.toNat)
  else if 'a' ≤ c && c ≤ 'f' then some (c.toNat - 'a'.toNat + 10)
  else if 'A' ≤ c && c ≤ 'F' then some (c.toNat - 'A'.toNat + 10)
  else none

/-- The character of a code point in hexadecimal digits. -/
def ofHex? (digits : List Char) : Option Char := do
  if digits.isEmpty then failure
  let n ← digits.foldlM (fun n c => (hexDigitValue? c).map (n * 16 + ·)) 0
  if n < 0xD800 || (0xE000 ≤ n && n < 0x110000) then some (Char.ofNat n) else none

def readHex (count : Nat) : Reader Escaped := do
  let digits ←
    if ← eat "\x7b" then upTo '}'
    else
      let s ← get
      if s.rest.length < count then failure
      drop count
      pure (s.rest.take count)
  match ofHex? digits with
  | some c => return .literal c
  | none => failure

/-- Where a sign that separates a property from its value stands: the parts around it. -/
def splitAt? (sign : List Char) : List Char → Option (List Char × List Char)
  | [] => none
  | c :: rest =>
    if sign.isPrefixOf (c :: rest) then some ([], (c :: rest).drop sign.length)
    else (splitAt? sign rest).map fun (front, back) => (c :: front, back)

/-- The set that a property's name or its value in braces stands for. -/
def braceSet? (name : List Char) : Option CharSet :=
  match splitAt? ['!', '='] name with
  | some (property, value) => (valueSet? property value).map .complement
  | none =>
    match (splitAt? [':'] name).or (splitAt? ['='] name) with
    | some (property, value) => valueSet? property value
    | none => namedSet? name

def readProperty (flags : Flags) (negated : Bool) : Reader Escaped := do
  if !flags.unicode then failure
  let name ←
    if ← eat "\x7b" then upTo '}'
    else
      let c ← next
      if c == '\\' then failure
      pure [c]
  match braceSet? name with
  | some found => return .set (if negated then .complement found else found)
  | none => failure

def wordSet (flags : Flags) : CharSet :=
  if flags.unicode then wordCharacters else asciiWordCharacters

/-- What may follow `\b` in braces. -/
def readWordEdge (flags : Flags) : Reader Escaped := do
  let w := wordSet flags
  let isNameChar (c : Char) := c.isAlpha || c == '-'
  if !(← startsWith "\x7b") then return .test (.wordEdge w)
  match ← peekSecond? with
  | none => failure
  | some c =>
    if !isNameChar c then return .test (.wordEdge w)
    drop 1
    match String.ofList (← upTo '}') with
    | "start" => return .test (.wordStart w)
    | "end" => return .test (.wordEnd w)
    | "start-half" => return .test (.notAfterWord w)
    | "end-half" => return .test (.notBeforeWord w)
    | _ => failure

/-- A character that may stand behind a backslash for itself. -/
def isEscapable (c : Char) : Bool :=
  c.toNat < 0x80 && !c.isAlphanum && c != '<' && c != '>'

/-- What follows a backslash. -/
def readEscape (flags : Flags) : Reader Escaped := do
  let c ← next
  match c with
  | 'x' => readHex 2
  | 'u' => readHex 4
  | 'U' => readHex 8
  | 'p' => readProperty flags false
  | 'P' => readProperty flags true
  | 'a' => return .literal '\x07'
  | 'f' => return .literal '\x0c'
  | 't' => return .literal '\t'
  | 'n' => return .literal '\n'
  | 'r' => return .literal '\r'
  | 'v' => return .literal '\x0b'
  | 'A' => return .test .textStart
  | 'z' => return .test .textEnd
  | 'b' => readWordEdge flags
  | 'B' => if flags.unicode then return .test (.noWordEdge (wordSet flags)) else failure
  | '<' => return .test (.wordStart (wordSet flags))
  | '>' => return .test (.wordEnd (wordSet flags))
  | c =>
    match letterSet? flags.unicode c with
    | some found => if !flags.unicode && c.isUpper then failure else return .set found
    | none => if isEscapable c then return .literal c else failure

/-! ## Sets in brackets -/

/-- A set with the other cases of its members, where case is ignored. -/
def Flags.fold (flags : Flags) (members : CharSet) : CharSet :=
  if !flags.ignoreCase then members
  else if flags.unicode then .folded members
  else .foldedAscii members

inductive SetOperator where
  | inter
  | without
  | exclusive

def SetOperator.apply : SetOperator → CharSet → CharSet → CharSet
  | inter, a, b => .inter a b
  | without, a, b => .inter a (.complement b)
  | exclusive, a, b => .union (.inter a (.complement b)) (.inter b (.complement a))

/-- A set so far, with the operator and the left side that wait for it. -/
structure Pending where
  left : Option (CharSet × SetOperator)
  members : CharSet

def Pending.close (flags : Flags) (p : Pending) : CharSet :=
  match p.left with
  | none => p.members
  | some (left, operator) => operator.apply (flags.fold left) (flags.fold p.members)

/-- A name between `[:` and `:]`, if it is one. -/
def bracketName? (text : List Char) : Option (CharSet × List Char) := do
  let (name, rest) ← splitAt? [':', ']'] text
  match name with
  | '^' :: name => (bracketSet? (String.ofList name)).map fun s => (.complement s, rest)
  | name => (bracketSet? (String.ofList name)).map (·, rest)

def readSetItem (flags : Flags) : Reader Escaped := do
  let c ← next
  if c == '\\' then readEscape flags else return .literal c

/-- A member of a set, or a range of them. -/
def readSetRange (flags : Flags) : Reader CharSet := do
  let first ← readSetItem flags
  skip flags
  let here ← peek?
  if here.isNone then failure
  let following ← peekAfter? flags
  let isRange := here == some '-' && following != some ']' && following != some '-'
  if isRange then
    drop 1
    skip flags
    match first, ← readSetItem flags with
    | .literal low, .literal high =>
      if high < low then failure else return .ranges [(low.toNat, high.toNat)]
    | _, _ => failure
  else
    match first with
    | .literal c => return .single c
    | .set members => return members
    | .test _ => failure

/-- Hyphens, or a closing bracket, at the start of a set stand for themselves. -/
def readSetStart (flags : Flags) : Reader CharSet := do
  skip flags
  if ← startsWith "-" then
    modify fun s => { s with rest := s.rest.dropWhile (· == '-') }
    return .single '-'
  else if ← eat "]" then return .single ']'
  else return .none

mutual

/-- A set after its opening bracket. -/
def readSet : Nat → Flags → Reader CharSet
  | 0, _ => failure
  | fuel + 1, flags => do
    skip flags
    let negated ← eat "^"
    let start ← readSetStart flags
    let members ← readSetRest fuel flags ⟨none, start⟩
    let folded := flags.fold members
    if negated && !flags.unicode then failure
    return if negated then .complement folded else folded

/-- The members of a set up to its closing bracket. -/
def readSetRest : Nat → Flags → Pending → Reader CharSet
  | 0, _, _ => failure
  | fuel + 1, flags, p => do
    skip flags
    let add (more : CharSet) : Reader CharSet :=
      readSetRest fuel flags { p with members := .union p.members more }
    let operator (o : SetOperator) : Reader CharSet :=
      readSetRest fuel flags ⟨some (p.close flags, o), .none⟩
    if ← eat "]" then return p.close flags
    else if ← eat "&&" then operator .inter
    else if ← eat "--" then operator .without
    else if ← eat "~~" then operator .exclusive
    else if ← eat "[" then
      match (← get).rest with
      | ':' :: text =>
        match bracketName? text with
        | some (found, rest) =>
          modify fun s => { s with rest }
          add found
        | none => add (← readSet fuel flags)
      | _ => add (← readSet fuel flags)
    else add (← readSetRange flags)

end

/-! ## Groups and repetition -/

/-- Switches flags as written between `?` and the end of the head. -/
def readFlags : Nat → (on dangling : Bool) → List Char → Flags → Reader Flags
  | 0, _, _, _, _ => failure
  | fuel + 1, on, dangling, seen, flags => do
    match ← peek? with
    | some ':' | some ')' => if dangling then failure else return flags
    | some '-' =>
      if !on then failure
      drop 1
      readFlags fuel false true seen flags
    | some c =>
      drop 1
      if seen.contains c then failure
      let go := readFlags fuel on false (c :: seen)
      match c with
      | 'i' => go { flags with ignoreCase := on }
      | 'm' => go { flags with multiLine := on }
      | 's' => go { flags with dotAll := on }
      | 'x' => go { flags with verbose := on }
      | 'R' => go { flags with returns := on }
      | 'u' => go { flags with unicode := on }
      | 'U' => go flags
      | _ => failure
    | none => failure

def isNameStart (c : Char) : Bool := c == '_' || Unicode.isAlphabetic c

def isNamePart (c : Char) : Bool :=
  c == '_' || c == '.' || c == '[' || c == ']' || Unicode.isAlphabetic c ||
    Unicode.inRanges (Unicode.categoryNd ++ Unicode.categoryNl ++ Unicode.categoryNo) c

/-- The name of a group, which no group has yet. -/
def readName : Reader Unit := do
  let name ← upTo '>'
  let text := String.ofList name
  if !(name.head?.any isNameStart && name.all isNamePart) then failure
  if (← get).names.contains text then failure
  modify fun s => { s with names := text :: s.names }

/-- How a parenthesis opens. -/
inductive GroupHead where
  /-- Flags for the rest of the surrounding group. -/
  | switch (flags : Flags)
  | inner (flags : Flags)

def readGroupHead (flags : Flags) : Reader GroupHead := do
  skip flags
  for lookaround in ["?=", "?!", "?<=", "?<!"] do
    if ← startsWith lookaround then failure
  if (← eat "?P<") || (← eat "?<") then
    readName
    return .inner flags
  else if ← eat "?" then
    if ← startsWith ")" then failure
    let inner ← readFlags ((← get).rest.length + 1) true false [] flags
    if ← eat ")" then return .switch inner
    else
      expect ':'
      return .inner inner
  else return .inner flags

/-- A number in a repetition, with blanks around it. -/
def readCount : Reader Nat := do
  modify fun s => { s with rest := s.rest.dropWhile Unicode.isBlank }
  let s ← get
  let digits := s.rest.takeWhile Char.isDigit
  if digits.isEmpty then failure
  let n := digits.foldl (fun n c => n * 10 + (c.toNat - '0'.toNat)) 0
  if Nat.pow 2 32 ≤ n then failure
  set { s with rest := (s.rest.drop digits.length).dropWhile Unicode.isBlank }
  return n

/-- The bounds of a repetition after its opening brace. -/
def readBounds (flags : Flags) : Reader (Nat × Option Nat) := do
  skip flags
  let least ← readCount
  if ← eat "," then
    skip flags
    if ← eat "\x7d" then return (least, none)
    let most ← readCount
    expect '}'
    if most < least then failure else return (least, some most)
  else
    expect '}'
    return (least, some least)

/-- A part of a sequence, and whether it may be repeated. -/
structure Part where
  regex : Regex
  repeatable : Bool

def sequence (parts : List Part) : Regex :=
  match parts with
  | [] => .empty
  | [p] => p.regex
  | p :: rest => .seq (sequence rest) p.regex

/-- Ends an alternative. The parts are in reverse. -/
def close (before : Option Regex) (parts : List Part) : Regex :=
  match before with
  | none => sequence parts
  | some r => .alt r (sequence parts)

def dot (flags : Flags) : Option Regex :=
  if !flags.unicode then none
  else
    let lineEnds : List (Nat × Nat) :=
      if flags.dotAll then []
      else if flags.returns then [(0x0A, 0x0A), (0x0D, 0x0D)]
      else [(0x0A, 0x0A)]
    some (.char (.complement (.ranges lineEnds)))

def startTest (flags : Flags) : Assertion :=
  if !flags.multiLine then .textStart else if flags.returns then .returnStart else .lineStart

def endTest (flags : Flags) : Assertion :=
  if !flags.multiLine then .textEnd else if flags.returns then .returnEnd else .lineEnd

/-- A single character, a set or a test. -/
def readAtom (flags : Flags) : Reader Regex := do
  let c ← next
  match c with
  | '.' =>
    match dot flags with
    | some r => return r
    | none => failure
  | '^' => return .place (startTest flags)
  | '$' => return .place (endTest flags)
  | '\\' =>
    match ← readEscape flags with
    | .literal c => return .char (flags.fold (.single c))
    | .set members => return .char (flags.fold members)
    | .test assertion => return .place assertion
  | c => return .char (flags.fold (.single c))

/-- Repeats the last part. -/
def repeatLast (parts : List Part) (least : Nat) (most : Option Nat) : Reader (List Part) := do
  match parts with
  | ⟨r, true⟩ :: rest =>
    discard (eat "?")
    return ⟨.repeated least most r, true⟩ :: rest
  | _ => failure

/-- The alternatives of a group, up to its closing parenthesis or the end of the pattern. -/
def readGroup : Nat → Flags → Option Regex → List Part → Reader Regex
  | 0, _, _, _ => failure
  | fuel + 1, flags, before, parts => do
    skip flags
    match ← peek? with
    | none | some ')' => return close before parts
    | some '|' =>
      drop 1
      readGroup fuel flags (some (close before parts)) []
    | some '(' =>
      drop 1
      match ← readGroupHead flags with
      | .switch inner => readGroup fuel inner before (⟨.empty, false⟩ :: parts)
      | .inner inner =>
        let r ← readGroup fuel inner none []
        expect ')'
        readGroup fuel flags before (⟨r, true⟩ :: parts)
    | some '[' =>
      drop 1
      let members ← readSet fuel flags
      readGroup fuel flags before (⟨.char members, true⟩ :: parts)
    | some '?' =>
      drop 1
      readGroup fuel flags before (← repeatLast parts 0 (some 1))
    | some '*' =>
      drop 1
      readGroup fuel flags before (← repeatLast parts 0 none)
    | some '+' =>
      drop 1
      readGroup fuel flags before (← repeatLast parts 1 none)
    | some '{' =>
      drop 1
      let (least, most) ← readBounds flags
      readGroup fuel flags before (← repeatLast parts least most)
    | some _ =>
      let r ← readAtom flags
      readGroup fuel flags before (⟨r, true⟩ :: parts)

/-- The regular expression that a pattern spells. -/
def read? (pattern : String) : Option Regex := do
  let text := pattern.toList
  let (r, s) ← (readGroup (text.length + 2) .standard none []).run ⟨text, []⟩
  if s.rest.isEmpty then some r else none

end Phrasebook.Regex
