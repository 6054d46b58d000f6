/-!
# UTF-8

Characters are read from bytes one after the other. Where no character can be read, the bytes are
either the start of one that the end cuts off, or wrong from their first, second, third or fourth
byte on; the bytes before that belong together.
-/

namespace Phrasebook.Text

/-- What stands at the front of some bytes. -/
inductive Utf8Step where
  | character (c : Char) (rest : List UInt8)
  /-- So many bytes are no character. -/
  | invalid (count : Nat) (rest : List UInt8)
  /-- The bytes end within a character. -/
  | cutOff
  deriving DecidableEq, Repr

/-- The range of the second byte after a first one; some first bytes narrow it. -/
def secondByteRange (first : UInt8) : UInt8 × UInt8 :=
  if first = 0xE0 then (0xA0, 0xBF)
  else if first = 0xED then (0x80, 0x9F)
  else if first = 0xF0 then (0x90, 0xBF)
  else if first = 0xF4 then (0x80, 0x8F)
  else (0x80, 0xBF)

/-- How many bytes a character with a first byte has. -/
def sequenceLength? (first : UInt8) : Option Nat :=
  if first < 0x80 then some 1
  else if 0xC2 ≤ first && first ≤ 0xDF then some 2
  else if 0xE0 ≤ first && first ≤ 0xEF then some 3
  else if 0xF0 ≤ first && first ≤ 0xF4 then some 4
  else none

def isContinuation (byte : UInt8) : Bool := 0x80 ≤ byte && byte ≤ 0xBF

/-- The bits of a first byte that belong to the character. -/
def leadBits (length : Nat) (first : UInt8) : Nat :=
  match length with
  | 1 => first.toNat
  | 2 => first.toNat % 32
  | 3 => first.toNat % 16
  | _ => first.toNat % 8

/-- Reads further bytes of a character after `taken` of them. -/
def continueCharacter (taken value : Nat) : (missing : Nat) → List UInt8 → Utf8Step
  | 0, rest => .character (Char.ofNat value) rest
  | _ + 1, [] => .cutOff
  | missing + 1, byte :: rest =>
    if isContinuation byte then
      continueCharacter (taken + 1) (value * 64 + byte.toNat % 64) missing rest
    else .invalid taken (byte :: rest)

/-- Reads the front of some bytes; nothing at their end. -/
def utf8Step : List UInt8 → Option Utf8Step
  | [] => none
  | first :: rest =>
    match sequenceLength? first with
    | none => some (.invalid 1 rest)
    | some 1 => some (.character (Char.ofNat first.toNat) rest)
    | some length =>
      match rest with
      | [] => some .cutOff
      | second :: _ =>
        let (least, most) := secondByteRange first
        if least ≤ second && second ≤ most then
          some (continueCharacter 1 (leadBits length first) (length - 1) rest)
        else some (.invalid 1 rest)

/-- Why bytes are no text. -/
inductive Utf8Error where
  | invalid (count offset : Nat)
  | cutOff (offset : Nat)
  deriving DecidableEq, Repr

def Utf8Error.message : Utf8Error → String
  | .invalid count offset =>
    "invalid utf-8 sequence of " ++ toString count ++ " bytes from index " ++ toString offset
  | .cutOff offset => "incomplete utf-8 byte sequence from index " ++ toString offset

/-- Reads at most `fuel` characters, starting at an offset. -/
def readUtf8From (offset : Nat) : (fuel : Nat) → List UInt8 → Except Utf8Error (List Char)
  | 0, _ => .ok []
  | fuel + 1, bytes =>
    match utf8Step bytes with
    | none => .ok []
    | some (.character c rest) => (readUtf8From (offset + c.utf8Size) fuel rest).map (c :: ·)
    | some (.invalid count _) => .error (.invalid count offset)
    | some .cutOff => .error (.cutOff offset)

/-- The text that bytes encode. -/
def readUtf8 (bytes : List UInt8) : Except Utf8Error (List Char) :=
  readUtf8From 0 bytes.length bytes

def lossyUtf8From : (fuel : Nat) → List UInt8 → List Char
  | 0, _ => []
  | fuel + 1, bytes =>
    match utf8Step bytes with
    | none => []
    | some (.character c rest) => c :: lossyUtf8From fuel rest
    | some (.invalid _ rest) => '\uFFFD' :: lossyUtf8From fuel rest
    | some .cutOff => ['\uFFFD']

/-- The text that bytes encode, with a replacement character for what is no character. -/
def lossyUtf8 (bytes : List UInt8) : List Char := lossyUtf8From bytes.length bytes

/-- The bytes of a text. -/
def utf8Bytes (text : List Char) : List UInt8 := text.flatMap String.utf8EncodeChar

end Phrasebook.Text
