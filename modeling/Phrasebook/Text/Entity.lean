import Phrasebook.Text.Bytes

/-!
# Character references in markup

`&name;`, `&#decimal;` and `&#xhexadecimal;` stand for a character. What looks like a reference but
is none stays as written.
-/

namespace Phrasebook.Text.Entity

/-- The named references. -/
def names : List (String × Char) :=
  [("amp", '&'), ("lt", '<'), ("gt", '>'), ("quot", '"'), ("apos", '\''), ("nbsp", '\u00A0'),
    ("copy", '©'), ("reg", '®'), ("trade", '™'), ("hellip", '…'), ("mdash", '—'), ("ndash", '–'),
    ("lsquo", '‘'), ("rsquo", '’'), ("ldquo", '“'), ("rdquo", '”')]

def decimalValue? (c : Char) : Option Nat :=
  if c.isDigit then some (c.toNat - '0'.toNat) else none

def hexValue? (c : Char) : Option Nat :=
  if 'a' ≤ c && c ≤ 'f' then some (c.toNat - 'a'.toNat + 10)
  else if 'A' ≤ c && c ≤ 'F' then some (c.toNat - 'A'.toNat + 10)
  else decimalValue? c

/-- The number that digits spell; a plus sign may stand in front. -/
def number? (base : Nat) (value? : Char → Option Nat) (digits : List Char) : Option Nat :=
  let digits :=
    match digits with
    | '+' :: rest => rest
    | _ => digits
  if digits.isEmpty then none
  else digits.foldlM (fun n c => (value? c).map (n * base + ·)) 0

/-- The character of a code point, which is no surrogate. -/
def scalar? (n : Nat) : Option Char :=
  if n < 0xD800 || (0xE000 ≤ n && n < 0x110000) then some (Char.ofNat n) else none

/-- The character that a reference's name stands for. -/
def named? (name : List Char) : Option Char :=
  match name with
  | '#' :: 'x' :: digits | '#' :: 'X' :: digits => (number? 16 hexValue? digits).bind scalar?
  | '#' :: digits => (number? 10 decimalValue? digits).bind scalar?
  | _ => names.lookup (String.ofList name)

/-- A name has at most this many bytes. -/
def maxNameLength : Nat := 9

/-- The reference after an ampersand: its character, and how many characters it takes. -/
def reference? (text : List Char) : Option (Char × Nat) :=
  let name := text.takeWhile (· != ';')
  if name.length < text.length && byteLength name ≤ maxNameLength then
    (named? name).map (·, name.length + 1)
  else none

/-- Decodes after passing over `skip` characters. -/
def decodeFrom : (skip : Nat) → List Char → List Char
  | _, [] => []
  | skip + 1, _ :: rest => decodeFrom skip rest
  | 0, c :: rest =>
    if c = '&' then
      match reference? rest with
      | some (d, length) => d :: decodeFrom length rest
      | none => c :: decodeFrom 0 rest
    else c :: decodeFrom 0 rest

/-- Replaces every reference by its character, in one pass from left to right. -/
def decode (text : List Char) : List Char := decodeFrom 0 text

end Phrasebook.Text.Entity
