import Phrasebook.Formatting.Basic

/-!
# Filters

Small programs that formatters are made of: they copy, translate or print bytes.
-/

namespace Phrasebook

/-- What a filter has done: its outcome and the input that it has not read. -/
structure FilterOutcome where
  result : ProgramOutcome
  unread : List UInt8

namespace Filter

def succeed (output unread : List UInt8) : FilterOutcome := ⟨⟨output, [], 0⟩, unread⟩

def fail (status : Nat) (message : String) (output unread : List UInt8) : FilterOutcome :=
  ⟨⟨output, Text.utf8Bytes (message ++ "\n").toList, status⟩, unread⟩

/-! ## Copying -/

/-- Copies its input for each argument `-`, or once if there is none. No other file is at hand. -/
def cat (arguments : List String) (input : List UInt8) : FilterOutcome :=
  match arguments.find? fun a => a != "-" && a != "-u" with
  | some file =>
    let copied := if arguments.head? == some "-" then input else []
    fail 1 ("cat: " ++ file ++ ": No such file or directory") copied []
  | none => succeed input []

/-! ## Escapes -/

def octalValue? (c : Char) : Option Nat :=
  if '0' ≤ c && c ≤ '7' then some (c.toNat - '0'.toNat) else none

/-- Reads at most `count` octal digits. -/
def takeOctal (value : Nat) : (count : Nat) → List Char → Nat × List Char
  | 0, rest => (value, rest)
  | _ + 1, [] => (value, [])
  | count + 1, c :: rest =>
    match octalValue? c with
    | some digit => takeOctal (value * 8 + digit) count rest
    | none => (value, c :: rest)

/-- The byte of an escape with one letter. -/
def letterEscape? (c : Char) : Option UInt8 :=
  match c with
  | 'a' => some 7
  | 'b' => some 8
  | 'f' => some 12
  | 'n' => some 10
  | 'r' => some 13
  | 't' => some 9
  | 'v' => some 11
  | '\\' => some 92
  | _ => none

/-- What stands at the front of a text with escapes: bytes, or the sign to stop. -/
inductive Escaped where
  | bytes (b : List UInt8) (rest : List Char)
  | stop

/-- Reads a character or an escape. Octal escapes start with a zero if `zero` is set. -/
def escaped (zero : Bool) : List Char → Escaped
  | [] => .stop
  | '\\' :: 'c' :: _ => .stop
  | '\\' :: c :: rest =>
    match letterEscape? c with
    | some byte => .bytes [byte] rest
    | none =>
      if zero && c != '0' || (octalValue? c).isNone then .bytes (Text.utf8Bytes ['\\', c]) rest
      else
        let (value, rest) :=
          if zero then takeOctal 0 3 rest else takeOctal 0 3 (c :: rest)
        .bytes [UInt8.ofNat value] rest
  | c :: rest => .bytes (Text.utf8Bytes [c]) rest

/-- A text with its escapes read, and whether it goes on. -/
def unescape (zero : Bool) : (fuel : Nat) → List Char → List UInt8 × Bool
  | 0, _ => ([], true)
  | fuel + 1, text =>
    if text.isEmpty then ([], true)
    else
      match escaped zero text with
      | .stop => ([], false)
      | .bytes b rest =>
        let (more, goes) := unescape zero fuel rest
        (b ++ more, goes)

/-! ## Printing -/

/-- The options in front of what is printed: no line end, and escapes. -/
def echoOptions (escapes newline : Bool) : List String → Bool × Bool × List String
  | [] => (escapes, newline, [])
  | argument :: rest =>
    match argument.toList with
    | '-' :: c :: letters =>
      if (c :: letters).all fun l => l == 'n' || l == 'e' || l == 'E' then
        let all := c :: letters
        let escapes :=
          match (all.filter (· != 'n')).getLast? with
          | some 'e' => true
          | some _ => false
          | none => escapes
        echoOptions escapes (newline && !all.contains 'n') rest
      else (escapes, newline, argument :: rest)
    | _ => (escapes, newline, argument :: rest)

/-- Prints its arguments with blanks between them. -/
def echo (arguments : List String) (input : List UInt8) : FilterOutcome :=
  let (escapes, newline, words) := echoOptions false true arguments
  let text := (" ".intercalate words).toList
  let ending : List UInt8 := if newline then [10] else []
  if escapes then
    let (bytes, goes) := unescape true text.length text
    succeed (bytes ++ if goes then ending else []) input
  else succeed (Text.utf8Bytes text ++ ending) input

/-- Prints a format once; gives the arguments that are left, and whether any could be used. -/
def printOnce : (fuel : Nat) → List Char → List String → List UInt8 × List String × Bool
  | 0, _, arguments => ([], arguments, false)
  | fuel + 1, format, arguments =>
    match format with
    | [] => ([], arguments, false)
    | '%' :: '%' :: rest =>
      let (out, left, used) := printOnce fuel rest arguments
      (37 :: out, left, used)
    | '%' :: c :: rest =>
      let argument := arguments.headD ""
      let shown :=
        if c == 'b' then (unescape true argument.length argument.toList).1
        else if c == 'c' then Text.utf8Bytes (argument.toList.take 1)
        else if c == 'd' || c == 'i' then
          Text.utf8Bytes (if argument.isEmpty then ['0'] else argument.toList)
        else Text.utf8Bytes argument.toList
      let (out, left, _) := printOnce fuel rest (arguments.drop 1)
      (shown ++ out, left, true)
    | _ =>
      match escaped false format with
      | .stop => ([], [], false)
      | .bytes b rest =>
        let (out, left, used) := printOnce fuel rest arguments
        (b ++ out, left, used)

/-- Prints a format again as long as arguments are left. -/
def printAll (format : List Char) : (fuel : Nat) → List String → List UInt8
  | 0, _ => []
  | fuel + 1, arguments =>
    let (out, left, used) := printOnce (format.length + 1) format arguments
    if left.isEmpty || !used then out else out ++ printAll format fuel left

/-- Prints its arguments by a format. -/
def printf (arguments : List String) (input : List UInt8) : FilterOutcome :=
  match arguments with
  | [] => fail 1 "printf: missing operand" [] input
  | format :: rest => succeed (printAll format.toList (rest.length + 1) rest) input

/-! ## Translating -/

/-- The bytes of a class. -/
def classBytes? (name : List Char) : Option (List UInt8) :=
  let where_ (test : Char → Bool) : List UInt8 :=
    ((List.range 128).filter fun n => test (Char.ofNat n)).map UInt8.ofNat
  match String.ofList name with
  | "alnum" => some (where_ Char.isAlphanum)
  | "alpha" => some (where_ Char.isAlpha)
  | "blank" => some [9, 32]
  | "digit" => some (where_ Char.isDigit)
  | "lower" => some (where_ Char.isLower)
  | "punct" => some (where_ fun c => 32 < c.toNat && c.toNat < 127 && !c.isAlphanum)
  | "space" => some [9, 10, 11, 12, 13, 32]
  | "upper" => some (where_ Char.isUpper)
  | _ => none

/-- The bytes from one to another. -/
def byteRange (first last : UInt8) : List UInt8 :=
  (List.range (last.toNat + 1 - first.toNat)).map fun n => UInt8.ofNat (first.toNat + n)

/-- The class that a text starts with. -/
def classIn? (text : List Char) : Option (List UInt8 × List Char) :=
  match text with
  | '[' :: ':' :: rest =>
    let name := rest.takeWhile (· != ':')
    match rest.drop name.length with
    | ':' :: ']' :: after => (classBytes? name).map (·, after)
    | _ => none
  | _ => none

/-- The bytes of a set, in order: single ones, ranges and classes. -/
def setBytes : (fuel : Nat) → List Char → List UInt8
  | 0, _ => []
  | fuel + 1, text =>
    match classIn? text with
    | some (bytes, rest) => bytes ++ setBytes fuel rest
    | none =>
      match text with
      | [] => []
      | _ =>
        match escaped false text with
        | .stop => Text.utf8Bytes (text.take 2) ++ setBytes fuel (text.drop 2)
        | .bytes [first] ('-' :: last :: rest) =>
          match escaped false (last :: rest) with
          | .bytes [last] rest => byteRange first last ++ setBytes fuel rest
          | _ => first :: 45 :: setBytes fuel (last :: rest)
        | .bytes b rest => b ++ setBytes fuel rest

def setOf (text : String) : List UInt8 := setBytes (text.length + 1) text.toList

/-- The byte that stands for another: the one at its last place in the first set, or the last of the
second set. -/
def translated (first second : List UInt8) (byte : UInt8) : UInt8 :=
  match first.reverse.findIdx? (· == byte) with
  | some back => (second[first.length - 1 - back]?).getD (second.getLastD byte)
  | none => byte

/-- Bytes of a set that follow themselves are left out. -/
def squeezeBytes (set : List UInt8) : List UInt8 → List UInt8
  | [] => []
  | [b] => [b]
  | b :: c :: rest =>
    if b == c && set.contains b then squeezeBytes set (c :: rest)
    else b :: squeezeBytes set (c :: rest)

/-- Splits options off the arguments. -/
def trOptions (letters : List Char) : List String → List Char × List String
  | [] => (letters, [])
  | argument :: rest =>
    match argument.toList with
    | ['-', '-'] => (letters, rest)
    | '-' :: c :: more => trOptions (letters ++ c :: more) rest
    | _ => (letters, argument :: rest)

/-- Translates, deletes or squeezes the bytes of sets. -/
def tr (arguments : List String) (input : List UInt8) : FilterOutcome :=
  let (letters, sets) := trOptions [] arguments
  let complement := letters.contains 'c' || letters.contains 'C'
  let full (set : List UInt8) : List UInt8 :=
    if complement then (byteRange 0 255).filter fun b => !set.contains b else set
  match letters.contains 'd', letters.contains 's', sets with
  | true, false, [set] =>
    let set := full (setOf set)
    succeed (input.filter fun b => !set.contains b) []
  | true, true, [set, other] =>
    let set := full (setOf set)
    succeed (squeezeBytes (setOf other) (input.filter fun b => !set.contains b)) []
  | false, true, [set] => succeed (squeezeBytes (full (setOf set)) input) []
  | false, squeezes, [set, other] =>
    let new := setOf other
    if new.isEmpty then
      fail 1 "tr: when not truncating set1, string2 must be non-empty" [] input
    else
      let out := input.map (translated (full (setOf set)) new)
      succeed (if squeezes then squeezeBytes new out else out) []
  | _, _, [] => fail 1 "tr: missing operand" [] input
  | _, _, set :: _ => fail 1 ("tr: missing or extra operand after '" ++ set ++ "'") [] input

/-- The filter of a name. -/
def ofName? (name : String) : Option (List String → List UInt8 → FilterOutcome) :=
  match name with
  | "cat" => some cat
  | "echo" => some echo
  | "printf" => some printf
  | "tr" => some tr
  | "true" => some fun _ input => succeed [] input
  | "false" => some fun _ input => ⟨⟨[], [], 1⟩, input⟩
  | _ => none

end Filter

end Phrasebook
