import Phrasebook.Command.Init

/-!
# The command line

Options for every command may stand before or behind the command's name; one behind it counts more.
An option stands at most once in each of the two places. A value may follow its option or be joined
to it, and short options may be put together.
-/

namespace Phrasebook

inductive Command where
  | extract (manifest : Option String)
  | replace (manifest : Option String)
  | report
  | init (request : InitRequest)
  deriving DecidableEq, Repr

/-- What the command line asks for. -/
structure Invocation where
  settingsPath : Option String
  dryRun : Bool
  noBackup : Bool
  verbose : Bool
  level : Option String
  /-- Seconds after which no further file is taken up. -/
  deadline : Option Nat
  command : Command
  deriving DecidableEq, Repr

/-- What the command line comes to when it asks for no run. -/
inductive LineStop where
  | help
  | version
  | misused
  deriving DecidableEq, Repr

namespace CommandLine

/-! ## Options -/

inductive ValueKind where
  | text
  /-- Not empty. -/
  | path
  /-- Of 64 bits. -/
  | number
  deriving DecidableEq, Repr

structure Switch where
  name : String
  letter : Option Char
  /-- What value the option takes, if it takes one. -/
  value : Option ValueKind
  deriving DecidableEq, Repr

/-- The options for every command. -/
def commonSwitches : List Switch := [
  ⟨"config", some 'c', some .path⟩, ⟨"dry-run", none, none⟩, ⟨"no-backup", none, none⟩,
  ⟨"verbose", some 'v', none⟩, ⟨"log-level", none, some .text⟩,
  ⟨"deadline", none, some .number⟩, ⟨"help", some 'h', none⟩]

/-- The options that stand only before a command. -/
def leadingSwitches : List Switch := [⟨"version", some 'V', none⟩]

def manifestSwitch : Switch := ⟨"manifest", some 'm', some .path⟩

/-- The options of a command. -/
def switchesOf? (command : String) : Option (List Switch) :=
  match command with
  | "extract" | "replace" => some [manifestSwitch]
  | "report" => some []
  | "init" => some [⟨"force", some 'f', none⟩, ⟨"roots", none, some .text⟩,
      ⟨"source-locale", none, some .text⟩, ⟨"target-locales", none, some .text⟩]
  | _ => none

/-- A natural number of 64 bits; a plus sign may stand in front. -/
def number? (text : String) : Option Nat :=
  let digits :=
    match text.toList with
    | '+' :: rest => rest
    | digits => digits
  if digits.isEmpty || !digits.all Char.isDigit then none
  else
    let n := digits.foldl (fun n c => n * 10 + (c.toNat - '0'.toNat)) 0
    if n < Nat.pow 2 64 then some n else none

def ValueKind.admits (kind : ValueKind) (value : String) : Bool :=
  match kind with
  | .text => true
  | .path => !value.isEmpty
  | .number => (number? value).isSome

/-- Options that were read, each with its value or an empty text. -/
abbrev Settled := List (String × String)

/-- One more option; it must be new and its value fitting. -/
def settle (switch : Switch) (value : String) (settled : Settled) : Except LineStop Settled :=
  if switch.name == "help" then .error .help
  else if switch.name == "version" then .error .version
  else if settled.any (·.1 == switch.name) then .error .misused
  else if switch.value.any fun kind => !kind.admits value then .error .misused
  else .ok (settled ++ [(switch.name, value)])

/-- Whether an argument cannot be the value of the option before it. -/
def isOption (argument : String) : Bool := argument.startsWith "-" && argument != "-"

/-- What is known after an argument's options: those read, and the one that waits for a value. -/
structure Reading where
  settled : Settled
  waiting : Option Switch

/-- Reads an option with two hyphens, its name and perhaps its value. -/
def readLong (switches : List Switch) (body : List Char) (settled : Settled) :
    Except LineStop Reading := do
  let name := body.takeWhile (· != '=')
  let value? := (body.drop name.length).tail?
  match switches.find? (·.name.toList == name) with
  | none => throw .misused
  | some switch =>
    match switch.value, value? with
    | some _, some value => return ⟨← settle switch (String.ofList value) settled, none⟩
    | some _, none => return ⟨settled, some switch⟩
    | none, some _ => throw .misused
    | none, none => return ⟨← settle switch "" settled, none⟩

/-- Reads options of one letter each; the last may have its value behind it. -/
def readShort (switches : List Switch) (settled : Settled) : List Char → Except LineStop Reading
  | [] => .ok ⟨settled, none⟩
  | letter :: rest =>
    match switches.find? (·.letter == some letter) with
    | none => .error .misused
    | some switch =>
      if switch.value.isSome then
        match rest with
        | [] => .ok ⟨settled, some switch⟩
        | '=' :: value | value =>
          (settle switch (String.ofList value) settled).map (⟨·, none⟩)
      else do readShort switches (← settle switch "" settled) rest

/-- Reads options up to the first argument that is none, which is given back with those behind it. -/
def readOptions (switches : List Switch) (settled : Settled) :
    List String → Except LineStop (Settled × List String)
  | [] => .ok (settled, [])
  | argument :: rest => do
    if !isOption argument then return (settled, argument :: rest)
    if argument == "--" then
      if rest.isEmpty then return (settled, []) else throw .misused
    let found ←
      match argument.toList with
      | '-' :: '-' :: body => readLong switches body settled
      | letters => readShort switches settled (letters.drop 1)
    match found.waiting, rest with
    | none, rest => readOptions switches found.settled rest
    | some _, [] => throw .misused
    | some switch, value :: rest =>
      if isOption value then throw .misused
      readOptions switches (← settle switch value found.settled) rest

/-! ## Invocations -/

def value? (settled : Settled) (name : String) : Option String := settled.lookup name

def flag (settled : Settled) (name : String) : Bool := (value? settled name).isSome

def commandOf (name : String) (settled : Settled) : Command :=
  match name with
  | "extract" => .extract (value? settled "manifest")
  | "replace" => .replace (value? settled "manifest")
  | "init" => .init ⟨flag settled "force", value? settled "roots", value? settled "source-locale",
      value? settled "target-locales"⟩
  | _ => .report

/-- What the arguments ask for. -/
def read (arguments : List String) : Except LineStop Invocation := do
  let (leading, rest) ← readOptions (commonSwitches ++ leadingSwitches) [] arguments
  match rest with
  | [] => throw .misused
  | "help" :: _ => throw .help
  | name :: rest =>
    match switchesOf? name with
    | none => throw .misused
    | some own =>
      let (settled, rest) ← readOptions (commonSwitches ++ own) [] rest
      if !rest.isEmpty then throw .misused
      let all := settled ++ leading
      return {
        settingsPath := value? all "config"
        dryRun := flag all "dry-run"
        noBackup := flag all "no-backup"
        verbose := flag all "verbose"
        level := value? all "log-level"
        deadline := (value? all "deadline").bind number?
        command := commandOf name settled }

end CommandLine

end Phrasebook
