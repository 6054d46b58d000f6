import Phrasebook.Formatting.Filter

/-!
# Scripts

A script runs filters one after the other, joined by `;`, `&&` and `||`, or hands the output of one
to the next by `|`. Words may be quoted, and `$` puts parameters in. Output may be sent to the errors
or thrown away.
-/

namespace Phrasebook

namespace Script

/-! ## Words -/

/-- What a script is made of. -/
inductive Token where
  | word (text : String)
  /-- One of the signs between commands; a line end counts as `;`. -/
  | sign (text : String)
  /-- Sends output to another stream or throws it away. -/
  | send (stream : Nat) (target : String)
  /-- Takes no input. -/
  | noInput
  deriving DecidableEq, Repr

/-- The value of a parameter. -/
def parameter (parameters : List String) (name : Char) : String :=
  if name.isDigit then (parameters[name.toNat - '0'.toNat]?).getD ""
  else if name == '@' || name == '*' then " ".intercalate (parameters.drop 1)
  else if name == '#' then toString (parameters.length - 1)
  else ""

/-- Passes over the name of a parameter; gives its value and the rest. -/
def expand (value : Char → String) : List Char → List Char × List Char
  | '{' :: c :: '}' :: rest => ((value c).toList, rest)
  | c :: rest =>
    if c.isAlpha || c == '_' then ([], rest.dropWhile fun d => d.isAlphanum || d == '_')
    else if c.isDigit || c == '@' || c == '*' || c == '#' then ((value c).toList, rest)
    else (['$'], c :: rest)
  | [] => (['$'], [])

/-- The text in double quotes, and what follows the closing one. -/
def doubleQuoted (value : Char → String) : (fuel : Nat) → List Char → List Char × List Char
  | 0, rest => ([], rest)
  | _ + 1, [] => ([], [])
  | _ + 1, '"' :: rest => ([], rest)
  | fuel + 1, '\\' :: c :: rest =>
    let (more, after) := doubleQuoted value fuel rest
    if c == '\n' then (more, after)
    else if c == '$' || c == '"' || c == '\\' || c.toNat == 96 then (c :: more, after)
    else ('\\' :: c :: more, after)
  | fuel + 1, '$' :: rest =>
    let (shown, rest) := expand value rest
    let (more, after) := doubleQuoted value fuel rest
    (shown ++ more, after)
  | fuel + 1, c :: rest =>
    let (more, after) := doubleQuoted value fuel rest
    (c :: more, after)

/-- Whether a character ends a word. -/
def endsWord (c : Char) : Bool := " \t\n;&|<>()".toList.contains c

/-- A word, and what follows it. -/
def word (value : Char → String) : (fuel : Nat) → List Char → List Char × List Char
  | 0, rest => ([], rest)
  | _ + 1, [] => ([], [])
  | fuel + 1, c :: rest =>
    if endsWord c then ([], c :: rest)
    else
      let (part, rest) :=
        match c, rest with
        | '\'', rest =>
          let inner := rest.takeWhile (· != '\'')
          (inner, rest.drop (inner.length + 1))
        | '"', rest => doubleQuoted value (rest.length + 1) rest
        | '\\', '\n' :: rest => ([], rest)
        | '\\', d :: rest => ([d], rest)
        | '$', rest => expand value rest
        | c, rest => ([c], rest)
      let (more, after) := word value fuel rest
      (part ++ more, after)

/-- What follows the sign that sends a stream elsewhere. -/
def target (value : Char → String) (text : List Char) : String × List Char :=
  let text := text.dropWhile fun c => c == ' ' || c == '\t'
  let (name, rest) := word value (text.length + 1) text
  (String.ofList name, rest)

/-- The tokens of a script. -/
def tokens (value : Char → String) : (fuel : Nat) → List Char → List Token
  | 0, _ => []
  | _ + 1, [] => []
  | fuel + 1, ' ' :: rest | fuel + 1, '\t' :: rest => tokens value fuel rest
  | fuel + 1, '\n' :: rest | fuel + 1, ';' :: rest => .sign ";" :: tokens value fuel rest
  | fuel + 1, '&' :: '&' :: rest => .sign "&&" :: tokens value fuel rest
  | fuel + 1, '|' :: '|' :: rest => .sign "||" :: tokens value fuel rest
  | fuel + 1, '|' :: rest => .sign "|" :: tokens value fuel rest
  | fuel + 1, '#' :: rest => tokens value fuel (rest.dropWhile (· != '\n'))
  | fuel + 1, '>' :: '&' :: c :: rest => .send 1 (String.ofList ['&', c]) :: tokens value fuel rest
  | fuel + 1, d :: '>' :: '&' :: c :: rest =>
    if d.isDigit then
      .send (d.toNat - '0'.toNat) (String.ofList ['&', c]) :: tokens value fuel rest
    else
      let (text, rest) := word value (rest.length + 4) (d :: '>' :: '&' :: c :: rest)
      .word (String.ofList text) :: tokens value fuel rest
  | fuel + 1, '>' :: rest =>
    let (name, rest) := target value (rest.dropWhile (· == '>'))
    .send 1 name :: tokens value fuel rest
  | fuel + 1, '2' :: '>' :: rest =>
    let (name, rest) := target value (rest.dropWhile (· == '>'))
    .send 2 name :: tokens value fuel rest
  | fuel + 1, '<' :: rest =>
    let (_, rest) := target value rest
    .noInput :: tokens value fuel rest
  | fuel + 1, c :: rest =>
    if endsWord c then .sign (String.ofList [c]) :: tokens value fuel rest
    else
      let (text, rest) := word value (rest.length + 2) (c :: rest)
      .word (String.ofList text) :: tokens value fuel rest

/-! ## Commands -/

/-- A script under way. -/
structure Progress where
  /-- The input that is not read yet. -/
  input : List UInt8
  output : List UInt8
  errors : List UInt8
  status : Nat
  ended : Bool

/-- The line end and escapes of the script's own printing: only `-n` is an option. -/
def print (arguments : List String) (input : List UInt8) : FilterOutcome :=
  let (newline, words) :=
    match arguments with
    | "-n" :: rest => (false, rest)
    | _ => (true, arguments)
  let text := (" ".intercalate words).toList
  let (bytes, goes) := Filter.unescape true text.length text
  Filter.succeed (bytes ++ if newline && goes then [10] else []) input

/-- Runs one command on an input. -/
def runWords (words : List String) (input : List UInt8) : FilterOutcome :=
  match words with
  | [] | ":" :: _ => Filter.succeed [] input
  | "echo" :: arguments => print arguments input
  | name :: arguments =>
    match Filter.ofName? name with
    | some run => run arguments input
    | none => Filter.fail 127 ("sh: 1: " ++ name ++ ": not found") [] input

/-- Sends the streams of an outcome where a command says, one after the other. -/
def redirect (outcome : ProgramOutcome) : List Token → ProgramOutcome
  | .send 1 "&2" :: rest =>
    redirect { outcome with output := [], errors := outcome.errors ++ outcome.output } rest
  | .send 2 "&1" :: rest =>
    redirect { outcome with errors := [], output := outcome.output ++ outcome.errors } rest
  | .send 1 "&1" :: rest | .send 2 "&2" :: rest => redirect outcome rest
  | .send 1 _ :: rest => redirect { outcome with output := [] } rest
  | .send 2 _ :: rest => redirect { outcome with errors := [] } rest
  | _ :: rest => redirect outcome rest
  | [] => outcome

def wordsOf (command : List Token) : List String :=
  command.filterMap fun
    | .word text => some text
    | _ => none

/-- Commands between signs of one kind. -/
def splitAt (isSign : String → Bool) : List Token → List (Option String × List Token)
  | [] => [(none, [])]
  | .sign text :: rest =>
    if isSign text then (some text, []) :: splitAt isSign rest
    else
      match splitAt isSign rest with
      | (sign, command) :: more => (sign, .sign text :: command) :: more
      | [] => [(none, [.sign text])]
  | token :: rest =>
    match splitAt isSign rest with
    | (sign, command) :: more => (sign, token :: command) :: more
    | [] => [(none, [token])]

/-- Runs a command with its streams sent where it says. -/
def runCommand (command : List Token) (input : List UInt8) : FilterOutcome :=
  let given := if command.contains .noInput then [] else input
  let found := runWords (wordsOf command) given
  ⟨redirect found.result command, if command.contains .noInput then input else found.unread⟩

/-- Runs commands each of which reads what the one before has written. -/
def runPipeline (input : List UInt8) : List (List Token) → FilterOutcome
  | [] => Filter.succeed [] input
  | [command] => runCommand command input
  | command :: rest =>
    let first := runCommand command input
    let more := runPipeline first.result.output rest
    ⟨{ more.result with errors := first.result.errors ++ more.result.errors }, first.unread⟩

/-- Runs a pipeline, or ends the script. -/
def advance (progress : Progress) (command : List Token) : Progress :=
  match wordsOf command with
  | "exit" :: rest =>
    { progress with
      ended := true
      status := ((rest.head?.bind String.toNat?).getD progress.status) % 256 }
  | _ =>
    if command.isEmpty then progress
    else
      let found := runPipeline progress.input ((splitAt (· == "|") command).map (·.2))
      { input := found.unread
        output := progress.output ++ found.result.output
        errors := progress.errors ++ found.result.errors
        status := found.result.status
        ended := false }

/-- Whether a pipeline runs after the sign in front of it. -/
def runsAfter (sign : Option String) (status : Nat) : Bool :=
  match sign with
  | some "&&" => status == 0
  | some "||" => status != 0
  | _ => true

/-- Whether a sign stands between pipelines. -/
def isJoin (sign : String) : Bool := sign == ";" || sign == "&&" || sign == "||"

/-- Runs the pipelines of a script in order. -/
def runAll (progress : Progress) (before : Option String) :
    List (Option String × List Token) → Progress
  | [] => progress
  | (sign, command) :: rest =>
    if progress.ended then progress
    else if runsAfter before progress.status then
      runAll (advance progress command) sign rest
    else runAll progress sign rest

/-- Runs a script with its parameters, the first of which is its name. -/
def run (script : String) (parameters : List String) (input : List UInt8) : ProgramOutcome :=
  let text := script.toList
  let found := tokens (parameter parameters) (text.length + 1) text
  let last := runAll ⟨input, [], [], 0, false⟩ none (splitAt isJoin found)
  ⟨last.output, last.errors, last.status⟩

end Script

/-- Runs the built-in filters, and scripts of them. -/
def launchBuiltin : Launcher := fun program arguments input =>
  if program == "sh" then
    match arguments with
    | "-c" :: script :: parameters =>
      some (Script.run script (if parameters.isEmpty then ["sh"] else parameters) input)
    | [] =>
      some (Script.run (String.ofList (Text.lossyUtf8 input)) ["sh"] [])
    | file :: _ => some (Filter.fail 2 ("sh: 0: cannot open " ++ file) [] input).result
  else (Filter.ofName? program).map fun run => (run arguments input).result

end Phrasebook
