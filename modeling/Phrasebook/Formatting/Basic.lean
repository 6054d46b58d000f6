import Phrasebook.Notice
import Phrasebook.Text.Encoding
import Phrasebook.Text.Spacing
import Phrasebook.Text.Split

/-!
# Formatters

A formatter is a program that reads a changed source and writes it laid out. One that fails, or
writes nothing, leaves the source as it is.
-/

namespace Phrasebook

/-- What a program has written, and how it ended. -/
structure ProgramOutcome where
  output : List UInt8
  errors : List UInt8
  /-- Zero for success. -/
  status : Nat
  deriving DecidableEq, Repr

/-- Runs a program of a name with arguments and an input; nothing if there is no such program. -/
abbrev Launcher :=
  (program : String) → (arguments : List String) → (input : List UInt8) → Option ProgramOutcome

/-- A program with its arguments. -/
structure Formatter where
  program : String
  arguments : List String
  deriving DecidableEq, Repr

/-- Why a source was not laid out. -/
inductive FormattingError where
  | notStarted (program : String)
  | failed (status : Nat) (errors : String)
  | notText (cause : Text.Utf8Error)
  | noOutput
  deriving DecidableEq, Repr

def FormattingError.message : FormattingError → String
  | .notStarted program =>
    "Failed to start formatter '" ++ program ++ "': No such file or directory (os error 2)"
  | .failed status errors => "Formatter exited with " ++ toString status ++ ": " ++ errors
  | .notText cause => "Formatter produced non UTF-8 output: " ++ cause.message
  | .noOutput => "Formatter produced no output"

namespace Formatter

/-- The formatter that settings name, if they name one. -/
def ofArguments? : Option (List String) → Option Formatter
  | some (program :: arguments) => some ⟨program, arguments⟩
  | _ => none

/-- Stands for the path of the file. -/
def fileMark : List Char := "\x7bfile\x7d".toList

/-- An argument with the path of the file put in. -/
def argumentFor (file argument : String) : String :=
  String.ofList (Text.replaceAll fileMark file.toList argument.toList)

/-- Lays a source out. -/
def run (f : Formatter) (launch : Launcher) (file content : String) :
    Except FormattingError String := do
  let program := argumentFor file f.program
  match launch program (f.arguments.map (argumentFor file)) (Text.utf8Bytes content.toList) with
  | none => .error (.notStarted program)
  | some outcome =>
    if outcome.status ≠ 0 then
      .error (.failed outcome.status (String.ofList (Text.trim (Text.lossyUtf8 outcome.errors))))
    else
      let formatted ← (Text.readUtf8 outcome.output).mapError .notText
      if formatted.all Unicode.isBlank && !content.toList.all Unicode.isBlank then .error .noOutput
      else return String.ofList formatted

/-- Lays a source out, or keeps it and says why. -/
def formatOrKeep (f : Formatter) (launch : Launcher) (file content : String) :
    String × List Notice :=
  match f.run launch file content with
  | .ok formatted => (formatted, [])
  | .error e => (content, [.warning (file ++ ": formatter skipped: " ++ e.message)])

end Formatter

end Phrasebook
