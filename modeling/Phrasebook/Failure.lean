/-!
# Failures

What can go wrong with one file, one key or a whole run. Only a failed setup stops a run.
-/

namespace Phrasebook

inductive Failure where
  /-- A source cannot be read as a module. -/
  | unreadable (file : String) (line column : Nat) (reason : String)
  /-- A text is no longer where it was found. -/
  | drift (file : String) (line : Nat) (expected : String)
  /-- A key holds another text already. -/
  | collision (locale path existing incoming : String)
  /-- A key leads through a text, or to further keys. -/
  | conflict (locale path place : String)
  | suffixesExhausted (path : String) (attempts : Nat)
  /-- A document or a source cannot be read or written. -/
  | storage (path reason : String)
  | setup (reason : String)
  deriving DecidableEq, Repr

namespace Failure

/-- The tag that reports use. -/
def kind : Failure → String
  | unreadable .. => "parse"
  | drift .. => "drift"
  | collision .. => "collision"
  | conflict .. => "conflict"
  | suffixesExhausted .. => "suffix-exhausted"
  | storage .. => "persistence"
  | setup .. => "setup"

/-- The file, the key or the document that a failure is about. -/
def subject : Failure → String
  | unreadable file .. | drift file .. => file
  | collision locale path .. | conflict locale path .. => locale ++ ":" ++ path
  | suffixesExhausted path .. | storage path .. => path
  | setup .. => ""

def message : Failure → String
  | unreadable file line column reason =>
    "failed to parse " ++ file ++ ":" ++ toString line ++ ":" ++ toString column ++ ": " ++ reason
  | drift file line expected =>
    file ++ ":" ++ toString line ++ ": expected " ++ expected ++ " but the source has changed"
  | collision locale path existing incoming =>
    "key '" ++ path ++ "' in locale '" ++ locale ++ "' already holds '" ++ existing ++
      "' (refusing to write '" ++ incoming ++ "')"
  | conflict locale path place =>
    "key '" ++ path ++ "' in locale '" ++ locale ++ "' conflicts with the existing tree at '" ++
      place ++ "'"
  | suffixesExhausted path attempts =>
    "no free key found for '" ++ path ++ "' after " ++ toString attempts ++ " suffixes"
  | storage path reason => path ++ ": " ++ reason
  | setup reason => reason

end Failure

end Phrasebook
