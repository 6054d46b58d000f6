/-!
# Notices

What a run tells its user while it works. A level says how much is told: a notice is shown when its
level is no finer than the chosen one. Plain information goes to the output, all else to the error
stream with its level in front.
-/

namespace Phrasebook

inductive NoticeLevel where
  | error
  | warning
  | information
  | detail
  deriving DecidableEq, Repr

namespace NoticeLevel

/-- One for errors, up to four for details. -/
def rank : NoticeLevel → Nat
  | error => 1
  | warning => 2
  | information => 3
  | detail => 4

/-- The level of a name that can be chosen. -/
def ofName? (name : String) : Option NoticeLevel :=
  match name with
  | "error" => some error
  | "warn" => some warning
  | "info" => some information
  | "debug" => some detail
  | _ => none

/-- The level of a run: a chosen name decides; without one, a verbose run tells details. -/
def choose (name : Option String) (verbose : Bool) : Except String NoticeLevel :=
  match name with
  | some name =>
    match ofName? name with
    | some level => .ok level
    | none => .error ("Unknown log level '" ++ name ++ "' (expected error|warn|info|debug)")
  | none => .ok (if verbose then detail else information)

/-- What stands in front of a notice. -/
def label : NoticeLevel → String
  | error => "error: "
  | warning => "warning: "
  | information => ""
  | detail => "debug: "

end NoticeLevel

structure Notice where
  level : NoticeLevel
  text : String
  deriving DecidableEq, Repr

namespace Notice

def error (text : String) : Notice := ⟨.error, text⟩
def warning (text : String) : Notice := ⟨.warning, text⟩
def information (text : String) : Notice := ⟨.information, text⟩
def detail (text : String) : Notice := ⟨.detail, text⟩

def isShown (n : Notice) (level : NoticeLevel) : Bool := n.level.rank ≤ level.rank

def line (n : Notice) : String := n.level.label ++ n.text

/-- Whether a notice goes to the output and not to the error stream. -/
def isPlain (n : Notice) : Bool := n.level = .information

end Notice

/-- The lines of the shown notices that go to the error stream. -/
def errorLines (level : NoticeLevel) (notices : List Notice) : List String :=
  (notices.filter fun n => n.isShown level && !n.isPlain).map Notice.line

/-- The lines of the shown notices that go to the output. -/
def plainLines (level : NoticeLevel) (notices : List Notice) : List String :=
  (notices.filter fun n => n.isShown level && n.isPlain).map Notice.line

end Phrasebook
