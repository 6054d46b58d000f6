import Phrasebook.Candidate.Basic
import Phrasebook.Dictionary.Basic
import Phrasebook.Key.Naming

/-!
# Deriving keys

A candidate gets the key that its file and its text ask for. If another text holds that key, or the
shape of the messages keeps the key out, numbers from one on are tried behind it. A key that holds
the same text is shared.
-/

namespace Phrasebook

/-- Whether a key was made for a candidate or was there before. -/
inductive KeyStatus where
  | new
  | reused
  deriving DecidableEq, Repr

namespace KeyStatus

def name : KeyStatus → String
  | new => "new"
  | reused => "reused"

def all : List KeyStatus := [new, reused]

def ofName? (name : String) : Option KeyStatus := all.find? (·.name == name)

end KeyStatus

/-- A candidate with its key. -/
structure Entry where
  candidate : Candidate
  key : String
  spaceName : String
  status : KeyStatus
  deriving DecidableEq, Repr

/-- The key without its namespace. -/
def Entry.relativeKey (e : Entry) : String := Key.relative e.spaceName e.key

namespace Key

/-- The greatest number tried behind a key. -/
def maxSuffix : Nat := 999

/-- A key with a number behind it; zero adds nothing. -/
def suffixed (base : String) (attempt : Nat) : String :=
  if attempt = 0 then base else base ++ "_" ++ toString attempt

end Key

/-- Where a text found its key. -/
structure Derivation where
  key : String
  status : KeyStatus
  /-- The number behind the key. -/
  attempt : Nat
  dictionary : Dictionary

namespace Dictionary

/-- Tries a key with numbers behind it from `attempt` on, `count` of them. -/
def deriveFrom (d : Dictionary) (base text : String) (attempt : Nat) :
    (count : Nat) → Except Failure Derivation
  | 0 => .error (.suffixesExhausted base Key.maxSuffix)
  | count + 1 =>
    let key := Key.suffixed base attempt
    match d.probe d.sourceLocale key text with
    | .free => (d.set d.sourceLocale key text false).map fun d => ⟨key, .new, attempt, d⟩
    | .same => .ok ⟨key, .reused, attempt, d⟩
    | .different _ | .blocked _ => d.deriveFrom base text (attempt + 1) count

/-- The key of a text that asks for `base`. -/
def derive (d : Dictionary) (base text : String) : Except Failure Derivation :=
  d.deriveFrom base text 0 (Key.maxSuffix + 1)

end Dictionary

/-- A candidate that got its key. -/
structure Derived where
  entry : Entry
  /-- A number had to be put behind the key. -/
  suffixed : Bool
  dictionary : Dictionary

/-- Gives a candidate its key. -/
def KeyRules.derive (rules : KeyRules) (withinRoot : String) (c : Candidate) (d : Dictionary) :
    Except Failure Derived :=
  (d.derive (rules.key withinRoot c.text) c.text).map fun found =>
    { entry := ⟨c, found.key, rules.spaceName withinRoot, found.status⟩
      suffixed := found.attempt ≠ 0
      dictionary := found.dictionary }

end Phrasebook
