import Phrasebook.Text.Bytes

/-!
# Splicing edits into a text

Edits are planned against one unmodified text and applied together. Ranges must be disjoint. An
insertion may stand at either end of a range but not strictly inside it; insertions at one offset
keep their order.
-/

namespace Phrasebook.Text

/-- The bytes from `start` to `stop` are replaced by `code`; an insertion has `start = stop`. -/
structure Edit where
  start : Nat
  stop : Nat
  code : String
  deriving DecidableEq, Repr

/-- An edit that removes nothing. -/
def Edit.insert (offset : Nat) (code : String) : Edit := ⟨offset, offset, code⟩

def Edit.isInsertion (e : Edit) : Bool := e.start == e.stop

/-- Why a set of edits cannot be applied. -/
inductive SpliceError where
  | outOfBounds (start stop length : Nat)
  | notBoundary (start stop : Nat)
  | overlap (firstStart firstStop secondStart secondStop : Nat)
  deriving DecidableEq, Repr

def SpliceError.message : SpliceError → String
  | .outOfBounds start stop length =>
    s!"replacement {start}..{stop} is out of bounds (len {length})"
  | .notBoundary start stop =>
    s!"replacement {start}..{stop} does not fall on a character boundary"
  | .overlap a b c d => s!"replacements {a}..{b} and {c}..{d} overlap"

/-- The first fault of a single edit: its bounds, then its boundaries. -/
def Edit.fault? (text : List Char) (e : Edit) : Option SpliceError :=
  if e.stop < e.start || byteLength text < e.stop then
    some (.outOfBounds e.start e.stop (byteLength text))
  else if !isBoundary text e.start || !isBoundary text e.stop then
    some (.notBoundary e.start e.stop)
  else none

/-- Order of application: by start, and at one start insertions first. -/
def Edit.le (a b : Edit) : Bool :=
  a.start < b.start || (a.start == b.start && (a.isInsertion || !b.isInsertion))

/-- The first edit, in order, that starts before the widest earlier one ends. -/
def overlap? : Option Edit → List Edit → Option SpliceError
  | _, [] => none
  | none, e :: rest => overlap? (some e) rest
  | some widest, e :: rest =>
    if e.start < widest.stop then
      some (.overlap widest.start widest.stop e.start e.stop)
    else overlap? (some (if widest.stop < e.stop then e else widest)) rest

/-- One edit made on its own; a text that cannot be cut there stays as it is. -/
def Edit.make (e : Edit) (text : List Char) : List Char :=
  match takeBytes? text e.start, dropBytes? text e.stop with
  | some before, some after => before ++ e.code.toList ++ after
  | _, _ => text

/-- Edits in order of application, or the first reason why they cannot be applied. -/
def arrange (text : List Char) (edits : List Edit) : Except SpliceError (List Edit) :=
  match edits.findSome? (Edit.fault? text) with
  | some fault => .error fault
  | none =>
    let ordered := edits.mergeSort Edit.le
    match overlap? none ordered with
    | some fault => .error fault
    | none => .ok ordered

/-- All edits together, made from the last one to the first so that offsets stay valid. -/
def splice (text : List Char) (edits : List Edit) : Except SpliceError (List Char) :=
  (arrange text edits).map fun ordered => ordered.foldr Edit.make text

end Phrasebook.Text
