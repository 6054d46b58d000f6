import Phrasebook.Unicode.Folding
import Phrasebook.Unicode.Ranges

/-!
# Regular expressions

A pattern is matched by moving a set of places through it: from the places where a part may start
to those where it may end. A text matches when some place in it can be reached from some other.
-/

namespace Phrasebook

/-- A set of characters. -/
inductive CharSet where
  | ranges (members : List (Nat × Nat))
  | union (a b : CharSet)
  | inter (a b : CharSet)
  | complement (a : CharSet)
  /-- With all characters that differ from a member in case only. -/
  | folded (a : CharSet)
  /-- As `folded`, among the ASCII letters only. -/
  | foldedAscii (a : CharSet)
  deriving Repr

namespace CharSet

def none : CharSet := .ranges []

def single (c : Char) : CharSet := .ranges [(c.toNat, c.toNat)]

/-- The other case of an ASCII letter. -/
def otherAsciiCase (c : Char) : Char := if c.isLower then c.toUpper else c.toLower

def contains : CharSet → Char → Bool
  | .ranges members, c => Unicode.inRanges members c
  | .union a b, c => a.contains c || b.contains c
  | .inter a b, c => a.contains c && b.contains c
  | .complement a, c => !a.contains c
  | .folded a, c => (Unicode.caseVariants c).any a.contains
  | .foldedAscii a, c => a.contains c || a.contains (otherAsciiCase c)

end CharSet

/-- The characters on both sides of a place in a text. -/
structure Neighbours where
  before : Option Char
  after : Option Char

/-- A test of a place. -/
inductive Assertion where
  | textStart
  | textEnd
  | lineStart
  | lineEnd
  /-- As the line's ends, which may be a carriage return too. -/
  | returnStart
  | returnEnd
  | wordEdge (words : CharSet)
  | noWordEdge (words : CharSet)
  | wordStart (words : CharSet)
  | wordEnd (words : CharSet)
  | notAfterWord (words : CharSet)
  | notBeforeWord (words : CharSet)
  deriving Repr

namespace Assertion

def holds (p : Neighbours) : Assertion → Bool
  | textStart => p.before.isNone
  | textEnd => p.after.isNone
  | lineStart => p.before.all (· == '\n')
  | lineEnd => p.after.all (· == '\n')
  | returnStart => p.before.all fun c => c == '\n' || (c == '\r' && p.after != some '\n')
  | returnEnd => p.after.all fun c => c == '\r' || (c == '\n' && p.before != some '\r')
  | wordEdge w => p.before.any w.contains != p.after.any w.contains
  | noWordEdge w => p.before.any w.contains == p.after.any w.contains
  | wordStart w => !p.before.any w.contains && p.after.any w.contains
  | wordEnd w => p.before.any w.contains && !p.after.any w.contains
  | notAfterWord w => !p.before.any w.contains
  | notBeforeWord w => !p.after.any w.contains

end Assertion

inductive Regex where
  | empty
  | char (set : CharSet)
  | place (test : Assertion)
  | seq (a b : Regex)
  | alt (a b : Regex)
  /-- At least `least` times, and at most `most` times if that is given. -/
  | repeated (least : Nat) (most : Option Nat) (inner : Regex)
  deriving Repr

namespace Regex

/-- A set of places, one flag for each place of a text. -/
abbrev Places := List Bool

/-- The places of a text. -/
def placesFrom (before : Option Char) : List Char → List Neighbours
  | [] => [⟨before, none⟩]
  | c :: rest => ⟨before, some c⟩ :: placesFrom (some c) rest

def Places.union (a b : Places) : Places := a.zipWith (· || ·) b

/-- One character further, where a set admits it. -/
def step (set : CharSet) (text : List Neighbours) (active : Places) : Places :=
  let moved := text.zipWith (fun p on => on && p.after.any set.contains) active
  false :: moved.dropLast

/-- Applies `f` as often as it reaches new places, at most `fuel` times. -/
def spread (f : Places → Places) : Nat → Places → Places
  | 0, active => active
  | fuel + 1, active =>
    let wider := active.union (f active)
    if wider == active then active else spread f fuel wider

/-- Applies `f` a number of times. -/
def iterate (f : Places → Places) : Nat → Places → Places
  | 0, active => active
  | n + 1, active => iterate f n (f active)

/-- The places where a pattern may end that started at one of the given places. -/
def advance (text : List Neighbours) : Regex → Places → Places
  | .empty, active => active
  | .char set, active => step set text active
  | .place test, active => text.zipWith (fun p on => on && test.holds p) active
  | .seq a b, active => advance text b (advance text a active)
  | .alt a b, active => (advance text a active).union (advance text b active)
  | .repeated least most inner, active =>
    let first := iterate (advance text inner) least active
    match most with
    | none => spread (advance text inner) text.length first
    | some n => spread (advance text inner) (n - least) first

/-- The pattern occurs somewhere in the text. -/
def occursIn (r : Regex) (text : List Char) : Bool :=
  let places := placesFrom none text
  (advance places r (places.map fun _ => true)).any id

end Regex

end Phrasebook
