import Phrasebook.Unicode.Ranges
import Phrasebook.Unicode.Decomposition

/-!
# Canonical normal forms

The decomposed form takes every character apart and orders marks by their class. The composed form
then puts pairs together again from left to right.
-/

namespace Phrasebook.Unicode

/-- The combining class; zero for a character that starts a sequence. -/
def combiningClass (c : Char) : Nat :=
  if c.toNat < 0x300 then 0
  else
    match combiningClasses.find? fun (low, high, _) => low ≤ c.toNat && c.toNat ≤ high with
    | some (_, _, cls) => cls
    | none => 0

/-! ## Hangul syllables -/

def hangulBase : Nat := 0xAC00
def leadBase : Nat := 0x1100
def vowelBase : Nat := 0x1161
def tailBase : Nat := 0x11A7
def leadCount : Nat := 19
def vowelCount : Nat := 21
def tailCount : Nat := 28

def isSyllable (n : Nat) : Bool :=
  hangulBase ≤ n && n < hangulBase + leadCount * vowelCount * tailCount

/-- A syllable as its lead, its vowel and its tail if it has one. -/
def syllableParts (n : Nat) : List Char :=
  let index := n - hangulBase
  let lead := Char.ofNat (leadBase + index / (vowelCount * tailCount))
  let vowel := Char.ofNat (vowelBase + index % (vowelCount * tailCount) / tailCount)
  let tail := index % tailCount
  if tail = 0 then [lead, vowel] else [lead, vowel, Char.ofNat (tailBase + tail)]

/-- The syllable of a lead and a vowel, or of a syllable without tail and a tail. -/
def syllable? (a b : Nat) : Option Char :=
  if leadBase ≤ a && a < leadBase + leadCount && vowelBase ≤ b && b < vowelBase + vowelCount then
    some (Char.ofNat
      (hangulBase + ((a - leadBase) * vowelCount + (b - vowelBase)) * tailCount))
  else if isSyllable a && (a - hangulBase) % tailCount == 0 &&
      tailBase < b && b < tailBase + tailCount then
    some (Char.ofNat (a + (b - tailBase)))
  else none

/-! ## The two forms -/

/-- A character taken apart, `depth` steps deep; four steps take every character apart. -/
def decompose (depth : Nat) (c : Char) : List Char :=
  if c.toNat < 0xC0 then [c]
  else if isSyllable c.toNat then syllableParts c.toNat
  else
    match depth with
    | 0 => [c]
    | depth + 1 =>
      match decompositions.find? (·.1 == c.toNat) with
      | some (_, a, b) =>
        decompose depth (Char.ofNat a) ++ (if b = 0 then [] else [Char.ofNat b])
      | none => [c]

/-- Puts a character before those it precedes; a mark goes behind marks of a lower class. -/
def placeMark (c : Char) : List Char → List Char
  | [] => [c]
  | d :: rest =>
    if combiningClass d ≠ 0 && combiningClass d < combiningClass c then d :: placeMark c rest
    else c :: d :: rest

/-- The decomposed normal form. -/
def decomposed (text : List Char) : List Char :=
  (text.flatMap (decompose 4)).foldr placeMark []

/-- The character a pair is composed into. -/
def composePair? (a b : Char) : Option Char :=
  match syllable? a.toNat b.toNat with
  | some c => some c
  | none =>
    if b.toNat < 0x300 then none
    else
      match decompositions.find? fun (_, x, y) => x == a.toNat && y == b.toNat with
      | some (n, _, _) =>
        if inRanges compositionExclusions (Char.ofNat n) then none else some (Char.ofNat n)
      | none => none

/-- Composes what follows a starter. `marks` holds, in order, the marks that stayed behind it. -/
def composeFrom (starter : Char) (marks : List Char) : List Char → List Char
  | [] => starter :: marks
  | c :: rest =>
    let cls := combiningClass c
    let blocked :=
      match marks.getLast? with
      | none => false
      | some m => cls ≤ combiningClass m
    match if blocked then none else composePair? starter c with
    | some d => composeFrom d marks rest
    | none =>
      if cls = 0 then starter :: marks ++ composeFrom c [] rest
      else composeFrom starter (marks ++ [c]) rest

def compose : List Char → List Char
  | [] => []
  | c :: rest => if combiningClass c = 0 then composeFrom c [] rest else c :: compose rest

/-- The composed normal form. -/
def composed (text : List Char) : List Char := compose (decomposed text)

end Phrasebook.Unicode
