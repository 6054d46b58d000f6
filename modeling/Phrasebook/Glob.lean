/-!
# Glob patterns

`?` stands for one character, `*` for any characters, brackets for one of a set; a double star
stands alone between slashes and passes over whole directories. A slash and a leading point are
matched like other characters.
-/

namespace Phrasebook.Glob

inductive Part where
  | char (c : Char)
  | anyChar
  | anyText
  /-- Any directories. -/
  | anyPath
  /-- One of the ranges, or none of them. -/
  | oneOf (negated : Bool) (ranges : List (Char × Char))
  deriving DecidableEq, Repr

/-! ## Reading -/

/-- The members of a bracketed set. -/
def readRanges : List Char → List (Char × Char)
  | low :: '-' :: high :: rest => (low, high) :: readRanges rest
  | c :: rest => (c, c) :: readRanges rest
  | [] => []

/-- A bracketed set after its opening bracket: its first member may be a closing bracket. -/
def readSet? (text : List Char) : Option (Part × List Char) :=
  let (negated, text) :=
    match text with
    | '!' :: rest => (true, rest)
    | _ => (false, text)
  match text with
  | first :: rest =>
    let more := rest.takeWhile (· != ']')
    match rest.drop more.length with
    | _ :: rest => some (.oneOf negated (readRanges (first :: more)), rest)
    | [] => none
  | [] => none

/-- The parts of a pattern; `opens` says that a path component starts here. `fuel` bounds the
characters read. -/
def readFrom? : Nat → (opens : Bool) → List Char → Option (List Part)
  | 0, _, _ => none
  | _, _, [] => some []
  | fuel + 1, opens, c :: rest =>
    match c with
    | '?' => (readFrom? fuel false rest).map (.anyChar :: ·)
    | '[' => do
      let (part, rest) ← readSet? rest
      (readFrom? fuel false rest).map (part :: ·)
    | '*' =>
      match rest with
      | '*' :: '*' :: _ => none
      | '*' :: more =>
        if !opens then none
        else
          match more with
          | [] => some [.anyPath]
          | '/' :: more => (readFrom? fuel true more).map (.anyPath :: ·)
          | _ => none
      | _ => (readFrom? fuel false rest).map (.anyText :: ·)
    | c => (readFrom? fuel (c == '/') rest).map (.char c :: ·)

/-- The parts of a pattern, if it is one. -/
def read? (pattern : String) : Option (List Part) :=
  readFrom? (pattern.length + 1) true pattern.toList

/-! ## Matching -/

/-- One character is admitted by a part. -/
def Part.admits (c : Char) : Part → Bool
  | .char d => c == d
  | .anyChar => true
  | .oneOf negated ranges => (ranges.any fun (low, high) => low ≤ c && c ≤ high) != negated
  | .anyText | .anyPath => false

/-- Some rest of the text, the whole text among them, passes a test. -/
def anyRest (test : List Char → Bool) : List Char → Bool
  | [] => test []
  | c :: rest => test (c :: rest) || anyRest test rest

/-- Some rest behind a slash passes a test. -/
def anyComponent (test : List Char → Bool) : List Char → Bool
  | [] => false
  | c :: rest => (c == '/' && test rest) || anyComponent test rest

/-- The whole text is admitted, part by part. -/
def matchParts : List Part → List Char → Bool
  | [], text => text.isEmpty
  | .anyText :: parts, text => anyRest (matchParts parts) text
  | [.anyPath], _ => true
  | .anyPath :: parts, text => matchParts parts text || anyComponent (matchParts parts) text
  | _ :: _, [] => false
  | part :: parts, c :: rest => part.admits c && matchParts parts rest

end Phrasebook.Glob
