import Phrasebook.Candidate.Search
import Phrasebook.Dictionary.Basic
import Phrasebook.Rewrite.Component
import Phrasebook.Rewrite.Lookup
import Phrasebook.Text.Splice

/-!
# Planning a rewrite

Every entry looks for its token: the same text of the same kind on its line, at its column or, if
none is there, the first on the line. A found token inside the component is claimed by one entry;
entries that stand later in the source choose first. An entry without a token is skipped, with the
reason.
-/

namespace Phrasebook

open Text (Position Edit)

/-- Why an entry is not applied. -/
inductive SkipReason where
  /-- The token is not where it was. -/
  | drift
  /-- The token is gone, and the entry is looked up somewhere. -/
  | alreadyApplied
  /-- The token stands outside the component. -/
  | outOfScope
  /-- The source locale lacks the key. -/
  | missingKey
  deriving DecidableEq, Repr

namespace SkipReason

def tag : SkipReason → String
  | drift => "drift"
  | alreadyApplied => "already-applied"
  | outOfScope => "out-of-scope"
  | missingKey => "missing-key"

def all : List SkipReason := [drift, alreadyApplied, outOfScope, missingKey]

def ofTag? (tag : String) : Option SkipReason := all.find? (·.tag == tag)

end SkipReason

/-- An entry that is not applied. -/
structure Skip where
  file : String
  position : Position
  key : String
  text : String
  reason : SkipReason
  deriving DecidableEq, Repr

namespace Skip

def ofEntry (file : String) (e : Entry) (reason : SkipReason) : Skip :=
  ⟨file, e.candidate.position, e.key, e.candidate.text, reason⟩

/-- Only a drifted token counts as a failure. -/
def failure? (s : Skip) : Option Failure :=
  if s.reason = .drift then some (.drift s.file s.position.line s.text) else none

end Skip

/-! ## Tokens -/

/-- A token of the source that is rewritten. -/
structure Token where
  offset : Nat
  position : Position
  raw : String
  kind : TokenKind
  deriving DecidableEq, Repr

/-- The candidates of a source as tokens, with their offsets. -/
def tokensOf (source : List Char) (found : List Occurrence) : List Token :=
  (found.filterMap Occurrence.candidate?).filterMap fun c =>
    (Text.offset? source c.position).map fun offset => ⟨offset, c.position, c.raw, c.token⟩

namespace Token

/-- Whether a token is that of a candidate, but for its column. -/
def fits (t : Token) (c : Candidate) : Bool :=
  t.position.line == c.position.line && t.kind = c.token && t.raw == c.raw

end Token

/-- Where the token of a candidate is. -/
inductive Located where
  | exact (offset : Nat)
  /-- Elsewhere on its line. -/
  | moved (offset : Nat)
  | missing
  deriving DecidableEq, Repr

def locate (tokens : List Token) (c : Candidate) : Located :=
  let fitting := tokens.filter (·.fits c)
  match fitting.find? fun t => t.position.column == c.position.column with
  | some t => .exact t.offset
  | none =>
    match fitting with
    | t :: _ => .moved t.offset
    | [] => .missing

/-! ## Plans -/

/-- What entries are applied to. -/
structure RewriteScene where
  file : String
  source : List Char
  tokens : List Token
  component : Option Component
  /-- The source locale's text of a key. -/
  text? : String → Option String

namespace RewriteScene

/-- Whether the source holds the lookup of an entry already. -/
def holdsLookup (scene : RewriteScene) (e : Entry) : Bool :=
  Text.contains e.lookupCall.toList scene.source

/-- Where an entry's token is; a moved one counts only while the entry is looked up nowhere. -/
def start? (scene : RewriteScene) (e : Entry) : Except SkipReason Nat :=
  match locate scene.tokens e.candidate with
  | .exact offset => .ok offset
  | .moved offset => if scene.holdsLookup e then .error .alreadyApplied else .ok offset
  | .missing => .error (if scene.holdsLookup e then .alreadyApplied else .drift)

/-- Whether an offset lies between the braces of the component. -/
def inScope (scene : RewriteScene) (offset : Nat) : Bool :=
  scene.component.any fun c => c.bodyStart < offset && offset < c.bodyStop

/-- The edit that applies an entry, or the reason to skip it. -/
def edit? (scene : RewriteScene) (e : Entry) : Except SkipReason Edit := do
  if (scene.text? e.key).isNone then .error .missingKey
  else
    let start ← scene.start? e
    if scene.inScope start then
      return ⟨start, start + Text.byteLength e.candidate.raw.toList, e.replacement⟩
    else .error .outOfScope

end RewriteScene

/-- Puts an edit among others in the order of their starts, unless its start is taken. -/
def insertEdit? (e : Edit) : List Edit → Option (List Edit)
  | [] => some [e]
  | other :: rest =>
    if e.start < other.start then some (e :: other :: rest)
    else if e.start = other.start then none
    else (insertEdit? e rest).map (other :: ·)

/-- The edits that apply entries, by start, with the namespaces they need and the entries skipped. -/
structure Plan where
  edits : List Edit
  spaceNames : List String
  skips : List Skip
  deriving DecidableEq, Repr

namespace Plan

def empty : Plan := ⟨[], [], []⟩

/-- Plans one more entry. -/
def add (scene : RewriteScene) (plan : Plan) (e : Entry) : Plan :=
  match scene.edit? e with
  | .error reason => { plan with skips := plan.skips ++ [.ofEntry scene.file e reason] }
  | .ok edit =>
    match insertEdit? edit plan.edits with
    | some edits => { plan with edits, spaceNames := plan.spaceNames ++ [e.spaceName] }
    | none => plan

/-- Plans all entries, those that stand later in the source first. -/
def ofEntries (scene : RewriteScene) (entries : List Entry) : Plan :=
  let ordered := entries.mergeSort fun a b => !a.candidate.position.before b.candidate.position
  ordered.foldl (add scene) empty

/-- The namespaces of the applied entries, in order and each once. -/
def orderedSpaceNames (plan : Plan) : List String :=
  plan.spaceNames.eraseDups.mergeSort fun a b => !(b < a)

end Plan

end Phrasebook
