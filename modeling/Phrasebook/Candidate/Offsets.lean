import Phrasebook.Candidate.Search
import Phrasebook.Syntax.Site

/-!
# Where a search asks for positions

All that a search finds is read at the sites of a tree one by one: from a text, or from a call that
looks a translation up. Some steps lead to parts that are left out, and some to parts where only
lookups count. What is found gets a position, which is counted from the start of a line; so there is
one only at an offset between two characters, and to ask for another is a fault of the program.
-/

namespace Phrasebook

open Syntax (Tree Span Kind Step Site)

/-! ## Offsets that are asked for -/

/-- An offset whose position in a text is asked for. -/
structure Asked where
  text : List Char
  offset : Nat

/-- The offset has a position. -/
def Asked.isSound (a : Asked) : Bool := Text.isBoundary a.text a.offset

/-- A fault of a source is reported with its position. -/
def askedByReading (file : String) (source : List Char) : List Asked :=
  match Syntax.readModule (dialectOf file) source with
  | .ok _ => []
  | .error fault => [⟨source, min fault.offset (Text.byteLength source)⟩]

/-! ## Steps that are not followed -/

namespace SearchRules

variable (rules : SearchRules)

/-- A call by one of the names that decide what becomes of a call. -/
def isNamedCall (t : Tree) : Bool :=
  (t.children.head?.bind calleeName?).any fun name => rules.isSilent name || rules.isLookup name

/-- A call that looks a translation up. -/
def looksUp : Tree → Bool
  | .node .call _ children =>
    (children.head?.bind calleeName?).any fun name => !rules.isSilent name && rules.isLookup name
  | _ => false

/-- Some nodes are left out with all or some of their children: failures that are made, what stands
between certain tags, attributes that hold no text, and calls that are known by their names. An
attribute has no parts but a value, and texts have none, nor have plain values of attributes. -/
def cuts : Step → Bool
  | ⟨.node kind span children, index⟩ =>
    match kind with
    | .stringLiteral _ | .markupText => true
    | .new => isErrorMade children
    | .element tag => isSilentElement tag && index != 0
    | .attribute name =>
      rules.excludedAttributes.contains name || index != 0 ||
        children.head?.any (·.kind == .attributeText)
    | .call => rules.isNamedCall (.node kind span children)
    | _ => false

/-- Nothing counts behind these steps. -/
def drops (step : Step) : Bool :=
  isSilentKind step.parent.kind || isDirective step.parent || rules.cuts step

end SearchRules

/-- Behind these steps texts do not count. -/
def Syntax.Step.mutes (step : Step) : Bool :=
  match step.parent.kind with
  | .comparison | .caseTest | .computedKey => true
  | _ => false

/-! ## Readings -/

namespace Search

variable (search : Search)

/-- What is read from a node on its own. -/
def atNode (suppressed : Bool) : Tree → List Occurrence
  | .node (.stringLiteral value) span _ => if suppressed then [] else search.ofString span value
  | .node .markupText span _ => if suppressed then [] else search.ofMarkupText span
  | .node (.attribute name) _ (.node .attributeText span _ :: _) =>
    if search.rules.excludedAttributes.contains name || suppressed ||
      !search.rules.attributes.contains name then []
    else search.ofAttribute name span
  | .node .call span children =>
    if search.rules.looksUp (.node .call span children) then
      search.ofLookup span (children.drop 1)
    else []
  | _ => []

/-- What is found at a site. -/
def atSite (p : Site) : List Occurrence :=
  if p.steps.any search.rules.drops then [] else search.atNode (p.steps.any Step.mutes) p.node

/-- Where the token of a node starts. Blanks in front of a text between tags do not belong to it. -/
def tokenStart : Tree → Nat
  | .node .markupText span _ =>
    match search.slice? span with
    | some raw => span.start + (Text.byteLength raw - Text.byteLength (Text.trimStart raw))
    | none => span.start
  | .node (.attribute _) _ (.node .attributeText span _ :: _) => span.start
  | .node _ span _ => span.start

/-- Whatever is found at a site is found with its position. -/
def askedAt (p : Site) : List Asked :=
  (search.atSite p).map fun _ => ⟨search.source, search.tokenStart p.node⟩

/-- The offsets whose positions a search asks for. -/
def asked (t : Tree) : List Asked := t.sites.flatMap search.askedAt

end Search

/-- The offsets whose positions are asked for when a source is read and searched. -/
def askedBySearch (rules : SearchRules) (file : String) (source : List Char) : List Asked :=
  askedByReading file source ++
    match readSource file source with
    | .error _ => []
    | .ok tree => Search.asked ⟨rules, file, source⟩ tree

end Phrasebook
