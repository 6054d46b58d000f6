import Phrasebook.Candidate.Basic
import Phrasebook.Failure
import Phrasebook.Project.Path
import Phrasebook.Settings.Basic
import Phrasebook.Syntax.Module
import Phrasebook.Text.Entity
import Phrasebook.Text.Spacing

/-!
# Searching a source

The tree of a source is searched for texts that are shown and for lookups of translations. Parts
whose texts are never shown are left out: imports, types, names of properties, failures that are
thrown, and calls that log or bind. In tests for equality, in computed keys and in the tests of
cases texts do not count, but lookups do.
-/

namespace Phrasebook

open Syntax (Tree Span Kind)
open Text (Position)

/-! ## Reading a source -/

/-- Markup is read in files with these endings. -/
def markupExtensions : List String := ["tsx", "jsx", "js"]

def dialectOf (file : String) : Syntax.Dialect :=
  ⟨(Path.extension? file).any markupExtensions.contains⟩

/-- The tree of a source. Offsets count from after a mark of the byte order. -/
def readSource (file : String) (source : List Char) : Except Failure Tree :=
  match Syntax.readModule (dialectOf file) source with
  | .ok tree => .ok tree
  | .error fault =>
    let place := Text.position source (min fault.offset (Text.byteLength source))
    .error (.unreadable file place.line place.column fault.cause.message)

/-! ## What counts -/

/-- Names that decide what is found. -/
structure SearchRules where
  attributes : List String
  excludedAttributes : List String
  translationFunctions : List String
  /-- Functions that bind a namespace. -/
  bindings : List String

def SearchRules.ofSettings (s : Settings) : SearchRules where
  attributes := s.attributes
  excludedAttributes := s.excludedAttributes
  translationFunctions := s.translationFunctions
  bindings := [s.binding.hook, s.binding.server]

/-- The name of an accessor: `t`, a capital, then ASCII letters, digits and underscores. -/
def isAccessorName (name : String) : Bool :=
  match name.toList with
  | 't' :: c :: rest => c.isUpper && rest.all fun d => d.isAlphanum || d == '_'
  | _ => false

namespace SearchRules

/-- A call of this name looks a translation up. -/
def isLookup (rules : SearchRules) (name : String) : Bool :=
  rules.translationFunctions.contains name || name.endsWith ".t" || isAccessorName name

/-- The arguments of a call of this name are never shown. -/
def isSilent (rules : SearchRules) (name : String) : Bool :=
  name == "require" || name.startsWith "console." || rules.bindings.contains name

end SearchRules

/-- The name of what is called: a plain name, or names joined by points. -/
def calleeName? : Tree → Option String
  | .node (.name text) _ _ => some text
  | .node (.member property) _ [object] => (calleeName? object).map (· ++ "." ++ property)
  | .node .paren _ [inner] => calleeName? inner
  | _ => none

/-- The key that a call looks up: its first argument, if that is a plain string. -/
def lookupKey? (arguments : List Tree) : Option String :=
  match arguments.filter fun t => t.kind != .type with
  | .node (.stringLiteral value) _ _ :: _ => value
  | .node .spread _ [.node (.stringLiteral value) _ _] :: _ => value
  | _ => none

/-- Elements whose contents are not shown as text. -/
def silentElements : List String := ["style", "script", "code", "pre"]

def isSilentElement (tag : Option String) : Bool :=
  tag.any fun name => silentElements.contains name.toLower

/-- Parts of a tree that hold nothing to find. -/
def isSilentKind : Kind → Bool
  | .importDeclaration _ | .exportNames | .exportAll | .moduleReference | .moduleName
  | .enumMemberName | .type | .propertyName _ | .throwStatement | .importCall => true
  | _ => false

/-- A statement that is only a string, as a directive is. -/
def isDirective : Tree → Bool
  | .node .expressionStatement _ [.node (.stringLiteral _) _ _] => true
  | _ => false

/-- Something made of a name that ends as those of errors do. -/
def isErrorMade : List Tree → Bool
  | .node (.name text) _ _ :: _ => text.endsWith "Error"
  | _ => false

/-! ## The search -/

/-- A source that is searched. -/
structure Search where
  rules : SearchRules
  file : String
  source : List Char

/-- Lines shown on either side of a candidate. -/
def surroundingLines : Nat := 2

namespace Search

variable (search : Search)

def slice? (span : Span) : Option (List Char) := Text.slice? search.source span.start span.stop

/-- A candidate at an offset, unless its text is empty. -/
def found (offset : Nat) (raw text : List Char) (token : TokenKind) (attributeName : Option String) :
    List Occurrence :=
  if text.isEmpty then []
  else
    let position := Text.position search.source offset
    [.candidate {
      text := String.ofList text
      raw := String.ofList raw
      file := search.file
      position
      token
      attributeName
      surroundings := String.ofList (Text.window search.source position.line surroundingLines) }]

/-- A string literal, if its stretch of the source starts with a quote. -/
def ofString (span : Span) (value : Option String) : List Occurrence :=
  match value, search.slice? span with
  | some value, some (quote :: rest) =>
    if quote == '"' || quote == '\'' then
      search.found span.start (quote :: rest) (Text.squeeze value.toList) .stringLiteral none
    else []
  | _, _ => []

/-- The value of an attribute between its quotes. -/
def ofAttribute (name : String) (span : Span) : List Occurrence :=
  match search.slice? span with
  | some raw =>
    let inner := (Text.slice? raw 1 (Text.byteLength raw - 1)).getD []
    search.found span.start raw (Text.squeeze (Text.Entity.decode inner)) .markupAttribute (some name)
  | none => []

/-- Text between tags, without the blanks around it. -/
def ofMarkupText (span : Span) : List Occurrence :=
  match search.slice? span with
  | some raw =>
    let body := Text.trimStart raw
    let leading := Text.byteLength raw - Text.byteLength body
    let shown := Text.trimEnd body
    search.found (span.start + leading) shown (Text.squeeze (Text.Entity.decode shown)) .markupText
      none
  | none => []

def ofLookup (span : Span) (arguments : List Tree) : List Occurrence :=
  [.lookup (lookupKey? arguments) (Text.position search.source span.start)]

mutual

/-- What is found in a tree. Under a test texts do not count. -/
def visit (suppressed : Bool) : Tree → List Occurrence
  | .node kind span children =>
    if isSilentKind kind || isDirective (.node kind span children) then []
    else
      match kind with
      | .stringLiteral value => if suppressed then [] else search.ofString span value
      | .markupText => if suppressed then [] else search.ofMarkupText span
      | .comparison | .caseTest | .computedKey => visitAll true children
      | .new => if isErrorMade children then [] else visitAll suppressed children
      | .element tag =>
        if isSilentElement tag then visitFirst suppressed children
        else visitAll suppressed children
      | .attribute name =>
        if search.rules.excludedAttributes.contains name then []
        else visitAttribute suppressed name children
      | .call =>
        match children.head?.bind calleeName? with
        | some name =>
          if search.rules.isSilent name then []
          else if search.rules.isLookup name then search.ofLookup span (children.drop 1)
          else visitAll suppressed children
        | none => visitAll suppressed children
      | _ => visitAll suppressed children

def visitAll (suppressed : Bool) : List Tree → List Occurrence
  | [] => []
  | t :: rest => visit suppressed t ++ visitAll suppressed rest

/-- The opening tag of an element whose contents do not count. -/
def visitFirst (suppressed : Bool) : List Tree → List Occurrence
  | [] => []
  | t :: _ => visit suppressed t

/-- An attribute's value; a plain one counts if the attribute holds visible text. -/
def visitAttribute (suppressed : Bool) (name : String) : List Tree → List Occurrence
  | [] => []
  | .node .attributeText span _ :: _ =>
    if suppressed || !search.rules.attributes.contains name then [] else search.ofAttribute name span
  | t :: _ => visit suppressed t

end

end Search

/-- What is found in a source that was read already, in the order of positions. -/
def occurrencesIn (rules : SearchRules) (file : String) (source : List Char) (tree : Tree) :
    List Occurrence :=
  (Search.visit ⟨rules, file, source⟩ false tree).mergeSort
    fun a b => !b.position.before a.position

/-- What is found in a source, in the order of positions. -/
def occurrences (rules : SearchRules) (file : String) (source : List Char) :
    Except Failure (List Occurrence) :=
  (readSource file source).map (occurrencesIn rules file source)

end Phrasebook
