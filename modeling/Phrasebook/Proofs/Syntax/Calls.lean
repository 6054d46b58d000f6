import Phrasebook.Proofs.Syntax.Words
import Phrasebook.Syntax.Module

/-!
# Calls that are read back

A text that consists of a free word with a quoted text in parentheses behind it is read as a module
of one statement, the call of that word with that text. The rules are followed from the operand
outwards: an operand that starts with a free word or a string, and behind which nothing goes on, is
an assignment, an expression and a statement as well.
-/

namespace Phrasebook.Syntax

open Text (byteLength)

/-! ## Steps of the reader -/

/-- The lexeme behind the current token. -/
def State.next (s : State) : Lexeme := lexeme (s.size - s.span.stop + 1) s.span.stop s.following

/-- The state that has gone on to a lexeme. -/
def State.move (s : State) (l : Lexeme) : State :=
  { s with
    token := l.token, span := l.span, newline := l.newline, following := l.rest
    previousStop := s.span.stop }

/-- The same place with something else around it. -/
def State.inContext (s : State) (context : Context) : State := { s with context }

@[simp] theorem State.move_token (s : State) (l : Lexeme) : (s.move l).token = l.token := rfl

namespace Rule

variable {α β : Type} {s s' s'' : State}

@[simp] theorem pure_apply (a : α) : (pure a : Rule α) s = .ok a s := rfl

@[simp] theorem get_apply : (get : Rule State) s = .ok s s := rfl

@[simp] theorem modify_apply (f : State → State) : (modify f : Rule Unit) s = .ok () (f s) := rfl

@[simp] theorem bind_apply (rule : Rule α) (f : α → Rule β) : (rule >>= f) s =
    match rule s with
    | .ok a s' => f a s'
    | .error fault s' => .error fault s' := by
  simp only [bind, EStateM.bind]
  cases rule s <;> rfl

@[simp] theorem map_apply (rule : Rule α) (f : α → β) : (f <$> rule) s =
    match rule s with
    | .ok a s' => .ok (f a) s'
    | .error fault s' => .error fault s' := by
  simp only [Functor.map, EStateM.map]
  cases rule s <;> rfl

@[simp] theorem isSign_apply (sign : String) : isSign sign s = .ok (s.token == .sign sign) s := rfl

@[simp] theorem isWord_apply (word : String) :
    isWord word s = .ok (s.token == .word word false) s := rfl

@[simp] theorem atEnd_apply : atEnd s = .ok (s.token == .endOfText) s := rfl

@[simp] theorem afterNewline_apply : afterNewline s = .ok s.newline s := rfl

@[simp] theorem atReference_apply : atReference s = .ok (isReference s.token) s := rfl

@[simp] theorem currentStart_apply : currentStart s = .ok s.span.start s := rfl

@[simp] theorem remaining_apply : remaining s = .ok (s.size - s.span.start + 2) s := rfl

@[simp] theorem peek_apply : peek s = .ok s.next s := rfl

@[simp] theorem node_apply (kind : Kind) (start : Nat) (children : List Tree) :
    node kind start children s = .ok (.node kind ⟨start, s.previousStop⟩ children) s := rfl

@[simp] theorem isOneOf_apply (signs : List String) : isOneOf signs s =
    .ok (match s.token with | .sign sign => signs.contains sign | _ => false) s := by
  simp only [isOneOf, bind_apply, get_apply]
  cases s.token <;> rfl

theorem bump_apply (loose : ∀ fault, s.token ≠ .invalid fault true) :
    bump s = .ok () (s.move s.next) := by
  obtain ⟨token, span, newline, following, previousStop, size, arrowStart, context, dialect⟩ := s
  cases token with
  | invalid fault stuck =>
    cases stuck with
    | true => exact absurd rfl (loose fault)
    | false => rfl
  | _ => rfl

theorem expect_apply {sign : String} (here : s.token = .sign sign) :
    expect sign s = .ok () (s.move s.next) := by
  have bumped : bump s = .ok () (s.move s.next) := bump_apply (by simp [here])
  simp [expect, eat, here, bumped]

theorem within_apply (change : Context → Context) {rule : Rule α} {a : α} (s' : State)
    (read : rule (s.inContext (change s.context)) = .ok a s') :
    within change rule s = .ok a (s'.inContext s.context) := by
  rw [State.inContext] at read
  rw [within, read, State.inContext]

/-- A repetition ends where its rule yields nothing. -/
theorem collect_none {rule : Rule (Option α)} (ends : rule s = .ok none s') :
    collect rule s = .ok [] s' := by
  simp [collect, collect.go, ends]

theorem collect_single {rule : Rule (Option α)} {a : α} (s' : State)
    (first : rule s = .ok (some a) s') (ends : rule s' = .ok none s'') :
    collect rule s = .ok [a] s'' := by
  have twice : s.size - s.span.start + 2 = s.size - s.span.start + 1 + 1 := rfl
  simp only [collect, bind_apply, remaining_apply, twice, collect.go, first, ends, pure_apply]

end Rule

open Rule

/-! ## Tokens -/

/-- Tokens behind which no expression goes on. -/
def Token.Closes (t : Token) : Prop :=
  t = .sign ")" ∨ t = .sign "]" ∨ t = .sign "\x7d" ∨ t = .sign "," ∨ t = .sign ":" ∨ t = .endOfText

theorem Token.closes_of_endOfText {t : Token} (ends : t = .endOfText) : t.Closes := by
  simp [Closes, ends]

/-- A word that the grammar gives no meaning where an expression may start. -/
structure IsFreeWord (name : String) : Prop where
  unreserved : name ∉ reservedWords
  ne_async : name ≠ "async"

theorem IsFreeWord.ne {name : String} (free : IsFreeWord name) (word : String)
    (known : word ∈ reservedWords) : name ≠ word := by
  rintro rfl
  exact free.unreserved known

/-- Words that stand in front of what an expression is made of. -/
def leadingWords : List String :=
  ["new", "super", "import", "delete", "void", "typeof", "await", "yield"]

theorem IsFreeWord.notMem_leadingWords {name : String} (free : IsFreeWord name) :
    name ∉ leadingWords := by
  have part : ∀ word ∈ leadingWords, word ∈ reservedWords := by decide
  exact fun known => free.unreserved (part name known)

/-- Tokens that start an operand and nothing else. -/
def Token.Starts (t : Token) : Prop :=
  (∃ value, t = .string value) ∨ t = .number ∨ t = .sign "[" ∨ t = .sign "\x7b" ∨
    ∃ name, t = .word name false ∧ name ∉ leadingWords

theorem IsFreeWord.starts {name : String} (free : IsFreeWord name) {t : Token}
    (word : t = .word name false) : t.Starts :=
  Or.inr (Or.inr (Or.inr (Or.inr ⟨name, word, free.notMem_leadingWords⟩)))

/-- Expressions that are the same wherever they stand. -/
def Kind.isPlain : Kind → Bool
  | .name _ | .stringLiteral _ | .literal | .array | .object | .unary | .call => true
  | _ => false

theorem Kind.ne_super_of_isPlain {kind : Kind} (plain : kind.isPlain = true) : kind ≠ .super := by
  rintro rfl
  cases plain

theorem Kind.ne_arrow_of_isPlain {kind : Kind} (plain : kind.isPlain = true) (isAsync : Bool) :
    kind ≠ .arrow isAsync := by
  rintro rfl
  cases plain

/-! ## Operands -/

namespace Operands

variable {g : Grammar} {s s' : State} {t : Tree}

/-- Nothing is picked from an expression or called on it in front of a closing token, nor behind
`new` in front of the arguments. -/
theorem steps_closes (noCall : Bool) (plain : t.kind.isPlain = true)
    (closes : s.token.Closes ∨ noCall = true ∧ s.token = .sign "(") :
    steps g noCall false t s = .ok t s := by
  have proper := Kind.ne_super_of_isPlain plain
  have last : step? g noCall false t.start t s = .ok none s := by
    rcases closes with (token | token | token | token | token | token) | ⟨rfl, token⟩ <;>
      simp [step?, generic?, eat, atTemplate, token, proper]
  simp [steps, steps.go, last]

/-- No types stand in front of a closing token or of arguments. -/
theorem types_closes (closes : s.token.Closes ∨ s.token = .sign "(") :
    instantiation? g s = .ok [] s ∧ callTypes? g s = .ok [] s := by
  rcases closes with (token | token | token | token | token | token) | token <;>
    simp [instantiation?, callTypes?, token]

theorem uncalled_of_primary (starts : s.token.Starts) (read : primary g s = .ok t s')
    (plain : t.kind.isPlain = true) (closes : s'.token.Closes ∨ s'.token = .sign "(")
    (fuel : Nat) : uncalled g (fuel + 1) s = .ok t s' := by
  have alone : steps g true false t s' = .ok t s' :=
    steps_closes true plain (closes.imp_right fun opened => ⟨rfl, opened⟩)
  have types := (types_closes (g := g) closes).1
  -- Behind an arrow function nothing would be looked for.
  have noArrow := Kind.ne_arrow_of_isPlain plain
  rcases starts with ⟨value, token⟩ | token | token | token | ⟨name, token, plain⟩
  case inr.inr.inr.inr =>
    simp only [leadingWords, List.mem_cons, not_or] at plain
    simp [uncalled, token, read, types, alone, plain]
  all_goals simp [uncalled, token, read, types, alone]

/-- Nothing is called in front of a closing token. -/
theorem operand_of_primary (starts : s.token.Starts) (read : primary g s = .ok t s')
    (plain : t.kind.isPlain = true) (closes : s'.token.Closes) : operand g s = .ok t s' := by
  have alone := uncalled_of_primary starts read plain (Or.inl closes)
  have types := (types_closes (g := g) (Or.inl closes)).2
  have noArrow := Kind.ne_arrow_of_isPlain plain
  have noCall : s'.token ≠ .sign "(" := by
    rcases closes with token | token | token | token | token | token <;> simp [token]
  rcases starts with ⟨value, token⟩ | token | token | token | ⟨name, token, plain⟩
  case inr.inr.inr.inr =>
    simp only [leadingWords, List.mem_cons, not_or] at plain
    simp [operand, token, alone, types, noCall, plain]
  all_goals simp [operand, token, alone, types, noCall]

theorem operand_string {value : Option String} (string : s.token = .string value)
    (closes : s.next.token.Closes) :
    operand g s = .ok (.node (.stringLiteral value) s.span []) (s.move s.next) := by
  have bumped : bump s = .ok () (s.move s.next) := bump_apply (by simp [string])
  have read : primary g s = .ok (.node (.stringLiteral value) s.span []) (s.move s.next) := by
    simp only [primary, bind_apply, get_apply, string, stringLiteral, currentStart_apply, bumped]
    rfl
  exact operand_of_primary (Or.inl ⟨value, string⟩) read rfl closes

theorem primary_name {name : String} (word : s.token = .word name false) (free : IsFreeWord name)
    (opened : s.next.token = .sign "(") :
    primary g s = .ok (.node (.name name) s.span []) (s.move s.next) := by
  have bumped : bump s = .ok () (s.move s.next) := bump_apply (by simp [word])
  have plain (canBeArrow : Bool) : async? g canBeArrow s = .ok none s := by
    simp [async?, word, free.ne_async]
  have named : variableName s = .ok name (s.move s.next) := by
    have allowed : name ∉ keywords := fun known =>
      free.unreserved (List.mem_append_left _ known)
    simp only [variableName, bind_apply, get_apply, word, bumped]
    simp [allowed]
  have read (canBeArrow : Bool) : nameOrArrow g canBeArrow s =
      .ok (.node (.name name) s.span []) (s.move s.next) := by
    simp [nameOrArrow, named, free.ne_async, opened]
    rfl
  simp [primary, word, wordOperand, plain, read, free.ne "this" (by decide),
    free.ne "function" (by decide), free.ne "null" (by decide), free.ne "true" (by decide),
    free.ne "false" (by decide), free.ne "class" (by decide)]

/-- A free word with arguments behind it is a call. -/
theorem operand_call {name : String} (word : s.token = .word name false) (free : IsFreeWord name)
    (opened : s.next.token = .sign "(")
    (read : call g false s.span.start (.node (.name name) s.span []) [] (s.move s.next) = .ok t s')
    (plain : t.kind.isPlain = true) (closes : s'.token.Closes) : operand g s = .ok t s' := by
  have callee : primary g s = .ok (.node (.name name) s.span []) (s.move s.next) :=
    primary_name word free opened
  have alone := uncalled_of_primary (free.starts word) callee rfl (Or.inr opened)
  have types : callTypes? g (s.move s.next) = .ok [] (s.move s.next) :=
    (types_closes (Or.inr opened)).2
  have last : steps g false false t s' = .ok t s' := steps_closes false plain (Or.inl closes)
  simp [operand, word, alone, types, opened, read, last, Tree.kind,
    free.ne "super" (by decide), free.ne "import" (by decide)]

end Operands

/-! ## Assignments and expressions -/

/-- The state in front of an assignment: an arrow function may start at a word. -/
def State.opened (s : State) : State :=
  { s with arrowStart := match s.token with | .word _ _ => some s.span.start | _ => none }

namespace Operators

variable {s s' : State} {t : Tree}

theorem unary_of_operand {depth : Nat} (starts : s.token.Starts)
    (read : Operands.operand (Grammar.ofDepth depth) s = .ok t s') (plain : t.kind.isPlain = true)
    (closes : s'.token.Closes) : unary (Grammar.ofDepth (depth + 1)) s = .ok t s' := by
  have here : (Grammar.ofDepth (depth + 1)).operand s = .ok t s' := read
  have noArrow := Kind.ne_arrow_of_isPlain plain
  have updated : updated (Grammar.ofDepth (depth + 1)) s = .ok t s' := by
    rcases closes with token | token | token | token | token | token <;>
      simp [Operators.updated, here, token]
  rcases starts with ⟨value, token⟩ | token | token | token | ⟨name, token, plain⟩
  case inr.inr.inr.inr =>
    simp only [leadingWords, List.mem_cons, not_or] at plain
    simp [unary, token, updated, plain]
  all_goals simp [unary, token, updated]

/-- No operator stands at a closing token. -/
theorem after_closes (g : Grammar) (closes : s.token.Closes) (fuel least : Nat) :
    after g (fuel + 1) least t s = .ok t s := by
  have here : operatorHere? s = .ok none s := by
    rcases closes with token | token | token | token | token | token <;>
      simp [operatorHere?, rescanGreater, token, operatorSigns]
  have asserted : assertedAfter? g t least s = .ok none s := by
    simp only [assertedAfter?, bind_apply, afterNewline_apply]
    split
    · rfl
    · rcases closes with token | token | token | token | token | token <;> simp [token]
  simp [after, here, asserted]

/-- An operand, or one with a sign in front, is an assignment where nothing goes on. -/
theorem assignment_of_unary {depth : Nat} (starts : s.token.Starts ∨ s.token = .sign "-")
    (read : unary (Grammar.ofDepth depth) s.opened = .ok t s')
    (plain : t.kind.isPlain = true) (closes : s'.token.Closes) :
    assignment (Grammar.ofDepth (depth + 2)) s = .ok t s' := by
  have noArrow := Kind.ne_arrow_of_isPlain plain
  have first : (Grammar.ofDepth (depth + 1)).unary s.opened = .ok t s' := read
  have whole : (Grammar.ofDepth (depth + 2)).operation s.opened = .ok t s' := by
    have same : (Grammar.ofDepth (depth + 2)).operation s.opened =
        operation (Grammar.ofDepth (depth + 1)) s.opened := rfl
    simp [same, operation, bind, EStateM.bind, first, operationAfter,
      after_closes (Grammar.ofDepth (depth + 1)) closes]
  have condition : conditional (Grammar.ofDepth (depth + 2)) s.opened = .ok t s' := by
    have noMark : s'.token ≠ .sign "?" := by
      rcases closes with token | token | token | token | token | token <;> simp [token]
    simp [conditional, whole, noMark]
  have noTarget : Patterns.assignmentAfter (Grammar.ofDepth (depth + 2)) t s' = .ok t s' := by
    rcases closes with token | token | token | token | token | token <;>
      simp [Patterns.assignmentAfter, token, assignmentSigns]
  -- Whether or not something could be assigned to the expression, nothing is.
  have ends : (if isFinal t.kind then return t
      else Patterns.assignmentAfter (Grammar.ofDepth (depth + 2)) t : Rule Tree) s' = .ok t s' := by
    split
    · rfl
    · exact noTarget
  obtain ⟨token, span, newline, following, previousStop, size, arrowStart, context, dialect⟩ := s
  simp only [State.opened] at condition
  rcases starts with (⟨value, rfl⟩ | rfl | rfl | rfl | ⟨name, rfl, plain⟩) | rfl
  case inl.inr.inr.inr.inr =>
    simp only [leadingWords, List.mem_cons, not_or] at plain
    simp [assignment, plainAssignment, isInvalid, isAnyWord, word?, condition, ends, plain]
  all_goals simp [assignment, plainAssignment, isInvalid, isAnyWord, word?, condition, ends]

theorem assignment_of_operand {depth : Nat} (starts : s.token.Starts)
    (read : Operands.operand (Grammar.ofDepth depth) s.opened = .ok t s')
    (plain : t.kind.isPlain = true) (closes : s'.token.Closes) :
    assignment (Grammar.ofDepth (depth + 3)) s = .ok t s' :=
  assignment_of_unary (Or.inl starts) (unary_of_operand starts read plain closes) plain closes

/-- A string in front of a closing token is an assignment. -/
theorem assignment_string (depth : Nat) {value : Option String} (string : s.token = .string value)
    (closes : s.next.token.Closes) : assignment (Grammar.ofDepth (depth + 3)) s =
      .ok (.node (.stringLiteral value) s.span []) { s.move s.next with arrowStart := none } := by
  have opened : s.opened = { s with arrowStart := none } := by simp [State.opened, string]
  refine assignment_of_operand (Or.inl ⟨value, string⟩) ?_ rfl closes
  rw [opened]
  exact Operands.operand_string string closes

end Operators

/-! ## Calls -/

/-- A state in front of one string in parentheses. -/
structure State.AtArgument (s : State) (value : Option String) : Prop where
  opening : s.token = .sign "("
  string : s.next.token = .string value
  closing : (s.move s.next).next.token = .sign ")"

/-- The state behind one string in parentheses. -/
def State.afterArgument (s : State) : State :=
  let closing := (s.move s.next).move (s.move s.next).next
  { closing.move closing.next with arrowStart := none }

namespace Operands

variable {s : State} {value : Option String}

theorem item_string (depth : Nat) (string : s.token = .string value)
    (closes : s.next.token.Closes) : Arguments.item (Grammar.ofDepth (depth + 4)) s =
      .ok (.node (.stringLiteral value) s.span []) { s.move s.next with arrowStart := none } := by
  let inside := s.inContext { s.context with inOperator := true }
  have read : (Grammar.ofDepth (depth + 4)).assignment inside =
      .ok (.node (.stringLiteral value) s.span [])
        { inside.move inside.next with arrowStart := none } :=
    Operators.assignment_string depth string closes
  have allowed := within_apply (fun c => { c with inOperator := true }) _ read
  simp only [Arguments.item, eat, bind_apply, currentStart_apply, isSign_apply, string]
  exact allowed

theorem arguments_string (depth : Nat) (ready : s.AtArgument value) :
    Arguments.list (Grammar.ofDepth (depth + 4)) s =
      .ok [.node (.stringLiteral value) s.next.span []] s.afterArgument := by
  obtain ⟨opening, string, closing⟩ := ready
  let inside := s.inContext { s.context with colonAhead := false }
  let first := inside.move inside.next
  let last : State := { first.move first.next with arrowStart := none }
  have opened : expect "(" inside = .ok () first := expect_apply opening
  have single : commaList ")" (Arguments.item (Grammar.ofDepth (depth + 4))) first =
      .ok [.node (.stringLiteral value) s.next.span []] last := by
    have item : Arguments.item (Grammar.ofDepth (depth + 4)) first =
        .ok (.node (.stringLiteral value) s.next.span []) last :=
      item_string depth string (Or.inl closing)
    have here : first.token = .string value := string
    have there : last.token = .sign ")" := closing
    refine collect_single last ?_ ?_
    · simp [here, item, there]
    · simp [there]
  have closed : expect ")" last = .ok () (last.move last.next) := expect_apply closing
  refine within_apply (fun c => { c with colonAhead := false }) (last.move last.next) ?_
  rw [bind_apply, opened]
  simp only [bind_apply, single, closed, pure_apply]

end Operands

/-- A state in front of a call of a free word with one string. -/
structure State.AtCall (s : State) (name : String) (value : Option String) : Prop where
  word : s.token = .word name false
  free : IsFreeWord name
  argument : (s.move s.next).AtArgument value

/-- The state behind such a call. -/
def State.afterCall (s : State) : State := (s.move s.next).afterArgument

/-- The call that stands at a state. -/
def State.callHere (s : State) (name : String) (value : Option String) : Tree :=
  .node .call ⟨s.span.start, s.afterCall.previousStop⟩
    [.node (.name name) s.span [], .node (.stringLiteral value) (s.move s.next).next.span []]

/-- The statement that such a call is. -/
def State.statementHere (s : State) (name : String) (value : Option String) : Tree :=
  .node .expressionStatement ⟨s.span.start, s.afterCall.previousStop⟩ [s.callHere name value]

namespace Operators

variable {s : State} {name : String} {value : Option String}

theorem assignment_call (depth : Nat) (ready : s.AtCall name value)
    (closes : s.afterCall.token.Closes) : assignment (Grammar.ofDepth (depth + 7)) s =
      .ok (s.callHere name value) s.afterCall := by
  obtain ⟨word, free, argument⟩ := ready
  have call : Operands.call (Grammar.ofDepth (depth + 4)) false s.opened.span.start
      (.node (.name name) s.opened.span []) [] (s.opened.move s.opened.next) =
        .ok (s.callHere name value) s.afterCall := by
    have arguments : Arguments.list (Grammar.ofDepth (depth + 4)) (s.opened.move s.opened.next) =
        .ok [.node (.stringLiteral value) (s.move s.next).next.span []] s.afterCall :=
      Operands.arguments_string depth ⟨argument.opening, argument.string, argument.closing⟩
    simp only [Operands.call, bind_apply, arguments]
    simp [Tree.kind, Operands.isChain, Operands.picked]
    rfl
  refine assignment_of_operand (free.starts word) ?_ rfl closes
  exact Operands.operand_call word free argument.opening call rfl closes

end Operators

/-! ## Expressions and statements -/

namespace Operators

variable {s s' : State} {t : Tree}

/-- An assignment with no comma behind it is an expression. -/
theorem expression_of_assignment {depth : Nat}
    (read : assignment (Grammar.ofDepth depth) s = .ok t s') (alone : s'.token ≠ .sign ",") :
    expression (Grammar.ofDepth (depth + 1)) s = .ok t s' := by
  have first : (Grammar.ofDepth (depth + 1)).assignment s = .ok t s' := read
  have noComma : eat "," s' = .ok false s' := by simp [eat, alone]
  have nothing : collect (do
      if ← eat "," then return some (← (Grammar.ofDepth (depth + 1)).assignment) else return none)
      s' = .ok [] s' := collect_none (by simp [noComma])
  rw [expression, bind_apply, first]
  simp only [bind_apply]
  rw [nothing]
  rfl

end Operators

namespace Statements

variable {s : State} {name : String} {value : Option String}

/-- A free word starts no statement of its own kind. -/
theorem wordStatement?_free (g : Grammar) (free : IsFreeWord name) :
    wordStatement? g name s = .ok none s := by
  simp only [wordStatement?, bind_apply, currentStart_apply]
  split
  all_goals first | exact absurd rfl (free.ne _ (by decide)) | rfl

/-- An expression at the end of the text is a statement, unless it names something. -/
theorem ofExpression_of_expression {depth : Nat} (s' : State) {t : Tree}
    (read : Operators.expression (Grammar.ofDepth depth)
      (s.inContext { s.context with inOperator := true }) = .ok t s')
    (unnamed : ∀ name, t.kind ≠ .name name) (ends : s'.token = .endOfText) :
    ofExpression (Grammar.ofDepth (depth + 1)) [] s =
      .ok (.node .expressionStatement ⟨s.span.start, s'.previousStop⟩ [t])
        (s'.inContext s.context) := by
  have allowed : allowingIn (Grammar.ofDepth (depth + 1)).expression s =
      .ok t (s'.inContext s.context) :=
    within_apply (fun c => { c with inOperator := true }) _ read
  have ended : eatStatementEnd (s'.inContext s.context) = .ok true (s'.inContext s.context) := by
    simp [eatStatementEnd, eat, atStatementEnd, State.inContext, ends]
  simp only [ofExpression, bind_apply, currentStart_apply, allowed]
  simp [ended]
  rfl

theorem ofExpression_call (depth : Nat) (ready : s.AtCall name value)
    (ends : s.afterCall.token = .endOfText) : ofExpression (Grammar.ofDepth (depth + 9)) [] s =
      .ok (s.statementHere name value) s.afterCall := by
  let inside := s.inContext { s.context with inOperator := true }
  have prepared : inside.AtCall name value := ⟨ready.word, ready.free,
    ⟨ready.argument.opening, ready.argument.string, ready.argument.closing⟩⟩
  have ends' : inside.afterCall.token = .endOfText := ends
  have read : Operators.expression (Grammar.ofDepth (depth + 8)) inside =
      .ok (s.callHere name value) inside.afterCall :=
    Operators.expression_of_assignment (Operators.assignment_call depth prepared
      (Token.closes_of_endOfText ends')) (by rw [ends']; simp)
  exact ofExpression_of_expression inside.afterCall read nofun ends'

theorem statement_call (depth : Nat) (ready : s.AtCall name value)
    (ends : s.afterCall.token = .endOfText) :
    statement (Grammar.ofDepth (depth + 9)) true true s =
      .ok (s.statementHere name value) s.afterCall := by
  have word := ready.word
  have free := ready.free
  have opening : s.next.token = .sign "(" := ready.argument.opening
  have undecorated : Arguments.decorators (Grammar.ofDepth (depth + 9)) s = .ok [] s :=
    collect_none (by simp [word])
  have noConstant : Declarations.atConstantEnumeration s = .ok false s := by
    simp [Declarations.atConstantEnumeration, peekIsWord, word, free.ne "const" (by decide)]
  have noInterface : atModifiedInterface s = .ok false s := by
    simp [atModifiedInterface, word?, peekIsWord, word, opening]
  have noVariables : Variables.atKeyword s = .ok false s := by
    simp [Variables.atKeyword, word, free.ne "var" (by decide),
      free.ne "const" (by decide), free.ne "let" (by decide)]
  have noResources : Variables.atResources s = .ok false s := by
    simp [Variables.atResources, Variables.atUsing, isReference, word, opening,
      free.ne "await" (by decide)]
  have noFunction : Functions.atAsyncFunction s = .ok false s := by
    simp [Functions.atAsyncFunction, word, free.ne_async]
  simp [statement, undecorated, word, noConstant, noInterface, noVariables,
    noResources, noFunction, wordStatement?_free _ free, ofExpression_call depth ready ends,
    free.ne "import" (by decide), free.ne "export" (by decide), free.ne "class" (by decide),
    free.ne "var" (by decide)]

end Statements

/-! ## Modules -/

/-- A statement with nothing behind it is a module. -/
theorem moduleRule_of_statement {depth : Nat} {s s' : State} {t : Tree}
    (read : Statements.statement (Grammar.ofDepth depth) true true s = .ok t s')
    (started : s.token ≠ .endOfText) (ends : s'.token = .endOfText) :
    moduleRule (Grammar.ofDepth (depth + 1)) s =
      .ok (.node .module ⟨s.span.start, s'.previousStop⟩ [t]) s' := by
  have read : (Grammar.ofDepth (depth + 1)).statement true true s = .ok t s' := read
  have single : (collect do
      if ← atEnd then return none
      return some (← (Grammar.ofDepth (depth + 1)).statement true true)) s = .ok [t] s' := by
    refine collect_single s' ?_ ?_
    · simp [started, read]
    · simp [ends]
  rw [moduleRule, bind_apply, currentStart_apply]
  simp only [bind_apply]
  rw [single]
  rfl

/-- The tree of a text that is a call and nothing else. -/
def callModule (name key : String) : Tree :=
  let opening := byteLength name.toList
  let closing := opening + 1 + byteLength (quoted key).toList
  .node .module ⟨0, closing + 1⟩ [.node .expressionStatement ⟨0, closing + 1⟩
    [.node .call ⟨0, closing + 1⟩ [.node (.name name) ⟨0, opening⟩ [],
      .node (.stringLiteral (some key)) ⟨opening + 1, closing⟩ []]]]

/-- In front of the arguments of a free word, and with nothing behind them, a call is read to the
end of the text. -/
theorem State.reads_call {s : State} {name key : String} (word : s.token = .word name false)
    (free : IsFreeWord name) (line : IsSingleLine key.toList)
    (arguments : s.following = '(' :: ((quoted key).toList ++ [')']))
    (size : s.size = s.span.stop + byteLength s.following) :
    s.AtCall name (some key) ∧ s.afterCall.token = .endOfText ∧
      s.afterCall.previousStop = s.span.stop + 1 + byteLength (quoted key).toList + 1 ∧
      (s.move s.next).next.span =
        ⟨s.span.stop + 1, s.span.stop + 1 + byteLength (quoted key).toList⟩ := by
  have opening : s.next =
      ⟨.sign "(", ⟨s.span.stop, s.span.stop + 1⟩, false, (quoted key).toList ++ [')']⟩ := by
    rw [State.next, arguments]
    rfl
  have string : (s.move s.next).next =
      ⟨.string (some key), ⟨s.span.stop + 1, s.span.stop + 1 + byteLength (quoted key).toList⟩,
        false, [')']⟩ := by
    have enough : key.toList.length < s.size - (s.span.stop + 1) + 1 := by
      have long := length_le_byteLength_quoted key
      rw [size, arguments, Text.byteLength_cons, Text.byteLength_append]
      have mark : '('.utf8Size = 1 := rfl
      omega
    rw [opening]
    exact lexeme_quoted key line _ _ [')'] enough
  have closing : ((s.move s.next).move (s.move s.next).next).next =
      ⟨.sign ")", ⟨s.span.stop + 1 + byteLength (quoted key).toList,
        s.span.stop + 1 + byteLength (quoted key).toList + 1⟩, false, []⟩ := by
    rw [string]
    rfl
  refine ⟨⟨word, free, ?_, ?_, ?_⟩, ?_, ?_, ?_⟩
  · rw [opening]; rfl
  · rw [string]
  · rw [closing]
  · rw [State.afterCall, State.afterArgument, closing]
    rfl
  · rw [State.afterCall, State.afterArgument, closing]
    rfl
  · rw [string]

/-- A call of a word with a quoted text is read as such, if the text has no line break. -/
theorem readModule_call (dialect : Dialect) {name key : String} (free : IsFreeWord name)
    {rest : List Char} (cut : name.toList = 't' :: rest) (part : ∀ c ∈ rest, isWordPart c = true)
    (line : IsSingleLine key.toList) :
    readModule dialect (name ++ "(" ++ quoted key ++ ")").toList = .ok (callModule name key) := by
  let behind := '(' :: ((quoted key).toList ++ [')'])
  have text : (name ++ "(" ++ quoted key ++ ")").toList = 't' :: (rest ++ behind) := by
    simp [cut, behind]
  let size := byteLength ('t' :: (rest ++ behind))
  let s : State :=
    { token := .word name false, span := ⟨0, byteLength name.toList⟩, newline := true
      following := behind, previousStop := 0, size := size, arrowStart := none
      context := Context.initial, dialect := dialect }
  have total : size = byteLength name.toList + byteLength behind := by
    rw [cut, ← Text.byteLength_append, List.cons_append]
  have start : State.initial dialect
      (withoutMark (name ++ "(" ++ quoted key ++ ")").toList) = s := by
    have read : wordRest (size + 1) 0 (name.toList ++ behind) =
        ⟨name.toList, false, 0 + byteLength name.toList, behind⟩ := by
      refine wordRest_append _ _ ?_ ?_ _ _ ?_
      · rw [cut]
        exact List.forall_mem_cons.mpr ⟨by decide, part⟩
      · rintro c ⟨⟩
        decide
      · have := Text.length_le_byteLength name.toList
        omega
    have first : lexeme (size + 1) 0 ('t' :: (rest ++ behind)) =
        ⟨.word name false, ⟨0, byteLength name.toList⟩, false, behind⟩ := by
      have gap : lexeme (size + 1) 0 ('t' :: (rest ++ behind)) =
          word (size + 1) ⟨false, 0, 't' :: (rest ++ behind)⟩ := rfl
      rw [gap, word, ← List.cons_append, ← cut, read, String.ofList_toList, Nat.zero_add]
    have initial : State.initial dialect (withoutMark ('t' :: (rest ++ behind))) =
        { s with
          token := (lexeme (size + 1) 0 ('t' :: (rest ++ behind))).token
          span := (lexeme (size + 1) 0 ('t' :: (rest ++ behind))).span
          following := (lexeme (size + 1) 0 ('t' :: (rest ++ behind))).rest } := rfl
    rw [text, initial, first]
  have word : s.token = .word name false := rfl
  obtain ⟨ready, ends, stop, inner⟩ := State.reads_call word free line rfl total
  have deep : depthFor s.size = 8 * size + 54 + 10 := rfl
  rw [readModule, start]
  simp only [deep, moduleRule_of_statement (Statements.statement_call (8 * size + 54) ready ends)
    (by simp [s]) ends, State.statementHere, State.callHere, stop, inner]
  rfl

end Phrasebook.Syntax
