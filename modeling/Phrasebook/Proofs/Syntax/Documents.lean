import Phrasebook.Proofs.Syntax.Calls
import Phrasebook.Proofs.Syntax.Lexemes

/-!
# Documents that are read as modules

A document is an array or an object in JSON. Read as a module, an array is one expression, and an
object is a block, which is read to its end only if it is empty. Such a module declares nothing.

The rules of the grammar are followed along the reader of documents: in front of a text that starts
with a value, the rule for an assignment takes that value and stops in front of what is behind it.
-/

namespace Phrasebook.Syntax

open Json (skipBlanks)
open Text (byteLength)

/-! ## States in front of a text -/

theorem length_skipBlanks_le (text : List Char) : (skipBlanks text).length ≤ text.length :=
  (List.dropWhile_suffix _).length_le

/-- The blanks of a document are passed over. -/
theorem skipGap_skipBlanks {text rest : List Char} {kind : Token → Prop}
    (first : Lexes (skipBlanks text) kind rest) (newline : Bool) (offset : Nat) :
    ∃ newline' offset', skipGap .blanks newline offset text =
      ⟨newline', offset', skipBlanks text⟩ ∧
        offset' + byteLength (skipBlanks text) = offset + byteLength text := by
  induction text generalizing newline offset with
  | nil => exact ⟨newline, offset, rfl, rfl⟩
  | cons c text ih =>
    by_cases blank : Json.isBlank c = true
    · have same : skipBlanks (c :: text) = skipBlanks text := List.dropWhile_cons_of_pos blank
      rw [same] at first ⊢
      obtain ⟨passed, step⟩ : ∃ passed, skipGap .blanks newline offset (c :: text) =
          skipGap .blanks passed (offset + c.utf8Size) text := by
        simp only [Json.isBlank, Bool.or_eq_true, beq_iff_eq] at blank
        rcases blank with ((rfl | rfl) | rfl) | rfl
        all_goals exact ⟨_, rfl⟩
      rw [step, Text.byteLength_cons, ← Nat.add_assoc]
      exact ih first passed (offset + c.utf8Size)
    · have same : skipBlanks (c :: text) = c :: text := List.dropWhile_cons_of_neg blank
      rw [same] at first ⊢
      exact ⟨newline, offset, first.gap newline offset, rfl⟩

/-- The current token of a state is the first one of a text, which goes on to the end. -/
def State.At (s : State) (text : List Char) : Prop :=
  ∃ offset newline, s.size = offset + byteLength text ∧
    lexeme (byteLength text + 1) offset text = ⟨s.token, s.span, newline, s.following⟩

namespace State.At

variable {s : State} {text rest : List Char} {kind : Token → Prop}

theorem token (here : s.At text) (first : Lexes (skipBlanks text) kind rest) : kind s.token ∧
    s.size = s.span.start + byteLength (skipBlanks text) ∧ (s.move s.next).At rest := by
  obtain ⟨offset, newline, size, read⟩ := here
  obtain ⟨newline', offset', gap, bytes⟩ := skipGap_skipBlanks first false offset
  have enough : (skipBlanks text).length < byteLength text + 1 :=
    Nat.lt_succ_of_le ((length_skipBlanks_le text).trans (Text.length_le_byteLength text))
  obtain ⟨token, stop, known, found, bytes'⟩ := first.token _ newline' offset' enough
  rw [lexeme, gap, found] at read
  simp only [Lexeme.mk.injEq] at read
  obtain ⟨rfl, span, -, following⟩ := read
  have start : s.span.start = offset' := by rw [← span]
  have behind : s.size = s.span.stop + byteLength s.following := by
    rw [← span, ← following, size, bytes', ← bytes]
  refine ⟨known, by rw [start, size, bytes], s.span.stop, s.next.newline, following ▸ behind, ?_⟩
  have fuel : s.size - s.span.stop = byteLength rest := by
    rw [behind, ← following, Nat.add_sub_cancel_left]
  rw [← fuel, following]
  rfl

theorem mark {c : Char} (sign : String) (here : s.At text) (blanks : skipBlanks text = c :: rest)
    (known : (c, sign) ∈ marks) : s.token = .sign sign ∧
      s.size = s.span.start + byteLength (skipBlanks text) ∧ (s.move s.next).At rest :=
  here.token (blanks ▸ lexes_mark known rest)

end State.At

/-- What stands behind a value in a document: the document's end, or the list that the value is in
goes on or ends. -/
def IsClosed (rest : List Char) : Prop :=
  skipBlanks rest = [] ∨ ∃ c behind, skipBlanks rest = c :: behind ∧ c ∈ [',', ']', '\x7d']

theorem IsClosed.isBehind {rest : List Char} (closed : IsClosed rest) : IsBehind rest := by
  intro c first
  obtain ⟨behind, rfl⟩ := List.head?_eq_some_iff.mp first
  by_cases blank : Json.isBlank c = true
  · simp only [Json.isBlank, Bool.or_eq_true, beq_iff_eq] at blank
    rcases blank with ((rfl | rfl) | rfl) | rfl <;> simp [behindValues]
  · have same : skipBlanks (c :: behind) = c :: behind := List.dropWhile_cons_of_neg blank
    rw [IsClosed, same] at closed
    rcases closed with none | ⟨d, later, whole, known⟩
    · cases none
    · cases whole
      simp only [List.mem_cons, List.not_mem_nil, or_false] at known
      rcases known with rfl | rfl | rfl <;> simp [behindValues]

theorem State.At.closes {s : State} {rest : List Char} (here : s.At rest)
    (closed : IsClosed rest) : s.token.Closes := by
  rcases closed with none | ⟨c, behind, blanks, known⟩
  · exact Token.closes_of_endOfText (here.token (none ▸ lexes_end)).1
  · simp only [List.mem_cons, List.not_mem_nil, or_false] at known
    unfold Token.Closes
    rcases known with rfl | rfl | rfl
    · simp [(here.mark "," blanks (by decide)).1]
    · simp [(here.mark "]" blanks (by decide)).1]
    · simp [(here.mark "\x7d" blanks (by decide)).1]

/-! ## Lists -/

open Rule

/-- A rule takes what stands in front of a text, and a value starts there. -/
structure Rule.Takes (rule : Rule Tree) (text rest : List Char) (s : State) : Prop where
  starts : s.token.Starts ∨ s.token = .sign "-"
  size : s.size = s.span.start + byteLength (skipBlanks text)
  read : ∃ t s', rule s = .ok t s' ∧ s'.At rest

theorem Rule.Takes.ne {rule : Rule Tree} {text rest : List Char} {s : State}
    (takes : rule.Takes text rest s) {sign : String} (other : sign ∉ ["[", "\x7b", "-"]) :
    s.token ≠ .sign sign := by
  simp only [List.mem_cons, List.not_mem_nil, or_false, not_or] at other
  rcases takes.starts with (⟨_, token⟩ | token | token | token | ⟨_, token, -⟩) | token <;>
    simp [token, Ne.symm, other, eq_comm]

/-- A rule for the next place of a list: it yields nothing at the closing sign, and elsewhere an item
with the comma behind it. -/
structure Rule.IsListOf (rule : Rule (Option Tree)) (item : Rule Tree) (sign : String) : Prop where
  ends : ∀ s, s.token = .sign sign → rule s = .ok none s
  goes : ∀ s, s.token ≠ .sign sign → s.token ≠ .sign "," → rule s = (do
    let a ← item
    if !(← isSign sign) then expect ","
    return some a : Rule (Option Tree)) s

/-- The marks that close a list. -/
theorem closing_of_mem {c : Char} {sign : String}
    (known : (c, sign) ∈ [(']', "]"), ('\x7d', "\x7d")]) :
    c ∈ [',', ']', '\x7d'] ∧ sign ∉ ["[", "\x7b", "-"] ∧ (c, sign) ∈ marks ∧ sign ≠ "," := by
  simp only [List.mem_cons, Prod.mk.injEq, List.not_mem_nil, or_false] at known
  rcases known with ⟨rfl, rfl⟩ | ⟨rfl, rfl⟩ <;> simp [marks]

theorem isClosed_of_moreParts {α : Type} {part : Json.Step α} {c : Char} {fuel : Nat}
    {text rest : List Char} {others : List α} (closing : c ∈ [',', ']', '\x7d'])
    (read : Json.moreParts c part fuel text = .ok (others, rest)) : IsClosed text := by
  cases fuel with
  | zero => cases read
  | succ fuel =>
    rw [Json.moreParts] at read
    split at read
    next => cases read
    next d behind blanks =>
      split at read
      next same => exact Or.inr ⟨d, behind, blanks, same ▸ closing⟩
      next =>
        split at read
        next comma => exact Or.inr ⟨d, behind, blanks, comma ▸ List.mem_cons_self⟩
        next => cases read

section

variable {α : Type} {rule : Rule (Option Tree)} {item : Rule Tree} {c : Char} {sign : String}
  {part : Json.Step α} {most : Nat}
  (known : (c, sign) ∈ [(']', "]"), ('\x7d', "\x7d")]) (list : rule.IsListOf item sign)
  (shorter : ∀ text a rest, part text = .ok (a, rest) → rest.length ≤ (skipBlanks text).length)
  (takes : ∀ text a rest, part text = .ok (a, rest) → IsClosed rest → text.length ≤ most →
    ∀ s : State, s.At text → item.Takes text rest s)

include known list shorter takes

/-- The parts of a document's list from one of them on are read to the closing mark. -/
theorem collect_go_moreParts (fuel : Nat) {text mid rest : List Char} {a : α} {others : List α}
    {s : State} {n : Nat} (first : part text = .ok (a, mid))
    (more : Json.moreParts c part fuel mid = .ok (others, rest)) (bound : text.length ≤ most)
    (here : s.At text) (enough : mid.length + 2 ≤ n) :
    ∃ ts s', collect.go rule n s = .ok ts s' ∧ s'.token = .sign sign ∧
      (s'.move s'.next).At rest := by
  induction fuel generalizing text mid a others s n with
  | zero => cases more
  | succ fuel ih =>
    obtain ⟨n, rfl⟩ : ∃ less, n = less + 2 := ⟨n - 2, by omega⟩
    obtain ⟨closing, inner, mark, other⟩ := closing_of_mem known
    have taken := takes text a mid first (isClosed_of_moreParts closing more) bound s here
    obtain ⟨t, s', read, there⟩ := taken.read
    have goes := list.goes s (taken.ne inner) (taken.ne (by decide))
    rw [Json.moreParts] at more
    split at more
    next => cases more
    next d behind blanks =>
      split at more
      next same =>
        -- The list ends behind this part.
        subst same
        cases more
        obtain ⟨token, -, next⟩ := there.mark sign blanks mark
        refine ⟨[t], s', ?_, token, next⟩
        simp [collect.go, goes, read, token, list.ends s' token]
      next =>
        split at more
        next comma =>
          subst comma
          obtain ⟨⟨b, later⟩, second, more⟩ := bind_eq_ok_iff.mp more
          obtain ⟨⟨others, last⟩, more, same⟩ := bind_eq_ok_iff.mp more
          cases same
          obtain ⟨token, -, next⟩ := there.mark "," blanks (by decide)
          have step : rule s = .ok (some t) (s'.move s'.next) := by
            have passed : expect "," s' = .ok () (s'.move s'.next) := expect_apply token
            simp [goes, read, token, passed, Ne.symm other]
          have taken : behind.length < mid.length := by
            have whole := congrArg List.length blanks
            have part := length_skipBlanks_le mid
            rw [List.length_cons] at whole
            omega
          have front := (shorter _ _ _ first).trans (length_skipBlanks_le text)
          have back := (shorter _ _ _ second).trans (length_skipBlanks_le behind)
          obtain ⟨ts, s'', rest, ends⟩ := ih second more (by omega) next (n := n + 1) (by omega)
          refine ⟨t :: ts, s'', ?_, ends⟩
          rw [collect.go, bind_apply, step]
          simp only [bind_apply, rest, pure_apply]
        next => cases more

/-- A list of a document is read to its closing mark. -/
theorem collect_partsBody {text rest : List Char} {parts : List α} {s : State}
    (read : Json.partsBody c part text = .ok (parts, rest)) (bound : text.length ≤ most)
    (here : s.At text) :
    ∃ ts s', collect rule s = .ok ts s' ∧ s'.token = .sign sign ∧ (s'.move s'.next).At rest := by
  unfold Json.partsBody at read
  split at read
  next closed =>
    obtain ⟨behind, blanks⟩ := List.head?_eq_some_iff.mp closed
    rw [blanks, List.tail_cons] at read
    cases read
    obtain ⟨token, -, next⟩ := here.mark sign blanks (closing_of_mem known).2.2.1
    exact ⟨[], s, collect_none (list.ends s token), token, next⟩
  next =>
    obtain ⟨⟨a, mid⟩, first, read⟩ := bind_eq_ok_iff.mp read
    obtain ⟨⟨others, last⟩, more, same⟩ := bind_eq_ok_iff.mp read
    cases same
    have closed := isClosed_of_moreParts (closing_of_mem known).1 more
    have size := (takes text a mid first closed bound s here).size
    rw [collect, bind_apply, remaining_apply]
    refine collect_go_moreParts known list shorter takes _ first more bound here ?_
    have front := shorter _ _ _ first
    have bytes := Text.length_le_byteLength (skipBlanks text)
    omega

end

/-! ## Arrays and objects -/

namespace Objects

variable (g : Grammar)

/-- The next place of an array. -/
def place : Rule (Option Tree) := do
  if ← isSign "]" then return none
  let place ← currentStart
  if ← eat "," then return some (← node .hole place [])
  let item ← Arguments.item g
  if !(← isSign "]") then expect ","
  return some item

/-- The next place of an object. -/
def memberPlace : Rule (Option Tree) := do
  if ← isSign "\x7d" then return none
  let member ← property g
  if !(← isSign "\x7d") then expect ","
  return some member

theorem isListOf_place : (place g).IsListOf (Arguments.item g) "]" where
  ends s closing := by simp [place, closing]
  goes s other noComma := by
    have noHole : eat "," s = .ok false s := by simp [eat, noComma]
    simp [place, other, noHole]

theorem isListOf_memberPlace : (memberPlace g).IsListOf (property g) "\x7d" where
  ends s closing := by simp [memberPlace, closing]
  goes s other _ := by simp [memberPlace, other]

section

variable {g} {value : Json.Step Json} {most : Nat}
  (shorter : ∀ text a rest, value text = .ok (a, rest) → rest.length ≤ (skipBlanks text).length)
  (takes : ∀ text a rest, value text = .ok (a, rest) → IsClosed rest → text.length ≤ most →
    ∀ s : State, s.At text → g.assignment.Takes text rest s)

include shorter takes

/-- An array of a document is an array here. -/
theorem array_of_arrayBody {behind rest : List Char} {items : List Json} {s : State}
    (read : Json.arrayBody value behind = .ok (items, rest)) (bound : behind.length ≤ most)
    (token : s.token = .sign "[") (next : (s.move s.next).At behind) :
    ∃ span children s', array g s = .ok (.node .array span children) s' ∧ s'.At rest := by
  rw [Json.arrayBody_eq] at read
  have items : ∀ text a rest, value text = .ok (a, rest) → IsClosed rest → text.length ≤ most →
      ∀ s : State, s.At text → (Arguments.item g).Takes text rest s := by
    intro text a rest read closed bound s here
    let inside := s.inContext { s.context with inOperator := true }
    have taken := takes text a rest read closed bound inside here
    obtain ⟨t, s', read, there⟩ := taken.read
    refine ⟨taken.starts, taken.size, t, s'.inContext s.context, ?_, there⟩
    have allowed := within_apply (fun c => { c with inOperator := true }) _ read
    have noSpread : eat "..." s = .ok false s := by
      have other : s.token ≠ .sign "..." := taken.ne (by decide)
      simp [eat, other]
    simp only [Arguments.item, bind_apply, currentStart_apply, noSpread]
    exact allowed
  obtain ⟨ts, s', found, closing, there⟩ :=
    collect_partsBody (by decide) (isListOf_place g) shorter items read bound next
  have opened : expect "[" s = .ok () (s.move s.next) := expect_apply token
  have closed : expect "]" s' = .ok () (s'.move s'.next) := expect_apply closing
  refine ⟨⟨s.span.start, s'.span.stop⟩, ts, s'.move s'.next, ?_, there⟩
  rw [place] at found
  simp only [array, bind_apply, currentStart_apply, opened, found, closed]
  rfl

omit shorter in
/-- The name and the value of a member are a property here. -/
theorem property_of_memberPart (text : List Char) (member : String × Json) (rest : List Char)
    (read : Json.memberPart value text = .ok (member, rest)) (closed : IsClosed rest)
    (bound : text.length ≤ most) (s : State) (here : s.At text) :
    (property g).Takes text rest s := by
  obtain ⟨behind, between, later, blanks, quote, colon, inner⟩ := Json.memberPart_cases read
  obtain ⟨⟨known, string⟩, size, next⟩ := here.token (blanks ▸ lexes_string quote)
  obtain ⟨mark, -, next'⟩ := next.mark ":" colon (by decide)
  have short : later.length ≤ most := by
    have taken := congrArg List.length blanks
    have string := (Json.quoted_linedTo quote).length_le
    have taken' := congrArg List.length colon
    have blank := length_skipBlanks_le text
    have blank' := length_skipBlanks_le between
    simp only [List.length_cons] at taken string taken'
    omega
  let named := s.move s.next
  obtain ⟨t, s', assigned, there⟩ :=
    (takes later member.2 rest inner closed short (named.move named.next) next').read
  let name : Tree := .node (.propertyName none) s.span [.node (.stringLiteral known) s.span []]
  have unspread : eat "..." s = .ok false s := by simp [eat, string]
  have plain : eat "*" s = .ok false s := by simp [eat, string]
  have unmodified : skipParameterModifier s = .ok () s := by simp [skipParameterModifier, string]
  have read : Patterns.propertyName g s = .ok name named := by
    have bumped : bump s = .ok () named := bump_apply (by simp [string])
    have literal : stringLiteral s = .ok (.node (.stringLiteral known) s.span []) named := by
      simp only [stringLiteral, bind_apply, currentStart_apply, get_apply, string, bumped]
      rfl
    simp only [Patterns.propertyName, bind_apply, currentStart_apply, get_apply, string, literal]
    rfl
  have separated : eat ":" named = .ok true (named.move named.next) := by
    have passed : bump named = .ok () (named.move named.next) := bump_apply (by rw [mark]; simp)
    have colon : (named.token == .sign ":") = true := by rw [mark]; rfl
    simp only [eat, bind_apply, isSign_apply, colon, if_true, passed, pure_apply]
  refine ⟨Or.inl (Or.inl ⟨known, string⟩), size, .node .property ⟨s.span.start, s'.previousStop⟩
    [name, t], s', ?_, there⟩
  simp [property, unspread, plain, unmodified, read, separated, assigned]

/-- An object of a document is an object here. -/
theorem object_of_objectBody {behind rest : List Char} {members : List (String × Json)} {s : State}
    (read : Json.objectBody value behind = .ok (members, rest)) (bound : behind.length ≤ most)
    (token : s.token = .sign "\x7b") (next : (s.move s.next).At behind) :
    ∃ span children s', object g s = .ok (.node .object span children) s' ∧ s'.At rest := by
  rw [Json.objectBody_eq] at read
  have shorter' (text : List Char) (member : String × Json) (rest : List Char)
      (read : Json.memberPart value text = .ok (member, rest)) :
      rest.length ≤ (skipBlanks text).length := by
    obtain ⟨behind, between, later, blanks, quote, colon, inner⟩ := Json.memberPart_cases read
    have string := (Json.quoted_linedTo quote).length_le
    have taken := congrArg List.length colon
    have item := (shorter _ _ _ inner).trans (length_skipBlanks_le later)
    have blank := length_skipBlanks_le between
    rw [blanks]
    rw [List.length_cons] at taken
    omega
  let inside := (s.move s.next).inContext { s.context with inOperator := true }
  obtain ⟨ts, s', found, closing, there⟩ := collect_partsBody (s := inside) (by decide)
    (isListOf_memberPlace g) shorter' (property_of_memberPart takes) read bound next
  let last := s'.inContext s.context
  have opened : expect "\x7b" s = .ok () (s.move s.next) := expect_apply token
  have listed : allowingIn (commaList "\x7d" (property g)) (s.move s.next) = .ok ts last :=
    within_apply (fun c => { c with inOperator := true }) s' found
  have closed : expect "\x7d" last = .ok () (last.move last.next) := expect_apply closing
  refine ⟨⟨s.span.start, s'.span.stop⟩, ts, last.move last.next, ?_, there⟩
  simp only [object, bind_apply, currentStart_apply, opened, listed, closed]
  rfl

end

end Objects

/-! ## Values -/

/-- What is read of a value is no longer than the text behind its blanks. -/
theorem length_le_of_writtenValue {depth : Nat} (text : List Char) (j : Json) (rest : List Char)
    (read : Json.writtenValue (depth + 1) text = .ok (j, rest)) :
    rest.length ≤ (skipBlanks text).length := by
  have same : Json.writtenValue (depth + 1) (skipBlanks text) =
      Json.writtenValue (depth + 1) text := by
    have twice : skipBlanks (skipBlanks text) = skipBlanks text := List.dropWhile_idempotent _ _
    rw [Json.writtenValue.eq_def, Json.writtenValue.eq_def _ text]
    simp only [twice]
  exact (Json.writtenValue_nests (fun _ _ _ _ _ => trivial) depth _ j rest
    (same.trans read)).1.length_le

/-- Tokens that are whole values. -/
def Token.IsLiteral (t : Token) : Prop :=
  (∃ value, t = .string value) ∨ t = .number ∨
    ∃ word, t = .word word false ∧ word ∈ ["null", "true", "false"]

theorem Token.IsLiteral.starts {t : Token} (literal : t.IsLiteral) : t.Starts := by
  rcases literal with string | number | ⟨word, here, known⟩
  · exact Or.inl string
  · exact Or.inr (Or.inl number)
  · have plain : ∀ word ∈ ["null", "true", "false"], word ∉ leadingWords := by decide
    exact Or.inr (Or.inr (Or.inr (Or.inr ⟨word, here, plain word known⟩)))

/-- The literal at a state is an operand. -/
theorem Operands.operand_literal (g : Grammar) {s : State} (literal : s.token.IsLiteral)
    (closes : s.next.token.Closes) :
    ∃ t, operand g s = .ok t (s.move s.next) ∧ t.kind.isPlain = true := by
  have bumped : bump s = .ok () (s.move s.next) := by
    refine bump_apply fun fault => ?_
    rcases literal with ⟨value, token⟩ | token | ⟨word, token, -⟩ <;> simp [token]
  have read : Rule.literal s = .ok (.node .literal s.span []) (s.move s.next) := by
    simp only [Rule.literal, bind_apply, currentStart_apply, bumped]
    rfl
  rcases literal with ⟨value, token⟩ | token | ⟨word, token, known⟩
  · exact ⟨_, operand_string token closes, rfl⟩
  · have first : primary g s = .ok (.node .literal s.span []) (s.move s.next) := by
      simp [primary, token, read]
    exact ⟨_, operand_of_primary (Or.inr (Or.inl token)) first rfl closes, rfl⟩
  · have first : primary g s = .ok (.node .literal s.span []) (s.move s.next) := by
      simp only [List.mem_cons, List.not_mem_nil, or_false] at known
      rcases known with rfl | rfl | rfl <;> simp [primary, wordOperand, async?, token, read]
    exact ⟨_, operand_of_primary (Token.IsLiteral.starts (Or.inr (Or.inr ⟨word, token, known⟩)))
      first rfl closes, rfl⟩

namespace Operators

/-- A value that holds no further values is an assignment. -/
theorem assignment_of_isScalar {text rest : List Char} {j : Json}
    (scalar : Json.IsScalar (skipBlanks text) j rest) (closed : IsClosed rest) (depth : Nat)
    {s : State}
    (here : s.At text) : (assignment (Grammar.ofDepth (depth + 4))).Takes text rest s := by
  have alone (first : Lexes (skipBlanks text) Token.IsLiteral rest) :
      (assignment (Grammar.ofDepth (depth + 4))).Takes text rest s := by
    obtain ⟨literal, size, next⟩ := here.token first
    obtain ⟨t, read, plain⟩ := Operands.operand_literal (Grammar.ofDepth (depth + 1))
      (s := s.opened) literal (next.closes closed)
    exact ⟨Or.inl literal.starts, size, t, _,
      assignment_of_operand literal.starts read plain (next.closes closed), next⟩
  have word (chars : List Char) (known : chars ∈ valueWords)
      (whole : skipBlanks text = chars ++ rest) :
      (assignment (Grammar.ofDepth (depth + 4))).Takes text rest s := by
    refine alone (whole ▸ (lexes_word known closed.isBehind).imp ?_)
    simp only [valueWords, List.mem_cons, List.not_mem_nil, or_false] at known
    rintro t rfl
    rcases known with rfl | rfl | rfl
    all_goals exact Or.inr (Or.inr ⟨_, rfl, by decide⟩)
  generalize front : skipBlanks text = shown at scalar
  cases scalar with
  | null => exact word ['n', 'u', 'l', 'l'] (by simp [valueWords]) front
  | true => exact word ['t', 'r', 'u', 'e'] (by simp [valueWords]) front
  | false => exact word ['f', 'a', 'l', 's', 'e'] (by simp [valueWords]) front
  | string read => exact alone (front ▸ (lexes_string read).imp fun t => Or.inl)
  | positive read =>
    exact alone (front ▸ (lexes_number read closed.isBehind).imp fun t number =>
      Or.inr (Or.inl number))
  | negative read =>
    -- The sign is read with the number behind it.
    rename_i behind n
    obtain ⟨c, more, rfl, digit⟩ := (numberRest_of_unsigned read closed.isBehind).2
    obtain ⟨minus, size, next⟩ := here.token (front ▸ lexes_minus rfl digit)
    have same : skipBlanks (c :: more) = c :: more := by
      refine List.dropWhile_cons_of_neg fun blank => ?_
      simp only [Json.isBlank, Bool.or_eq_true, beq_iff_eq] at blank
      rcases blank with ((rfl | rfl) | rfl) | rfl <;> cases digit
    obtain ⟨number, -, last⟩ := next.token (same.symm ▸ lexes_number read closed.isBehind)
    let inside := s.opened.move s.opened.next
    obtain ⟨t, operand, plain⟩ := Operands.operand_literal (Grammar.ofDepth depth) (s := inside)
      (Or.inr (Or.inl number)) (last.closes closed)
    have magnitude : (Grammar.ofDepth (depth + 2)).unary inside = .ok t (inside.move inside.next) :=
      unary_of_operand (Or.inr (Or.inl number)) operand plain (last.closes closed)
    have signed : unary (Grammar.ofDepth (depth + 2)) s.opened =
        .ok (.node .unary ⟨s.span.start, inside.span.stop⟩ [t]) (inside.move inside.next) := by
      have token : s.opened.token = .sign "-" := minus
      have bumped : bump s.opened = .ok () inside := bump_apply (by rw [token]; simp)
      simp only [unary, bind_apply, get_apply, token, Operators.signed, bumped, currentStart_apply,
        recover, magnitude]
      rfl
    exact ⟨Or.inr minus, front ▸ size, _, _,
      assignment_of_unary (Or.inr minus) signed rfl (last.closes closed), last⟩

/-- An array of a document is an assignment, if its items are. -/
theorem assignment_of_array {depth most : Nat} {value : Json.Step Json}
    (shorter : ∀ text a rest, value text = .ok (a, rest) → rest.length ≤ (skipBlanks text).length)
    (takes : ∀ text a rest, value text = .ok (a, rest) → IsClosed rest → text.length ≤ most →
      ∀ s : State, s.At text → (assignment (Grammar.ofDepth depth)).Takes text rest s)
    {text behind rest : List Char} {items : List Json} (blanks : skipBlanks text = '[' :: behind)
    (read : Json.arrayBody value behind = .ok (items, rest)) (bound : behind.length ≤ most)
    (closed : IsClosed rest) {s : State} (here : s.At text) :
    s.token = .sign "[" ∧ s.size = s.span.start + byteLength (skipBlanks text) ∧
      ∃ span children s', assignment (Grammar.ofDepth (depth + 4)) s =
        .ok (.node .array span children) s' ∧ s'.At rest := by
  obtain ⟨token, size, next⟩ := here.mark "[" blanks (by decide)
  let inside := s.opened.inContext { s.context with colonAhead := false }
  obtain ⟨span, children, s', array, there⟩ := Objects.array_of_arrayBody (s := inside)
    (g := Grammar.ofDepth (depth + 1)) shorter takes read bound token next
  have primary : Operands.primary (Grammar.ofDepth (depth + 1)) s.opened =
      .ok (.node .array span children) (s'.inContext s.context) := by
    have opened : s.opened.token = .sign "[" := token
    have allowed := within_apply (fun c => { c with colonAhead := false }) s' array
    simp only [Operands.primary, bind_apply, get_apply, opened]
    exact allowed
  have starts : s.opened.token.Starts := Or.inr (Or.inr (Or.inl token))
  have last : (s'.inContext s.context).At rest := there
  exact ⟨token, size, span, children, _, assignment_of_operand starts
    (Operands.operand_of_primary starts primary rfl (last.closes closed)) rfl (last.closes closed),
    last⟩

/-- An object of a document is an assignment, if the values of its members are. -/
theorem assignment_of_object {depth most : Nat} {value : Json.Step Json}
    (shorter : ∀ text a rest, value text = .ok (a, rest) → rest.length ≤ (skipBlanks text).length)
    (takes : ∀ text a rest, value text = .ok (a, rest) → IsClosed rest → text.length ≤ most →
      ∀ s : State, s.At text → (assignment (Grammar.ofDepth depth)).Takes text rest s)
    {text behind rest : List Char} {members : List (String × Json)}
    (blanks : skipBlanks text = '\x7b' :: behind)
    (read : Json.objectBody value behind = .ok (members, rest)) (bound : behind.length ≤ most)
    (closed : IsClosed rest) {s : State} (here : s.At text) :
    (assignment (Grammar.ofDepth (depth + 4))).Takes text rest s := by
  obtain ⟨token, size, next⟩ := here.mark "\x7b" blanks (by decide)
  obtain ⟨span, children, s', object, there⟩ := Objects.object_of_objectBody (s := s.opened)
    (g := Grammar.ofDepth (depth + 1)) shorter takes read bound token next
  have primary : Operands.primary (Grammar.ofDepth (depth + 1)) s.opened =
      .ok (.node .object span children) s' := by
    have opened : s.opened.token = .sign "\x7b" := token
    simp only [Operands.primary, bind_apply, get_apply, opened]
    exact object
  have starts : s.opened.token.Starts := Or.inr (Or.inr (Or.inr (Or.inl token)))
  exact ⟨Or.inl starts, size, _, s', assignment_of_operand starts
    (Operands.operand_of_primary starts primary rfl (there.closes closed)) rfl
    (there.closes closed), there⟩

/-- A value of a document is an assignment. -/
theorem assignment_of_writtenValue (nesting : Nat) (text : List Char) (j : Json) (rest : List Char)
    (read : Json.writtenValue (nesting + 1) text = .ok (j, rest)) (closed : IsClosed rest)
    {depth : Nat} (deep : 4 * text.length + 4 ≤ depth) (s : State) (here : s.At text) :
    (assignment (Grammar.ofDepth depth)).Takes text rest s := by
  obtain ⟨depth, rfl⟩ : ∃ less, depth = less + 4 := ⟨depth - 4, by omega⟩
  induction nesting generalizing text j rest depth s with
  | zero =>
    rcases Json.writtenValue_cases read with ⟨_, _, deep, -⟩ | ⟨_, _, deep, -⟩ | scalar
    · exact absurd rfl deep
    · exact absurd rfl deep
    · exact assignment_of_isScalar scalar closed depth here
  | succ nesting ih =>
    -- What stands in brackets is shorter, so the grammar is deep enough for it.
    have inner {c : Char} {behind : List Char} (blanks : skipBlanks text = c :: behind)
        (part : List Char) (j : Json) (rest : List Char)
        (read : Json.writtenValue (nesting + 1) part = .ok (j, rest)) (closed : IsClosed rest)
        (short : part.length ≤ behind.length) (s : State) (here : s.At part) :
        (assignment (Grammar.ofDepth depth)).Takes part rest s := by
      have whole := congrArg List.length blanks
      have front := length_skipBlanks_le text
      rw [List.length_cons] at whole
      obtain ⟨less, rfl⟩ : ∃ less, depth = less + 4 := ⟨depth - 4, by omega⟩
      exact ih part j rest read closed s here less (by omega)
    rcases Json.writtenValue_cases read with ⟨behind, items, -, -, blanks, body⟩ |
      ⟨behind, members, -, -, blanks, body⟩ | scalar
    · obtain ⟨token, size, span, children, s', found⟩ := assignment_of_array
        length_le_of_writtenValue (inner blanks) blanks body (Nat.le_refl _) closed here
      exact ⟨Or.inl (Or.inr (Or.inr (Or.inl token))), size, _, s', found⟩
    · exact assignment_of_object length_le_of_writtenValue (inner blanks) blanks body
        (Nat.le_refl _) closed here
    · exact assignment_of_isScalar scalar closed depth here

end Operators

/-! ## Documents -/

namespace Statements

variable {s : State}

/-- Where no word stands, a statement is a block, or it starts with an expression. -/
theorem statement_of_noWord (g : Grammar) (declarations top : Bool)
    (noWord : ∀ text escaped, s.token ≠ .word text escaped)
    (others : s.token ≠ .sign "@" ∧ s.token ≠ .sign ";") :
    statement g declarations top s =
      if s.token = .sign "\x7b" then Functions.block g s else ofExpression g [] s := by
  have undecorated : Arguments.decorators g s = .ok [] s := collect_none (by simp [others.1])
  have noConstant : Declarations.atConstantEnumeration s = .ok false s := by
    simp [Declarations.atConstantEnumeration, peekIsWord, noWord]
  have noInterface : atModifiedInterface s = .ok false s := by
    simp [atModifiedInterface, word?]
  have noVariables : Variables.atKeyword s = .ok false s := by simp [Variables.atKeyword, noWord]
  have noResources : Variables.atResources s = .ok false s := by
    simp [Variables.atResources, Variables.atUsing, noWord]
  have noFunction : Functions.atAsyncFunction s = .ok false s := by
    simp [Functions.atAsyncFunction, noWord]
  by_cases brace : s.token = .sign "\x7b"
  · simp [statement, undecorated, noConstant, noInterface, noVariables, noResources, noFunction,
      brace]
  · simp [statement, undecorated, noConstant, noInterface, noVariables, noResources, noFunction,
      noWord, brace, others]

end Statements

/-- A valid token is refused where it stands. -/
theorem Rule.fail_apply {α : Type} (cause : Cause) {s : State}
    (valid : ∀ fault stuck, s.token ≠ .invalid fault stuck) :
    (fail cause : Rule α) s = .error ⟨s.span.start, cause⟩ s := by
  simp only [fail, bind_apply, get_apply]
  rfl

theorem Rule.within_error {α : Type} (change : Context → Context) {rule : Rule α} {s : State}
    {fault : Fault} (s' : State)
    (failed : rule (s.inContext (change s.context)) = .error fault s') :
    within change rule s = .error fault (s'.inContext s.context) := by
  rw [State.inContext] at failed
  rw [within, failed, State.inContext]

/-- A rule yields nothing. -/
def Rule.Fails {α : Type} (rule : Rule α) (s : State) : Prop := ∃ fault s', rule s = .error fault s'

namespace Operators

variable {s : State}

/-- No expression starts with a colon. -/
theorem assignment_colon (depth : Nat) (colon : s.token = .sign ":") :
    (assignment (Grammar.ofDepth (depth + 3))).Fails s := by
  have opened : s.opened.token = .sign ":" := colon
  have primary : Operands.primary (Grammar.ofDepth depth) s.opened =
      .error ⟨s.span.start, .expected "expression"⟩ s.opened := by
    have refused : (fail (.expected "expression") : Rule Tree) s.opened =
        .error ⟨s.span.start, .expected "expression"⟩ s.opened := fail_apply _ (by simp [opened])
    simp [Operands.primary, opened, refused]
  have operand : (Grammar.ofDepth (depth + 1)).operand s.opened =
      .error ⟨s.span.start, .expected "expression"⟩ s.opened := by
    have same : (Grammar.ofDepth (depth + 1)).operand s.opened =
        Operands.operand (Grammar.ofDepth depth) s.opened := rfl
    simp [same, Operands.operand, opened, Operands.uncalled, primary]
  have unary : (Grammar.ofDepth (depth + 2)).unary s.opened =
      .error ⟨s.span.start, .expected "expression"⟩ s.opened := by
    have same : (Grammar.ofDepth (depth + 2)).unary s.opened =
        Operators.unary (Grammar.ofDepth (depth + 1)) s.opened := rfl
    simp [same, Operators.unary, opened, updated, operand]
  have operation : (Grammar.ofDepth (depth + 3)).operation s.opened =
      .error ⟨s.span.start, .expected "expression"⟩ s.opened := by
    have same : (Grammar.ofDepth (depth + 3)).operation s.opened =
        Operators.operation (Grammar.ofDepth (depth + 2)) s.opened := rfl
    have none : operatorSigns.lookup ":" = none := by decide
    simp [same, Operators.operation, bind, EStateM.bind, unary, opened, atOperatorSign, none]
    rfl
  refine ⟨⟨s.span.start, .expected "expression"⟩, s.opened, ?_⟩
  obtain ⟨token, span, newline, following, previousStop, size, arrowStart, context, dialect⟩ := s
  cases colon
  simp only [State.opened] at operation ⊢
  simp [assignment, plainAssignment, isInvalid, isAnyWord, word?, conditional, operation]

end Operators

namespace Statements

variable {s : State}

theorem ofExpression_colon (depth : Nat) (colon : s.token = .sign ":") :
    (ofExpression (Grammar.ofDepth (depth + 5)) []).Fails s := by
  let inside := s.inContext { s.context with inOperator := true }
  obtain ⟨fault, s', failed⟩ := Operators.assignment_colon (s := inside) depth colon
  have expression : (Grammar.ofDepth (depth + 5)).expression inside = .error fault s' := by
    have first : (Grammar.ofDepth (depth + 4)).assignment inside = .error fault s' := failed
    have same : (Grammar.ofDepth (depth + 5)).expression inside =
        Operators.expression (Grammar.ofDepth (depth + 4)) inside := rfl
    rw [same, Operators.expression, bind_apply, first]
  have failed : allowingIn (Grammar.ofDepth (depth + 5)).expression s =
      .error fault (s'.inContext s.context) :=
    within_error (fun c => { c with inOperator := true }) s' expression
  exact ⟨fault, s'.inContext s.context, by
    simp only [ofExpression, bind_apply, currentStart_apply, failed]⟩

/-- A string with a colon behind it is no statement, or nothing follows it. -/
theorem ofExpression_string_colon (depth : Nat) {value : Option String}
    (string : s.token = .string value) (colon : s.next.token = .sign ":") :
    (ofExpression (Grammar.ofDepth (depth + 5)) []).Fails s ∨
      ∃ t s', ofExpression (Grammar.ofDepth (depth + 5)) [] s = .ok t s' ∧
        s'.token = .sign ":" := by
  let inside := s.inContext { s.context with inOperator := true }
  let last : State := { s.move s.next with arrowStart := none }
  have closes : s.next.token.Closes := by simp [Token.Closes, colon]
  have read : Operators.expression (Grammar.ofDepth (depth + 4)) inside =
      .ok (.node (.stringLiteral value) s.span []) { inside.move inside.next with arrowStart := none } :=
    Operators.expression_of_assignment (Operators.assignment_string depth string closes)
      fun comma => by simpa using (colon.symm.trans comma : Token.sign ":" = .sign ",")
  have allowed : allowingIn (Grammar.ofDepth (depth + 5)).expression s =
      .ok (.node (.stringLiteral value) s.span []) last :=
    within_apply (fun c => { c with inOperator := true }) _ read
  have token : last.token = .sign ":" := colon
  have ended : eatStatementEnd last = .ok last.newline last := by
    have plain : (Token.sign ":" == .sign ";") = false ∧ (Token.sign ":" == .sign "\x7d") = false ∧
        (Token.sign ":" == .endOfText) = false := by decide
    simp [eatStatementEnd, eat, atStatementEnd, token, plain]
  have none : operatorSigns.lookup ":" = none := by decide
  have noOperator : atOperatorSign last = .ok false last := by simp [atOperatorSign, token, none]
  have refused : (fail (.expected ";") : Rule Tree) last =
      .error ⟨last.span.start, .expected ";"⟩ last := fail_apply _ (by simp [token])
  cases line : last.newline with
  | false =>
    refine Or.inl ⟨⟨last.span.start, .expected ";"⟩, last, ?_⟩
    simp [ofExpression, allowed, Tree.kind, ended, line, noOperator, refused]
  | true =>
    refine Or.inr ⟨.node .expressionStatement ⟨s.span.start, last.previousStop⟩
      [.node (.stringLiteral value) s.span []], last, ?_, token⟩
    simp [ofExpression, allowed, Tree.kind, ended, line]

end Statements

/-- The next statement of a block. -/
def Functions.inBlock (g : Grammar) : Rule (Option Tree) := do
  if (← isSign "\x7d") || (← atEnd) then return none
  return some (← g.statement true false)

/-- A block that starts with a string and a colon is not read. -/
theorem Functions.block_fails (depth : Nat) {s : State} {value : Option String}
    (opening : s.token = .sign "\x7b") (string : s.next.token = .string value)
    (colon : (s.move s.next).next.token = .sign ":") :
    (block (Grammar.ofDepth (depth + 6))).Fails s := by
  let inside := s.move s.next
  have opened : expect "\x7b" s = .ok () inside := expect_apply opening
  have statement (s : State) (token : (∃ value, s.token = .string value) ∨ s.token = .sign ":") :
      (Grammar.ofDepth (depth + 6)).statement true false s =
        Statements.ofExpression (Grammar.ofDepth (depth + 5)) [] s := by
    have same := Statements.statement_of_noWord (s := s) (Grammar.ofDepth (depth + 5)) true false
      (by rcases token with ⟨_, token⟩ | token <;> simp [token])
      (by rcases token with ⟨_, token⟩ | token <;> simp [token])
    rw [if_neg (by rcases token with ⟨_, token⟩ | token <;> simp [token])] at same
    exact same
  have atColon (s : State) (token : s.token = .sign ":") :
      (inBlock (Grammar.ofDepth (depth + 6))).Fails s := by
    obtain ⟨fault, s', failed⟩ := Statements.ofExpression_colon depth token
    exact ⟨fault, s', by simp [inBlock, token, statement s (Or.inr token), failed]⟩
  have listed : (collect (inBlock (Grammar.ofDepth (depth + 6)))).Fails inside := by
    have token : inside.token = .string value := string
    have first := statement inside (Or.inl ⟨value, token⟩)
    rcases Statements.ofExpression_string_colon depth token colon with ⟨fault, s', failed⟩ |
      ⟨t, s', read, there⟩
    · have failed : inBlock (Grammar.ofDepth (depth + 6)) inside = .error fault s' := by
        simp [inBlock, token, first, failed]
      exact ⟨fault, s', by simp [collect, collect.go, failed]⟩
    · have read : inBlock (Grammar.ofDepth (depth + 6)) inside = .ok (some t) s' := by
        simp [inBlock, token, first, read]
      obtain ⟨fault, last, failed⟩ := atColon s' there
      exact ⟨fault, last, by simp [collect, collect.go, read, failed]⟩
  obtain ⟨fault, s', failed⟩ := listed
  refine ⟨fault, s', ?_⟩
  rw [inBlock] at failed
  simp only [block, bind_apply, currentStart_apply, opened, failed]

/-- A module is read from a text that starts with a bracket or a brace behind blanks. -/
theorem State.at_initial (dialect : Dialect) {text behind : List Char} {c : Char}
    (blanks : skipBlanks text = c :: behind) (bracket : c = '[' ∨ c = '\x7b') :
    (State.initial dialect (withoutMark text)).At text ∧
      (State.initial dialect (withoutMark text)).size = byteLength text := by
  have first : ∀ d ∈ text.head?, d ≠ '\uFEFF' ∧ d ≠ '#' := by
    intro d here
    obtain ⟨more, rfl⟩ := List.head?_eq_some_iff.mp here
    by_cases blank : Json.isBlank d = true
    · constructor <;> rintro rfl <;> cases blank
    · rw [skipBlanks, List.dropWhile_cons_of_neg blank] at blanks
      cases blanks
      rcases bracket with rfl | rfl <;> decide
  have unmarked : withoutMark text = text := by
    unfold withoutMark
    split
    next => exact absurd rfl (first _ rfl).1
    next => rfl
  have whole : skipInterpreter 0 text = (0, text) := by
    unfold skipInterpreter
    split
    next => exact absurd rfl (first _ rfl).2
    next => rfl
  rw [unmarked, State.initial, whole]
  exact ⟨⟨0, _, (Nat.zero_add _).symm, rfl⟩, rfl⟩

/-- An array at the start of a text that ends behind it is a module of one expression. -/
theorem moduleRule_array {nesting depth : Nat} {text behind rest : List Char} {items : List Json}
    (blanks : skipBlanks text = '[' :: behind)
    (body : Json.arrayBody (Json.writtenValue (nesting + 1)) behind = .ok (items, rest))
    (ends : skipBlanks rest = []) (deep : 4 * text.length + 4 ≤ depth) {s : State}
    (here : s.At text) : ∃ t span s', moduleRule (Grammar.ofDepth (depth + 7)) s =
      .ok (.node .module span [t]) s' ∧ t.kind = .expressionStatement := by
  let inside := s.inContext { s.context with inOperator := true }
  have inner (part : List Char) (j : Json) (rest : List Char)
      (read : Json.writtenValue (nesting + 1) part = .ok (j, rest)) (closed : IsClosed rest)
      (short : part.length ≤ text.length) (s : State) (here : s.At part) :
      (Operators.assignment (Grammar.ofDepth depth)).Takes part rest s :=
    Operators.assignment_of_writtenValue nesting part j rest read closed (by omega) s here
  have short : behind.length ≤ text.length := by
    have whole := congrArg List.length blanks
    have front := length_skipBlanks_le text
    rw [List.length_cons] at whole
    omega
  obtain ⟨token, -, span, children, s', assigned, there⟩ :=
    Operators.assignment_of_array (s := inside)
    length_le_of_writtenValue inner blanks body short (Or.inl ends) here
  have last : s'.token = .endOfText := (there.token (ends ▸ lexes_end)).1
  have token : s.token = .sign "[" := token
  have read := Statements.ofExpression_of_expression s'
    (Operators.expression_of_assignment assigned (by simp [last])) nofun last
  have statement : Statements.statement (Grammar.ofDepth (depth + 6)) true true s = _ :=
    (Statements.statement_of_noWord _ true true (by simp [token]) (by simp [token])).trans
      ((if_neg (by simp [token])).trans read)
  exact ⟨_, _, _, moduleRule_of_statement statement (by simp [token]) last, rfl⟩

/-- An object at the start of a text is a block if it is empty, and else is not read. -/
theorem moduleRule_object {value : Json.Step Json} {text behind rest : List Char}
    {members : List (String × Json)} (blanks : skipBlanks text = '\x7b' :: behind)
    (body : Json.objectBody value behind = .ok (members, rest)) (ends : skipBlanks rest = [])
    (depth : Nat) {s : State} (here : s.At text) :
    (∃ t span s', moduleRule (Grammar.ofDepth (depth + 7)) s = .ok (.node .module span [t]) s' ∧
      t.kind = .block) ∨ (moduleRule (Grammar.ofDepth (depth + 7))).Fails s := by
  obtain ⟨token, -, next⟩ := here.mark "\x7b" blanks (by decide)
  have statement : Statements.statement (Grammar.ofDepth (depth + 6)) true true s =
      Functions.block (Grammar.ofDepth (depth + 6)) s :=
    (Statements.statement_of_noWord _ true true (by simp [token]) (by simp [token])).trans
      (if_pos token)
  have opened : expect "\x7b" s = .ok () (s.move s.next) := expect_apply token
  rw [Json.objectBody_eq, Json.partsBody] at body
  split at body
  next closed =>
    obtain ⟨later, closing⟩ := List.head?_eq_some_iff.mp closed
    rw [closing, List.tail_cons] at body
    cases body
    obtain ⟨brace, -, last⟩ := next.mark "\x7d" closing (by decide)
    have last := (last.token (ends ▸ lexes_end)).1
    let inside := s.move s.next
    have brace : inside.token = .sign "\x7d" := brace
    have empty : collect (Functions.inBlock (Grammar.ofDepth (depth + 6))) inside =
        .ok [] inside := collect_none (by simp [Functions.inBlock, brace])
    rw [Functions.inBlock] at empty
    have passed : bump inside = .ok () (inside.move inside.next) := bump_apply (by simp [brace])
    have read : Functions.block (Grammar.ofDepth (depth + 6)) s =
        .ok (.node .block ⟨s.span.start, inside.span.stop⟩ []) (inside.move inside.next) := by
      simp only [Functions.block, bind_apply, currentStart_apply, opened]
      rw [empty]
      simp [eat, brace, passed]
      rfl
    exact Or.inl
      ⟨_, _, _, moduleRule_of_statement (statement.trans read) (by simp [token]) last, rfl⟩
  next =>
    obtain ⟨⟨member, mid⟩, first, -⟩ := bind_eq_ok_iff.mp body
    obtain ⟨_, between, later, quote, string, colon, -⟩ := Json.memberPart_cases first
    obtain ⟨⟨known, string⟩, -, next'⟩ := next.token (quote ▸ lexes_string string)
    obtain ⟨mark, -, -⟩ := next'.mark ":" colon (by decide)
    obtain ⟨fault, s', failed⟩ := Functions.block_fails depth token string mark
    have failed : (Grammar.ofDepth (depth + 7)).statement true true s = .error fault s' :=
      statement.trans failed
    refine Or.inr ⟨fault, s', ?_⟩
    simp [moduleRule, collect, collect.go, token, failed]

/-- What a document is read as: one statement that declares nothing. -/
theorem module_of_document {dialect : Dialect} {text : List Char} {j : Json} {tree : Tree}
    (document : Json.readWritten text = .ok j)
    (shape : (∃ items, j = .array items) ∨ ∃ members, j = .object members)
    (read : readModule dialect text = .ok tree) :
    ∃ t, tree.children = [t] ∧ (t.kind = .expressionStatement ∨ t.kind = .block) := by
  obtain ⟨⟨value, rest⟩, front, same⟩ := bind_eq_ok_iff.mp document
  dsimp only at same
  split at same
  next ends =>
    cases same
    have ends : skipBlanks rest = [] := List.isEmpty_iff.mp ends
    have enough : 4 * text.length + 4 ≤ 8 * byteLength text + 57 := by
      have := Text.length_le_byteLength text
      omega
    rcases Json.writtenValue_cases front with ⟨behind, items, -, rfl, blanks, body⟩ |
      ⟨behind, members, -, rfl, blanks, body⟩ | scalar
    · obtain ⟨here, size⟩ := State.at_initial dialect blanks (Or.inl rfl)
      obtain ⟨t, span, s', made, kind⟩ := moduleRule_array blanks body ends enough here
      rw [readModule, depthFor, size, made] at read
      cases read
      exact ⟨t, rfl, Or.inl kind⟩
    · obtain ⟨here, size⟩ := State.at_initial dialect blanks (Or.inr rfl)
      rw [readModule, depthFor, size] at read
      rcases moduleRule_object blanks body ends (8 * byteLength text + 57) here with
        ⟨t, span, s', made, kind⟩ | ⟨fault, s', failed⟩
      · rw [made] at read
        cases read
        exact ⟨t, rfl, Or.inr kind⟩
      · rw [failed] at read
        cases read
    · generalize skipBlanks text = shown at scalar
      rcases shape with ⟨items, rfl⟩ | ⟨members, rfl⟩ <;> cases scalar
  next => cases same

end Phrasebook.Syntax
