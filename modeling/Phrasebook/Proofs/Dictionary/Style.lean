import Phrasebook.Dictionary.Documents
import Phrasebook.Proofs.Json.Writing
import Phrasebook.Proofs.Text.Positions

/-!
# Documents keep their style

The indent that is told from a document consists of blanks that can stand between any parts of a
document. So messages that are written in the style of a document are read again, and the style is
told from what was written.
-/

namespace Phrasebook

open Json (Fits Lined Shielded isBlank deepest)

/-- An indent of blanks on one line, one at least. -/
structure Style.IsProper (s : Style) : Prop where
  blank : ∀ c ∈ s.indent, isBlank c = true
  single : '\n' ∉ s.indent
  nonempty : s.indent ≠ []

namespace Style

/-! ## What a document's style is -/

/-- An indent is the blanks in front of a name or of a closing mark. -/
theorem indentOfLine?_eq_some_iff (line indent : List Char) : indentOfLine? line = some indent ↔
    indent ≠ [] ∧ (∀ c ∈ indent, Unicode.isBlank c = true) ∧
      ∃ c rest, line = indent ++ c :: rest ∧ (c = '"' ∨ c = '\x7d' ∨ c = ']') := by
  constructor
  · intro found
    have whole := List.takeWhile_append_dropWhile (p := Unicode.isBlank) (l := line)
    have blank : ∀ c ∈ line.takeWhile Unicode.isBlank, Unicode.isBlank c = true :=
      List.all_eq_true.mp List.all_takeWhile
    unfold indentOfLine? Text.trimStart at found
    generalize line.takeWhile Unicode.isBlank = front at whole blank
    split at found
    next c rest trimmed =>
      rw [trimmed] at whole
      split at found
      next mark =>
        have taken : line.take (line.length - (rest.length + 1)) = front := by
          rw [← whole]
          simp
        simp only [taken] at found
        split at found
        next => cases found
        next nonempty =>
          cases found
          exact ⟨by simpa using nonempty, blank, c, rest, whole.symm,
            by simpa [or_assoc] using mark⟩
      next => cases found
    next => cases found
  · rintro ⟨nonempty, blank, c, rest, rfl, mark⟩
    have visible : ¬ Unicode.isBlank c = true := by
      rcases mark with rfl | rfl | rfl <;> decide
    have trimmed : Text.trimStart (indent ++ c :: rest) = c :: rest := by
      rw [Text.trimStart, List.dropWhile_append_of_pos blank, List.dropWhile_cons_of_neg visible]
    have proper : ¬ indent.isEmpty = true := by simpa using nonempty
    simp only [indentOfLine?, trimmed]
    rw [if_pos (by simpa [or_assoc] using mark)]
    simp [proper]

/-- The indent of a shielded line has only blanks that can stand between any parts. -/
theorem isBlank_of_shielded {line indent : List Char} (shielded : Shielded line)
    (found : indentOfLine? line = some indent) : ∀ c ∈ indent, isBlank c = true := by
  obtain ⟨-, blank, c, rest, rfl, -⟩ := (indentOfLine?_eq_some_iff line indent).mp found
  intro d member
  obtain ⟨front, behind, rfl⟩ := List.append_of_mem member
  by_cases plain : isBlank d = true
  · exact plain
  · have quote := shielded front d (behind ++ c :: rest) (by simp) (blank d member)
      (by simpa using plain)
    exact absurd (blank '"' (List.mem_append_left _ quote)) (by decide)

theorem isProper_detect {text : List Char} (lined : Lined text) : (detect text).IsProper := by
  cases found : (Text.lines text).findSome? indentOfLine? with
  | none =>
    have indent : (detect text).indent = [' ', ' '] := by rw [detect, found]; rfl
    exact ⟨by rw [indent]; exact List.all_eq_true.mp rfl, by rw [indent]; decide,
      by rw [indent]; decide⟩
  | some indent =>
    have same : (detect text).indent = indent := by rw [detect, found]; rfl
    obtain ⟨line, member, told⟩ := List.exists_of_findSome?_eq_some found
    obtain ⟨nonempty, -, c, rest, split, -⟩ := (indentOfLine?_eq_some_iff line indent).mp told
    have whole := Text.newline_notMem_lines text line member
    rw [split, List.mem_append, not_or] at whole
    exact ⟨same ▸ isBlank_of_shielded (lined line member) told, same ▸ whole.1, same ▸ nonempty⟩

theorem isBlank_newline (s : Style) : ∀ c ∈ s.newline, isBlank c = true := by
  unfold newline
  split <;> exact List.all_eq_true.mp rfl

theorem IsProper.isBlank_layout {s : Style} (proper : s.IsProper) : s.layout.IsBlank :=
  List.forall_mem_append.mpr ⟨proper.blank, s.isBlank_newline⟩

/-! ## What is written in a style -/

/-- The end of a rendered document. -/
def ending (s : Style) : List Char := if s.finalNewline then s.newline else []

theorem isBlank_ending (s : Style) : ∀ c ∈ s.ending, isBlank c = true := by
  unfold ending
  split
  · exact s.isBlank_newline
  · exact List.forall_mem_nil _

theorem toList_render (s : Style) (tree : Messages) : (s.render tree).toList =
    Json.prettyChars s.layout 0 (.object tree) ++ s.ending := by
  rw [render, String.toList_ofList, ending]

/-- Messages that are rendered are read again, each number as its own text is read. -/
theorem IsProper.read_render {s : Style} (proper : s.IsProper) {kind : JsonNumber → Prop}
    {f : JsonNumber → JsonNumber}
    (numbers : ∀ n, kind n → Json.read (Json.JsonNumber.text n) = .ok (.number (f n)))
    {tree : Messages} (fits : Fits kind deepest (.object tree)) :
    Json.read (s.render tree) = .ok (Json.mapNumbers f (.object tree)) := by
  exact Json.read_pretty proper.isBlank_layout numbers fits s.ending s.isBlank_ending

/-- The text of an object that is not empty starts with a brace and a line for its first name. -/
theorem exists_render (s : Style) (member : String × Json) (tree : Messages) : ∃ rest,
    (s.render (member :: tree)).toList = '\x7b' :: (s.newline ++ (s.indent ++ '"' :: rest)) := by
  rw [toList_render, Json.prettyChars, Json.prettyMembers_cons, Json.prettyMember, Json.quote]
  · simp [Json.Layout.line, layout]
  · rintro ⟨⟩

/-- The first line shows no indent; the second one shows it. -/
theorem findSome?_lines_render {s : Style} (proper : s.IsProper) (member : String × Json)
    (tree : Messages) :
    (Text.lines (s.render (member :: tree)).toList).findSome? indentOfLine? = some s.indent := by
  obtain ⟨rest, text⟩ := s.exists_render member tree
  obtain ⟨more, others, second⟩ : ∃ more others,
      Text.lines (s.indent ++ '"' :: rest) = (s.indent ++ '"' :: more) :: others := by
    obtain ⟨done, part, more, others, split, front, -, -⟩ :=
      Text.lines_append s.indent rest '"' (by decide)
    -- The indent holds no line feed, so the quote stands in the first line that is left.
    have none : done = [] := by
      cases done with
      | nil => rfl
      | cons line done =>
        have feed : '\n' ∈ s.indent := by
          rw [front]
          simp [Text.endedLines]
        exact absurd feed proper.single
    subst none
    have same : s.indent = part := front
    exact ⟨more, others, same ▸ split⟩
  have shown : indentOfLine? (s.indent ++ '"' :: more) = some s.indent := by
    refine (indentOfLine?_eq_some_iff _ _).mpr ⟨proper.nonempty, fun c inside => ?_, '"', more, rfl,
      Or.inl rfl⟩
    have blank := proper.blank c inside
    simp only [isBlank, Bool.or_eq_true, beq_iff_eq] at blank
    rcases blank with ((rfl | rfl) | rfl) | rfl <;> decide
  rw [text, newline]
  cases s.carriageReturns with
  | true =>
    have first : Text.lines ('\x7b' :: '\r' :: '\n' :: (s.indent ++ '"' :: rest)) =
        ['\x7b', '\r'] :: Text.lines (s.indent ++ '"' :: rest) := rfl
    have hidden : indentOfLine? ['\x7b', '\r'] = none := by decide
    simp only [↓reduceIte, List.cons_append, List.nil_append, first, second, List.findSome?_cons,
      hidden, shown]
  | false =>
    have first : Text.lines ('\x7b' :: '\n' :: (s.indent ++ '"' :: rest)) =
        ['\x7b'] :: Text.lines (s.indent ++ '"' :: rest) := rfl
    have hidden : indentOfLine? ['\x7b'] = none := by decide
    simp only [Bool.false_eq_true, ↓reduceIte, List.cons_append, List.nil_append, first, second,
      List.findSome?_cons, hidden, shown]

/-! ## Carriage returns -/

/-- No line feed stands behind a carriage return, nor could one that follows. -/
structure Unreturned (text : List Char) : Prop where
  inside : ∀ front rest, text = front ++ '\n' :: rest → front.getLast? ≠ some '\r'
  last : text.getLast? ≠ some '\r'

theorem Unreturned.of_not_mem {text : List Char} (plain : '\r' ∉ text) : Unreturned text where
  inside := fun _ _ split last =>
    plain (split ▸ List.mem_append_left _ (List.mem_of_getLast? last))
  last := fun last => plain (List.mem_of_getLast? last)

theorem Unreturned.append {text more : List Char} (first : Unreturned text)
    (second : Unreturned more) : Unreturned (text ++ more) where
  inside := fun front rest split => by
    rcases List.append_eq_append_iff.mp split with ⟨behind, rfl, within⟩ | ⟨behind, within, last⟩
    · rw [List.getLast?_append]
      intro returned
      rcases Option.or_eq_some_iff.mp returned with here | ⟨-, before⟩
      · exact second.inside behind rest within here
      · exact first.last before
    · cases behind with
      | nil =>
        rw [List.append_nil] at within
        exact within ▸ first.last
      | cons c behind =>
        obtain ⟨rfl, -⟩ := List.cons.inj last
        exact first.inside front behind within
  last := by
    rw [List.getLast?_append]
    intro returned
    rcases Option.or_eq_some_iff.mp returned with here | ⟨-, before⟩
    · exact second.last here
    · exact first.last before

/-- Carriage returns may stand in front of anything but a line feed. -/
theorem Unreturned.indented {indent : List Char} (single : '\n' ∉ indent) {c : Char}
    {text : List Char} (proper : c ≠ '\n') (unreturned : Unreturned (c :: text)) :
    Unreturned (indent ++ c :: text) where
  inside := fun front rest split => by
    rcases List.append_eq_append_iff.mp split with ⟨behind, rfl, within⟩ | ⟨behind, within, last⟩
    · rcases behind with _ | ⟨d, behind⟩
      · exact absurd (List.cons.inj within).1 proper
      · rw [List.getLast?_append_of_ne_nil _ (List.cons_ne_nil d behind)]
        exact unreturned.inside (d :: behind) rest within
    · rcases behind with _ | ⟨d, behind⟩
      · exact absurd (List.cons.inj last).1.symm proper
      · obtain ⟨rfl, -⟩ := List.cons.inj last
        exact absurd (within ▸ List.mem_append_right _ List.mem_cons_self) single
  last := by
    rw [List.getLast?_append_of_ne_nil _ (List.cons_ne_nil c text)]
    exact unreturned.last

theorem Unreturned.cons {c : Char} (proper : c ≠ '\r') {text : List Char}
    (unreturned : Unreturned text) : Unreturned (c :: text) := by
  have first : Unreturned [c] := of_not_mem (by simpa using Ne.symm proper)
  exact first.append unreturned

theorem Unreturned.flatMap {parts : List α} {chars : α → List Char}
    (each : ∀ part ∈ parts, Unreturned (chars part)) : Unreturned (parts.flatMap chars) := by
  induction parts with
  | nil => exact .of_not_mem List.not_mem_nil
  | cons part parts ih =>
    obtain ⟨first, others⟩ := List.forall_mem_cons.mp each
    exact first.append (ih others)

section

variable {l : Json.Layout} (feed : l.newline = ['\n']) (single : '\n' ∉ l.indent)

theorem return_notMem_escapeChar (c : Char) : '\r' ∉ Json.escapeChar c := by
  unfold Json.escapeChar
  split
  case h_8 _ _ _ proper _ _ _ =>
    split
    next control =>
      have digit : ∀ n < 16, '\r' ≠ Json.hexDigit n := by decide
      simp [digit (c.toNat / 16) (by omega), digit (c.toNat % 16) (by omega)]
    next => simpa using Ne.symm proper
  all_goals decide

theorem unreturned_quote (s : String) : Unreturned (Json.quote s) := by
  have body : Unreturned (s.toList.flatMap Json.escapeChar) :=
    .flatMap fun c _ => .of_not_mem (return_notMem_escapeChar c)
  exact (body.cons (by decide)).append (.of_not_mem (by decide))

/-- What a value starts with is no line feed. -/
theorem exists_prettyChars (l : Json.Layout) (level : Nat) (j : Json) :
    ∃ c rest, Json.prettyChars l level j = c :: rest ∧ c ≠ '\n' := by
  cases j with
  | null => exact ⟨_, _, rfl, by decide⟩
  | bool b => cases b <;> exact ⟨_, _, rfl, by decide⟩
  | number n =>
    rw [Json.prettyChars]
    obtain ⟨c, rest, text⟩ := List.exists_cons_of_ne_nil (Json.text_ne_nil n)
    have numeric := Json.numeric_text n
    rw [text] at numeric
    refine ⟨c, rest, text, ?_⟩
    rintro rfl
    exact absurd (numeric '\n' List.mem_cons_self) (by decide)
  | string s => exact ⟨_, _, rfl, by decide⟩
  | array items =>
    cases items with
    | nil => exact ⟨_, _, rfl, by decide⟩
    | cons item items => exact ⟨_, _, rfl, by decide⟩
  | object members =>
    cases members with
    | nil => exact ⟨_, _, rfl, by decide⟩
    | cons item items => exact ⟨_, _, rfl, by decide⟩

include feed single

theorem Unreturned.line (level : Nat) {c : Char} {text : List Char} (proper : c ≠ '\n')
    (unreturned : Unreturned (c :: text)) : Unreturned (l.line level ++ c :: text) := by
  have indents : '\n' ∉ (List.replicate level l.indent).flatten := fun member => by
    obtain ⟨part, repeated, inside⟩ := List.mem_flatten.mp member
    exact single (List.eq_of_mem_replicate repeated ▸ inside)
  rw [Json.Layout.line, feed, List.append_assoc]
  exact (of_not_mem (by decide)).append (.indented indents proper unreturned)

/-- Parts with commas between them, and marks around them. -/
theorem Unreturned.enclosed {chars : α → List Char} (level : Nat) {first last : Char} (part : α)
    (parts : List α) (each : ∀ one ∈ part :: parts, Unreturned (chars one)) (proper : first ≠ '\r')
    (proper' : last ≠ '\r' ∧ last ≠ '\n') :
    Unreturned (first :: (chars part ++ parts.flatMap fun one => ',' :: chars one) ++
      l.line level ++ [last]) := by
  obtain ⟨head, others⟩ := List.forall_mem_cons.mp each
  have behind : Unreturned (parts.flatMap fun one => ',' :: chars one) :=
    .flatMap fun one member => (others one member).cons (by decide)
  have mark : Unreturned [last] := .of_not_mem (by simpa using Ne.symm proper'.1)
  rw [List.append_assoc]
  exact ((head.append behind).cons proper).append (.line feed single level proper'.2 mark)

/-- With plain line ends nothing that is written holds a carriage return before a line feed. -/
theorem unreturned_prettyChars {kind : JsonNumber → Prop} {depth : Nat} {j : Json}
    (fits : Fits kind depth j) (level : Nat) : Unreturned (Json.prettyChars l level j) := by
  induction fits generalizing level with
  | null depth =>
    rw [Json.prettyChars]
    exact .of_not_mem (by decide)
  | bool depth b =>
    cases b
    · rw [Json.prettyChars]
      exact .of_not_mem (by decide)
    · rw [Json.prettyChars]
      exact .of_not_mem (by decide)
  | number depth n known =>
    rw [Json.prettyChars]
    exact .of_not_mem fun returned =>
      absurd (Json.numeric_text n '\r' returned) (by decide)
  | string depth s =>
    rw [Json.prettyChars]
    exact unreturned_quote s
  | array depth items inside ih =>
    have lined (item : Json) (member : item ∈ items) :
        Unreturned (l.line (level + 1) ++ Json.prettyChars l (level + 1) item) := by
      obtain ⟨c, rest, text, proper⟩ := exists_prettyChars l (level + 1) item
      rw [text]
      exact .line feed single _ proper (text ▸ ih item member (level + 1))
    cases items with
    | nil =>
      rw [Json.prettyChars]
      exact .of_not_mem (by decide)
    | cons item items =>
      rw [Json.prettyChars, Json.prettyItems_cons]
      · exact .enclosed feed single level item items lined (by decide) (by decide)
      · rintro ⟨⟩
  | object depth members ordered inside ih =>
    have lined (member : String × Json) (known : member ∈ members) :
        Unreturned (Json.prettyMember l (level + 1) member) := by
      have value := ((ih member known (level + 1)).cons (c := ' ') (by decide)).cons (c := ':')
        (by decide)
      have named := (unreturned_quote member.1).append value
      rw [Json.prettyMember, List.append_assoc]
      exact .line feed single _ (by decide) named
    cases members with
    | nil =>
      rw [Json.prettyChars]
      exact .of_not_mem (by decide)
    | cons member members =>
      rw [Json.prettyChars, Json.prettyMembers_cons]
      · exact .enclosed feed single level member members lined (by decide) (by decide)
      · rintro ⟨⟩

end

/-! ## The style of what is written -/

theorem contains_render {s : Style} (proper : s.IsProper) {kind : JsonNumber → Prop}
    {member : String × Json} {tree : Messages}
    (fits : Fits kind deepest (.object (member :: tree))) :
    Text.contains ['\r', '\n'] (s.render (member :: tree)).toList = s.carriageReturns := by
  cases returns : s.carriageReturns with
  | true =>
    obtain ⟨rest, text⟩ := s.exists_render member tree
    rw [Text.contains_iff, text, newline, returns]
    exact ⟨['\x7b'], s.indent ++ '"' :: rest, rfl⟩
  | false =>
    have feed : s.layout.newline = ['\n'] := by rw [layout, newline, returns]; rfl
    have tail : Unreturned s.ending := by
      unfold ending newline
      rw [returns]
      cases s.finalNewline <;> exact .of_not_mem (by decide)
    have plain := (unreturned_prettyChars feed proper.single fits 0).append tail
    rw [← Bool.not_eq_true, Text.contains_iff, toList_render]
    rintro ⟨front, rest, split⟩
    refine plain.inside (front ++ ['\r']) rest (by rw [← split]; simp) ?_
    simp

theorem exists_prettyChars_object (l : Json.Layout) (tree : Messages) :
    ∃ inner, Json.prettyChars l 0 (.object tree) = '\x7b' :: inner ++ ['\x7d'] := by
  cases tree with
  | nil => exact ⟨[], by rw [Json.prettyChars]; rfl⟩
  | cons member tree =>
    refine ⟨Json.prettyMembers l 1 (member :: tree) ++ l.line 0, ?_⟩
    rw [Json.prettyChars]
    · rfl
    · rintro ⟨⟩

theorem getLast?_render (s : Style) (tree : Messages) :
    ((s.render tree).toList.getLast? == some '\n') = s.finalNewline := by
  rw [toList_render, ending]
  cases s.finalNewline with
  | true =>
    rw [newline]
    cases s.carriageReturns <;> simp
  | false =>
    obtain ⟨inner, object⟩ := exists_prettyChars_object s.layout tree
    rw [object, if_neg Bool.false_ne_true, List.append_nil, List.getLast?_append]
    rfl

/-- The style is told from what was written in it, if that is not empty. -/
theorem IsProper.detect_render {s : Style} (proper : s.IsProper) {kind : JsonNumber → Prop}
    {tree : Messages} (fits : Fits kind deepest (.object tree)) (nonempty : tree ≠ []) :
    detect (s.render tree).toList = s := by
  obtain ⟨member, tree, rfl⟩ := List.exists_cons_of_ne_nil nonempty
  rw [detect, findSome?_lines_render proper, contains_render proper fits, getLast?_render]
  rfl

/-- Nothing of a style but the end of the text shows in an empty document. -/
theorem render_detect_empty (s : Style) :
    (detect (s.render []).toList).render [] = s.render [] := by
  have text : (s.render []).toList = '\x7b' :: '\x7d' :: s.ending := by
    rw [toList_render, Json.prettyChars]
    rfl
  have again : (detect ('\x7b' :: '\x7d' :: s.ending)).ending = s.ending := by
    unfold ending newline
    cases s.finalNewline <;> cases s.carriageReturns <;> decide
  rw [← String.toList_inj, text, toList_render, again, Json.prettyChars]
  rfl

/-- What is written in a style is written the same in the style that is told from it. -/
theorem IsProper.render_detect {s : Style} (proper : s.IsProper) {kind : JsonNumber → Prop}
    {tree : Messages} (fits : Fits kind deepest (.object tree)) :
    (detect (s.render tree).toList).render tree = s.render tree := by
  by_cases empty : tree = []
  · rw [empty, render_detect_empty]
  · rw [proper.detect_render fits empty]

end Style

/-! ## Documents -/

/-- What is written starts with a brace. -/
theorem Style.not_isBlank_render (s : Style) (tree : Messages) :
    ¬ (s.render tree).toList.all Unicode.isBlank = true := by
  obtain ⟨inner, object⟩ := exists_prettyChars_object s.layout tree
  have brace : Unicode.isBlank '\x7b' = false := by decide
  rw [toList_render, object]
  simp [brace]

/-- A document that was written in a style yields its messages, each number as its own text is
read. -/
theorem Messages.ofDocument_render {s : Style} (proper : s.IsProper) {kind : JsonNumber → Prop}
    {f : JsonNumber → JsonNumber}
    (numbers : ∀ n, kind n → Json.read (Json.JsonNumber.text n) = .ok (.number (f n)))
    {tree : Messages} (fits : Fits kind deepest (.object tree)) (path : String) :
    ofDocument path (s.render tree) = .ok (Json.mapNumbersMembers f tree) := by
  rw [ofDocument, if_neg (s.not_isBlank_render tree), proper.read_render numbers fits,
    Json.mapNumbers]

namespace Dictionary

variable {σ : Type} [Storage σ]

/-- The dictionary with a locale's messages and style. -/
def withDocument (d : Dictionary) (locale : String) (messages : Messages) (style : Style) :
    Dictionary :=
  { d.withMessages locale messages with styles := Table.put locale style d.styles }

@[simp] theorem messagesOf_withDocument (d : Dictionary) (locale : String) (messages : Messages)
    (style : Style) : (d.withDocument locale messages style).messagesOf locale = messages := by
  simp [withDocument, withMessages, messagesOf]

@[simp] theorem render_withDocument (d : Dictionary) (locale : String) (messages : Messages)
    (style : Style) : (d.withDocument locale messages style).render locale =
      style.render messages := by
  simp [withDocument, withMessages, render, messagesOf]

/-- A document that is read gives its locale its messages and its style. -/
theorem load_eq_ok (d : Dictionary) (storage : σ) (locale text : String) (messages : Messages)
    (held : Storage.holds storage (d.documentPath locale) = true)
    (read : Storage.read storage (d.documentPath locale) = .ok text)
    (parsed : Messages.ofDocument (d.documentPath locale) text = .ok messages) :
    d.load storage locale = .ok (d.withDocument locale messages (Style.detect text.toList)) := by
  simp only [load, held, ↓reduceIte, read, Except.mapError, ok_bind, parsed]
  rfl

end Dictionary

namespace Style

/-- Messages that are written in the style of a document are read again, the style is told from what
was written, and a dictionary that is loaded from it is written the same. -/
theorem read_render_fixpoint (document : String) (valid : Json.IsDocument document)
    (tree : Messages)
    (fits : Fits (fun n => Json.read (Json.JsonNumber.text n) = .ok (.number n)) deepest
      (.object tree)) :
    let style := detect document.toList
    let text := style.render tree
    Json.read text = .ok (.object tree) ∧ (tree ≠ [] → detect text.toList = style) ∧
    ∀ {σ : Type} [Storage σ] (storage : σ) (d : Dictionary) (locale : String),
      Storage.holds storage (d.documentPath locale) = true →
      Storage.read storage (d.documentPath locale) = .ok text →
      ∃ seeded, d.load storage locale = .ok seeded ∧ seeded.messagesOf locale = tree ∧
        seeded.render locale = text := by
  intro style text
  have proper : style.IsProper := isProper_detect (Json.lined_of_isDocument valid)
  have same : Json.mapNumbers id (.object tree) = .object tree := fits.mapNumbers_eq fun _ _ => rfl
  have members : Json.mapNumbersMembers id tree = tree := by
    rw [Json.mapNumbers] at same
    exact Json.object.inj same
  refine ⟨?_, proper.detect_render fits, fun storage d locale held read => ?_⟩
  · have again := proper.read_render (f := id) (fun n known => known) fits
    rwa [same] at again
  · have parsed := Messages.ofDocument_render proper (f := id) (fun n known => known) fits
      (d.documentPath locale)
    rw [members] at parsed
    refine ⟨_, d.load_eq_ok storage locale text tree held read parsed,
      d.messagesOf_withDocument locale tree _, ?_⟩
    rw [Dictionary.render_withDocument]
    exact proper.render_detect fits

end Style

/-! A document with carriage returns and a tab for each level, and messages to write in its
style. -/

namespace Tabbed

/-- The document: an opening brace, then `"a":1}` on a line of its own after a tab. -/
def document : String := "\x7b\r\n\t\"a\":1\x7d"

def tree : Messages := [("x", .object [("k", .string "\"a\"\n")]), ("y", .number (.natural 1))]

theorem isDocument : Json.IsDocument document :=
  ⟨1, .object [("a", .number (.natural 1))], [], by rfl, rfl⟩

theorem fits : Fits (fun n => Json.read (Json.JsonNumber.text n) = .ok (.number n)) deepest
    (.object tree) := by
  have inner : Fits (fun n => Json.read (Json.JsonNumber.text n) = .ok (.number n)) 126
      (.object [("k", .string "\"a\"\n")]) :=
    .object 125 _ (by decide) (List.forall_mem_singleton.mpr (.string 125 _))
  exact .object 126 _ (by decide)
    (List.forall_mem_cons.mpr ⟨inner, List.forall_mem_singleton.mpr (.number 126 _ (by rfl))⟩)

end Tabbed

namespace Style

theorem read_render_fixpoint_tabbed :
    Json.IsDocument Tabbed.document ∧
    Fits (fun n => Json.read (Json.JsonNumber.text n) = .ok (.number n)) deepest
      (.object Tabbed.tree) ∧
    let style := detect Tabbed.document.toList
    let text := style.render Tabbed.tree
    style = ⟨['\t'], true, false⟩ ∧
    Json.read text = .ok (.object Tabbed.tree) ∧
    (Tabbed.tree ≠ [] → detect text.toList = style) ∧
    ∀ {σ : Type} [Storage σ] (storage : σ) (d : Dictionary) (locale : String),
      Storage.holds storage (d.documentPath locale) = true →
      Storage.read storage (d.documentPath locale) = .ok text →
      ∃ seeded, d.load storage locale = .ok seeded ∧ seeded.messagesOf locale = Tabbed.tree ∧
        seeded.render locale = text :=
  ⟨Tabbed.isDocument, Tabbed.fits, by decide,
    read_render_fixpoint Tabbed.document Tabbed.isDocument Tabbed.tree Tabbed.fits⟩

end Style

end Phrasebook
