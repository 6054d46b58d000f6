import Phrasebook.Candidate.Acceptance
import Phrasebook.Proofs.Text.Blanks
import Phrasebook.Unicode.Uppercase

/-!
# Shapes of texts of several words

No blank occurs in an address, a path, a hash, an identifier or a piece of code. So a text of several
words is turned down for its shape only as a number, as a placeholder or as a list of class names,
and between tags only as a number. A class name has capitals and characters beyond ASCII only in
square brackets.
-/

namespace Phrasebook

open Unicode (isBlank blanks isBlank_eq_false isBlank_eq_false_of_inRanges)

namespace Shape

/-! ## Tokens -/

/-- A text without blanks. -/
def IsToken (text : List Char) : Prop := ∀ c ∈ text, isBlank c = false

theorem IsToken.append {front back : List Char} (token : IsToken front) (token' : IsToken back) :
    IsToken (front ++ back) := List.forall_mem_append.mpr ⟨token, token'⟩

theorem isToken_iff {text : List Char} : IsToken text ↔ hasBlank text = false := by
  simp [IsToken, hasBlank]

theorem isToken_of_all {kind : Char → Bool} (apart : blanks.all (fun c => !kind c) = true)
    {text : List Char} (all : text.all kind = true) : IsToken text := fun c member =>
  isBlank_eq_false apart (List.all_eq_true.mp all c member)

/-! ## Addresses -/

theorem exists_of_afterScheme? {text rest : List Char} (found : afterScheme? text = some rest) :
    ∃ front, text = front ++ rest ∧ IsToken front := by
  unfold afterScheme? at found
  split at found
  next c tail =>
    split at found
    next letter =>
      have behind := Text.after?_eq_some _ _ _ found
      refine ⟨c :: tail.takeWhile isSchemePart ++ "://".toList, ?_, IsToken.append ?_ ?_⟩
      · rw [List.append_assoc, ← behind, List.cons_append, List.takeWhile_append_dropWhile]
      · refine List.forall_mem_cons.mpr ⟨isBlank_eq_false (by decide) letter, ?_⟩
        exact fun d member =>
          isBlank_eq_false (by decide) (List.mem_takeWhile_imp member)
      · exact isToken_iff.mpr (by decide)
    next => cases found
  next => cases found

/-- A character that folds to one that is not blank is not blank. -/
theorem isBlank_of_fold {c : Char} (folded : isBlank (Unicode.fold c) = false) :
    isBlank c = false := by
  have apart : blanks.all (fun c => !!isBlank (Unicode.fold c)) = true := by decide
  exact isBlank_eq_false apart (by simp [folded])

theorem exists_of_afterFolded? {start text rest : List Char} (plain : IsToken start)
    (found : afterFolded? start text = some rest) : ∃ front, text = front ++ rest ∧ IsToken front := by
  induction start generalizing text with
  | nil => exact ⟨[], Option.some.inj found, List.forall_mem_nil _⟩
  | cons s start ih =>
    obtain ⟨first, others⟩ := List.forall_mem_cons.mp plain
    cases text with
    | nil => cases found
    | cons c text =>
      rw [afterFolded?] at found
      split at found
      next same =>
        obtain ⟨front, rfl, token⟩ := ih others found
        exact ⟨c :: front, rfl, List.forall_mem_cons.mpr ⟨isBlank_of_fold (same ▸ first), token⟩⟩
      next => cases found

theorem isToken_of_isUrl {text : List Char} (url : isUrl text = true) : IsToken text := by
  obtain ⟨rest, found, plain⟩ := (Option.any_eq_true _ _).mp url
  have split : ∃ front, text = front ++ rest ∧ IsToken front := by
    rcases Option.or_eq_some_iff.mp found with scheme | ⟨-, listed⟩
    · exact exists_of_afterScheme? scheme
    · obtain ⟨start, member, behind⟩ := List.exists_of_findSome?_eq_some listed
      have starts : ∀ start ∈ addressStarts, hasBlank start.toList = false := by decide
      exact exists_of_afterFolded? (isToken_iff.mpr (starts start member)) behind
  obtain ⟨front, rfl, token⟩ := split
  exact token.append (isToken_iff.mpr (by simpa using plain))

/-! ## Paths -/

/-- A character of a text is a slash or stands in a segment. -/
theorem mem_segments {text : List Char} {c : Char} (member : c ∈ text) :
    c = '/' ∨ ∃ segment ∈ segments text, c ∈ segment := by
  have joined := Text.intercalate_splitBy (· == '/') '/' text fun _ _ same => eq_of_beq same
  rw [← joined] at member
  refine (Text.mem_of_mem_intercalate member).imp_right fun ⟨part, listed, inside⟩ => ⟨part, ?_, inside⟩
  unfold segments
  dsimp only
  split
  next ends =>
    -- The part that is left out is empty.
    obtain ⟨init, split⟩ := List.getLast?_eq_some_iff.mp (eq_of_beq ends)
    rw [split] at listed ⊢
    rw [List.dropLast_concat]
    rcases List.mem_append.mp listed with front | last
    · exact front
    · rw [List.mem_singleton.mp last] at inside
      cases inside
  next => exact listed

theorem isBlank_of_isAlphabetic {c : Char} (letter : Unicode.isAlphabetic c = true) :
    isBlank c = false :=
  isBlank_eq_false_of_inRanges (by decide +kernel) letter

theorem isBlank_of_isSegmentPart {c : Char} (part : isSegmentPart c = true) : isBlank c = false := by
  simp only [isSegmentPart, isFirstSegmentPart, isWordCharacter, Bool.or_eq_true, beq_iff_eq] at part
  rcases part with (((((((((((((letter | mark) | mark) | mark) | digit) | connector) | rfl) | rfl) |
    rfl) | rfl) | rfl) | rfl) | rfl) | rfl) | rfl
  · exact isBlank_of_isAlphabetic letter
  · exact isBlank_eq_false_of_inRanges (by decide +kernel) mark
  · exact isBlank_eq_false_of_inRanges (by decide +kernel) mark
  · exact isBlank_eq_false_of_inRanges (by decide) mark
  · exact isBlank_eq_false_of_inRanges (by decide) digit
  · exact isBlank_eq_false_of_inRanges (by decide) connector
  all_goals rfl

theorem isToken_of_isSegmented {text : List Char} (segmented : isSegmented text = true) :
    IsToken text := by
  have parts : ∀ segment ∈ segments text, ∀ c ∈ segment, isSegmentPart c = true := by
    unfold isSegmented at segmented
    split at segmented
    next first second rest split =>
      simp only [Bool.and_eq_true, List.all_eq_true] at segmented
      obtain ⟨⟨-, front⟩, others⟩ := segmented
      rw [split]
      refine List.forall_mem_cons.mpr ⟨fun c member => ?_, fun segment member c inside => ?_⟩
      · simp [isSegmentPart, front c member]
      · exact (others segment member).2 c inside
    next => cases segmented
  intro c member
  rcases mem_segments member with rfl | ⟨segment, listed, inside⟩
  · rfl
  · exact isBlank_of_isSegmentPart (parts segment listed c inside)

theorem isToken_of_isPath {text : List Char} (path : isPath text = true) : IsToken text := by
  rcases Bool.or_eq_true_iff.mp path with started | segmented
  · exact isToken_iff.mpr (by simpa using (Bool.and_eq_true_iff.mp started).2)
  · exact isToken_of_isSegmented segmented

/-! ## Hashes -/

theorem isToken_of_withoutHashSign {text : List Char} (token : IsToken (withoutHashSign text)) :
    IsToken text := by
  unfold withoutHashSign at token
  split at token
  next => exact List.forall_mem_cons.mpr ⟨rfl, token⟩
  next => exact token

theorem isToken_of_isHash {text : List Char} (hash : isHash text = true) : IsToken text := by
  have digits (all : (withoutHashSign text).all isHexDigit = true) : IsToken text :=
    isToken_of_withoutHashSign (isToken_of_all (by decide) all)
  simp only [isHash, isHashForm, Bool.and_eq_true, Bool.or_eq_true] at hash
  rcases hash.1.1 with (⟨long, -⟩ | ⟨⟨-, short⟩, -⟩) | ⟨parts, -⟩
  · exact digits long
  · exact digits short
  · exact isToken_of_all (by decide) parts

/-! ## Identifiers and code -/

theorem isToken_of_isJoined {sign : Char} {part : Char → Bool} {text : List Char}
    (visible : isBlank sign = false) (apart : blanks.all (fun c => !part c) = true)
    (joined : isJoined sign part text = true) : IsToken text := by
  intro c member
  simp only [isJoined, Bool.and_eq_true, List.all_eq_true] at joined
  rw [← Text.intercalate_splitBy (· == sign) sign text fun _ _ same => eq_of_beq same] at member
  rcases Text.mem_of_mem_intercalate member with rfl | ⟨piece, listed, inside⟩
  · exact visible
  · exact isBlank_eq_false apart ((joined.2 piece listed).2 c inside)

theorem isToken_of_isIdentifier {text : List Char} (identifier : isIdentifier text = true) :
    IsToken text := by
  unfold isIdentifier at identifier
  split at identifier
  next => cases identifier
  next c rest =>
    have whole {first others : Char → Bool} (apart : blanks.all (fun c => !first c) = true)
        (apart' : blanks.all (fun c => !others c) = true) (start : first c = true)
        (behind : rest.all others = true) : IsToken (c :: rest) :=
      List.forall_mem_cons.mpr ⟨isBlank_eq_false apart start, isToken_of_all apart' behind⟩
    simp only [Bool.or_eq_true, Bool.and_eq_true] at identifier
    rcases identifier with (((⟨start, behind⟩ | ⟨behind, humps⟩) | ⟨-, snake⟩) | ⟨-, kebab⟩) |
      ⟨start, behind⟩
    · exact whole (by decide) (by decide) start behind
    · have start : c.isUpper = true := by
        unfold hasTwoHumps at humps
        split at humps
        next same =>
          cases same
          exact (Bool.and_eq_true_iff.mp (Bool.and_eq_true_iff.mp humps).1).1
        next => cases humps
      exact whole (by decide) (by decide) start behind
    · exact isToken_of_isJoined rfl (by decide) snake
    · exact isToken_of_isJoined rfl (by decide) kebab
    · exact whole (by decide) (by decide) start behind

theorem isToken_of_isCode {text : List Char} (code : isCode text = true) : IsToken text :=
  isToken_iff.mpr (by simpa using (Bool.and_eq_true_iff.mp code).1)

/-! ## Class names -/

/-- A capital, or a character beyond ASCII. -/
def isForeign (c : Char) : Bool := Unicode.isUppercase c || 0x7F < c.toNat

/-- What a class name holds outside of brackets, and the brackets. -/
def isClassCharacter (c : Char) : Bool := isClassPart c || isClassSeparator c || c == '!'

/-- The capitals of ASCII are those from A to Z. -/
theorem isUpper_of_isUppercase {c : Char} (upper : Unicode.isUppercase c = true)
    (ascii : c.toNat ≤ 0x7F) : c.isUpper = true := by
  obtain ⟨r, listed, within⟩ := List.any_eq_true.mp upper
  simp only [Bool.and_eq_true, decide_eq_true_eq] at within
  have beyond : Unicode.uppercaseRanges.tail.all (fun r => Nat.blt 0x7F r.1) = true := by
    decide +kernel
  rcases List.mem_cons.mp (show r ∈ (0x41, 0x5A) :: Unicode.uppercaseRanges.tail from listed) with
    rfl | other
  · simpa [Char.isUpper, UInt32.le_iff_toNat_le] using within
  · have low := Nat.blt_eq.mp (List.all_eq_true.mp beyond r other)
    omega

theorem isForeign_eq_false {c : Char} (known : isClassCharacter c = true) : isForeign c = false := by
  have plain : c.isUpper = false ∧ c.toNat ≤ 0x7F := by
    simp only [isClassCharacter, isClassPart, isClassHead, isClassSeparator, Bool.or_eq_true,
      beq_iff_eq] at known
    rcases known with ((((((((((lower | digit) | rfl) | rfl) | rfl) | rfl) | rfl) | rfl) | rfl) |
      (((rfl | rfl) | rfl) | rfl)) | rfl)
    · simp [Char.isLower, Char.isUpper, UInt32.le_iff_toNat_le] at lower ⊢
      omega
    · simp [Char.isDigit, Char.isUpper, UInt32.le_iff_toNat_le] at digit ⊢
      omega
    all_goals decide
  simp only [isForeign, Bool.or_eq_false_iff, decide_eq_false_iff_not, Nat.not_lt]
  refine ⟨Bool.eq_false_iff.mpr fun upper => ?_, plain.2⟩
  rw [isUpper_of_isUppercase upper plain.2] at plain
  cases plain.1

namespace ClassState

/-- A text leads from one state to another. -/
def Leads : ClassState → List Char → ClassState → Prop
  | s, [], t => s = t
  | s, c :: rest, t => ∃ between ∈ next c s, Leads between rest t

theorem leads_append {s t : ClassState} (front back : List Char) :
    Leads s (front ++ back) t ↔ ∃ between, Leads s front between ∧ Leads between back t := by
  induction front generalizing s with
  | nil => simp [Leads]
  | cons c front ih =>
    simp only [List.cons_append, Leads, ih]
    exact ⟨fun ⟨r, here, u, one, two⟩ => ⟨u, ⟨r, here, one⟩, two⟩,
      fun ⟨u, ⟨r, here, one⟩, two⟩ => ⟨r, here, u, one, two⟩⟩

/-- The states after a text are those that it leads to. -/
theorem mem_classStates {states : List ClassState} {text : List Char} {t : ClassState} :
    t ∈ classStates states text ↔ ∃ s ∈ states, Leads s text t := by
  induction text generalizing states with
  | nil => simp [classStates, Leads]
  | cons c text ih =>
    rw [classStates, List.foldl_cons, ← classStates, ih]
    simp only [List.mem_eraseDups, List.mem_flatMap, Leads]
    exact ⟨fun ⟨r, ⟨s, member, here⟩, rest⟩ => ⟨s, member, r, here, rest⟩,
      fun ⟨s, member, r, here, rest⟩ => ⟨r, ⟨s, member, here⟩, rest⟩⟩

/-- A foreign character is read between brackets only. -/
theorem next_of_isForeign {c : Char} (foreign : isForeign c = true) {s t : ClassState}
    (step : t ∈ next c s) : (s = opened ∨ s = bracketed) ∧ t = bracketed := by
  have other : isClassCharacter c = false := Bool.eq_false_iff.mpr fun known => by
    rw [isForeign_eq_false known] at foreign
    cases foreign
  simp only [isClassCharacter, isClassPart, Bool.or_eq_false_iff, beq_eq_false_iff_ne] at other
  cases s <;> simp_all [next, newGroup, inGroup, mayEnd, isClassPart]

/-- The states of a text that ends between brackets. -/
theorem exists_opening {front : List Char} {s : ClassState} (leads : Leads head front s)
    (inside : s = opened ∨ s = bracketed) :
    ∃ before between, front = before ++ '[' :: between ∧ ']' ∉ between := by
  induction front using List.reverseRecOn generalizing s with
  | nil =>
    rcases inside with rfl | rfl <;> cases leads
  | append_singleton front c ih =>
    obtain ⟨r, earlier, u, step, rfl⟩ := (leads_append _ _).mp leads
    -- Either the bracket is opened here, or it was before and this is not the closing one.
    have cases : c = '[' ∨ (r = opened ∨ r = bracketed) ∧ c ≠ ']' := by
      rcases inside with rfl | rfl <;>
        cases r <;> simp_all [next, newGroup, inGroup, mayEnd] <;> grind
    rcases cases with rfl | ⟨open', other⟩
    · exact ⟨front, [], rfl, List.not_mem_nil⟩
    · obtain ⟨before, between, rfl, apart⟩ := ih earlier open'
      refine ⟨before, between ++ [c], by simp, ?_⟩
      simpa using ⟨apart, Ne.symm other⟩

/-- A bracket has to be closed before the name ends. -/
theorem mem_of_leads_bracketed {back : List Char} {t : ClassState} (leads : Leads bracketed back t)
    (ends : t.mayEnd = true) : ']' ∈ back := by
  induction back with
  | nil => cases leads; cases ends
  | cons c back ih =>
    obtain ⟨r, step, rest⟩ := leads
    by_cases closing : c = ']'
    · exact closing ▸ List.mem_cons_self
    · have stays : r = bracketed := by
        simp only [next, newGroup, mayEnd, inGroup, Bool.not_false, if_true, List.nil_append,
          beq_iff_eq, if_neg closing] at step
        split at step
        · cases step
        · exact List.mem_singleton.mp step
      exact List.mem_cons_of_mem _ (ih (stays ▸ rest))

end ClassState

/-- A place in a text that stands behind an opening bracket and before the closing one. -/
def Enclosed (front back : List Char) : Prop :=
  (∃ before between, front = before ++ '[' :: between ∧ ']' ∉ between) ∧ ']' ∈ back

theorem exists_marks (mark : Char) (text : List Char) :
    ∃ marks, text = marks ++ afterMark mark text ∧ ∀ c ∈ marks, c = mark := by
  unfold afterMark
  split
  next c rest =>
    split
    next same => exact ⟨[c], rfl, List.forall_mem_singleton.mpr same⟩
    next => exact ⟨[], rfl, List.forall_mem_nil _⟩
  next => exact ⟨[], rfl, List.forall_mem_nil _⟩

/-- Foreign characters of a class name stand in brackets. -/
theorem enclosed_of_isClassName {word front back : List Char} {c : Char}
    (named : isClassName word = true) (split : word = front ++ c :: back)
    (foreign : isForeign c = true) : Enclosed front back := by
  have apart {d : Char} (known : isClassCharacter d = true) : d ≠ c := fun same => by
    rw [same] at known
    rw [isForeign_eq_false known] at foreign
    cases foreign
  obtain ⟨bang, whole, bangs⟩ := exists_marks '!' word
  obtain ⟨minus, behind, minuses⟩ := exists_marks '-' (afterMark '!' word)
  unfold isClassName at named
  split at named
  next first rest start =>
    obtain ⟨head, states⟩ := Bool.and_eq_true_iff.mp named
    obtain ⟨t, listed, ends⟩ := List.any_eq_true.mp states
    obtain ⟨s, same, leads⟩ := ClassState.mem_classStates.mp listed
    cases List.mem_singleton.mp same
    -- What stands before the rest is not foreign, so the character is in the rest.
    have plain : c ∉ bang ++ minus ++ [first] := by
      intro member
      rcases List.mem_append.mp member with marks | last
      · rcases List.mem_append.mp marks with one | two
        · exact apart (by decide) (bangs c one).symm
        · exact apart (by decide) (minuses c two).symm
      · refine apart (d := first) ?_ (List.mem_singleton.mp last).symm
        simp [isClassCharacter, isClassPart, head]
    have parts : bang ++ minus ++ [first] ++ rest = front ++ c :: back := by
      rw [← split, whole, behind, start]
      simp
    obtain ⟨early, rfl, rfl⟩ :
        ∃ early, front = bang ++ minus ++ [first] ++ early ∧ rest = early ++ c :: back := by
      rcases List.append_eq_append_iff.mp parts with ⟨early, one, two⟩ | ⟨late, one, two⟩
      · exact ⟨early, one, two⟩
      · cases late with
        | nil => exact ⟨[], by simpa using one.symm, two.symm⟩
        | cons d late =>
          cases two
          exact absurd (one ▸ by simp) plain
    obtain ⟨r, before, u, step, after⟩ := (ClassState.leads_append _ _).mp leads
    obtain ⟨inside, rfl⟩ := ClassState.next_of_isForeign foreign step
    obtain ⟨opening, between, rfl, unclosed⟩ := ClassState.exists_opening before inside
    refine ⟨⟨bang ++ minus ++ [first] ++ opening, between, by simp, unclosed⟩, ?_⟩
    exact ClassState.mem_of_leads_bracketed after ends
  next => cases named

end Shape

/-- Of the shapes, only three are left to a text with a blank inside. -/
theorem shapeRejection?_of_blank {text : List Char} (token : TokenKind)
    (letters : ∃ c ∈ Text.trim text, Unicode.isAlphabetic c = true)
    (gap : ∃ c ∈ Text.trim text, isBlank c = true) :
    shapeRejection? text token =
      if Shape.isNumeral (Text.trim text) then some .numeral
      else if token = .markupText then none
      else if Shape.isPlaceholder (Text.trim text) then some .placeholder
      else if Shape.isClassList (Text.trim text) then some .classList
      else none := by
  obtain ⟨c, member, blank⟩ := gap
  have apart {shape : List Char → Bool}
      (token : shape (Text.trim text) = true → Shape.IsToken (Text.trim text)) :
      shape (Text.trim text) = false := by
    refine Bool.eq_false_iff.mpr fun shaped => ?_
    rw [token shaped c member] at blank
    cases blank
  have letters : (Text.trim text).any Unicode.isAlphabetic = true := List.any_eq_true.mpr letters
  simp only [shapeRejection?, letters, apart Shape.isToken_of_isUrl, apart Shape.isToken_of_isPath,
    apart Shape.isToken_of_isHash, apart Shape.isToken_of_isIdentifier, apart Shape.isToken_of_isCode,
    Bool.not_true, Bool.false_eq_true, if_false]

/-- A text of several words with a letter is turned down for its shape only as a number, or, where
it does not stand between tags, as a placeholder or a list of class names as well. Each word of such
a list has capitals and characters beyond ASCII in square brackets only. -/
theorem shapeRejection?_multiWord (text : List Char) (token : TokenKind)
    (multi : Text.IsMultiWord text) (letters : ∃ c ∈ text, Unicode.isAlphabetic c = true) :
    (token = .markupText → shapeRejection? text token ∈ [none, some .numeral]) ∧
    (token ≠ .markupText → shapeRejection? text token ∈
      [none, some .numeral, some .placeholder, some .classList]) ∧
    (shapeRejection? text token = some .classList → ∀ word ∈ Text.words text,
      ∀ front c back, word = front ++ c :: back → Shape.isForeign c = true →
        Shape.Enclosed front back) := by
  have shown : ∃ c ∈ Text.trim text, Unicode.isAlphabetic c = true := by
    obtain ⟨c, member, letter⟩ := letters
    have visible := Shape.isBlank_of_isAlphabetic letter
    exact ⟨c, Text.mem_trim member visible, letter⟩
  rw [shapeRejection?_of_blank token shown multi.exists_mem_trim]
  refine ⟨fun markup => ?_, fun _ => ?_, fun listed word member front c back split foreign => ?_⟩
  · rw [if_pos markup]
    split <;> simp
  · split_ifs <;> simp
  · have classes : Shape.isClassList (Text.trim text) = true := by
      split_ifs at listed with numeral markup placeholder classes <;> first
        | exact classes
        | cases listed
    have names := List.all_eq_true.mp (Bool.and_eq_true_iff.mp classes).1
    rw [← Text.words_trim] at member
    exact Shape.enclosed_of_isClassName (names word member) split foreign

/-- Class names, one of them with a letter beyond ASCII in brackets. -/
def Shape.classNames : List Char := "flex bg-x[url(É.png)] mt-2".toList

theorem shapeRejection?_multiWord_classNames :
    Text.IsMultiWord Shape.classNames ∧
    shapeRejection? Shape.classNames .stringLiteral = some .classList ∧
    Shape.isForeign 'É' = true ∧ Shape.Enclosed "bg-x[url(".toList ".png)]".toList := by
  have multi : Text.IsMultiWord Shape.classNames :=
    ⟨"flex".toList, ' ', "bg-x[url(É.png)] mt-2".toList, by decide, by decide,
      ⟨'f', by decide, by decide⟩, ⟨'b', by decide, by decide⟩⟩
  have letters : ∃ c ∈ Shape.classNames, Unicode.isAlphabetic c = true :=
    ⟨'f', by decide, by decide⟩
  have rejected : shapeRejection? Shape.classNames .stringLiteral = some .classList := by
    decide
  have foreign : Shape.isForeign 'É' = true := by decide
  obtain ⟨-, -, enclosed⟩ := shapeRejection?_multiWord Shape.classNames .stringLiteral multi letters
  exact ⟨multi, rejected, foreign,
    enclosed rejected "bg-x[url(É.png)]".toList (by decide) _ 'É' _ rfl foreign⟩

end Phrasebook
