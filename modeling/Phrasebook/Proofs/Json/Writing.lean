import Phrasebook.Proofs.Json.Reading

/-!
# What is written is read again

A value that nests deep enough to be read at all, written over several lines with whatever blanks in
front of the lines, is read as the same value, each number as its own text is read.
-/

namespace Phrasebook.Json

/-! ## Strings -/

theorem hexValue?_hexDigit (n : Nat) (small : n < 16) : hexValue? (hexDigit n) = some n := by
  have known : ∀ n < 16, hexValue? (hexDigit n) = some n := by decide
  exact known n small

theorem unicodeEscape_control (c : Char) (control : c.toNat < 0x20) (rest : List Char) :
    unicodeEscape ('0' :: '0' :: hexDigit (c.toNat / 16) :: hexDigit (c.toNat % 16) :: rest) =
      .ok (c, rest) := by
  have zero : hexValue? '0' = some 0 := rfl
  have high := hexValue?_hexDigit (c.toNat / 16) (by omega)
  have low := hexValue?_hexDigit (c.toNat % 16) (by omega)
  have unit : hexUnit? ('0' :: '0' :: hexDigit (c.toNat / 16) :: hexDigit (c.toNat % 16) :: rest) =
      some (c.toNat, rest) := by
    simp only [hexUnit?, zero, high, low, Option.bind_eq_bind, Option.bind_some, Option.some.injEq,
      Prod.mk.injEq, and_true]
    omega
  have small : ¬ 0xD800 ≤ c.toNat := by omega
  have small' : ¬ 0xDC00 ≤ c.toNat := by omega
  simp [unicodeEscape, unit, small, small']

/-- One written character is read as itself. -/
theorem stringBody_escapeChar (fuel : Nat) (c : Char) (rest : List Char) :
    stringBody (fuel + 1) (escapeChar c ++ rest) = (do
      let (more, rest) ← stringBody fuel rest
      .ok (c :: more, rest)) := by
  unfold escapeChar
  split
  case h_8 quote escape _ _ _ _ _ =>
    split
    next control =>
      have same := unicodeEscape_control c control rest
      rw [stringBody.eq_def]
      simp only [List.cons_append, List.nil_append, same]
      rfl
    next printable =>
      rw [stringBody.eq_def]
      simp only [List.singleton_append]
      rw [if_neg quote, if_neg escape, if_neg printable]
  all_goals rfl

theorem stringBody_written (text rest : List Char) (fuel : Nat) (enough : text.length < fuel) :
    stringBody fuel (text.flatMap escapeChar ++ '"' :: rest) = .ok (text, rest) := by
  induction text generalizing fuel with
  | nil =>
    obtain ⟨fuel, rfl⟩ := Nat.exists_eq_succ_of_ne_zero (Nat.ne_of_gt enough)
    rfl
  | cons c text ih =>
    obtain ⟨fuel, rfl⟩ := Nat.exists_eq_succ_of_ne_zero (Nat.ne_of_gt (Nat.zero_lt_of_lt enough))
    rw [List.flatMap_cons, List.append_assoc, stringBody_escapeChar,
      ih fuel (Nat.lt_of_succ_lt_succ enough)]
    rfl

/-- Parts that are not empty are no more than the characters that they come to. -/
theorem length_le_flatMap {chars : β → List Char} (nonempty : ∀ b, chars b ≠ [])
    (items : List β) : items.length ≤ (items.flatMap chars).length := by
  induction items with
  | nil => exact Nat.le_refl 0
  | cons item items ih =>
    have := List.length_pos_iff.mpr (nonempty item)
    simp only [List.flatMap_cons, List.length_append, List.length_cons]
    omega

theorem escapeChar_ne_nil (c : Char) : escapeChar c ≠ [] := by
  unfold escapeChar
  split
  case h_8 => split <;> exact List.cons_ne_nil _ _
  all_goals exact List.cons_ne_nil _ _

theorem quoted_written (s : String) (rest : List Char) :
    quoted (s.toList.flatMap escapeChar ++ '"' :: rest) = .ok (s, rest) := by
  have enough := length_le_flatMap escapeChar_ne_nil s.toList
  rw [quoted, stringBody_written _ _ _ (by simp only [List.length_append]; omega)]
  simp [Except.map]

/-! ## Starts of values -/

variable (depth : Nat) (rest : List Char)

theorem writtenValue_skip (blanks text : List Char) (blank : ∀ c ∈ blanks, isBlank c = true) :
    writtenValue depth (blanks ++ text) = writtenValue depth text := by
  have same : skipBlanks (blanks ++ text) = skipBlanks text := List.dropWhile_append_of_pos blank
  rw [writtenValue.eq_def, writtenValue.eq_def depth text]
  simp only [same]

theorem writtenValue_minus : writtenValue (depth + 1) ('-' :: rest) =
    (unsigned true rest).map fun (n, rest) => (.number n, rest) :=
  rfl

theorem writtenValue_digit (c : Char) (digit : c.isDigit = true) :
    writtenValue depth (c :: rest) =
      (unsigned false (c :: rest)).map fun (n, rest) => (.number n, rest) := by
  have other (d : Char) (notDigit : d.isDigit = false) : c ≠ d := by
    rintro rfl
    rw [digit] at notDigit
    cases notDigit
  have blank : skipBlanks (c :: rest) = c :: rest := by
    simp [skipBlanks, isBlank, other]
  rw [writtenValue.eq_def]
  simp [blank, other, digit]

theorem writtenValue_quote (s : String) :
    writtenValue (depth + 1) (quote s ++ rest) = .ok (.string s, rest) := by
  have same := quoted_written s rest
  rw [quote, List.append_assoc, List.cons_append]
  show (quoted _).map _ = _
  rw [List.singleton_append, same]
  rfl

theorem writtenValue_bracket : writtenValue (depth + 2) ('[' :: rest) =
    (partsBody ']' (writtenValue (depth + 1)) rest).map
      fun (items, rest) => (.array items, rest) := by
  rw [← arrayBody_eq]
  rfl

theorem writtenValue_brace : writtenValue (depth + 2) ('\x7b' :: rest) =
    (partsBody '\x7d' (memberPart (writtenValue (depth + 1))) rest).map
      fun (members, rest) => (.object members, rest) := by
  rw [← objectBody_eq]
  rfl

theorem isNumeric_of_isBlank {c : Char} (blank : isBlank c = true) : isNumeric c = false := by
  simp only [isBlank, Bool.or_eq_true, beq_iff_eq] at blank
  rcases blank with ((rfl | rfl) | rfl) | rfl <;> rfl

/-- Digits that are read up to their end are read the same before anything that ends a number. -/
theorem unsigned_append {negative : Bool} {text left rest : List Char} {n : JsonNumber}
    (read : unsigned negative text = .ok (n, left)) (numeric : Numeric text)
    (last : skipBlanks left = []) (ends : Ends rest) :
    unsigned negative (text ++ rest) = .ok (n, rest) := by
  obtain ⟨front, split, -⟩ := unsigned_takesNumeric negative text n left read
  have nothing : left = [] := by
    rcases left with _ | ⟨c, left⟩
    · rfl
    · -- What is left is blank, but the text holds no blanks.
      have known : isNumeric c = true := numeric c (split ▸ by simp)
      have proper : ¬ isBlank c = true := fun blank => by
        rw [isNumeric_of_isBlank blank] at known
        cases known
      rw [skipBlanks, List.dropWhile_cons_of_neg proper] at last
      cases last
  rw [unsigned_local negative text rest ends, read, nothing]
  rfl

/-- A number's text is read as it is read on its own, whatever follows. -/
theorem writtenValue_text (n m : JsonNumber) (alone : read (JsonNumber.text n) = .ok (.number m))
    (ends : Ends rest) :
    writtenValue (depth + 1) ((JsonNumber.text n).toList ++ rest) = .ok (.number m, rest) := by
  have numeric := numeric_text n
  unfold read at alone
  generalize (JsonNumber.text n).toList = text at alone numeric ⊢
  obtain ⟨written, whole, normal⟩ := map_eq_ok_iff.mp alone
  obtain ⟨⟨value, left⟩, front, same⟩ := bind_eq_ok_iff.mp whole
  dsimp only at same
  split at same
  next blank =>
    cases same
    have last := List.isEmpty_iff.mp blank
    rcases text with _ | ⟨c, text⟩
    · cases front
    · obtain ⟨first, others⟩ := List.forall_mem_cons.mp numeric
      by_cases minus : c = '-'
      · subst minus
        rw [depthLimit, writtenValue_minus] at front
        obtain ⟨⟨number, left⟩, digits, same⟩ := map_eq_ok_iff.mp front
        cases same
        cases normal
        rw [List.cons_append, writtenValue_minus, unsigned_append digits others last ends]
        rfl
      · by_cases digit : c.isDigit = true
        · rw [writtenValue_digit _ _ c digit] at front
          obtain ⟨⟨number, left⟩, digits, same⟩ := map_eq_ok_iff.mp front
          cases same
          cases normal
          rw [List.cons_append, writtenValue_digit _ _ c digit, ← List.cons_append,
            unsigned_append digits numeric last ends]
          rfl
        · -- No value starts with any other character of a number.
          simp only [isNumeric, digit, minus, Bool.or_eq_true, beq_iff_eq, Bool.false_eq_true,
            false_or, or_false] at first
          rcases first with ((rfl | rfl) | rfl) | rfl
          all_goals cases front
  next => cases same

/-! ## Parts between commas -/

theorem prettyItems_cons (l : Layout) (level : Nat) (item : Json) (rest : List Json) :
    prettyItems l level (item :: rest) = l.line level ++ prettyChars l level item ++
      rest.flatMap fun each => ',' :: (l.line level ++ prettyChars l level each) := by
  induction rest generalizing item with
  | nil => rw [prettyItems, List.flatMap_nil, List.append_nil]
  | cons next rest ih => simp [prettyItems, ih next]

/-- A member as it stands between commas. -/
def prettyMember (l : Layout) (level : Nat) (member : String × Json) : List Char :=
  l.line level ++ quote member.1 ++ ':' :: ' ' :: prettyChars l level member.2

theorem prettyMembers_cons (l : Layout) (level : Nat) (member : String × Json)
    (rest : List (String × Json)) :
    prettyMembers l level (member :: rest) = prettyMember l level member ++
      rest.flatMap fun each => ',' :: prettyMember l level each := by
  induction rest generalizing member with
  | nil => rw [prettyMembers, List.flatMap_nil, List.append_nil, prettyMember]
  | cons next rest ih => simp [prettyMembers, prettyMember, ih next]

theorem Ends.of_cons {c : Char} {rest : List Char} (other : isNumeric c = false) :
    Ends (c :: rest) := fun d first => by
  cases first
  exact other

theorem Ends.of_blanks {blanks rest : List Char} (blank : ∀ c ∈ blanks, isBlank c = true)
    (ends : Ends rest) : Ends (blanks ++ rest) := by
  rcases blanks with _ | ⟨c, blanks⟩
  · exact ends
  · exact .of_cons (isNumeric_of_isBlank (blank c List.mem_cons_self))

theorem Ends.of_isBlank {blanks : List Char} (blank : ∀ c ∈ blanks, isBlank c = true) :
    Ends blanks := fun c first => isNumeric_of_isBlank (blank c (List.mem_of_head? first))

section

variable {part : Step α} {close : Char} {chars : β → List Char} {f : β → α}

theorem ends_of_parts {rest : List Char} (items : List β) (blanks : List Char)
    (blank : ∀ c ∈ blanks, isBlank c = true) (other : isNumeric close = false) :
    Ends (items.flatMap (fun item => ',' :: chars item) ++ (blanks ++ close :: rest)) := by
  cases items with
  | nil =>
    have closed : Ends (blanks ++ close :: rest) := .of_blanks blank (.of_cons other)
    exact closed
  | cons item items => exact .of_cons rfl

/-- What is written between commas is read one part after the other. -/
theorem moreParts_written (items : List β) (inside : ∀ item ∈ items, ∀ tail, Ends tail →
      part (chars item ++ tail) = .ok (f item, tail))
    (blanks : List Char) (blank : ∀ c ∈ blanks, isBlank c = true) (visible : isBlank close = false)
    (other : isNumeric close = false) (differs : close ≠ ',') (fuel : Nat)
    (enough : items.length < fuel) :
    moreParts close part fuel
      (items.flatMap (fun item => ',' :: chars item) ++ (blanks ++ close :: rest)) =
        .ok (items.map f, rest) := by
  induction items generalizing fuel with
  | nil =>
    obtain ⟨fuel, rfl⟩ := Nat.exists_eq_succ_of_ne_zero (Nat.ne_of_gt enough)
    have reached : skipBlanks (blanks ++ close :: rest) = close :: rest := by
      rw [skipBlanks, List.dropWhile_append_of_pos blank,
        List.dropWhile_cons_of_neg (by simp [visible])]
    rw [List.flatMap_nil, List.nil_append, moreParts, reached]
    simp
  | cons item items ih =>
    obtain ⟨fuel, rfl⟩ := Nat.exists_eq_succ_of_ne_zero (Nat.ne_of_gt (Nat.zero_lt_of_lt enough))
    obtain ⟨first, others⟩ := List.forall_mem_cons.mp inside
    have ends : Ends (items.flatMap (fun item => ',' :: chars item) ++ (blanks ++ close :: rest)) :=
      ends_of_parts items blanks blank other
    have comma (text : List Char) : skipBlanks (',' :: text) = ',' :: text :=
      List.dropWhile_cons_of_neg (by decide)
    rw [List.flatMap_cons, List.append_assoc, List.cons_append, moreParts, comma]
    simp only [if_neg differs.symm, ↓reduceIte, first _ ends, ok_bind,
      ih others fuel (Nat.lt_of_succ_lt_succ enough), List.map_cons]

/-- Parts that are written up to a closing mark are read. A part that is refused where the mark
stands cannot be mistaken for it. -/
theorem partsBody_written (part : Step α) (chars : β → List Char) (f : β → α) (item : β)
    (items : List β)
    (inside : ∀ each ∈ item :: items, ∀ tail, Ends tail →
      part (chars each ++ tail) = .ok (f each, tail))
    (refused : ∀ text value, (skipBlanks text).head? = some close → part text ≠ .ok value)
    (blanks : List Char) (blank : ∀ c ∈ blanks, isBlank c = true) (visible : isBlank close = false)
    (other : isNumeric close = false) (differs : close ≠ ',') :
    partsBody close part
      (chars item ++ (items.flatMap (fun item => ',' :: chars item) ++ (blanks ++ close :: rest))) =
        .ok ((item :: items).map f, rest) := by
  obtain ⟨first, others⟩ := List.forall_mem_cons.mp inside
  let behind := items.flatMap (fun item => ',' :: chars item) ++ (blanks ++ close :: rest)
  have ends : Ends behind := ends_of_parts items blanks blank other
  have open' : ¬ (skipBlanks (chars item ++ behind)).head? = some close := fun closed =>
    refused _ _ closed (first behind ends)
  -- Every part takes at least its comma, so there are no more parts than characters.
  have enough : items.length < behind.length + 1 := by
    have parts : items.length ≤ (items.flatMap fun item => ',' :: chars item).length :=
      length_le_flatMap (fun _ => List.cons_ne_nil _ _) items
    simp only [behind, List.length_append]
    omega
  rw [partsBody, if_neg open', first behind ends]
  simp only [ok_bind, behind, moreParts_written rest items others blanks blank visible other differs
    _ enough, List.map_cons]

end

/-! ## Values -/

theorem writtenValue_refuses (text : List Char) (c : Char) (value : Json × List Char)
    (mark : c = ']' ∨ c = '\x7d') (first : (skipBlanks text).head? = some c) :
    writtenValue depth text ≠ .ok value := by
  obtain ⟨behind, blanks⟩ := List.head?_eq_some_iff.mp first
  rw [writtenValue.eq_def]
  dsimp only
  rw [blanks]
  rcases mark with rfl | rfl
  · rintro ⟨⟩
  · rintro ⟨⟩

theorem memberPart_refuses (value : Step Json) (text : List Char) (c : Char)
    (member : (String × Json) × List Char) (mark : c ≠ '"')
    (first : (skipBlanks text).head? = some c) : memberPart value text ≠ .ok member := by
  obtain ⟨behind, blanks⟩ := List.head?_eq_some_iff.mp first
  unfold memberPart
  rw [blanks]
  split
  next same => exact absurd (List.cons.inj same).1 mark
  next => rintro ⟨⟩

/-- A member is read if its value is. -/
theorem memberPart_written {l : Layout} {level : Nat} {member : String × Json}
    {value : Step Json} {j : Json} (blank : ∀ c ∈ l.line level, isBlank c = true)
    (inner : value (' ' :: prettyChars l level member.2 ++ rest) = .ok (j, rest)) :
    memberPart value (prettyMember l level member ++ rest) = .ok ((member.1, j), rest) := by
  have split : prettyMember l level member ++ rest = l.line level ++
      '"' :: (member.1.toList.flatMap escapeChar ++
        '"' :: ':' :: (' ' :: prettyChars l level member.2 ++ rest)) := by
    simp [prettyMember, quote]
  have start (text : List Char) : skipBlanks (l.line level ++ '"' :: text) = '"' :: text := by
    rw [skipBlanks, List.dropWhile_append_of_pos blank, List.dropWhile_cons_of_neg (by decide)]
  have colon (text : List Char) : skipBlanks (':' :: text) = ':' :: text :=
    List.dropWhile_cons_of_neg (by decide)
  simp only [memberPart, split, start, quoted_written, ok_bind, colon, inner]

/-- A layout whose indent and line ending are blanks. -/
def Layout.IsBlank (l : Layout) : Prop := ∀ c ∈ l.indent ++ l.newline, isBlank c = true

theorem Layout.IsBlank.line {l : Layout} (blank : l.IsBlank) (level : Nat) :
    ∀ c ∈ l.line level, isBlank c = true := by
  intro c member
  rcases List.mem_append.mp member with ending | indent
  · exact blank c (List.mem_append_right _ ending)
  · obtain ⟨part, repeated, inside⟩ := List.mem_flatten.mp indent
    exact blank c (List.mem_append_left _ (List.eq_of_mem_replicate repeated ▸ inside))

/-- A value that is written is read again, as deep as it nests, whatever ends it. -/
theorem writtenValue_pretty {l : Layout} (blank : l.IsBlank) {kind : JsonNumber → Prop}
    {f : JsonNumber → JsonNumber}
    (numbers : ∀ n, kind n → read (JsonNumber.text n) = .ok (.number (f n))) {depth : Nat}
    {j : Json} (nests : Nests kind depth j) (level : Nat) (rest : List Char) (ends : Ends rest) :
    writtenValue (depth + 1) (prettyChars l level j ++ rest) = .ok (mapNumbers f j, rest) := by
  induction nests generalizing level rest with
  | null depth =>
    rw [prettyChars, mapNumbers]
    rfl
  | bool depth b =>
    rw [mapNumbers]
    cases b
    · rw [prettyChars]
      rfl
    · rw [prettyChars]
      rfl
  | number depth n known =>
    rw [prettyChars, mapNumbers]
    exact writtenValue_text _ _ n (f n) (numbers n known) ends
  | string depth s =>
    rw [prettyChars, mapNumbers]
    exact writtenValue_quote _ _ s
  | array depth items inside ih =>
    rw [mapNumbers, mapNumbersAll_eq]
    cases items with
    | nil =>
      rw [prettyChars]
      rfl
    | cons item items =>
      have text : prettyChars l level (.array (item :: items)) ++ rest =
          '[' :: (l.line (level + 1) ++ prettyChars l (level + 1) item ++
            (items.flatMap (fun each =>
              ',' :: (l.line (level + 1) ++ prettyChars l (level + 1) each)) ++
              (l.line level ++ ']' :: rest))) := by
        simp [prettyChars, prettyItems_cons]
      -- The layout only adds blanks in front of an item, and these are skipped before it is read.
      have parts := partsBody_written rest (writtenValue (depth + 1))
        (fun each => l.line (level + 1) ++ prettyChars l (level + 1) each) (mapNumbers f) item items
        (fun each member tail tails => by
          rw [List.append_assoc, writtenValue_skip _ _ _ (blank.line _)]
          exact ih each member (level + 1) tail tails)
        (fun text value first => writtenValue_refuses _ text ']' value (Or.inl rfl) first)
        (l.line level) (blank.line level) rfl rfl (by decide)
      rw [text, writtenValue_bracket, parts]
      rfl
  | object depth members inside ih =>
    rw [mapNumbers, mapNumbersMembers_eq]
    cases members with
    | nil =>
      rw [prettyChars]
      rfl
    | cons member members =>
      have text : prettyChars l level (.object (member :: members)) ++ rest =
          '\x7b' :: (prettyMember l (level + 1) member ++
            (members.flatMap (fun each => ',' :: prettyMember l (level + 1) each) ++
              (l.line level ++ '\x7d' :: rest))) := by
        simp [prettyChars, prettyMembers_cons]
      have parts := partsBody_written rest (memberPart (writtenValue (depth + 1)))
        (prettyMember l (level + 1)) (fun member => (member.1, mapNumbers f member.2))
        member members
        (fun each known tail tails => by
          refine memberPart_written _ (blank.line _) ?_
          rw [← List.singleton_append, List.append_assoc, writtenValue_skip _ [' '] _
            (List.forall_mem_singleton.mpr rfl)]
          exact ih each known (level + 1) tail tails)
        (fun text value first => memberPart_refuses _ text '\x7d' value (by decide) first)
        (l.line level) (blank.line level) rfl rfl (by decide)
      rw [text, writtenValue_brace, parts]
      rfl

/-- A whole text that was written is read again, names in the order in which they stand. -/
theorem readWritten_pretty {l : Layout} (blank : l.IsBlank) {kind : JsonNumber → Prop}
    {f : JsonNumber → JsonNumber}
    (numbers : ∀ n, kind n → read (JsonNumber.text n) = .ok (.number (f n))) {j : Json}
    (nests : Nests kind deepest j) (tail : List Char) (blanks : ∀ c ∈ tail, isBlank c = true) :
    readWritten (prettyChars l 0 j ++ tail) = .ok (mapNumbers f j) := by
  have ends : Ends tail := .of_isBlank blanks
  have front := writtenValue_pretty blank numbers nests 0 tail ends
  have last : skipBlanks tail = [] := by
    rw [← List.append_nil tail, skipBlanks, List.dropWhile_append_of_pos blanks]
    rfl
  show (writtenValue (deepest + 1) _ >>= _) = _
  rw [front, ok_bind]
  simp [last]

theorem read_pretty {l : Layout} (blank : l.IsBlank) {kind : JsonNumber → Prop}
    {f : JsonNumber → JsonNumber}
    (numbers : ∀ n, kind n → read (JsonNumber.text n) = .ok (.number (f n))) {j : Json}
    (fits : Fits kind deepest j) (tail : List Char) (blanks : ∀ c ∈ tail, isBlank c = true) :
    read (String.ofList (prettyChars l 0 j ++ tail)) = .ok (mapNumbers f j) := by
  have whole := readWritten_pretty blank numbers fits.nests tail blanks
  have known : Fits (fun _ => True) deepest (mapNumbers f j) := fits.mapNumbers fun _ _ => trivial
  rw [read, String.toList_ofList, whole, Except.map, known.normalize_eq]

end Phrasebook.Json
