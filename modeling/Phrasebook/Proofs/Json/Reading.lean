import Phrasebook.Proofs.Json.Numbers
import Phrasebook.Proofs.Json.Values
import Phrasebook.Proofs.Outcome
import Phrasebook.Proofs.Text.Parts
import Phrasebook.Unicode.Blank

/-!
# What reading a value takes

A value takes a front of the text. Blanks of other scripts can stand there only in strings, and a
string ends on its line, so on any line a quote stands before such a blank. The value itself nests
only so deep, and in normal form its names are in order.
-/

namespace Phrasebook.Json

/-! ## Blanks that only strings hold -/

/-- On a line a quote stands before every blank that is none of JSON's. -/
def Shielded (line : List Char) : Prop := ∀ front c rest, line = front ++ c :: rest →
  Unicode.isBlank c = true → isBlank c = false → '"' ∈ front

/-- A text whose lines are shielded. -/
def Lined (text : List Char) : Prop := ∀ line ∈ Text.lines text, Shielded line

theorem Shielded.append {line more : List Char} (shielded : Shielded line)
    (shielded' : Shielded more) : Shielded (line ++ more) := by
  intro front c rest split blank other
  rcases List.append_eq_append_iff.mp split with ⟨behind, rfl, within⟩ | ⟨behind, within, last⟩
  · exact List.mem_append_right _ (shielded' behind c rest within blank other)
  · cases behind with
    | nil =>
      have := shielded' [] c rest (by simpa using last.symm) blank other
      cases this
    | cons d behind =>
      obtain ⟨rfl, rfl⟩ := List.cons.inj last
      exact shielded front c behind within blank other

theorem Lined.append {text more : List Char} (lined : Lined text) (lined' : Lined more) :
    Lined (text ++ more) := by
  obtain ⟨init, last, first, others, front, behind, whole⟩ := Text.lines_meet text more
  intro line member
  unfold Lined at lined lined'
  rw [front] at lined
  rw [behind] at lined'
  rw [whole] at member
  simp only [List.mem_append, List.mem_cons] at member lined lined'
  rcases member with inside | rfl | inside
  · exact lined line (Or.inl inside)
  · exact (lined last (by simp)).append (lined' first (by simp))
  · exact lined' line (Or.inr inside)

/-- Whether a character may stand outside strings. -/
def isPlain (c : Char) : Bool := isBlank c || !Unicode.isBlank c

theorem lined_of_plain (text : List Char) (plain : ∀ c ∈ text, isPlain c = true) : Lined text := by
  induction text with
  | nil =>
    intro line member
    rw [Text.lines, List.mem_singleton] at member
    subst member
    exact fun front c rest split => by simp at split
  | cons c text ih =>
    obtain ⟨first, others⟩ := List.forall_mem_cons.mp plain
    have single : Lined [c] := by
      intro line member front d rest split blank other
      have inside : d = c := by
        rw [Text.lines, Text.lines] at member
        split at member
        · simp at member
          rw [member] at split
          simp at split
        · simp at member
          rw [member] at split
          have : d ∈ [c] := split ▸ List.mem_append_right _ List.mem_cons_self
          exact List.mem_singleton.mp this
      subst inside
      simp [isPlain, blank, other] at first
    exact single.append (ih others)

/-- A string on one line is shielded by its first quote. -/
theorem lined_of_quote (body : List Char) (whole : '\n' ∉ body) : Lined ('"' :: body) := by
  have single : Text.lines ('"' :: body) = ['"' :: body] :=
    Text.lines_of_not_mem _ (by simpa using whole)
  intro line member
  rw [single, List.mem_singleton] at member
  subst member
  intro front c rest split blank other
  cases front with
  | nil =>
    cases split
    exact absurd blank (by decide)
  | cons d front =>
    cases split
    exact List.mem_cons_self

/-- A text goes on as `rest` after a front whose lines are shielded. -/
def LinedTo (text rest : List Char) : Prop := ∃ front, text = front ++ rest ∧ Lined front

namespace LinedTo

theorem of_plain {text rest : List Char} (front : List Char) (split : text = front ++ rest)
    (plain : ∀ c ∈ front, isPlain c = true) : LinedTo text rest :=
  ⟨front, split, lined_of_plain front plain⟩

theorem refl (text : List Char) : LinedTo text text :=
  of_plain [] rfl fun _ member => absurd member List.not_mem_nil

theorem trans {a b c : List Char} (first : LinedTo a b) (second : LinedTo b c) : LinedTo a c := by
  obtain ⟨front, rfl, lined⟩ := first
  obtain ⟨more, rfl, lined'⟩ := second
  exact ⟨front ++ more, (List.append_assoc ..).symm, lined.append lined'⟩

theorem cons (c : Char) (plain : isPlain c = true) {text rest : List Char}
    (takes : LinedTo text rest) : LinedTo (c :: text) rest :=
  (of_plain [c] rfl (List.forall_mem_singleton.mpr plain)).trans takes

theorem length_le {text rest : List Char} (takes : LinedTo text rest) :
    rest.length ≤ text.length := by
  obtain ⟨front, rfl, -⟩ := takes
  simp

/-- What follows the blanks in front of a text. -/
theorem skipBlanks {text rest : List Char} (takes : LinedTo (skipBlanks text) rest) :
    LinedTo text rest := by
  refine (of_plain (text.takeWhile isBlank) List.takeWhile_append_dropWhile.symm ?_).trans takes
  intro c member
  have blank : isBlank c = true := List.all_eq_true.mp List.all_takeWhile c member
  simp [isPlain, blank]

end LinedTo

theorem isPlain_of_isNumeric {c : Char} (numeric : isNumeric c = true) : isPlain c = true := by
  have known : ∀ n < 128, isNumeric (Char.ofNat n) = true → isPlain (Char.ofNat n) = true := by
    decide
  have bound : c.toNat < 128 := by
    simp only [isNumeric, Char.isDigit, Bool.or_eq_true, Bool.and_eq_true, decide_eq_true_eq,
      beq_iff_eq] at numeric
    rcases numeric with ((((⟨-, high⟩ | rfl) | rfl) | rfl) | rfl) | rfl
    · exact Nat.lt_of_le_of_lt high (by decide)
    all_goals decide
  have here := known c.toNat bound
  rw [Char.ofNat_toNat] at here
  exact here numeric

theorem NumericTo.linedTo {text rest : List Char} (takes : NumericTo text rest) :
    LinedTo text rest := by
  obtain ⟨front, split, numeric⟩ := takes
  exact .of_plain front split fun c member => isPlain_of_isNumeric (numeric c member)

/-! ## Strings -/

/-- A text goes on as `rest` on the same line. -/
def SameLine (text rest : List Char) : Prop := ∃ front, text = front ++ rest ∧ '\n' ∉ front

namespace SameLine

theorem refl (text : List Char) : SameLine text text := ⟨[], rfl, List.not_mem_nil⟩

theorem cons (c : Char) (proper : c ≠ '\n') {text rest : List Char} (same : SameLine text rest) :
    SameLine (c :: text) rest := by
  obtain ⟨front, rfl, whole⟩ := same
  exact ⟨c :: front, rfl, by simp [Ne.symm proper, whole]⟩

theorem trans {a b c : List Char} (first : SameLine a b) (second : SameLine b c) :
    SameLine a c := by
  obtain ⟨front, rfl, whole⟩ := first
  obtain ⟨more, rfl, whole'⟩ := second
  exact ⟨front ++ more, (List.append_assoc ..).symm, by simp [whole, whole']⟩

end SameLine

theorem hexUnit?_sameLine {text rest : List Char} {unit : Nat}
    (read : hexUnit? text = some (unit, rest)) : SameLine text rest := by
  have hexadecimal (c : Char) (n : Nat) (value : hexValue? c = some n) : c ≠ '\n' := by
    rintro rfl
    cases value
  unfold hexUnit? at read
  split at read
  next a b c d rest =>
    simp only [Option.bind_eq_bind, Option.bind_eq_some_iff, Option.some.injEq,
      Prod.mk.injEq] at read
    obtain ⟨_, first, _, second, _, third, _, fourth, -, rfl⟩ := read
    exact .cons a (hexadecimal a _ first) (.cons b (hexadecimal b _ second)
      (.cons c (hexadecimal c _ third) (.cons d (hexadecimal d _ fourth) (.refl _))))
  next => cases read

/-- A Unicode escape is one unit, or two units of which the second has an escape of its own. -/
theorem unicodeEscape_cases {text rest : List Char} {c : Char}
    (read : unicodeEscape text = .ok (c, rest)) :
    (∃ unit, hexUnit? text = some (unit, rest)) ∨
    ∃ high low tail, hexUnit? text = some (high, '\\' :: 'u' :: tail) ∧
      hexUnit? tail = some (low, rest) := by
  unfold unicodeEscape at read
  split at read
  next => cases read
  next high behind first =>
    split at read
    next =>
      -- A high surrogate is followed by the escape of a low one.
      split at read
      next tail =>
        split at read
        next => cases read
        next low behind second =>
          split at read
          next =>
            simp only [Except.ok.injEq, Prod.mk.injEq] at read
            obtain ⟨-, rfl⟩ := read
            exact .inr ⟨high, low, tail, first, second⟩
          next => cases read
      next => cases read
    next =>
      split at read
      next => cases read
      next =>
        cases read
        exact .inl ⟨high, first⟩

theorem unicodeEscape_sameLine {text rest : List Char} {c : Char}
    (read : unicodeEscape text = .ok (c, rest)) : SameLine text rest := by
  rcases unicodeEscape_cases read with ⟨unit, whole⟩ | ⟨high, low, tail, first, second⟩
  · exact hexUnit?_sameLine whole
  · exact (hexUnit?_sameLine first).trans (.cons '\\' (by decide) (.cons 'u' (by decide)
      (hexUnit?_sameLine second)))

theorem stringBody_sameLine (fuel : Nat) {text rest body : List Char}
    (read : stringBody fuel text = .ok (body, rest)) : SameLine text rest := by
  fun_induction stringBody fuel text generalizing body rest with
  | case1 | case2 => cases read
  | case3 fuel behind =>
    cases read
    exact .cons '"' (by decide) (.refl _)
  | case4 fuel behind _ ih =>
    obtain ⟨⟨c, later⟩, escape, read⟩ := bind_eq_ok_iff.mp read
    obtain ⟨⟨more, last⟩, others, same⟩ := bind_eq_ok_iff.mp read
    cases same
    exact .cons '\\' (by decide) (.cons 'u' (by decide)
      ((unicodeEscape_sameLine escape).trans (ih later others)))
  | case5 => cases read
  | case6 fuel e behind _ c known _ ih =>
    obtain ⟨⟨more, last⟩, others, same⟩ := bind_eq_ok_iff.mp read
    cases same
    have proper : e ≠ '\n' := by
      rintro rfl
      cases known
    exact .cons '\\' (by decide) (.cons e proper (ih others))
  | case7 => cases read
  | case8 => cases read
  | case9 fuel c behind _ _ printable ih =>
    obtain ⟨⟨more, last⟩, others, same⟩ := bind_eq_ok_iff.mp read
    cases same
    have proper : c ≠ '\n' := by
      rintro rfl
      exact printable (by decide)
    exact .cons c proper (ih others)

theorem quoted_linedTo {text rest : List Char} {s : String}
    (read : quoted text = .ok (s, rest)) : LinedTo ('"' :: text) rest := by
  obtain ⟨⟨body, left⟩, string, same⟩ := map_eq_ok_iff.mp read
  cases same
  obtain ⟨front, rfl, whole⟩ := stringBody_sameLine _ string
  exact ⟨'"' :: front, rfl, lined_of_quote front whole⟩

/-! ## Values -/

/-- A step takes a front whose lines are shielded, and what it yields is of a kind. -/
def Step.Sound (step : Step α) (kind : α → Prop) : Prop :=
  ∀ text value rest, step text = .ok (value, rest) → LinedTo text rest ∧ kind value

/-! Items of an array and members of an object are read alike: parts with commas between them, up to
a closing mark. -/

/-- The parts after the first one, up to the closing mark. -/
def moreParts (close : Char) (part : Step α) : Nat → Step (List α)
  | 0, _ => .error .unexpected
  | fuel + 1, text =>
    match skipBlanks text with
    | [] => .error .unexpected
    | c :: rest =>
      if c = close then .ok ([], rest)
      else if c = ',' then do
        let (first, rest) ← part rest
        let (others, rest) ← moreParts close part fuel rest
        .ok (first :: others, rest)
      else .error .unexpected

/-- The parts up to the closing mark. -/
def partsBody (close : Char) (part : Step α) : Step (List α) := fun text =>
  if (skipBlanks text).head? = some close then .ok ([], (skipBlanks text).tail)
  else do
    let (first, rest) ← part text
    let (others, rest) ← moreParts close part (rest.length + 1) rest
    .ok (first :: others, rest)

variable {value : Step Json}

theorem moreItems_eq (fuel : Nat) : moreItems value fuel = moreParts ']' value fuel := by
  induction fuel with
  | zero => rfl
  | succ fuel ih =>
    funext text
    rw [moreItems, moreParts, ih]
    cases skipBlanks text with
    | nil => rfl
    | cons c rest =>
      by_cases close : c = ']'
      · subst close; rfl
      · by_cases comma : c = ','
        · subst comma; rfl
        · simp [close, comma]

theorem moreMembers_eq (fuel : Nat) :
    moreMembers value fuel = moreParts '\x7d' (memberPart value) fuel := by
  induction fuel with
  | zero => rfl
  | succ fuel ih =>
    funext text
    rw [moreMembers, moreParts, ih]
    cases skipBlanks text with
    | nil => rfl
    | cons c rest =>
      by_cases close : c = '\x7d'
      · subst close; rfl
      · by_cases comma : c = ','
        · subst comma; rfl
        · simp [close, comma]

theorem arrayBody_eq : arrayBody value = partsBody ']' value := by
  funext text
  unfold arrayBody partsBody
  split
  next behind blanks => simp [blanks]
  next other =>
    have differs : (skipBlanks text).head? ≠ some ']' := fun same => by
      obtain ⟨rest, blanks⟩ := List.head?_eq_some_iff.mp same
      exact other rest blanks
    simp only [if_neg differs, moreItems_eq]

theorem objectBody_eq : objectBody value = partsBody '\x7d' (memberPart value) := by
  funext text
  unfold objectBody partsBody
  split
  next behind blanks => simp [blanks]
  next other =>
    have differs : (skipBlanks text).head? ≠ some '\x7d' := fun same => by
      obtain ⟨rest, blanks⟩ := List.head?_eq_some_iff.mp same
      exact other rest blanks
    simp only [if_neg differs, moreMembers_eq]

section

variable {part : Step α} {kind : α → Prop} {close : Char}

theorem moreParts_sound (plain : isPlain close = true) (sound : part.Sound kind) (fuel : Nat) :
    (moreParts close part fuel).Sound fun parts => ∀ each ∈ parts, kind each := by
  induction fuel with
  | zero => exact fun _ _ _ read => nomatch read
  | succ fuel ih =>
    intro text parts rest read
    rw [moreParts] at read
    split at read
    next => cases read
    next c behind blanks =>
      split at read
      next same =>
        cases read
        exact ⟨.skipBlanks (blanks ▸ .cons c (same ▸ plain) (.refl _)), nofun⟩
      next =>
        split at read
        next comma =>
          obtain ⟨⟨first, later⟩, head, read⟩ := bind_eq_ok_iff.mp read
          obtain ⟨⟨others, last⟩, tail, same⟩ := bind_eq_ok_iff.mp read
          cases same
          obtain ⟨front, holds⟩ := sound _ _ _ head
          obtain ⟨behind, hold⟩ := ih _ _ _ tail
          exact ⟨.skipBlanks (blanks ▸ .cons c (comma ▸ rfl) (front.trans behind)),
            List.forall_mem_cons.mpr ⟨holds, hold⟩⟩
        next => cases read

theorem partsBody_sound (plain : isPlain close = true) (sound : part.Sound kind) :
    (partsBody close part).Sound fun parts => ∀ each ∈ parts, kind each := by
  intro text parts rest read
  unfold partsBody at read
  split at read
  next closed =>
    obtain ⟨behind, blanks⟩ := List.head?_eq_some_iff.mp closed
    rw [blanks, List.tail_cons] at read
    cases read
    exact ⟨.skipBlanks (blanks ▸ .cons close plain (.refl _)), nofun⟩
  next =>
    obtain ⟨⟨first, later⟩, head, read⟩ := bind_eq_ok_iff.mp read
    obtain ⟨⟨others, last⟩, tail, same⟩ := bind_eq_ok_iff.mp read
    cases same
    obtain ⟨front, holds⟩ := sound _ _ _ head
    obtain ⟨behind, hold⟩ := moreParts_sound plain sound _ _ _ _ tail
    exact ⟨front.trans behind, List.forall_mem_cons.mpr ⟨holds, hold⟩⟩

end

/-- A member of an object is a name and, behind a colon, a value. -/
theorem memberPart_cases {text rest : List Char} {member : String × Json}
    (read : memberPart value text = .ok (member, rest)) :
    ∃ behind between later, skipBlanks text = '"' :: behind ∧
      quoted behind = .ok (member.1, between) ∧ skipBlanks between = ':' :: later ∧
        value later = .ok (member.2, rest) := by
  unfold memberPart at read
  split at read
  next behind blanks =>
    obtain ⟨⟨name, between⟩, quote, read⟩ := bind_eq_ok_iff.mp read
    dsimp only at read
    split at read
    next later colon =>
      obtain ⟨⟨item, last⟩, inner, same⟩ := bind_eq_ok_iff.mp read
      cases same
      exact ⟨behind, between, later, blanks, quote, colon, inner⟩
    next => cases read
  next => cases read

theorem memberPart_sound {kind : Json → Prop} (sound : value.Sound kind) :
    (memberPart value).Sound fun member => kind member.2 := by
  intro text member rest read
  obtain ⟨behind, between, later, blanks, quote, colon, inner⟩ := memberPart_cases read
  obtain ⟨tail, holds⟩ := sound _ _ _ inner
  exact ⟨.skipBlanks (blanks ▸ (quoted_linedTo quote).trans
    (.skipBlanks (colon ▸ .cons ':' rfl tail))), holds⟩

variable {numbers : JsonNumber → Prop}

/-- A text starts with a value that holds no further values. -/
inductive IsScalar : List Char → Json → List Char → Prop
  | null (rest : List Char) : IsScalar ('n' :: 'u' :: 'l' :: 'l' :: rest) .null rest
  | true (rest : List Char) : IsScalar ('t' :: 'r' :: 'u' :: 'e' :: rest) (.bool true) rest
  | false (rest : List Char) : IsScalar ('f' :: 'a' :: 'l' :: 's' :: 'e' :: rest) (.bool false) rest
  | string {text rest : List Char} {s : String} (read : quoted text = .ok (s, rest)) :
      IsScalar ('"' :: text) (.string s) rest
  | negative {text rest : List Char} {n : JsonNumber} (read : unsigned true text = .ok (n, rest)) :
      IsScalar ('-' :: text) (.number n) rest
  | positive {text rest : List Char} {n : JsonNumber} (read : unsigned false text = .ok (n, rest)) :
      IsScalar text (.number n) rest

namespace IsScalar

variable {text rest : List Char} {j : Json}

theorem linedTo (scalar : IsScalar text j rest) : LinedTo text rest := by
  cases scalar with
  | null => exact .of_plain ['n', 'u', 'l', 'l'] rfl (List.all_eq_true.mp rfl)
  | true => exact .of_plain ['t', 'r', 'u', 'e'] rfl (List.all_eq_true.mp rfl)
  | false => exact .of_plain ['f', 'a', 'l', 's', 'e'] rfl (List.all_eq_true.mp rfl)
  | string read => exact quoted_linedTo read
  | negative read => exact .cons '-' rfl (unsigned_takesNumeric _ _ _ _ read).linedTo
  | positive read => exact (unsigned_takesNumeric _ _ _ _ read).linedTo

theorem nests {numbers : JsonNumber → Prop}
    (kinds : ∀ negative text n rest, unsigned negative text = .ok (n, rest) → numbers n)
    (scalar : IsScalar text j rest) (depth : Nat) : Nests numbers depth j := by
  cases scalar with
  | null => exact .null depth
  | true | false => exact .bool depth _
  | string => exact .string depth _
  | negative read | positive read => exact .number depth _ (kinds _ _ _ _ read)

end IsScalar

/-- A value that is read is an array or an object of values that nest less deep, or it holds no
further values. -/
theorem writtenValue_cases {depth : Nat} {text rest : List Char} {j : Json}
    (read : writtenValue (depth + 1) text = .ok (j, rest)) :
    (∃ behind items, depth ≠ 0 ∧ j = .array items ∧ skipBlanks text = '[' :: behind ∧
      arrayBody (writtenValue depth) behind = .ok (items, rest)) ∨
    (∃ behind members, depth ≠ 0 ∧ j = .object members ∧ skipBlanks text = '\x7b' :: behind ∧
      objectBody (writtenValue depth) behind = .ok (members, rest)) ∨
    IsScalar (skipBlanks text) j rest := by
  rw [writtenValue.eq_def] at read
  dsimp only at read
  split at read
  next behind blanks =>
    cases read
    exact Or.inr (Or.inr (blanks ▸ .null rest))
  next behind blanks =>
    cases read
    exact Or.inr (Or.inr (blanks ▸ .true rest))
  next behind blanks =>
    cases read
    exact Or.inr (Or.inr (blanks ▸ .false rest))
  next behind blanks =>
    obtain ⟨⟨s, last⟩, quote, same⟩ := map_eq_ok_iff.mp read
    cases same
    exact Or.inr (Or.inr (blanks ▸ .string quote))
  next behind blanks =>
    obtain ⟨⟨n, last⟩, number, same⟩ := map_eq_ok_iff.mp read
    cases same
    exact Or.inr (Or.inr (blanks ▸ .negative number))
  next behind blanks =>
    split at read
    next => cases read
    next => cases read
    next below proper deep =>
      obtain ⟨⟨items, last⟩, inner, same⟩ := map_eq_ok_iff.mp read
      cases same
      cases deep
      exact Or.inl ⟨behind, items, proper, rfl, blanks, inner⟩
  next behind blanks =>
    split at read
    next => cases read
    next => cases read
    next below proper deep =>
      obtain ⟨⟨members, last⟩, inner, same⟩ := map_eq_ok_iff.mp read
      cases same
      cases deep
      exact Or.inr (Or.inl ⟨behind, members, proper, rfl, blanks, inner⟩)
  -- The last arm but one is that of all other characters, of which only digits start a value.
  next c behind _ _ _ _ _ _ _ blanks =>
    split at read
    next digit =>
      obtain ⟨⟨n, last⟩, number, same⟩ := map_eq_ok_iff.mp read
      cases same
      exact Or.inr (Or.inr (blanks ▸ .positive number))
    next => cases read
  next => cases read

/-- A value that is read nests less than `depth` deep, and its numbers are of the kind that numbers
are read as. -/
theorem writtenValue_nests
    (kinds : ∀ negative text n rest, unsigned negative text = .ok (n, rest) → numbers n)
    (depth : Nat) : (writtenValue (depth + 1)).Sound (Nests numbers depth) := by
  induction depth with
  | zero =>
    intro text j rest read
    rcases writtenValue_cases read with ⟨_, _, deep, -⟩ | ⟨_, _, deep, -⟩ | scalar
    · exact absurd rfl deep
    · exact absurd rfl deep
    · exact ⟨.skipBlanks scalar.linedTo, scalar.nests kinds 0⟩
  | succ depth ih =>
    intro text j rest read
    rcases writtenValue_cases read with ⟨behind, items, -, rfl, blanks, inner⟩ |
      ⟨behind, members, -, rfl, blanks, inner⟩ | scalar
    · rw [arrayBody_eq] at inner
      obtain ⟨takes, inside⟩ := partsBody_sound rfl ih _ _ _ inner
      exact ⟨.skipBlanks (blanks ▸ .cons '[' rfl takes), .array depth _ inside⟩
    · rw [objectBody_eq] at inner
      obtain ⟨takes, inside⟩ := partsBody_sound rfl (memberPart_sound ih) _ _ _ inner
      exact ⟨.skipBlanks (blanks ▸ .cons '\x7b' rfl takes), .object depth _ inside⟩
    · exact ⟨.skipBlanks scalar.linedTo, scalar.nests kinds (depth + 1)⟩

/-- A value that is read fits once its names are put in order. -/
theorem writtenValue_sound
    (kinds : ∀ negative text n rest, unsigned negative text = .ok (n, rest) → numbers n)
    (depth : Nat) : (writtenValue (depth + 1)).Sound fun j => Fits numbers depth (normalize j) :=
  fun _ _ _ read => (writtenValue_nests kinds depth _ _ _ read).imp_right Nests.fits_normalize

/-- A text that is JSON, however deep it nests. -/
def IsDocument (text : String) : Prop := ∃ depth value rest,
  writtenValue (depth + 1) text.toList = .ok (value, rest) ∧ skipBlanks rest = []

theorem lined_of_isDocument {text : String} (document : IsDocument text) : Lined text.toList := by
  obtain ⟨depth, value, rest, front, last⟩ := document
  have sound : (writtenValue (depth + 1)).Sound fun j => Fits (fun _ => True) depth (normalize j) :=
    writtenValue_sound (fun _ _ _ _ _ => trivial) depth
  obtain ⟨takes, -⟩ := sound _ _ _ front
  have behind : LinedTo rest [] := .skipBlanks (last ▸ .refl [])
  obtain ⟨whole, split, lined⟩ := takes.trans behind
  rw [List.append_nil] at split
  exact split ▸ lined

/-- A text that is read is a document, and its value fits. -/
theorem read_sound
    (kinds : ∀ negative text n rest, unsigned negative text = .ok (n, rest) → numbers n)
    {text : String} {j : Json} (returned : read text = .ok j) :
    IsDocument text ∧ Fits numbers deepest j := by
  obtain ⟨written, whole, rfl⟩ := map_eq_ok_iff.mp returned
  obtain ⟨⟨value, rest⟩, front, same⟩ := bind_eq_ok_iff.mp whole
  dsimp only at same
  split at same
  next blank =>
    cases same
    exact ⟨⟨deepest, _, rest, front, List.isEmpty_iff.mp blank⟩,
      (writtenValue_sound kinds deepest _ _ _ front).2⟩
  next => cases same

end Phrasebook.Json
