import Mathlib
import Phrasebook.Proofs.Text.Bytes
import Phrasebook.Text.Entity

/-!
# Decoding is one pass over the references

A reference is an ampersand, a name and a semicolon, where the name is one of the table or a number
that is the code of a character. A pass goes through a text once, from left to right: it takes a
reference for its character and every other character for itself. Decoding makes such a pass, but
takes numbers with a plus sign for references too. So it is the pass over the references exactly if
it comes across no number with a sign.
-/

namespace Phrasebook.Text.Entity

/-! ## Numbers -/

/-- A character is the digit of a value, letters in either case. -/
def IsDigit (base : Nat) (c : Char) (value : Nat) : Prop :=
  value < base ∧ (c = Nat.digitChar value ∨ c = (Nat.digitChar value).toUpper)

/-- Digits, at least one, spell a number, the highest digit first. -/
def Spells (base : Nat) (digits : List Char) (n : Nat) : Prop :=
  digits ≠ [] ∧ ∃ values, List.Forall₂ (IsDigit base) digits values ∧
    n = Nat.ofDigits base values.reverse

/-- What holds of all codes in a range holds of the characters in that range. -/
private theorem of_mem_range {P : Char → Prop} {low high c : Char}
    (all : ∀ n, low.toNat ≤ n → n ≤ high.toNat → P (Char.ofNat n)) (lower : low ≤ c)
    (upper : c ≤ high) : P c := by
  rw [← Char.ofNat_toNat c]
  exact all c.toNat (UInt32.le_iff_toNat_le.mp lower) (UInt32.le_iff_toNat_le.mp upper)

theorem decimalValue?_eq_some_iff (c : Char) (value : Nat) :
    decimalValue? c = some value ↔ IsDigit 10 c value := by
  constructor
  · intro found
    unfold decimalValue? at found
    split at found
    next digit =>
      have range : 48 ≤ c.val ∧ c.val ≤ 57 := by simpa [Char.isDigit] using digit
      have lower : '0' ≤ c := range.1
      have upper : c ≤ '9' := range.2
      cases found
      refine of_mem_range (P := fun c => IsDigit 10 c (c.toNat - '0'.toNat)) (fun n low high => ?_)
        lower upper
      simp only [Char.reduceToNat] at low high
      interval_cases n <;> exact ⟨by decide, .inl rfl⟩
    next => cases found
  · rintro ⟨below, same⟩
    interval_cases value <;> rcases same with rfl | rfl <;> rfl

theorem hexValue?_eq_some_iff (c : Char) (value : Nat) :
    hexValue? c = some value ↔ IsDigit 16 c value := by
  constructor
  · intro found
    unfold hexValue? at found
    split at found
    next small =>
      obtain ⟨lower, upper⟩ : 'a' ≤ c ∧ c ≤ 'f' := by simpa using small
      cases found
      refine of_mem_range (P := fun c => IsDigit 16 c (c.toNat - 'a'.toNat + 10))
        (fun n low high => ?_) lower upper
      simp only [Char.reduceToNat] at low high
      interval_cases n <;> exact ⟨by decide, .inl rfl⟩
    next =>
      split at found
      next capital =>
        obtain ⟨lower, upper⟩ : 'A' ≤ c ∧ c ≤ 'F' := by simpa using capital
        cases found
        refine of_mem_range (P := fun c => IsDigit 16 c (c.toNat - 'A'.toNat + 10))
          (fun n low high => ?_) lower upper
        simp only [Char.reduceToNat] at low high
        interval_cases n <;> exact ⟨by decide, .inr rfl⟩
      next =>
        obtain ⟨below, same⟩ := (decimalValue?_eq_some_iff c value).mp found
        exact ⟨by omega, same⟩
  · rintro ⟨below, same⟩
    interval_cases value <;> rcases same with rfl | rfl <;> rfl

/-- Reading digits behind a number that was read already. -/
theorem foldlM_digits {base : Nat} {value? : Char → Option Nat}
    (digit : ∀ c value, value? c = some value ↔ IsDigit base c value) (digits : List Char)
    (start n : Nat) :
    digits.foldlM (fun n c => (value? c).map (n * base + ·)) start = some n ↔
      ∃ values, List.Forall₂ (IsDigit base) digits values ∧
        n = start * base ^ digits.length + Nat.ofDigits base values.reverse := by
  induction digits generalizing start with
  | nil =>
    simp only [List.foldlM_nil, List.forall₂_nil_left_iff, exists_eq_left]
    simp [eq_comm]
  | cons c digits ih =>
    rw [List.foldlM_cons]
    simp only [Option.bind_eq_bind, Option.bind_eq_some_iff, Option.map_eq_some_iff, ih, digit,
      List.forall₂_cons_left_iff]
    -- The first digit is multiplied once for each digit that follows.
    have shifted {value : Nat} {values : List Nat}
        (others : List.Forall₂ (IsDigit base) digits values) :
        (start * base + value) * base ^ digits.length + Nat.ofDigits base values.reverse =
          start * base ^ (c :: digits).length + Nat.ofDigits base (value :: values).reverse := by
      rw [List.reverse_cons, Nat.ofDigits_append, Nat.ofDigits_singleton, List.length_reverse,
        ← others.length_eq, List.length_cons]
      ring
    constructor
    · rintro ⟨next, ⟨value, first, rfl⟩, values, others, rfl⟩
      exact ⟨value :: values, ⟨value, values, first, others, rfl⟩, shifted others⟩
    · rintro ⟨-, ⟨value, values, first, others, rfl⟩, rfl⟩
      exact ⟨start * base + value, ⟨value, first, rfl⟩, values, others, (shifted others).symm⟩

theorem isAlphanum_of_isDigit {base value : Nat} {c : Char} (small : base ≤ 16)
    (digit : IsDigit base c value) : c.isAlphanum = true := by
  obtain ⟨below, same⟩ := digit
  have bound : value < 16 := Nat.lt_of_lt_of_le below small
  clear below
  interval_cases value <;> rcases same with rfl | rfl <;> rfl

theorem isAlphanum_of_spells {base n : Nat} {digits : List Char} (small : base ≤ 16)
    (spells : Spells base digits n) : ∀ c ∈ digits, c.isAlphanum = true := by
  obtain ⟨-, values, spelled, -⟩ := spells
  clear n
  induction spelled with
  | nil => exact List.forall_mem_nil _
  | cons digit _ ih => exact List.forall_mem_cons.mpr ⟨isAlphanum_of_isDigit small digit, ih⟩

/-- A number is read where digits spell it, with a plus sign in front of them or not. -/
theorem number?_eq_some_iff {base : Nat} (small : base ≤ 16) {value? : Char → Option Nat}
    (digit : ∀ c value, value? c = some value ↔ IsDigit base c value) (digits : List Char)
    (n : Nat) : number? base value? digits = some n ↔
      Spells base digits n ∨ ∃ unsigned, digits = '+' :: unsigned ∧ Spells base unsigned n := by
  have plain (digits : List Char) :
      (if digits.isEmpty then none
        else digits.foldlM (fun n c => (value? c).map (n * base + ·)) 0) = some n ↔
      Spells base digits n := by
    cases digits with
    | nil => simp [Spells]
    | cons c digits =>
      rw [List.isEmpty_cons, if_neg Bool.false_ne_true, foldlM_digits digit]
      simp only [Spells, ne_eq, reduceCtorEq, not_false_eq_true, true_and, zero_mul, zero_add]
  unfold number?
  split
  next unsigned =>
    -- A plus sign is no digit, so what follows it is all that can be spelled.
    have signed : ¬ Spells base ('+' :: unsigned) n := fun spells =>
      absurd (isAlphanum_of_spells small spells '+' List.mem_cons_self) (by decide)
    refine (plain unsigned).trans ?_
    simp [signed]
  next unsigned =>
    exact (plain digits).trans (or_iff_left fun ⟨rest, same, _⟩ => unsigned rest same).symm

theorem scalar?_eq_some_iff (n : Nat) (c : Char) : scalar? n = some c ↔ c.toNat = n := by
  unfold scalar?
  constructor
  · intro found
    split at found
    next valid =>
      cases found
      have valid : n.isValidChar := by
        simp only [Bool.or_eq_true, Bool.and_eq_true, decide_eq_true_eq] at valid
        unfold Nat.isValidChar
        omega
      simp [Char.ofNat, valid, Char.toNat, Char.ofNatAux]
    next => cases found
  · rintro rfl
    have valid := c.valid
    have scalar : (c.toNat < 0xD800 || (0xE000 ≤ c.toNat && c.toNat < 0x110000)) = true := by
      simp only [Bool.or_eq_true, Bool.and_eq_true, decide_eq_true_eq]
      unfold UInt32.isValidChar Nat.isValidChar at valid
      unfold Char.toNat
      omega
    rw [if_pos scalar, Char.ofNat_toNat]

/-! ## Names -/

/-- What the name of a reference stands for: the character of an entry, or the one with a code. -/
inductive Refers : List Char → Char → Prop where
  | entry (name : String) (c : Char) (listed : (name, c) ∈ names) : Refers name.toList c
  | decimal (digits : List Char) (c : Char) (code : Spells 10 digits c.toNat) :
      Refers ('#' :: digits) c
  | hexadecimal (mark : Char) (marks : mark = 'x' ∨ mark = 'X') (digits : List Char) (c : Char)
      (code : Spells 16 digits c.toNat) : Refers ('#' :: mark :: digits) c

/-- A name that is none, as there is a plus sign before its digits. -/
inductive RefersSigned : List Char → Char → Prop where
  | decimal (digits : List Char) (c : Char) (code : Spells 10 digits c.toNat) :
      RefersSigned ('#' :: '+' :: digits) c
  | hexadecimal (mark : Char) (marks : mark = 'x' ∨ mark = 'X') (digits : List Char) (c : Char)
      (code : Spells 16 digits c.toNat) : RefersSigned ('#' :: mark :: '+' :: digits) c

/-- What decoding takes for the name of a reference. -/
def PassesFor (name : List Char) (c : Char) : Prop := Refers name c ∨ RefersSigned name c

theorem lookup_names_iff (name : String) (c : Char) :
    names.lookup name = some c ↔ (name, c) ∈ names := by
  constructor
  · intro found
    obtain ⟨before, after, split, -⟩ := List.lookup_eq_some_iff.mp found
    rw [split]
    exact List.mem_append_right before List.mem_cons_self
  · have all : ∀ entry ∈ names, names.lookup entry.1 = some entry.2 := by decide
    exact all (name, c)

theorem number?_bind_scalar?_iff {base : Nat} (small : base ≤ 16) {value? : Char → Option Nat}
    (digit : ∀ c value, value? c = some value ↔ IsDigit base c value) (digits : List Char)
    (c : Char) : (number? base value? digits).bind scalar? = some c ↔
      Spells base digits c.toNat ∨
        ∃ unsigned, digits = '+' :: unsigned ∧ Spells base unsigned c.toNat := by
  simp only [Option.bind_eq_some_iff, scalar?_eq_some_iff, exists_eq_right',
    number?_eq_some_iff small digit]

theorem decimal?_iff (digits : List Char) (c : Char) :
    (number? 10 decimalValue? digits).bind scalar? = some c ↔ Spells 10 digits c.toNat ∨
      ∃ unsigned, digits = '+' :: unsigned ∧ Spells 10 unsigned c.toNat :=
  number?_bind_scalar?_iff (by decide) decimalValue?_eq_some_iff digits c

theorem hexadecimal?_iff (digits : List Char) (c : Char) :
    (number? 16 hexValue? digits).bind scalar? = some c ↔ Spells 16 digits c.toNat ∨
      ∃ unsigned, digits = '+' :: unsigned ∧ Spells 16 unsigned c.toNat :=
  number?_bind_scalar?_iff (by decide) hexValue?_eq_some_iff digits c

/-- The first digit of a number is a digit. -/
theorem exists_digit {base : Nat} {c : Char} {digits : List Char} {n : Nat}
    (spells : Spells base (c :: digits) n) : ∃ value, IsDigit base c value := by
  obtain ⟨-, values, spelled, -⟩ := spells
  obtain ⟨value, -, digit, -⟩ := List.forall₂_cons_left_iff.mp spelled
  exact ⟨value, digit⟩

theorem not_isDigit_of_mark {mark : Char} (marks : mark = 'x' ∨ mark = 'X') (value : Nat) :
    ¬ IsDigit 10 mark value := by
  rintro ⟨below, same⟩
  rcases marks with rfl | rfl <;> interval_cases value <;> revert same <;> decide

/-- A number without a mark is read as a decimal one. -/
theorem named?_decimal {digits : List Char}
    (unmarked : ∀ rest, digits ≠ 'x' :: rest ∧ digits ≠ 'X' :: rest) :
    named? ('#' :: digits) = (number? 10 decimalValue? digits).bind scalar? := by
  unfold named?
  split
  next rest same => exact absurd (List.cons.inj same).2 (unmarked rest).1
  next rest same => exact absurd (List.cons.inj same).2 (unmarked rest).2
  next rest _ _ same => rw [(List.cons.inj same).2]
  next _ _ other => exact absurd rfl (other digits)

theorem named?_eq_some_iff (name : List Char) (c : Char) :
    named? name = some c ↔ PassesFor name c := by
  constructor
  · intro found
    unfold named? at found
    split at found
    next digits =>
      rcases (hexadecimal?_iff digits c).mp found with code | ⟨unsigned, rfl, code⟩
      · exact .inl (.hexadecimal 'x' (.inl rfl) digits c code)
      · exact .inr (.hexadecimal 'x' (.inl rfl) unsigned c code)
    next digits =>
      rcases (hexadecimal?_iff digits c).mp found with code | ⟨unsigned, rfl, code⟩
      · exact .inl (.hexadecimal 'X' (.inr rfl) digits c code)
      · exact .inr (.hexadecimal 'X' (.inr rfl) unsigned c code)
    next digits _ _ =>
      rcases (decimal?_iff digits c).mp found with code | ⟨unsigned, rfl, code⟩
      · exact .inl (.decimal digits c code)
      · exact .inr (.decimal unsigned c code)
    next =>
      have entry := Refers.entry _ c ((lookup_names_iff _ c).mp found)
      rw [String.toList_ofList] at entry
      exact .inl entry
  · rintro (refers | signed)
    · cases refers with
      | entry name c listed =>
        have all : ∀ entry ∈ names, named? entry.1.toList = some entry.2 := by decide
        exact all _ listed
      | decimal digits c code =>
        have unmarked : ∀ rest, digits ≠ 'x' :: rest ∧ digits ≠ 'X' :: rest := by
          refine fun rest => ⟨?_, ?_⟩ <;> rintro rfl
          · obtain ⟨value, digit⟩ := exists_digit code
            exact not_isDigit_of_mark (.inl rfl) value digit
          · obtain ⟨value, digit⟩ := exists_digit code
            exact not_isDigit_of_mark (.inr rfl) value digit
        rw [named?_decimal unmarked]
        exact (decimal?_iff digits c).mpr (.inl code)
      | hexadecimal mark marks digits c code =>
        have read := (hexadecimal?_iff digits c).mpr (.inl code)
        rcases marks with rfl | rfl <;> exact read
    · cases signed with
      | decimal digits c code =>
        exact (decimal?_iff ('+' :: digits) c).mpr (.inr ⟨digits, rfl, code⟩)
      | hexadecimal mark marks digits c code =>
        have read := (hexadecimal?_iff ('+' :: digits) c).mpr (.inr ⟨digits, rfl, code⟩)
        rcases marks with rfl | rfl <;> exact read

/-! ## Passes -/

/-- A reference stands before the rest of a text, behind its ampersand: a name of at most nine bytes
and a semicolon. -/
def StandsBefore (refers : List Char → Char → Prop) (text name : List Char) (c : Char)
    (rest : List Char) : Prop :=
  text = name ++ ';' :: rest ∧ byteLength name ≤ 9 ∧ refers name c

/-- One pass from left to right. A reference is taken for its character, and the pass goes on behind
it; any other character is taken for itself. The names of the references are listed. -/
inductive Pass (refers : List Char → Char → Prop) :
    (text : List Char) → (names : List (List Char)) → (out : List Char) → Prop where
  | done : Pass refers [] [] []
  | reference {text name rest : List Char} {c : Char} {names : List (List Char)} {out : List Char}
      (stands : StandsBefore refers text name c rest) (more : Pass refers rest names out) :
      Pass refers ('&' :: text) (name :: names) (c :: out)
  | plain {text : List Char} {c : Char} {names : List (List Char)} {out : List Char}
      (none : c = '&' → ∀ name d rest, ¬ StandsBefore refers text name d rest)
      (more : Pass refers text names out) : Pass refers (c :: text) names (c :: out)

theorem isAlphanum_of_mark {mark : Char} (marks : mark = 'x' ∨ mark = 'X') :
    mark.isAlphanum = true := by
  rcases marks with rfl | rfl <;> decide

theorem Refers.mem_cases {name : List Char} {c : Char} (refers : Refers name c) :
    ∀ d ∈ name, d.isAlphanum = true ∨ d = '#' := by
  cases refers with
  | entry name c listed =>
    have all : ∀ entry ∈ names, entry.1.toList.all Char.isAlphanum = true := by decide
    exact fun d member => .inl (List.all_eq_true.mp (all _ listed) d member)
  | decimal digits c code =>
    exact List.forall_mem_cons.mpr ⟨.inr rfl, fun d member =>
      .inl (isAlphanum_of_spells (by decide) code d member)⟩
  | hexadecimal mark marks digits c code =>
    exact List.forall_mem_cons.mpr ⟨.inr rfl, List.forall_mem_cons.mpr
      ⟨.inl (isAlphanum_of_mark marks), fun d member =>
        .inl (isAlphanum_of_spells (by decide) code d member)⟩⟩

/-- A plus sign stands between the mark of a number and its digits. -/
theorem RefersSigned.mem_cases {name : List Char} {c : Char} (signed : RefersSigned name c) :
    '+' ∈ name ∧ ∀ d ∈ name, d.isAlphanum = true ∨ d = '#' ∨ d = '+' := by
  cases signed with
  | decimal digits c code =>
    refine ⟨by simp, ?_⟩
    exact List.forall_mem_cons.mpr ⟨.inr (.inl rfl), List.forall_mem_cons.mpr ⟨.inr (.inr rfl),
      fun d member => .inl (isAlphanum_of_spells (by decide) code d member)⟩⟩
  | hexadecimal mark marks digits c code =>
    refine ⟨by simp, ?_⟩
    exact List.forall_mem_cons.mpr ⟨.inr (.inl rfl), List.forall_mem_cons.mpr
      ⟨.inl (isAlphanum_of_mark marks), List.forall_mem_cons.mpr ⟨.inr (.inr rfl),
        fun d member => .inl (isAlphanum_of_spells (by decide) code d member)⟩⟩⟩

theorem RefersSigned.not_refers {name : List Char} {c d : Char} (signed : RefersSigned name c) :
    ¬ Refers name d := fun refers => by
  rcases refers.mem_cases '+' signed.mem_cases.1 with alphanum | mark
  · exact absurd alphanum (by decide)
  · exact absurd mark (by decide)

/-- Neither semicolons nor ampersands are in names. -/
theorem plain_of_passesFor {name : List Char} {c : Char} (passes : PassesFor name c) :
    ∀ d ∈ name, d ≠ ';' ∧ d ≠ '&' := by
  intro d member
  have known : d.isAlphanum = true ∨ d = '#' ∨ d = '+' := by
    rcases passes with refers | signed
    · exact (refers.mem_cases d member).imp_right .inl
    · exact signed.mem_cases.2 d member
  constructor <;> rintro rfl <;> revert known <;> decide

/-- The text before the first semicolon is that of the reference. -/
theorem takeWhile_name {name : List Char} {c : Char} (passes : PassesFor name c)
    (rest : List Char) : (name ++ ';' :: rest).takeWhile (· != ';') = name := by
  have plain : ∀ d ∈ name, (d != ';') = true := fun d member =>
    bne_iff_ne.mpr (plain_of_passesFor passes d member).1
  rw [List.takeWhile_append_of_pos plain, List.takeWhile_cons_of_neg (by decide), List.append_nil]

/-- A text goes on behind its first semicolon if it has one. -/
theorem exists_rest {text : List Char}
    (shorter : (text.takeWhile (· != ';')).length < text.length) :
    ∃ rest, text = text.takeWhile (· != ';') ++ ';' :: rest := by
  induction text with
  | nil => simp at shorter
  | cons c text ih =>
    by_cases here : c = ';'
    · subst here
      exact ⟨text, by simp⟩
    · rw [List.takeWhile_cons, if_pos (bne_iff_ne.mpr here)] at shorter ⊢
      obtain ⟨rest, split⟩ := ih (by simpa using shorter)
      exact ⟨rest, by rw [List.cons_append, ← split]⟩

theorem reference?_eq_some_iff (text : List Char) (c : Char) (length : Nat) :
    reference? text = some (c, length) ↔ ∃ name rest,
      StandsBefore PassesFor text name c rest ∧ length = name.length + 1 := by
  unfold reference?
  constructor
  · intro found
    dsimp only at found
    split at found
    next fits =>
      simp only [Bool.and_eq_true, decide_eq_true_eq] at fits
      obtain ⟨d, named, same⟩ := Option.map_eq_some_iff.mp found
      obtain ⟨rfl, rfl⟩ := Prod.mk.inj same
      obtain ⟨rest, split⟩ := exists_rest fits.1
      exact ⟨_, rest, ⟨split, fits.2, (named?_eq_some_iff _ _).mp named⟩, rfl⟩
    next => cases found
  · rintro ⟨name, rest, ⟨rfl, short, passes⟩, rfl⟩
    have taken := takeWhile_name passes rest
    have fits : (name.length < (name ++ ';' :: rest).length &&
        decide (byteLength name ≤ maxNameLength)) = true := by
      simp [maxNameLength, short]
    simp only [taken, if_pos fits, (named?_eq_some_iff name c).mpr passes, Option.map_some]

theorem decodeFrom_eq_drop (skip : Nat) (text : List Char) :
    decodeFrom skip text = decode (text.drop skip) := by
  induction text generalizing skip with
  | nil => cases skip <;> rfl
  | cons c text ih =>
    cases skip with
    | zero => rfl
    | succ skip => rw [decodeFrom, ih, List.drop_succ_cons]

theorem decode_cons_of_ne {c : Char} (differs : c ≠ '&') (text : List Char) :
    decode (c :: text) = c :: decode text := by
  rw [decode, decodeFrom, if_neg differs, decode]

theorem decode_of_none {text : List Char} (none : reference? text = none) :
    decode ('&' :: text) = '&' :: decode text := by
  rw [decode, decodeFrom, if_pos rfl, none, decode]

theorem decode_of_standsBefore {text name rest : List Char} {c : Char}
    (stands : StandsBefore PassesFor text name c rest) :
    decode ('&' :: text) = c :: decode rest := by
  have taken := (reference?_eq_some_iff text c _).mpr ⟨name, rest, stands, rfl⟩
  have left : text.drop (name.length + 1) = rest := by
    rw [stands.1, ← List.drop_drop, List.drop_left, List.drop_succ_cons, List.drop_zero]
  rw [decode, decodeFrom, if_pos rfl, taken]
  dsimp only
  rw [decodeFrom_eq_drop, left]

/-- Decoding makes a pass. -/
theorem exists_pass (text : List Char) : ∃ names, Pass PassesFor text names (decode text) := by
  -- A reference is passed as a whole, so the induction is on the length of what is left.
  induction length : text.length using Nat.strong_induction_on generalizing text with
  | _ n ih =>
    subst length
    cases text with
    | nil => exact ⟨[], .done⟩
    | cons c text =>
      obtain ⟨names, more⟩ := ih text.length (by simp) text rfl
      by_cases ampersand : c = '&'
      · subst ampersand
        cases found : reference? text with
        | none =>
          rw [decode_of_none found]
          refine ⟨names, .plain (fun _ name d rest stands => ?_) more⟩
          have taken := (reference?_eq_some_iff text d _).mpr ⟨name, rest, stands, rfl⟩
          rw [found] at taken
          cases taken
        | some reference =>
          obtain ⟨d, length⟩ := reference
          obtain ⟨name, rest, stands, -⟩ := (reference?_eq_some_iff text d length).mp found
          have shorter : rest.length < ('&' :: text).length := by
            rw [stands.1]
            simp only [List.length_cons, List.length_append]
            omega
          obtain ⟨behind, more⟩ := ih _ shorter rest rfl
          rw [decode_of_standsBefore stands]
          exact ⟨name :: behind, .reference stands more⟩
      · rw [decode_cons_of_ne ampersand]
        exact ⟨names, .plain (fun same => absurd same ampersand) more⟩

/-! ## Comparing passes -/

theorem StandsBefore.passes {text name rest : List Char} {c : Char}
    (stands : StandsBefore Refers text name c rest) : StandsBefore PassesFor text name c rest :=
  ⟨stands.1, stands.2.1, .inl stands.2.2⟩

/-- At most one reference stands before the rest of a text. -/
theorem StandsBefore.unique {text name other rest more : List Char} {c d : Char}
    (first : StandsBefore PassesFor text name c rest)
    (second : StandsBefore PassesFor text other d more) : other = name ∧ d = c ∧ more = rest := by
  obtain ⟨rfl, -, passes⟩ := first
  obtain ⟨same, -, passes'⟩ := second
  have taken := takeWhile_name passes rest
  have taken' := takeWhile_name passes' more
  obtain rfl : other = name := by rw [← taken', ← same, taken]
  have named := (named?_eq_some_iff other c).mpr passes
  rw [(named?_eq_some_iff other d).mpr passes'] at named
  exact ⟨rfl, Option.some.inj named, (List.cons.inj (List.append_cancel_left same)).2.symm⟩

/-- A text is passed in one way only. -/
theorem Pass.unique {text out out' : List Char} {names names' : List (List Char)}
    (first : Pass PassesFor text names out) (second : Pass PassesFor text names' out') :
    names' = names ∧ out' = out := by
  -- At each ampersand either one reference stands before the rest or none does, so that both passes
  -- take the same step.
  induction first generalizing names' out' with
  | done =>
    cases second
    exact ⟨rfl, rfl⟩
  | reference stands more ih =>
    cases second with
    | reference stands' more' =>
      obtain ⟨rfl, rfl, rfl⟩ := stands.unique stands'
      obtain ⟨rfl, rfl⟩ := ih more'
      exact ⟨rfl, rfl⟩
    | plain none' more' => exact absurd stands (none' rfl _ _ _)
  | plain none more ih =>
    cases second with
    | reference stands' more' => exact absurd stands' (none rfl _ _ _)
    | plain none' more' =>
      obtain ⟨rfl, rfl⟩ := ih more'
      exact ⟨rfl, rfl⟩

/-- A pass that comes across no number with a sign is one over the references. -/
theorem Pass.of_unsigned {text out : List Char} {names : List (List Char)}
    (pass : Pass PassesFor text names out)
    (unsigned : ∀ name ∈ names, ∀ c, ¬ RefersSigned name c) : Pass Refers text names out := by
  induction pass with
  | done => exact .done
  | reference stands more ih =>
    rw [List.forall_mem_cons] at unsigned
    obtain ⟨split, short, passes⟩ := stands
    exact .reference ⟨split, short, passes.resolve_right (unsigned.1 _)⟩ (ih unsigned.2)
  | plain none more ih =>
    exact .plain (fun same name d rest stands => none same name d rest stands.passes) (ih unsigned)

/-- A text without ampersands is passed as it is. -/
theorem Pass.copied {refers : List Char → Char → Prop} {text : List Char}
    (plain : '&' ∉ text) : Pass refers text [] text := by
  induction text with
  | nil => exact .done
  | cons c text ih =>
    rw [List.mem_cons, not_or] at plain
    exact .plain (fun same => absurd same.symm plain.1) (ih plain.2)

/-- Characters in front of a text are passed as they are if no ampersand is among them. -/
theorem Pass.exists_of_append {refers : List Char → Char → Prop} {front text out : List Char}
    {names : List (List Char)} (plain : ∀ d ∈ front, d ≠ '&')
    (pass : Pass refers (front ++ text) names out) :
    ∃ rest, out = front ++ rest ∧ Pass refers text names rest := by
  induction front generalizing out with
  | nil => exact ⟨out, rfl, pass⟩
  | cons c front ih =>
    rw [List.forall_mem_cons] at plain
    cases pass with
    | reference stands more => exact absurd rfl plain.1
    | plain none more =>
      obtain ⟨rest, rfl, behind⟩ := ih plain.2 more
      exact ⟨rest, rfl, behind⟩

/-- Of the two passes over a text, the one that takes numbers with a sign for references yields less
wherever it comes across one. -/
theorem Pass.length_le {text out out' : List Char} {names names' : List (List Char)}
    (wide : Pass PassesFor text names out) (narrow : Pass Refers text names' out') :
    out.length ≤ out'.length ∧
      ((∃ name ∈ names, ∃ c, RefersSigned name c) → out.length < out'.length) := by
  -- The passes part only where the wide one takes a reference and the narrow one an ampersand.
  induction wide generalizing names' out' with
  | done => exact ⟨Nat.zero_le _, by simp⟩
  | @reference text name rest c names out stands more ih =>
    cases narrow with
    | reference stands' more' =>
      obtain ⟨rfl, rfl, rfl⟩ := stands.unique stands'.passes
      obtain ⟨le, lt⟩ := ih more'
      refine ⟨Nat.succ_le_succ le, ?_⟩
      rintro ⟨signed, member, d, sign⟩
      rcases List.mem_cons.mp member with rfl | later
      · exact absurd stands'.2.2 sign.not_refers
      · exact Nat.succ_lt_succ (lt ⟨signed, later, d, sign⟩)
    | plain none' more' =>
      -- What passes for a name is copied here, with its semicolon.
      have plain : ∀ d ∈ name ++ [';'], d ≠ '&' := List.forall_mem_append.mpr
        ⟨fun d member => (plain_of_passesFor stands.2.2 d member).2,
          List.forall_mem_singleton.mpr (by decide)⟩
      rw [stands.1, ← List.singleton_append, ← List.append_assoc] at more'
      obtain ⟨copied, rfl, behind⟩ := Pass.exists_of_append plain more'
      have le := (ih behind).1
      simp only [List.length_cons, List.length_append]
      omega
  | plain none more ih =>
    cases narrow with
    | reference stands' more' => exact absurd stands'.passes (none rfl _ _ _)
    | plain none' more' =>
      obtain ⟨le, lt⟩ := ih more'
      exact ⟨Nat.succ_le_succ le, fun signed => Nat.succ_lt_succ (lt signed)⟩

/-- Decoding is the one pass that takes numbers with a plus sign for references too. It is the pass
over the references exactly if it comes across no such number. -/
theorem decode_pass (text : List Char) : ∃ names, Pass PassesFor text names (decode text) ∧
    (∀ others out, Pass PassesFor text others out → others = names ∧ out = decode text) ∧
    ((∃ others, Pass Refers text others (decode text)) ↔
      ∀ name ∈ names, ∀ c, ¬ RefersSigned name c) := by
  obtain ⟨names, pass⟩ := exists_pass text
  refine ⟨names, pass, fun others out => pass.unique, ?_, fun unsigned =>
    ⟨names, pass.of_unsigned unsigned⟩⟩
  rintro ⟨others, narrow⟩ name member c signed
  exact Nat.lt_irrefl _ ((pass.length_le narrow).2 ⟨name, member, c, signed⟩)

/-- A number with a plus sign is decoded, although it is no reference and the pass leaves it. -/
theorem decode_takes_signed :
    decode "&#+65;".toList = ['A'] ∧ Pass Refers "&#+65;".toList [] "&#+65;".toList ∧
      ¬ ∃ names, Pass Refers "&#+65;".toList names (decode "&#+65;".toList) := by
  have signed : StandsBefore PassesFor "#+65;".toList "#+65".toList 'A' [] :=
    ⟨rfl, by decide, (named?_eq_some_iff _ _).mp (by decide)⟩
  have unlisted (name : List Char) (c : Char) (rest : List Char) :
      ¬ StandsBefore Refers "#+65;".toList name c rest := fun stands => by
    obtain ⟨rfl, rfl, rfl⟩ := signed.unique stands.passes
    rcases stands.2.2.mem_cases '+' (by decide) with alphanum | mark
    · exact absurd alphanum (by decide)
    · exact absurd mark (by decide)
  refine ⟨by decide, .plain (fun _ => unlisted) (.copied (by decide)), ?_⟩
  rintro ⟨names, pass⟩
  have decoded : decode "&#+65;".toList = ['A'] := by decide
  rw [decoded] at pass
  cases pass with
  | reference stands more => exact unlisted _ _ _ stands

end Phrasebook.Text.Entity
