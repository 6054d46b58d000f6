import Phrasebook.Proofs.Json.Reading
import Phrasebook.Proofs.Syntax.Words

/-!
# Tokens of documents

The strings, the words and the numbers of a document in JSON are tokens of a module as well, and each
of them ends where the document's part ends. For a number this holds where a value may end: a word or
a point directly behind it would be read on.
-/

namespace Phrasebook.Syntax

open Json (skipBlanks)
open Text (byteLength)

/-! ## Tokens -/

/-- A token of a kind stands at the front of a text, and nothing is passed over before it. -/
structure Lexes (text : List Char) (kind : Token → Prop) (rest : List Char) : Prop where
  gap : ∀ newline offset, skipGap .blanks newline offset text = ⟨newline, offset, text⟩
  token : ∀ fuel newline offset, text.length < fuel → ∃ token stop, kind token ∧
    tokenAt fuel ⟨newline, offset, text⟩ = ⟨token, ⟨offset, stop⟩, newline, rest⟩ ∧
      stop + byteLength rest = offset + byteLength text

theorem Lexes.imp {text rest : List Char} {kind kind' : Token → Prop} (lexes : Lexes text kind rest)
    (weaker : ∀ t, kind t → kind' t) : Lexes text kind' rest :=
  ⟨lexes.gap, fun fuel newline offset enough =>
    let ⟨token, stop, known, found⟩ := lexes.token fuel newline offset enough
    ⟨token, stop, weaker token known, found⟩⟩

theorem lexes_end : Lexes [] (· = .endOfText) [] :=
  ⟨fun _ _ => rfl, fun _ _ offset _ => ⟨.endOfText, offset, rfl, rfl, rfl⟩⟩

/-- The marks that structure a document, with the signs that they are read as. -/
def marks : List (Char × String) :=
  [('[', "["), (']', "]"), ('\x7b', "\x7b"), ('\x7d', "\x7d"), (',', ","), (':', ":")]

theorem lexes_mark {c : Char} {sign : String} (known : (c, sign) ∈ marks) (rest : List Char) :
    Lexes (c :: rest) (· = .sign sign) rest := by
  simp only [marks, List.mem_cons, Prod.mk.injEq, List.not_mem_nil, or_false] at known
  rcases known with ⟨rfl, rfl⟩ | ⟨rfl, rfl⟩ | ⟨rfl, rfl⟩ | ⟨rfl, rfl⟩ | ⟨rfl, rfl⟩ | ⟨rfl, rfl⟩
  all_goals exact ⟨fun _ _ => rfl, fun _ _ offset _ => ⟨_, offset + 1, rfl, rfl, by
    rw [Text.byteLength_cons, Nat.add_assoc]; rfl⟩⟩

/-! ### Strings -/

/-- Four hexadecimal digits are read as one unit. -/
theorem unicodeEscape?_of_hexUnit? {text rest : List Char} {unit : Nat}
    (read : Json.hexUnit? text = some (unit, rest)) :
    unicodeEscape? text = some (unit, 4, rest) ∧ text.length = rest.length + 4 ∧
      byteLength text = 4 + byteLength rest := by
  have single (c : Char) (n : Nat) (value : Json.hexValue? c = some n) :
      c.utf8Size = 1 := by
    refine Char.utf8Size_eq_one_iff.mpr ?_
    unfold Json.hexValue? at value
    split at value
    next digit =>
      simp only [Char.isDigit, Bool.and_eq_true, decide_eq_true_eq] at digit
      exact UInt32.le_trans digit.2 (by decide)
    next =>
      split at value
      next lower =>
        simp only [Bool.and_eq_true, decide_eq_true_eq] at lower
        exact UInt32.le_trans lower.2 (by decide)
      next =>
        split at value
        next upper =>
          simp only [Bool.and_eq_true, decide_eq_true_eq] at upper
          exact UInt32.le_trans upper.2 (by decide)
        next => cases value
  unfold Json.hexUnit? at read
  split at read
  next a b c d rest =>
    simp only [Option.bind_eq_bind, Option.bind_eq_some_iff, Option.some.injEq,
      Prod.mk.injEq] at read
    obtain ⟨_, first, _, second, _, third, _, fourth, rfl, rfl⟩ := read
    have sizes := And.intro (single a _ first) (And.intro (single b _ second)
      (And.intro (single c _ third) (single d _ fourth)))
    have brace : a ≠ '\x7b' := by
      rintro rfl
      cases first
    have first : hexValue? a = some _ := first
    have second : hexValue? b = some _ := second
    have third : hexValue? c = some _ := third
    have fourth : hexValue? d = some _ := fourth
    refine ⟨?_, rfl, ?_⟩
    · simp [unicodeEscape?, first, second, third, fourth]
    · simp only [Text.byteLength_cons, sizes]
      omega
  next => cases read

theorem stringRest_unit {text rest : List Char} {unit : Nat}
    (read : Json.hexUnit? text = some (unit, rest)) (fuel : Nat) (units : List Nat) (offset : Nat) :
    stringRest '"' (fuel + 1) units offset ('\\' :: 'u' :: text) =
      stringRest '"' fuel (pushUnit unit units) (offset + 6) rest := by
  have escape : stringEscape? ('u' :: text) = some (some unit, 5, rest) := by
    rw [stringEscape?, (unicodeEscape?_of_hexUnit? read).1, Option.map_some]
  simp [stringRest, escape, Nat.add_assoc]

/-- The rest of a string in a document is the rest of a string here. -/
theorem stringRest_of_stringBody {fuel : Nat} {text rest body : List Char}
    (read : Json.stringBody fuel text = .ok (body, rest)) (more : Nat) (units : List Nat)
    (offset : Nat) (enough : text.length < more) :
    ∃ found stop, stringRest '"' more units offset text = .ok (found, stop, rest) ∧
      stop + byteLength rest = offset + byteLength text := by
  -- A pair of escapes is one step there and two steps here, so the fuel here is measured by the
  -- text that is left.
  fun_induction Json.stringBody fuel text generalizing body rest more units offset with
  | case1 | case2 => cases read
  | case3 fuel behind =>
    cases read
    obtain ⟨more, rfl⟩ := Nat.exists_eq_succ_of_ne_zero (Nat.ne_of_gt (Nat.zero_lt_of_lt enough))
    refine ⟨units, offset + 1, by simp [stringRest], ?_⟩
    rw [Text.byteLength_cons, Nat.add_assoc]; rfl
  | case4 fuel behind _ ih =>
    obtain ⟨⟨c, later⟩, escape, read⟩ := bind_eq_ok_iff.mp read
    obtain ⟨⟨body, last⟩, others, same⟩ := bind_eq_ok_iff.mp read
    cases same
    obtain ⟨more, rfl⟩ := Nat.exists_eq_succ_of_ne_zero (Nat.ne_of_gt (Nat.zero_lt_of_lt enough))
    have marks : '\\'.utf8Size = 1 ∧ 'u'.utf8Size = 1 := ⟨rfl, rfl⟩
    simp only [List.length_cons] at enough
    rcases Json.unicodeEscape_cases escape with ⟨unit, whole⟩ | ⟨high, low, tail, first, second⟩
    · obtain ⟨-, length, bytes⟩ := unicodeEscape?_of_hexUnit? whole
      obtain ⟨found, stop, read, bytes'⟩ := ih later others more (pushUnit unit units)
        (offset + 6) (by omega)
      refine ⟨found, stop, (stringRest_unit whole more units offset).trans read, ?_⟩
      simp only [Text.byteLength_cons, marks]
      omega
    · -- The two halves of a pair are read one after the other.
      obtain ⟨-, length, bytes⟩ := unicodeEscape?_of_hexUnit? first
      obtain ⟨-, length', bytes'⟩ := unicodeEscape?_of_hexUnit? second
      simp only [List.length_cons] at length
      obtain ⟨more, rfl⟩ : ∃ less, more = less + 1 := ⟨more - 1, by omega⟩
      obtain ⟨found, stop, read, bytes''⟩ := ih later others more
        (pushUnit low (pushUnit high units)) (offset + 6 + 6) (by omega)
      refine ⟨found, stop, (stringRest_unit first (more + 1) units offset).trans
        ((stringRest_unit second more _ _).trans read), ?_⟩
      simp only [Text.byteLength_cons, marks] at bytes ⊢
      omega
  | case5 => cases read
  | case6 fuel e behind _ c known _ ih =>
    obtain ⟨⟨body, last⟩, others, same⟩ := bind_eq_ok_iff.mp read
    cases same
    obtain ⟨more, rfl⟩ := Nat.exists_eq_succ_of_ne_zero (Nat.ne_of_gt (Nat.zero_lt_of_lt enough))
    obtain ⟨unit, escape, size⟩ : ∃ unit, stringEscape? (e :: behind) = some (some unit, 1, behind) ∧
        e.utf8Size = 1 := by
      unfold Json.simpleEscape? at known
      split at known
      all_goals cases known
      all_goals exact ⟨_, rfl, rfl⟩
    obtain ⟨found, stop, read, bytes⟩ := ih others more (pushUnit unit units) (offset + 2)
      (by simp only [List.length_cons] at enough; omega)
    refine ⟨found, stop, by simpa [stringRest, escape, Nat.add_assoc] using read, ?_⟩
    have mark : '\\'.utf8Size = 1 := rfl
    simp only [Text.byteLength_cons, size, mark]
    omega
  | case7 => cases read
  | case8 => cases read
  | case9 fuel c behind noQuote noEscape printable ih =>
    obtain ⟨⟨body, last⟩, others, same⟩ := bind_eq_ok_iff.mp read
    cases same
    obtain ⟨more, rfl⟩ := Nat.exists_eq_succ_of_ne_zero (Nat.ne_of_gt (Nat.zero_lt_of_lt enough))
    have noBreak : c ≠ '\n' ∧ c ≠ '\r' := by
      constructor <;> rintro rfl <;> exact printable (by decide)
    obtain ⟨found, stop, read, bytes⟩ := ih others more (pushUnit c.toNat units)
      (offset + c.utf8Size) (Nat.lt_of_succ_lt_succ enough)
    exact ⟨found, stop, by simpa [stringRest, noQuote, noEscape, noBreak] using read,
      by rw [bytes, Text.byteLength_cons, Nat.add_assoc]⟩

/-- A string of a document is a string here. -/
theorem lexes_string {text rest : List Char} {value : String}
    (read : Json.quoted text = .ok (value, rest)) :
    Lexes ('"' :: text) (fun t => ∃ value, t = .string value) rest := by
  obtain ⟨⟨body, left⟩, string, same⟩ := map_eq_ok_iff.mp read
  cases same
  refine ⟨fun _ _ => rfl, fun fuel newline offset enough => ?_⟩
  obtain ⟨units, stop, read, bytes⟩ := stringRest_of_stringBody string fuel [] (offset + 1)
    (Nat.lt_of_succ_lt enough)
  refine ⟨.string (unitsText? units), stop, ⟨_, rfl⟩, ?_, ?_⟩
  · show quotedString fuel ⟨newline, offset, '"' :: text⟩ '"' text = _
    rw [quotedString, read]
    rfl
  · rw [bytes, Text.byteLength_cons, Nat.add_assoc]
    rfl

/-! ### Words -/

/-- Characters that may stand directly behind a value. -/
def behindValues : List Char := [' ', '\n', '\t', '\r', ',', ']', '\x7d']

/-- What may stand directly behind a value. -/
def IsBehind (rest : List Char) : Prop := ∀ c ∈ rest.head?, c ∈ behindValues

theorem IsBehind.endsWord {rest : List Char} (behind : IsBehind rest) : EndsWord rest := by
  have known : ∀ c ∈ behindValues, isWordPart c = false ∧ c ≠ '\\' := by
    simp only [behindValues, List.forall_mem_cons, List.not_mem_nil, false_implies, implies_true,
      and_true]
    exact ⟨⟨rfl, by decide⟩, ⟨rfl, by decide⟩, ⟨rfl, by decide⟩, ⟨rfl, by decide⟩, ⟨rfl, by decide⟩,
      ⟨rfl, by decide⟩, rfl, by decide⟩
  exact fun c first => known c (behind c first)

/-- Words that stand for values. -/
def valueWords : List (List Char) :=
  [['n', 'u', 'l', 'l'], ['t', 'r', 'u', 'e'], ['f', 'a', 'l', 's', 'e']]

/-- A word that stands for a value of a document is a word here. -/
theorem lexes_word {chars : List Char} (known : chars ∈ valueWords) {rest : List Char}
    (behind : IsBehind rest) :
    Lexes (chars ++ rest) (· = .word (String.ofList chars) false) rest := by
  have parts : (∀ c ∈ chars, isWordPart c = true) ∧ ∀ newline offset,
      skipGap .blanks newline offset (chars ++ rest) = ⟨newline, offset, chars ++ rest⟩ ∧
      ∀ fuel, tokenAt fuel ⟨newline, offset, chars ++ rest⟩ =
        Syntax.word fuel ⟨newline, offset, chars ++ rest⟩ := by
    simp only [valueWords, List.mem_cons, List.not_mem_nil, or_false] at known
    rcases known with rfl | rfl | rfl
    all_goals exact ⟨List.all_eq_true.mp rfl, fun _ _ => ⟨rfl, fun _ => rfl⟩⟩
  refine ⟨fun newline offset => (parts.2 newline offset).1, fun fuel newline offset enough => ?_⟩
  have read := wordRest_append chars rest parts.1 behind.endsWord fuel offset
    (Nat.lt_of_le_of_lt (by simp) enough)
  refine ⟨_, offset + byteLength chars, rfl, ?_, ?_⟩
  · rw [(parts.2 newline offset).2, Syntax.word, read]
  · rw [Text.byteLength_append, Nat.add_assoc]

/-! ### Numbers -/

/-- The characters of digits. -/
def digits : List Char := ['0', '1', '2', '3', '4', '5', '6', '7', '8', '9']

theorem mem_digits_of_isDigit {c : Char} (digit : c.isDigit = true) : c ∈ digits := by
  simp only [Char.isDigit, Bool.and_eq_true, decide_eq_true_eq] at digit
  have low : 48 ≤ c.toNat := digit.1
  have high : c.toNat ≤ 57 := digit.2
  rw [← Char.ofNat_toNat c]
  generalize c.toNat = n at low high
  interval_cases n <;> decide

theorem utf8Size_of_isDigit {c : Char} (digit : c.isDigit = true) : c.utf8Size = 1 := by
  simp only [Char.isDigit, Bool.and_eq_true, decide_eq_true_eq] at digit
  exact Char.utf8Size_eq_one_iff.mpr (UInt32.le_trans digit.2 (by decide))

/-- A reader takes a text up to a rest, and tells the offset of the rest. -/
def TakesTo (reader : Nat → List Char → Except Fault (Nat × List Char)) (text rest : List Char) :
    Prop :=
  ∀ offset, ∃ stop, reader offset text = .ok (stop, rest) ∧
    stop + byteLength rest = offset + byteLength text

theorem digitRun_takesTo {text : List Char}
    (ends : ∀ c ∈ (text.dropWhile Char.isDigit).head?, c ≠ '_') :
    TakesTo (fun offset text => .ok (digitRun Char.isDigit offset text)) text
      (text.dropWhile Char.isDigit) := by
  induction text with
  | nil => exact fun offset => ⟨offset, rfl, rfl⟩
  | cons c text ih =>
    intro offset
    by_cases digit : c.isDigit = true
    · rw [List.dropWhile_cons_of_pos digit] at ends ⊢
      obtain ⟨stop, read, bytes⟩ := ih ends (offset + 1)
      refine ⟨stop, by simpa [digitRun, digit] using read, ?_⟩
      rw [bytes, Text.byteLength_cons, utf8Size_of_isDigit digit, Nat.add_assoc]
    · rw [List.dropWhile_cons_of_neg digit] at ends ⊢
      exact ⟨offset, by simp [digitRun, digit, ends c rfl], rfl⟩

theorem IsBehind.ne {rest : List Char} (behind : IsBehind rest) {c d : Char}
    (first : c ∈ rest.head?) (other : d ∉ behindValues) : c ≠ d := fun same =>
  other (same ▸ behind c first)

/-- No exponent stands behind a value. -/
theorem exponentRest_behind {rest : List Char} (behind : IsBehind rest) :
    TakesTo exponentRest rest rest := by
  intro offset
  refine ⟨offset, ?_, rfl⟩
  cases rest with
  | nil => rfl
  | cons c rest =>
    have small : c ≠ 'e' := behind.ne rfl (by decide)
    have capital : c ≠ 'E' := behind.ne rfl (by decide)
    simp [exponentRest, small, capital]

/-- The exponent of a number in a document is one here. -/
theorem exponentRest_of_exponentPart {negative : Bool} {significand : Nat} {scale : Int} {e : Char}
    {text rest : List Char} {n : JsonNumber} (mark : e = 'e' ∨ e = 'E')
    (read : Json.exponentPart negative significand scale text = .ok (n, rest))
    (behind : IsBehind rest) : TakesTo exponentRest (e :: text) rest := by
  rw [Json.exponentPart_eq] at read
  obtain ⟨some, rfl⟩ := Json.exponentDigits_eq_ok read
  have shape : (∃ sign, (sign = '+' ∨ sign = '-') ∧ text = sign :: (Json.exponentSign text).2) ∨
      text = (Json.exponentSign text).2 := by
    unfold Json.exponentSign
    split
    · exact Or.inl ⟨'+', Or.inl rfl, rfl⟩
    · exact Or.inl ⟨'-', Or.inr rfl, rfl⟩
    · exact Or.inr rfl
  generalize (Json.exponentSign text).2 = tail at some behind shape ⊢
  obtain ⟨d, later, rfl, digit⟩ : ∃ d later, tail = d :: later ∧ d.isDigit = true := by
    cases tail with
    | nil => exact absurd rfl some
    | cons d later =>
      refine ⟨d, later, rfl, ?_⟩
      by_contra other
      exact some (List.takeWhile_cons_of_neg other)
  have run := digitRun_takesTo fun c first => behind.ne first (by decide : '_' ∉ behindValues)
  have size : e.utf8Size = 1 := by rcases mark with rfl | rfl <;> rfl
  intro offset
  rcases shape with ⟨sign, known, rfl⟩ | rfl
  · obtain ⟨stop, found, bytes⟩ := run (offset + 2)
    have size' : sign.utf8Size = 1 := by rcases known with rfl | rfl <;> rfl
    refine ⟨stop, ?_, ?_⟩
    · rcases known with rfl | rfl <;> simpa [exponentRest, mark, digit] using found
    · rw [bytes, Text.byteLength_cons e, Text.byteLength_cons sign, size, size']
      omega
  · obtain ⟨stop, found, bytes⟩ := run (offset + 1)
    have unsigned : d ≠ '+' ∧ d ≠ '-' := by
      constructor <;> rintro rfl <;> cases digit
    refine ⟨stop, ?_, ?_⟩
    · simpa [exponentRest, mark, digit, unsigned] using found
    · rw [bytes, Text.byteLength_cons e, size, Nat.add_assoc]

theorem dropWhile_takeDigits (value count : Nat) (text : List Char) :
    (Json.takeDigits value count text).2.2.dropWhile Char.isDigit = text.dropWhile Char.isDigit := by
  fun_induction Json.takeDigits value count text with
  | case1 => rfl
  | case2 value count c text fits ih =>
    rw [ih, List.dropWhile_cons_of_pos (Bool.and_eq_true_iff.mp fits).1]
  | case3 => rfl

/-- Characters that may stand behind the digits of a number. -/
def behindDigits : List Char := ['.', 'e', 'E'] ++ behindValues

/-- An exponent or the end of a number is read alike, and no word stands in front of it. -/
theorem exponentRest_of_exponentOrEnd {negative : Bool} {significand : Nat} {scale : Int}
    {text rest : List Char} {n : JsonNumber}
    (read : Json.exponentOrEnd negative significand scale text = .ok (n, rest))
    (behind : IsBehind rest) :
    TakesTo exponentRest text rest ∧ ∀ c ∈ text.head?, c ∈ behindDigits := by
  unfold Json.exponentOrEnd at read
  split at read
  next tail => exact ⟨exponentRest_of_exponentPart (Or.inl rfl) read behind, by simp [behindDigits]⟩
  next tail => exact ⟨exponentRest_of_exponentPart (Or.inr rfl) read behind, by simp [behindDigits]⟩
  next =>
    obtain ⟨number, -, same⟩ := map_eq_ok_iff.mp read
    cases same
    exact ⟨exponentRest_behind behind, fun c first => List.mem_append_right _ (behind c first)⟩

/-- What stands behind the whole part of a number is read alike, and no word starts with it. -/
theorem fractionRest_of_wholeThen {negative : Bool} {significand : Nat} {scale : Int}
    {whole : Json.Step JsonNumber} {text rest : List Char} {n : JsonNumber}
    (read : Json.wholeThen (Json.fractionPart negative significand scale)
      (Json.exponentPart negative significand scale) whole text = .ok (n, rest))
    (ends : whole text = .ok (n, rest) → text = rest) (behind : IsBehind rest) :
    TakesTo fractionRest text rest ∧ ∀ c ∈ text.head?, c ∈ behindDigits := by
  unfold Json.wholeThen at read
  split at read
  next tail =>
    refine ⟨fun offset => ?_, by simp [behindDigits]⟩
    simp only [Json.fractionPart, dropWhile_takeDigits] at read
    split at read
    next => cases read
    next =>
      obtain ⟨takes, first⟩ := exponentRest_of_exponentOrEnd read behind
      have plain : ∀ c ∈ (tail.dropWhile Char.isDigit).head?, c ≠ '_' := by
        rintro c here rfl
        exact absurd (first '_' here) (by decide)
      obtain ⟨middle, run, bytes⟩ := digitRun_takesTo plain (offset + 1)
      obtain ⟨stop, found, bytes'⟩ := takes middle
      refine ⟨stop, ?_, ?_⟩
      · simp only [Except.ok.injEq] at run
        simp only [fractionRest, run, found]
      · have point : '.'.utf8Size = 1 := rfl
        rw [bytes', bytes, Text.byteLength_cons, point, Nat.add_assoc]
  next tail => exact ⟨exponentRest_of_exponentPart (Or.inl rfl) read behind, by simp [behindDigits]⟩
  next tail => exact ⟨exponentRest_of_exponentPart (Or.inr rfl) read behind, by simp [behindDigits]⟩
  next noPoint _ _ =>
    cases ends read
    refine ⟨fun offset => ?_, fun c first => List.mem_append_right _ (behind c first)⟩
    obtain ⟨stop, found, bytes⟩ := exponentRest_behind behind offset
    refine ⟨stop, ?_, bytes⟩
    rw [← found]
    unfold fractionRest
    split
    next => exact absurd (behind 'n' rfl) (by decide)
    next => exact absurd (behind '.' rfl) (by decide)
    next => rfl

/-- A number of a document is one here, up to the same end. -/
theorem numberRest_of_unsigned {negative : Bool} {text rest : List Char} {n : JsonNumber}
    (read : Json.unsigned negative text = .ok (n, rest)) (behind : IsBehind rest) :
    TakesTo numberRest text rest ∧ ∃ c more, text = c :: more ∧ c.isDigit = true := by
  -- The digits are taken first, and what stands behind them is read from there.
  have parts (c : Char) (more past : List Char) (digit : c.isDigit = true)
      (run : (c :: more).dropWhile Char.isDigit = past) (takes : TakesTo fractionRest past rest)
      (first : ∀ c ∈ past.head?, c ∈ behindDigits)
      (decimal : ∀ d ∈ more.head?, c = '0' → d ∉ ['x', 'X', 'o', 'O', 'b', 'B']) :
      TakesTo numberRest (c :: more) rest := by
    intro offset
    have plain : ∀ d ∈ ((c :: more).dropWhile Char.isDigit).head?, d ≠ '_' := by
      rintro d here rfl
      rw [run] at here
      exact absurd (first '_' here) (by decide)
    obtain ⟨middle, found, bytes⟩ := digitRun_takesTo plain offset
    obtain ⟨stop, found', bytes'⟩ := takes middle
    rw [run] at found bytes
    simp only [Except.ok.injEq] at found
    refine ⟨stop, ?_, bytes'.trans bytes⟩
    unfold numberRest
    split
    next b later same =>
      obtain ⟨rfl, rfl⟩ := List.cons.inj same
      have decimal := decimal b rfl rfl
      simp only [List.mem_cons, List.not_mem_nil, or_false, not_or] at decimal
      simp [decimal, found, found']
    next later same =>
      cases same
      cases digit
    next => simp only [found, found']
  rw [Json.unsigned_eq] at read
  split at read
  next later =>
    obtain ⟨takes, first⟩ := fractionRest_of_wholeThen read Json.zeroEnd_rest behind
    have others : ∀ d ∈ behindDigits, d.isDigit = false ∧ d ∉ ['x', 'X', 'o', 'O', 'b', 'B'] := by
      simp [behindDigits, behindValues]
    refine ⟨parts '0' later later rfl ?_ takes first fun d here _ => (others d (first d here)).2,
      '0', later, rfl, rfl⟩
    rw [List.dropWhile_cons_of_pos rfl]
    cases later with
    | nil => rfl
    | cons d later =>
      exact List.dropWhile_cons_of_neg (by simp [(others d (first d rfl)).1])
  next noZero =>
    simp only [Json.wholeDigits] at read
    split at read
    next => cases read
    next some =>
      obtain ⟨takes, first⟩ := fractionRest_of_wholeThen read Json.wholeEnd_rest behind
      rw [dropWhile_takeDigits] at takes first
      obtain ⟨c, more, rfl, digit⟩ : ∃ c more, text = c :: more ∧ c.isDigit = true := by
        cases text with
        | nil => exact absurd rfl some
        | cons c more =>
          refine ⟨c, more, rfl, ?_⟩
          by_contra other
          exact some (by simp [Json.takeDigits, other])
      refine ⟨parts c more _ digit rfl takes first ?_, c, more, rfl, digit⟩
      rintro d - rfl
      exact absurd rfl (noZero more)

/-- A number of a document is one here. -/
theorem lexes_number {negative : Bool} {text rest : List Char} {n : JsonNumber}
    (read : Json.unsigned negative text = .ok (n, rest)) (behind : IsBehind rest) :
    Lexes text (· = .number) rest := by
  obtain ⟨takes, c, more, rfl, digit⟩ := numberRest_of_unsigned read behind
  have known := mem_digits_of_isDigit digit
  have plain : (∀ newline offset, skipGap .blanks newline offset (c :: more) =
      ⟨newline, offset, c :: more⟩) ∧ ∀ fuel newline offset,
        tokenAt fuel ⟨newline, offset, c :: more⟩ = number ⟨newline, offset, c :: more⟩ := by
    simp only [digits, List.mem_cons, List.not_mem_nil, or_false] at known
    rcases known with rfl | rfl | rfl | rfl | rfl | rfl | rfl | rfl | rfl | rfl
    all_goals exact ⟨fun _ _ => rfl, fun _ _ _ => rfl⟩
  refine ⟨plain.1, fun fuel newline offset _ => ?_⟩
  obtain ⟨stop, found, bytes⟩ := takes offset
  refine ⟨.number, stop, rfl, ?_, bytes⟩
  have noName : rest.head?.any isWordStart = false := by
    have known : ∀ c ∈ behindValues, isWordStart c = false := by
      simp only [behindValues, List.forall_mem_cons, List.not_mem_nil, false_implies, implies_true,
        and_true]
      exact ⟨rfl, rfl, rfl, rfl, rfl, rfl, rfl⟩
    cases rest with
    | nil => rfl
    | cons c rest => exact known c (behind c rfl)
  simp [plain.2, number, found, noName, located]

/-- The sign of a number in a document is a sign here. -/
theorem lexes_minus {text : List Char} {c : Char} (first : text.head? = some c)
    (digit : c.isDigit = true) : Lexes ('-' :: text) (· = .sign "-") text := by
  obtain ⟨more, rfl⟩ := List.head?_eq_some_iff.mp first
  have known := mem_digits_of_isDigit digit
  simp only [digits, List.mem_cons, List.not_mem_nil, or_false] at known
  rcases known with rfl | rfl | rfl | rfl | rfl | rfl | rfl | rfl | rfl | rfl
  all_goals exact ⟨fun _ _ => rfl, fun _ _ offset _ => ⟨_, offset + 1, rfl, rfl, by
    rw [Text.byteLength_cons, Nat.add_assoc]; rfl⟩⟩

end Phrasebook.Syntax
