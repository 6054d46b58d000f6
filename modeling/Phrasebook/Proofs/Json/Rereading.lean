import Phrasebook.Proofs.Json.Reals
import Phrasebook.Proofs.Json.Writing

/-!
# Numbers that are written are read

The text of every regular number is read as a number again. A whole number is read as itself. A
double is written with the digits of its shortest decimal, and these are modest unless it is one of
the two greatest doubles.
-/

namespace Phrasebook.Json

open Number (Binary64)
open Number.Binary64 (Decimal)

/-! ## Runs of digits -/

/-- A text of digits. -/
def Digits (text : List Char) : Prop := ∀ c ∈ text, c.isDigit = true

instance (text : List Char) : Decidable (Digits text) :=
  decidable_of_iff (text.all Char.isDigit = true) List.all_eq_true

theorem Digits.append {text more : List Char} (digits : Digits text) (digits' : Digits more) :
    Digits (text ++ more) := List.forall_mem_append.mpr ⟨digits, digits'⟩

theorem digits_replicate (n : Nat) : Digits (List.replicate n '0') := fun c member => by
  rw [List.eq_of_mem_replicate member]
  rfl

/-- A text that starts with something else than a digit. -/
theorem head_cons (c : Char) (other : c.isDigit = false) (text : List Char) :
    ∀ d ∈ (c :: text).head?, d.isDigit = false := by
  rintro d ⟨rfl⟩
  exact other

theorem Digits.takeWhile_eq {text : List Char} (digits : Digits text) :
    text.takeWhile Char.isDigit = text := by
  rw [← List.append_nil text, List.takeWhile_append_of_pos digits]
  rfl

theorem Digits.dropWhile_eq {text : List Char} (digits : Digits text) :
    text.dropWhile Char.isDigit = [] := by
  rw [← List.append_nil text, List.dropWhile_append_of_pos digits]
  rfl

theorem ofDigitChars_eq_foldl (text : List Char) (value : Nat) :
    text.foldl (fun n c => n * 10 + digitValue c) value = Nat.ofDigitChars 10 text value := by
  rw [Nat.ofDigitChars_eq_foldl]
  simp only [Nat.mul_comm, digitValue]

theorem le_ofDigitChars (text : List Char) (value : Nat) :
    value ≤ Nat.ofDigitChars 10 text value := by
  rw [Nat.ofDigitChars_eq_ofDigitChars_zero]
  exact Nat.le_trans (Nat.le_mul_of_pos_left _ (Nat.pow_pos (by decide))) (Nat.le_add_right _ _)

theorem pow_mul_le_ofDigitChars (text : List Char) (value : Nat) :
    value * 10 ^ text.length ≤ Nat.ofDigitChars 10 text value := by
  rw [Nat.ofDigitChars_eq_ofDigitChars_zero, Nat.mul_comm]
  exact Nat.le_add_right _ _

theorem digitValue_lt {c : Char} (digit : c.isDigit = true) : digitValue c < 10 := by
  have last : c.toNat ≤ 57 := by
    have bounds := Bool.and_eq_true_iff.mp digit
    exact UInt32.le_iff_toNat_le.mp (of_decide_eq_true bounds.2)
  have zero : '0'.toNat = 48 := rfl
  unfold digitValue
  omega

theorem ofDigitChars_lt {text : List Char} (digits : Digits text) (value : Nat) :
    Nat.ofDigitChars 10 text value < (value + 1) * 10 ^ text.length := by
  induction text generalizing value with
  | nil => simp
  | cons c text ih =>
    obtain ⟨digit, others⟩ := List.forall_mem_cons.mp digits
    have next : 10 * value + digitValue c + 1 ≤ (value + 1) * 10 := by
      have := digitValue_lt digit
      omega
    calc Nat.ofDigitChars 10 (c :: text) value
        = Nat.ofDigitChars 10 text (10 * value + digitValue c) := Nat.ofDigitChars_cons
      _ < (10 * value + digitValue c + 1) * 10 ^ text.length := ih others _
      _ ≤ (value + 1) * 10 * 10 ^ text.length := Nat.mul_le_mul_right _ next
      _ = (value + 1) * 10 ^ (c :: text).length := by
        rw [List.length_cons, Nat.pow_succ, Nat.mul_assoc, Nat.mul_comm 10]

/-- Digits that form a number of 64 bits are all taken. -/
theorem takeDigits_all {digits : List Char} (proper : Digits digits) {value : Nat}
    (word : Nat.ofDigitChars 10 digits value ≤ maxWord) (count : Nat) {rest : List Char}
    (stop : ∀ c ∈ rest.head?, c.isDigit = false) : takeDigits value count (digits ++ rest) =
      (Nat.ofDigitChars 10 digits value, count + digits.length, rest) := by
  induction digits generalizing value count with
  | nil =>
    cases rest with
    | nil => rfl
    | cons c rest => simp [takeDigits, stop c rfl]
  | cons c digits ih =>
    obtain ⟨digit, others⟩ := List.forall_mem_cons.mp proper
    have same : value * 10 + digitValue c = 10 * value + (c.toNat - '0'.toNat) := by
      rw [Nat.mul_comm]
      rfl
    rw [Nat.ofDigitChars_cons, ← same] at word ⊢
    have fits := Nat.le_trans (le_ofDigitChars digits _) word
    rw [List.cons_append, takeDigits, if_pos (by simp [digit, fits]), ih others word (count + 1),
      List.length_cons]
    simp only [Prod.mk.injEq, and_true, true_and]
    omega

/-- What is taken are digits, and they form the number that is given. -/
theorem takeDigits_spec {value : Nat} (word : value ≤ maxWord) (count : Nat) (text : List Char) :
    ∃ taken rest, text = taken ++ rest ∧ Digits taken ∧ takeDigits value count text =
      (Nat.ofDigitChars 10 taken value, count + taken.length, rest) ∧
      Nat.ofDigitChars 10 taken value ≤ maxWord := by
  fun_induction takeDigits value count text with
  | case1 value count => exact ⟨[], [], rfl, List.forall_mem_nil _, rfl, word⟩
  | case2 value count c text fits ih =>
    obtain ⟨digit, fits⟩ := Bool.and_eq_true_iff.mp fits
    obtain ⟨taken, rest, rfl, digits, same, small⟩ := ih (of_decide_eq_true fits)
    have next : Nat.ofDigitChars 10 (c :: taken) value =
        Nat.ofDigitChars 10 taken (value * 10 + digitValue c) := by
      rw [Nat.ofDigitChars_cons, Nat.mul_comm]
      rfl
    refine ⟨c :: taken, rest, rfl, List.forall_mem_cons.mpr ⟨digit, digits⟩, ?_, next ▸ small⟩
    rw [same, next, List.length_cons]
    simp only [Prod.mk.injEq, and_true, true_and]
    omega
  | case3 value count c text stop => exact ⟨[], _, rfl, List.forall_mem_nil _, rfl, word⟩

theorem digits_toDigits (n : Nat) : Digits (Nat.toDigits 10 n) := fun _ member =>
  Nat.isDigit_of_mem_toDigits (by decide) (by decide) member

/-- The digits of a number that is not zero start with another digit than a zero. -/
theorem toDigits_cons {n : Nat} (positive : 0 < n) :
    ∃ c rest, Nat.toDigits 10 n = c :: rest ∧ c ≠ '0' := by
  induction n using Nat.strongRecOn with
  | ind n ih =>
    rw [Nat.toDigits_eq_if (by decide)]
    split
    next small =>
      refine ⟨_, _, rfl, fun zero => ?_⟩
      rw [Nat.digitChar_eq_zero] at zero
      omega
    next large =>
      obtain ⟨c, rest, front, proper⟩ := ih (n / 10) (by omega) (by omega)
      rw [front]
      exact ⟨c, rest ++ _, rfl, proper⟩

/-! ## Parts of numbers -/

section

variable (negative : Bool) {value : Nat} (word : value ≤ maxWord)

include word

/-- Of the digits behind a point those that fit are taken, and the others are passed over. -/
theorem fractionPart_digits {digits : List Char} (proper : Digits digits) (nonempty : digits ≠ [])
    {tail : List Char} (stop : ∀ c ∈ tail.head?, c.isDigit = false) :
    ∃ taken more, digits = taken ++ more ∧ Nat.ofDigitChars 10 taken value ≤ maxWord ∧
      fractionPart negative value 0 (digits ++ tail) =
        exponentOrEnd negative (Nat.ofDigitChars 10 taken value) (-taken.length) tail := by
  obtain ⟨taken, rest, split, digits', same, small⟩ := takeDigits_spec word 0 (digits ++ tail)
  obtain ⟨more, rfl, rfl⟩ : ∃ more, digits = taken ++ more ∧ rest = more ++ tail := by
    rcases List.append_eq_append_iff.mp split with ⟨extra, rfl, rfl⟩ | ⟨more, rfl, rfl⟩
    · -- What is taken beyond the digits would be digits, too.
      rcases extra with _ | ⟨c, extra⟩
      · exact ⟨[], by simp, rfl⟩
      · have digit := digits' c (by simp)
        rw [stop c rfl] at digit
        cases digit
    · exact ⟨more, rfl, rfl⟩
  have past : (more ++ tail).dropWhile Char.isDigit = tail := by
    rw [List.dropWhile_append_of_pos fun c member => proper c (List.mem_append_right _ member)]
    rcases tail with _ | ⟨c, tail⟩
    · rfl
    · exact List.dropWhile_cons_of_neg (by simp [stop c rfl])
  have shorter : ¬ tail.length = (taken ++ more ++ tail).length := fun none => by
    rw [List.length_append] at none
    exact nonempty (List.length_eq_zero_iff.mp (by omega))
  refine ⟨taken, more, rfl, small, ?_⟩
  unfold fractionPart
  simp only [same, past, shorter, decide_false, Bool.and_false, Bool.false_eq_true, ↓reduceIte]
  congr 1
  omega

/-- Digits behind a point are read as a double if they end the number. -/
theorem exists_fraction {digits : List Char} (proper : Digits digits) (nonempty : digits ≠ []) :
    ∃ x, fractionPart negative value 0 digits = .ok (.real x, []) := by
  have ends : ∀ c ∈ ([] : List Char).head?, c.isDigit = false := by rintro _ ⟨⟩
  obtain ⟨taken, more, -, small, same⟩ := fractionPart_digits negative word proper nonempty ends
  obtain ⟨x, made⟩ : ∃ x, realOfParts negative (Nat.ofDigitChars 10 taken value)
      (-taken.length) = .ok (.real x) :=
    exists_realOfParts negative small fun behind => by omega
  rw [List.append_nil] at same
  refine ⟨x, ?_⟩
  rw [same, exponentOrEnd, made]
  · rfl
  · rintro rest ⟨⟩
  · rintro rest ⟨⟩

omit word in
theorem toList_exponentText (n : Int) : (Binary64.exponentText n).toList =
    (if n < 0 then '-' else '+') :: Nat.toDigits 10 n.natAbs := by
  have whole : (toString n).toList =
      (if n < 0 then ['-'] else []) ++ Nat.toDigits 10 n.natAbs := by
    rw [Int.toString_eq_repr, Int.repr_eq_if]
    split
    next above =>
      have same : n.natAbs = n.toNat := by omega
      rw [Nat.toList_repr, same, if_neg (Int.not_lt.mpr above)]
      rfl
    next below =>
      have same : n.natAbs = (-n).toNat := by omega
      rw [String.toList_append, Nat.toList_repr, same, if_pos (Int.not_le.mp below)]
      rfl
  unfold Binary64.exponentText
  split
  next below => rw [whole, if_pos below]; rfl
  next above => rw [String.toList_append, whole, if_neg above]; rfl

/-- An exponent is read if the digits are modest in the places it leads to. -/
theorem exists_exponent {scale exponent : Int}
    (modest : value ≠ 0 → Decimal.IsModest ⟨value, scale + exponent⟩) (small : exponent ≤ 308) :
    ∃ x, exponentPart negative value scale (Binary64.exponentText exponent).toList =
      .ok (.real x, []) := by
  have digits := digits_toDigits exponent.natAbs
  have form : (Nat.toDigits 10 exponent.natAbs).foldl (fun n c => n * 10 + digitValue c) 0 =
      exponent.natAbs := by
    rw [ofDigitChars_eq_foldl, Nat.ofDigitChars_ten_toDigits]
  have sign : exponentSign (Binary64.exponentText exponent).toList =
      (decide (exponent < 0), Nat.toDigits 10 exponent.natAbs) := by
    rw [toList_exponentText]
    split
    next below => simp [exponentSign, below]
    next above => simp [exponentSign, above]
  have scaled : (if decide (exponent < 0) = true then scale - (exponent.natAbs : Int)
      else scale + (exponent.natAbs : Int)) = scale + exponent := by
    split
    next below => have := of_decide_eq_true below; omega
    next above => rw [decide_eq_true_eq] at above; omega
  rw [exponentPart_eq, sign]
  unfold exponentDigits
  simp only [digits.takeWhile_eq, digits.dropWhile_eq, form, List.isEmpty_iff, Nat.toDigits_ne_nil,
    ↓reduceIte, scaled]
  split
  next large =>
    -- An exponent as large as that is negative, and leads to nothing.
    have below : exponent < 0 := by
      unfold maxExponent at large
      rw [Nat.pow_eq] at large
      omega
    simp [below]
  next =>
    obtain ⟨x, made⟩ := exists_realOfParts negative word fun _ => modest
    exact ⟨x, by rw [made]; rfl⟩

end

/-- What stands behind the digits of a whole number decides how it is read. -/
theorem unsigned_digits (negative : Bool) {c : Char} {digits : List Char}
    (proper : Digits (c :: digits)) (first : c ≠ '0')
    (word : Nat.ofDigitChars 10 (c :: digits) 0 ≤ maxWord) {tail : List Char}
    (stop : ∀ c ∈ tail.head?, c.isDigit = false) :
    unsigned negative (c :: digits ++ tail) =
      wholeThen (fractionPart negative (Nat.ofDigitChars 10 (c :: digits) 0) 0)
        (exponentPart negative (Nat.ofDigitChars 10 (c :: digits) 0) 0)
        (wholeEnd negative (Nat.ofDigitChars 10 (c :: digits) 0) []) tail := by
  have take : tail.takeWhile Char.isDigit = [] := by
    rcases tail with _ | ⟨d, tail⟩
    · rfl
    · exact List.takeWhile_cons_of_neg (by simp [stop d rfl])
  have drop : tail.dropWhile Char.isDigit = tail := by
    rcases tail with _ | ⟨d, tail⟩
    · rfl
    · exact List.dropWhile_cons_of_neg (by simp [stop d rfl])
  have all := takeDigits_all proper word 0 stop
  rw [unsigned_eq]
  split
  next rest same => exact absurd (List.cons.inj same).1 first
  next =>
    unfold wholeDigits
    simp only [all, take, drop, List.length_cons, List.length_nil]
    rw [if_neg (by omega)]
    rfl

/-- Digits in front of a point and digits behind it are read as a double. -/
theorem exists_pointed (negative : Bool) {whole fraction : List Char} (proper : Digits whole)
    (first : ∃ c rest, whole = c :: rest ∧ c ≠ '0') (small : whole.length ≤ 16)
    (proper' : Digits fraction) (nonempty : fraction ≠ []) :
    ∃ x, unsigned negative (whole ++ '.' :: fraction) = .ok (.real x, []) := by
  obtain ⟨c, rest, rfl, other⟩ := first
  have word : Nat.ofDigitChars 10 (c :: rest) 0 ≤ maxWord :=
    Nat.le_trans (Nat.le_of_lt (ofDigitChars_lt proper 0)) (by
      rw [Nat.zero_add, Nat.one_mul]
      exact Nat.le_trans (Nat.pow_le_pow_right (by decide) small) (by decide))
  rw [unsigned_digits negative proper other word (head_cons '.' rfl fraction)]
  exact exists_fraction negative word proper' nonempty

theorem ofDigitChars_pos {c : Char} (digit : c.isDigit = true) (first : c ≠ '0') :
    1 ≤ Nat.ofDigitChars 10 [c] 0 := by
  have bound : 48 ≤ c.toNat :=
    UInt32.le_iff_toNat_le.mp (of_decide_eq_true (Bool.and_eq_true_iff.mp digit).1)
  have other : c.toNat ≠ 48 := fun same => first (Char.toNat_inj.mp same)
  have zero : '0'.toNat = 48 := rfl
  rw [Nat.ofDigitChars_cons, Nat.ofDigitChars_nil]
  omega

/-- A digit, the digits behind it if there are any, and an exponent are read as a double. -/
theorem exists_scientific (negative : Bool) {c : Char} {digits : List Char}
    (proper : Digits (c :: digits)) (first : c ≠ '0') {scale : Int}
    (modest : Decimal.IsModest ⟨Nat.ofDigitChars 10 (c :: digits) 0, scale⟩) :
    ∃ x, unsigned negative ([c] ++ (if digits = [] then [] else '.' :: digits) ++
      'e' :: (Binary64.exponentText (digits.length + scale)).toList) = .ok (.real x, []) := by
  obtain ⟨digit, others⟩ := List.forall_mem_cons.mp proper
  have single : Digits [c] := List.forall_mem_singleton.mpr digit
  have word : Nat.ofDigitChars 10 [c] 0 ≤ maxWord :=
    Nat.le_trans (Nat.le_of_lt (ofDigitChars_lt single 0)) (by decide : 10 ≤ maxWord)
  have whole : Nat.ofDigitChars 10 (c :: digits) 0 =
      Nat.ofDigitChars 10 digits (Nat.ofDigitChars 10 [c] 0) := Nat.ofDigitChars_append (l := [c]) 0
  rw [whole] at modest
  have small : (digits.length : Int) + scale ≤ 308 := by
    have front : 1 * 10 ^ digits.length ≤
        Nat.ofDigitChars 10 digits (Nat.ofDigitChars 10 [c] 0) :=
      Nat.le_trans (Nat.mul_le_mul_right _ (ofDigitChars_pos digit first))
        (pow_mul_le_ofDigitChars digits _)
    have bound : scale + digits.length ≤ 308 :=
      le_of_isModest (modest.front digits.length front) Nat.one_ne_zero
    omega
  split
  next none =>
    subst none
    rw [List.append_nil, unsigned_digits negative single first word (head_cons 'e' rfl _)]
    refine exists_exponent negative word (fun _ => ?_) small
    have here : (0 : Int) + (([] : List Char).length + scale) = scale := by simp
    rw [here]
    exact modest
  next some =>
    obtain ⟨taken, more, rfl, word', same⟩ := fractionPart_digits negative word others some
      (head_cons 'e' rfl (Binary64.exponentText (digits.length + scale)).toList)
    have places :
        -(taken.length : Int) + ((taken ++ more).length + scale) = scale + more.length := by
      rw [List.length_append]
      omega
    rw [List.append_assoc, List.cons_append (a := '.'),
      unsigned_digits negative single first word (head_cons '.' rfl _)]
    show ∃ x, fractionPart _ _ 0 _ = _
    rw [same]
    refine exists_exponent negative word' (fun _ => ?_) small
    rw [places]
    refine modest.front more.length ?_
    rw [Nat.ofDigitChars_append]
    exact pow_mul_le_ofDigitChars more _

/-! ## Texts of numbers -/

/-- The text of a modest decimal is read as a double. -/
theorem exists_decimal (negative : Bool) {d : Decimal} (modest : d.IsModest) :
    ∃ x, unsigned negative (d.text realLayout).toList = .ok (.real x, []) := by
  have zero : (0 : Nat) ≤ maxWord := Nat.zero_le _
  have single : Digits ['0'] := by decide
  -- A number that starts with a zero and a point is read behind the point.
  have behind {fraction : List Char} (digits : Digits fraction) (nonempty : fraction ≠ []) :
      ∃ x, unsigned negative ('0' :: '.' :: fraction) = .ok (.real x, []) :=
    exists_fraction negative zero digits nonempty
  unfold Decimal.text
  split
  next => exact behind single (by decide)
  next nonzero =>
    obtain ⟨c, rest, text, first⟩ := toDigits_cons (Nat.pos_of_ne_zero nonzero)
    have digits := digits_toDigits d.digits
    have value := Nat.ofDigitChars_ten_toDigits (n := d.digits)
    dsimp only
    rw [text] at digits value ⊢
    split
    next positional =>
      obtain ⟨-, last⟩ := Bool.and_eq_true_iff.mp positional
      have last : ((c :: rest).length : Int) + d.scale ≤ 16 := of_decide_eq_true last
      split
      next whole =>
        have size : (c :: rest ++ List.replicate d.scale.toNat '0').length ≤ 16 := by
          rw [List.length_append, List.length_replicate]
          omega
        rw [String.toList_ofList]
        exact exists_pointed negative (digits.append (digits_replicate _)) ⟨c, _, rfl, first⟩ size
          single (by decide)
      next fraction =>
        split
        next inside =>
          -- The point stands between two digits.
          obtain ⟨k, point⟩ : ∃ k, (((c :: rest).length : Int) + d.scale).toNat = k + 1 :=
            ⟨_, (Nat.succ_pred (by omega)).symm⟩
          have most : k + 1 ≤ 16 ∧ k + 1 < (c :: rest).length := by omega
          rw [String.toList_ofList, List.append_assoc, List.singleton_append, point]
          refine exists_pointed negative (fun e member => digits e (List.mem_of_mem_take member))
            ⟨c, _, List.take_succ_cons, first⟩ ?_
            (fun e member => digits e (List.mem_of_mem_drop member)) ?_
          · rw [List.length_take]
            omega
          · rw [Ne, List.drop_eq_nil_iff]
            omega
        next =>
          rw [String.toList_ofList, List.append_assoc]
          exact behind ((digits_replicate _).append digits) (by simp)
    next =>
      have exponent : (((c :: rest).length : Nat) : Int) + d.scale - 1 = rest.length + d.scale := by
        rw [List.length_cons]
        omega
      have tail : (if (c :: rest).length = 1 then [] else '.' :: (c :: rest).drop 1) =
          if rest = [] then [] else '.' :: rest := by
        simp
      rw [String.toList_ofList, exponent, tail, List.append_assoc]
      exact exists_scientific negative digits first (value.symm ▸ modest)

/-- The texts of the two greatest doubles. -/
theorem text_greatest (below : Fin 2) :
    (Binary64.stripZeros 400 (Binary64.shortest ⟨false, 2 ^ 53 - 1 - below, 2045⟩)).text
      realLayout = if below = 0 then "1.7976931348623157e+308" else "1.7976931348623155e+308" := by
  decide +kernel +revert

/-- The two greatest doubles are read as the greatest one. -/
theorem unsigned_greatest (negative : Bool) (below : Fin 2) : (unsigned negative
    (if below = 0 then "1.7976931348623157e+308" else "1.7976931348623155e+308").toList).toOption =
      some (.real ⟨negative, 2 ^ 53 - 1, 2045⟩, []) := by
  decide +kernel +revert

/-- The text of a double is read as a double. -/
theorem exists_real {x : Binary64} (range : x.InRange) : ∃ y, unsigned x.negative
    ((Binary64.stripZeros 400 x.shortest).text realLayout).toList = .ok (.real y, []) := by
  by_cases lower : x.significand + 2 < 2 ^ 53 ∨ x.exponent < 2045
  · exact exists_decimal x.negative
      (Binary64.isModest_stripZeros (Binary64.isModest_shortest range lower))
  · obtain ⟨negative, significand, exponent⟩ := x
    obtain ⟨digits, places⟩ := range
    dsimp only at lower digits places ⊢
    have top : exponent = 2045 := by omega
    obtain ⟨below, same⟩ : ∃ below : Fin 2, significand = 2 ^ 53 - 1 - below :=
      ⟨⟨2 ^ 53 - 1 - significand, by omega⟩, by dsimp only; omega⟩
    rw [top, same, Binary64.shortest_sign, text_greatest]
    exact ⟨_, toOption_eq_some_iff.mp (unsigned_greatest negative below)⟩

theorem unsigned_toDigits_of_pos (negative : Bool) {n : Nat} (positive : 0 < n)
    (word : n ≤ maxWord) : unsigned negative (Nat.toDigits 10 n) = wholeEnd negative n [] [] := by
  obtain ⟨c, rest, text, first⟩ := toDigits_cons positive
  have digits := digits_toDigits n
  have value := Nat.ofDigitChars_ten_toDigits (n := n)
  rw [text] at digits value ⊢
  have ends : ∀ d ∈ ([] : List Char).head?, d.isDigit = false := by rintro _ ⟨⟩
  rw [← List.append_nil (c :: rest),
    unsigned_digits negative digits first (value.symm ▸ word) ends, value]
  rfl

/-- The digits of a whole number without a sign are read as the number. -/
theorem unsigned_natural {n : Nat} (word : n ≤ maxWord) :
    unsigned false (Nat.toDigits 10 n) = .ok (.natural n, []) := by
  rcases Nat.eq_zero_or_pos n with rfl | positive
  · rfl
  · rw [unsigned_toDigits_of_pos false positive word]
    rfl

/-- The digits of a whole number are read as the number, or as a double if it is a zero with a
sign. -/
theorem unsigned_toDigits (negative : Bool) {n : Nat} (word : n ≤ maxWord) :
    ∃ m, unsigned negative (Nat.toDigits 10 n) = .ok (m, []) := by
  rcases Nat.eq_zero_or_pos n with rfl | positive
  · exact ⟨_, rfl⟩
  · rw [unsigned_toDigits_of_pos negative positive word]
    unfold wholeEnd
    simp only [List.isEmpty_nil, ↓reduceIte]
    split
    · exact ⟨_, rfl⟩
    · split
      · exact ⟨_, rfl⟩
      · obtain ⟨x, made⟩ := exists_realOfParts negative word fun behind =>
          absurd behind (Int.lt_irrefl 0)
        exact ⟨_, by rw [made]; rfl⟩

/-- Numbers start with a digit, behind their sign. -/
theorem digit_of_unsigned {negative : Bool} {text rest : List Char} {n : JsonNumber}
    (made : unsigned negative text = .ok (n, rest)) :
    ∃ c tail, text = c :: tail ∧ c.isDigit = true := by
  rw [unsigned_eq] at made
  split at made
  next tail => exact ⟨'0', tail, rfl, rfl⟩
  next =>
    unfold wholeDigits at made
    split at made
    next => cases made
    next some =>
      rcases text with _ | ⟨c, tail⟩
      · exact absurd rfl some
      · refine ⟨c, tail, rfl, Decidable.byContradiction fun other => some ?_⟩
        simp [takeDigits, other]

/-- A sign, if there is one, and what is read behind it. -/
theorem read_signed {negative : Bool} {text : String} {digits : List Char} {m : JsonNumber}
    (made : unsigned negative digits = .ok (m, []))
    (split : text.toList = (if negative then ['-'] else []) ++ digits) :
    read text = .ok (.number m) := by
  unfold read readWritten
  rw [split]
  cases negative with
  | true =>
    rw [if_pos rfl, List.singleton_append, depthLimit, writtenValue_minus, made]
    rfl
  | false =>
    obtain ⟨c, rest, rfl, digit⟩ := digit_of_unsigned made
    rw [if_neg Bool.false_ne_true, List.nil_append, writtenValue_digit _ _ c digit, made]
    rfl

/-- The text of a whole number without a sign is read as the number. -/
theorem read_natural {n : Nat} (word : n ≤ maxWord) :
    read (JsonNumber.text (.natural n)) = .ok (.number (.natural n)) :=
  read_signed (unsigned_natural word) Nat.toList_repr

/-- The text of a regular number is read as a number. -/
theorem exists_read (n : JsonNumber) (regular : IsRegular n) :
    ∃ m, read (JsonNumber.text n) = .ok (.number m) := by
  cases n with
  | natural n => exact ⟨.natural n, read_natural regular⟩
  | negative n =>
    obtain ⟨m, made⟩ := unsigned_toDigits true (Nat.le_trans regular (by decide : 2 ^ 63 ≤ maxWord))
    refine ⟨m, read_signed made ?_⟩
    rw [JsonNumber.text, String.toList_append]
    exact congrArg _ Nat.toList_repr
  | real x =>
    obtain ⟨y, made⟩ := exists_real regular
    refine ⟨.real y, read_signed made ?_⟩
    rw [JsonNumber.text, Binary64.text, String.toList_append]
    cases x.negative <;> rfl

/-- What the text of a number is read as. -/
def reread (n : JsonNumber) : JsonNumber :=
  match read (JsonNumber.text n) with
  | .ok (.number m) => m
  | _ => n

theorem read_text (n : JsonNumber) (regular : IsRegular n) :
    read (JsonNumber.text n) = .ok (.number (reread n)) := by
  obtain ⟨m, same⟩ := exists_read n regular
  rw [reread, same]

end Phrasebook.Json
