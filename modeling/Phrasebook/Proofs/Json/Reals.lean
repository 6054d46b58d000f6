import Phrasebook.Proofs.Json.Numbers
import Phrasebook.Proofs.Number.Shortest

/-!
# Doubles that are read

A number is read as digits and a power of ten. Dividing by the power always leads to a double, and
multiplying does if the digits in their places are modest. Every number that is read is regular.
-/

namespace Phrasebook.Json

open Number (Binary64)
open Number.Binary64 (InRange Decimal ofRatio_eq_some exists_ofRatio exists_mul exists_div one
  topStep topStep_eq one_le_units one_shiftLeft_eq_mul_one)

/-! ## Powers of ten -/

/-- The last power of ten among the doubles. -/
theorem power_lt {ten two : Nat} (last : ten = 308) (top : two = 971) :
    2 * 10 ^ ten < (2 ^ 54 - 5) * 2 ^ two := by
  subst last top
  exact of_decide_eq_true (by decide +kernel)

theorem lt_power {ten two : Nat} (next : ten = 309) (top : two = 971) :
    (2 ^ 54 - 5) * 2 ^ two < 2 * 10 ^ ten := by
  subst next top
  exact of_decide_eq_true (by decide +kernel)

/-- A power of ten among the doubles, in halves of a unit. -/
theorem isModest_power {k : Nat} (small : k ≤ 308) :
    2 * (10 ^ k * one) < (2 ^ 54 - 5) * topStep := by
  obtain ⟨two, top⟩ : ∃ two, two = 971 := ⟨_, rfl⟩
  obtain ⟨ten, last⟩ : ∃ ten, ten = 308 := ⟨_, rfl⟩
  have bound : 2 * 10 ^ k < (2 ^ 54 - 5) * 2 ^ two := by
    refine Nat.lt_of_le_of_lt (Nat.mul_le_mul_left 2 ?_) (power_lt last top)
    exact Nat.pow_le_pow_right (by decide) (last ▸ small)
  rw [topStep_eq top, Nat.mul_comm one, ← Nat.mul_assoc, ← Nat.mul_assoc]
  exact Nat.mul_lt_mul_of_pos_right bound Binary64.one_pos

theorem le_of_isModest {digits : Nat} {scale : Int} (modest : Decimal.IsModest ⟨digits, scale⟩)
    (nonzero : digits ≠ 0) : scale ≤ 308 := by
  apply Int.le_of_not_gt
  intro large
  obtain ⟨two, top⟩ : ∃ two, two = 971 := ⟨_, rfl⟩
  obtain ⟨ten, next⟩ : ∃ ten, ten = 309 := ⟨_, rfl⟩
  have power : 10 ^ ten ≤ digits * 10 ^ scale.toNat :=
    Nat.le_trans (Nat.pow_le_pow_right (by decide) (by omega))
      (Nat.le_mul_of_pos_left _ (Nat.pos_of_ne_zero nonzero))
  have bound : (2 ^ 54 - 5) * 2 ^ two < 2 * (digits * 10 ^ scale.toNat) :=
    Nat.lt_of_lt_of_le (lt_power next top) (Nat.mul_le_mul_left 2 power)
  have none : (-scale).toNat = 0 := by omega
  unfold Decimal.IsModest Decimal.AtMost at modest
  dsimp only at modest
  rw [none, topStep_eq top, Nat.mul_comm one, ← Nat.mul_assoc, ← Nat.mul_assoc, Nat.pow_zero,
    Nat.mul_one, ← Nat.mul_assoc, Nat.mul_assoc 2] at modest
  exact Nat.not_le_of_lt (Nat.mul_lt_mul_of_pos_right bound Binary64.one_pos) modest

theorem exists_power {k : Nat} (small : k ≤ 308) :
    ∃ p, Binary64.ofRatio false (10 ^ k) 1 = some p ∧ one ≤ p.units := by
  have nonzero : 10 ^ k ≠ 0 := Nat.pos_iff_ne_zero.mp (Nat.pow_pos (by decide))
  have room : 2 * (10 ^ k * one) < (2 ^ 54 - 1) * topStep * 1 := by
    have bound := isModest_power small
    omega
  obtain ⟨p, made⟩ := exists_ofRatio false Nat.one_pos room
  exact ⟨p, made, one_le_units nonzero made⟩

/-! ## Scaling -/

theorem scaleReal_eq (tries : Nat) (x : Binary64) (scale : Int) (small : scale.natAbs ≤ 308)
    {p : Binary64} (made : Binary64.ofRatio false (10 ^ scale.natAbs) 1 = some p) :
    scaleReal tries x scale = match if 0 ≤ scale then x.mul p else x.div p with
      | some y => .ok y
      | none => .error .numberOutOfRange := by
  have power : Binary64.ofNat (Nat.pow 10 scale.natAbs) = some p := made
  unfold scaleReal
  simp only [if_pos small, power]
  rfl

theorem scaleReal_down {x : Binary64} (range : x.InRange) (tries : Nat) {scale : Int}
    (down : scale < 0) : ∃ y, scaleReal tries x scale = .ok y ∧ y.InRange := by
  induction tries generalizing x scale with
  | zero =>
    rcases Nat.lt_or_ge 308 scale.natAbs with large | small
    · unfold scaleReal
      simp only [if_neg (Nat.not_le_of_lt large), if_neg (Int.not_le.mpr down)]
      split
      · exact ⟨x, rfl, range⟩
      · exact ⟨_, rfl, Nat.two_pow_pos 53, Nat.zero_le _⟩
    · obtain ⟨p, made, proper⟩ := exists_power small
      obtain ⟨y, quotient, inside⟩ := exists_div range proper
      refine ⟨y, ?_, inside⟩
      rw [scaleReal_eq 0 x scale small made, if_neg (Int.not_le.mpr down), quotient]
  | succ tries ih =>
    rcases Nat.lt_or_ge 308 scale.natAbs with large | small
    · obtain ⟨k, last⟩ : ∃ k, k = 308 := ⟨_, rfl⟩
      obtain ⟨p, made, proper⟩ := exists_power (k := k) (Nat.le_of_eq last)
      have power : Binary64.ofNat (Nat.pow 10 k) = some p := made
      obtain ⟨y, quotient, inside⟩ := exists_div range proper
      rw [last] at power
      unfold scaleReal
      simp only [if_neg (Nat.not_le_of_lt large), if_neg (Int.not_le.mpr down), power, ok_bind,
        quotient]
      split
      · exact ⟨x, rfl, range⟩
      · exact ih inside (by omega)
    · obtain ⟨p, made, proper⟩ := exists_power small
      obtain ⟨y, quotient, inside⟩ := exists_div range proper
      refine ⟨y, ?_, inside⟩
      rw [scaleReal_eq _ x scale small made, if_neg (Int.not_le.mpr down), quotient]

/-- Digits that are modest in their places can be scaled up to there. -/
theorem scaleReal_up {significand : Nat} (nonzero : significand ≠ 0) {x : Binary64}
    (made : Binary64.ofRatio false significand 1 = some x) (tries : Nat) {scale : Int}
    (up : 0 ≤ scale) (modest : Decimal.IsModest ⟨significand, scale⟩) :
    ∃ y, scaleReal tries x scale = .ok y := by
  have last := le_of_isModest modest nonzero
  have small : scale.natAbs ≤ 308 := by omega
  have same : scale.toNat = scale.natAbs := by omega
  have none : (-scale).toNat = 0 := by omega
  obtain ⟨p, made', -⟩ := exists_power small
  have power : 10 ^ scale.natAbs ≠ 0 := Nat.pos_iff_ne_zero.mp (Nat.pow_pos (by decide))
  unfold Decimal.IsModest Decimal.AtMost at modest
  dsimp only at modest
  rw [none, same, Nat.pow_zero, Nat.mul_one] at modest
  obtain ⟨y, product, -⟩ := exists_mul nonzero power made made' modest
  refine ⟨y, ?_⟩
  rw [scaleReal_eq tries x scale small made', if_pos up, product]

theorem scaleReal_zero (tries : Nat) {scale : Int} (up : 0 ≤ scale) :
    ∃ y, scaleReal tries (.zero false) scale = .ok y := by
  rcases Nat.lt_or_ge 308 scale.natAbs with large | small
  · refine ⟨.zero false, ?_⟩
    unfold scaleReal
    simp only [if_neg (Nat.not_le_of_lt large)]
    rfl
  · obtain ⟨p, made, -⟩ := exists_power small
    rw [scaleReal_eq tries _ scale small made, if_pos up]
    have none : (Binary64.zero false).units * p.units = 0 := Nat.zero_mul _
    rw [Binary64.mul, none, Binary64.ofRatio, if_pos rfl]
    exact ⟨_, rfl⟩

theorem word_lt {n : Nat} (word : n ≤ maxWord) : 2 * (n * one) < (2 ^ 54 - 5) * topStep := by
  obtain ⟨two, top⟩ : ∃ two, two = 971 := ⟨_, rfl⟩
  have steps : one * 2 ^ 20 ≤ topStep := by
    rw [topStep_eq top]
    exact Nat.mul_le_mul_left one (Nat.pow_le_pow_right Nat.two_pos (by omega))
  have units := Nat.mul_le_mul_right one word
  have positive := Binary64.one_pos
  unfold maxWord at units
  rw [Nat.pow_eq] at units
  omega

theorem isModest_word {n : Nat} (word : n ≤ maxWord) : Decimal.IsModest ⟨n, 0⟩ := by
  unfold Decimal.IsModest Decimal.AtMost
  simpa using Nat.le_of_lt (word_lt word)

theorem exists_ofNat {n : Nat} (word : n ≤ maxWord) :
    ∃ x, Binary64.ofNat n = some x ∧ x.InRange := by
  have bound : 2 * (n * one) < (2 ^ 54 - 1) * topStep * 1 := by
    have := word_lt word
    omega
  obtain ⟨x, made⟩ := exists_ofRatio false Nat.one_pos bound
  exact ⟨x, made, (ofRatio_eq_some Nat.one_pos made).1⟩

/-- A number of digits in their places is a double, if they are modest or no zeros stand behind
them. -/
theorem exists_realOfParts (negative : Bool) {significand : Nat} {scale : Int}
    (word : significand ≤ maxWord)
    (modest : 0 < scale → significand ≠ 0 → Decimal.IsModest ⟨significand, scale⟩) :
    ∃ x, realOfParts negative significand scale = .ok (.real x) := by
  obtain ⟨x, made, range⟩ := exists_ofNat word
  suffices scaled : ∃ y, scaleReal 4 x scale = .ok y by
    obtain ⟨y, scaled⟩ := scaled
    refine ⟨{ y with negative }, ?_⟩
    rw [realOfParts, made]
    dsimp only
    rw [scaled]
    rfl
  rcases Int.lt_or_le scale 0 with down | up
  · obtain ⟨y, scaled, -⟩ := scaleReal_down range 4 down
    exact ⟨y, scaled⟩
  · by_cases nonzero : significand = 0
    · subst nonzero
      cases made
      exact scaleReal_zero 4 up
    · rcases Int.lt_or_eq_of_le up with behind | here
      · exact scaleReal_up nonzero made 4 up (modest behind nonzero)
      · exact scaleReal_up nonzero made 4 up (here ▸ isModest_word word)

/-! ## Numbers that are read -/

/-- The range of numbers that a text can denote. -/
def IsRegular : JsonNumber → Prop
  | .natural n => n ≤ maxWord
  | .negative n => n ≤ 2 ^ 63
  | .real x => x.InRange

/-- What a step yields is of a kind. -/
def Step.Yields (step : Step α) (kind : α → Prop) : Prop :=
  ∀ text value rest, step text = .ok (value, rest) → kind value

theorem inRange_scaleReal (tries : Nat) {x y : Binary64} (range : x.InRange) {scale : Int}
    (scaled : scaleReal tries x scale = .ok y) : y.InRange := by
  rcases Nat.lt_or_ge 308 scale.natAbs with large | small
  · rcases Int.lt_or_le scale 0 with down | up
    · obtain ⟨z, same, inside⟩ := scaleReal_down range tries down
      rw [scaled] at same
      cases same
      exact inside
    · unfold scaleReal at scaled
      simp only [if_neg (Nat.not_le_of_lt large), if_pos up] at scaled
      split at scaled
      next => cases scaled; exact range
      next => cases scaled
  · obtain ⟨p, made, proper⟩ := exists_power small
    have positive : 0 < p.units := Nat.lt_of_lt_of_le Binary64.one_pos proper
    rw [scaleReal_eq tries x scale small made] at scaled
    split at scaled
    next z found =>
      cases scaled
      split at found
      · refine (ofRatio_eq_some ?_ found).1
        rw [one_shiftLeft_eq_mul_one]
        exact Nat.mul_pos Binary64.one_pos Binary64.one_pos
      · exact (ofRatio_eq_some positive found).1
    next => cases scaled

theorem regular_realOfParts {negative : Bool} {significand : Nat} {scale : Int} {n : JsonNumber}
    (made : realOfParts negative significand scale = .ok n) : IsRegular n := by
  unfold realOfParts at made
  split at made
  next => cases made
  next x whole =>
    obtain ⟨y, scaled, same⟩ := bind_eq_ok_iff.mp made
    cases same
    have range := inRange_scaleReal 4 (ofRatio_eq_some Nat.one_pos whole).1 scaled
    exact ⟨range.significand, range.exponent⟩

theorem regular_zero (negative : Bool) : IsRegular (.real (.zero negative)) :=
  ⟨Nat.two_pow_pos 53, Nat.zero_le _⟩

theorem regular_map {made : Except Fault JsonNumber}
    (regular : ∀ n, made = .ok n → IsRegular n) {text rest : List Char} {n : JsonNumber}
    (returned : made.map (·, text) = .ok (n, rest)) : IsRegular n := by
  obtain ⟨value, known, same⟩ := map_eq_ok_iff.mp returned
  cases same
  exact regular n known

theorem exponentPart_yields (negative : Bool) (significand : Nat) (scale : Int) :
    (exponentPart negative significand scale).Yields IsRegular := by
  intro text n rest returned
  rw [exponentPart_eq] at returned
  unfold exponentDigits at returned
  split at returned
  next => cases returned
  next =>
    dsimp only at returned
    split at returned
    next =>
      split at returned
      next => cases returned
      next => cases returned; exact regular_zero negative
    next => exact regular_map (fun _ => regular_realOfParts) returned

theorem fractionPart_yields (negative : Bool) (significand : Nat) (scale : Int) :
    (fractionPart negative significand scale).Yields IsRegular := by
  intro text n rest returned
  unfold fractionPart at returned
  dsimp only at returned
  split at returned
  next => cases returned
  next =>
    unfold exponentOrEnd at returned
    split at returned
    next => exact exponentPart_yields _ _ _ _ _ _ returned
    next => exact exponentPart_yields _ _ _ _ _ _ returned
    next => exact regular_map (fun _ => regular_realOfParts) returned

theorem takeDigits_le_maxWord {value : Nat} (small : value ≤ maxWord) (count : Nat)
    (text : List Char) : (takeDigits value count text).1 ≤ maxWord := by
  fun_induction takeDigits value count text with
  | case1 value count => exact small
  | case2 value count c text fits ih =>
    exact ih (of_decide_eq_true (Bool.and_eq_true_iff.mp fits).2)
  | case3 value count c text stop => exact small

theorem wholeThen_yields {kind : JsonNumber → Prop} {fraction exponent whole : Step JsonNumber}
    (fractions : fraction.Yields kind) (exponents : exponent.Yields kind)
    (wholes : whole.Yields kind) : (wholeThen fraction exponent whole).Yields kind := by
  intro text n rest returned
  unfold wholeThen at returned
  split at returned
  next => exact fractions _ _ _ returned
  next => exact exponents _ _ _ returned
  next => exact exponents _ _ _ returned
  next => exact wholes _ _ _ returned

theorem zeroEnd_yields (negative : Bool) : (zeroEnd negative).Yields IsRegular := by
  intro text n rest returned
  unfold zeroEnd at returned
  split at returned
  next => cases returned
  next =>
    cases returned
    cases negative
    · exact Nat.zero_le _
    · exact regular_zero true

theorem wholeEnd_yields (negative : Bool) {value : Nat} (small : value ≤ maxWord)
    (more : List Char) : (wholeEnd negative value more).Yields IsRegular := by
  intro text n rest returned
  unfold wholeEnd at returned
  split at returned
  next =>
    split at returned
    next => cases returned; exact small
    next =>
      split at returned
      next fits => cases returned; exact fits
      next => exact regular_map (fun _ => regular_realOfParts) returned
  next => exact regular_map (fun _ => regular_realOfParts) returned

/-- Every number that is read is regular. -/
theorem unsigned_yields (negative : Bool) : (unsigned negative).Yields IsRegular := by
  intro text n rest returned
  rw [unsigned_eq] at returned
  split at returned
  next tail =>
    exact wholeThen_yields (fractionPart_yields _ _ _) (exponentPart_yields _ _ _)
      (zeroEnd_yields negative) _ _ _ returned
  next =>
    unfold wholeDigits at returned
    split at returned
    next => cases returned
    next =>
      exact wholeThen_yields (fractionPart_yields _ _ _) (exponentPart_yields _ _ _)
        (wholeEnd_yields negative (takeDigits_le_maxWord (Nat.zero_le _) 0 _) _) _ _ _ returned

end Phrasebook.Json
