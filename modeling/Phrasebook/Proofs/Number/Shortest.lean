import Mathlib
import Phrasebook.Number.Binary64

/-!
# Rounding and shortest decimals

The double next to a quotient is at most half a step below it. A quotient has a double next to it
unless it lies half a step or more above the greatest double. The decimal that stands for a double
reads back as it, so it is at most half a step above it.
-/

namespace Phrasebook.Number.Binary64

/-- How many units make one. -/
@[irreducible] def one : Nat := 2 ^ 1074

/-- How many units the greatest doubles are apart. -/
@[irreducible] def topStep : Nat := 2 ^ 2045

theorem one_pos : 0 < one := by
  unfold one
  exact Nat.two_pow_pos 1074

theorem topStep_pos : 0 < topStep := by
  unfold topStep
  exact Nat.two_pow_pos 2045

theorem two_pow_eq_topStep {k : Nat} (top : k = 2045) : 2 ^ k = topStep := by
  rw [top]
  unfold topStep
  rfl

theorem two_pow_eq_one {k : Nat} (point : k = 1074) : 2 ^ k = one := by
  rw [point]
  unfold one
  rfl

theorem topStep_eq {k : Nat} (top : k = 971) : topStep = one * 2 ^ k := by
  obtain ⟨point, value⟩ : ∃ point, point = 1074 := ⟨_, rfl⟩
  rw [← two_pow_eq_topStep (k := point + k) (by omega), Nat.pow_add, two_pow_eq_one value]

theorem one_shiftLeft_eq_mul_one : 1 <<< 2148 = one * one := by
  obtain ⟨point, value⟩ : ∃ point, point = 1074 := ⟨_, rfl⟩
  have double : 2148 = point + point := by omega
  rw [double, Nat.one_shiftLeft, Nat.pow_add, two_pow_eq_one value]

theorem shiftLeft_eq_mul_one (num : Nat) : num <<< 1074 = num * one := by
  unfold one
  exact Nat.shiftLeft_eq num 1074

/-- A significand and an exponent in the range of doubles. -/
structure InRange (x : Binary64) : Prop where
  significand : x.significand < 2 ^ 53
  exponent : x.exponent ≤ 2045

/-! ## Dividing -/

/-- A rounded quotient is off by half a unit at most. -/
theorem divRound_near (num : Nat) {den : Nat} (positive : 0 < den) :
    2 * num ≤ (2 * divRound num den + 1) * den ∧ 2 * divRound num den * den ≤ 2 * num + den := by
  have parts := Nat.div_add_mod num den
  have small := Nat.mod_lt num positive
  have low : (2 * (num / den) + 1) * den = 2 * (den * (num / den)) + den := by grind
  have high : (2 * (num / den + 1) + 1) * den = 2 * (den * (num / den)) + 3 * den := by grind
  have below : 2 * (num / den) * den = 2 * (den * (num / den)) := by grind
  have above : 2 * (num / den + 1) * den = 2 * (den * (num / den)) + 2 * den := by grind
  unfold divRound
  dsimp only
  split
  · omega
  · split
    · omega
    · split <;> omega

theorem divRound_bounds (num den : Nat) :
    num / den ≤ divRound num den ∧ divRound num den ≤ num / den + 1 := by
  unfold divRound
  dsimp only
  split
  · omega
  · split
    · omega
    · split <;> omega

/-! ## Significand and exponent -/

/-- The exponent of the double next to a quotient, before its significand is rounded. -/
def shift (scaled den : Nat) : Nat := (scaled / den).log2 - 52

/-- The significand of the double next to a quotient. -/
def rounded (scaled den : Nat) : Nat := divRound scaled (den <<< shift scaled den)

/-- A significand that is rounded up to the next power of two is written with the next exponent. -/
def carried (significand exponent : Nat) : Nat × Nat :=
  if significand = Nat.pow 2 53 then (Nat.pow 2 52, exponent + 1) else (significand, exponent)

/-- The double next to a quotient that counts units. -/
def ofUnits (negative : Bool) (scaled den : Nat) : Option Binary64 :=
  let (significand, exponent) := carried (rounded scaled den) (shift scaled den)
  if exponent ≤ 2045 then some ⟨negative, significand, exponent⟩ else none

theorem ofRatio_eq (negative : Bool) (num den : Nat) : ofRatio negative num den =
    if num = 0 then some (zero negative) else ofUnits negative (num <<< 1074) den := by
  unfold ofRatio ofUnits
  -- What follows holds of any number of units, and nothing of it is to be computed.
  generalize num <<< 1074 = scaled
  rfl

theorem carried_units (significand exponent : Nat) :
    (carried significand exponent).1 * 2 ^ (carried significand exponent).2 =
      significand * 2 ^ exponent := by
  unfold carried
  split
  next full =>
    rw [full, Nat.pow_succ]
    simp only [Nat.pow_eq]
    omega
  next => rfl

section

variable (scaled : Nat) {den : Nat} (positive : 0 < den)

include positive

theorem rounded_near :
    2 * scaled ≤ (2 * rounded scaled den + 1) * 2 ^ shift scaled den * den ∧
    2 * rounded scaled den * 2 ^ shift scaled den * den ≤
      2 * scaled + 2 ^ shift scaled den * den := by
  have near := divRound_near scaled (Nat.mul_pos positive (Nat.two_pow_pos (shift scaled den)))
  rw [rounded, Nat.shiftLeft_eq]
  grind

omit positive in
/-- A significand has at most 53 bits, up to the power of two behind them. -/
theorem rounded_le (den : Nat) : rounded scaled den ≤ Nat.pow 2 53 := by
  have floor : scaled / (den <<< shift scaled den) < 2 ^ 53 := by
    rw [Nat.shiftLeft_eq, ← Nat.div_div_eq_div_mul, Nat.div_lt_iff_lt_mul (Nat.two_pow_pos _),
      ← Nat.pow_add]
    refine Nat.lt_of_lt_of_le Nat.lt_log2_self (Nat.pow_le_pow_right (by decide) ?_)
    unfold shift
    omega
  exact Nat.le_trans (divRound_bounds _ _).2 floor

variable {scaled}

/-- The double next to a quotient of units. -/
theorem ofUnits_eq_some {negative : Bool} {x : Binary64}
    (made : ofUnits negative scaled den = some x) : x.InRange ∧
      2 * scaled ≤ (2 * x.significand + 1) * 2 ^ x.exponent * den := by
  have near := (rounded_near scaled positive).1
  have full := rounded_le scaled den
  unfold ofUnits carried at made
  by_cases carry : rounded scaled den = Nat.pow 2 53
  · simp only [carry, ↓reduceIte, Option.ite_none_right_eq_some, Option.some.injEq] at made
    obtain ⟨small, rfl⟩ := made
    refine ⟨⟨Nat.pow_lt_pow_right (by decide) (by decide), small⟩,
      Nat.le_trans near (Nat.mul_le_mul_right den ?_)⟩
    -- Half a step is less than half of a step that is twice as large.
    have := Nat.two_pow_pos (shift scaled den)
    simp only [carry, Nat.pow_eq, Nat.pow_succ 2 (shift scaled den)]
    omega
  · simp only [carry, ↓reduceIte, Option.ite_none_right_eq_some, Option.some.injEq] at made
    obtain ⟨small, rfl⟩ := made
    exact ⟨⟨Nat.lt_of_le_of_ne full carry, small⟩, near⟩

omit positive in
theorem units_ofUnits {negative : Bool} {x : Binary64}
    (made : ofUnits negative scaled den = some x) :
    x.units = rounded scaled den * 2 ^ shift scaled den := by
  unfold ofUnits at made
  dsimp only at made
  split at made
  next =>
    cases made
    rw [units, Nat.shiftLeft_eq, carried_units]
  next => cases made

/-- A quotient less than half a step above the greatest double has a double next to it. -/
theorem exists_ofUnits (negative : Bool) (small : 2 * scaled < (2 ^ 54 - 1) * topStep * den) :
    ∃ x, ofUnits negative scaled den = some x := by
  suffices bound : (carried (rounded scaled den) (shift scaled den)).2 ≤ 2045 from
    ⟨_, if_pos bound⟩
  -- A quotient of more steps than doubles have is too large.
  have size : shift scaled den ≤ 2045 := by
    apply Nat.le_of_not_lt
    intro large
    obtain ⟨top, value⟩ : ∃ top, top = 2045 := ⟨_, rfl⟩
    have bits : 53 + top ≤ (scaled / den).log2 := by
      unfold shift at large
      omega
    have nonzero : scaled / den ≠ 0 := fun none => by
      rw [none, Nat.log2_zero] at bits
      omega
    have many := Nat.le_trans (Nat.pow_le_pow_right Nat.two_pos bits) (Nat.log2_self_le nonzero)
    rw [Nat.pow_add, two_pow_eq_topStep value, Nat.le_div_iff_mul_le positive,
      Nat.mul_assoc] at many
    rw [Nat.mul_assoc] at small
    omega
  unfold carried
  split
  next full =>
    rcases Nat.lt_or_ge (shift scaled den) 2045 with less | most
    · exact less
    · -- At the greatest exponent nothing is rounded up to a power of two.
      have top : shift scaled den = 2045 := Nat.le_antisymm size most
      have near := (rounded_near scaled positive).2
      rw [full, two_pow_eq_topStep top, Nat.mul_assoc, Nat.pow_eq] at near
      rw [Nat.mul_assoc] at small
      omega
  next => exact size

end

/-! ## Quotients and natural numbers -/

/-- What the double next to a quotient is like. -/
theorem ofRatio_eq_some {negative : Bool} {num den : Nat} (positive : 0 < den) {x : Binary64}
    (made : ofRatio negative num den = some x) : x.InRange ∧
      2 * (num * one) ≤ (2 * x.significand + 1) * 2 ^ x.exponent * den := by
  rw [ofRatio_eq] at made
  split at made
  next none =>
    cases made
    rw [none, Nat.zero_mul]
    exact ⟨⟨Nat.two_pow_pos 53, Nat.zero_le _⟩, Nat.zero_le _⟩
  next =>
    rw [shiftLeft_eq_mul_one] at made
    exact ofUnits_eq_some positive made

theorem exists_ofRatio (negative : Bool) {num den : Nat} (positive : 0 < den)
    (small : 2 * (num * one) < (2 ^ 54 - 1) * topStep * den) :
    ∃ x, ofRatio negative num den = some x := by
  rw [ofRatio_eq]
  split
  · exact ⟨_, rfl⟩
  · rw [shiftLeft_eq_mul_one]
    exact exists_ofUnits positive negative small

section

variable {n : Nat} (nonzero : n ≠ 0)

include nonzero

/-- A step is not larger than the last bit of the number. -/
theorem step_le :
    2 ^ 52 * 2 ^ shift (n * one) 1 ≤ n * one ∧ one ≤ 2 ^ 52 * 2 ^ shift (n * one) 1 := by
  have whole : n * one ≠ 0 := Nat.mul_ne_zero nonzero (Nat.pos_iff_ne_zero.mp one_pos)
  have enough : one ≤ n * one := Nat.le_mul_of_pos_left _ (Nat.pos_of_ne_zero nonzero)
  have bits : 1074 ≤ (n * one).log2 := by
    rw [Nat.le_log2 whole]
    unfold one at enough ⊢
    exact enough
  have exponent : 52 + shift (n * one) 1 = (n * one).log2 := by
    rw [shift, Nat.div_one]
    omega
  rw [← Nat.pow_add, exponent]
  refine ⟨Nat.log2_self_le whole, Nat.le_trans ?_ (Nat.pow_le_pow_right Nat.two_pos bits)⟩
  unfold one
  exact Nat.le_refl _

variable {negative : Bool} {x : Binary64} (made : ofRatio negative n 1 = some x)

include made

theorem units_eq : x.units = rounded (n * one) 1 * 2 ^ shift (n * one) 1 := by
  rw [ofRatio_eq, if_neg nonzero, shiftLeft_eq_mul_one] at made
  exact units_ofUnits made

/-- A number is rounded up by its own 2^53rd part at most. -/
theorem units_le : x.units * 2 ^ 53 ≤ n * one * (2 ^ 53 + 1) := by
  have near := (rounded_near (n * one) Nat.one_pos).2
  have step := (step_le nonzero).1
  rw [units_eq nonzero made]
  rw [Nat.mul_one, Nat.mul_one, Nat.mul_assoc] at near
  generalize rounded (n * one) 1 * 2 ^ shift (n * one) 1 = units at near
  generalize n * one = whole at near step
  omega

/-- A number that is not zero is not rounded below one. -/
theorem one_le_units : one ≤ x.units := by
  obtain ⟨step, enough⟩ := step_le nonzero
  rw [units_eq nonzero made]
  refine Nat.le_trans enough (Nat.mul_le_mul_right _ (Nat.le_trans ?_ (divRound_bounds _ _).1))
  rw [Nat.one_shiftLeft]
  exact (Nat.le_div_iff_mul_le (Nat.two_pow_pos _)).mpr step

end

theorem InRange.units_le {x : Binary64} (range : x.InRange) :
    2 * x.units ≤ (2 ^ 54 - 2) * topStep := by
  have step : 2 ^ x.exponent ≤ topStep := by
    obtain ⟨top, value⟩ : ∃ top, top = 2045 := ⟨_, rfl⟩
    rw [← two_pow_eq_topStep value]
    exact Nat.pow_le_pow_right Nat.two_pos (value ▸ range.exponent)
  have digits : x.significand ≤ 2 ^ 53 - 1 := Nat.le_sub_one_of_lt range.significand
  have product := Nat.mul_le_mul digits step
  rw [units, Nat.shiftLeft_eq]
  omega

/-- What is not below one can divide any double. -/
theorem exists_div {x p : Binary64} (range : x.InRange) (large : one ≤ p.units) :
    ∃ y, x.div p = some y ∧ y.InRange := by
  have positive : 0 < p.units := Nat.lt_of_lt_of_le one_pos large
  have quotient : 2 * (x.units * one) ≤ (2 ^ 54 - 2) * topStep * p.units := by
    rw [← Nat.mul_assoc]
    exact Nat.mul_le_mul range.units_le large
  have room : (2 ^ 54 - 2) * topStep * p.units < (2 ^ 54 - 1) * topStep * p.units :=
    Nat.mul_lt_mul_of_pos_right (Nat.mul_lt_mul_of_pos_right (by decide) topStep_pos) positive
  obtain ⟨y, made⟩ := exists_ofRatio (x.negative != p.negative) positive
    (Nat.lt_of_le_of_lt quotient room)
  exact ⟨y, made, (ofRatio_eq_some positive made).1⟩

/-- Two natural numbers can be multiplied if their product is at least two steps below the end of
the doubles: each of them and the product are rounded, each time by half a step at most. -/
theorem exists_mul {n m : Nat} (nonzero : n ≠ 0) (nonzero' : m ≠ 0) {x p : Binary64}
    (made : ofRatio false n 1 = some x) (made' : ofRatio false m 1 = some p)
    (small : 2 * (n * m * one) ≤ (2 ^ 54 - 5) * topStep) : ∃ y, x.mul p = some y ∧ y.InRange := by
  have positive : 0 < one * one := Nat.mul_pos one_pos one_pos
  have factors := Nat.mul_le_mul (Binary64.units_le nonzero made) (Binary64.units_le nonzero' made')
  have product : 2 * (x.units * p.units * one) * 2 ^ 106 ≤
      2 * (n * m * one) * (one * one) * (2 ^ 53 + 1) ^ 2 := by
    have := Nat.mul_le_mul_left (2 * one) factors
    grind
  have limit := Nat.mul_le_mul_right ((2 ^ 53 + 1) ^ 2) (Nat.mul_le_mul_right (one * one) small)
  have room := Nat.mul_pos topStep_pos positive
  have bound : 2 * (x.units * p.units * one) < (2 ^ 54 - 1) * topStep * (one * one) := by
    rw [Nat.mul_assoc _ topStep] at limit ⊢
    omega
  obtain ⟨y, product⟩ := exists_ofRatio (x.negative != p.negative) positive bound
  refine ⟨y, ?_, (ofRatio_eq_some positive product).1⟩
  rw [mul, one_shiftLeft_eq_mul_one, product]

/-! ## Shortest decimals -/

/-- A decimal is at most so many halves of a unit. -/
def Decimal.AtMost (d : Decimal) (halves : Nat) : Prop :=
  2 * (d.digits * 10 ^ d.scale.toNat * one) ≤ halves * 10 ^ (-d.scale).toNat

/-- Some of the first digits of a decimal, in their places. -/
theorem Decimal.AtMost.front {d : Decimal} {halves : Nat} (bound : d.AtMost halves)
    {digits : Nat} (places : Nat) (front : digits * 10 ^ places ≤ d.digits) :
    Decimal.AtMost ⟨digits, d.scale + places⟩ halves := by
  unfold AtMost at bound ⊢
  dsimp only
  generalize whole : (d.scale + places).toNat = a
  generalize fraction : (-(d.scale + places)).toNat = b
  generalize was : d.scale.toNat = t at bound
  generalize below : (-d.scale).toNat = s at bound
  -- What the powers of ten on both sides amount to.
  have powers : 10 ^ a * 10 ^ s = 10 ^ places * 10 ^ t * 10 ^ b := by
    rw [← Nat.pow_add, ← Nat.pow_add, ← Nat.pow_add]
    congr 1
    omega
  refine Nat.le_of_mul_le_mul_right ?_ (Nat.pow_pos (n := s) (by decide : 0 < 10))
  calc 2 * (digits * 10 ^ a * one) * 10 ^ s
      = 2 * one * digits * (10 ^ a * 10 ^ s) := by grind
    _ = 2 * (digits * 10 ^ places * (10 ^ t * one)) * 10 ^ b := by rw [powers]; grind
    _ ≤ 2 * (d.digits * (10 ^ t * one)) * 10 ^ b :=
        Nat.mul_le_mul_right _ (Nat.mul_le_mul_left _ (Nat.mul_le_mul_right _ front))
    _ ≤ halves * 10 ^ s * 10 ^ b := by
        rw [← Nat.mul_assoc d.digits]
        exact Nat.mul_le_mul_right _ bound
    _ = halves * 10 ^ b * 10 ^ s := by grind

theorem ofDecimal_eq (negative : Bool) (d : Decimal) : ofDecimal negative d =
    ofRatio negative (d.digits * 10 ^ d.scale.toNat) (10 ^ (-d.scale).toNat) := by
  unfold ofDecimal
  split
  next whole =>
    have none : (-d.scale).toNat = 0 := by omega
    rw [none]
    rfl
  next fraction =>
    have none : d.scale.toNat = 0 := by omega
    rw [none, Nat.pow_zero, Nat.mul_one]
    rfl

/-- A decimal that reads back is at most half a step above the double. -/
theorem atMost_of_readsBack {x : Binary64} {d : Decimal} (back : readsBack x d = true) :
    d.AtMost ((2 * x.significand + 1) * 2 ^ x.exponent) := by
  have made : ofDecimal false d = some { x with negative := false } := eq_of_beq back
  rw [ofDecimal_eq] at made
  exact (ofRatio_eq_some (Nat.pow_pos (by decide)) made).2

theorem readsBack_of_shortestAt? {x : Binary64} {scale : Int} {d : Decimal}
    (found : shortestAt? x scale = some d) : readsBack x d = true := by
  unfold shortestAt? at found
  split at found
  next low high =>
    split at found
    next lower higher =>
      cases found
      split
      · exact (Bool.and_eq_true_iff.mp lower).1
      · exact higher
    next lower _ => cases found; exact (Bool.and_eq_true_iff.mp lower).1
    next _ higher => cases found; exact higher
    next => cases found

theorem shortestFrom_cases (x : Binary64) (tries : Nat) (scale : Int) :
    readsBack x (shortestFrom x scale tries) = true ∨
      shortestFrom x scale tries = ⟨x.significand, 0⟩ := by
  induction tries generalizing scale with
  | zero => exact Or.inr rfl
  | succ tries ih =>
    rw [shortestFrom]
    cases found : shortestAt? x scale with
    | none => exact ih (scale - 1)
    | some d => exact Or.inl (readsBack_of_shortestAt? found)

/-- The sign of a double has no part in its decimal. -/
theorem shortest_sign (negative : Bool) (significand exponent : Nat) :
    shortest ⟨negative, significand, exponent⟩ = shortest ⟨false, significand, exponent⟩ := by
  have from_eq (tries : Nat) (scale : Int) :
      shortestFrom ⟨negative, significand, exponent⟩ scale tries =
        shortestFrom ⟨false, significand, exponent⟩ scale tries := by
    induction tries generalizing scale with
    | zero => rfl
    | succ tries ih =>
      have here : shortestAt? ⟨negative, significand, exponent⟩ scale =
          shortestAt? ⟨false, significand, exponent⟩ scale := rfl
      rw [shortestFrom, shortestFrom, here, ih]
  rw [shortest, shortest, from_eq]
  rfl

/-- Two steps below half a step above the greatest double. -/
def Decimal.IsModest (d : Decimal) : Prop := d.AtMost ((2 ^ 54 - 5) * topStep)

/-- The two greatest doubles are the only ones with a decimal that is not modest. -/
theorem isModest_shortest {x : Binary64} (range : x.InRange)
    (lower : x.significand + 2 < 2 ^ 53 ∨ x.exponent < 2045) : x.shortest.IsModest := by
  unfold shortest
  split
  next none =>
    unfold Decimal.IsModest Decimal.AtMost
    simp
  next =>
    rcases shortestFrom_cases x 660 (decimalLength (x.units >>> 1074)) with back | fallback
    · refine Nat.le_trans (atMost_of_readsBack back) (Nat.mul_le_mul_right _ ?_)
      obtain ⟨top, value⟩ : ∃ top, top = 2045 := ⟨_, rfl⟩
      rw [← two_pow_eq_topStep value]
      rcases lower with less | less
      · exact Nat.mul_le_mul (by omega) (Nat.pow_le_pow_right Nat.two_pos (value ▸ range.exponent))
      · have half : 2 ^ x.exponent * 2 ≤ 2 ^ top := by
          rw [← Nat.pow_succ]
          exact Nat.pow_le_pow_right Nat.two_pos (value ▸ less)
        calc (2 * x.significand + 1) * 2 ^ x.exponent
            ≤ 2 ^ 54 * 2 ^ x.exponent :=
              Nat.mul_le_mul_right _ (by have := range.significand; omega)
          _ = 2 ^ 53 * (2 ^ x.exponent * 2) := by omega
          _ ≤ (2 ^ 54 - 5) * 2 ^ top := Nat.mul_le_mul (by decide) half
    · rw [fallback]
      unfold Decimal.IsModest Decimal.AtMost
      have digits := Nat.mul_le_mul_right one (Nat.le_of_lt range.significand)
      have step : one * 2 ^ 1 ≤ topStep := by
        obtain ⟨k, value⟩ : ∃ k, k = 971 := ⟨_, rfl⟩
        rw [topStep_eq value]
        exact Nat.mul_le_mul_left one (Nat.pow_le_pow_right Nat.two_pos (by omega))
      simp only [Int.toNat_zero, Int.neg_zero, Nat.pow_zero, Nat.mul_one]
      omega

theorem isModest_stripZeros {n : Nat} {d : Decimal} (modest : d.IsModest) :
    (stripZeros n d).IsModest := by
  induction n generalizing d with
  | zero => exact modest
  | succ n ih =>
    rw [stripZeros]
    split
    · exact ih (modest.front 1 (by omega))
    · exact modest

end Phrasebook.Number.Binary64
