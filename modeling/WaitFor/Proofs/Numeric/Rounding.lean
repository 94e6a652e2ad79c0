/-
Module: WaitFor.Proofs.Numeric.Rounding
Purpose: Quotients, integers and decimals are rounded to the nearest number.
Main exports:
  Binary64.NearestNatural, Binary64.roundHalfEven_nearest, Binary64.floorLog2_spec,
  Binary64.exists_roundsTo, Binary64.ofRatio_rounds, Binary64.isNearest_ofInt,
  Binary64.value_ofInt_mono, Binary64.value_ofInt_of_small, Decimal.toBinary64_rounds,
  Decimal.isFinite_toBinary64_iff
-/
import Mathlib
import WaitFor.Numeric.Decimal
import WaitFor.Proofs.Numeric.Places

namespace WaitFor

namespace Binary64

/-! ### Significands -/

/-- A natural number is nearest to a rational one, and even where another one is as near. -/
structure NearestNatural (r : ℚ) (n : Nat) : Prop where
  below : 2 * r ≤ 2 * n + 1
  above : 2 * (n : ℚ) ≤ 2 * r + 1
  even : 2 * r = 2 * n + 1 ∨ 2 * (n : ℚ) = 2 * r + 1 → Even n

theorem roundHalfEven_nearest (num : Nat) {den : Nat} (positive : 0 < den) :
    NearestNatural (num / den) (roundHalfEven num den) := by
  have denPos : (0 : ℚ) < den := by exact_mod_cast positive
  have parts : (num : ℚ) / den = (num / den : Nat) + (num % den : Nat) / den := by
    rw [add_div' _ _ _ denPos.ne', div_left_inj' denPos.ne']
    exact_mod_cast (Nat.div_add_mod' num den).symm
  have nonneg : (0 : ℚ) ≤ (num % den : Nat) / den := by positivity
  have less : ((num % den : Nat) : ℚ) / den < 1 := by
    rw [div_lt_one denPos]
    exact_mod_cast Nat.mod_lt num positive
  have low : 2 * (num % den) < den ↔ 2 * (((num % den : Nat) : ℚ) / den) < 1 := by
    rw [← mul_div_assoc, div_lt_one denPos]
    exact_mod_cast Iff.rfl
  have high : den < 2 * (num % den) ↔ 1 < 2 * (((num % den : Nat) : ℚ) / den) := by
    rw [← mul_div_assoc, one_lt_div denPos]
    exact_mod_cast Iff.rfl
  rw [parts, roundHalfEven]
  simp only [low, high]
  generalize ((num % den : Nat) : ℚ) / den = part at nonneg less
  generalize num / den = whole
  split
  · exact ⟨by linarith, by linarith, by rintro (tie | tie) <;> linarith⟩
  · split
    · refine ⟨by push_cast; linarith, by push_cast; linarith, ?_⟩
      rintro (tie | tie) <;> push_cast at tie <;> linarith
    · have half : 2 * part = 1 := by linarith
      rcases Nat.mod_two_eq_zero_or_one whole with even | odd
      · rw [even]
        exact ⟨by push_cast; linarith, by push_cast; linarith, fun _ => Nat.even_iff.mpr even⟩
      · rw [odd]
        exact ⟨by push_cast; linarith, by push_cast; linarith,
          fun _ => Nat.even_iff.mpr (by omega)⟩

/-- The place of a rounded significand.  If rounding ends at a power of two from above, the places
below it lie closer than one unit, but are on the other side. -/
theorem roundsTo_of_significand {unit n : Nat} {r : ℚ} (normal : unit = 0 ∨ 2 ^ 52 ≤ r)
    (bounded : r < 2 ^ 53) (rounded : NearestNatural r n) :
    RoundsTo (r * 2 ^ ((unit : Int) - 1074)) (unit * 2 ^ 52 + n) := by
  obtain ⟨rBelow, rAbove, nEven⟩ := rounded
  have nNormal : unit = 0 ∨ 2 ^ 52 ≤ n := by
    refine normal.imp_right fun large => ?_
    have : (2 ^ 52 : ℚ) < n + 1 := by linarith
    exact Nat.lt_succ_iff.mp (by exact_mod_cast this)
  have nBounded : n ≤ 2 ^ 53 := by
    have : (n : ℚ) < 2 ^ 53 + 1 := by linarith
    exact Nat.lt_succ_iff.mp (by exact_mod_cast this)
  have here := amount_of_unit nNormal nBounded
  have positive : (0 : ℚ) < 2 ^ ((unit : Int) - 1074) := by positivity
  have placeEven : Even n → Even (unit * 2 ^ 52 + n) := by
    simp only [Nat.even_iff]
    omega
  have greater : ∀ other, unit * 2 ^ 52 + n < other →
      amount (unit * 2 ^ 52 + n) + 2 ^ ((unit : Int) - 1074) ≤ amount other := fun other isGreater =>
    (amount_add_unit_le nNormal nBounded).trans (amount_strictMono.monotone isGreater)
  have less : ∀ other, other < unit * 2 ^ 52 + n →
      amount other + 2 ^ ((unit : Int) - 1074) ≤ amount (unit * 2 ^ 52 + n) ∨
        amount other < amount (unit * 2 ^ 52 + n) ∧ (n : ℚ) ≤ r := by
    intro other isLess
    by_cases inside : unit = 0 ∨ 2 ^ 52 < n
    · left
      obtain ⟨k, rfl⟩ : ∃ k, n = k + 1 := ⟨n - 1, by omega⟩
      have step := @amount_succ unit k (by omega) (by omega)
      rw [← add_assoc, step, add_le_add_iff_right]
      exact amount_strictMono.monotone (by omega)
    · have least : n = 2 ^ 52 := by omega
      refine Or.inr ⟨amount_strictMono isLess, ?_⟩
      rw [least]
      push_cast
      exact normal.resolve_left fun zero => inside (Or.inl zero)
  rw [here] at greater less
  generalize (2 : ℚ) ^ ((unit : Int) - 1074) = gap at *
  have low := mul_le_mul_of_nonneg_right rBelow positive.le
  have high := mul_le_mul_of_nonneg_right rAbove positive.le
  refine ⟨fun other isGreater => ?below, fun other isLess => ?above, fun other different tie => ?even⟩
  case below =>
    rw [here]
    linarith [greater other isGreater]
  case above =>
    rw [here]
    rcases less other isLess with previous | ⟨closer, exceeds⟩
    · linarith
    · linarith [mul_le_mul_of_nonneg_right exceeds positive.le]
  case even =>
    rw [here] at tie
    refine placeEven (nEven ?_)
    rcases lt_or_gt_of_ne different with isLess | isGreater
    · rcases less other isLess with previous | ⟨closer, exceeds⟩
      · exact Or.inr (mul_right_cancel₀ positive.ne' (by linarith))
      · linarith [mul_le_mul_of_nonneg_right exceeds positive.le]
    · have next := greater other isGreater
      exact Or.inl (mul_right_cancel₀ positive.ne' (by linarith))

/-! ### Quotients -/

/-- A power of two of any sign, as a quotient of natural powers. -/
theorem zpow_eq_div (e : Int) : (2 : ℚ) ^ e = 2 ^ e.toNat / 2 ^ (-e).toNat := by
  rcases le_total 0 e with nonneg | nonpos
  · rw [Int.toNat_of_nonpos (by omega : -e ≤ 0), pow_zero, div_one, ← zpow_natCast,
      Int.toNat_of_nonneg nonneg]
  · rw [Int.toNat_of_nonpos nonpos, pow_zero, one_div, ← zpow_natCast,
      Int.toNat_of_nonneg (by omega), zpow_neg, inv_inv]

theorem zpow_le_div_iff {num den : Nat} (positive : 0 < den) (e : Int) :
    (2 : ℚ) ^ e ≤ num / den ↔ den * 2 ^ e.toNat ≤ num * 2 ^ (-e).toNat := by
  have denPos : (0 : ℚ) < den := by exact_mod_cast positive
  rw [zpow_eq_div, div_le_div_iff₀ (by positivity) denPos, mul_comm]
  exact_mod_cast Iff.rfl

/-- A quotient in units of a power of two. -/
theorem scaled_div (num den : Nat) (power : Int) :
    ((num * 2 ^ (-power).toNat : Nat) : ℚ) / (den * 2 ^ power.toNat : Nat) =
      num / den / 2 ^ power := by
  rw [zpow_eq_div]
  push_cast
  field_simp

/-- The logarithms of both parts are at most one too many for that of the quotient. -/
theorem floorLog2_spec {num den : Nat} (numPos : 0 < num) (denPos : 0 < den) :
    (2 : ℚ) ^ floorLog2 num den ≤ num / den ∧
      (num : ℚ) / den < 2 ^ (floorLog2 num den + 1) := by
  have numLow : (2 : ℚ) ^ num.log2 ≤ num := by exact_mod_cast Nat.log2_self_le numPos.ne'
  have numHigh : (num : ℚ) < 2 ^ (num.log2 + 1) := by exact_mod_cast Nat.lt_log2_self
  have denLow : (2 : ℚ) ^ den.log2 ≤ den := by exact_mod_cast Nat.log2_self_le denPos.ne'
  have denHigh : (den : ℚ) < 2 ^ (den.log2 + 1) := by exact_mod_cast Nat.lt_log2_self
  have positive : (0 : ℚ) < den := by exact_mod_cast denPos
  rw [floorLog2]
  simp only [Nat.pow_eq]
  split
  · next reached =>
    refine ⟨(zpow_le_div_iff denPos _).mpr reached, ?_⟩
    rw [div_lt_iff₀ positive]
    calc (num : ℚ) < 2 ^ (num.log2 + 1) := numHigh
      _ = 2 ^ ((num.log2 : Int) - den.log2 + 1) * 2 ^ den.log2 := by
        rw [← zpow_natCast, ← zpow_natCast, ← zpow_add₀ two_ne_zero]
        congr 1
        push_cast
        ring
      _ ≤ 2 ^ ((num.log2 : Int) - den.log2 + 1) * den := by gcongr
  · next missed =>
    rw [← zpow_le_div_iff denPos, not_le] at missed
    refine ⟨?_, by rwa [sub_add_cancel]⟩
    rw [le_div_iff₀ positive]
    calc (2 : ℚ) ^ ((num.log2 : Int) - den.log2 - 1) * den
        ≤ 2 ^ ((num.log2 : Int) - den.log2 - 1) * 2 ^ (den.log2 + 1) := by gcongr
      _ = 2 ^ num.log2 := by
        rw [← zpow_natCast, ← zpow_natCast, ← zpow_add₀ two_ne_zero]
        congr 1
        push_cast
        ring
      _ ≤ num := numLow

/-- A positive quotient goes to its nearest place, or to infinity if this lies further on. -/
theorem exists_roundsTo {num den : Nat} (numPos : 0 < num) (denPos : 0 < den) :
    ∃ place, RoundsTo (num / den) place ∧ nearestPlace num den = min infinite place := by
  obtain ⟨reached, exceeded⟩ := floorLog2_spec numPos denPos
  have least : -1074 ≤ unitPower num den := le_max_left _ _
  have enough : floorLog2 num den - 52 ≤ unitPower num den := le_max_right _ _
  have choice : unitPower num den = -1074 ∨ unitPower num den = floorLog2 num den - 52 :=
    max_choice _ _
  refine ⟨_, ?_, rfl⟩
  simp only [Nat.pow_eq]
  generalize unitPower num den = power at least enough choice
  have rounded := roundHalfEven_nearest (num * 2 ^ (-power).toNat)
    (show 0 < den * 2 ^ power.toNat by positivity)
  rw [scaled_div] at rounded
  have unit : (((power + 1074).toNat : Nat) : Int) - 1074 = power := by omega
  have placed := @roundsTo_of_significand (power + 1074).toNat _ _ ?normal ?bounded rounded
  · rwa [unit, div_mul_cancel₀ _ (by positivity)] at placed
  case normal =>
    refine choice.imp (fun same => by omega) fun same => ?_
    rw [le_div_iff₀ (by positivity), same, ← zpow_natCast, ← zpow_add₀ two_ne_zero]
    simpa using reached
  case bounded =>
    rw [div_lt_iff₀ (by positivity), ← zpow_natCast, ← zpow_add₀ two_ne_zero]
    refine exceeded.trans_le (zpow_le_zpow_right₀ one_le_two ?_)
    push_cast
    omega

theorem ofRatio_rounds (negative : Bool) (num : Nat) {den : Nat} (positive : 0 < den) :
    ∃ place, RoundsTo (num / den) place ∧
      ofRatio negative num den = ⟨negative, min infinite place⟩ := by
  rcases Nat.eq_zero_or_pos num with rfl | numPos
  · refine ⟨0, ?_, by rw [ofRatio, if_pos rfl, min_zero]⟩
    simpa [amount_zero] using RoundsTo.amount_self 0
  · obtain ⟨place, rounds, same⟩ := exists_roundsTo numPos positive
    exact ⟨place, rounds, by rw [ofRatio, if_neg numPos.ne', same]⟩

/-- Rounding gives a number: at most infinity. -/
theorem isNaN_ofRatio (negative : Bool) (num den : Nat) :
    (ofRatio negative num den).isNaN = false := by
  rw [isNaN, decide_eq_false_iff_not, not_lt, ofRatio]
  split
  · exact Nat.zero_le _
  · exact Nat.min_le_left _ _

/-! ### Integers -/

theorem ofInt_rounds (z : Int) :
    ∃ place, RoundsTo |(z : ℚ)| place ∧ ofInt z = ⟨decide (z < 0), min infinite place⟩ := by
  obtain ⟨place, rounds, same⟩ := ofRatio_rounds (decide (z < 0)) z.natAbs Nat.one_pos
  refine ⟨place, ?_, same⟩
  rwa [Nat.cast_one, div_one, Nat.cast_natAbs, Int.cast_abs] at rounds

theorem signed_abs (z : Int) : signed (decide (z < 0)) |(z : ℚ)| = z := by
  rw [signed]
  rcases lt_or_ge z 0 with negative | nonneg
  · rw [if_pos (decide_eq_true negative), abs_of_neg (by exact_mod_cast negative), neg_neg]
  · rw [if_neg (by simpa using nonneg), abs_of_nonneg (by exact_mod_cast nonneg)]

/-- The integers of 64 bits, with a sign or without, are far below the limit. -/
theorem abs_lt_overflow {z : Int} (word : z.natAbs ≤ 2 ^ 64) : |(z : ℚ)| < overflow := by
  rw [← Int.cast_abs, ← Nat.cast_natAbs]
  calc (z.natAbs : ℚ) ≤ 2 ^ 64 := by exact_mod_cast word
    _ < 2 ^ 970 := pow_lt_pow_right₀ one_lt_two (by norm_num)
    _ ≤ overflow := le_mul_of_one_le_left (by positivity) (by norm_num)

/-- An integer becomes the number nearest to it. -/
theorem isNearest_ofInt {z : Int} (small : |(z : ℚ)| < overflow) : IsNearest (ofInt z) z := by
  obtain ⟨place, rounds, same⟩ := ofInt_rounds z
  rw [same, min_eq_right (rounds.lt_infinite_iff.mpr small).le]
  have nearest := rounds.isNearest (abs_nonneg _) small (decide (z < 0))
  rwa [signed_abs] at nearest

/-- Integers in order do not change sides when they are rounded. -/
theorem value_ofInt_mono {m n : Int} (ordered : m ≤ n) : (ofInt m).value ≤ (ofInt n).value := by
  obtain ⟨mPlace, mRounds, mSame⟩ := ofInt_rounds m
  obtain ⟨nPlace, nRounds, nSame⟩ := ofInt_rounds n
  have mNonneg := amount_nonneg (min infinite mPlace)
  have nNonneg := amount_nonneg (min infinite nPlace)
  rw [mSame, nSame, value, value]
  have cast : (m : ℚ) ≤ n := by exact_mod_cast ordered
  by_cases mNegative : m < 0
  · have below : (m : ℚ) < 0 := by exact_mod_cast mNegative
    by_cases nNegative : n < 0
    · have nBelow : (n : ℚ) < 0 := by exact_mod_cast nNegative
      have places : nPlace ≤ mPlace := nRounds.mono mRounds (by
        rw [abs_of_neg below, abs_of_neg nBelow]
        linarith)
      simp only [mNegative, nNegative, decide_true, if_true, neg_le_neg_iff]
      exact amount_strictMono.monotone (min_le_min_left _ places)
    · simp only [mNegative, nNegative, decide_true, decide_false, if_true, Bool.false_eq_true,
        if_false]
      linarith
  · have nNegative : ¬n < 0 := by omega
    have above : (0 : ℚ) ≤ m := by exact_mod_cast not_lt.mp mNegative
    have places : mPlace ≤ nPlace := mRounds.mono nRounds (by
      rwa [abs_of_nonneg above, abs_of_nonneg (above.trans cast)])
    simp only [mNegative, nNegative, decide_false, Bool.false_eq_true, if_false]
    exact amount_strictMono.monotone (min_le_min_left _ places)

/-- Up to 53 digits fill a significand when they are moved up. -/
theorem exists_shift {n : Nat} (positive : 0 < n) (small : n ≤ 2 ^ 53) :
    ∃ shift ≤ 52, 2 ^ 52 ≤ n * 2 ^ shift ∧ n * 2 ^ shift ≤ 2 ^ 53 := by
  by_cases large : 2 ^ 52 ≤ n
  · exact ⟨0, by norm_num, by omega, by omega⟩
  · have low := Nat.log2_self_le positive.ne'
    have high : n < 2 ^ (n.log2 + 1) := Nat.lt_log2_self
    have digits : n.log2 < 52 := (Nat.log2_lt positive.ne').mpr (by omega)
    refine ⟨52 - n.log2, by omega, ?_, ?_⟩
    · calc 2 ^ 52 = 2 ^ n.log2 * 2 ^ (52 - n.log2) := by rw [← pow_add]; congr 1; omega
        _ ≤ n * 2 ^ (52 - n.log2) := Nat.mul_le_mul_right _ low
    · calc n * 2 ^ (52 - n.log2) ≤ 2 ^ (n.log2 + 1) * 2 ^ (52 - n.log2) :=
            Nat.mul_le_mul_right _ high.le
        _ = 2 ^ 53 := by rw [← pow_add]; congr 1; omega

/-- The natural numbers up to `2 ^ 53` are numbers of the format. -/
theorem exists_amount_eq {n : Nat} (small : n ≤ 2 ^ 53) : ∃ place, amount place = n := by
  rcases Nat.eq_zero_or_pos n with rfl | positive
  · exact ⟨0, by rw [amount_zero, Nat.cast_zero]⟩
  · obtain ⟨shift, least, normal, bounded⟩ := exists_shift positive small
    refine ⟨(1074 - shift) * 2 ^ 52 + n * 2 ^ shift, ?_⟩
    have unit : ((1074 - shift : Nat) : Int) - 1074 = -(shift : Int) := by omega
    rw [amount_of_unit (Or.inr normal) bounded, unit, zpow_neg, zpow_natCast]
    push_cast
    exact mul_inv_cancel_right₀ (by positivity) _

/-- Integers up to `2 ^ 53` are kept. -/
theorem value_ofInt_of_small {z : Int} (small : z.natAbs ≤ 2 ^ 53) : (ofInt z).value = z := by
  obtain ⟨place, rounds, same⟩ := ofInt_rounds z
  obtain ⟨own, isOwn⟩ := exists_amount_eq small
  rw [Nat.cast_natAbs, Int.cast_abs] at isOwn
  have placed : place = own := rounds.unique (isOwn ▸ RoundsTo.amount_self own)
  have finite : place < infinite := by
    rw [rounds.lt_infinite_iff]
    exact abs_lt_overflow (by omega)
  rw [same, min_eq_right finite.le, placed]
  calc value ⟨decide (z < 0), own⟩ = signed (decide (z < 0)) (amount own) := rfl
    _ = z := by rw [isOwn, signed_abs]

end Binary64

/-! ### Decimal literals -/

namespace Decimal

open Binary64

/-- The absolute value of a decimal. -/
def amount (d : Decimal) : ℚ := d.coefficient * 10 ^ d.exponent

theorem amount_eq_div (d : Decimal) :
    d.amount = (d.coefficient * 10 ^ d.exponent.toNat : Nat) / (10 ^ (-d.exponent).toNat : Nat) := by
  rw [amount]
  push_cast
  rcases le_total 0 d.exponent with nonneg | nonpos
  · rw [Int.toNat_of_nonpos (by omega : -d.exponent ≤ 0), pow_zero, div_one]
    congr 1
    rw [← zpow_natCast, Int.toNat_of_nonneg nonneg]
  · rw [Int.toNat_of_nonpos nonpos, pow_zero, mul_one, div_eq_mul_inv]
    congr 1
    rw [← zpow_natCast, Int.toNat_of_nonneg (by omega), zpow_neg, inv_inv]

/-- Decimals with a great exponent are too large. -/
theorem overflow_le_amount {d : Decimal} (nonzero : d.coefficient ≠ 0)
    (large : 400 < d.exponent) : overflow ≤ d.amount := by
  have atLeast : (1 : ℚ) ≤ d.coefficient := by exact_mod_cast Nat.pos_of_ne_zero nonzero
  have limit : overflow ≤ 10 ^ 400 := by
    calc overflow ≤ 2 ^ 54 * 2 ^ 970 := by
          rw [overflow]
          gcongr
          norm_num
      _ = 2 ^ 1024 := (pow_add _ 54 970).symm
      _ ≤ 2 ^ (3 * 400) := pow_le_pow_right₀ (by norm_num) (by norm_num)
      _ = (2 ^ 3) ^ 400 := pow_mul _ 3 400
      _ ≤ 10 ^ 400 := by
          gcongr
          norm_num
  calc overflow ≤ 10 ^ (400 : Int) := by exact_mod_cast limit
    _ ≤ 10 ^ d.exponent := zpow_le_zpow_right₀ (by norm_num) large.le
    _ ≤ d.amount := le_mul_of_one_le_left (by positivity) atLeast

/-- Decimals with a small exponent for their digits are nearest to zero. -/
theorem roundsTo_zero {d : Decimal} (small : d.exponent < -(400 + (d.coefficient.log2 : Int))) :
    RoundsTo d.amount 0 := by
  have digits : (d.coefficient : ℚ) ≤ 2 ^ (d.coefficient.log2 + 1) := by
    exact_mod_cast Nat.lt_log2_self.le
  have first : Binary64.amount 1 = 2 ^ (-1074 : Int) := by
    simpa using @amount_of_unit 0 1 (Or.inl rfl) (by norm_num)
  have scale : (10 : ℚ) ^ d.exponent ≤ 2 ^ (-(3 * (401 + d.coefficient.log2) : Nat) : Int) := by
    calc (10 : ℚ) ^ d.exponent ≤ 10 ^ (-(401 + d.coefficient.log2 : Nat) : Int) :=
          zpow_le_zpow_right₀ (by norm_num) (by push_cast; omega)
      _ = (10 ^ (401 + d.coefficient.log2))⁻¹ := by rw [zpow_neg, zpow_natCast]
      _ ≤ ((2 ^ 3) ^ (401 + d.coefficient.log2))⁻¹ := by
          gcongr
          norm_num
      _ = 2 ^ (-(3 * (401 + d.coefficient.log2) : Nat) : Int) := by
          rw [zpow_neg, zpow_natCast, pow_mul]
  have bound : d.amount ≤ 2 ^ (-1075 : Int) := by
    calc d.amount
        ≤ 2 ^ (d.coefficient.log2 + 1) * 2 ^ (-(3 * (401 + d.coefficient.log2) : Nat) : Int) := by
          rw [amount]
          gcongr
      _ = 2 ^ ((d.coefficient.log2 : Int) + 1 - (3 * (401 + d.coefficient.log2) : Nat)) := by
          rw [← zpow_natCast, ← zpow_add₀ (by norm_num)]
          congr 1
      _ ≤ 2 ^ (-1075 : Int) := zpow_le_zpow_right₀ (by norm_num) (by push_cast; omega)
  have double : (2 : ℚ) * 2 ^ (-1075 : Int) = 2 ^ (-1074 : Int) := by
    rw [← zpow_one_add₀ two_ne_zero]
    rfl
  refine ⟨fun other positive => ?_, fun other negative => by omega, fun _ _ _ => Even.zero⟩
  have next : Binary64.amount 1 ≤ Binary64.amount other := amount_strictMono.monotone positive
  rw [amount_zero, zero_add]
  linarith

/-- A decimal goes to its nearest place, or to infinity if this lies further on. -/
theorem toBinary64_rounds (d : Decimal) :
    ∃ place, RoundsTo d.amount place ∧ d.toBinary64 = ⟨d.negative, min infinite place⟩ := by
  obtain ⟨place, rounds, same⟩ := ofRatio_rounds d.negative (d.coefficient * 10 ^ d.exponent.toNat)
    (show 0 < 10 ^ (-d.exponent).toNat by positivity)
  rw [← amount_eq_div] at rounds
  refine ⟨place, rounds, ?_⟩
  rw [toBinary64]
  split
  · next zero =>
    have none : d.amount = Binary64.amount 0 := by
      rw [amount, zero, Nat.cast_zero, zero_mul, amount_zero]
    rw [none] at rounds
    rw [rounds.unique (RoundsTo.amount_self 0), min_zero]
  · next nonzero =>
    split
    · next large =>
      have outside : ¬place < infinite := by
        rw [rounds.lt_infinite_iff, not_lt]
        exact overflow_le_amount nonzero large
      rw [min_eq_left (not_lt.mp outside)]
    · split
      · next small => rw [rounds.unique (roundsTo_zero small), min_zero]
      · exact same

/-- Reading a decimal gives a number: at most infinity. -/
theorem isNaN_toBinary64 (d : Decimal) : d.toBinary64.isNaN = false := by
  obtain ⟨place, -, same⟩ := d.toBinary64_rounds
  rw [same]
  exact decide_eq_false (min_le_left infinite place).not_gt

/-- A decimal is read as a finite number exactly if it is below the limit. -/
theorem isFinite_toBinary64_iff (d : Decimal) :
    d.toBinary64.isFinite = true ↔ d.amount < overflow := by
  obtain ⟨place, rounds, same⟩ := d.toBinary64_rounds
  rw [same, isFinite, decide_eq_true_eq, ← rounds.lt_infinite_iff]
  exact min_lt_iff.trans (or_iff_right (lt_irrefl _))

end Decimal

end WaitFor
