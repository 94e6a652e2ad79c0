/-
Module: WaitFor.Proofs.Numeric.Places
Purpose: The numbers at the places of the format, and the place nearest to a rational number.
Main exports:
  Binary64.amount, Binary64.amount_strictMono, Binary64.RoundsTo, Binary64.RoundsTo.mono,
  Binary64.overflow, Binary64.RoundsTo.lt_infinite_iff, Binary64.value, Binary64.compare?_eq,
  Binary64.IsNearest, Binary64.RoundsTo.isNearest
-/
import Mathlib
import WaitFor.Numeric.Binary64

namespace WaitFor.Binary64

/-!
Places are numbered so that the numbers at them increase, also where the exponent changes.  A rational
number is rounded to the place on whose side it lies of every midpoint between this place and another.
That is all that is used of rounding: it follows that rounding keeps the order, that it has one result,
and that the result is a nearest number.
-/

/-! ### The numbers at the places -/

/-- The absolute value at a place.  At infinity and behind it the values go on as if there were
further exponents. -/
def amount (place : Nat) : ℚ := (decode place).1 * 2 ^ (decode place).2

/-- The place of a significand in units of `2 ^ (unit - 1074)`.  A significand of `2 ^ 53` is carried
into the next exponent. -/
theorem amount_of_unit {unit significand : Nat} (normal : unit = 0 ∨ 2 ^ 52 ≤ significand)
    (bounded : significand ≤ 2 ^ 53) :
    amount (unit * 2 ^ 52 + significand) = significand * 2 ^ ((unit : Int) - 1074) := by
  rw [amount, decode]
  simp only [Nat.pow_eq]
  split
  · next small =>
    obtain rfl : unit = 0 := by omega
    simp
  · rcases lt_or_eq_of_le bounded with inside | rfl
    · have exponent : (unit * 2 ^ 52 + significand) / 2 ^ 52 = unit + 1 := by omega
      have whole : 2 ^ 52 + (unit * 2 ^ 52 + significand) % 2 ^ 52 = significand := by omega
      rw [exponent, whole]
      congr 2
      push_cast
      ring
    · have exponent : (unit * 2 ^ 52 + 2 ^ 53) / 2 ^ 52 = unit + 2 := by omega
      have whole : 2 ^ 52 + (unit * 2 ^ 52 + 2 ^ 53) % 2 ^ 52 = 2 ^ 52 := by omega
      have carried : ((unit + 2 : Nat) : Int) - 1075 = (unit : Int) - 1074 + 1 := by
        push_cast
        ring
      rw [exponent, whole, carried, zpow_add_one₀ two_ne_zero]
      push_cast
      ring

/-- Every place has a significand and a unit.  Only with the least unit the significand may be below
`2 ^ 52`. -/
theorem exists_unit (place : Nat) :
    ∃ unit significand, place = unit * 2 ^ 52 + significand ∧
      (unit = 0 ∨ 2 ^ 52 ≤ significand) ∧ significand < 2 ^ 53 := by
  refine ⟨place / 2 ^ 52 - 1, place - (place / 2 ^ 52 - 1) * 2 ^ 52, ?_⟩
  omega

/-- The next place is one unit away. -/
theorem amount_succ {unit significand : Nat} (normal : unit = 0 ∨ 2 ^ 52 ≤ significand)
    (bounded : significand < 2 ^ 53) :
    amount (unit * 2 ^ 52 + significand + 1) =
      amount (unit * 2 ^ 52 + significand) + 2 ^ ((unit : Int) - 1074) := by
  rw [add_assoc, amount_of_unit (by omega) bounded, amount_of_unit normal bounded.le]
  push_cast
  ring

/-- Behind a significand that was carried the next place is two units away. -/
theorem amount_add_unit_le {unit significand : Nat} (normal : unit = 0 ∨ 2 ^ 52 ≤ significand)
    (bounded : significand ≤ 2 ^ 53) :
    amount (unit * 2 ^ 52 + significand) + 2 ^ ((unit : Int) - 1074) ≤
      amount (unit * 2 ^ 52 + significand + 1) := by
  rcases lt_or_eq_of_le bounded with inside | rfl
  · exact (amount_succ normal inside).ge
  · have carried : unit * 2 ^ 52 + 2 ^ 53 = (unit + 1) * 2 ^ 52 + 2 ^ 52 := by ring
    rw [carried, amount_succ (Or.inr le_rfl) (by norm_num)]
    gcongr
    · norm_num
    · omega

theorem amount_strictMono : StrictMono amount := by
  refine strictMono_nat_of_lt_succ fun place => ?_
  obtain ⟨unit, significand, rfl, normal, bounded⟩ := exists_unit place
  rw [amount_succ normal bounded]
  exact lt_add_of_pos_right _ (by positivity)

theorem amount_zero : amount 0 = 0 := by
  simpa using @amount_of_unit 0 0 (Or.inl rfl) (by norm_num)

theorem amount_pos_iff {place : Nat} : 0 < amount place ↔ 0 < place := by
  rw [← amount_zero, amount_strictMono.lt_iff_lt]

theorem amount_nonneg (place : Nat) : 0 ≤ amount place := by
  rw [← amount_zero]
  exact amount_strictMono.monotone (Nat.zero_le place)

/-! ### The nearest place -/

/-- A rational number rounds to a place if it lies on the side of this place of the midpoints to all
other places.  A midpoint itself lies on the side of an even place. -/
structure RoundsTo (q : ℚ) (place : Nat) : Prop where
  below : ∀ other, place < other → 2 * q ≤ amount place + amount other
  above : ∀ other, other < place → amount other + amount place ≤ 2 * q
  even : ∀ other, other ≠ place → 2 * q = amount place + amount other → Even place

namespace RoundsTo

variable {q r : ℚ} {m n : Nat}

/-- Rounding keeps the order. -/
theorem mono (first : RoundsTo q m) (second : RoundsTo r n) (ordered : q ≤ r) : m ≤ n := by
  by_contra less
  rw [not_le] at less
  have above := first.above n less
  have below := second.below m less
  -- Both numbers are then the midpoint between the two places, and both places are even.
  have mEven := first.even n less.ne (by linarith)
  have nEven := second.even m less.ne' (by linarith)
  rcases Nat.lt_or_eq_of_le (Nat.succ_le_of_lt less) with between | next
  · have := first.above (n + 1) between
    have := amount_strictMono (Nat.lt_succ_self n)
    linarith
  · rw [← next] at mEven
    rw [Nat.even_iff] at mEven nEven
    omega

theorem unique (first : RoundsTo q m) (second : RoundsTo q n) : m = n :=
  le_antisymm (first.mono second le_rfl) (second.mono first le_rfl)

/-- A number of the format rounds to its own place. -/
theorem amount_self (place : Nat) : RoundsTo (amount place) place := by
  refine ⟨fun other greater => ?_, fun other less => ?_, fun other different tie => ?_⟩
  · have := amount_strictMono greater
    linarith
  · have := amount_strictMono less
    linarith
  · exact absurd (amount_strictMono.injective (by linarith)) different

/-- No number is nearer than the one at the place. -/
theorem nearest (rounds : RoundsTo q m) (other : Nat) : |q - amount m| ≤ |q - amount other| := by
  rcases lt_trichotomy other m with less | rfl | greater
  · have gap := amount_strictMono less
    have above := rounds.above other less
    have := le_abs_self (q - amount other)
    rw [abs_le]
    constructor <;> linarith
  · exact le_rfl
  · have gap := amount_strictMono greater
    have below := rounds.below other greater
    have := neg_abs_le (q - amount other)
    rw [abs_le]
    constructor <;> linarith

/-- Of two nearest numbers the one at the even place is taken. -/
theorem even_of_tie (rounds : RoundsTo q m) {other : Nat} (different : other ≠ m)
    (tie : |q - amount other| = |q - amount m|) : Even m := by
  refine rounds.even other different ?_
  rcases abs_eq_abs.mp tie with same | opposite
  · exact absurd (amount_strictMono.injective (by linarith)) different
  · linarith

end RoundsTo

/-! ### The greatest numbers -/

/-- The least amount that rounds to infinity, `2 ^ 1024 - 2 ^ 970`: half a unit above the greatest
number. -/
def overflow : ℚ := (2 ^ 54 - 1) * 2 ^ 970

theorem infinite_pos : 0 < infinite := by decide

theorem amount_infinite : amount infinite = 2 ^ 53 * 2 ^ 971 := by
  have place : infinite = 2045 * 2 ^ 52 + 2 ^ 53 := rfl
  rw [place, amount_of_unit (Or.inr (by norm_num)) le_rfl]
  norm_num

theorem amount_greatest : amount (infinite - 1) = (2 ^ 53 - 1) * 2 ^ 971 := by
  have place : infinite - 1 = 2045 * 2 ^ 52 + (2 ^ 53 - 1) := rfl
  rw [place, amount_of_unit (Or.inr (by norm_num)) (by norm_num)]
  norm_num

theorem amount_around_overflow : amount (infinite - 1) + amount infinite = 2 * overflow := by
  rw [amount_greatest, amount_infinite, overflow, pow_succ _ 970]
  generalize (2 : ℚ) ^ 970 = half
  ring

/-- What rounds to a place before infinity is what lies below the limit. -/
theorem RoundsTo.lt_infinite_iff {q : ℚ} {place : Nat} (rounds : RoundsTo q place) :
    place < infinite ↔ q < overflow := by
  have middle := amount_around_overflow
  constructor
  · intro inside
    have low : amount place ≤ amount (infinite - 1) := amount_strictMono.monotone (by omega)
    have below := rounds.below infinite inside
    refine lt_of_le_of_ne (by linarith) fun same => ?_
    -- The limit itself is no exception, because the place before infinity is odd.
    obtain rfl : place = infinite - 1 := amount_strictMono.injective (by linarith)
    exact absurd (rounds.even infinite inside.ne' (by linarith)) (by decide)
  · intro small
    by_contra outside
    rw [not_lt] at outside
    have high : amount infinite ≤ amount place := amount_strictMono.monotone outside
    have above := rounds.above (infinite - 1) (by have := infinite_pos; omega)
    linarith

/-! ### Signed numbers -/

/-- The value of a number. -/
def value (x : Binary64) : ℚ := if x.negative then -amount x.magnitude else amount x.magnitude

/-- Values stand in the order of the signed places. -/
theorem value_lt_iff {x y : Binary64} : x.value < y.value ↔ x.place < y.place := by
  obtain ⟨xNegative, m⟩ := x
  obtain ⟨yNegative, n⟩ := y
  have mNonneg := amount_nonneg m
  have nNonneg := amount_nonneg n
  cases xNegative <;> cases yNegative <;>
    simp only [value, place, Bool.false_eq_true, if_false, if_true]
  · rw [amount_strictMono.lt_iff_lt, Nat.cast_lt]
  · exact iff_of_false (by linarith) (by omega)
  · rw [← not_le, ← not_le, not_iff_not]
    constructor
    · intro less
      have mZero : ¬0 < amount m := by linarith
      have nZero : ¬0 < amount n := by linarith
      rw [amount_pos_iff] at mZero nZero
      omega
    · intro less
      obtain rfl : m = 0 := by omega
      obtain rfl : n = 0 := by omega
      simp [amount_zero]
  · rw [neg_lt_neg_iff, amount_strictMono.lt_iff_lt, neg_lt_neg_iff, Nat.cast_lt]

theorem value_eq_iff {x y : Binary64} : x.value = y.value ↔ x.place = y.place := by
  rw [le_antisymm_iff, le_antisymm_iff, ← not_lt, ← not_lt, value_lt_iff, value_lt_iff, not_lt,
    not_lt]

theorem compare_place (x y : Binary64) : compare x.place y.place = compare x.value y.value := by
  cases order : compare x.value y.value with
  | lt => exact compare_lt_iff_lt.mpr (value_lt_iff.mp (compare_lt_iff_lt.mp order))
  | eq => exact compare_eq_iff_eq.mpr (value_eq_iff.mp (compare_eq_iff_eq.mp order))
  | gt => exact compare_gt_iff_gt.mpr (value_lt_iff.mp (compare_gt_iff_gt.mp order))

/-- Numbers are compared by their values. -/
theorem compare?_eq {x y : Binary64} (xNumber : x.isNaN = false) (yNumber : y.isNaN = false) :
    x.compare? y = some (compare x.value y.value) := by
  rw [compare?, xNumber, yNumber, Bool.or_false, if_neg Bool.false_ne_true, compare_place]

/-- A finite number nearest to a rational number: none is nearer, and if another value is as near, the
place of this one is even. -/
structure IsNearest (x : Binary64) (q : ℚ) : Prop where
  finite : x.isFinite = true
  nearest : ∀ y : Binary64, y.isFinite = true → |q - x.value| ≤ |q - y.value|
  even : ∀ y : Binary64, y.isFinite = true → y.value ≠ x.value →
    |q - y.value| = |q - x.value| → Even x.magnitude

/-- An amount with a sign. -/
def signed (negative : Bool) (q : ℚ) : ℚ := if negative then -q else q

theorem abs_signed_sub_value (negative : Bool) (q : ℚ) (m : Nat) :
    |signed negative q - value ⟨negative, m⟩| = |q - amount m| := by
  cases negative with
  | false => rfl
  | true =>
      rw [signed, value, if_pos rfl, if_pos rfl, ← abs_neg]
      congr 1
      ring

/-- A number of the other sign is as far away as both amounts together. -/
theorem abs_signed_sub_opposite {q : ℚ} (nonneg : 0 ≤ q) (negative : Bool) (m : Nat) :
    |signed negative q - value ⟨!negative, m⟩| = q + amount m := by
  have := amount_nonneg m
  cases negative with
  | false =>
      simp only [signed, value, Bool.not_false, if_true, Bool.false_eq_true, if_false]
      rw [sub_neg_eq_add, abs_of_nonneg (by linarith)]
  | true =>
      simp only [signed, value, Bool.not_true, if_true, Bool.false_eq_true, if_false]
      rw [abs_of_nonpos (by linarith)]
      ring

/-- An amount below the limit, with either sign, has its nearest number at the place that it rounds
to. -/
theorem RoundsTo.isNearest {q : ℚ} {place : Nat} (rounds : RoundsTo q place) (nonneg : 0 ≤ q)
    (small : q < overflow) (negative : Bool) : IsNearest ⟨negative, place⟩ (signed negative q) := by
  have zero : |q - amount 0| = q := by rw [amount_zero, sub_zero, abs_of_nonneg nonneg]
  have toZero := rounds.nearest 0
  rw [zero] at toZero
  refine ⟨decide_eq_true (rounds.lt_infinite_iff.mpr small), ?nearest, ?even⟩
  case nearest =>
    rintro ⟨sign, m⟩ -
    rw [abs_signed_sub_value]
    rcases Bool.eq_or_eq_not sign negative with rfl | rfl
    · rw [abs_signed_sub_value]
      exact rounds.nearest m
    · rw [abs_signed_sub_opposite nonneg]
      linarith [amount_nonneg m]
  case even =>
    rintro ⟨sign, m⟩ - different tie
    rw [abs_signed_sub_value] at tie
    rcases Bool.eq_or_eq_not sign negative with rfl | rfl
    · rw [abs_signed_sub_value] at tie
      exact rounds.even_of_tie (fun same => different (by rw [same])) tie
    · -- Of the numbers of the other sign only zero can be as near.
      rw [abs_signed_sub_opposite nonneg] at tie
      obtain rfl : m = 0 := by
        by_contra nonzero
        have := amount_pos_iff.mpr (Nat.pos_of_ne_zero nonzero)
        linarith
      rw [amount_zero, add_zero] at tie
      refine rounds.even_of_tie (fun same => different ?_) (zero.trans tie)
      subst same
      cases negative <;> simp [value, amount_zero]

end WaitFor.Binary64
