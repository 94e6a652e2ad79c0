/-
Module: WaitFor.Numeric.Binary64
Purpose: Binary floating-point numbers of 64 bits, with rounding from exact quotients.
Main exports:
  Binary64, Binary64.ofRatio, Binary64.ofInt, Binary64.ratio, Binary64.compare?,
  Binary64.mul, Binary64.div
-/

namespace WaitFor

/-!
A number is a sign and a place.  The nonnegative values of the format are numbered in increasing
order: place `0` is zero, place `1` the least positive value `2 ^ -1074`, and place
`2047 * 2 ^ 52` is infinity; the places above it name no number.  Two numbers of one sign then
compare as their places do, and rounding is the choice of a place.  Everything is exact arithmetic
on naturals and integers, so each closed statement about a number can be evaluated.
-/

/-- A floating-point number of 64 bits: its sign and the place of its absolute value among the
nonnegative values of the format. -/
structure Binary64 where
  negative : Bool
  magnitude : Nat
deriving Repr, DecidableEq, Inhabited

namespace Binary64

/-- The place of infinity, one above the greatest finite value. -/
def infinite : Nat := 2047 * Nat.pow 2 52

/-- The places above infinity name no number. -/
def isNaN (x : Binary64) : Bool := infinite < x.magnitude

/-- Neither infinite nor no number. -/
def isFinite (x : Binary64) : Bool := x.magnitude < infinite

def isZero (x : Binary64) : Bool := x.magnitude == 0

/-- The greatest `e` with `2 ^ e ≤ num / den`, for a positive quotient. -/
def floorLog2 (num den : Nat) : Int :=
  let e : Int := (num.log2 : Int) - (den.log2 : Int)
  if den * Nat.pow 2 e.toNat ≤ num * Nat.pow 2 (-e).toNat then e else e - 1

/-- The integer nearest to `num / den`; the half-way case goes to the even neighbour. -/
def roundHalfEven (num den : Nat) : Nat :=
  let quotient := num / den
  let twice := 2 * (num % den)
  if twice < den then quotient
  else if den < twice then quotient + 1
  else quotient + quotient % 2

/-- The power of two that one unit of the significand has near `num / den`: 53 bits are kept, but
no bit below `2 ^ -1074`. -/
def unitPower (num den : Nat) : Int := max (-1074) (floorLog2 num den - 52)

/-- The place of the number nearest to `num / den`.  A quotient that rounds to a significand of
`2 ^ 53` carries into the next power by itself, because places are consecutive. -/
def nearestPlace (num den : Nat) : Nat :=
  let power := unitPower num den
  let significand := roundHalfEven (num * Nat.pow 2 (-power).toNat) (den * Nat.pow 2 power.toNat)
  min infinite ((power + 1074).toNat * Nat.pow 2 52 + significand)

/-- The number of the given sign nearest to `num / den`, ties to even, overflow to infinity. -/
def ofRatio (negative : Bool) (num den : Nat) : Binary64 :=
  ⟨negative, if num = 0 then 0 else nearestPlace num den⟩

/-- The number nearest to an integer. -/
def ofInt (z : Int) : Binary64 := ofRatio (z < 0) z.natAbs 1

/-- The significand `n` and the power `q` of a finite place, which stands for `n * 2 ^ q`. -/
def decode (place : Nat) : Nat × Int :=
  if place < Nat.pow 2 52 then (place, -1074)
  else (Nat.pow 2 52 + place % Nat.pow 2 52, ((place / Nat.pow 2 52 : Nat) : Int) - 1075)

/-- The absolute value of a finite number as a quotient of naturals. -/
def ratio (x : Binary64) : Nat × Nat :=
  let (significand, power) := decode x.magnitude
  (significand * Nat.pow 2 power.toNat, Nat.pow 2 (-power).toNat)

/-- The signed place.  Both zeros have place `0`. -/
def place (x : Binary64) : Int :=
  if x.negative then -(x.magnitude : Int) else x.magnitude

/-- The order of two numbers, or none if one of them is no number. -/
def compare? (a b : Binary64) : Option Ordering :=
  if a.isNaN || b.isNaN then none else some (compare a.place b.place)

/-- The product of two finite numbers, rounded once. -/
def mul (a b : Binary64) : Binary64 :=
  ofRatio (a.negative != b.negative) (a.ratio.1 * b.ratio.1) (a.ratio.2 * b.ratio.2)

/-- The quotient of two finite numbers, the second not zero, rounded once. -/
def div (a b : Binary64) : Binary64 :=
  ofRatio (a.negative != b.negative) (a.ratio.1 * b.ratio.2) (a.ratio.2 * b.ratio.1)

end Binary64

end WaitFor
