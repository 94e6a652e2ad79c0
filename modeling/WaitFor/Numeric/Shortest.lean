/-
Module: WaitFor.Numeric.Shortest
Purpose: The fewest decimal digits that read back as a given binary number, and their layout.
Main exports: Tie, ShortestDigits, ShortestDigits.ofPlace, FloatLayout, FloatLayout.render
-/
import WaitFor.Numeric.Binary64

namespace WaitFor

/-!
Each finite place owns an interval of reals, those that round to it.  On the grid of decimals with
`k` significant digits the two neighbours of the value are tried for `k = 1, 2, …, 17`: the first
grid with a neighbour in the interval decides how many digits are written, and of two neighbours
the nearer is taken.  Seventeen digits always suffice.
-/

/-- Which of two equally near neighbours is taken. -/
inductive Tie where
  | toEven
  | upward
deriving Repr, DecidableEq

/-- Decimal digits without trailing zeros, and the exponent of the first of them. -/
structure ShortestDigits where
  digits : List Char
  exponent : Int
deriving Repr, DecidableEq

namespace ShortestDigits

/-- The greatest `e` with `10 ^ e ≤ num / den`, for quotients of at least `10 ^ -400`. -/
def floorLog10 (num den : Nat) : Int :=
  ((Nat.toDigits 10 (num * Nat.pow 10 400 / den)).length : Int) - 401

/-- The two ends of the interval that belongs to `significand * 2 ^ power`, in quarters of a unit.
Below a power of two the places lie twice as close. -/
def quarterEnds (significand : Nat) (power : Int) : Nat × Nat :=
  (if significand = Nat.pow 2 52 ∧ -1074 < power then 4 * significand - 1 else 4 * significand - 2,
   4 * significand + 2)

/-- The decimal of exponent `grid` that stands for a value on its grid, if a neighbour of the
value lies in its interval. -/
def neighbour? (tie : Tie) (significand : Nat) (power grid : Int) : Option Nat :=
  let quarters (n : Nat) := n * Nat.pow 2 (power - 2).toNat * Nat.pow 10 (-grid).toNat
  let decimal (n : Nat) := n * Nat.pow 10 grid.toNat * Nat.pow 2 (2 - power).toNat
  let value := quarters (4 * significand)
  let (low, high) := quarterEnds significand power
  let inside (n : Nat) :=
    if significand % 2 = 0 then quarters low ≤ decimal n && decimal n ≤ quarters high
    else quarters low < decimal n && decimal n < quarters high
  let below := value / decimal 1
  let above := below + 1
  match inside below, inside above with
  | false, false => none
  | true, false => some below
  | false, true => some above
  | true, true =>
    let down := value - decimal below
    let up := decimal above - value
    if down < up then some below
    else if up < down then some above
    else match tie with
      | .upward => some above
      | .toEven => some (below + below % 2)

/-- The digits of a positive finite place. -/
def ofPlace (tie : Tie) (place : Nat) : ShortestDigits :=
  let (significand, power) := Binary64.decode place
  let leading := floorLog10 (significand * Nat.pow 2 power.toNat) (Nat.pow 2 (-power).toNat)
  let attempt (k : Nat) : Option (Nat × Int) :=
    let grid := leading - (k : Int)
    (neighbour? tie significand power grid).map fun n => (n, grid)
  let (coefficient, grid) := ((List.range 17).findSome? attempt).getD (0, 0)
  let digits := Nat.toDigits 10 coefficient
  ⟨(digits.reverse.dropWhile (· = '0')).reverse, grid + digits.length - 1⟩

end ShortestDigits

/-- The decisions of a text form for floating-point numbers: how ties are broken, the exponents of
the first digit that are written positionally, and whether a nonnegative exponent has a sign. -/
structure FloatLayout where
  tie : Tie
  leastPositional : Int
  greatestPositional : Int
  plus : Bool
deriving Repr, DecidableEq

namespace FloatLayout

/-- Digits with a point, the first digit having the given exponent; at least one digit stands on
each side of the point. -/
def positional (s : ShortestDigits) : List Char :=
  if s.exponent < 0 then
    '0' :: '.' :: (List.replicate (-s.exponent - 1).toNat '0' ++ s.digits)
  else
    let count := s.exponent.toNat + 1
    let whole := s.digits.take count
    let fraction := s.digits.drop count
    whole ++ List.replicate (count - whole.length) '0' ++
      '.' :: (if fraction.isEmpty then ['0'] else fraction)

/-- One digit, a point if more follow, and the exponent. -/
def scientific (plus : Bool) (s : ShortestDigits) : List Char :=
  let mantissa := match s.digits with
    | first :: second :: rest => first :: '.' :: second :: rest
    | short => short
  let sign := if s.exponent < 0 then ['-'] else if plus then ['+'] else []
  mantissa ++ 'e' :: (sign ++ Nat.toDigits 10 s.exponent.natAbs)

/-- The text of a floating-point number. -/
def render (layout : FloatLayout) (x : Binary64) : String :=
  let sign := if x.negative then ['-'] else []
  if x.isNaN then "NaN"
  else if x.isZero then String.ofList (sign ++ ['0', '.', '0'])
  else if x.isFinite then
    let s := ShortestDigits.ofPlace layout.tie x.magnitude
    let body :=
      if layout.leastPositional ≤ s.exponent ∧ s.exponent ≤ layout.greatestPositional then
        positional s
      else scientific layout.plus s
    String.ofList (sign ++ body)
  else String.ofList (sign ++ ['i', 'n', 'f'])

end FloatLayout

end WaitFor
