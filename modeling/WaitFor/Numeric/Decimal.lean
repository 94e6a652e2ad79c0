/-
Module: WaitFor.Numeric.Decimal
Purpose: Decimal literals, as exact values and as the nearest binary number.
Main exports: Decimal, Decimal.read?, Decimal.toBinary64, naturalOfDigits, readInteger?
-/
import WaitFor.Numeric.Binary64

namespace WaitFor

/-- The number that a row of ASCII digits writes, most significant digit first. -/
def naturalOfDigits (digits : List Char) : Nat :=
  digits.foldl (fun n c => 10 * n + (c.toNat - '0'.toNat)) 0

/-- Reads a whole text of one or more ASCII digits. -/
def readNatural? (text : List Char) : Option Nat :=
  if !text.isEmpty && text.all Char.isDigit then some (naturalOfDigits text) else none

/-- Takes one sign off the front of a text: whether it was a minus, and the rest. -/
def splitSign : List Char → Bool × List Char
  | '-' :: rest => (true, rest)
  | '+' :: rest => (false, rest)
  | rest => (false, rest)

/-- Reads a whole text of an optional sign and one or more digits, as an integer between `low`
and `high`, both included. -/
def readInteger? (low high : Int) (text : List Char) : Option Int := do
  let (negative, digits) := splitSign text
  let n ← readNatural? digits
  let z : Int := if negative then -(n : Int) else n
  if low ≤ z ∧ z ≤ high then some z else none

/-- The least signed integer of 64 bits. -/
def leastSigned : Int := -(Nat.pow 2 63 : Nat)

/-- The greatest signed integer of 64 bits. -/
def greatestSigned : Int := (Nat.pow 2 63 : Nat) - 1

/-- The greatest unsigned integer of 64 bits. -/
def greatestUnsigned : Int := (Nat.pow 2 64 : Nat) - 1

/-- The value `± coefficient * 10 ^ exponent`. -/
structure Decimal where
  negative : Bool
  coefficient : Nat
  exponent : Int
deriving Repr, DecidableEq, Inhabited

namespace Decimal

/-- Reads an exponent part: nothing, or `e` or `E` with a signed row of digits. -/
def readExponent? : List Char → Option Int
  | [] => some 0
  | mark :: text =>
    if mark = 'e' || mark = 'E' then do
      let (negative, digits) := splitSign text
      let n ← readNatural? digits
      some (if negative then -(n : Int) else n)
    else none

/-- Reads a whole decimal literal: an optional sign, digits with at most one point among or beside
them, at least one digit, and an optional exponent part. -/
def read? (text : List Char) : Option Decimal := do
  let (negative, body) := splitSign text
  let whole := body.takeWhile Char.isDigit
  let afterWhole := body.dropWhile Char.isDigit
  let (fraction, tail) := match afterWhole with
    | '.' :: rest => (rest.takeWhile Char.isDigit, rest.dropWhile Char.isDigit)
    | rest => ([], rest)
  if whole.isEmpty && fraction.isEmpty then none else
  let exponent ← readExponent? tail
  some ⟨negative, naturalOfDigits (whole ++ fraction), exponent - fraction.length⟩

/-- The binary number nearest to a decimal.  Values far outside the range of the format are
settled by their exponent alone: a positive coefficient is at least `1` and below
`2 ^ (log2 coefficient + 1)`. -/
def toBinary64 (d : Decimal) : Binary64 :=
  if d.coefficient = 0 then ⟨d.negative, 0⟩
  else if 400 < d.exponent then ⟨d.negative, Binary64.infinite⟩
  else if d.exponent < -(400 + (d.coefficient.log2 : Int)) then ⟨d.negative, 0⟩
  else Binary64.ofRatio d.negative
    (d.coefficient * Nat.pow 10 d.exponent.toNat) (Nat.pow 10 (-d.exponent).toNat)

end Decimal

end WaitFor
