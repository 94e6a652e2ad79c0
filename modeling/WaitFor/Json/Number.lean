/-
Module: WaitFor.Json.Number
Purpose: Number literals of JSON text and the numbers that they stand for.
Main exports: NumberText, NumberText.take?, NumberText.value?
-/
import WaitFor.Json.Basic

namespace WaitFor

/-!
A literal without fraction and exponent that fits 64 bits is an integer.  All other literals are
floating-point numbers, and these are computed in two rounded steps: the leading digits that fit 64
unsigned bits are rounded to a floating-point number, and that is multiplied or divided by a power
of ten which is rounded itself.
-/

/-- The parts of a number literal.  The rows of digits are not empty. -/
structure NumberText where
  negative : Bool
  whole : List Char
  fraction : Option (List Char)
  exponent : Option (Bool × List Char)
deriving Repr, DecidableEq

namespace NumberText

/-- Takes a row of one or more digits off the front of a text. -/
def takeDigits? (text : List Char) : Option (List Char × List Char) :=
  match text.takeWhile Char.isDigit with
  | [] => none
  | digits => some (digits, text.dropWhile Char.isDigit)

/-- Takes a fraction, if a point follows. -/
def takeFraction? : List Char → Option (Option (List Char) × List Char)
  | '.' :: text => (takeDigits? text).map fun (digits, rest) => (some digits, rest)
  | text => some (none, text)

/-- Takes an exponent, if its letter follows. -/
def takeExponent? : List Char → Option (Option (Bool × List Char) × List Char)
  | [] => some (none, [])
  | mark :: text =>
    if mark = 'e' || mark = 'E' then
      let (negative, text) := splitSign text
      (takeDigits? text).map fun (digits, rest) => (some (negative, digits), rest)
    else some (none, mark :: text)

/-- Takes the longest number literal off the front of a text.  A leading zero stands alone. -/
def take? (text : List Char) : Option (NumberText × List Char) := do
  let (negative, text) := match text with
    | '-' :: rest => (true, rest)
    | rest => (false, rest)
  let (whole, text) ← takeDigits? text
  if whole.head? = some '0' ∧ whole.length ≠ 1 then none else
  let (fraction, text) ← takeFraction? text
  let (exponent, text) ← takeExponent? text
  some (⟨negative, whole, fraction, exponent⟩, text)

/-- The leading digits that fit 64 bits and the number of digits left out behind them. -/
def gatherWhole (digits : List Char) : Nat × Nat :=
  digits.foldl
    (fun (kept, left) c =>
      let next := 10 * kept + (c.toNat - '0'.toNat)
      if left = 0 ∧ (next : Int) ≤ greatestUnsigned then (next, 0) else (kept, left + 1))
    (0, 0)

/-- Appends the digits of a fraction while the whole fits 64 bits: the digits and how many were
appended. -/
def gatherFraction : Nat → List Char → Nat × Nat
  | kept, [] => (kept, 0)
  | kept, c :: rest =>
    let next := 10 * kept + (c.toNat - '0'.toNat)
    if (next : Int) ≤ greatestUnsigned then
      let (digits, count) := gatherFraction next rest
      (digits, count + 1)
    else (kept, 0)

/-- The floating-point number nearest to a power of ten. -/
def powerOfTen (exponent : Nat) : Binary64 :=
  Binary64.ofRatio false (Nat.pow 10 exponent) 1

/-- Multiplies by a power of ten; none if the result is too large.  Divisions by more than
`10 ^ 308` are done in steps of that size, and a number below `2 ^ 64` vanishes in the second. -/
def scale? (x : Binary64) (exponent : Int) : Option Binary64 :=
  if x.isZero then some x
  else if 308 < exponent then none
  else if 0 ≤ exponent then
    let scaled := x.mul (powerOfTen exponent.toNat)
    if scaled.isFinite then some scaled else none
  else if -308 ≤ exponent then some (x.div (powerOfTen (-exponent).toNat))
  else if -616 ≤ exponent then
    some ((x.div (powerOfTen 308)).div (powerOfTen (-exponent - 308).toNat))
  else some ⟨x.negative, 0⟩

/-- The floating-point number that a literal stands for. -/
def float? (n : NumberText) : Option Binary64 := do
  let (kept, left) := gatherWhole n.whole
  let (kept, count) := gatherFraction kept (n.fraction.getD [])
  let written : Int := match n.exponent with
    | none => 0
    | some (true, digits) => -(naturalOfDigits digits : Int)
    | some (false, digits) => naturalOfDigits digits
  let x ← scale? (Binary64.ofInt kept) (left - count + written)
  some { x with negative := n.negative }

/-- The number that a literal stands for, unless it is too large.  A negative zero is a
floating-point number. -/
def value? (n : NumberText) : Option JsonNumber :=
  let z : Int := naturalOfDigits n.whole
  if n.fraction.isNone ∧ n.exponent.isNone ∧ !n.negative ∧ z ≤ greatestUnsigned then
    some (.integer z)
  else if n.fraction.isNone ∧ n.exponent.isNone ∧ n.negative ∧ z ≠ 0 ∧
      leastSigned ≤ -z then
    some (.integer (-z))
  else n.float?.map .float

end NumberText

end WaitFor
