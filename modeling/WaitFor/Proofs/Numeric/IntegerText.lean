/-
Module: WaitFor.Proofs.Numeric.IntegerText
Purpose: The decimal text of an integer reads back as that integer.
Main exports: readNatural?_toDigits, readInteger?_toString, isDigit_of_mem_toString
-/
import Mathlib
import WaitFor.Numeric.Decimal

namespace WaitFor

private theorem naturalOfDigits_toDigits (n : Nat) : naturalOfDigits (Nat.toDigits 10 n) = n := by
  rw [naturalOfDigits, ← Nat.ofDigitChars_eq_foldl]
  exact Nat.ofDigitChars_ten_toDigits

/-- A natural number is read from its digits. -/
theorem readNatural?_toDigits (n : Nat) : readNatural? (Nat.toDigits 10 n) = some n := by
  have nonempty : (Nat.toDigits 10 n).isEmpty = false := by
    simp
  have digits : (Nat.toDigits 10 n).all Char.isDigit = true := by
    rw [List.all_eq_true]
    intro c member
    exact Nat.isDigit_of_mem_toDigits (by decide) (by decide) member
  rw [readNatural?, nonempty, digits, naturalOfDigits_toDigits]
  rfl

/-- The text of an integer is a minus sign for a negative one and the digits of its amount. -/
theorem toList_toString (z : Int) :
    (toString z).toList =
      (if z < 0 then ['-'] else []) ++ Nat.toDigits 10 z.natAbs := by
  rw [Int.toString_eq_repr, Int.repr_eq_if]
  by_cases negative : z < 0
  · rw [if_neg (by omega), if_pos negative, show (-z).toNat = z.natAbs by omega]
    simp
  · rw [if_pos (by omega), if_neg negative, show z.toNat = z.natAbs by omega]
    simp

/-- Digits in front are not taken for a sign. -/
theorem splitSign_toDigits (n : Nat) :
    splitSign (Nat.toDigits 10 n) = (false, Nat.toDigits 10 n) := by
  have digits : ∀ c ∈ Nat.toDigits 10 n, c.isDigit = true := fun c member =>
    Nat.isDigit_of_mem_toDigits (by decide) (by decide) member
  cases spelled : Nat.toDigits 10 n with
  | nil => exact absurd spelled Nat.toDigits_ne_nil
  | cons c more =>
      have digit : c.isDigit = true := digits c (by simp [spelled])
      rw [splitSign.eq_def]
      split
      · next same =>
          obtain ⟨rfl, -⟩ := List.cons.inj same
          exact absurd digit (by decide)
      · next same =>
          obtain ⟨rfl, -⟩ := List.cons.inj same
          exact absurd digit (by decide)
      · rfl

private theorem readInteger?_of_splitSign {low high z : Int} {text digits : List Char}
    {negative : Bool} {n : Nat} (sign : splitSign text = (negative, digits)) (reads : readNatural? digits = some n)
    (amount : (if negative then -(n : Int) else n) = z) (above : low ≤ z) (below : z ≤ high) :
    readInteger? low high text = some z := by
  subst amount
  rw [readInteger?, sign]
  simp only [reads, bind, Option.bind]
  exact if_pos ⟨above, below⟩

/-- The decimal text of an integer between the bounds reads back as that integer. -/
theorem readInteger?_toString {low high z : Int} (above : low ≤ z) (below : z ≤ high) :
    readInteger? low high (toString z).toList = some z := by
  rw [toList_toString]
  by_cases negative : z < 0
  · rw [if_pos negative]
    have amount : (if true then -(z.natAbs : Int) else z.natAbs) = z := by
      rw [if_pos rfl]
      omega
    exact readInteger?_of_splitSign rfl (readNatural?_toDigits z.natAbs) amount above below
  · rw [if_neg negative, List.nil_append]
    have amount : (if false then -(z.natAbs : Int) else z.natAbs) = z := by
      rw [if_neg Bool.false_ne_true]
      omega
    exact readInteger?_of_splitSign (splitSign_toDigits z.natAbs)
      (readNatural?_toDigits z.natAbs) amount above below

/-- An integer is written with digits and a minus sign. -/
theorem isDigit_of_mem_toString {z : Int} {c : Char} (member : c ∈ (toString z).toList) :
    c = '-' ∨ c.isDigit = true := by
  rw [toList_toString, List.mem_append] at member
  rcases member with sign | digit
  · refine Or.inl ?_
    by_cases negative : z < 0
    · simpa [negative] using sign
    · simp [negative] at sign
  · exact Or.inr (Nat.isDigit_of_mem_toDigits (by decide) (by decide) digit)

end WaitFor
