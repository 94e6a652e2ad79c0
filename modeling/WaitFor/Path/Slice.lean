/-
Module: WaitFor.Path.Slice
Purpose: Items of a list by position and by ranges of positions.
Main exports: Slice.thin, Slice.clamp, Slice.items, Slice.itemAt?
-/

namespace WaitFor.Slice

/-!
Positions count from zero, negative ones from the end.  A range has a first position, a position
that it stops before, and a step.  With a positive step the range is cut out of the list and thinned
to every `step`-th item; with a negative one the same is done to the reversed cut.
-/

/-- Leaves out `wait` items, keeps one, and then keeps each item that follows `gap` left out. -/
def thin {α : Type} (gap : Nat) : Nat → List α → List α
  | _, [] => []
  | 0, x :: rest => x :: thin gap gap rest
  | wait + 1, _ :: rest => thin gap wait rest

/-- A position, counted from the end if negative, brought into the given limits. -/
def clamp (length : Nat) (low high position : Int) : Int :=
  max low (min high (if position < 0 then position + length else position))

/-- The items from position `start` up to and without `stop`. -/
def between {α : Type} (start stop : Int) (items : List α) : List α :=
  (items.take stop.toNat).drop start.toNat

/-- The items of a range, in the order in which the range visits them. -/
def items {α : Type} (start stop : Option Int) (step : Int) (items : List α) : List α :=
  let length := items.length
  if step = 0 then []
  else if 0 < step then
    let first := (start.map (clamp length 0 length)).getD 0
    let limit := (stop.map (clamp length 0 length)).getD length
    thin (step - 1).toNat 0 (between first limit items)
  else
    let first := (start.map (clamp length (-1) (length - 1))).getD (length - 1)
    let limit := (stop.map (clamp length (-1) (length - 1))).getD (-1)
    thin (-step - 1).toNat 0 (between (limit + 1) (first + 1) items).reverse

/-- The item at a position. -/
def itemAt? {α : Type} (position : Int) (items : List α) : Option α :=
  let position := if position < 0 then items.length + position else position
  if position < 0 then none else items[position.toNat]?

end WaitFor.Slice
