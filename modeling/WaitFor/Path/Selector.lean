/-
Module: WaitFor.Path.Selector
Purpose: The steps of a path through a document and the tests that they may carry.
Main exports: Comparison, Literal, Selector, Test, Operand
-/
import WaitFor.Numeric.Binary64

namespace WaitFor

/-- The six comparisons of a filter test. -/
inductive Comparison where
  | equal
  | different
  | greater
  | atLeast
  | less
  | atMost
deriving Repr, DecidableEq, Inhabited

namespace Comparison

/-- How a comparison is written in a path. -/
def text : Comparison → String
  | equal => "=="
  | different => "!="
  | greater => ">"
  | atLeast => ">="
  | less => "<"
  | atMost => "<="

/-- Whether two values in the given order satisfy the comparison.  Unordered values are different
and satisfy no other comparison. -/
def accepts : Comparison → Option Ordering → Bool
  | equal, order => order == some .eq
  | different, order => order != some .eq
  | greater, order => order == some .gt
  | atLeast, order => order == some .gt || order == some .eq
  | less, order => order == some .lt
  | atMost, order => order == some .lt || order == some .eq

end Comparison

/-- A constant in a filter test. -/
inductive Literal where
  | string (text : String)
  | number (value : Binary64)
  | boolean (value : Bool)
  | null
deriving Repr, DecidableEq, Inhabited

mutual

/-- One step of a path: from one value to any number of values reached from it. -/
inductive Selector where
  /-- The value under a name. -/
  | field (name : String)
  /-- The values under several names, in the order of the names. -/
  | union (names : List String)
  /-- Every value of an object and every item of an array. -/
  | wildcard
  /-- One item of an array, counted from the end if negative. -/
  | index (position : Int)
  /-- A range of items of an array. -/
  | slice (start stop step : Option Int)
  /-- The value itself and everything below it. -/
  | descent
  /-- The children that pass a test. -/
  | filter (test : Test)

/-- A condition on one child. -/
inductive Test where
  /-- The path from the child leads to some value. -/
  | present (path : List Selector)
  /-- Both operands have values, and these satisfy the comparison. -/
  | compare (left : Operand) (op : Comparison) (right : Operand)

/-- One side of a comparison. -/
inductive Operand where
  /-- The first value that a path selects from the child. -/
  | current (path : List Selector)
  | literal (value : Literal)

end

instance : Inhabited Selector := ⟨.wildcard⟩

/-- A path as the list of its steps. -/
abbrev Chain := List Selector

end WaitFor
