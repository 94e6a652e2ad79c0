/-
Module: WaitFor.Path.Outline
Purpose: Outlines of paths.
Main exports: Literal.floatLayout, Selector.outline, Path.outline
-/
import WaitFor.Numeric.Shortest
import WaitFor.Path.Basic
import WaitFor.Text.Outline

namespace WaitFor

/-- Floating-point numbers in outlines: positional from `10 ^ -4` and below `10 ^ 16`, else with
an exponent that has a sign only if negative; of two equally near shortest forms the greater. -/
def Literal.floatLayout : FloatLayout := ⟨.upward, -4, 15, false⟩

/-- The name of a comparison in an outline. -/
def Comparison.outline : Comparison → Outline
  | equal => .leaf "Eq"
  | different => .leaf "NotEq"
  | greater => .leaf "Gt"
  | atLeast => .leaf "Gte"
  | less => .leaf "Lt"
  | atMost => .leaf "Lte"

def Literal.outline : Literal → Outline
  | string text => .call "String" [.string text]
  | number value => .call "Number" [.leaf (floatLayout.render value)]
  | boolean value => .call "Boolean" [.leaf (toString value)]
  | null => .leaf "Null"

/-- The outline of a bound of a slice. -/
def Selector.boundOutline (bound : Option Int) : Outline :=
  .option (bound.map fun position => .leaf (toString position))

mutual

def Selector.outline : Selector → Outline
  | .field name => .call "Field" [.string name]
  | .union names => .call "Union" [.list (names.map Outline.string)]
  | .wildcard => .leaf "Wildcard"
  | .index position => .call "Index" [.leaf (toString position)]
  | .slice start stop step =>
    .record "Slice" [("start", Selector.boundOutline start), ("end", Selector.boundOutline stop),
      ("step", Selector.boundOutline step)]
  | .descent => .leaf "RecursiveDescent"
  | .filter test => .call "Filter" [test.outline]

def Test.outline : Test → Outline
  | .present path => .call "Exists" [.list (Chain.outlines path)]
  | .compare left op right =>
    .record "Compare" [("left", left.outline), ("op", op.outline), ("right", right.outline)]

def Operand.outline : Operand → Outline
  | .current path => .call "Current" [.list (Chain.outlines path)]
  | .literal value => .call "Literal" [value.outline]

def Chain.outlines : List Selector → List Outline
  | [] => []
  | selector :: rest => selector.outline :: Chain.outlines rest

end

def Path.outline (path : Path) : Outline :=
  .record "CompiledPath" [("source", .string path.source),
    ("selectors", .list (Chain.outlines path.selectors))]

end WaitFor
