/-
Module: WaitFor.Condition.Basic
Purpose: The three kinds of wait condition.
Main exports: Condition, Condition.text, Condition.outline, Condition.defaultValue
-/
import WaitFor.Path.Outline

namespace WaitFor

/-- What is waited for. -/
inductive Condition where
  /-- The resource is gone. -/
  | deletion
  /-- The status condition of the given name has the given status. -/
  | named (name value : String)
  /-- The first value that the path selects has the given text. -/
  | query (path : Path) (value : String)

namespace Condition

/-- The status that a named condition must have if none is given. -/
def defaultValue : String := "true"

/-- How a condition is written. -/
def text : Condition → String
  | deletion => "delete"
  | named name value => s!"condition={name}={value}"
  | query path value => s!"jsonpath={path.source}={value}"

def outline : Condition → Outline
  | deletion => .leaf "Deletion"
  | named name value =>
    .record "NamedCondition" [("name", .string name), ("expected_value", .string value)]
  | query path value =>
    .record "PathQuery" [("compiled_path", path.outline), ("expected_value", .string value)]

end Condition

end WaitFor
