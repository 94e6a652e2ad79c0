/-
Module: WaitFor.Resource.StatusCondition
Purpose: The named conditions in the status of a resource.
Main exports: StatusCondition, StatusCondition.read?, StatusCondition.render,
  StatusCondition.ofObject
-/
import WaitFor.Json.Printer

namespace WaitFor

/-- A named condition and its status. -/
structure StatusCondition where
  name : String
  status : String
deriving Repr, DecidableEq, Inhabited

namespace StatusCondition

/-- Reads a condition on its own: an object with the texts `type` and `status`, or a pair of
texts. -/
def read? : Json → Option StatusCondition
  | .array [.string name, .string status] => some ⟨name, status⟩
  | value => do
    let name ← (value.field? "type").bind Json.text?
    let status ← (value.field? "status").bind Json.text?
    some ⟨name, status⟩

/-- The JSON text of a condition, its name first. -/
def render (condition : StatusCondition) : String :=
  "\x7b\"type\":" ++ Json.renderString condition.name ++ ",\"status\":" ++
    Json.renderString condition.status ++ "\x7d"

/-- The text of a status, which may be written as a boolean. -/
def statusText? : Json → Option String
  | .string text => some text
  | .boolean value => some (if value then "true" else "false")
  | _ => none

/-- The condition that one entry of a status stands for. -/
def ofEntry? (entry : Json) : Option StatusCondition := do
  let name ← (entry.field? "type").bind Json.text?
  let status ← (entry.field? "status").bind statusText?
  some ⟨name, status⟩

/-- The conditions under `status` and `conditions` of a serialized resource.  Entries of another
shape are left out. -/
def ofObject (object : Json) : List StatusCondition :=
  let entries := ((object.field? "status").bind (Json.field? "conditions")).bind Json.items?
  (entries.getD []).filterMap ofEntry?

end StatusCondition

end WaitFor
