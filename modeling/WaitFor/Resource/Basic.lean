/-
Module: WaitFor.Resource.Basic
Purpose: Handles of resources.
Main exports: Resource, Resource.ofObject, Resource.key, Resource.label
-/
import WaitFor.Json.Basic
import WaitFor.Resource.FetchError
import WaitFor.Text.LetterCase

namespace WaitFor

/-- A resource as it is named, with the object last seen for it. -/
structure Resource where
  kind : String
  name : String
  /-- The namespace that the resource lives in, if it lives in one. -/
  scope : Option String
  object : Option Json
deriving Inhabited

namespace Resource

/-- The handle of a serialized resource, from its `kind` and its `metadata`. -/
def ofObject (object : Json) : Except FetchError Resource :=
  match (object.field? "kind").bind Json.text? with
  | none => .error (.other "object has no kind")
  | some kind =>
    let metadata (name : String) : Option String :=
      ((object.field? "metadata").bind (Json.field? name)).bind Json.text?
    match metadata "name" with
    | none => .error (.other (kind ++ " has no metadata.name"))
    | some name => .ok ⟨kind, name, metadata "namespace", some object⟩

/-- The text under which the object of a resource is stored: the kind in lower case, the namespace,
empty if there is none, and the name. -/
def key (resource : Resource) : String :=
  Text.lowercase resource.kind ++ "/" ++ resource.scope.getD "" ++ "/" ++ resource.name

/-- How a resource is called in messages. -/
def label (resource : Resource) : String := Text.lowercase resource.kind ++ "/" ++ resource.name

end Resource

end WaitFor
