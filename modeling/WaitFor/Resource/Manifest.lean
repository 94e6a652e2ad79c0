/-
Module: WaitFor.Resource.Manifest
Purpose: The resources in serialized documents.
Main exports: Manifest.isList, Manifest.resources, Manifest.resourcesOfAll
-/
import WaitFor.Resource.Basic

namespace WaitFor.Manifest

/-!
A document is nothing, a list of documents, or one resource.  Lists may be nested; their items come
in place of the list.  The first document that is no resource is reported.
-/

/-- Whether the fields are those of a list: its kind ends in `List` and its items are an array. -/
def isList (fields : List (String × Json)) : Bool :=
  let kind := (fields.lookup "kind").bind Json.text?
  let items := (fields.lookup "items").bind Json.items?
  (kind.any fun kind => "List".toList.isSuffixOf kind.toList) && items.isSome

/-- The resource that a document is on its own. -/
def single (document : Json) : Except FetchError (List Resource) :=
  (Resource.ofObject document).map fun resource => [resource]

mutual

/-- The resources in a document, in order. -/
def resources : Json → Except FetchError (List Resource)
  | .null => .ok []
  | .object fields => if isList fields then resourcesOfItems fields else single (.object fields)
  | other => single other

/-- The resources in the documents under the field `items`. -/
def resourcesOfItems : List (String × Json) → Except FetchError (List Resource)
  | [] => .ok []
  | (name, value) :: rest =>
    if name = "items" then resourcesOfArray value else resourcesOfItems rest

def resourcesOfArray : Json → Except FetchError (List Resource)
  | .array items => resourcesOfAll items
  | _ => .ok []

/-- The resources in several documents, in order. -/
def resourcesOfAll : List Json → Except FetchError (List Resource)
  | [] => .ok []
  | document :: rest => do
    let first ← resources document
    let more ← resourcesOfAll rest
    .ok (first ++ more)

end

end WaitFor.Manifest
