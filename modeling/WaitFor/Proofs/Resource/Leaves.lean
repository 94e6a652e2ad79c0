/-
Module: WaitFor.Proofs.Resource.Leaves
Purpose: The resources of a manifest are those of its leaves, in document order.
Main exports:
  Resource.document, Resource.ofObject_document, Manifest.leaves, Manifest.resources_eq,
  Manifest.mapM_eq_ok_iff, Manifest.exists_failing_of_mapM, Manifest.exists_left_of_mem,
  Manifest.resourcesOfAll_eq_ok_iff, Manifest.object_of_ofObject, Manifest.ofDocuments_eq_ok_iff,
  Manifest.ofDocuments_eq_error_iff
-/
import Mathlib
import WaitFor.Resource.Load

namespace WaitFor

namespace Resource

/-- The document of a resource of which nothing is known but its handle. -/
def document (kind : String) (scope : Option String) (name : String) : Json :=
  .ofFields [("kind", .string kind),
    ("metadata", .ofFields (("name", .string name) ::
      (scope.map fun scope => ("namespace", Json.string scope)).toList))]

/-- Every kind, namespace and name is read from a document, whatever its characters. -/
theorem ofObject_document (kind : String) (scope : Option String) (name : String) :
    ofObject (document kind scope name) =
      .ok ⟨kind, name, scope, some (document kind scope name)⟩ := by
  cases scope <;> rfl

end Resource

namespace Manifest

/-!
Loading walks through the lists of a manifest and turns what is no list into resources on the way.
The same comes out if the documents that are no lists, the leaves, are gathered first.
-/

mutual

/-- The documents in a document that are no lists, in order. -/
def leaves : Json → List Json
  | .null => []
  | .object fields => if isList fields then leavesOfItems fields else [.object fields]
  | other => [other]

/-- The leaves of the documents under the field `items`. -/
def leavesOfItems : List (String × Json) → List Json
  | [] => []
  | (name, value) :: rest => if name = "items" then leavesOfArray value else leavesOfItems rest

def leavesOfArray : Json → List Json
  | .array items => leavesOfAll items
  | _ => []

/-- The leaves of several documents, in order. -/
def leavesOfAll : List Json → List Json
  | [] => []
  | document :: rest => leaves document ++ leavesOfAll rest

end

/-- An object without items is no list. -/
theorem leaves_of_no_items {fields : List (String × Json)}
    (absent : fields.lookup "items" = none) : leaves (.object fields) = [.object fields] := by
  have notList : ¬isList fields = true := by
    rw [isList, absent]
    simp
  rw [leaves, if_neg notList]

theorem leaves_document (kind : String) (scope : Option String) (name : String) :
    leaves (Resource.document kind scope name) = [Resource.document kind scope name] := by
  cases scope with
  | none => exact leaves_of_no_items rfl
  | some scope => exact leaves_of_no_items rfl

theorem single_eq (document : Json) : single document = [document].mapM Resource.ofObject := by
  rw [single, List.mapM_cons, List.mapM_nil]
  cases Resource.ofObject document <;> rfl

mutual

/-- The resources of a document are made of its leaves, one after the other. -/
theorem resources_eq : ∀ document : Json,
    resources document = (leaves document).mapM Resource.ofObject
  | .null => rfl
  | .boolean _ => single_eq _
  | .number _ => single_eq _
  | .string _ => single_eq _
  | .array _ => single_eq _
  | .object fields => by
      rw [resources, leaves]
      split
      · exact resourcesOfItems_eq fields
      · exact single_eq _

theorem resourcesOfItems_eq : ∀ fields : List (String × Json),
    resourcesOfItems fields = (leavesOfItems fields).mapM Resource.ofObject
  | [] => rfl
  | (name, value) :: rest => by
      rw [resourcesOfItems, leavesOfItems]
      split
      · exact resourcesOfArray_eq value
      · exact resourcesOfItems_eq rest

theorem resourcesOfArray_eq : ∀ value : Json,
    resourcesOfArray value = (leavesOfArray value).mapM Resource.ofObject
  | .array items => by
      rw [resourcesOfArray, leavesOfArray]
      exact resourcesOfAll_eq items
  | .null => rfl
  | .boolean _ => rfl
  | .number _ => rfl
  | .string _ => rfl
  | .object _ => rfl

theorem resourcesOfAll_eq : ∀ documents : List Json,
    resourcesOfAll documents = (leavesOfAll documents).mapM Resource.ofObject
  | [] => rfl
  | document :: rest => by
      rw [resourcesOfAll, leavesOfAll, List.mapM_append, resources_eq document,
        resourcesOfAll_eq rest]
      rfl

end

/-! ### Steps that may fail, in turn -/

section Steps

variable {α β ε : Type} {act : α → Except ε β}

theorem mapM_cons_of_error {x : α} {error : ε} (first : act x = .error error) (rest : List α) :
    (x :: rest).mapM act = .error error := by
  rw [List.mapM_cons, first]
  rfl

theorem mapM_cons_of_ok {x : α} {y : β} (first : act x = .ok y) (rest : List α) :
    (x :: rest).mapM act = (rest.mapM act).map (y :: ·) := by
  rw [List.mapM_cons, first]
  rfl

/-- All succeed in turn exactly if each succeeds. -/
theorem mapM_eq_ok_iff {list : List α} {results : List β} :
    list.mapM act = .ok results ↔ List.Forall₂ (fun x y => act x = .ok y) list results := by
  induction list generalizing results with
  | nil =>
      rw [List.mapM_nil, List.forall₂_nil_left_iff]
      exact ⟨fun done => (Except.ok.inj done).symm, fun done => done ▸ rfl⟩
  | cons x rest ih =>
      rw [List.forall₂_cons_left_iff]
      cases first : act x with
      | error error =>
          rw [mapM_cons_of_error first]
          simp
      | ok y =>
          rw [mapM_cons_of_ok first]
          simp only [← ih]
          cases rest.mapM act with
          | error error => simp [Except.map]
          | ok more => simp [Except.map, eq_comm]

/-- What stands behind the first that fails does not count. -/
theorem mapM_of_failing {before after : List α} {failing : α} {error : ε}
    (passed : ∀ x ∈ before, ∃ y, act x = .ok y) (failed : act failing = .error error) :
    (before ++ failing :: after).mapM act = .error error := by
  induction before with
  | nil => exact mapM_cons_of_error failed after
  | cons x before ih =>
      rw [List.forall_mem_cons] at passed
      obtain ⟨⟨y, first⟩, passed⟩ := passed
      rw [List.cons_append, mapM_cons_of_ok first, ih passed]
      rfl

theorem exists_failing_of_mapM {list : List α} {error : ε}
    (failed : list.mapM act = .error error) :
    ∃ before failing after, list = before ++ failing :: after ∧
      (∀ x ∈ before, ∃ y, act x = .ok y) ∧ act failing = .error error := by
  induction list with
  | nil => cases failed
  | cons x rest ih =>
      cases first : act x with
      | error cause =>
          rw [mapM_cons_of_error first, Except.error.injEq] at failed
          exact ⟨[], x, rest, rfl, by simp, failed ▸ first⟩
      | ok y =>
          rw [mapM_cons_of_ok first] at failed
          cases more : rest.mapM act with
          | ok others =>
              rw [more] at failed
              cases failed
          | error cause =>
              rw [more] at failed
              obtain ⟨before, failing, after, rfl, passed, fails⟩ := ih (failed ▸ more)
              refine ⟨x :: before, failing, after, rfl, ?_, fails⟩
              rw [List.forall_mem_cons]
              exact ⟨⟨y, first⟩, passed⟩

end Steps

/-- What stands on the right of a relation of lists is related to something on the left. -/
theorem exists_left_of_mem {α β : Type} {related : α → β → Prop} {left : List α} {right : List β}
    (each : List.Forall₂ related left right) {y : β} (member : y ∈ right) :
    ∃ x ∈ left, related x y := by
  induction each with
  | nil => cases member
  | cons holds _ ih =>
      rcases List.mem_cons.mp member with rfl | member
      · exact ⟨_, List.mem_cons_self, holds⟩
      · obtain ⟨x, inside, holds⟩ := ih member
        exact ⟨x, List.mem_cons_of_mem _ inside, holds⟩

/-! ### What is loaded -/

/-- Documents make up given resources exactly if their leaves do, each leaf one. -/
theorem resourcesOfAll_eq_ok_iff {documents : List Json} {resources : List Resource} :
    resourcesOfAll documents = .ok resources ↔
      List.Forall₂ (fun leaf resource => Resource.ofObject leaf = .ok resource)
        (leavesOfAll documents) resources := by
  rw [resourcesOfAll_eq, mapM_eq_ok_iff]

/-- A resource carries the document that it is made of. -/
theorem object_of_ofObject {document : Json} {resource : Resource}
    (made : Resource.ofObject document = .ok resource) : resource.object = some document := by
  rw [Resource.ofObject] at made
  split at made
  · cases made
  · dsimp only at made
    split at made
    · cases made
    · cases made
      rfl

/-- The resources of some documents, of which all could be read, are made of their leaves. -/
theorem ofDocuments_eq_ok_iff {documents : Yaml.Documents} {resources : List Resource} :
    ofDocuments documents = .ok resources ↔
      documents.complete = true ∧
        List.Forall₂ (fun leaf resource => Resource.ofObject leaf = .ok resource)
          (leavesOfAll documents.values) resources := by
  rw [← resourcesOfAll_eq_ok_iff, ofDocuments]
  cases loaded : resourcesOfAll documents.values with
  | error error =>
      refine ⟨fun done => (by cases done), ?_⟩
      rintro ⟨-, done⟩
      cases done
  | ok some =>
      by_cases complete : documents.complete = true
      · simp [complete]
      · simp [complete]

/-- Where all documents of a stream could be read, loading fails only for want of a resource. -/
theorem ofDocuments_eq_error_iff {documents : List Json} {error : LoadError} :
    ofDocuments ⟨documents, true⟩ = .error error ↔
      ∃ before failing after cause, leavesOfAll documents = before ++ failing :: after ∧
        (∀ leaf ∈ before, ∃ resource, Resource.ofObject leaf = .ok resource) ∧
        Resource.ofObject failing = .error cause ∧ error = .resource cause := by
  rw [ofDocuments, resourcesOfAll_eq]
  constructor
  · intro refused
    cases loaded : (leavesOfAll documents).mapM Resource.ofObject with
    | ok resources =>
        rw [loaded] at refused
        cases refused
    | error cause =>
        rw [loaded] at refused
        obtain ⟨before, failing, after, split, passed, failed⟩ := exists_failing_of_mapM loaded
        exact ⟨before, failing, after, cause, split, passed, failed, (Except.error.inj refused).symm⟩
  · rintro ⟨before, failing, after, cause, split, passed, failed, rfl⟩
    rw [split, mapM_of_failing passed failed]

end Manifest

end WaitFor
