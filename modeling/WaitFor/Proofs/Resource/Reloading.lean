/-
Module: WaitFor.Proofs.Resource.Reloading
Purpose: The objects of loaded resources are leaves, and loading them again gives the same resources.
Main exports:
  Manifest.IsLeaf, Manifest.HaveLeaves.isLeaf, Manifest.leavesOfAll_of_leaves, Manifest.objects,
  Manifest.load_objects
-/
import Mathlib
import WaitFor.Proofs.Resource.Flattening

namespace WaitFor.Manifest

/-! ### Leaves are their own leaves -/

/-- A document on its own: neither nothing nor a list. -/
def IsLeaf (document : Json) : Prop :=
  document ≠ .null ∧ ∀ fields items, document = .object fields → ¬ListsItems fields items

mutual

/-- By recursion on the derivation: a list hands on the leaves of its items. -/
theorem HasLeaves.isLeaf {document : Json} {found : List Json} :
    HasLeaves document found → ∀ leaf ∈ found, IsLeaf leaf
  | .nothing, leaf, member => absurd member List.not_mem_nil
  | .list _ inside, leaf, member => inside.isLeaf leaf member
  | .leaf something single, leaf, member => by
      obtain rfl := List.mem_singleton.mp member
      exact ⟨something, single⟩

theorem HaveLeaves.isLeaf {documents found : List Json} :
    HaveLeaves documents found → ∀ leaf ∈ found, IsLeaf leaf
  | .nil, leaf, member => absurd member List.not_mem_nil
  | .cons head tail, leaf, member => by
      rcases List.mem_append.mp member with member | member
      · exact head.isLeaf leaf member
      · exact tail.isLeaf leaf member

end

/-- Documents that are leaves are gathered as they are. -/
theorem leavesOfAll_of_leaves {documents : List Json} (single : ∀ leaf ∈ documents, IsLeaf leaf) :
    leavesOfAll documents = documents := by
  induction documents with
  | nil => rfl
  | cons document rest ih =>
      obtain ⟨⟨something, notList⟩, others⟩ := List.forall_mem_cons.mp single
      rw [leavesOfAll, leaves_of_single something notList, ih others, List.singleton_append]

/-! ### The objects of resources -/

/-- The objects that resources carry, in their order. -/
def objects (resources : List Resource) : List Json :=
  resources.filterMap fun resource => resource.object

/-- Resources carry the documents that they are made of. -/
theorem objects_of_made {documents : List Json} {resources : List Resource}
    (made : List.Forall₂ (fun leaf resource => Resource.ofObject leaf = .ok resource)
      documents resources) : objects resources = documents := by
  induction made with
  | nil => rfl
  | cons first _ ih => rw [objects, List.filterMap_cons, object_of_ofObject first, ← objects, ih]

/-- Documents that are leaves are loaded each on its own, and so are the items of a list of them. -/
theorem ofDocuments_of_leaves {documents : List Json} {resources : List Resource}
    (single : ∀ leaf ∈ documents, IsLeaf leaf)
    (made : List.Forall₂ (fun leaf resource => Resource.ofObject leaf = .ok resource)
      documents resources) :
    ofDocuments ⟨documents, true⟩ = .ok resources ∧
      ∀ fields, ListsItems fields documents →
        ofDocuments ⟨[.object fields], true⟩ = .ok resources := by
  have gathered := leavesOfAll_of_leaves single
  constructor
  · rw [ofDocuments_eq_ok_iff, gathered]
    exact ⟨rfl, made⟩
  · intro fields lists
    rw [ofDocuments_eq_ok_iff, leavesOfAll, lists.leaves_eq, gathered, leavesOfAll,
      List.append_nil]
    exact ⟨rfl, made⟩

/-- What was loaded can be loaded again.  Each resource carries the document that it was made of,
which is neither nothing nor a list, and from which the same resource is made; and these documents,
one after the other or as the items of a list, load to the same resources in the same order. -/
theorem load_objects {documents : Yaml.Documents} {resources : List Resource}
    (loaded : ofDocuments documents = .ok resources) :
    (∀ resource ∈ resources, ∃ object, resource.object = some object ∧ IsLeaf object ∧
        Resource.ofObject object = .ok resource) ∧
      ofDocuments ⟨objects resources, true⟩ = .ok resources ∧
      ∀ fields, ListsItems fields (objects resources) →
        ofDocuments ⟨[.object fields], true⟩ = .ok resources := by
  obtain ⟨-, made⟩ := ofDocuments_eq_ok_iff.mp loaded
  have single := (haveLeaves_leavesOfAll documents.values).isLeaf
  rw [objects_of_made made]
  refine ⟨fun resource member => ?_, ofDocuments_of_leaves single made⟩
  obtain ⟨leaf, listed, same⟩ := exists_left_of_mem made member
  exact ⟨leaf, object_of_ofObject same, single leaf listed, same⟩

/-- The resources in nested lists, one of them with an item that is nothing, are loaded again from
one list. -/
theorem load_objects_of_nested :
    ofDocuments ⟨[listOf [Resource.document "Node" none "n",
        listOf [.null, Resource.document "Pod" (some "default") "p"]]], true⟩ =
        .ok [⟨"Node", "n", none, some (Resource.document "Node" none "n")⟩,
          ⟨"Pod", "p", some "default", some (Resource.document "Pod" (some "default") "p")⟩] ∧
      ofDocuments ⟨[listOf [Resource.document "Node" none "n",
        Resource.document "Pod" (some "default") "p"]], true⟩ =
        .ok [⟨"Node", "n", none, some (Resource.document "Node" none "n")⟩,
          ⟨"Pod", "p", some "default", some (Resource.document "Pod" (some "default") "p")⟩] := by
  have loaded : ofDocuments ⟨[listOf [Resource.document "Node" none "n",
      listOf [.null, Resource.document "Pod" (some "default") "p"]]], true⟩ =
      .ok [⟨"Node", "n", none, some (Resource.document "Node" none "n")⟩,
        ⟨"Pod", "p", some "default", some (Resource.document "Pod" (some "default") "p")⟩] :=
    rfl
  exact ⟨loaded, (load_objects loaded).2.2 _ (listsItems_listOf _)⟩

end WaitFor.Manifest
