/-
Module: WaitFor.Proofs.Path.DocumentOrder
Purpose: A path that never turns back finds its values in the order of the document.
Main exports:
  Selector.Forward, Selector.pairwise_reached, Chain.pairwise_reached,
  Path.find_in_document_order
-/
import Mathlib
import WaitFor.Path.Basic
import WaitFor.Proofs.Json.DocumentOrder
import WaitFor.Proofs.Path.Matching

namespace WaitFor

/-- The selector takes steps of one depth in the order of the document: it is no descent, no union,
whose names stand in any order, and no slice that runs backward. -/
def Selector.Forward : Selector → Prop
  | .union _ => False
  | .descent => False
  | .slice _ _ step => ∀ size, step = some size → 0 ≤ size
  | .field _ => True
  | .wildcard => True
  | .index _ => True
  | .filter _ => True

theorem Selector.Forward.single {selector : Selector} (forward : selector.Forward) :
    selector.isDescent = false := by
  cases selector with
  | descent => exact forward.elim
  | _ => rfl

/-- One selector reaches its places in document order. -/
theorem Selector.pairwise_reached {selector : Selector} (forward : selector.Forward)
    {value : Json} (ordered : value.Ordered) :
    ((selector.reached value).map Prod.fst).Pairwise Location.Before := by
  cases selector with
  | field name => exact Json.pairwise_stepped value (List.pairwise_singleton _ _)
  | union names => exact forward.elim
  | wildcard => exact Json.pairwise_entries ordered
  | index position =>
      refine Json.pairwise_stepped value ?_
      cases Slice.place? position value.size <;> simp
  | slice start stop step =>
      have notBackward : 0 ≤ step.getD 1 := by
        cases step with
        | none => exact Int.one_nonneg
        | some size => exact forward size rfl
      refine Json.pairwise_stepped value (List.pairwise_map.mpr ?_)
      exact (Slice.pairwise_positions start stop notBackward value.size).imp .item
  | descent => exact forward.elim
  | filter test => exact (Json.pairwise_entries ordered).sublist (List.filter_sublist.map Prod.fst)

/-- A chain of such selectors reaches its places in document order.  By induction on the chain: the
places that its first selector reaches are in order and at one depth, so none lies below another. -/
theorem Chain.pairwise_reached {chain : Chain} (forward : ∀ selector ∈ chain, selector.Forward)
    {value : Json} (ordered : value.Ordered) :
    ((reached chain value).map Prod.fst).Pairwise Location.Before := by
  induction chain generalizing value with
  | nil => exact List.pairwise_singleton _ _
  | cons selector rest ih =>
      rw [List.forall_mem_cons] at forward
      obtain ⟨first, further⟩ := forward
      rw [reached]
      refine Json.pairwise_flatMap_beyond (Selector.pairwise_reached first ordered) ?_ ?_
      · intro one oneMember two twoMember
        obtain ⟨oneReaches, -⟩ := (Selector.mem_reached ordered).mp oneMember
        obtain ⟨twoReaches, -⟩ := (Selector.mem_reached ordered).mp twoMember
        rw [oneReaches.length first.single, twoReaches.length first.single]
      · intro near member
        obtain ⟨-, there⟩ := (Selector.mem_reached ordered).mp member
        exact ih further (ordered.at there)

/-- The first match of a chain is the value at the first place that it reaches. -/
theorem Chain.first?_eq_some_iff {chain : Chain} {value : Json} (ordered : value.Ordered)
    {first : Json} :
    first? chain value = some first ↔
      ∃ location, ((reached chain value).map Prod.fst).head? = some location ∧
        value.at? location = some first := by
  have heads : (first? chain value).map some =
      ((reached chain value).map Prod.fst).head?.map value.at? := by
    rw [first?, ← List.head?_map, ← List.head?_map, map_some_find ordered]
  have found : first? chain value = some first ↔
      (first? chain value).map some = some (some first) := by
    cases first? chain value <;> simp
  rw [found, heads, Option.map_eq_some_iff]

/-- A chain without a descent, without unions and without slices that run backward finds the values
at the places that it describes, in the order in which these stand in the document.  The first match
is therefore the value at the earliest place. -/
theorem Path.find_in_document_order (path : Path)
    (forward : ∀ selector ∈ path.selectors, selector.Forward) (value : Json)
    (ordered : value.Ordered) :
    ∃ locations : List Location,
      locations.Pairwise Location.Before ∧
      (∀ location, location ∈ locations ↔
        (value.at? location).isSome = true ∧ Chain.Matches path.selectors value location) ∧
      (path.find value).map some = locations.map value.at? ∧
      ∀ first, path.first? value = some first ↔
        ∃ location ∈ locations, value.at? location = some first ∧
          ∀ other ∈ locations, other ≠ location → Location.Before location other := by
  have increasing := Chain.pairwise_reached forward ordered
  refine ⟨_, increasing, fun location => Chain.mem_places ordered, Chain.map_some_find ordered,
    fun first => ?_⟩
  rw [first?, Chain.first?_eq_some_iff ordered]
  apply exists_congr
  intro location
  rw [Location.head?_eq_some_iff increasing]
  tauto

/-- Of the items of two arrays those under the earlier name come first, however the object was
written. -/
theorem Path.find_in_document_order_of_fields :
    (∀ selector ∈ [Selector.wildcard, .slice none none (some 2)], selector.Forward) ∧
    (Json.ofFields [("b", .array [.boolean true]), ("a", .array [.null, .null])]).Ordered ∧
    ∃ locations : List Location,
      locations.Pairwise Location.Before ∧
      [some .null, some (.boolean true)] = locations.map
        (Json.ofFields [("b", .array [.boolean true]), ("a", .array [.null, .null])]).at? ∧
      ∃ location ∈ locations,
        (Json.ofFields [("b", .array [.boolean true]), ("a", .array [.null, .null])]).at? location =
          some .null ∧
        ∀ other ∈ locations, other ≠ location → Location.Before location other := by
  have forward : ∀ selector ∈ [Selector.wildcard, .slice none none (some 2)],
      selector.Forward := by
    simp [Selector.Forward]
  have ordered :
      (Json.ofFields [("b", .array [.boolean true]), ("a", .array [.null, .null])]).Ordered := by
    have null : Json.null.Ordered := Json.ordered_leaf (by simp) rfl
    have boolean : (Json.boolean true).Ordered := Json.ordered_leaf (by simp) rfl
    apply Json.ordered_ofFields
    rw [List.forall_mem_cons, List.forall_mem_singleton]
    exact ⟨Json.ordered_array (by simpa using boolean), Json.ordered_array (by simpa using null)⟩
  obtain ⟨locations, increasing, -, values, first⟩ := find_in_document_order
    ⟨"\x7b.*[::2]\x7d", [.wildcard, .slice none none (some 2)]⟩ forward _ ordered
  exact ⟨forward, ordered, locations, increasing, values, (first .null).mp rfl⟩

end WaitFor
