/-
Module: WaitFor.Proofs.Path.Descendants
Purpose: The order in which a descent and a name find the entries of that name.
Main exports:
  Json.holders, Json.EntryFirst, Json.mem_holders, Json.entry_before_iff, Chain.find_descendants,
  Chain.find_descendants_out_of_order
-/
import Mathlib
import WaitFor.Proofs.Path.DocumentOrder

namespace WaitFor

namespace Json

/-! ### Objects that hold a name

A descent lists values, each before the values inside it, and the name is then looked up in one value
after the other.  What comes out is therefore in the order of the objects that hold the name, and
this need not be the order of the entries themselves: an object stands before all its entries, but an
entry under a later name stands behind everything below an earlier name of the same object.
-/

/-- The places of the objects that hold a name, in the order of the document. -/
def holders (value : Json) (name : String) : List Location :=
  (value.located.filter fun place => (place.2.field? name).isSome).map Prod.fst

/-- Below the names that stand before a given name in the object at a place, no entry has this
name. -/
def EntryFirst (value : Json) (name : String) (holder : Location) : Prop :=
  ∀ earlier < name, ∀ far : Location,
    value.at? (holder ++ Step.key earlier :: (far ++ [Step.key name])) = none

theorem at?_entry {value : Json} {holder : Location} {found : Json}
    (there : value.at? holder = some found) (name : String) :
    value.at? (holder ++ [Step.key name]) = found.field? name := by
  rw [at?_append, there, Option.bind_some, at?_singleton, child?_key]

theorem mem_holders {value : Json} (ordered : value.Ordered) {name : String}
    {holder : Location} :
    holder ∈ value.holders name ↔ (value.at? (holder ++ [Step.key name])).isSome = true := by
  rw [holders, List.mem_map]
  constructor
  · rintro ⟨⟨place, found⟩, member, rfl⟩
    obtain ⟨listed, holds⟩ := List.mem_filter.mp member
    rwa [at?_entry ((mem_located ordered).mp listed)]
  · intro entry
    cases there : value.at? holder with
    | none => simp [at?_append, there] at entry
    | some found =>
        rw [at?_entry there] at entry
        exact ⟨(holder, found), List.mem_filter.mpr ⟨(mem_located ordered).mpr there, entry⟩, rfl⟩

theorem pairwise_holders {value : Json} (ordered : value.Ordered) (name : String) :
    (value.holders name).Pairwise Location.Before :=
  (pairwise_located ordered).sublist (List.filter_sublist.map Prod.fst)

/-- Of two objects that hold a name the entry of the earlier one stands first, unless the later one
lies below an earlier name of the earlier one. -/
theorem entry_before_iff {value : Json} {name : String} {one two : Location}
    (oneHolds : (value.at? (one ++ [Step.key name])).isSome = true)
    (twoHolds : (value.at? (two ++ [Step.key name])).isSome = true)
    (before : Location.Before one two) :
    Location.Before (one ++ [Step.key name]) (two ++ [Step.key name]) ↔
      ¬∃ earlier < name, ∃ far, two = one ++ Step.key earlier :: far := by
  constructor
  · rintro entries ⟨earlier, less, far, rfl⟩
    have other : Location.Before (one ++ (Step.key earlier :: far ++ [Step.key name]))
        (one ++ [Step.key name]) := Location.Before.below (.rel (.key less)) one
    rw [List.append_assoc] at entries
    exact entries.asymm other
  · intro notEarlier
    obtain ⟨step, far, rfl⟩ | ⟨near, left, right, far, further, apart, rfl, rfl⟩ :=
      before.below_or_apart
    · obtain ⟨holder, oneThere, oneChild⟩ : ∃ holder, value.at? one = some holder ∧
          (holder.child? (Step.key name)).isSome = true := by
        cases there : value.at? one with
        | none => simp [at?_append, there] at oneHolds
        | some holder => exact ⟨holder, rfl, by simpa [at?_append, there] using oneHolds⟩
      -- The object has an entry under the name, so what is below it is under names as well.
      obtain ⟨fields, rfl⟩ : ∃ fields, holder = .object fields := by
        obtain ⟨child, found⟩ := Option.isSome_iff_exists.mp oneChild
        exact child?_key_eq_some found
      rw [List.append_assoc] at twoHolds ⊢
      apply Location.Before.below
      cases step with
      | item position => simp [at?_append, oneThere, child?] at twoHolds
      | key other =>
          rcases lt_trichotomy name other with less | rfl | more
          · exact .rel (.key less)
          · cases far with
            | nil => exact .cons .nil
            | cons step far => exact .cons .nil
          · exact absurd ⟨other, more, far, rfl⟩ notEarlier
    · have parted : Location.Before (left :: far ++ [Step.key name])
          (right :: further ++ [Step.key name]) := .rel apart
      rw [List.append_assoc, List.append_assoc]
      exact parted.below near

end Json

namespace Chain

/-- A descent and a name look the name up in each value, in the order of the descent. -/
theorem find_descent_field (name : String) (value : Json) :
    find [.descent, .field name] value = value.subtree.filterMap (Json.field? name) := by
  have single : find [.field name] = fun found => (found.field? name).toList := by
    funext found
    rw [find_cons, Selector.select]
    cases found.field? name <;> simp [find_nil]
  rw [find_cons, Selector.select, single, List.filterMap_eq_flatMap_toList]

/-- What is found are the entries of the objects that hold the name, in the order of these
objects. -/
theorem map_some_find_descendants {value : Json} (ordered : value.Ordered) (name : String) :
    (find [.descent, .field name] value).map some =
      (value.holders name).map fun holder => value.at? (holder ++ [Step.key name]) := by
  have kept (places : List (Location × Json)) :
      ((places.map Prod.snd).filterMap (Json.field? name)).map some =
        (places.filter fun place => (place.2.field? name).isSome).map fun place =>
          place.2.field? name := by
    induction places with
    | nil => rfl
    | cons place places ih =>
        rw [List.map_cons, List.filterMap_cons, List.filter_cons]
        cases held : place.2.field? name with
        | none => simpa using ih
        | some entry => simpa [held] using ih
  rw [find_descent_field, ← Json.map_snd_located, kept, Json.holders, List.map_map]
  apply List.map_congr_left
  intro place member
  obtain ⟨listed, -⟩ := List.mem_filter.mp member
  exact (Json.at?_entry ((Json.mem_located ordered).mp listed) name).symm

/-- The entries of a name stand in document order, seen from one object, exactly if none of them
lies below an earlier name of that object. -/
theorem entryFirst_iff {value : Json} (ordered : value.Ordered) {name : String}
    {holder : Location} (held : holder ∈ value.holders name) :
    value.EntryFirst name holder ↔
      ∀ other ∈ value.holders name, Location.Before holder other →
        Location.Before (holder ++ [Step.key name]) (other ++ [Step.key name]) := by
  have holds := (Json.mem_holders ordered).mp held
  constructor
  · intro first other member before
    rw [Json.entry_before_iff holds ((Json.mem_holders ordered).mp member) before]
    rintro ⟨earlier, less, far, rfl⟩
    have entry := (Json.mem_holders ordered).mp member
    rw [List.append_assoc, List.cons_append, first earlier less far] at entry
    cases entry
  · intro behind earlier less far
    by_contra entry
    have member : holder ++ Step.key earlier :: far ∈ value.holders name := by
      rw [Json.mem_holders ordered, List.append_assoc, List.cons_append]
      exact Option.isSome_iff_ne_none.mpr entry
    have below : Location.Before holder (holder ++ Step.key earlier :: far) := by
      simpa using Location.Before.below (.nil : Location.Before [] (Step.key earlier :: far)) holder
    have entries := behind _ member below
    rw [Json.entry_before_iff holds ((Json.mem_holders ordered).mp member) below] at entries
    exact entries ⟨earlier, less, far, rfl⟩

/-- A descent and a name find each entry of that name once, in the order of the objects that hold
the name.  This is the order of the entries themselves exactly if in no such object one of them lies
below an earlier name; and the entry that is found first, that of the earliest object, is the
earliest of all exactly if this is so in that object. -/
theorem find_descendants (name : String) (value : Json) (ordered : value.Ordered) :
    ∃ holders : List Location,
      holders.Pairwise Location.Before ∧
      (∀ holder, holder ∈ holders ↔ (value.at? (holder ++ [Step.key name])).isSome = true) ∧
      (find [.descent, .field name] value).map some =
        holders.map (fun holder => value.at? (holder ++ [Step.key name])) ∧
      ((holders.map fun holder => holder ++ [Step.key name]).Pairwise Location.Before ↔
        ∀ holder ∈ holders, value.EntryFirst name holder) ∧
      ∀ holder ∈ holders, (∀ other ∈ holders, other ≠ holder → Location.Before holder other) →
        first? [.descent, .field name] value = value.at? (holder ++ [Step.key name]) ∧
        (value.EntryFirst name holder ↔
          ∀ other ∈ holders, other ≠ holder →
            Location.Before (holder ++ [Step.key name]) (other ++ [Step.key name])) := by
  have increasing := Json.pairwise_holders ordered name
  have found := map_some_find_descendants ordered name
  refine ⟨value.holders name, increasing, fun holder => Json.mem_holders ordered, found, ?_, ?_⟩
  · rw [List.pairwise_map]
    constructor
    · intro entries holder held
      rw [entryFirst_iff ordered held]
      intro other member before
      exact Location.pairwise_of_before increasing entries held member before
    · intro first
      refine increasing.imp_of_mem fun {one two} oneHeld twoHeld before => ?_
      exact (entryFirst_iff ordered oneHeld).mp (first one oneHeld) two twoHeld before
  · intro holder held earliest
    constructor
    · have firstHolder : (value.holders name).head? = some holder :=
        (Location.head?_eq_some_iff increasing).mpr ⟨held, earliest⟩
      have heads := congrArg List.head? found
      rw [List.head?_map, List.head?_map, firstHolder, Option.map_some] at heads
      cases earliestEntry : find [.descent, .field name] value with
      | nil => simp [earliestEntry] at heads
      | cons entry further =>
          rw [first?, earliestEntry]
          simpa [earliestEntry] using heads
    · rw [entryFirst_iff ordered held]
      constructor
      · intro behind other member different
        exact behind other member (earliest other member different)
      · intro entries other member before
        refine entries other member ?_
        rintro rfl
        exact before.asymm before

/-- Under a name that comes before `n`, an entry `n` is found behind the one of the object around
it, although it stands first in the document. -/
theorem find_descendants_of_nested :
    ∃ value : Json,
      value = Json.ofFields [("n", .number (.integer 2)),
        ("a", Json.ofFields [("n", .number (.integer 1))])] ∧
      value.Ordered ∧
      ∃ holders : List Location,
        (∀ holder, holder ∈ holders ↔ (value.at? (holder ++ [Step.key "n"])).isSome = true) ∧
        [some (.number (.integer 2)), some (.number (.integer 1))] =
          holders.map (fun holder => value.at? (holder ++ [Step.key "n"])) ∧
        ¬(holders.map fun holder => holder ++ [Step.key "n"]).Pairwise Location.Before := by
  have leaf (number : Int) : (Json.number (.integer number)).Ordered :=
    Json.ordered_leaf (by simp) rfl
  have inner : (Json.ofFields [("n", .number (.integer 1))]).Ordered :=
    Json.ordered_ofFields (by simpa using leaf 1)
  have ordered : (Json.ofFields [("n", .number (.integer 2)),
      ("a", Json.ofFields [("n", .number (.integer 1))])]).Ordered := by
    apply Json.ordered_ofFields
    rw [List.forall_mem_cons, List.forall_mem_singleton]
    exact ⟨leaf 2, inner⟩
  obtain ⟨holders, -, places, found, inOrder, -⟩ := find_descendants "n" _ ordered
  refine ⟨_, rfl, ordered, holders, places, found, fun increasing => ?_⟩
  have root : [] ∈ holders := (places []).mpr rfl
  have below := inOrder.mp increasing [] root "a" (by decide) []
  cases below

/-- There is no list of the entries of a name in document order whose values a descent and the name
find: of the entries at `a.n` and at `n` the second one is found first. -/
theorem find_descendants_out_of_order :
    ∃ value : Json,
      value = Json.ofFields [("n", .number (.integer 2)),
        ("a", Json.ofFields [("n", .number (.integer 1))])] ∧
      find [.descent, .field "n"] value = [.number (.integer 2), .number (.integer 1)] ∧
      ¬∃ locations : List Location,
        locations.Pairwise Location.Before ∧
        (∀ location, location ∈ locations ↔
          (∃ holder, location = holder ++ [Step.key "n"]) ∧ (value.at? location).isSome = true) ∧
        (find [.descent, .field "n"] value).map some = locations.map value.at? := by
  have listed : find [.descent, .field "n"] (Json.ofFields [("n", .number (.integer 2)),
      ("a", Json.ofFields [("n", .number (.integer 1))])]) =
        [.number (.integer 2), .number (.integer 1)] := rfl
  refine ⟨_, rfl, listed, ?_⟩
  rintro ⟨locations, increasing, places, found⟩
  have nested : [Step.key "a", Step.key "n"] ∈ locations :=
    (places _).mpr ⟨⟨[Step.key "a"], rfl⟩, rfl⟩
  have outer : [Step.key "n"] ∈ locations := (places _).mpr ⟨⟨[], rfl⟩, rfl⟩
  have before : Location.Before [Step.key "a", Step.key "n"] [Step.key "n"] :=
    .rel (.key (by decide))
  -- In what is found the value of the earlier entry does not stand in front of that of the later.
  have values : ([Json.number (.integer 2), .number (.integer 1)].map some).Pairwise fun one two =>
      one = some (.number (.integer 1)) → two ≠ some (.number (.integer 2)) := by simp
  rw [listed] at found
  rw [found, List.pairwise_map] at values
  exact Location.pairwise_of_before increasing values nested outer before rfl rfl

end Chain

end WaitFor
