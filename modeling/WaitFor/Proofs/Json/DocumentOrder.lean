/-
Module: WaitFor.Proofs.Json.DocumentOrder
Purpose: The order in which the places of a document stand in it.
Main exports:
  Step.Before, Location.Before, Location.Before.append, Location.Before.below_or_apart,
  Location.pairwise_of_before, Location.head?_eq_some_iff, Json.pairwise_stepped, Json.pairwise_entries,
  Json.pairwise_flatMap_beyond, Json.pairwise_located
-/
import Mathlib
import WaitFor.Proofs.Json.Location

namespace WaitFor

/-! ### The order of places -/

/-- Fields stand in the order of their names, by code point, and items in that of their positions. -/
inductive Step.Before : Step → Step → Prop where
  | key {one two : String} (less : one < two) : Before (.key one) (.key two)
  | item {one two : Nat} (less : one < two) : Before (.item one) (.item two)

theorem Step.Before.asymm {one two : Step} (before : one.Before two) : ¬two.Before one := by
  intro after
  cases before with
  | key less =>
      cases after with
      | key more => exact lt_asymm less more
  | item less =>
      cases after with
      | item more => exact lt_asymm less more

namespace Location

/-- Document order.  A place stands before the places below it, and of two places that part, the one
that takes the earlier step. -/
def Before : Location → Location → Prop := List.Lex Step.Before

theorem Before.asymm {one two : Location} (before : Before one two) : ¬Before two one :=
  List.lex_asymm Step.Before.asymm before

/-- Places below a common place stand as they do from there. -/
theorem Before.below {one two : Location} (before : Before one two) (near : Location) :
    Before (near ++ one) (near ++ two) := by
  induction near with
  | nil => exact before
  | cons _ _ ih => exact .cons ih

/-- Of places at one depth the earlier stands before the later with all that is below them. -/
theorem Before.append {one two : Location} (before : Before one two)
    (level : one.length = two.length) (far further : Location) :
    Before (one ++ far) (two ++ further) := by
  induction before with
  | nil => cases level
  | cons _ ih => exact .cons (ih (Nat.succ.inj level))
  | rel step => exact .rel step

/-- Of two places the later lies below the earlier, or they part at steps of which the earlier place
takes the earlier. -/
theorem Before.below_or_apart {one two : Location} (before : Before one two) :
    (∃ step far, two = one ++ step :: far) ∨
      ∃ near left right far further, Step.Before left right ∧
        one = near ++ left :: far ∧ two = near ++ right :: further := by
  induction before with
  | @nil step far => exact Or.inl ⟨step, far, rfl⟩
  | @rel left far right further step =>
      exact Or.inr ⟨[], left, right, far, further, step, rfl, rfl⟩
  | @cons step one two _ ih =>
      obtain ⟨below, far, rfl⟩ | ⟨near, left, right, far, further, apart, rfl, rfl⟩ := ih
      · exact Or.inl ⟨below, far, rfl⟩
      · exact Or.inr ⟨step :: near, left, right, far, further, apart, rfl, rfl⟩

/-- What holds of every two places of a list in document order, in the order of the list, holds of
an earlier place and a later one. -/
theorem pairwise_of_before {related : Location → Location → Prop} {locations : List Location}
    (increasing : locations.Pairwise Before) (each : locations.Pairwise related)
    {one two : Location} (oneMember : one ∈ locations) (twoMember : two ∈ locations)
    (before : Before one two) : related one two := by
  induction locations with
  | nil => cases oneMember
  | cons first rest ih =>
      rw [List.pairwise_cons] at increasing each
      rcases List.mem_cons.mp oneMember with rfl | oneLater
      · rcases List.mem_cons.mp twoMember with rfl | twoLater
        · exact absurd before before.asymm
        · exact each.1 two twoLater
      · rcases List.mem_cons.mp twoMember with rfl | twoLater
        · exact absurd (increasing.1 one oneLater) before.asymm
        · exact ih increasing.2 each.2 oneLater twoLater

/-- The first of places in document order is the earliest of them. -/
theorem head?_eq_some_iff {locations : List Location} (increasing : locations.Pairwise Before)
    {location : Location} :
    locations.head? = some location ↔
      location ∈ locations ∧ ∀ other ∈ locations, other ≠ location → Before location other := by
  cases locations with
  | nil => simp
  | cons first rest =>
      rw [List.pairwise_cons] at increasing
      rw [List.head?_cons, Option.some.injEq]
      constructor
      · rintro rfl
        refine ⟨List.mem_cons_self, fun other member different => ?_⟩
        exact increasing.1 other ((List.mem_cons.mp member).resolve_left different)
      · rintro ⟨member, earliest⟩
        by_contra different
        have later := (List.mem_cons.mp member).resolve_left (Ne.symm different)
        exact (increasing.1 location later).asymm (earliest first List.mem_cons_self different)

end Location

namespace Json

/-! ### Lists of places in document order -/

/-- The values that increasing steps lead to are listed in document order. -/
theorem pairwise_stepped (value : Json) {steps : List Step}
    (increasing : steps.Pairwise Step.Before) :
    ((value.stepped steps).map Prod.fst).Pairwise Location.Before := by
  rw [stepped, List.map_filterMap]
  refine increasing.filterMap _ ?_
  intro one two before near isNear far isFar
  simp only [Option.map_eq_some_iff] at isNear isFar
  obtain ⟨-, ⟨child, -, rfl⟩, rfl⟩ := isNear
  obtain ⟨-, ⟨child', -, rfl⟩, rfl⟩ := isFar
  exact .rel before

/-- The children of a value are listed in document order. -/
theorem pairwise_entries {value : Json} (ordered : value.Ordered) :
    (value.entries.map Prod.fst).Pairwise Location.Before := by
  cases value with
  | array items =>
      rw [map_fst_entries_array, List.pairwise_map]
      exact (List.pairwise_lt_range' ..).imp fun less => .rel (.item less)
  | object fields =>
      rw [map_fst_entries_object, List.pairwise_map]
      exact ordered.names.imp fun less => .rel (.key less)
  | null => simp [entries]
  | boolean _ => simp [entries]
  | number _ => simp [entries]
  | string _ => simp [entries]

/-- Places that are reached in two stages are in document order if those of each stage are, and
those of the first stage are at one depth. -/
theorem pairwise_flatMap_beyond {nears : List (Location × Json)}
    {fars : Json → List (Location × Json)}
    (increasing : (nears.map Prod.fst).Pairwise Location.Before)
    (level : ∀ one ∈ nears, ∀ two ∈ nears, one.1.length = two.1.length)
    (each : ∀ near ∈ nears, ((fars near.2).map Prod.fst).Pairwise Location.Before) :
    ((nears.flatMap fun near => beyond near.1 (fars near.2)).map Prod.fst).Pairwise
      Location.Before := by
  rw [List.map_flatMap, List.pairwise_flatMap]
  constructor
  · intro near member
    rw [map_fst_beyond, List.pairwise_map]
    exact (each near member).imp fun before => before.below near.1
  · rw [List.pairwise_map] at increasing
    refine increasing.imp_of_mem fun {one two} oneMember twoMember before p pMember q qMember => ?_
    rw [map_fst_beyond, List.mem_map] at pMember qMember
    obtain ⟨far, -, rfl⟩ := pMember
    obtain ⟨further, -, rfl⟩ := qMember
    exact before.append (level one oneMember two twoMember) far further

/-- A descent lists the places of a document in document order. -/
theorem pairwise_located {value : Json} (ordered : value.Ordered) :
    (value.located.map Prod.fst).Pairwise Location.Before := by
  induction ordered with
  | @intro value increasing below ih =>
      have ordered : value.Ordered := .intro increasing below
      have single : ∀ near ∈ value.entries, ∃ step, near.1 = [step] := by
        intro near entry
        obtain ⟨step, single, -⟩ := (mem_entries ordered).mp entry
        exact ⟨step, single⟩
      have distinct := nodup_located ordered
      rw [located_eq, List.map_cons, List.nodup_cons] at distinct
      rw [located_eq, List.map_cons, List.pairwise_cons]
      constructor
      · intro location member
        cases location with
        | nil => exact absurd member distinct.1
        | cons step far => exact .nil
      · refine pairwise_flatMap_beyond (pairwise_entries ordered) ?_ ?_
        · intro one oneEntry two twoEntry
          obtain ⟨first, isFirst⟩ := single one oneEntry
          obtain ⟨second, isSecond⟩ := single two twoEntry
          rw [isFirst, isSecond]
          rfl
        · intro near entry
          refine ih near.2 ?_
          rw [← map_snd_entries]
          exact List.mem_map_of_mem entry

end Json

end WaitFor
