/-
Module: WaitFor.Proofs.Path.SlicePositions
Purpose: The positions that a range of an array visits.
Main exports:
  Slice.positions, Slice.items_map, Slice.items_eq_filterMap, Slice.nodup_positions,
  Slice.pairwise_positions, Slice.getElem?_positions,
  Slice.Visits, Slice.mem_positions, Slice.lt_of_mem_positions, Slice.IsItem, Slice.place?_eq_some_iff,
  Slice.itemAt?_eq_bind
-/
import Mathlib
import WaitFor.Path.Slice

namespace WaitFor.Slice

variable {α β : Type}

/-!
### Ranges as positions

What a range keeps depends on places in the list and not on what stands there.  The items of a range
are therefore the items at the positions that the same range keeps of a list of positions.
-/

theorem thin_map (f : α → β) (gap wait : Nat) (list : List α) :
    thin gap wait (list.map f) = (thin gap wait list).map f := by
  induction list generalizing wait with
  | nil => cases wait <;> rfl
  | cons x rest ih =>
      cases wait with
      | zero => rw [List.map_cons, thin, thin, List.map_cons, ih]
      | succ wait => rw [List.map_cons, thin, thin, ih]

theorem between_map (f : α → β) (start stop : Int) (list : List α) :
    between start stop (list.map f) = (between start stop list).map f := by
  rw [between, between, List.map_drop, List.map_take]

/-- A range of changed items is the changed items of the range. -/
theorem items_map (f : α → β) (start stop : Option Int) (step : Int) (list : List α) :
    items start stop step (list.map f) = (items start stop step list).map f := by
  simp only [items, List.length_map]
  split
  · rfl
  · split
    · rw [between_map, thin_map]
    · rw [between_map, ← List.map_reverse, thin_map]

/-- The positions that a range visits in a list of a given length, in the order of the visits. -/
def positions (start stop : Option Int) (step : Int) (length : Nat) : List Nat :=
  items start stop step (List.range length)

/-- A range yields the items at its positions. -/
theorem map_some_items (start stop : Option Int) (step : Int) (list : List α) :
    (items start stop step list).map some =
      (positions start stop step list.length).map fun position => list[position]? := by
  have spelled : list.map some = (List.range list.length).map fun position => list[position]? := by
    apply List.ext_getElem?
    intro position
    rw [List.getElem?_map, List.getElem?_map]
    by_cases inside : position < list.length
    · simp [inside]
    · simp [inside]
  rw [← items_map, spelled, items_map, positions]

/-- A range yields the items that are found at its positions. -/
theorem items_eq_filterMap (start stop : Option Int) (step : Int) (list : List α) :
    items start stop step list =
      (positions start stop step list.length).filterMap fun position => list[position]? := by
  have spelled := congrArg (List.filterMap id) (map_some_items start stop step list)
  rw [List.filterMap_map, List.filterMap_map] at spelled
  simpa using spelled

theorem thin_sublist (gap wait : Nat) (list : List α) : (thin gap wait list).Sublist list := by
  induction list generalizing wait with
  | nil => cases wait <;> exact List.Sublist.refl _
  | cons x rest ih =>
      cases wait with
      | zero => exact (ih gap).cons_cons x
      | succ wait => exact (ih wait).cons x

theorem between_sublist (start stop : Int) (list : List α) :
    (between start stop list).Sublist list :=
  (List.drop_sublist _ _).trans (List.take_sublist _ _)

/-- A range visits no position twice. -/
theorem nodup_positions (start stop : Option Int) (step : Int) (length : Nat) :
    (positions start stop step length).Nodup := by
  have distinct : (List.range length).Nodup := List.nodup_range
  simp only [positions, items]
  split
  · exact List.nodup_nil
  · split
    · exact distinct.sublist ((thin_sublist _ _ _).trans (between_sublist _ _ _))
    · refine List.Nodup.sublist (thin_sublist _ _ _) ?_
      exact List.nodup_reverse.mpr (distinct.sublist (between_sublist _ _ _))

/-- A range with a step that is not negative visits its positions in increasing order. -/
theorem pairwise_positions (start stop : Option Int) {step : Int} (forward : 0 ≤ step)
    (length : Nat) : (positions start stop step length).Pairwise (· < ·) := by
  have increasing : (List.range length).Pairwise (· < ·) := List.pairwise_lt_range
  simp only [positions, items]
  split
  · exact List.Pairwise.nil
  · next notZero =>
      rw [if_pos (by omega)]
      exact increasing.sublist ((thin_sublist _ _ _).trans (between_sublist _ _ _))

/-! ### The arithmetic of ranges -/

/-- The position at which a range begins. -/
def first (start : Option Int) (step : Int) (length : Nat) : Int :=
  if 0 < step then (start.map (clamp length 0 length)).getD 0
  else (start.map (clamp length (-1) (length - 1))).getD (length - 1)

/-- The position that a range stops before. -/
def limit (stop : Option Int) (step : Int) (length : Nat) : Int :=
  if 0 < step then (stop.map (clamp length 0 length)).getD length
  else (stop.map (clamp length (-1) (length - 1))).getD (-1)

/-- The range comes to the position after some number of steps and has not passed its limit. -/
def Visits (start stop : Option Int) (step : Int) (length position : Nat) : Prop :=
  ∃ count : Nat, (position : Int) = first start step length + count * step ∧
    ((0 < step ∧ position < limit stop step length) ∨
      (step < 0 ∧ limit stop step length < position))

theorem clamp_bounds {low high : Int} (sound : low ≤ high) (length : Nat) (position : Int) :
    low ≤ clamp length low high position ∧ clamp length low high position ≤ high := by
  rw [clamp]
  omega

/-- With a positive step a range begins and stops within the list or right behind it. -/
theorem bounds_of_pos {step : Int} (forward : 0 < step) (bound : Option Int) (length : Nat) :
    (0 ≤ first bound step length ∧ first bound step length ≤ length) ∧
      0 ≤ limit bound step length ∧ limit bound step length ≤ length := by
  have within := clamp_bounds (show (0 : Int) ≤ length by omega) length
  rw [first, limit, if_pos forward, if_pos forward]
  cases bound with
  | none => simp
  | some position => exact ⟨within position, within position⟩

/-- With a negative step a range begins and stops within the list or right in front of it. -/
theorem bounds_of_neg {step : Int} (backward : ¬0 < step) (bound : Option Int) (length : Nat) :
    (-1 ≤ first bound step length ∧ first bound step length ≤ length - 1) ∧
      -1 ≤ limit bound step length ∧ limit bound step length ≤ length - 1 := by
  have within := clamp_bounds (show (-1 : Int) ≤ length - 1 by omega) length
  rw [first, limit, if_neg backward, if_neg backward]
  cases bound with
  | none =>
      simp only [Option.map_none, Option.getD_none]
      omega
  | some position => exact ⟨within position, within position⟩

/-- Thinning keeps the items at equal distances, in their order. -/
theorem getElem?_thin (gap wait : Nat) (list : List α) (count : Nat) :
    (thin gap wait list)[count]? = list[wait + count * (gap + 1)]? := by
  induction list generalizing wait count with
  | nil => cases wait <;> simp [thin]
  | cons y rest ih =>
      cases wait with
      | zero =>
          rw [thin]
          cases count with
          | zero => simp
          | succ count =>
              have later : 0 + (count + 1) * (gap + 1) = gap + count * (gap + 1) + 1 := by ring
              rw [List.getElem?_cons_succ, ih, later, List.getElem?_cons_succ]
      | succ wait =>
          have later : wait + 1 + count * (gap + 1) = wait + count * (gap + 1) + 1 := by ring
          rw [thin, ih, later, List.getElem?_cons_succ]

/-- A cut out of the positions is a run of positions. -/
theorem between_range {start stop : Int} {length : Nat} (inside : stop ≤ length) :
    between start stop (List.range length) =
      List.range' start.toNat (stop.toNat - start.toNat) := by
  apply List.ext_getElem?
  intro index
  rw [between, List.getElem?_drop, List.getElem?_take]
  by_cases before : start.toNat + index < stop.toNat
  · rw [if_pos before, List.getElem?_range (by omega), List.getElem?_range' (by omega), one_mul]
  · rw [if_neg before, List.getElem?_eq_none (by rw [List.length_range']; omega)]

theorem positions_of_pos (start stop : Option Int) {step : Int} (forward : 0 < step)
    (length : Nat) :
    positions start stop step length =
      thin (step - 1).toNat 0
        (List.range' (first start step length).toNat
          ((limit stop step length).toNat - (first start step length).toNat)) := by
  rw [← between_range (bounds_of_pos forward stop length).2.2, positions, items, first, limit,
    if_neg (by omega), if_pos forward, if_pos forward, if_pos forward, List.length_range]

theorem positions_of_neg (start stop : Option Int) {step : Int} (backward : step < 0)
    (length : Nat) :
    positions start stop step length =
      thin (-step - 1).toNat 0
        (List.range' (limit stop step length + 1).toNat
          ((first start step length + 1).toNat - (limit stop step length + 1).toNat)).reverse := by
  have notForward : ¬0 < step := by omega
  have within : first start step length + 1 ≤ length := by
    have upper := (bounds_of_neg notForward start length).1.2
    omega
  rw [← between_range within, positions, items, first, limit,
    if_neg (by omega), if_neg notForward, if_neg notForward, if_neg notForward, List.length_range]

theorem getElem?_run {start length index position : Nat} :
    (List.range' start length)[index]? = some position ↔
      index < length ∧ position = start + index := by
  by_cases inside : index < length
  · rw [List.getElem?_range' inside, one_mul, Option.some.injEq]
    simp [inside, eq_comm]
  · rw [List.getElem?_eq_none (by rw [List.length_range']; omega)]
    simp [inside]

theorem getElem?_run_reverse {start length index position : Nat} :
    (List.range' start length).reverse[index]? = some position ↔
      index < length ∧ position + index + 1 = start + length := by
  by_cases inside : index < length
  · rw [List.getElem?_reverse (by rwa [List.length_range']), List.length_range', getElem?_run]
    omega
  · rw [List.getElem?_eq_none (by rw [List.length_reverse, List.length_range']; omega)]
    simp [inside]

/-- After some number of steps a range visits the position that it has come to, unless it has passed
its limit. -/
theorem getElem?_positions {start stop : Option Int} {step : Int} {length count position : Nat} :
    (positions start stop step length)[count]? = some position ↔
      (position : Int) = first start step length + count * step ∧
        ((0 < step ∧ position < limit stop step length) ∨
          (step < 0 ∧ limit stop step length < position)) := by
  rcases lt_trichotomy step 0 with backward | rfl | forward
  · have notForward : ¬0 < step := by omega
    obtain ⟨⟨firstLow, -⟩, -⟩ := bounds_of_neg notForward start length
    obtain ⟨-, limitLow, -⟩ := bounds_of_neg notForward stop length
    rw [positions_of_neg start stop backward, getElem?_thin]
    -- The distance from the first position, as a number of places and as a number of steps.
    have distance : ((count * ((-step - 1).toNat + 1) : Nat) : Int) = -(count * step) := by
      push_cast
      rw [Int.toNat_of_nonneg (by omega)]
      ring
    rw [getElem?_run_reverse]
    omega
  · rw [positions, items, if_pos rfl]
    simp
  · obtain ⟨⟨firstLow, -⟩, -⟩ := bounds_of_pos forward start length
    obtain ⟨-, limitLow, -⟩ := bounds_of_pos forward stop length
    rw [positions_of_pos start stop forward, getElem?_thin]
    have distance : ((count * ((step - 1).toNat + 1) : Nat) : Int) = count * step := by
      push_cast
      rw [Int.toNat_of_nonneg (by omega)]
      ring
    rw [getElem?_run]
    omega

/-- The positions of a range are those that it comes to before it passes its limit. -/
theorem mem_positions {start stop : Option Int} {step : Int} {length position : Nat} :
    position ∈ positions start stop step length ↔ Visits start stop step length position := by
  rw [List.mem_iff_getElem?, Visits]
  exact exists_congr fun count => getElem?_positions

/-- A range visits positions of the list only. -/
theorem lt_of_mem_positions {start stop : Option Int} {step : Int} {length position : Nat}
    (member : position ∈ positions start stop step length) : position < length := by
  have found : (positions start stop step length).map some =
      (positions start stop step length).map fun place => (List.range length)[place]? := by
    have places := map_some_items start stop step (List.range length)
    rwa [List.length_range] at places
  have there := (List.map_inj_left.mp found) position member
  by_contra outside
  rw [List.getElem?_eq_none (by rw [List.length_range]; omega)] at there
  cases there

/-! ### Single positions -/

/-- The place in a list of given length that a position stands for, negative ones from the end. -/
def IsItem (position : Int) (length index : Nat) : Prop :=
  index < length ∧ (index : Int) = if position < 0 then length + position else position

/-- The item at a position is the one at the place that the position stands for. -/
theorem itemAt?_eq_some_iff {position : Int} {list : List α} {x : α} :
    itemAt? position list = some x ↔
      ∃ index, IsItem position list.length index ∧ list[index]? = some x := by
  simp only [itemAt?, IsItem]
  generalize (if position < 0 then (list.length : Int) + position else position) = place
  by_cases outside : place < 0
  · rw [if_pos outside]
    refine ⟨fun found => (by cases found), ?_⟩
    rintro ⟨index, ⟨-, isItem⟩, -⟩
    omega
  · rw [if_neg outside]
    constructor
    · intro found
      have bound := (List.getElem?_eq_some_iff.mp found).1
      exact ⟨_, ⟨bound, Int.toNat_of_nonneg (by omega)⟩, found⟩
    · rintro ⟨index, ⟨-, rfl⟩, found⟩
      rw [Int.toNat_natCast]
      exact found

/-- The place that a position stands for in a list of a given length. -/
def place? (position : Int) (length : Nat) : Option Nat := itemAt? position (List.range length)

theorem place?_eq_some_iff {position : Int} {length index : Nat} :
    place? position length = some index ↔ IsItem position length index := by
  rw [place?, itemAt?_eq_some_iff, List.length_range]
  constructor
  · rintro ⟨other, isItem, found⟩
    rw [List.getElem?_range isItem.1, Option.some.injEq] at found
    exact found ▸ isItem
  · intro isItem
    exact ⟨index, isItem, List.getElem?_range isItem.1⟩

/-- The item at a position is the one at its place. -/
theorem itemAt?_eq_bind (position : Int) (list : List α) :
    itemAt? position list = (place? position list.length).bind fun index => list[index]? := by
  apply Option.ext
  intro x
  rw [itemAt?_eq_some_iff, Option.bind_eq_some_iff]
  simp only [place?_eq_some_iff]

end WaitFor.Slice
