/-
Module: WaitFor.Proofs.Path.SliceRange
Purpose: The positions that a slice or an index selects, as an arithmetic progression in words.
Main exports:
  Slice.begins, Slice.ends, Slice.IsRange, Slice.isRange_positions, Slice.Countdown,
  Slice.countdown_of_isRange, Slice.toList_itemAt?, Selector.select_slice_range
-/
import Mathlib
import WaitFor.Path.Find
import WaitFor.Proofs.Path.SlicePositions
import WaitFor.Proofs.Path.Spelling

namespace WaitFor

namespace Slice

/-! ### Ranges as progressions

A range goes from a first position by equal steps and stops before a limit.  A bound that is given
counts from the end if it is negative.  A bound that then lies outside is moved to the nearest place
that the direction allows, which is one behind the last item for a range forward and one before the
first item for a range backward.
-/

/-- The place of a given bound. -/
def adjusted (bound step : Int) (length : Nat) : Int :=
  if bound < 0 then
    if bound + length < 0 then if step < 0 then -1 else 0
    else bound + length
  else if (length : Int) ≤ bound then if step < 0 then length - 1 else length
  else bound

/-- Where a range begins; without a bound, at the end of the list that it moves away from. -/
def begins (start : Option Int) (step : Int) (length : Nat) : Int :=
  match start with
  | some bound => adjusted bound step length
  | none => if step < 0 then length - 1 else 0

/-- Where a range ends, this place left out; without a bound, with the last item in its direction. -/
def ends (stop : Option Int) (step : Int) (length : Nat) : Int :=
  match stop with
  | some bound => adjusted bound step length
  | none => if step < 0 then -1 else length

/-- The list holds, one after the other, the places that are reached from `start` by a number of
steps and lie before `stop` in the direction of the step. -/
def IsRange (start stop step : Int) (visited : List Int) : Prop :=
  ∀ (count : Nat) (place : Int), visited[count]? = some place ↔
    place = start + count * step ∧ ((0 < step ∧ place < stop) ∨ (step < 0 ∧ stop < place))

/-- There is only one list of these places. -/
theorem IsRange.unique {start stop step : Int} {one two : List Int}
    (first : IsRange start stop step one) (second : IsRange start stop step two) : one = two := by
  apply List.ext_getElem?
  intro count
  apply Option.ext
  intro place
  rw [first, second]

theorem begins_eq_first {step : Int} (moves : step ≠ 0) (start : Option Int) (length : Nat) :
    begins start step length = first start step length := by
  rw [begins.eq_def, first]
  split
  · simp only [Option.map_some, Option.getD_some, adjusted, clamp]
    omega
  · simp only [Option.map_none, Option.getD_none]
    omega

theorem ends_eq_limit {step : Int} (moves : step ≠ 0) (stop : Option Int) (length : Nat) :
    ends stop step length = limit stop step length := by
  rw [ends.eq_def, limit]
  split
  · simp only [Option.map_some, Option.getD_some, adjusted, clamp]
    omega
  · simp only [Option.map_none, Option.getD_none]
    omega

/-- The positions that a range visits are the places of its progression. -/
theorem isRange_positions (start stop : Option Int) (step : Int) (length : Nat) :
    IsRange (begins start step length) (ends stop step length) step
      ((positions start stop step length).map fun position : Nat => (position : Int)) := by
  intro count place
  rw [List.getElem?_map, Option.map_eq_some_iff]
  by_cases moves : step = 0
  · subst moves
    simp [getElem?_positions]
  · rw [begins_eq_first moves, ends_eq_limit moves]
    constructor
    · rintro ⟨position, visited, rfl⟩
      exact getElem?_positions.mp visited
    · rintro ⟨reached, inside⟩
      -- A place on the way is not in front of the list, whichever way the range goes.
      have within : 0 ≤ place := by
        rcases inside with ⟨forward, -⟩ | ⟨backward, behind⟩
        · have low := (bounds_of_pos forward start length).1.1
          have travelled : 0 ≤ (count : Int) * step :=
            Int.mul_nonneg (Int.natCast_nonneg count) forward.le
          omega
        · have low := (bounds_of_neg (show ¬0 < step by omega) stop length).2.1
          omega
      refine ⟨place.toNat, ?_, Int.toNat_of_nonneg within⟩
      rw [getElem?_positions, Int.toNat_of_nonneg within]
      exact ⟨reached, inside⟩

/-! ### Backward in words -/

/-- A loop that goes backward: while its place has not come to the limit, it visits the place and
adds the negative step to it.  Each sum is a word, and the list of the visited places is finite. -/
inductive Countdown (limit step : Int) : Int → List Int → Prop where
  | stop {place : Int} (passed : ¬limit < place) : Countdown limit step place []
  | visit {place : Int} {rest : List Int} (ahead : limit < place)
      (fits : SignedWord (place + step)) (more : Countdown limit step (place + step) rest) :
      Countdown limit step place (place :: rest)

theorem IsRange.cons {start stop step place : Int} {rest : List Int}
    (range : IsRange start stop step (place :: rest)) :
    place = start ∧ IsRange (start + step) stop step rest := by
  have front := (range 0 place).mp rfl
  refine ⟨by simpa using front.1, fun count next => ?_⟩
  have later := range (count + 1) next
  rw [List.getElem?_cons_succ] at later
  have reached : start + ((count + 1 : Nat) : Int) * step = start + step + count * step := by
    push_cast
    ring
  rw [later, reached]

/-- The loop visits the places of a range backward, and no sum leaves the words: a place that is
visited is not negative, and the step is a word. -/
theorem countdown_of_isRange {limit step : Int} (backward : step < 0) (word : SignedWord step)
    (low : -1 ≤ limit) {visited : List Int} {place : Int} (high : place ≤ greatestSigned)
    (range : IsRange place limit step visited) : Countdown limit step place visited := by
  induction visited generalizing place with
  | nil =>
      refine .stop fun ahead => ?_
      have front := (range 0 place).mpr ⟨by simp, Or.inr ⟨backward, ahead⟩⟩
      cases front
  | cons first rest ih =>
      obtain ⟨-, inside⟩ := (range 0 first).mp rfl
      obtain ⟨rfl, more⟩ := range.cons
      have ahead : limit < first := by omega
      obtain ⟨least, -⟩ := word
      exact .visit ahead ⟨by omega, by omega⟩ (ih (by omega) more)

/-! ### Indices as ranges -/

theorem getElem?_toList {α : Type} (option : Option α) (count : Nat) (x : α) :
    option.toList[count]? = some x ↔ count = 0 ∧ option = some x := by
  cases option <;> cases count <;> simp

/-- The positions of a range forward that holds at most the place of one position. -/
theorem positions_of_single {position : Int} {stop : Option Int} {length : Nat}
    (single : ∀ count place : Nat,
      ((place : Int) = first (some position) 1 length + count ∧ place < limit stop 1 length) ↔
        count = 0 ∧ IsItem position length place) :
    positions (some position) stop 1 length = (place? position length).toList := by
  apply List.ext_getElem?
  intro count
  apply Option.ext
  intro place
  rw [getElem?_positions, getElem?_toList, place?_eq_some_iff, ← single]
  simp

/-- Selecting one position is selecting the range of one item from there, where there is one; for
the last position that is the range without a limit. -/
theorem toList_itemAt? {α : Type} {position : Int} {stop : Option Int} (list : List α)
    (isNext : stop = if position = -1 then none else some (position + 1)) :
    (itemAt? position list).toList = items (some position) stop 1 list := by
  have single : positions (some position) stop 1 list.length =
      (place? position list.length).toList := by
    refine positions_of_single fun count place => ?_
    subst isNext
    by_cases isLast : position = -1
    · subst isLast
      simp only [first, limit, IsItem, clamp, Option.map_some, Option.map_none, Option.getD_some,
        Option.getD_none, if_true, zero_lt_one]
      omega
    · simp only [first, limit, IsItem, clamp, Option.map_some, Option.getD_some, isLast,
        if_false, zero_lt_one, if_true]
      omega
  rw [items_eq_filterMap, single, itemAt?_eq_bind]
  cases place? position list.length with
  | none => rfl
  | some place => cases found : list[place]? <;> simp [found]

end Slice

namespace Selector

/-- An index selects what the slice from its position to the next one selects, and the last position
what the slice from there without an end selects. -/
theorem select_index_eq_slice {position : Int} {stop : Option Int}
    (isNext : stop = if position = -1 then none else some (position + 1)) (value : Json) :
    select (.index position) value = select (.slice (some position) stop none) value := by
  cases value with
  | array items => exact Slice.toList_itemAt? items isNext
  | _ => rfl

/-- A slice selects the items at exactly the places of its range, in this order, and all of them are
places of the array; an absent step is one, and a step of zero selects nothing.  In words no sum is
lost on the way: neither that of a negative bound or index and the length, nor those of the loop that
runs a range backward, which comes to its end.  An index is a slice of one item. -/
theorem select_slice_range (start stop step : Option Int) (items : List Json) :
    (∃ visited : List Int,
      Slice.IsRange (Slice.begins start (step.getD 1) items.length)
        (Slice.ends stop (step.getD 1) items.length) (step.getD 1) visited ∧
      (select (.slice start stop step) (.array items)).map some =
        visited.map (fun place => items[place.toNat]?) ∧
      (∀ place ∈ visited, 0 ≤ place ∧ place < items.length) ∧
      (step.getD 1 < 0 → SignedWord (step.getD 1) → SignedWord items.length →
        Slice.Countdown (Slice.ends stop (step.getD 1) items.length) (step.getD 1)
          (Slice.begins start (step.getD 1) items.length) visited)) ∧
    (step = some 0 → select (.slice start stop step) (.array items) = []) ∧
    (SignedWord items.length → ∀ bound < 0, SignedWord bound → SignedWord (bound + items.length)) ∧
    (∀ position ≠ -1, ∀ value,
      select (.index position) value =
        select (.slice (some position) (some (position + 1)) none) value) ∧
    ∀ value, select (.index (-1)) value = select (.slice (some (-1)) none none) value := by
  have range := Slice.isRange_positions start stop (step.getD 1) items.length
  refine ⟨⟨_, range, ?_, ?_, ?_⟩, ?_, ?_, ?_, fun value => select_index_eq_slice rfl value⟩
  · rw [select, Slice.map_some_items, List.map_map]
    rfl
  · intro place member
    obtain ⟨position, visited, rfl⟩ := List.mem_map.mp member
    have inside := Slice.lt_of_mem_positions visited
    omega
  · intro backward word length
    obtain ⟨-, greatest⟩ := length
    have low := (Slice.bounds_of_neg (show ¬0 < step.getD 1 by omega) stop items.length).2.1
    have high := (Slice.bounds_of_neg (show ¬0 < step.getD 1 by omega) start items.length).1.2
    rw [← Slice.ends_eq_limit (by omega)] at low
    rw [← Slice.begins_eq_first (by omega)] at high
    exact Slice.countdown_of_isRange backward word low (by omega) range
  · rintro rfl
    rw [select, Option.getD_some, Slice.items, if_pos rfl]
  · intro length bound negative word
    obtain ⟨least, -⟩ := word
    obtain ⟨-, greatest⟩ := length
    exact ⟨by omega, by omega⟩
  · intro position notLast value
    exact select_index_eq_slice (by rw [if_neg notLast]) value

/-- The least step from behind the end of three items visits the last of them, and the sum that ends
the loop is a word. -/
theorem select_slice_range_of_least :
    leastSigned < 0 ∧ SignedWord leastSigned ∧ SignedWord (3 : Nat) ∧
      ∃ visited : List Int,
        Slice.Countdown (-1) leastSigned 2 visited ∧
        [some (Json.string "c")] =
          visited.map (fun place => [Json.string "a", .string "b", .string "c"][place.toNat]?) := by
  have negative : leastSigned < 0 := by decide
  have word : SignedWord leastSigned := ⟨by decide, by decide⟩
  have three : SignedWord (3 : Nat) := ⟨by decide, by decide⟩
  obtain ⟨⟨visited, -, found, -, loop⟩, -⟩ := select_slice_range (some greatestSigned) none
    (some leastSigned) [.string "a", .string "b", .string "c"]
  exact ⟨negative, word, three, visited, loop negative word three, found⟩

end Selector

end WaitFor
