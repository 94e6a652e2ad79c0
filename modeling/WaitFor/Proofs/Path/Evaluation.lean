/-
Module: WaitFor.Proofs.Path.Evaluation
Purpose: Running a chain value by value and selector by selector, and what a filter leaves out.
Main exports:
  Chain.advance_cons, Chain.advance_eq_flatMap, Chain.find_nil, Chain.find_cons,
  Chain.holds_present, Chain.find_filter, Chain.find_behind_present
-/
import Mathlib
import WaitFor.Path.Find

namespace WaitFor.Chain

/-- A chain that is run on nothing reaches nothing. -/
theorem advance_nothing (chain : Chain) : advance chain [] = [] := by
  cases chain with
  | nil => rw [advance]
  | cons selector rest => rw [advance, List.flatMap_nil]

/-- Ending early where nothing is left to run on does not change what is reached. -/
theorem advance_cons (selector : Selector) (rest : Chain) (values : List Json) :
    advance (selector :: rest) values = advance rest (values.flatMap selector.select) := by
  rw [advance]
  split
  · next nothing => rw [nothing, advance_nothing]
  · rfl

/-- A chain is run on each value by itself. -/
theorem advance_eq_flatMap (chain : Chain) (values : List Json) :
    advance chain values = values.flatMap (find chain) := by
  induction chain generalizing values with
  | nil =>
      have single : find [] = fun value => [value] := by
        funext value
        rw [find, advance]
      rw [advance, single, List.flatMap_singleton']
  | cons selector rest ih =>
      have step : find (selector :: rest) = fun value =>
          (selector.select value).flatMap (find rest) := by
        funext value
        rw [find, advance_cons, List.flatMap_singleton, ih]
      rw [advance_cons, ih, step, List.flatMap_assoc]

theorem find_nil (value : Json) : find [] value = [value] := by
  rw [find, advance]

/-- The rest of a chain is run on each value that its first selector reaches. -/
theorem find_cons (selector : Selector) (rest : Chain) (value : Json) :
    find (selector :: rest) value = (selector.select value).flatMap (find rest) := by
  rw [find, advance_cons, List.flatMap_singleton, advance_eq_flatMap]

/-! ### Filters -/

theorem holds_present {path : Chain} {child : Json} :
    (Test.present path).holds child = true ↔ find path child ≠ [] := by
  rw [Test.holds, ← find]
  simp

theorem find_filter (test : Test) (rest : Chain) (value : Json) :
    find (.filter test :: rest) value = (value.children.filter test.holds).flatMap (find rest) := by
  rw [find_cons, Selector.select]

theorem find_wildcard (rest : Chain) (value : Json) :
    find (.wildcard :: rest) value = value.children.flatMap (find rest) := by
  rw [find_cons, Selector.select]

/-- A filter changes nothing if it leaves out only children from which the rest finds nothing. -/
theorem find_filter_of_passing {test : Test} {rest : Chain} {value : Json}
    (passing : ∀ child ∈ value.children, find rest child ≠ [] → test.holds child = true) :
    find (.filter test :: rest) value = find (.wildcard :: rest) value := by
  rw [find_filter, find_wildcard]
  generalize value.children = children at passing
  induction children with
  | nil => rfl
  | cons child others ih =>
      rw [List.forall_mem_cons] at passing
      rw [List.filter_cons, List.flatMap_cons]
      split
      · rw [List.flatMap_cons, ih passing.2]
      · next fails =>
          rw [not_imp_comm.mp passing.1 fails, List.nil_append, ih passing.2]

/-- A filter for the children from which a path finds something, in front of that path itself,
selects as an asterisk does: the same values in the same order, each as often. -/
theorem find_behind_present (path : Chain) (value : Json) :
    find ([.filter (.present path)] ++ path) value = find ([.wildcard] ++ path) value :=
  find_filter_of_passing fun _ _ found => holds_present.mpr found

end WaitFor.Chain
