/-
Module: WaitFor.Proofs.Path.Composition
Purpose: A chain is run part by part, and to its end or not, with the same result.
Main exports:
  Selector.selectThrough, Test.holdsThrough, Operand.valueThrough?, Chain.runThrough,
  Chain.advance_append, Chain.runThrough_eq, Chain.find_append
-/
import Mathlib
import WaitFor.Proofs.Path.Evaluation

namespace WaitFor

/-!
### Running on after nothing is left

`Chain.advance` ends where nothing is left to run on, and filters run their own chains in the same way.
The functions below are the plain ones: every chain, also one inside a filter, is run through all its
selectors.
-/

mutual

/-- The values that a selector reaches from a value, where filters run their chains to the end. -/
def Selector.selectThrough : Selector → Json → List Json
  | .filter test, value => value.children.filter fun child => test.holdsThrough child
  | selector, value => selector.select value

/-- Whether a child passes a test whose chains are run to the end. -/
def Test.holdsThrough : Test → Json → Bool
  | .present path, child => !(Chain.runThrough path [child]).isEmpty
  | .compare left op right, child =>
    match left.valueThrough? child, right.valueThrough? child with
    | some a, some b => op.accepts (a.order? b)
    | _, _ => false

/-- The value of an operand whose chain is run to the end. -/
def Operand.valueThrough? : Operand → Json → Option Json
  | .current path, child => (Chain.runThrough path [child]).head?
  | .literal value, _ => value.value?

/-- Runs a chain on several values, through all its selectors. -/
def Chain.runThrough : List Selector → List Json → List Json
  | [], values => values
  | selector :: rest, values =>
    Chain.runThrough rest (values.flatMap fun value => selector.selectThrough value)

end

mutual

theorem Selector.selectThrough_eq (selector : Selector) (value : Json) :
    selector.selectThrough value = selector.select value := by
  cases selector with
  | filter test =>
      rw [Selector.selectThrough, Selector.select]
      exact List.filter_congr fun child _ => test.holdsThrough_eq child
  | _ =>
      rw [Selector.selectThrough]
      nofun

theorem Test.holdsThrough_eq (test : Test) (child : Json) :
    test.holdsThrough child = test.holds child := by
  cases test with
  | present path => rw [Test.holdsThrough, Test.holds, Chain.runThrough_eq]
  | compare left op right =>
      rw [Test.holdsThrough, left.valueThrough?_eq, right.valueThrough?_eq]
      exact (Test.holds.eq_2 child left op right).symm

theorem Operand.valueThrough?_eq (side : Operand) (child : Json) :
    side.valueThrough? child = side.value? child := by
  cases side with
  | current path => rw [Operand.valueThrough?, Operand.value?, Chain.runThrough_eq]
  | literal value => rw [Operand.valueThrough?, Operand.value?]

/-- Ending early changes nothing, neither in a chain nor in the chains inside its filters. -/
theorem Chain.runThrough_eq (chain : List Selector) (values : List Json) :
    Chain.runThrough chain values = Chain.advance chain values := by
  cases chain with
  | nil => rw [Chain.runThrough, Chain.advance]
  | cons selector rest =>
      rw [Chain.runThrough, Chain.advance_cons, Chain.runThrough_eq rest]
      exact congrArg _ (List.flatMap_congr fun value _ => selector.selectThrough_eq value)

end

namespace Chain

/-!
### One chain behind another
-/

/-- What the front of a chain reaches, the rest of it is run on. -/
theorem advance_append (front back : Chain) (values : List Json) :
    advance (front ++ back) values = advance back (advance front values) := by
  induction front generalizing values with
  | nil => rw [List.nil_append, advance]
  | cons selector front ih => rw [List.cons_append, advance_cons, advance_cons, ih]

/-- Two chains behind one another find what the second one finds at each of the values that the first
one finds, in order.  The first value that they find is the first one that the second chain finds at
the earliest of these values at which it finds any.  To end early where nothing is left makes no
difference. -/
theorem find_append (front back : Chain) (value : Json) :
    find (front ++ back) value = (find front value).flatMap (find back) ∧
      (∀ first, first? (front ++ back) value = some first ↔
        ∃ before near after, find front value = before ++ near :: after ∧
          first? back near = some first ∧ ∀ other ∈ before, first? back other = none) ∧
      find front value = runThrough front [value] := by
  have behind : find (front ++ back) value = (find front value).flatMap (find back) := by
    rw [find, advance_append, ← find, advance_eq_flatMap]
  refine ⟨behind, fun first => ?_, ?_⟩
  · rw [first?, behind, List.head?_flatMap]
    exact List.findSome?_eq_some_iff
  · rw [runThrough_eq, find]

end Chain

end WaitFor
