/-
Module: WaitFor.Path.Find
Purpose: The values that a chain of selectors reaches in a document.
Main exports:
  Json.order?, Literal.value?, Selector.select, Test.holds, Operand.value?, Chain.advance,
  Chain.find, Json.plainText
-/
import WaitFor.Json.Printer
import WaitFor.Path.Selector
import WaitFor.Path.Slice

namespace WaitFor

/-!
A chain is run on a list of values at a time: each selector replaces every value by the values that
it reaches from it, in order.  A filter runs chains of its own on one child, so selection, tests and
operands are defined together, by recursion on the chain.
-/

namespace Json

mutual

/-- A value and everything below it, each value before the values inside it. -/
def subtree : Json → List Json
  | array items => array items :: subtreesOfItems items
  | object fields => object fields :: subtreesOfFields fields
  | leaf => [leaf]

def subtreesOfItems : List Json → List Json
  | [] => []
  | item :: rest => subtree item ++ subtreesOfItems rest

def subtreesOfFields : List (String × Json) → List Json
  | [] => []
  | (_, value) :: rest => subtree value ++ subtreesOfFields rest

end

/-- The order of two values: of numbers by their floating-point values, of strings by code point.
Other values are equal or unordered. -/
def order? : Json → Json → Option Ordering
  | number a, number b => a.toBinary64.compare? b.toBinary64
  | string a, string b => some (compare a b)
  | a, b => if a.same b then some .eq else none

/-- A value as it is compared with an expected text: a string as it stands, else its JSON text. -/
def plainText : Json → String
  | string text => text
  | value => value.render

end Json

/-- The value of a literal.  An infinite number is no JSON value. -/
def Literal.value? : Literal → Option Json
  | string text => some (.string text)
  | number value => if value.isFinite then some (.number (.float value)) else none
  | boolean value => some (.boolean value)
  | null => some .null

mutual

/-- The values that one selector reaches from a value, in order. -/
def Selector.select : Selector → Json → List Json
  | .field name, value => (value.field? name).toList
  | .union names, value => names.filterMap fun name => value.field? name
  | .wildcard, value => value.children
  | .index position, value =>
    match value with
    | .array items => (Slice.itemAt? position items).toList
    | _ => []
  | .slice start stop step, value =>
    match value with
    | .array items => Slice.items start stop (step.getD 1) items
    | _ => []
  | .descent, value => value.subtree
  | .filter test, value => value.children.filter fun child => test.holds child

/-- Whether a child passes a test.  A comparison fails if an operand has no value. -/
def Test.holds : Test → Json → Bool
  | .present path, child => !(Chain.advance path [child]).isEmpty
  | .compare left op right, child =>
    match left.value? child, right.value? child with
    | some a, some b => op.accepts (a.order? b)
    | _, _ => false

/-- The value of an operand: of a path, the first value that it selects. -/
def Operand.value? : Operand → Json → Option Json
  | .current path, child => (Chain.advance path [child]).head?
  | .literal value, _ => value.value?

/-- Runs a chain on several values.  It ends early where nothing is left to run on. -/
def Chain.advance : List Selector → List Json → List Json
  | [], values => values
  | selector :: rest, values =>
    match values.flatMap fun value => selector.select value with
    | [] => []
    | next => Chain.advance rest next

end

/-- Every value that a chain selects in a document, in order. -/
def Chain.find (chain : Chain) (document : Json) : List Json := Chain.advance chain [document]

/-- The first value that a chain selects in a document. -/
def Chain.first? (chain : Chain) (document : Json) : Option Json := (chain.find document).head?

end WaitFor
