/-
Module: WaitFor.Condition.Classify
Purpose: Reading the text of a wait condition.
Main exports: Condition.normalize, Condition.classify
-/
import WaitFor.Condition.Basic
import WaitFor.Text.LetterCase
import WaitFor.Text.Parts

namespace WaitFor.Condition

/-!
A condition is a text with the lower-case form `delete`, `condition=` with a name and perhaps a
value behind a further `=`, or `jsonpath=` with a path and a value, neither of which holds an `=`.
-/

/-- The text without one quote character at each of its ends that has one. -/
def trimQuotes (value : List Char) : List Char :=
  let value := match value with
    | first :: rest => if Reader.isQuote first then rest else first :: rest
    | [] => []
  match value.getLast? with
  | some last => if Reader.isQuote last then value.dropLast else value
  | none => value

/-- The canonical path and the unquoted value of a path condition. -/
def normalize (path value : String) : Except WaitError (String × String) := do
  let path ← Shorthand.relax path
  if value.isEmpty then .error .emptyCondition
  else .ok (path, String.ofList (trimQuotes value.toList))

/-- Compiles the path of a condition.  It is compiled in its canonical form, and a fault is
reported against the path as it was given. -/
def compilePath (given canonical : String) : Except WaitError Path :=
  match Path.compile canonical with
  | .ok path => .ok path
  | .error (.badPath _ fault) => .error (.badPath given fault)
  | .error error => .error error

/-- The named condition that a text behind `condition=` writes. -/
def namedOf (text : List Char) : Condition :=
  match Text.cutAt? '=' text with
  | some (name, value) => .named (String.ofList name) (String.ofList value)
  | none => .named (String.ofList text) defaultValue

/-- The path condition that a text behind `jsonpath=` writes. -/
def pathOf (text : List Char) : Except WaitError Condition :=
  match Text.splitAtEach '=' text with
  | [given, value] => do
    let given := String.ofList given
    let (canonical, value) ← normalize given (String.ofList value)
    let path ← compilePath given canonical
    .ok (.query path value)
  | _ => .error .malformedPathCondition

/-- Reads a condition. -/
def classify (raw : String) : Except WaitError Condition :=
  if Text.lowercase raw = "delete" then .ok .deletion
  else match "condition=".toList.isPrefixOf? raw.toList with
    | some text => .ok (namedOf text)
    | none =>
      match "jsonpath=".toList.isPrefixOf? raw.toList with
      | some text => pathOf text
      | none => .error (.unrecognized raw)

end WaitFor.Condition
