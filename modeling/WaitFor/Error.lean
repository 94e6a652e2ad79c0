/-
Module: WaitFor.Error
Purpose: Why a wait cannot be set up or decided.
Main exports: WaitError, WaitError.message, WaitError.isTerminal
-/
import WaitFor.Path.Fault
import WaitFor.Resource.FetchError
import WaitFor.Text.Quoted

namespace WaitFor

/-- The causes for which a condition is refused or an evaluation gives no verdict. -/
inductive WaitError where
  /-- The path of a condition is empty. -/
  | emptyExpression
  /-- The path is refused; the expression is the path as it was given. -/
  | badPath (expression : String) (fault : Fault)
  /-- The expected value of a path condition is empty. -/
  | emptyCondition
  /-- A path condition is not made of one path and one value. -/
  | malformedPathCondition
  /-- The text is no condition of any kind. -/
  | unrecognized (raw : String)
  /-- The path selects nothing at present. -/
  | noMatch (path : String)
  | fetch (error : FetchError)
  /-- There is nothing to wait for. -/
  | noMatchingResources
deriving Repr, DecidableEq, Inhabited

namespace WaitError

/-- The wording of an error. -/
def message : WaitError → String
  | emptyExpression => "jsonpath expression cannot be empty"
  | badPath _ fault => fault.message
  | emptyCondition => "jsonpath wait condition cannot be empty"
  | malformedPathCondition =>
    "jsonpath wait format must be --for=jsonpath='\x7b.status.readyReplicas\x7d'=3"
  | unrecognized raw => "unrecognized condition: " ++ Text.quote raw
  | noMatch path => path ++ " did not match any value"
  | fetch error => error.message
  | noMatchingResources => "no matching resources found"

/-- Whether waiting longer is of no use.  A path that selects nothing may do so later. -/
def isTerminal : WaitError → Bool
  | noMatch _ => false
  | _ => true

end WaitError

end WaitFor
