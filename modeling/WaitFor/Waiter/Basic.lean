/-
Module: WaitFor.Waiter.Basic
Purpose: Deciding a condition for one resource, and choosing the resources to wait for.
Main exports: Waiter, Evaluation, Verdict, Waiter.ofCondition, Waiter.ofText, Waiter.evaluate,
  Waiter.collect
-/
import WaitFor.Condition.Classify
import WaitFor.Resource.Basic
import WaitFor.Resource.StatusCondition

namespace WaitFor

/-!
A waiter holds no state between evaluations.  An evaluation fetches the resource once and gives,
beside its outcome, at most one note for a person who follows the wait.
-/

/-- A condition with what is needed to decide it. -/
structure Waiter where
  condition : Condition
  /-- Errors that any of these accepts are dropped when resources are chosen. -/
  ignored : List (FetchError → Bool)
  allowNoResources : Bool
  /-- Reads the named conditions of a serialized resource. -/
  conditionsOf : Json → List StatusCondition

/-- What one evaluation decided, and the object that it looked at. -/
structure Evaluation where
  object : Option Json
  done : Bool
deriving Inhabited

/-- The outcome of one evaluation with its note. -/
structure Verdict where
  outcome : Except WaitError Evaluation
  note : Option String

/-- A way to fetch the current object of a resource. -/
abbrev Getter := Resource → Except FetchError Json

namespace Waiter

/-- The waiter for a condition.  While one waits for a deletion, absence is no failure. -/
def ofCondition (condition : Condition) (allowNoResources : Bool) : Waiter :=
  let ignored := match condition with
    | .deletion => [FetchError.isNotFound]
    | _ => []
  ⟨condition, ignored, allowNoResources, StatusCondition.ofObject⟩

/-- The waiter for the text of a condition. -/
def ofText (raw : String) (allowNoResources : Bool) : Except WaitError Waiter :=
  (Condition.classify raw).map fun condition => ofCondition condition allowNoResources

/-- Also drops the errors that a predicate accepts. -/
def ignoring (waiter : Waiter) (accepts : FetchError → Bool) : Waiter :=
  { waiter with ignored := waiter.ignored ++ [accepts] }

/-- Whether an error is dropped when resources are chosen. -/
def isIgnored (waiter : Waiter) (error : FetchError) : Bool :=
  waiter.ignored.any fun accepts => accepts error

/-- The resources among the results of a search, or the first error that is not ignored. -/
def found (waiter : Waiter) :
    List (Except FetchError Resource) → Except WaitError (List Resource)
  | [] => .ok []
  | .ok resource :: rest => do
    let resources ← found waiter rest
    .ok (resource :: resources)
  | .error error :: rest =>
    if waiter.isIgnored error then found waiter rest else .error (.fetch error)

/-- The resources to wait for. -/
def collect (waiter : Waiter) (results : List (Except FetchError Resource)) :
    Except WaitError (List Resource) := do
  let resources ← waiter.found results
  if resources.isEmpty && !waiter.allowNoResources then .error .noMatchingResources
  else .ok resources

/-- A verdict on a fetched object, noted if the condition holds. -/
def verdict (resource : Resource) (object : Json) (met : Bool) : Verdict :=
  ⟨.ok ⟨some object, met⟩, if met then some (resource.label ++ " condition met") else none⟩

/-- Decides the condition for an object that was fetched. -/
def judge (waiter : Waiter) (resource : Resource) (object : Json) : Verdict :=
  match waiter.condition with
  | .deletion => ⟨.ok ⟨some object, false⟩, none⟩
  | .named name value =>
    verdict resource object ((waiter.conditionsOf object).any fun entry =>
      entry.name == name && entry.status == value)
  | .query path value =>
    match path.first? object with
    | none =>
      ⟨.error (.noMatch path.source), some (resource.label ++ " has no value at " ++ path.source)⟩
    | some first => verdict resource object (first.plainText == value)

/-- Decides the condition where the fetch failed: an absent resource is a deleted one. -/
def judgeFailure (waiter : Waiter) (resource : Resource) (error : FetchError) : Verdict :=
  match waiter.condition, error with
  | .deletion, .notFound .. => ⟨.ok ⟨resource.object, true⟩, some (resource.label ++ " deleted")⟩
  | _, _ => ⟨.error (.fetch error), none⟩

/-- Decides the condition for the current state of a resource. -/
def evaluate (waiter : Waiter) (resource : Resource) (getter : Getter) : Verdict :=
  match getter resource with
  | .ok object => waiter.judge resource object
  | .error error => waiter.judgeFailure resource error

/-- The outline of a waiter. -/
def outline (waiter : Waiter) : Outline :=
  .record "Waiter" [("condition", waiter.condition.outline),
    ("ignore_error_fns", .leaf (toString waiter.ignored.length)),
    ("allow_no_resources", .leaf (toString waiter.allowNoResources))]

end Waiter

end WaitFor
