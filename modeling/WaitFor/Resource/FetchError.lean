/-
Module: WaitFor.Resource.FetchError
Purpose: Why a resource could not be fetched.
Main exports: FetchError, FetchError.message, FetchError.isNotFound, FetchError.isForbidden
-/

namespace WaitFor

/-- The causes for which a resource could not be fetched or found. -/
inductive FetchError where
  /-- There is no such resource, or no longer. -/
  | notFound (kind name : String)
  | forbidden (reason : String)
  | other (reason : String)
deriving Repr, DecidableEq, Inhabited

namespace FetchError

/-- The wording of a fetch error. -/
def message : FetchError → String
  | notFound kind name => s!"{kind} \"{name}\" not found"
  | forbidden reason => "forbidden: " ++ reason
  | other reason => reason

def isNotFound : FetchError → Bool
  | notFound .. => true
  | _ => false

def isForbidden : FetchError → Bool
  | forbidden _ => true
  | _ => false

end FetchError

end WaitFor
