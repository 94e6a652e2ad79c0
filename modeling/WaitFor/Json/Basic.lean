/-
Module: WaitFor.Json.Basic
Purpose: JSON values.
Main exports: JsonNumber, Json, Json.insert, Json.ofFields, Json.field?, Json.children
-/
import WaitFor.Numeric.Binary64
import WaitFor.Numeric.Decimal

namespace WaitFor

/-- A number in a document.  An integer and a floating-point number are different values even where
they stand for the same quantity. -/
inductive JsonNumber where
  | integer (value : Int)
  | float (value : Binary64)
deriving Repr, DecidableEq, Inhabited

namespace JsonNumber

/-- The floating-point number by which a number is compared. -/
def toBinary64 : JsonNumber → Binary64
  | integer value => Binary64.ofInt value
  | float value => value

/-- Sameness of numbers of one kind; the two floating-point zeros are the same. -/
def same : JsonNumber → JsonNumber → Bool
  | integer a, integer b => a == b
  | float a, float b => a.compare? b == some .eq
  | _, _ => false

end JsonNumber

/-- A JSON value.  The fields of an object stand in increasing order of their names, by code
point, and each name occurs once; `Json.ofFields` builds such objects. -/
inductive Json where
  | null
  | boolean (value : Bool)
  | number (value : JsonNumber)
  | string (text : String)
  | array (items : List Json)
  | object (fields : List (String × Json))
deriving Inhabited

namespace Json

/-- Puts a value under a name in ordered fields, replacing the one that is there. -/
def insert (name : String) (value : Json) : List (String × Json) → List (String × Json)
  | [] => [(name, value)]
  | (other, old) :: rest =>
    if name < other then (name, value) :: (other, old) :: rest
    else if name = other then (name, value) :: rest
    else (other, old) :: insert name value rest

/-- The object of the given fields; of several values under one name the last counts. -/
def ofFields (fields : List (String × Json)) : Json :=
  .object (fields.foldl (fun ordered (name, value) => insert name value ordered) [])

/-- The value under a name, if the value is an object that has one. -/
def field? (name : String) : Json → Option Json
  | object fields => fields.lookup name
  | _ => none

/-- The values directly inside a value, in document order. -/
def children : Json → List Json
  | array items => items
  | object fields => fields.map (·.2)
  | _ => []

/-- The text of a string value. -/
def text? : Json → Option String
  | string text => some text
  | _ => none

/-- The items of an array. -/
def items? : Json → Option (List Json)
  | array items => some items
  | _ => none

mutual

/-- Sameness of values: of numbers as `JsonNumber.same` says, of all else part by part. -/
def same : Json → Json → Bool
  | null, null => true
  | boolean a, boolean b => a == b
  | number a, number b => a.same b
  | string a, string b => a == b
  | array a, array b => sameItems a b
  | object a, object b => sameFields a b
  | _, _ => false

def sameItems : List Json → List Json → Bool
  | [], [] => true
  | a :: as, b :: bs => same a b && sameItems as bs
  | _, _ => false

def sameFields : List (String × Json) → List (String × Json) → Bool
  | [], [] => true
  | (x, a) :: as, (y, b) :: bs => x == y && same a b && sameFields as bs
  | _, _ => false

end

end Json

end WaitFor
