/-
Module: WaitFor.Path.Shorthand
Purpose: The short forms of a path and the one canonical form that they stand for.
Main exports: Shorthand.relax
-/
import WaitFor.Error

namespace WaitFor.Shorthand

/-!
A path may be written with or without braces and with or without a dot in front of its first field.
All four spellings of the fields `f` stand for the canonical form, a dot and `f` in braces.
-/

/-- The text inside one pair of braces around a whole text. -/
def insideBraces? : List Char → Option (List Char)
  | '{' :: rest => if rest.getLast? = some '}' then some rest.dropLast else none
  | _ => none

/-- The text without a dot in front.  A lone dot stays. -/
def dropDot : List Char → List Char
  | '.' :: c :: rest => c :: rest
  | text => text

/-- Whether a text holds a brace. -/
def hasBrace (text : List Char) : Bool := text.any fun c => c == '{' || c == '}'

/-- The fields that a path names, in any of its spellings. -/
def fields (path : List Char) : List Char := dropDot ((insideBraces? path).getD path)

/-- The canonical form of given fields. -/
def canonical (fields : List Char) : String := String.ofList ('{' :: '.' :: (fields ++ ['}']))

/-- The canonical form of a path.  The empty text stays empty; other texts without fields, and
those with further braces, are no paths. -/
def relax (path : String) : Except WaitError String :=
  if path.isEmpty then .ok "" else
  let fields := fields path.toList
  if fields.isEmpty || hasBrace fields then .error (.badPath path .notAPath)
  else .ok (canonical fields)

end WaitFor.Shorthand
