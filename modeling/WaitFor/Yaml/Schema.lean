/-
Module: WaitFor.Yaml.Schema
Purpose: The values that scalars stand for.
Main exports: Yaml.integer?, Yaml.float?, Yaml.plainValue?, Yaml.scalarValue?
-/
import WaitFor.Json.Reader
import WaitFor.Yaml.Tag

namespace WaitFor.Yaml

/-- Reads the word for nothing. -/
def null? (text : String) : Option Json :=
  if ["null", "Null", "NULL", "~"].contains text then some .null else none

/-- Reads a truth value. -/
def boolean? (text : String) : Option Json :=
  if ["true", "True", "TRUE"].contains text then some (.boolean true)
  else if ["false", "False", "FALSE"].contains text then some (.boolean false)
  else none

/-- Whether a text is a row of digits that begins with a needless zero. -/
def hasLeadingZero (text : List Char) : Bool :=
  match (splitSign text).2 with
  | '0' :: digit :: rest => (digit :: rest).all Char.isDigit
  | _ => false

/-- Reads one or more digits of a base. -/
def digits? (base : Nat) (text : List Char) : Option Nat := do
  let values ← text.mapM Json.hexValue?
  if values.isEmpty || values.any (base ≤ ·) then none
  else some (values.foldl (fun n digit => base * n + digit) 0)

/-- Reads a natural number: decimal, or in the base that its first two characters name. -/
def natural? (text : List Char) : Option Nat :=
  match text with
  | '0' :: 'x' :: rest => digits? 16 rest
  | '0' :: 'o' :: rest => digits? 8 rest
  | '0' :: 'b' :: rest => digits? 2 rest
  | _ => digits? 10 text

/-- Reads an integer with an optional sign, of any size. -/
def integer? (text : List Char) : Option Int :=
  if hasLeadingZero text then none
  else
    let (negative, body) := splitSign text
    (natural? body).map fun n => if negative then -(n : Int) else n

/-- Integers beyond these bounds are no integers at all; they may still be floating-point
numbers. -/
def integerBounds : Int × Int := (-(Nat.pow 2 127 : Nat), (Nat.pow 2 128 : Nat) - 1)

/-- Reads an integer.  Numbers that no document value holds, but that are within the bounds of
integers, are refused: the inner result is none. -/
def integerValue? (text : List Char) : Option (Option Json) := do
  let z ← integer? text
  if leastSigned ≤ z ∧ z ≤ greatestUnsigned then some (some (.number (.integer z)))
  else if integerBounds.1 ≤ z ∧ z ≤ integerBounds.2 then some none
  else none

/-- The words for infinities and for no number, none of which a document value holds. -/
def notFinite : List String :=
  [".inf", ".Inf", ".INF", "+.inf", "+.Inf", "+.INF", "-.inf", "-.Inf", "-.INF", ".nan", ".NaN",
    ".NAN"]

/-- Reads a floating-point number.  One that is written as a decimal has to be finite; the words for
other numbers give nothing. -/
def float? (text : String) : Option Json :=
  if notFinite.contains text then some .null
  else do
    let x := (← Decimal.read? text.toList).toBinary64
    if x.isFinite then some (.number (.float x)) else none

/-- The value of a plain scalar without a tag. -/
def plainValue? (text : String) : Option Json :=
  if text.isEmpty then some .null
  else
    match null? text <|> boolean? text with
    | some value => some value
    | none =>
      match integerValue? text.toList with
      | some value? => value?
      | none =>
        if hasLeadingZero text.toList then some (.string text)
        else some ((float? text).getD (.string text))

/-- The value of a scalar without a tag. -/
def untaggedValue? (plain : Bool) (text : String) : Option Json :=
  if plain then plainValue? text else some (.string text)

/-- The value of a scalar.  The tags of the core types force a reading, local tags are refused or
do not count, and all other tags make a string. -/
def scalarValue? (tag : Option Tag) (plain : Bool) (text : String) : Option Json :=
  match tag with
  | none => untaggedValue? plain text
  | some tag =>
    if tag = Tag.core "null" then null? text
    else if tag = Tag.core "bool" then boolean? text
    else if tag = Tag.core "int" then (integerValue? text.toList).bind id
    else if tag = Tag.core "float" then float? text
    else if tag.isRefused then none
    else if tag.isLocal then untaggedValue? plain text
    else some (.string text)

end WaitFor.Yaml
