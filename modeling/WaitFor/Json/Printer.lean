/-
Module: WaitFor.Json.Printer
Purpose: The compact text of JSON values.
Main exports: Json.floatLayout, Json.render, JsonNumber.render
-/
import WaitFor.Json.Basic
import WaitFor.Numeric.Shortest

namespace WaitFor

/-- Floating-point numbers in JSON text: positional from `10 ^ -5` and below `10 ^ 16`, else with
a signed exponent; of two equally near shortest forms the even one. -/
def Json.floatLayout : FloatLayout := ⟨.toEven, -5, 15, true⟩

/-- The text of a number. -/
def JsonNumber.render : JsonNumber → String
  | integer value => toString value
  | float value => Json.floatLayout.render value

namespace Json

/-- A character inside a JSON string.  Only the quote, the backslash and the controls below
U+0020 are escaped, five of them by a letter. -/
def escapeChar (c : Char) : List Char :=
  if c = '"' then ['\\', '"']
  else if c = '\\' then ['\\', '\\']
  else if c = '\n' then ['\\', 'n']
  else if c = '\r' then ['\\', 'r']
  else if c = '\t' then ['\\', 't']
  else if c.toNat = 0x8 then ['\\', 'b']
  else if c.toNat = 0xC then ['\\', 'f']
  else if c.toNat < 0x20 then
    ['\\', 'u', '0', '0', Nat.digitChar (c.toNat / 16), Nat.digitChar (c.toNat % 16)]
  else [c]

/-- A JSON string. -/
def renderString (text : String) : String :=
  String.ofList ('"' :: (text.toList.flatMap escapeChar ++ ['"']))

mutual

/-- The text of a value, without spaces, fields in their order. -/
def render : Json → String
  | null => "null"
  | boolean value => if value then "true" else "false"
  | number value => value.render
  | string text => renderString text
  | array items => "[" ++ String.intercalate "," (renderItems items) ++ "]"
  | object fields => "\x7b" ++ String.intercalate "," (renderFields fields) ++ "\x7d"

def renderItems : List Json → List String
  | [] => []
  | item :: rest => render item :: renderItems rest

def renderFields : List (String × Json) → List String
  | [] => []
  | (name, value) :: rest => (renderString name ++ ":" ++ render value) :: renderFields rest

end

end Json

end WaitFor
