/-
Module: WaitFor.Json.Reader
Purpose: Reading JSON text.
Main exports: Json.read?
-/
import WaitFor.Json.Number

namespace WaitFor.Json

/-- The white space of JSON text. -/
def isSpace (c : Char) : Bool := c == ' ' || c == '\n' || c == '\t' || c == '\r'

def skipSpace (text : List Char) : List Char := text.dropWhile isSpace

/-- The value of a hexadecimal digit. -/
def hexValue? (c : Char) : Option Nat :=
  if c.isDigit then some (c.toNat - '0'.toNat)
  else if 'a' ≤ c ∧ c ≤ 'f' then some (c.toNat - 'a'.toNat + 10)
  else if 'A' ≤ c ∧ c ≤ 'F' then some (c.toNat - 'A'.toNat + 10)
  else none

/-- Takes four hexadecimal digits off the front of a text. -/
def takeUnit? : List Char → Option (Nat × List Char)
  | a :: b :: c :: d :: rest => do
    let units ← [a, b, c, d].mapM hexValue?
    some (units.foldl (fun n digit => 16 * n + digit) 0, rest)
  | _ => none

/-- Takes the rest of a `\u` escape: one unit, or a high and a low surrogate that make up one
character. -/
def takeCodePoint? (text : List Char) : Option (Char × List Char) := do
  let (unit, rest) ← takeUnit? text
  if 0xD800 ≤ unit ∧ unit < 0xDC00 then
    match rest with
    | '\\' :: 'u' :: rest =>
      let (low, rest) ← takeUnit? rest
      if 0xDC00 ≤ low ∧ low < 0xE000 then
        some (Char.ofNat (0x10000 + 0x400 * (unit - 0xD800) + (low - 0xDC00)), rest)
      else none
    | _ => none
  else if 0xDC00 ≤ unit ∧ unit < 0xE000 then none
  else some (Char.ofNat unit, rest)

/-- The character that a one-letter escape stands for. -/
def shortEscape? (c : Char) : Option Char :=
  match c with
  | '"' => some '"'
  | '\\' => some '\\'
  | '/' => some '/'
  | 'b' => some (Char.ofNat 0x8)
  | 'f' => some (Char.ofNat 0xC)
  | 'n' => some '\n'
  | 'r' => some '\r'
  | 't' => some '\t'
  | _ => none

/-- Takes the rest of a string, its opening quote already passed.  The first argument bounds the
number of characters of the string. -/
def takeString? : Nat → List Char → Option (List Char × List Char)
  | fuel + 1, c :: rest =>
    if c = '"' then some ([], rest)
    else if c = '\\' then do
      let (escaped, rest) ← match rest with
        | 'u' :: rest => takeCodePoint? rest
        | letter :: rest => (shortEscape? letter).map fun c => (c, rest)
        | [] => none
      let (text, rest) ← takeString? fuel rest
      some (escaped :: text, rest)
    else if c.toNat < 0x20 then none
    else do
      let (text, rest) ← takeString? fuel rest
      some (c :: text, rest)
  | _, _ => none

/-- Takes a string with its quotes. -/
def takeQuoted? : List Char → Option (String × List Char)
  | '"' :: rest => (takeString? rest.length rest).map fun (text, rest) => (String.ofList text, rest)
  | _ => none

/-- Takes the items of an array and its closing bracket; `item` takes one item.  The first argument
bounds the number of items. -/
def takeItems? (item : List Char → Option (Json × List Char)) :
    Nat → List Char → Option (List Json × List Char)
  | 0, _ => none
  | fuel + 1, text => do
    let (first, rest) ← item text
    match skipSpace rest with
    | ']' :: rest => some ([first], rest)
    | ',' :: rest =>
      let (more, rest) ← takeItems? item fuel rest
      some (first :: more, rest)
    | _ => none

/-- Takes the fields of an object and its closing brace; `item` takes one value. -/
def takeFields? (item : List Char → Option (Json × List Char)) :
    Nat → List Char → Option (List (String × Json) × List Char)
  | 0, _ => none
  | fuel + 1, text => do
    let (name, rest) ← takeQuoted? (skipSpace text)
    match skipSpace rest with
    | ':' :: rest =>
      let (value, rest) ← item rest
      match skipSpace rest with
      | '}' :: rest => some ([(name, value)], rest)
      | ',' :: rest =>
        let (more, rest) ← takeFields? item fuel rest
        some ((name, value) :: more, rest)
      | _ => none
    | _ => none

/-- Takes a given word and gives its value. -/
def takeWord? (word : List Char) (value : Json) (text : List Char) : Option (Json × List Char) :=
  (word.isPrefixOf? text).map fun rest => (value, rest)

/-- How deeply arrays and objects may be nested. -/
def nestingLimit : Nat := 127

/-- Takes a value off the front of a text, with at most `depth` levels of arrays and objects. -/
def takeValue? : Nat → List Char → Option (Json × List Char)
  | depth, text =>
    match skipSpace text with
    | [] => none
    | c :: rest =>
      if c = 'n' then takeWord? ['u', 'l', 'l'] .null rest
      else if c = 't' then takeWord? ['r', 'u', 'e'] (.boolean true) rest
      else if c = 'f' then takeWord? ['a', 'l', 's', 'e'] (.boolean false) rest
      else if c = '"' then
        (takeQuoted? (c :: rest)).map fun (text, rest) => (.string text, rest)
      else if c = '[' then
        match depth, skipSpace rest with
        | 0, _ => none
        | _ + 1, ']' :: rest => some (.array [], rest)
        | depth + 1, _ =>
          (takeItems? (takeValue? depth) rest.length rest).map fun (items, rest) =>
            (.array items, rest)
      else if c = '{' then
        match depth, skipSpace rest with
        | 0, _ => none
        | _ + 1, '}' :: rest => some (.object [], rest)
        | depth + 1, _ =>
          (takeFields? (takeValue? depth) rest.length rest).map fun (fields, rest) =>
            (ofFields fields, rest)
      else do
        let (written, rest) ← NumberText.take? (c :: rest)
        let value ← written.value?
        some (.number value, rest)

/-- Reads a whole text as one JSON value. -/
def read? (text : String) : Option Json := do
  let (value, rest) ← takeValue? nestingLimit text.toList
  if (skipSpace rest).isEmpty then some value else none

end WaitFor.Json
