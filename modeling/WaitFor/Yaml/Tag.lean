/-
Module: WaitFor.Yaml.Tag
Purpose: The tags of nodes, as they are written and as they are told apart.
Main exports: Yaml.Tag, Yaml.Tag.core, Yaml.Tag.isLocal, Yaml.Tag.isText, Yaml.takeTagText?
-/
import WaitFor.Json.Reader
import WaitFor.Yaml.Place

namespace WaitFor.Yaml

/-- A tag, or a part of one, as the bytes of its name.  Its escapes write bytes of their own, so a
tag need not be text. -/
abbrev Tag := List UInt8

namespace Tag

def ofString (text : String) : Tag := text.toUTF8.toList

/-- The tag of a type that every document knows. -/
def core (name : String) : Tag := ofString ("tag:yaml.org,2002:" ++ name)

/-- The tag of the single mark, which stands for no type. -/
def mark : Tag := ofString "!"

/-- A local tag begins with the mark. -/
def isLocal (tag : Tag) : Bool := mark.isPrefixOf tag

/-- Whether the bytes of a tag are UTF-8. -/
def isText (tag : Tag) : Bool := (String.fromUTF8? ⟨tag.toArray⟩).isSome

/-- Local tags name types that no document value has.  One that is no text counts as no tag. -/
def isRefused (tag : Tag) : Bool := tag.isLocal && tag.isText

/-- A part of a tag as it counts: a zero byte ends it. -/
def ended (part : Tag) : Tag := part.takeWhile (· != 0)

end Tag

/-- The characters of a tag; some more are allowed between angle brackets. -/
def isTagChar (verbatim : Bool) (c : Char) : Bool :=
  isWordChar c || [';', '/', '?', ':', '@', '&', '=', '+', '$', '.', '!', '~', '*', '\'', '(', ')',
    '%'].contains c || (verbatim && [',', '[', ']'].contains c)

/-- Takes an escaped byte: a percent sign and two hexadecimal digits. -/
def takeByte? : List Char → Option (UInt8 × List Char)
  | '%' :: a :: b :: rest => do
    some (UInt8.ofNat (16 * (← Json.hexValue? a) + (← Json.hexValue? b)), rest)
  | _ => none

/-- How many bytes a first byte announces behind itself. -/
def bytesBehind? (first : UInt8) : Option Nat :=
  if first < 0x80 then some 0
  else if first / 32 = 6 then some 1
  else if first / 16 = 14 then some 2
  else if first / 8 = 30 then some 3
  else none

/-- Takes the escaped bytes that are announced. -/
def takeMoreBytes? : Nat → List Char → Option (Tag × List Char)
  | 0, text => some ([], text)
  | count + 1, text => do
    let (byte, rest) ← takeByte? text
    if byte / 64 = 2 then
      let (bytes, rest) ← takeMoreBytes? count rest
      some (byte :: bytes, rest)
    else none

/-- Takes escaped bytes: a first one and those that it announces. -/
def takeEscaped? (text : List Char) : Option (Tag × List Char) := do
  let (first, rest) ← takeByte? text
  let (bytes, rest) ← takeMoreBytes? (← bytesBehind? first) rest
  some (first :: bytes, rest)

/-- The longest row of tag characters at the front of a text, escapes resolved, and the rest. -/
def takeTagText? (verbatim : Bool) : Nat → List Char → Option (Tag × List Char)
  | fuel + 1, c :: rest =>
    if c = '%' then do
      let (bytes, rest) ← takeEscaped? (c :: rest)
      let (text, rest) ← takeTagText? verbatim fuel rest
      some (bytes ++ text, rest)
    else if isTagChar verbatim c then do
      let (text, rest) ← takeTagText? verbatim fuel rest
      some (c.toUInt8 :: text, rest)
    else some ([], c :: rest)
  | _, rest => some ([], rest)

end WaitFor.Yaml
