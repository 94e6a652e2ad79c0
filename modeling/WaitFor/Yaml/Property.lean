/-
Module: WaitFor.Yaml.Property
Purpose: Anchors, tags and directives as they are written.
Main exports: Yaml.takeAnchorName?, Yaml.takeTag?, Yaml.takeDirective?
-/
import WaitFor.Numeric.Decimal
import WaitFor.Yaml.Place
import WaitFor.Yaml.Token

namespace WaitFor.Yaml

/-- Takes the name of an anchor or alias, its mark already passed. -/
def takeAnchorName? (text : List Char) : Option (String × List Char) :=
  let name := text.takeWhile isWordChar
  let rest := text.dropWhile isWordChar
  let ends := atSpace rest || rest.head?.any ['?', ':', ',', ']', '}', '%', '@', '`'].contains
  if !name.isEmpty && ends then some (String.ofList name, rest) else none

/-- Takes the handle of a tag: an exclamation mark, or a word between two. -/
def takeHandle? : List Char → Option (List Char × List Char)
  | '!' :: text =>
    let word := text.takeWhile isWordChar
    match text.dropWhile isWordChar with
    | '!' :: rest => some ('!' :: word ++ ['!'], rest)
    | rest => some ('!' :: word, rest)
  | _ => none

/-- Whether a handle is written out: with a second exclamation mark. -/
def isFullHandle (handle : List Char) : Bool := 1 < handle.length && handle.getLast? == some '!'

/-- Takes the handle and the suffix of a tag.  A tag between angle brackets and the lone mark have
no handle; a tag without a full handle has the handle of one mark. -/
def takeTagParts? (text : List Char) : Option (String × Tag × List Char) :=
  match text with
  | '!' :: '<' :: body => do
    let (suffix, rest) ← takeTagText? true body.length body
    match rest with
    | '>' :: rest => if suffix.isEmpty then none else some ("", suffix.ended, rest)
    | _ => none
  | _ => do
    let (handle, rest) ← takeHandle? text
    let (suffix, rest) ← takeTagText? false rest.length rest
    if isFullHandle handle then
      if suffix.isEmpty then none else some (String.ofList handle, suffix.ended, rest)
    else
      let suffix := Tag.ended (Tag.ofString (String.ofList handle.tail) ++ suffix)
      if suffix.isEmpty then some ("", Tag.mark, rest) else some ("!", suffix, rest)

/-- Takes a tag.  White space must follow or, inside a flow collection, a comma. -/
def takeTag? (flow : Bool) (text : List Char) : Option (Token × List Char) := do
  let (handle, suffix, rest) ← takeTagParts? text
  if atSpace rest || (flow && rest.head? == some ',') then some (.tag handle suffix, rest)
  else none

/-- Takes a number of at most nine digits. -/
def takeVersionNumber? (text : List Char) : Option (Nat × List Char) :=
  let digits := text.takeWhile Char.isDigit
  if digits.isEmpty || 9 < digits.length then none
  else some (naturalOfDigits digits, text.dropWhile Char.isDigit)

/-- Takes the version that a `YAML` directive states. -/
def takeVersion? (text : List Char) : Option (Token × List Char) := do
  let (major, rest) ← takeVersionNumber? (text.dropWhile isBlank)
  match rest with
  | '.' :: rest =>
    let (minor, rest) ← takeVersionNumber? rest
    some (.version major minor, rest)
  | _ => none

/-- Takes the handle that a `TAG` directive declares and what it stands for. -/
def takeHandleRule? (text : List Char) : Option (Token × List Char) := do
  let (handle, rest) ← takeHandle? (text.dropWhile isBlank)
  if handle ≠ ['!'] ∧ !isFullHandle handle then none else
  if !rest.head?.any isBlank then none else
  let rest := rest.dropWhile isBlank
  let (lead, rest) ← takeTagText? true rest.length rest
  if lead.isEmpty || !atSpace rest then none
  else some (.handle (String.ofList handle) lead.ended, rest)

/-- Takes a directive with its line, its mark already passed. -/
def takeDirective? (p : Place) : Option (Token × Place) := do
  let name := p.rest.takeWhile isWordChar
  let rest := p.rest.dropWhile isWordChar
  if !atSpace rest then none else
  let (token, rest) ←
    if name = "YAML".toList then takeVersion? rest
    else if name = "TAG".toList then takeHandleRule? rest
    else none
  let p ← (p.moveTo rest).skipLineEnd?
  some (token, p)

end WaitFor.Yaml
