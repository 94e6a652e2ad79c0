/-
Module: WaitFor.Path.Cursor
Purpose: A place in the text of a path.
Main exports: Cursor, Cursor.advance, Cursor.moveTo, Cursor.skipBlank
-/
import WaitFor.Text.Blank

namespace WaitFor

/-- A place in a text: how many characters lie before it, and those that follow it. -/
structure Cursor where
  position : Nat
  rest : List Char
deriving Repr, DecidableEq, Inhabited

namespace Cursor

/-- The place before the first character of a text. -/
def start (text : List Char) : Cursor := ⟨0, text⟩

/-- Passes over a number of characters that are known to follow. -/
def advance (k : Cursor) (count : Nat) : Cursor := ⟨k.position + count, k.rest.drop count⟩

/-- Passes to a later place, given by the characters that follow it. -/
def moveTo (k : Cursor) (rest : List Char) : Cursor :=
  ⟨k.position + (k.rest.length - rest.length), rest⟩

/-- Passes over the characters at the front that satisfy a predicate. -/
def skipWhile (k : Cursor) (p : Char → Bool) : Cursor := k.moveTo (k.rest.dropWhile p)

/-- Passes over white space. -/
def skipBlank (k : Cursor) : Cursor := k.skipWhile Text.isBlank

end Cursor

end WaitFor
