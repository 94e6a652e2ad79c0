/-
Module: WaitFor.Text.Outline
Purpose: Trees of named parts, written on one line or one part a line.
Main exports: Outline, Outline.oneLine, Outline.lines, Outline.indented
-/
import WaitFor.Text.Quoted

namespace WaitFor

/-- How the structure of a value is shown to a reader. -/
inductive Outline where
  /-- A text that is shown as it stands. -/
  | leaf (text : String)
  /-- A name with named parts in braces. -/
  | record (name : String) (parts : List (String × Outline))
  /-- A name with parts in parentheses. -/
  | call (name : String) (parts : List Outline)
  /-- Parts in brackets. -/
  | list (parts : List Outline)
deriving Inhabited

namespace Outline

/-- A string, in quotes. -/
def string (text : String) : Outline := leaf (Text.quote text)

/-- A part that may be absent. -/
def option : Option Outline → Outline
  | none => leaf "None"
  | some part => call "Some" [part]

mutual

/-- The outline on one line, parts separated by commas. -/
def oneLine : Outline → String
  | leaf text => text
  | record name parts =>
    name ++ " \x7b " ++ String.intercalate ", " (oneLineFields parts) ++ " \x7d"
  | call name parts => name ++ "(" ++ String.intercalate ", " (oneLineParts parts) ++ ")"
  | list parts => "[" ++ String.intercalate ", " (oneLineParts parts) ++ "]"

def oneLineParts : List Outline → List String
  | [] => []
  | part :: rest => oneLine part :: oneLineParts rest

def oneLineFields : List (String × Outline) → List String
  | [] => []
  | (name, part) :: rest => (name ++ ": " ++ oneLine part) :: oneLineFields rest

end

/-- Puts a text in front of the first of some lines. -/
def lead (text : String) : List String → List String
  | [] => [text]
  | first :: rest => (text ++ first) :: rest

/-- Puts a comma behind the last of some lines. -/
def endWithComma : List String → List String
  | [] => []
  | [last] => [last ++ ","]
  | line :: rest => line :: endWithComma rest

/-- The lines of one part inside another: indented by four spaces, with a comma at the end. -/
def inside (part : List String) : List String := endWithComma (part.map fun line => "    " ++ line)

mutual

/-- The outline with one part a line; an empty list stays on its line. -/
def lines : Outline → List String
  | leaf text => [text]
  | record name parts => (name ++ " \x7b") :: (fieldLines parts ++ ["\x7d"])
  | call name parts => (name ++ "(") :: (partLines parts ++ [")"])
  | list [] => ["[]"]
  | list (first :: rest) => "[" :: (inside (lines first) ++ partLines rest ++ ["]"])

def partLines : List Outline → List String
  | [] => []
  | part :: rest => inside (lines part) ++ partLines rest

def fieldLines : List (String × Outline) → List String
  | [] => []
  | (name, part) :: rest => inside (lead (name ++ ": ") (lines part)) ++ fieldLines rest

end

/-- The outline with one part a line, as one text. -/
def indented (outline : Outline) : String := String.intercalate "\n" outline.lines

end Outline

end WaitFor
