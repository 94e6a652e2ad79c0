/-
Module: WaitFor.CommandLine.EnvironmentFile
Purpose: Environment variables from a file of assignments.
Main exports: EnvironmentFile.assignment?, EnvironmentFile.load?
-/
import WaitFor.CommandLine.Environment
import WaitFor.Text.Alphanumeric
import WaitFor.Text.Blank
import WaitFor.Text.Parts

namespace WaitFor

namespace EnvironmentFile

/-!
A line of the file is blank, a comment, or a name, an equals sign and a value.  Quotes around parts
of a value are dropped, a backslash escapes, a dollar sign puts the value of a variable, and white
space ends the value.  Reading stops at the first line of another shape.  A variable that has a
value already keeps it.  No environment can hold a value with a zero character.
-/

/-- How a variable is named inside a value. -/
inductive Naming where
  /-- No variable is being named. -/
  | none
  /-- The name goes as far as letters and digits do. -/
  | bare
  /-- The name goes up to the closing brace. -/
  | braced
deriving Repr, DecidableEq, Inhabited

/-- The state between two characters of a value.  Texts are in reverse order. -/
structure State where
  single : Bool
  double : Bool
  escaped : Bool
  /-- Only a comment may follow. -/
  ending : Bool
  /-- A comment has begun. -/
  done : Bool
  naming : Naming
  name : List Char
  output : List Char
deriving Repr, Inhabited

namespace State

def start : State := ⟨false, false, false, false, false, .none, [], []⟩

def put (s : State) (c : Char) : State := { s with output := c :: s.output }

/-- Puts the value of the variable that has been named. -/
def putVariable (environment : Environment) (s : State) : State :=
  let value := (environment.get? (String.ofList s.name.reverse)).getD ""
  { s with output := value.toList.reverse ++ s.output, name := [] }

/-- The character behind a backslash. -/
def escape? (s : State) (c : Char) : Option State :=
  if ['\\', '\'', '"', '$', ' '].contains c then some { s.put c with escaped := false }
  else if c = 'n' then some { s.put '\n' with escaped := false }
  else none

/-- A character that belongs to the name of a variable or ends it. -/
def nameStep (environment : Environment) (s : State) (c : Char) : State :=
  if Text.isAlphanumeric c then { s with name := c :: s.name }
  else if s.naming = .braced then
    if c = '}' then { s.putVariable environment with naming := .none }
    else { s with name := c :: s.name }
  else if c = '{' ∧ s.name = [] then { s with naming := .braced }
  else if c = '$' then { s.putVariable environment with naming := .bare }
  else { (s.putVariable environment).put c with naming := .none }

/-- One character of a value. -/
def step? (environment : Environment) (s : State) (c : Char) : Option State :=
  if s.done then some s
  else if s.ending then
    if c = ' ' ∨ c = '\t' then some s else if c = '#' then some { s with done := true } else none
  else if s.escaped then s.escape? c
  else if s.single then some (if c = '\'' then { s with single := false } else s.put c)
  else if s.naming ≠ .none then some (s.nameStep environment c)
  else if c = '$' then some { s with naming := .bare }
  else if s.double ∧ c = '"' then some { s with double := false }
  else if c = '\\' then some { s with escaped := true }
  else if s.double then some (s.put c)
  else if c = '\'' then some { s with single := true }
  else if c = '"' then some { s with double := true }
  else if c = ' ' ∨ c = '\t' then some { s with ending := true }
  else some (s.put c)

/-- The value that has been read; none inside quotes or braces. -/
def finish? (environment : Environment) (s : State) : Option String :=
  if s.naming = .braced ∨ s.single ∨ s.double then none
  else some (String.ofList (s.putVariable environment).output.reverse)

end State

/-- Reads the text of a value. -/
def value? (environment : Environment) (text : List Char) : Option String := do
  let s ← text.foldlM (State.step? environment) State.start
  s.finish? environment

/-- Takes a name off the front of a text, and the white space behind it. -/
def takeName? (text : List Char) : Option (String × List Char) :=
  let isNameChar (c : Char) : Bool := c.isAlphanum || c == '_' || c == '.'
  if text.head?.any fun c => c.isAlpha || c == '_' then
    some (String.ofList (text.takeWhile isNameChar),
      (text.dropWhile isNameChar).dropWhile Text.isBlank)
  else none

/-- Takes the equals sign and the white space behind it. -/
def takeEquals? : List Char → Option (List Char)
  | '=' :: rest => some (rest.dropWhile Text.isBlank)
  | _ => none

/-- The name and the text of the value on a line; the word `export` may stand in front. -/
def split? (line : List Char) : Option (String × List Char) := do
  let (name, rest) ← takeName? line
  match takeEquals? rest with
  | some value => some (name, value)
  | none =>
    if name = "export" then
      let (name, rest) ← takeName? rest
      some (name, ← takeEquals? rest)
    else none

/-- Reads a line: nothing inside for a blank line and a comment, else an assignment. -/
def assignment? (environment : Environment) (line : List Char) :
    Option (Option (String × String)) :=
  match Text.trim line with
  | [] | '#' :: _ => some none
  | line => do
    let (name, text) ← split? line
    let value ← match text with
      | [] | '#' :: _ => some ""
      | text => value? environment text
    some (some (name, value))

/-- Adds the assignments of some lines to an environment, unless it cannot hold one of them. -/
def assign? (environment : Environment) : List (List Char) → Option Environment
  | [] => some environment
  | line :: rest =>
    match assignment? environment line with
    | none => some environment
    | some none => assign? environment rest
    | some (some (name, value)) =>
      if (environment.get? name).isSome then assign? environment rest
      else if value.toList.any fun c => c.toNat == 0 then none
      else assign? (environment ++ [(name, value)]) rest

/-- Adds the assignments of a file to an environment, unless it cannot hold one of them. -/
def load? (environment : Environment) (text : String) : Option Environment :=
  assign? environment (Text.splitAtEach '\n' text.toList)

end EnvironmentFile

end WaitFor
