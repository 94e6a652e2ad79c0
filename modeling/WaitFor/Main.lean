/-
Module: WaitFor.Main
Purpose: The program: reads its surroundings, runs, and prints.
Main exports: main
-/
import WaitFor.CommandLine.Run

namespace WaitFor

/-- The content of a file, if there is one that can be read. -/
def readFile? (name : String) : IO (Option ByteArray) := do
  try
    return some (← IO.FS.readBinFile name)
  catch _ =>
    return none

/-- The contents of some files with their names. -/
def readFiles (names : List String) : IO (List (String × Option ByteArray)) :=
  names.mapM fun name => return (name, ← readFile? name)

/-- The parts of a text that consist of the given characters. -/
def wordsOf (isPart : Char → Bool) (text : String) : List String :=
  let separated := text.toList.map fun c => if isPart c then c else '\n'
  (Text.splitAtEach '\n' separated).map String.ofList

/-- The names of the variables that a text may mention: with a dollar sign, in braces, or in an
assignment. -/
def namesIn (text : String) : List String :=
  wordsOf Text.isAlphanumeric text ++ wordsOf (fun c => c != '{' && c != '}' && c != '=') text ++
    wordsOf (fun c => Text.isAlphanumeric c || ['_', '.'].contains c) text

/-- The variables that a text mentions and the one that may hold the condition. -/
def readEnvironment (text : String) : IO Environment := do
  let names := "KWAIT_FOR" :: namesIn text
  let found ← (names.eraseDups.filter (· != "")).mapM fun name =>
    return (← IO.getEnv name).map fun value => (name, value)
  return found.filterMap id

/-- The files that a request is about. -/
def filesOf (arguments : List String) : List String :=
  match Request.ofArguments arguments with
  | some (.check _ files _) => files
  | _ => []

end WaitFor

open WaitFor in
/-- Runs the program. -/
def main (arguments : List String) : IO UInt32 := do
  let assignments := (((← readFile? ".env").bind String.fromUTF8?).getD "")
  let environment ← readEnvironment assignments
  let contents ← readFiles (filesOf arguments)
  let loader (name : String) := Manifest.ofFile ((contents.lookup name).getD none)
  let outcome := CommandLine.run loader environment assignments arguments
  IO.print outcome.output
  match outcome.complaint with
  | some complaint => IO.eprintln ("Error: " ++ complaint)
  | none => pure ()
  return UInt32.ofNat outcome.code
