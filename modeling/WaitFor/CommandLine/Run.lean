/-
Module: WaitFor.CommandLine.Run
Purpose: Runs of the program as functions of what they are given.
Main exports: Outcome, CommandLine.describe, CommandLine.check, CommandLine.run
-/
import WaitFor.CommandLine.Arguments
import WaitFor.CommandLine.EnvironmentFile
import WaitFor.Resource.Load
import WaitFor.Resource.Store
import WaitFor.Waiter.Basic

namespace WaitFor

/-- How a run ends: its exit code, the lines that it prints, and what it complains of. -/
structure Outcome where
  code : Nat
  lines : List String
  complaint : Option String
deriving Repr, DecidableEq, Inhabited

namespace Outcome

/-- A run that printed what it was asked for. -/
def success (lines : List String) : Outcome := ⟨0, lines, none⟩

/-- A run that failed, perhaps after it had printed some lines. -/
def failure (lines : List String) (complaint : String) : Outcome := ⟨1, lines, some complaint⟩

/-- A run whose arguments are no proper use of the program. -/
def misuse : Outcome := ⟨2, [], none⟩

/-- A run that cannot even begin, because its environment cannot be set up. -/
def abort : Outcome := ⟨101, [], none⟩

/-- Everything that a run prints. -/
def output (outcome : Outcome) : String := String.join (outcome.lines.map fun line => line ++ "\n")

end Outcome

namespace CommandLine

/-- The line that names the program. -/
def versionLine : String := "kwait-rs 0.1.0"

/-- The lines that explain the use of the program. -/
def helpLines : List String :=
  ["Usage: kwait parse [--for CONDITION]",
    "       kwait check [--for CONDITION] [--allow-no-resources] -f FILE..."]

/-- What a run without a condition complains of. -/
def noCondition : String := "no condition given, pass --for or set KWAIT_FOR"

/-- Shows how a condition is classified. -/
def describe (raw : String) : Outcome :=
  match Condition.classify raw with
  | .error error => .failure [] error.message
  | .ok condition => .success [condition.text, condition.outline.indented]

/-- A way to load the resources of a file by its name. -/
abbrev Loader := String → Except LoadError (List Resource)

/-- The resources of several files, or the name of the first that cannot be loaded. -/
def loadAll (loader : Loader) : List String → Except String (List Resource)
  | [] => .ok []
  | file :: rest =>
    match loader file with
    | .error _ => .error file
    | .ok resources => (loadAll loader rest).map fun more => resources ++ more

/-- The line that states a verdict, or the error that ends the run. -/
def verdictLine (resource : Resource) : Except WaitError Evaluation → Except WaitError String
  | .ok evaluation =>
    .ok (resource.label ++ if evaluation.done then " condition met" else " condition not met")
  | .error error =>
    if error.isTerminal then .error error
    else .ok (resource.label ++ " condition not met: " ++ error.message)

/-- The verdicts on some resources, up to an error that ends the run. -/
def verdictLines (waiter : Waiter) (getter : Getter) :
    List Resource → List String × Option WaitError
  | [] => ([], none)
  | resource :: rest =>
    match verdictLine resource (waiter.evaluate resource getter).outcome with
    | .error error => ([], some error)
    | .ok line =>
      let (lines, error) := verdictLines waiter getter rest
      (line :: lines, error)

/-- Decides a condition for the resources that were loaded, each as the last of its key. -/
def judgeAll (waiter : Waiter) (resources : List Resource) : Outcome :=
  match waiter.collect (resources.map .ok) with
  | .error error => .failure [] error.message
  | .ok chosen =>
    match verdictLines waiter (Store.ofResources resources).get chosen with
    | (lines, none) => .success lines
    | (lines, some error) => .failure lines error.message

/-- Decides a condition for the resources in some files. -/
def check (loader : Loader) (raw : String) (files : List String) (allowNoResources : Bool) :
    Outcome :=
  match Waiter.ofText raw allowNoResources with
  | .error error => .failure [] error.message
  | .ok waiter =>
    match loadAll loader files with
    | .error file => .failure [] ("failed to load " ++ file)
    | .ok resources => judgeAll waiter resources

/-- The condition that a run is about: the one that was given, else that of the environment. -/
def condition? (environment : Environment) (given : Option String) : Option String :=
  given <|> environment.get? "KWAIT_FOR"

/-- A run of the program with the given arguments in a complete environment. -/
def runIn (loader : Loader) (environment : Environment) (arguments : List String) : Outcome :=
  let withCondition (given : Option String) (act : String → Outcome) : Outcome :=
    match condition? environment given with
    | none => .failure [] noCondition
    | some raw => act raw
  match Request.ofArguments arguments with
  | none => .misuse
  | some .help => .success helpLines
  | some .version => .success [versionLine]
  | some (.parse given) => withCondition given describe
  | some (.check given files allowNoResources) =>
    withCondition given fun raw => check loader raw files allowNoResources

/-- A run of the program with the given arguments in an environment, to which the assignments of a
text are added first. -/
def run (loader : Loader) (environment : Environment) (assignments : String)
    (arguments : List String) : Outcome :=
  match EnvironmentFile.load? environment assignments with
  | none => .abort
  | some environment => runIn loader environment arguments

end CommandLine

end WaitFor
