/-
Module: WaitFor.CommandLine.Environment
Purpose: The variables that a run is given.
Main exports: Environment, Environment.get?
-/

namespace WaitFor

/-- Variables with their values, each name once and none with an equals sign in it. -/
abbrev Environment := List (String × String)

namespace Environment

/-!
An environment is a list of entries `NAME=VALUE`, and a look-up is a matter of these texts.  The
name of a variable ends at the first equals sign of its entry, so a name with an equals sign that
is looked up reaches into a value: where `A` is `x=y`, the value of `A=x` is `y`.
-/

/-- The text of a variable with its value. -/
def entry (name value : String) : List Char := name.toList ++ '=' :: value.toList

/-- What follows a name and an equals sign in the first entry that begins with them. -/
def get? (environment : Environment) (name : String) : Option String :=
  environment.findSome? fun (owner, value) =>
    ((name.toList ++ ['=']).isPrefixOf? (entry owner value)).map String.ofList

end Environment

end WaitFor
