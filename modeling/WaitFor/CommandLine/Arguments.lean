/-
Module: WaitFor.CommandLine.Arguments
Purpose: What the arguments of the program ask for.
Main exports: Request, Request.ofArguments
-/

namespace WaitFor

/-- What a run of the program is asked to do. -/
inductive Request where
  | help
  | version
  /-- Show how a condition is classified. -/
  | parse (condition : Option String)
  /-- Decide a condition for the resources in some files, of which there is at least one. -/
  | check (condition : Option String) (files : List String) (allowNoResources : Bool)
deriving Repr, DecidableEq, Inhabited

namespace Request

/-- The form of one argument. -/
inductive Form where
  /-- A text that is no option; a lone dash is one. -/
  | plain
  /-- Two dashes and a name, perhaps with a value behind an equals sign. -/
  | long (name : String) (attached : Option String)
  /-- A dash and a letter, perhaps with a value behind it. -/
  | short (letter : Char) (attached : Option String)
deriving Repr, DecidableEq

/-- The form of an argument.  Two dashes alone have the empty name. -/
def Form.of (argument : String) : Form :=
  match argument.toList with
  | '-' :: '-' :: body =>
    let name := body.takeWhile (· != '=')
    .long (String.ofList name) (match body.dropWhile (· != '=') with
      | _ :: value => some (String.ofList value)
      | [] => none)
  | '-' :: letter :: body =>
    .short letter (match body with
      | [] => none
      | '=' :: value => some (String.ofList value)
      | value => some (String.ofList value))
  | _ => .plain

/-- The options of a command that have been read. -/
structure Options where
  condition : Option String
  files : List String
  allowNoResources : Bool
deriving Repr, Inhabited

/-- An option of a command. -/
inductive Kind where
  | condition
  | file
  | allowNoResources
  | help
deriving Repr, DecidableEq

/-- The option that a form names; only a check has files and allows their absence. -/
def Kind.of? (checks : Bool) : Form → Option Kind
  | .long "for" _ => some .condition
  | .long "help" _ | .short 'h' _ => some .help
  | .long "filename" _ | .short 'f' _ => if checks then some .file else none
  | .long "allow-no-resources" _ => if checks then some .allowNoResources else none
  | _ => none

/-- The value written into a form. -/
def Form.attached? : Form → Option String
  | plain => none
  | long _ attached => attached
  | short _ attached => attached

/-- Whether a form is a long name with a value. -/
def Form.hasLongValue : Form → Bool
  | long _ (some _) => true
  | _ => false

/-- Adds a value to the options.  A condition is given once, files any number of times. -/
def Options.give? (options : Options) (kind : Kind) (value : String) : Option Options :=
  match kind with
  | .condition =>
    if options.condition.isSome then none else some { options with condition := some value }
  | .file => some { options with files := options.files ++ [value] }
  | _ => none

/-- Sets a flag, which is set once. -/
def Options.setFlag? (options : Options) : Option Options :=
  if options.allowNoResources then none else some { options with allowNoResources := true }

/-- What the arguments of a command make of its options: none if they are no proper use, and nothing
inside if help is asked for.  `awaited` is the option that the next argument is a value of.  Two
dashes end the options, and nothing may follow them. -/
def readOptions? (checks : Bool) :
    (awaited : Option Kind) → Options → List String → Option (Option Options)
  | none, options, [] => some (some options)
  | some _, _, [] => none
  | some kind, options, argument :: rest =>
    if Form.of argument = .plain then
      (options.give? kind argument).bind fun options => readOptions? checks none options rest
    else none
  | none, options, argument :: rest =>
    let form := Form.of argument
    match Kind.of? checks form with
    | none => if argument = "--" ∧ rest = [] then some (some options) else none
    | some .help => if form.hasLongValue then none else some none
    | some .allowNoResources =>
      if form.hasLongValue then none
      else options.setFlag?.bind fun options => readOptions? checks none options rest
    | some kind =>
      match form.attached? with
      | some value =>
        (options.give? kind value).bind fun options => readOptions? checks none options rest
      | none => readOptions? checks (some kind) options rest

/-- The request that a command with the given options makes; a check needs files. -/
def ofOptions? (checks : Bool) : Option Options → Option Request
  | none => some .help
  | some options =>
    if !checks then some (.parse options.condition)
    else if options.files.isEmpty then none
    else some (.check options.condition options.files options.allowNoResources)

/-- The request that the arguments make; none if they are no proper use of the program. -/
def ofArguments : List String → Option Request
  | [] => none
  | argument :: rest =>
    let command (checks : Bool) : Option Request :=
      (readOptions? checks none ⟨none, [], false⟩ rest).bind (ofOptions? checks)
    match argument, Form.of argument with
    | "parse", _ => command false
    | "check", _ => command true
    | "help", _ => if rest ∈ [[], ["parse"], ["check"], ["help"]] then some .help else none
    | _, .long "help" none | _, .short 'h' _ => some .help
    | _, .long "version" none | _, .short 'V' _ => some .version
    | _, _ => none

end Request

end WaitFor
