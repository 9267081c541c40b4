import ResourceInference.Text.Split

/-!
# Commands

The arguments of a run as a command. An option stands in one argument with its value or in two;
options come in any order, each of them once.
-/

set_option autoImplicit false

namespace ResourceInference.CommandLine

/-- The formats of a summary. -/
inductive SummaryFormat where
  | yaml
  | json
  deriving DecidableEq, Repr

/-- What a run is to do. -/
inductive Command where
  /-- Infer a package and write it. -/
  | generate (input output metadataOutput package : Option String)
  /-- Infer a package and count what is in it. -/
  | validate (input : String)
  /-- Infer a package and summarise it. -/
  | inspect (input : String) (format : SummaryFormat)
  /-- Write a configuration. -/
  | init (force : Bool)
  | version
  deriving DecidableEq, Repr

/-- An option of a command. -/
structure OptionSpec where
  long : String
  short : Option Char
  takesValue : Bool

/-- What `--name` and `--name=value` say. -/
def longOption? (specs : List OptionSpec) (body : List Char) :
    Option (OptionSpec × Option String) :=
  let (name, value) := match Text.cutAt? '=' body with
    | some (name, value) => (name, some (String.ofList value))
    | none => (body, none)
  (specs.find? (·.long = String.ofList name)).map fun spec => (spec, value)

/-- What `-n`, `-nvalue` and `-n=value` say. -/
def shortOption? (specs : List OptionSpec) (letter : Char) (rest : List Char) :
    Option (OptionSpec × Option String) :=
  (specs.find? (·.short = some letter)).map fun spec =>
    (spec, match rest with
      | [] => none
      | '=' :: value => some (String.ofList value)
      | value => some (String.ofList value))

/-- What the start of an option says: which one it is, and its value if that stands with it. -/
def option? (specs : List OptionSpec) (arg : String) : Option (OptionSpec × Option String) :=
  match arg.toList with
  | '-' :: '-' :: body => longOption? specs body
  | '-' :: letter :: rest => shortOption? specs letter rest
  | _ => none

/-- Whether an argument can be the value of an option. -/
def isValue (arg : String) : Bool := arg.toList.head? != some '-' || arg = "-"

/-- The options that the arguments give, by long name. -/
def options? (specs : List OptionSpec) : List String → Option (List (String × String))
  | [] => some []
  | arg :: rest => do
    let (spec, value) ← option? specs arg
    match spec.takesValue, value, rest with
    | false, none, rest => add spec.long "" (← options? specs rest)
    | true, some value, rest => add spec.long value (← options? specs rest)
    | true, none, value :: rest =>
      if isValue value then add spec.long value (← options? specs rest) else none
    | _, _, _ => none
where
  /-- Add an option that is not there yet. -/
  add (name value : String) (found : List (String × String)) : Option (List (String × String)) :=
    if (found.lookup name).isSome then none else some ((name, value) :: found)

namespace Command

/-- The document that a command names. -/
def input? : Command → Option String
  | generate input _ _ _ => input
  | validate input => some input
  | inspect input _ => some input
  | init _ => none
  | version => none

/-- The option for the document. -/
def inputOption : OptionSpec := ⟨"input", some 'i', true⟩

/-- The options of `generate`. -/
def generateOptions : List OptionSpec :=
  [inputOption, ⟨"output", some 'o', true⟩, ⟨"metadata-output", none, true⟩,
    ⟨"package", some 'p', true⟩]

/-- A format of a summary, by name. -/
def formatOf? : Option String → Option SummaryFormat
  | none => some .yaml
  | some "yaml" => some .yaml
  | some "json" => some .json
  | some _ => none

/-- The command that arguments spell. -/
def parse? : List String → Option Command
  | ["--version"] | ["-V"] => some .version
  | "generate" :: args => do
    let found ← options? generateOptions args
    pure (.generate (found.lookup "input") (found.lookup "output")
      (found.lookup "metadata-output") (found.lookup "package"))
  | "validate" :: args => do
    let found ← options? [inputOption] args
    pure (.validate (← found.lookup "input"))
  | "inspect" :: args => do
    let found ← options? [inputOption, ⟨"format", none, true⟩] args
    pure (.inspect (← found.lookup "input") (← formatOf? (found.lookup "format")))
  | "init" :: args => do
    let found ← options? [⟨"force", none, false⟩] args
    pure (.init (found.lookup "force").isSome)
  | _ => none

end Command

end ResourceInference.CommandLine
