import ResourceInference.CommandLine.Command
import ResourceInference.CommandLine.FileTable
import ResourceInference.CommandLine.Summary
import ResourceInference.Config
import ResourceInference.Config.Template
import ResourceInference.OpenApi.Reader
import ResourceInference.Yaml.Printer

/-!
# Running commands

A command reads and writes files, says what it does, and may fail. A failure has a context and
causes, the nearest one first; what was said and written before it stays.
-/

set_option autoImplicit false

namespace ResourceInference.CommandLine

/-! ## Failures -/

/-- Why a command failed. -/
structure Failure where
  context : String
  causes : List String := []

namespace Failure

/-- A cause in the list of causes; further lines of it stand below the first one. -/
def causeLine (number : Option Nat) (cause : String) : String :=
  match number with
  | some n => "\n    " ++ toString n ++ ": " ++ indentLines 7 cause
  | none => "\n    " ++ indentLines 4 cause
where
  /-- A text whose lines, but for the first, are indented. -/
  indentLines (width : Nat) (text : String) : String :=
    ("\n" ++ String.ofList (List.replicate width ' ')).intercalate (Text.split '\n' text)

/-- Causes with their numbers. -/
def numbered (causes : List String) : List String :=
  causes.zipIdx.map fun (cause, n) => causeLine (some n) cause

/-- What is said of the failure. A single cause has no number. -/
def message (f : Failure) : String :=
  "Error: " ++ f.context ++
    (match f.causes with
      | [] => ""
      | [cause] => "\n\nCaused by:" ++ causeLine none cause
      | causes => "\n\nCaused by:" ++ String.join (numbered causes)) ++ "\n"

end Failure

/-! ## The state of a run -/

/-- What a run has said and written. -/
structure RunState where
  files : FileTable
  stdout : String := ""
  stderr : String := ""

/-- A step of a run. -/
abbrev Run := ExceptT Failure (StateM RunState)

/-- Say something. -/
def print (text : String) : Run Unit := modify fun s => { s with stdout := s.stdout ++ text }

/-- Say something to whoever runs the command. -/
def report (line : String) : Run Unit :=
  modify fun s => { s with stderr := s.stderr ++ line ++ "\n" }

/-- A result, or a failure in a context. -/
def withContext {ε α : Type} (context : String) (causes : ε → List String) :
    Except ε α → Run α
  | .ok a => pure a
  | .error e => throw ⟨context, causes e⟩

/-- The cause that an error of a file is. -/
def fileCauses (e : FileError) : List String := [e.message]

/-! ## Reading -/

/-- The configuration of the project, if there is one. -/
def loadConfig? : Run (Option Config) := do
  let files := (← get).files
  if !files.pathExists Config.fileName then pure none
  else
    match files.read Config.fileName with
    | .error e => throw ⟨"failed to read config " ++ Config.fileName ++ ": " ++ e.message, []⟩
    | .ok text =>
      match Config.read? text with
      | some config => pure (some config)
      | none => throw ⟨"failed to parse config " ++ Config.fileName ++ ": not a configuration", []⟩

/-- The causes that an error of a document is. -/
def documentCauses : DocumentError → List String
  | .truncated => ["failed to parse JSON: the text ends early"]
  | .malformed => ["failed to parse JSON: not JSON"]
  | .misshapen => ["failed to parse JSON: not a document"]
  | .yaml => ["failed to parse YAML: not a document"]
  | .unsupportedVersion version => [DocumentError.unsupportedMessage version]

/-- The document in a file. -/
def loadDocument (path : String) : Run Document := do
  let text ← withContext ("failed to read " ++ path) fileCauses ((← get).files.read path)
  withContext ("failed to parse " ++ path) documentCauses
    (Document.read (TextFormat.ofPath path) text)

/-- The causes that an error of inference is. -/
def inferenceCauses (e : InferenceError) : List String := e.message :: e.cause?.toList

/-- What a document yields under a configuration. -/
def runExtraction (d : Document) (config : Config) : Run Extraction := do
  let options ← withContext "invalid exclusion configuration" (fun e => [e.message])
    (config.options d.info.title)
  withContext ("failed to extract provider schema from " ++ d.info.title) inferenceCauses
    (extract ⟨d, options⟩)

/-! ## Writing -/

/-- Write a file, with the directories around it. -/
def writeFile (path text : String) : Run Unit := do
  match FileTable.parent? path with
  | some parent =>
    let files ← withContext ("failed to create directory " ++ parent) fileCauses
      ((← get).files.makeDirectory parent)
    modify fun s => { s with files }
  | none => pure ()
  let files ← withContext ("failed to write " ++ path) fileCauses ((← get).files.write path text)
  modify fun s => { s with files }

/-- Write a value as JSON. -/
def writeJson (path : String) (value : Value) : Run Unit := do
  writeFile path (Json.pretty value ++ "\n")
  report ("  wrote " ++ path)

/-! ## Commands -/

/-- How many entries a map has. -/
def count {α : Type} (m : SortedMap α) : String := toString m.toList.length

/-- Infer a package and write it. What the command says goes before what the configuration
says. -/
def generate (input output metadataOutput package : Option String) : Run Unit := do
  let config := (← loadConfig?).getD {}
  let config := { config with packageName := package.or config.packageName }
  match input.or config.input with
  | none => throw ⟨"no input spec given; pass --input or set \x60input\x60 in the config", []⟩
  | some input =>
    let d ← loadDocument input
    let e ← runExtraction d config
    report ("Extracted " ++ count e.package.resources ++ " resources, " ++
      count e.package.functions ++ " functions and " ++ count e.package.types ++
      " types from " ++ input)
    match output.or config.output with
    | some path => writeJson path e.package.encode
    | none => print (Json.pretty e.package.encode ++ "\n")
    match metadataOutput.or config.metadataOutput with
    | some path => writeJson path e.metadata.encode
    | none => pure ()

/-- Infer a package and count what is in it. -/
def validate (input : String) : Run Unit := do
  let d ← loadDocument input
  report ("Valid OpenAPI " ++ d.openapi ++ " spec: " ++ d.info.title)
  report ("  Version: " ++ d.info.version)
  report ("  Paths: " ++ toString d.paths.length)
  match d.components with
  | some components => report ("  Schemas: " ++ toString components.schemas.length)
  | none => pure ()
  let config := (← loadConfig?).getD {}
  let e ← runExtraction d config
  report ("  Resources: " ++ count e.package.resources)
  report ("  Functions: " ++ count e.package.functions)
  report ("  Types: " ++ count e.package.types)
  report "Validation successful."

/-- Infer a package and summarise it. -/
def inspect (input : String) (format : SummaryFormat) : Run Unit := do
  let config := (← loadConfig?).getD {}
  let d ← loadDocument input
  let entries := summary d (← runExtraction d config)
  match format with
  | .yaml => print (Yaml.printEntries entries)
  | .json => print (Json.pretty (.object entries) ++ "\n")

/-- Write a configuration. -/
def init (force : Bool) : Run Unit := do
  if (← get).files.pathExists Config.fileName && !force then
    throw ⟨Config.fileName ++ " already exists. Use --force to overwrite.", []⟩
  else
    match (← get).files.write Config.fileName Config.template with
    | .ok files => modify fun s => { s with files }
    | .error e => throw ⟨e.message, []⟩
    report ("Created " ++ Config.fileName)

/-- The name and version of the program. -/
def versionLine : String := "provschema 0.3.0\n"

/-- What a command does. -/
def perform : Command → Run Unit
  | .generate input output metadataOutput package => generate input output metadataOutput package
  | .validate input => validate input
  | .inspect input format => inspect input format
  | .init force => init force
  | .version => print versionLine

/-- What comes of a run. -/
structure RunResult where
  code : Nat
  stdout : String
  stderr : String
  files : FileTable

/-- Run a command on files. -/
def run (command : Command) (files : FileTable) : RunResult :=
  match (perform command).run.run { files } with
  | (.ok _, s) => ⟨0, s.stdout, s.stderr, s.files⟩
  | (.error failure, s) => ⟨1, s.stdout, s.stderr ++ failure.message, s.files⟩

end ResourceInference.CommandLine
