import ResourceInference.CommandLine.Run

/-!
# The program

Reads the files that a command can need, runs the command, and writes what has changed.
-/

set_option autoImplicit false

namespace ResourceInference.CommandLine

/-- A file of the working directory with its content, if it is there. -/
def loadFile (path : String) : IO (List (String × String)) := do
  try
    let content ← IO.FS.readFile path
    pure [(path, content)]
  catch _ => pure []

/-- The files that the configuration names as input. -/
def configuredInputs (files : List (String × String)) : List String :=
  files.filterMap fun file => (Config.read? file.2).bind (·.input)

/-- Write a file, with the directories around it. -/
def storeFile (file : String × String) : IO Unit := do
  match FileTable.parent? file.1 with
  | some parent => IO.FS.createDirAll parent
  | none => pure ()
  IO.FS.writeFile file.1 file.2

/-- Run a command in the working directory. -/
def runCommand (command : Command) : IO UInt32 := do
  let config ← loadFile Config.fileName
  let paths := command.input?.toList ++ configuredInputs config
  let inputs ← paths.mapM loadFile
  let files := FileTable.ofList (config ++ inputs.flatten)
  let result := run command files
  IO.print result.stdout
  IO.eprint result.stderr
  (result.files.changesSince files).toList.forM storeFile
  pure (UInt32.ofNat result.code)

end ResourceInference.CommandLine

open ResourceInference.CommandLine in
/-- Run the command that the arguments spell. -/
def main (args : List String) : IO UInt32 := do
  match Command.parse? args with
  | some command => runCommand command
  | none =>
    IO.eprintln "error: unrecognised arguments"
    pure 2
