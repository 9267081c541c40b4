import ResourceInference.Inference.Error
import ResourceInference.Inference.Journal
import ResourceInference.Inference.Options
import ResourceInference.Provider.Package

/-!
# The state of inference

All paths of a document share one session: the package so far, its tables, and the tokens of the
components that have been entered. What a step changes before it fails stays changed.

A registered type is never replaced (`register`). Names, slots and auto-names are given once
(`assign`, `CrudPaths.seat`).
-/

set_option autoImplicit false

namespace ResourceInference

/-- Where a schema is resolved: the module of its tokens, and the resource or function that it
belongs to. -/
structure Scope where
  module : String
  resource : String

/-- The state of inference. -/
structure Session where
  package : Package
  metadata : Metadata := {}
  /-- The tokens of components that are registered or under construction. -/
  visited : SortedSet := ∅
  /-- What has happened, latest first. -/
  journal : List Event := []

/-- The session before the first step. -/
def Session.new (options : InferenceOptions) : Session where
  package := ⟨options.packageName, ∅, ∅, ∅⟩

/-- A step of inference. -/
abbrev Infer := ExceptT InferenceError (StateM Session)

namespace Infer

/-- The result of a look-up. -/
def ofLookup {α : Type} : Except LookupError α → Infer α
  | .ok a => pure a
  | .error e => throw (.lookup e)

/-- Change the package. -/
def modifyPackage (f : Package → Package) : Infer Unit :=
  modify fun s => { s with package := f s.package }

/-- Write an event down. -/
def note (event : Event) : Infer Unit :=
  modify fun s => { s with journal := event :: s.journal }

/-- Change the tables. -/
def modifyMetadata (f : Metadata → Metadata) : Infer Unit :=
  modify fun s => { s with metadata := f s.metadata }

/-! ## Types -/

/-- The type under a token. -/
def type? (token : String) : Infer (Option NamedType) :=
  return (← get).package.types.get? token

/-- Whether the component of a token has been entered. -/
def isVisited (token : String) : Infer Bool := return (← get).visited.contains token

/-- Note that the component of a token is entered. -/
def markVisited (token : String) : Infer Unit :=
  modify fun s => { s with visited := s.visited.add token }

/-- Forget that the component of a token was entered. -/
def unmarkVisited (token : String) : Infer Unit :=
  modify fun s => { s with visited := s.visited.erase token }

/-- Register a type, unless its token is taken. Says whether it was registered. -/
def register (token : String) (type : NamedType) : Infer Bool := do
  if (← get).package.types.contains token then pure false
  else
    modifyPackage fun p => { p with types := p.types.insert token type }
    pure true

/-- Drop a type; a later reference to its component enters it again. -/
def removeType (token : String) : Infer Unit := do
  unmarkVisited token
  modifyPackage fun p => { p with types := p.types.erase token }
  note (.dropped token)

/-- Put the type under a token under another one. -/
def moveType (source target : String) : Infer Unit := do
  unmarkVisited source
  match ← type? source with
  | some type =>
    modifyPackage fun p => { p with types := (p.types.erase source).insert target type }
    note (.moved source target)
  | none => pure ()

/-! ## Resources and functions -/

/-- Put a resource under a token. -/
def putResource (token : String) (resource : ResourceSpec) : Infer Unit :=
  modifyPackage fun p => { p with resources := p.resources.insert token resource }

/-- Put a function under a token. -/
def putFunction (token : String) (function : FunctionSpec) : Infer Unit :=
  modifyPackage fun p => { p with functions := p.functions.insert token function }

/-- Give a slot of a token its path. -/
def seat (token : String) (slot : CrudSlot) (path : String) : Infer Unit := do
  match (((← get).metadata.crud.get? token).getD {}).seat slot path with
  | .ok paths => modifyMetadata fun m => { m with crud := m.crud.insert token paths }
  | .error existing => throw (.ambiguousOperation token slot existing path)

/-- Name the property of a resource that gets a generated name. -/
def setAutoName (token property : String) : Infer Unit := do
  match assign (← get).metadata.autoNames token property with
  | .ok autoNames => modifyMetadata fun m => { m with autoNames }
  | .error existing => throw (.autoNameConflict token existing property)

/-- Give a module its namespace, if it has none. -/
def addModule (module : String) : Infer Unit :=
  modifyMetadata fun m =>
    if m.moduleNamespaces.contains module then m
    else { m with
      moduleNamespaces := m.moduleNamespaces.insert module (Naming.moduleNamespace module) }

/-! ## Names -/

/-- A table of names in which a name has been given its counterpart. -/
def assignName (table : SortedMap String) (key value : String) : Infer (SortedMap String) :=
  match assign table key value with
  | .ok table => pure table
  | .error existing => throw (.nameConflict key existing value)

/-- Note a wire name and its SDK name in both directions, if the two differ. -/
def recordName (wire sdk : String) : Infer Unit := do
  if wire = sdk then pure ()
  else
    let wireNames ← assignName (← get).metadata.wireNames sdk wire
    modifyMetadata fun m => { m with wireNames }
    let sdkNames ← assignName (← get).metadata.sdkNames wire sdk
    modifyMetadata fun m => { m with sdkNames }

/-- Note the wire name of a path parameter and its SDK name, if the two differ. -/
def recordPathParameter (wire sdk : String) : Infer Unit := do
  if wire = sdk then pure ()
  else
    recordName wire sdk
    let pathParameters ← assignName (← get).metadata.pathParameters wire sdk
    modifyMetadata fun m => { m with pathParameters }

end Infer

end ResourceInference
