import ResourceInference.Data.Entries
import ResourceInference.OpenApi.Lookup
import ResourceInference.Text.Case

/-!
# Path templates

A path template is a text of segments between slashes; a segment in braces is a variable.
Normalising a template renames variables so that the last segment's own id, and no other variable,
is called `id`: a variable `id` further in front is named after the segment before it. The
parameters that declare the variables are renamed with them, and a parameter that is a reference
becomes one that stands in place.
-/

set_option autoImplicit false

namespace ResourceInference.PathTemplate

/-- The name of the variable that a segment is. -/
def variableName? (segment : String) : Option String :=
  match segment.toList with
  | '\x7b' :: rest =>
    match rest.reverse with
    | '\x7d' :: name => some (String.ofList name.reverse)
    | _ => none
  | _ => none

/-- The segment that is a variable. -/
def variableSegment (name : String) : String := "\x7b" ++ name ++ "\x7d"

/-- Whether a character is a brace. -/
def isBrace (c : Char) : Bool := c == '\x7b' || c == '\x7d'

/-- The name of an `id` that belongs to the segment before it. -/
def parentIdName (parent : String) : String :=
  let stem := Text.trimBoth isBrace parent.toList
  String.ofList stem ++ (if stem.contains '_' then "_id" else "Id")

/-- Whether a name speaks of an id, in any case of the letters. -/
def mentionsId (name : String) : Bool := Text.occursIn "id".toList (Text.lower name).toList

/-- The new name of a variable, if it gets one. `parent` is the segment before it. -/
def newName? (parent : Option String) (isLast : Bool) (name : String) : Option String :=
  if isLast then (if name ≠ "id" ∧ mentionsId name then some "id" else none)
  else if name = "id" then some (parentIdName (parent.getD ""))
  else none

/-- Rename the variables of the segments behind `parent`, which is itself already renamed. The
renamings come along, old names first. -/
def renameSegments (parent : Option String) : List String → List String × List (String × String)
  | [] => ([], [])
  | segment :: rest =>
    match (variableName? segment).bind fun name =>
        (newName? parent rest.isEmpty name).map fun new => (name, new) with
    | some (name, new) =>
      let renamed := variableSegment new
      let (segments, renamings) := renameSegments (some renamed) rest
      (renamed :: segments, (name, new) :: renamings)
    | none =>
      let (segments, renamings) := renameSegments (some segment) rest
      (segment :: segments, renamings)

/-- The renamings by old name; of two for one name the later one counts. -/
def renamingTable (renamings : List (String × String)) : List (String × String) :=
  renamings.foldl (fun table (old, new) => putEntry old new table) []

/-- A parameter with its new name, in place, if it is a path parameter that gets one. -/
def renameParameter (d : Document) (table : List (String × String)) (entry : RefOr Parameter) :
    Except LookupError (RefOr Parameter) := do
  let parameter ← Lookup.parameter d entry
  if parameter.isPath then
    match table.lookup parameter.name with
    | some new => pure (.item { parameter with name := new })
    | none => pure entry
  else pure entry

/-- A list of parameters with their new names, up to the first reference that leads nowhere. -/
def renameParameters (d : Document) (table : List (String × String)) :
    List (RefOr Parameter) → List (RefOr Parameter) × Option LookupError
  | [] => ([], none)
  | entry :: rest =>
    match renameParameter d table entry with
    | .error e => (entry :: rest, some e)
    | .ok renamed =>
      let (renamedRest, error) := renameParameters d table rest
      (renamed :: renamedRest, error)

/-- A path item with the parameters of one operation renamed. -/
def renameOperation (d : Document) (table : List (String × String)) (item : PathItem)
    (method : Method) : PathItem × Option LookupError :=
  match item.operation? method with
  | none => (item, none)
  | some operation =>
    let (parameters, error) := renameParameters d table operation.parameters
    (item.setOperation method (some { operation with parameters }), error)

/-- A path item with the parameters of some operations renamed, one after the other. -/
def renameOperations (d : Document) (table : List (String × String)) (item : PathItem) :
    List Method → PathItem × Option LookupError
  | [] => (item, none)
  | method :: rest =>
    match renameOperation d table item method with
    | (changed, some e) => (changed, some e)
    | (changed, none) => renameOperations d table changed rest

/-- A path item with its own parameters renamed, and then those of its operations. -/
def renameItem (d : Document) (table : List (String × String)) (item : PathItem) :
    PathItem × Option LookupError :=
  match renameParameters d table item.parameters with
  | (parameters, some e) => ({ item with parameters }, some e)
  | (parameters, none) => renameOperations d table { item with parameters } Method.all

/-- A path and its item with ids named by their place, or the reference of a parameter that leads
nowhere. The item comes back also in this case, as far as it was changed. -/
def normalize (d : Document) (path : String) (item : PathItem) :
    Except LookupError String × PathItem :=
  let (segments, renamings) := renameSegments none (Text.split '/' path)
  if renamings.isEmpty then (.ok path, item)
  else match renameItem d (renamingTable renamings) item with
    | (changed, some e) => (.error e, changed)
    | (changed, none) => (.ok (Text.join '/' segments), changed)

end ResourceInference.PathTemplate
