import ResourceInference.Naming.Identifier
import ResourceInference.OpenApi.Method

/-!
# Names read off operations and paths

The title of a resource is the identifier of an operation without the verbs that go with its
method. The module of an operation is a segment of its path.
-/

set_option autoImplicit false

namespace ResourceInference.Naming

/-! ## Titles -/

/-- The words of an operation id that say what a method does. -/
def verbs : Method → List String
  | .get => ["get", "list", "show"]
  | .post => ["add", "create", "post", "put", "set"]
  | .put => ["add", "create", "put", "set", "update", "replace"]
  | .patch => ["patch", "update"]
  | .delete => ["delete", "destroy", "remove"]

/-- Whether a word is a verb of the method, in any case of its letters. -/
def isVerb (method : Method) (word : String) : Bool :=
  (verbs method).any (Text.sameIgnoringAsciiCase word)

/-- The part of an operation id after the last namespace separator. An empty separator separates
nothing. -/
def unqualified (operationId : String) (separator : Option String) : String :=
  match separator with
  | none => operationId
  | some sep =>
    if sep.isEmpty then operationId
    else match Text.afterLast? sep.toList operationId.toList with
      | some rest => String.ofList rest
      | none => operationId

/-- The title of the resource that an operation works on: its id without the verbs of the
method. -/
def resourceTitle (operationId : String) (method : Method) (separator : Option String) :
    String :=
  let words := splitWords (mergeSnakeCase (unqualified operationId separator))
  pascalCase (Text.join '_' (words.filter fun word => !isVerb method word))

/-- The title of a resource made from a schema: the schema's own title, unless it is empty, or
the name of the component. -/
def schemaTitle (componentName : String) (title : Option String) : String :=
  match title with
  | some title => if title.isEmpty then pascalCase componentName else pascalCase title
  | none => pascalCase componentName

/-- Whether an operation id speaks of a list, in any case of the letters. -/
def mentionsList (operationId : String) : Bool :=
  Text.occursIn "list".toList (Text.lower operationId).toList

/-- Endings of resource names that look like a plural and are none. -/
def defaultPlurals : List String := ["Status", "Address", "Access", "Alias", "Dns", "Series"]

/-- A resource name without its last `s`, unless the name ends with one of `plurals`. -/
def singular (name : String) (plurals : List String) : String :=
  if plurals.any fun ending => ending.toList.isSuffixOf name.toList then name
  else match name.toList.reverse with
    | 's' :: rest => String.ofList rest.reverse
    | _ => name

/-! ## Modules -/

/-- Whether a path segment holds a variable at one of its ends. -/
def isVariableSegment (segment : String) : Bool :=
  segment.toList.head? == some '{' || segment.toList.getLast? == some '}'

/-- The segments of a path, without the slashes in front of it. -/
def pathSegments (path : String) : List String :=
  (Text.pieces '/' (path.toList.dropWhile (· == '/'))).map String.ofList

/-- The path without its last segment, if that is a variable. -/
def parentPath (path : String) : String :=
  let segments := pathSegments path
  match segments.getLast? with
  | some last =>
    if isVariableSegment last then "/" ++ Text.join '/' segments.dropLast else path
  | none => path

/-- `v`, a number, and any small letters and digits: the name of a version of an interface. -/
def isVersionSegment (segment : String) : Bool :=
  match segment.toList with
  | 'v' :: digit :: rest => digit.isDigit && rest.all fun c => c.isDigit || c.isLower
  | _ => false

/-- The module of a path: its first segment, with the version behind it if the first segment is a
version. With `useParent` the last segment of the parent path. -/
def moduleOf (path : String) (useParent : Bool) : String :=
  if useParent then
    Text.lower (((Text.split '/' (parentPath path)).getLast?).getD "")
  else match pathSegments path with
    | [] => ""
    | first :: rest =>
      if isVersionSegment first then
        match rest with
        | [] => first
        | resource :: _ => Text.lower resource ++ "/" ++ first
      else Text.lower first

/-- A module as part of a namespace: `widgets/v2` is `WidgetsV2`. -/
def moduleNamespace (module : String) : String :=
  String.join ((Text.split '/' module).map pascalCase)

end ResourceInference.Naming
