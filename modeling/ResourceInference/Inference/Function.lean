import ResourceInference.Inference.Resource

/-!
# Functions

An operation that reads is a function of the path parameters. A function that reads one thing
returns its type; one that lists returns a named type, or an object that holds the list under
`items`.
-/

set_option autoImplicit false

namespace ResourceInference

/-- The property that holds a list without a name of its own. -/
def itemsProperty : String := "items"

/-- The token that a list's type moves to, if it is named like the function, in any case of the
letters. -/
def listTypeTarget? (functionName token : String) : Option String :=
  (Text.cutAtLast? ':' token).bind fun (start, name) =>
    if Text.sameIgnoringAsciiCase name functionName then some (start ++ ":" ++ name ++ "Items")
    else none

/-- What a function that lists returns. -/
def listResult : TypeSpec → ReturnType
  | .named token => .spec (.named token)
  | type => .object
      ⟨none, (∅ : PropertyMap).insert itemsProperty { type }, [itemsProperty]⟩

/-- The description of an operation, or that of its path. -/
def operationDescription (item : PathItem) (operation : Operation) : Option String :=
  operation.description.or item.description

namespace Infer

/-- The result of a function that reads one thing. Without a schema it has none. -/
def getResult (task : InferenceTask) (scope : Scope) (name : String) :
    Option Lookup.Found → Infer (Option ReturnType)
  | some found => do
    let resolved ← propertyType task scope (Naming.pascalCase name) found
    pure (some (.spec resolved.type))
  | none => pure none

/-- The function of an operation that reads one thing. -/
def getFunction (task : InferenceTask) (scope : Scope) (item : PathItem) (operation : Operation)
    (name : String) (returns : Option Lookup.Found) : Infer FunctionSpec := do
  let inputs ← pathParameters task item operation
  let result ← getResult task scope name returns
  pure ⟨operationDescription item operation, some inputs, result⟩

/-- Move the type of a list that is named like the function. -/
def renameListType (name : String) (type : TypeSpec) : Infer TypeSpec := do
  let move := type.token?.bind fun token =>
    (listTypeTarget? name token).map fun target => (token, target)
  match move with
  | some (token, target) =>
    moveType token target
    pure (.named target)
  | none => pure type

/-- The function of an operation that lists. -/
def listFunction (task : InferenceTask) (scope : Scope) (item : PathItem) (operation : Operation)
    (name : String) (returns : Lookup.Found) : Infer FunctionSpec := do
  let inputs ← pathParameters task item operation
  let resolved ← propertyType task scope (Naming.pascalCase name) returns
  let type ← renameListType name resolved.type
  pure ⟨operationDescription item operation, some inputs, some (listResult type)⟩

end Infer

end ResourceInference
