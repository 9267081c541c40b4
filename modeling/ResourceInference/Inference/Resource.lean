import ResourceInference.Inference.PropertyType

/-!
# Resources

A resource is made from the bodies of the operation that creates it: what can be set comes from the
request, what is shown from request and response. The property `id` belongs to the provider and is
left out everywhere but in path parameters. A required `name` is not asked for, since it can be
generated.
-/

set_option autoImplicit false

namespace ResourceInference

/-- The SDK name that no property of a body has. -/
def idProperty : String := "id"

/-- The wire name of the property that gets a generated name. -/
def autoNameProperty : String := "name"

/-- The bodies that a resource is made from. -/
structure ResourceBodies where
  request : Schema
  response : Option Schema := none
  /-- Whether the parts of the request's `allOf` require nothing. -/
  stripRequired : Bool := false

/-- A resource under construction. -/
structure ResourceDraft where
  inputs : PropertyMap := ∅
  outputs : PropertyMap := ∅
  requiredInputs : SortedSet := ∅
  requiredOutputs : SortedSet := ∅

namespace ResourceDraft

/-- Add a property that is shown; an `id` is left out. -/
def addOutput (draft : ResourceDraft) (entry : String × PropertySpec) : ResourceDraft :=
  if entry.1 = idProperty then draft
  else { draft with outputs := draft.outputs.insert entry.1 entry.2 }

/-- Add a property of the request. It can be set unless it is read-only. -/
def addRequestProperty (draft : ResourceDraft) (readOnly : Bool)
    (entry : String × PropertySpec) : ResourceDraft :=
  let draft := draft.addOutput entry
  if entry.1 = idProperty || readOnly then draft
  else { draft with inputs := draft.inputs.insert entry.1 entry.2 }

/-- Add a property of a part of the request's `allOf`. It can be set, and is shown unless
something else is shown under its name. -/
def addPartProperty (draft : ResourceDraft) (entry : String × PropertySpec) : ResourceDraft :=
  if entry.1 = idProperty then draft
  else { draft with
    inputs := draft.inputs.insert entry.1 entry.2
    outputs :=
      if draft.outputs.contains entry.1 then draft.outputs
      else draft.outputs.insert entry.1 entry.2 }

/-- Add the name of a property that must be set. -/
def requireInput (draft : ResourceDraft) (sdk : String) : ResourceDraft :=
  if sdk = idProperty then draft
  else { draft with requiredInputs := draft.requiredInputs.add sdk }

/-- Add the name of a property that is always shown. -/
def requireOutput (draft : ResourceDraft) (sdk : String) : ResourceDraft :=
  if sdk = idProperty then draft
  else { draft with requiredOutputs := draft.requiredOutputs.add sdk }

/-- Add an object that is a part of the request's `allOf`. -/
def addPart (draft : ResourceDraft) (stripRequired : Bool) (object : ObjectType) :
    ResourceDraft :=
  let draft := object.properties.toList.foldl addPartProperty draft
  if stripRequired then draft else object.required.foldl requireInput draft

/-- The resource; names without a property are not always shown. -/
def toResource (draft : ResourceDraft) (description : Option String) : ResourceSpec where
  description
  properties := draft.outputs
  required := draft.requiredOutputs.keys.filter (draft.outputs.contains ·)
  inputProperties := draft.inputs
  requiredInputs := draft.requiredInputs.keys

end ResourceDraft

namespace Infer

section

variable (task : InferenceTask) (scope : Scope)

/-! ## Properties of bodies -/

/-- A property of a body. -/
def resourceProperty (wire : String) (found : Lookup.Found) : Infer PropertySpec := do
  let type ← propertyTypeOf task (propertyType task) scope wire (Naming.pascalCase wire) found
  pure (.ofSchema type found.schema)

/-- Resolve a property of a body and record its name. Says also whether it is read-only. -/
def bodyProperty (entry : String × SchemaOrRef) : Infer (Bool × String × PropertySpec) := do
  let (wire, schema) := entry
  let found ← find task schema
  let property ← resourceProperty task scope wire found
  let sdk := Naming.sdkName wire
  recordName wire sdk
  pure (found.schema.readOnly, sdk, property)

/-- Add a property of the request. -/
def gatherRequestProperty (draft : ResourceDraft) (entry : String × SchemaOrRef) :
    Infer ResourceDraft := do
  let (readOnly, property) ← bodyProperty task scope entry
  pure (draft.addRequestProperty readOnly property)

/-- Add a property of the response. -/
def gatherResponseProperty (draft : ResourceDraft) (entry : String × SchemaOrRef) :
    Infer ResourceDraft := do
  let (_, property) ← bodyProperty task scope entry
  pure (draft.addOutput property)

/-- Add what the response shows: the members of its `allOf`, and over them its properties. -/
def gatherResponse (draft : ResourceDraft) (response : Schema) : Infer ResourceDraft := do
  let merged ← mergedMembers task (propertyType task) scope scope.resource response.allOf
  let draft := merged.properties.toList.foldl ResourceDraft.addOutput draft
  response.properties.foldlM (gatherResponseProperty task scope) draft

/-- Add what the response shows, if there is one. -/
def gatherAnswer (draft : ResourceDraft) : Option Schema → Infer ResourceDraft
  | some response => gatherResponse task scope draft response
  | none => pure draft

/-! ## Required names -/

/-- Add a required name of the request. A property that is read-only need not be set, and neither
need the one that gets a generated name. -/
def gatherRequiredInput (token : String) (request : Schema) (draft : ResourceDraft)
    (wire : String) : Infer ResourceDraft := do
  match request.properties.lookup wire with
  | none => pure draft
  | some schema =>
    let found ← find task schema
    if found.schema.readOnly then pure draft
    else if wire = autoNameProperty then
      setAutoName token autoNameProperty
      pure draft
    else pure (draft.requireInput (Naming.sdkName wire))

/-- Add a required name of a body to what is always shown. -/
def gatherRequiredOutput (draft : ResourceDraft) (wire : String) : Infer ResourceDraft := do
  let sdk := Naming.sdkName wire
  recordName wire sdk
  pure (draft.requireOutput sdk)

/-! ## Parts of the request -/

/-- Add a part of the request's `allOf`. -/
def gatherPart (stripRequired : Bool) (draft : ResourceDraft) (part : SchemaOrRef) :
    Infer ResourceDraft := do
  let found ← find task part
  if !found.schema.isObjectLike then pure draft
  else
    let resolved ← propertyType task scope (Naming.pascalCase scope.resource) found
    match ← takeObject resolved with
    | some object => pure (draft.addPart stripRequired object)
    | none => pure draft

/-! ## Resources -/

/-- Everything that the bodies of a resource say. -/
def gatherDraft (token : String) (bodies : ResourceBodies) : Infer ResourceDraft := do
  let request := bodies.request
  let draft ← request.properties.foldlM (gatherRequestProperty task scope) {}
  let draft ← gatherAnswer task scope draft bodies.response
  let draft ← request.required.foldlM (gatherRequiredInput task token request) draft
  let responseRequired := (bodies.response.map (·.required)).getD []
  let draft ← (request.required ++ responseRequired).foldlM gatherRequiredOutput draft
  request.allOf.foldlM (gatherPart task scope bodies.stripRequired) draft

/-- Make the resource of a scope from its bodies, with the path that creates it. -/
def gatherResource (bodies : ResourceBodies) (path : String) : Infer String := do
  let token := task.token scope.module scope.resource
  let draft ← gatherDraft task scope token bodies
  seat token .create path
  putResource token (draft.toResource bodies.request.description)
  pure token

end

/-! ## Path parameters -/

/-- Add a parameter, if it is a path parameter, as a text. -/
def addPathParameter (task : InferenceTask) (properties : PropertyMap)
    (entry : RefOr Parameter) : Infer PropertyMap := do
  let parameter ← ofLookup (Lookup.parameter task.document entry)
  if parameter.isPath then
    let sdk := Naming.sdkName parameter.name
    recordPathParameter parameter.name sdk
    pure (properties.insert sdk { type := .text, description := parameter.description })
  else pure properties

/-- The path parameters of a path and of one of its operations, all required. -/
def pathParameters (task : InferenceTask) (item : PathItem) (operation : Operation) :
    Infer ObjectType := do
  let properties ← (item.parameters ++ operation.parameters).foldlM (addPathParameter task) ∅
  pure ⟨none, properties, properties.keys⟩

/-- A resource that has path parameters among what must be set. -/
def withPathParameters (parameters : ObjectType) (r : ResourceSpec) : ResourceSpec :=
  { r with
    inputProperties := r.inputProperties.union parameters.properties
    requiredInputs :=
      ((SortedSet.ofList r.requiredInputs).union (SortedSet.ofList parameters.required)).keys }

/-- Add path parameters to what must be set on a resource. -/
def addPathParameters (token : String) (parameters : ObjectType) : Infer Unit := do
  match (← get).package.resources.get? token with
  | some resource => putResource token (withPathParameters parameters resource)
  | none => pure ()

end Infer

end ResourceInference
