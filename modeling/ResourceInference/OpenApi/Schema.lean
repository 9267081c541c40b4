import ResourceInference.Data.Value

/-!
# Schemas

The part of a JSON schema that inference reads. Maps of a document keep the order in which the
document lists them. Wherever a component may stand, a reference to one may stand instead
(`RefOr`).
-/

set_option autoImplicit false

namespace ResourceInference

/-- A type keyword. -/
inductive SchemaType where
  | string
  | number
  | integer
  | boolean
  | array
  | object
  | null
  deriving DecidableEq, Repr

namespace SchemaType

/-- All type keywords. -/
def all : List SchemaType := [string, number, integer, boolean, array, object, null]

/-- A type keyword as it is written. -/
def name : SchemaType → String
  | string => "string"
  | number => "number"
  | integer => "integer"
  | boolean => "boolean"
  | array => "array"
  | object => "object"
  | null => "null"

/-- The type keyword that is written so. -/
def ofName? (name : String) : Option SchemaType := all.find? (·.name = name)

end SchemaType

/-- What `type` says: one type, or a list of them. -/
inductive TypeSet where
  | single (type : SchemaType)
  | several (types : List SchemaType)
  deriving DecidableEq, Repr

namespace TypeSet

/-- The types as a list. -/
def types : TypeSet → List SchemaType
  | single type => [type]
  | several types => types

/-- The first type that is not null. -/
def primary? (set : TypeSet) : Option SchemaType := set.types.find? (· ≠ .null)

/-- Whether a type is among them. -/
def contains (set : TypeSet) (type : SchemaType) : Bool := set.types.contains type

end TypeSet

/-- A component, or a reference to one. -/
inductive RefOr (α : Type) where
  | ref (path : String)
  | item (item : α)
  deriving Repr

/-- The component, if it stands there itself. -/
def RefOr.item? {α : Type} : RefOr α → Option α
  | .ref _ => none
  | .item component => some component

/-- Which property tells alternatives apart, and which schema goes with each of its values. -/
structure Discriminator where
  propertyName : String
  mapping : List (String × String)
  deriving DecidableEq, Repr

/-- What is said of properties that are not declared: whether there may be any, or their
schema. -/
inductive AdditionalProperties (α : Type) where
  | allowed (b : Bool)
  | schema (schema : RefOr α)
  deriving Repr

/-- A schema. Keywords that inference does not read are kept in `extensions`. -/
structure Schema where
  type : Option TypeSet := none
  format : Option String := none
  title : Option String := none
  description : Option String := none
  default : Option Value := none
  properties : List (String × RefOr Schema) := []
  required : List String := []
  additionalProperties : Option (AdditionalProperties Schema) := none
  items : Option (RefOr Schema) := none
  allOf : List (RefOr Schema) := []
  oneOf : List (RefOr Schema) := []
  anyOf : List (RefOr Schema) := []
  discriminator : Option Discriminator := none
  enum : List Value := []
  readOnly : Bool := false
  writeOnly : Bool := false
  extensions : List (String × Value) := []

/-- A schema, or a reference to one. -/
abbrev SchemaOrRef := RefOr Schema

namespace Schema

/-- The first declared type that is not null. -/
def primaryType? (s : Schema) : Option SchemaType := s.type.bind TypeSet.primary?

/-- Whether a type is declared. -/
def hasType (s : Schema) (type : SchemaType) : Bool := (s.type.map (·.contains type)).getD false

/-- The extension that marks a property as sensitive. -/
def secretExtension : String := "x-provider-secret"

/-- Whether the schema is marked as sensitive. -/
def isSecret (s : Schema) : Bool :=
  ((s.extensions.lookup secretExtension).bind Value.bool?).getD false

/-- The default value, except of arrays. -/
def scalarDefault? (s : Schema) : Option Value := if s.hasType .array then none else s.default

/-- Whether the schema can give properties to a merge. -/
def isObjectLike (s : Schema) : Bool :=
  s.hasType .object || !s.properties.isEmpty || !s.allOf.isEmpty

/-- The schema of the values, if the schema describes a map: one property schema that stands for
all, beside leave for any property. -/
def mapValues? (s : Schema) : Option SchemaOrRef :=
  match s.additionalProperties with
  | some (.allowed true) => s.properties.head?.map (·.2)
  | _ => none

/-- Whether undeclared properties have a schema. -/
def hasValueSchema (s : Schema) : Bool :=
  match s.additionalProperties with
  | some (.schema _) => true
  | _ => false

end Schema

/-! ## Size -/

mutual

/-- How many schemas and references a schema consists of. -/
def Schema.size : Schema → Nat
  | ⟨_, _, _, _, _, properties, _, additional, items, allOf, oneOf, anyOf, _, _, _, _, _⟩ =>
    1 + sizeOfFields properties + sizeOfAdditional additional + sizeOfOptional items +
      sizeOfList allOf + sizeOfList oneOf + sizeOfList anyOf

/-- The size of a schema, or 1 for a reference. -/
def sizeOfRef : RefOr Schema → Nat
  | .ref _ => 1
  | .item s => s.size

/-- The size of the schemas of properties. -/
def sizeOfFields : List (String × RefOr Schema) → Nat
  | [] => 0
  | (_, s) :: rest => sizeOfRef s + sizeOfFields rest

/-- The size of a list of schemas. -/
def sizeOfList : List (RefOr Schema) → Nat
  | [] => 0
  | s :: rest => sizeOfRef s + sizeOfList rest

/-- The size of a schema that may be absent. -/
def sizeOfOptional : Option (RefOr Schema) → Nat
  | none => 0
  | some s => sizeOfRef s

/-- The size of what is said of undeclared properties. -/
def sizeOfAdditional : Option (AdditionalProperties Schema) → Nat
  | none => 0
  | some (.allowed _) => 0
  | some (.schema s) => sizeOfRef s

end

end ResourceInference
