import ResourceInference.Provider.TypeSpec

/-!
# Named types

Properties, and the two kinds of types that are registered under a token: objects and enums.
-/

set_option autoImplicit false

namespace ResourceInference

/-- The entries of a map as an object, in the order of the keys. -/
def SortedMap.encode {α : Type} (encodeValue : α → Value) (m : SortedMap α) : Value :=
  .object (m.toList.map fun (key, value) => (key, encodeValue value))

/-! ## Properties -/

/-- A property of an object, a resource or the inputs of a function. -/
structure PropertySpec where
  type : TypeSpec
  description : Option String := none
  default : Option Value := none
  secret : Bool := false

/-- Properties by SDK name. -/
abbrev PropertyMap := SortedMap PropertySpec

namespace PropertySpec

/-- Whether two optional values are both absent or the same data. -/
def sameDefault : Option Value → Option Value → Bool
  | none, none => true
  | some a, some b => a.same b
  | _, _ => false

/-- Whether two properties agree, default values by value. -/
def same (a b : PropertySpec) : Bool :=
  a.type = b.type && a.description = b.description && sameDefault a.default b.default &&
    a.secret = b.secret

/-- Whether two property maps have the same names, and agree under each. -/
def sameEntries : List (String × PropertySpec) → List (String × PropertySpec) → Bool
  | [], [] => true
  | (k, a) :: as, (l, b) :: bs => k = l && same a b && sameEntries as bs
  | _, _ => false

/-- A property as data: its type, and what else is said of it. -/
def encode (p : PropertySpec) : Value :=
  .object (p.type.entries ++ [
    Value.entry? "description" Value.string p.description,
    Value.entry? "default" id p.default,
    Value.entryUnless (!p.secret) "secret" (.bool p.secret)].filterMap id)

end PropertySpec

/-! ## Object types -/

/-- An object type: its properties, and the names of those that must be present, in ascending
order. -/
structure ObjectType where
  description : Option String := none
  properties : PropertyMap := ∅
  required : List String := []

namespace ObjectType

/-- Whether two object types agree, default values by value. -/
def same (a b : ObjectType) : Bool :=
  a.description = b.description &&
    PropertySpec.sameEntries a.properties.toList b.properties.toList && a.required = b.required

/-- An object type as data. -/
def encode (o : ObjectType) : Value :=
  .record [
    Value.entry? "description" Value.string o.description,
    Value.entryUnless o.properties.isEmpty "properties" (o.properties.encode PropertySpec.encode),
    Value.entryUnless o.required.isEmpty "required" (Value.strings o.required)]

end ObjectType

/-! ## Enum types -/

/-- A member of an enum: its generated name and its value on the wire. -/
structure EnumMember where
  name : String
  value : Value

/-- An enum over a scalar type. -/
structure EnumType where
  description : Option String := none
  base : Primitive
  members : List EnumMember

namespace EnumType

/-- The generated names of the members. -/
def names (e : EnumType) : List String := e.members.map (·.name)

/-- Whether two enums have equally many members and every member name of the second belongs to
the first. -/
def sameMembers (a b : EnumType) : Bool :=
  a.members.length == b.members.length && b.names.all (a.names.contains ·)

/-- A member as data. -/
def encodeMember (m : EnumMember) : Value :=
  .object [("name", .string m.name), ("value", m.value)]

/-- Whether two lists of members agree, values by value. -/
def sameMemberLists : List EnumMember → List EnumMember → Bool
  | [], [] => true
  | a :: as, b :: bs => a.name = b.name && a.value.same b.value && sameMemberLists as bs
  | _, _ => false

/-- Whether two enums agree, values by value. -/
def same (a b : EnumType) : Bool :=
  a.description = b.description && a.base = b.base && sameMemberLists a.members b.members

/-- An enum as data. -/
def encode (e : EnumType) : Value :=
  .record [
    Value.entry? "description" Value.string e.description,
    Value.entry "type" (.string e.base.name),
    Value.entry "enum" (.list (e.members.map encodeMember))]

end EnumType

/-! ## Registered types -/

/-- A type that is registered under a token. -/
inductive NamedType where
  | object (type : ObjectType)
  | enum (type : EnumType)

namespace NamedType

/-- The object type, if it is one. -/
def object? : NamedType → Option ObjectType
  | object type => some type
  | enum _ => none

/-- Whether two registered types agree. -/
def same : NamedType → NamedType → Bool
  | object a, object b => a.same b
  | enum a, enum b => a.same b
  | _, _ => false

/-- A registered type as data. -/
def encode : NamedType → Value
  | object type => type.encode
  | enum type => type.encode

end NamedType

end ResourceInference
