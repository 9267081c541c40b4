import ResourceInference.Data.Value
import ResourceInference.SortedMap

/-!
# Types of properties

A type spec is the type of a property, an array item, a map value or the result of a function.
Named types are mentioned by token; `TypeSpec.tokens` lists every token that a spec mentions, in
unions also those that the discriminator points at. The written form has references in place of
tokens. A spec and the mapping of a discriminator hold the bare token, and `#/types/` is put in
front of it when they are encoded (`TypeSpec.reference`, `TypeSpec.encodeDiscriminator`).
-/

set_option autoImplicit false

namespace ResourceInference

/-- The scalar types. -/
inductive Primitive where
  | string
  | integer
  | number
  | boolean
  deriving DecidableEq, Repr

/-- The name of a scalar type. -/
def Primitive.name : Primitive → String
  | .string => "string"
  | .integer => "integer"
  | .number => "number"
  | .boolean => "boolean"

/-- Which property tells the variants of a union apart, and the token of the variant that goes
with each of its values. -/
structure UnionDiscriminator where
  propertyName : String
  mapping : SortedMap String
  deriving DecidableEq

/-- The type of a value. -/
inductive TypeSpec where
  | primitive (type : Primitive)
  /-- An object without a declared shape. -/
  | any
  | array (items : TypeSpec)
  /-- An object whose values all have one type. -/
  | map (values : TypeSpec)
  /-- The named type registered under a token. -/
  | named (token : String)
  | union (variants : List TypeSpec) (discriminator : Option UnionDiscriminator)
  deriving Inhabited

namespace TypeSpec

/-- The type of texts. -/
def text : TypeSpec := primitive .string

/-- The token of a named type. -/
def token? : TypeSpec → Option String
  | named token => some token
  | _ => none

theorem token?_eq_some {spec : TypeSpec} {token : String} :
    spec.token? = some token ↔ spec = named token := by
  cases spec <;> simp [token?]

mutual

/-- Whether two type specs are equal. -/
def beq : TypeSpec → TypeSpec → Bool
  | primitive a, primitive b => a = b
  | any, any => true
  | array a, array b => beq a b
  | map a, map b => beq a b
  | named a, named b => a = b
  | union a d, union b e => beqList a b && d = e
  | _, _ => false

/-- Whether two lists of type specs are equal. -/
def beqList : List TypeSpec → List TypeSpec → Bool
  | [], [] => true
  | a :: as, b :: bs => beq a b && beqList as bs
  | _, _ => false

end

mutual

theorem eq_of_beq : ∀ {a b : TypeSpec}, beq a b = true → a = b
  | primitive _, b, h => by cases b <;> simp_all [beq]
  | any, b, h => by cases b <;> simp_all [beq]
  | array a, b, h => by
    cases b with
    | array b => simp only [beq] at h; rw [eq_of_beq h]
    | _ => simp [beq] at h
  | map a, b, h => by
    cases b with
    | map b => simp only [beq] at h; rw [eq_of_beq h]
    | _ => simp [beq] at h
  | named _, b, h => by cases b <;> simp_all [beq]
  | union a d, b, h => by
    cases b with
    | union b e =>
      simp only [beq, Bool.and_eq_true, decide_eq_true_eq] at h
      rw [eq_of_beqList h.1, h.2]
    | _ => simp [beq] at h

theorem eq_of_beqList : ∀ {as bs : List TypeSpec}, beqList as bs = true → as = bs
  | [], bs, h => by cases bs <;> simp_all [beqList]
  | a :: as, bs, h => by
    cases bs with
    | nil => simp [beqList] at h
    | cons b bs =>
      simp only [beqList, Bool.and_eq_true] at h
      rw [eq_of_beq h.1, eq_of_beqList h.2]

end

mutual

theorem beq_refl : ∀ a : TypeSpec, beq a a = true
  | primitive _ => by simp [beq]
  | any => by simp [beq]
  | array a => by simp [beq, beq_refl a]
  | map a => by simp [beq, beq_refl a]
  | named _ => by simp [beq]
  | union a _ => by simp [beq, beqList_refl a]

theorem beqList_refl : ∀ as : List TypeSpec, beqList as as = true
  | [] => by simp [beqList]
  | a :: as => by simp [beqList, beq_refl a, beqList_refl as]

end

instance : DecidableEq TypeSpec := fun a b =>
  decidable_of_iff (beq a b = true) ⟨eq_of_beq, fun h => h ▸ beq_refl a⟩

mutual

/-- Every token that a type spec mentions. -/
def tokens : TypeSpec → List String
  | primitive _ => []
  | any => []
  | array items => tokens items
  | map values => tokens values
  | named token => [token]
  | union variants discriminator =>
    tokensOfList variants ++ (discriminator.map fun d => d.mapping.toList.map (·.2)).getD []

/-- Every token that a list of type specs mentions. -/
def tokensOfList : List TypeSpec → List String
  | [] => []
  | spec :: rest => tokens spec ++ tokensOfList rest

end

/-! ## Written form -/

/-- What an object without a declared shape refers to. -/
def anyReference : String := "pulumi.json#/Any"

/-- The reference to a named type. -/
def reference (token : String) : String := "#/types/" ++ token

/-- A discriminator as data; an empty mapping is left out. -/
def encodeDiscriminator (d : UnionDiscriminator) : Value :=
  .record [
    Value.entry "propertyName" (.string d.propertyName),
    Value.entryUnless d.mapping.isEmpty "mapping"
      (.object (d.mapping.toList.map fun (value, token) => (value, .string (reference token))))]

mutual

/-- The entries that say a type. -/
def entries : TypeSpec → List (String × Value)
  | primitive type => [("type", .string type.name)]
  | any => [("$ref", .string anyReference)]
  | array items => [("type", .string "array"), ("items", .object (entries items))]
  | map values => [("type", .string "object"), ("additionalProperties", .object (entries values))]
  | named token => [("$ref", .string (reference token))]
  | union variants discriminator =>
    ("oneOf", .list (encodeList variants)) ::
      (discriminator.map fun d => ("discriminator", encodeDiscriminator d)).toList

/-- Type specs as data. -/
def encodeList : List TypeSpec → List Value
  | [] => []
  | spec :: rest => .object (entries spec) :: encodeList rest

end

/-- A type spec as data. -/
def encode (spec : TypeSpec) : Value := .object (entries spec)

end TypeSpec

end ResourceInference
