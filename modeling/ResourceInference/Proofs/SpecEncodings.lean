import Mathlib.Data.Prod.Basic
import ResourceInference.Proofs.Decoding
import ResourceInference.Provider.Package

/-!
# Written specs

A package and its parts can be told apart by how they are written (`encodings_injective`). None of
them is written with a tag: a type spec is told by its keys and by the text under the first of them,
the entries of a property's type stand among those of the property itself, and whether a named type
is an object or an enum is told by the key `type`. What is left out is told by its absence, as an
empty table or list is never written.

A record answers each of its names with one field (`Decode.answer`), so records that are written
alike agree field by field (`Value.answer_eq`).
-/

set_option autoImplicit false

namespace ResourceInference

open Function (Injective)

variable {α : Type}

/-! ## Fields -/

namespace Value

/-- Records that are written alike answer alike. -/
theorem answer_eq {left right : List (Option (String × Value))}
    (same : record left = record right) (name : String) :
    Decode.answer left name = Decode.answer right name := by
  injection same with entries
  rw [Decode.answer, Decode.answer, entries]

theorem string_injective : Injective string := fun _ _ same => by injection same

theorem strings_injective : Injective strings := by
  intro texts texts' same
  injection same with items
  exact string_injective.list_map items

/-- A field is told by what is written, if there is one way at most to leave it out. -/
theorem eq_of_unless (absent : α → Bool) {encode : α → Value} (encoded : Injective encode)
    (single : ∀ a b, absent a = true → absent b = true → a = b) {a b : α}
    (same : (if absent a then none else some (encode a)) =
      if absent b then none else some (encode b)) : a = b := by
  split at same <;> rename_i left <;> split at same <;> rename_i right
  · exact single a b left right
  · cases same
  · cases same
  · exact encoded (Option.some.inj same)

/-- A list of names that is left out if it is empty. -/
theorem eq_of_unlessEmpty {texts texts' : List String}
    (same : (if texts.isEmpty then none else some (strings texts)) =
      if texts'.isEmpty then none else some (strings texts')) : texts = texts' :=
  eq_of_unless List.isEmpty strings_injective
    (fun _ _ left right => (List.isEmpty_iff.1 left).trans (List.isEmpty_iff.1 right).symm) same

end Value

namespace SortedMap

variable {encodeValue : α → Value} (encoded : Injective encodeValue)

include encoded

theorem encode_injective : Injective (SortedMap.encode encodeValue) := by
  rintro ⟨entries, _⟩ ⟨entries', _⟩ same
  injection same with written
  have each : Injective (Prod.map id encodeValue : String × α → String × Value) :=
    Function.injective_id.prodMap encoded
  obtain rfl : entries = entries' := each.list_map written
  rfl

/-- A table that is left out if it is empty. -/
theorem eq_of_unlessEmpty {m n : SortedMap α}
    (same : (if m.isEmpty then none else some (m.encode encodeValue)) =
      if n.isEmpty then none else some (n.encode encodeValue)) : m = n := by
  refine Value.eq_of_unless isEmpty (encode_injective encoded) ?_ same
  rintro ⟨entries, _⟩ ⟨entries', _⟩ left right
  obtain rfl : entries = [] := List.isEmpty_iff.1 left
  obtain rfl : entries' = [] := List.isEmpty_iff.1 right
  rfl

end SortedMap

/-! ## Type specs -/

theorem Primitive.name_injective : Injective Primitive.name := by
  intro p q same
  cases p <;> cases q <;> first | rfl | simp [name] at same

namespace TypeSpec

theorem reference_injective : Injective reference := by
  intro token token' same
  simpa [reference] using same

/-- No token is referred to as an object without a declared shape is. -/
theorem reference_ne_anyReference (token : String) : reference token ≠ anyReference := by
  intro same
  have letters := congrArg String.toList same
  simp [reference, anyReference] at letters

theorem encodeDiscriminator_injective : Injective encodeDiscriminator := by
  rintro ⟨name, mapping⟩ ⟨name', mapping'⟩ same
  have answers := Value.answer_eq same
  obtain rfl : name = name' := by simpa using answers "propertyName"
  obtain rfl : mapping = mapping' :=
    SortedMap.eq_of_unlessEmpty (Value.string_injective.comp reference_injective)
      (by simpa [SortedMap.encode] using answers "mapping")
  rfl

mutual

/-- The keys tell a scalar, an array or a map from a reference and from a union. The text under
`type` tells the first three apart, and the one under `$ref` tells the references. -/
theorem eq_of_entries : ∀ {a b : TypeSpec}, entries a = entries b → a = b
  | primitive p, b, same => by
    cases b with
    | primitive q =>
      obtain rfl : p = q := Primitive.name_injective (by simpa [entries] using same)
      rfl
    | _ => simp [entries] at same
  | any, b, same => by
    cases b with
    | any => rfl
    | named token =>
      exact absurd (by simpa [entries] using same.symm) (reference_ne_anyReference token)
    | _ => simp [entries] at same
  | array items, b, same => by
    cases b with
    | array others =>
      obtain rfl : items = others := eq_of_entries (by simpa [entries] using same)
      rfl
    | _ => simp [entries] at same
  | map values, b, same => by
    cases b with
    | map others =>
      obtain rfl : values = others := eq_of_entries (by simpa [entries] using same)
      rfl
    | _ => simp [entries] at same
  | named token, b, same => by
    cases b with
    | any => exact absurd (by simpa [entries] using same) (reference_ne_anyReference token)
    | named other =>
      obtain rfl : token = other := reference_injective (by simpa [entries] using same)
      rfl
    | _ => simp [entries] at same
  | union variants discriminator, b, same => by
    cases b with
    | union others discriminator' =>
      obtain ⟨listed, told⟩ : encodeList variants = encodeList others ∧
          discriminator.map encodeDiscriminator = discriminator'.map encodeDiscriminator := by
        cases discriminator <;> cases discriminator' <;> simp_all [entries]
      rw [eq_of_encodeList listed, Option.map_injective encodeDiscriminator_injective told]
    | _ => simp [entries] at same

theorem eq_of_encodeList : ∀ {as bs : List TypeSpec}, encodeList as = encodeList bs → as = bs
  | [], [], _ => rfl
  | a :: as, b :: bs, same => by
    obtain ⟨first, others⟩ := List.cons.inj same
    injection first with first
    rw [eq_of_entries first, eq_of_encodeList others]

end

theorem encode_injective : Injective encode := by
  intro a b same
  injection same with same
  exact eq_of_entries same

end TypeSpec

/-! ## Properties and object types -/

namespace PropertySpec

/-- What is said of a property beside its type. -/
def remarks (p : PropertySpec) : List (Option (String × Value)) := [
  Value.entry? "description" Value.string p.description,
  Value.entry? "default" id p.default,
  Value.entryUnless (!p.secret) "secret" (.bool p.secret)]

/-- The keys of a type spec are none of those of the remarks. -/
theorem not_mem_keys (type : TypeSpec) {key : String}
    (remark : key ∈ ["description", "default", "secret"]) :
    key ∉ type.entries.map (·.1) := by
  simp only [List.mem_cons, List.not_mem_nil, or_false] at remark
  cases type with
  | union variants discriminator =>
    rcases remark with rfl | rfl | rfl <;> cases discriminator <;> simp [TypeSpec.entries]
  | _ => rcases remark with rfl | rfl | rfl <;> simp [TypeSpec.entries]

/-- Properties that are written alike have the same remarks. -/
theorem answer_remarks_eq {p q : PropertySpec} (same : p.encode = q.encode) (name : String)
    (remark : name ∈ ["description", "default", "secret"]) :
    Decode.answer p.remarks name = Decode.answer q.remarks name := by
  injection same with entries
  have answers := congrArg (List.lookup name) entries
  rwa [lookup_append_of_not_mem (not_mem_keys p.type remark),
    lookup_append_of_not_mem (not_mem_keys q.type remark)] at answers

/-- The remarks are told by their keys, and what is in front of them is the type. -/
theorem encode_injective : Injective encode := by
  rintro ⟨type, description, default, secret⟩ ⟨type', description', default', secret'⟩ same
  have answers := answer_remarks_eq same
  obtain rfl : description = description' :=
    Option.map_injective Value.string_injective
      (by simpa [remarks] using answers "description" (by simp))
  obtain rfl : default = default' := by simpa [remarks] using answers "default" (by simp)
  obtain rfl : secret = secret' := by
    have secrets := answers "secret" (by simp)
    cases secret <;> cases secret' <;> simp [remarks] at secrets ⊢
  injection same with entries
  obtain rfl : type = type' := TypeSpec.eq_of_entries (List.append_cancel_right entries)
  rfl

end PropertySpec

theorem ObjectType.encode_injective : Injective ObjectType.encode := by
  rintro ⟨description, properties, required⟩ ⟨description', properties', required'⟩ same
  have answers := Value.answer_eq same
  obtain rfl : description = description' :=
    Option.map_injective Value.string_injective (by simpa using answers "description")
  obtain rfl : properties = properties' :=
    SortedMap.eq_of_unlessEmpty PropertySpec.encode_injective (by simpa using answers "properties")
  obtain rfl : required = required' :=
    Value.eq_of_unlessEmpty (by simpa using answers "required")
  rfl

/-! ## Enums and named types -/

theorem EnumType.encodeMember_injective : Injective EnumType.encodeMember := by
  rintro ⟨name, value⟩ ⟨name', value'⟩ same
  simpa [EnumType.encodeMember] using same

theorem EnumType.encode_injective : Injective EnumType.encode := by
  rintro ⟨description, base, members⟩ ⟨description', base', members'⟩ same
  have answers := Value.answer_eq same
  obtain rfl : description = description' :=
    Option.map_injective Value.string_injective (by simpa using answers "description")
  obtain rfl : base = base' := Primitive.name_injective (by simpa using answers "type")
  obtain rfl : members = members' :=
    encodeMember_injective.list_map (by simpa using answers "enum")
  rfl

/-- Only an enum is written with a type. -/
theorem NamedType.object_ne_enum (object : ObjectType) (enum : EnumType) :
    object.encode ≠ enum.encode := by
  intro same
  have types := Value.answer_eq same "type"
  simp at types

theorem NamedType.encode_injective : Injective NamedType.encode := by
  intro a b same
  match a, b, same with
  | .object a, .object b, same => rw [ObjectType.encode_injective same]
  | .enum a, .enum b, same => rw [EnumType.encode_injective same]
  | .object a, .enum b, same => exact absurd same (object_ne_enum a b)
  | .enum a, .object b, same => exact absurd same.symm (object_ne_enum b a)

/-! ## Resources, functions and packages -/

theorem ResourceSpec.encode_injective : Injective ResourceSpec.encode := by
  rintro ⟨description, properties, required, inputProperties, requiredInputs⟩
    ⟨description', properties', required', inputProperties', requiredInputs'⟩ same
  have answers := Value.answer_eq same
  have tables := SortedMap.encode_injective PropertySpec.encode_injective
  obtain rfl : description = description' :=
    Option.map_injective Value.string_injective (by simpa using answers "description")
  obtain rfl : properties = properties' := tables (by simpa using answers "properties")
  obtain rfl : required = required' :=
    Value.eq_of_unlessEmpty (by simpa using answers "required")
  obtain rfl : inputProperties = inputProperties' :=
    tables (by simpa using answers "inputProperties")
  obtain rfl : requiredInputs = requiredInputs' :=
    Value.eq_of_unlessEmpty (by simpa using answers "requiredInputs")
  rfl

/-- A result is told by the key that says which kind of result it is. -/
theorem ReturnType.encode_injective : Injective ReturnType.encode := by
  intro a b same
  match a, b, same with
  | .spec a, .spec b, same =>
    obtain rfl : a = b := TypeSpec.encode_injective (by simpa [ReturnType.encode] using same)
    rfl
  | .object a, .object b, same =>
    obtain rfl : a = b := ObjectType.encode_injective (by simpa [ReturnType.encode] using same)
    rfl
  | .spec a, .object b, same => simp [ReturnType.encode] at same
  | .object a, .spec b, same => simp [ReturnType.encode] at same

theorem FunctionSpec.encode_injective : Injective FunctionSpec.encode := by
  rintro ⟨description, inputs, result⟩ ⟨description', inputs', result'⟩ same
  have answers := Value.answer_eq same
  obtain rfl : description = description' :=
    Option.map_injective Value.string_injective (by simpa using answers "description")
  obtain rfl : inputs = inputs' :=
    Option.map_injective ObjectType.encode_injective (by simpa using answers "inputs")
  obtain rfl : result = result' :=
    Option.map_injective ReturnType.encode_injective (by simpa using answers "returnType")
  rfl

theorem Package.encode_injective : Injective Package.encode := by
  rintro ⟨name, resources, types, functions⟩ ⟨name', resources', types', functions'⟩ same
  obtain ⟨rfl, sameResources, sameTypes, sameFunctions⟩ : name = name' ∧
      resources.encode ResourceSpec.encode = resources'.encode ResourceSpec.encode ∧
      types.encode NamedType.encode = types'.encode NamedType.encode ∧
      functions.encode FunctionSpec.encode = functions'.encode FunctionSpec.encode := by
    simpa [Package.encode] using same
  rw [SortedMap.encode_injective ResourceSpec.encode_injective sameResources,
    SortedMap.encode_injective NamedType.encode_injective sameTypes,
    SortedMap.encode_injective FunctionSpec.encode_injective sameFunctions]

/-- A package and its parts can be told apart by how they are written. -/
theorem encodings_injective :
    Injective TypeSpec.encode ∧ Injective PropertySpec.encode ∧ Injective ObjectType.encode ∧
      Injective NamedType.encode ∧ Injective FunctionSpec.encode ∧
      Injective ResourceSpec.encode ∧ Injective Package.encode :=
  ⟨TypeSpec.encode_injective, PropertySpec.encode_injective, ObjectType.encode_injective,
    NamedType.encode_injective, FunctionSpec.encode_injective, ResourceSpec.encode_injective,
    Package.encode_injective⟩

end ResourceInference
