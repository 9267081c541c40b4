import ResourceInference.Inference.PropertyType

/-!
# Tokens that a package mentions

A token is mentioned where a type spec refers to it, at any depth, or where the discriminator of a
union points at it. `Package.tokens` collects the tokens of resources, types and functions. A
discriminator points only at tokens that the variants of its union mention already
(`Union.mem_tokens_discriminator`), so the tokens of a union are those of its variants.
-/

set_option autoImplicit false

namespace ResourceInference

/-! ## Parts of a package -/

/-- The tokens that properties mention. -/
def PropertyMap.tokens (properties : PropertyMap) : List String :=
  properties.toList.flatMap fun entry => entry.2.type.tokens

/-- The tokens that an object type mentions. -/
def ObjectType.tokens (o : ObjectType) : List String := PropertyMap.tokens o.properties

/-- The tokens that a registered type mentions. -/
def NamedType.tokens : NamedType → List String
  | object type => type.tokens
  | enum _ => []

/-- The tokens that a resource mentions. -/
def ResourceSpec.tokens (r : ResourceSpec) : List String :=
  PropertyMap.tokens r.properties ++ PropertyMap.tokens r.inputProperties

/-- The tokens that the result of a function mentions. -/
def ReturnType.tokens : ReturnType → List String
  | spec type => type.tokens
  | object type => type.tokens

/-- The tokens that a function mentions. -/
def FunctionSpec.tokens (f : FunctionSpec) : List String :=
  (f.inputs.map ObjectType.tokens).getD [] ++ (f.result.map ReturnType.tokens).getD []

/-- The tokens that a package mentions. -/
def Package.tokens (p : Package) : List String :=
  p.resources.toList.flatMap (·.2.tokens) ++ p.types.toList.flatMap (·.2.tokens) ++
    p.functions.toList.flatMap (·.2.tokens)

/-- A package mentions what one of its resources, types or functions mentions. -/
theorem Package.mem_tokens_iff {p : Package} {token : String} :
    token ∈ p.tokens ↔
      (∃ other r, p.resources.get? other = some r ∧ token ∈ r.tokens) ∨
      (∃ other type, p.types.get? other = some type ∧ token ∈ type.tokens) ∨
      ∃ other f, p.functions.get? other = some f ∧ token ∈ f.tokens := by
  simp [Package.tokens, List.mem_flatMap, SortedMap.mem_toList_iff]

theorem SortedMap.forall_mem_flatMap {α : Type} {good : String → Prop} {m : SortedMap α}
    (tokens : α → List String) :
    (∀ token ∈ m.toList.flatMap fun entry => tokens entry.2, good token) ↔
      m.All fun value => ∀ token ∈ tokens value, good token := by
  constructor
  · intro h entry member token mentioned
    exact h token (List.mem_flatMap.2 ⟨entry, member, mentioned⟩)
  · intro h token mentioned
    obtain ⟨entry, member, mentioned⟩ := List.mem_flatMap.1 mentioned
    exact h entry member token mentioned

theorem PropertyMap.forall_tokens {good : String → Prop} {properties : PropertyMap} :
    (∀ token ∈ PropertyMap.tokens properties, good token) ↔
      properties.All fun property => ∀ token ∈ property.type.tokens, good token :=
  SortedMap.forall_mem_flatMap fun property : PropertySpec => property.type.tokens

/-! ## Unions -/

namespace TypeSpec

theorem mem_tokensOfList {specs : List TypeSpec} {token : String} :
    token ∈ tokensOfList specs ↔ ∃ spec ∈ specs, token ∈ spec.tokens := by
  induction specs with
  | nil => simp [tokensOfList]
  | cons spec rest ih => simp [tokensOfList, ih]

theorem mem_tokens_of_token? {spec : TypeSpec} {token : String} (h : spec.token? = some token) :
    token ∈ spec.tokens := by
  cases spec <;> simp_all [token?, tokens]

end TypeSpec

namespace Union

theorem branchToken?_mem {tokens : List String} {reference token : String}
    (h : branchToken? tokens reference = some token) : token ∈ tokens := by
  unfold branchToken? at h
  dsimp only at h
  split at h
  · rename_i found
    cases h
    exact List.mem_of_find?_eq_some found
  · exact List.mem_of_find?_eq_some h

/-- A discriminator points at tokens of the variants only. -/
theorem mem_tokens_discriminator {d : Discriminator} {variants : List TypeSpec} {token : String}
    (h : token ∈ (discriminator d variants).mapping.toList.map (·.2)) :
    token ∈ TypeSpec.tokensOfList variants := by
  obtain ⟨entry, member, rfl⟩ := List.mem_map.1 h
  have all : (discriminator d variants).mapping.All
      fun token => token ∈ TypeSpec.tokensOfList variants := by
    refine SortedMap.all_ofList fun entry member => ?_
    obtain ⟨⟨value, reference⟩, -, mapped⟩ := List.mem_filterMap.1 member
    obtain ⟨token, found, rfl⟩ := Option.map_eq_some_iff.1 mapped
    obtain ⟨spec, inVariants, named⟩ := List.mem_filterMap.1 (branchToken?_mem found)
    exact TypeSpec.mem_tokensOfList.2 ⟨spec, inVariants, TypeSpec.mem_tokens_of_token? named⟩
  exact all entry member

/-- A union made from variants mentions their tokens only. -/
theorem mem_tokens_union {variants : List TypeSpec} {d : Option Discriminator} {token : String}
    (h : token ∈ (TypeSpec.union variants (d.map (discriminator · variants))).tokens) :
    token ∈ TypeSpec.tokensOfList variants := by
  simp only [TypeSpec.tokens, List.mem_append] at h
  rcases h with h | h
  · exact h
  · cases d with
    | none => simp at h
    | some d => exact mem_tokens_discriminator h

end Union

end ResourceInference
