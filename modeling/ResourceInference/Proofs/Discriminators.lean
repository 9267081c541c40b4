import ResourceInference.Proofs.Outcomes
import ResourceInference.Proofs.Runs

/-!
# What the values of a discriminator lead to

The mapping of a discriminator leads from values to components, and that of the union which is made
from it leads from the same values to tokens. A component is looked for by its type name among the
tokens of the branches: the first token of which the name is the last part is taken, or else the
first one in which it occurs (`Union.branchToken?`).

So a value leads to a branch that has the name of its component wherever there is one, and there is
one if the component itself is a branch with a token of its own
(`Infer.unionDiscriminator_targets`). The order of the branches makes no difference to that
(`bigCatsFirst_exact`). Where no branch has the name, a value is left out only if the name occurs in
none: a component that is not a branch at all may lead to one whose name contains its own
(`catToBigCat_mapped`).
-/

set_option autoImplicit false

namespace ResourceInference

/-! ## Names of tokens -/

namespace Union

/-- The type name of the component that a reference means. -/
def typeName (reference : String) : String := Naming.pascalCase (Lookup.schemaName reference)

/-- The tokens of the branches that have one. -/
def branchTokens (variants : List TypeSpec) : List String := variants.filterMap TypeSpec.token?

theorem tokenName_suffix (token : String) : (tokenName token).toList <:+ token.toList := by
  unfold tokenName Text.split
  rw [List.getLast?_map]
  cases last : (Text.pieces ':' token.toList).getLast? with
  | none => exact List.suffix_rfl
  | some name =>
      simpa using Text.suffix_of_getLast? last

theorem tokenName_token (task : InferenceTask) (module : String) {name : String}
    (plain : IsPlain name) : tokenName (task.token module name) = name := by
  have noColon : ':' ∉ name.toList := fun member => absurd (plain _ member) (by decide)
  have cut : (Text.pieces ':' (task.token module name).toList).getLast? = some name.toList := by
    have apart : (task.token module name).toList =
        (task.options.packageName ++ ":" ++ module).toList ++ ':' :: name.toList := by
      simp [InferenceTask.token, typeToken]
    rw [apart, Text.pieces_append, Text.pieces_of_not_mem noColon, List.getLast?_concat]
  rw [tokenName, Text.split, List.getLast?_map, cut]
  simp

/-- What the token that a reference is taken to mean has to do with it, among the tokens of the
branches: the type name of the component occurs in it, and is its own name if any branch has it. -/
structure Means (tokens : List String) (reference token : String) : Prop where
  branch : token ∈ tokens
  occurs : (typeName reference).toList <:+: token.toList
  named : ∀ other ∈ tokens, tokenName other = typeName reference →
    tokenName token = typeName reference

theorem branchToken?_means {tokens : List String} {reference token : String}
    (h : branchToken? tokens reference = some token) : Means tokens reference token := by
  unfold branchToken? at h
  dsimp only at h
  split at h
  · rename_i token isExact
    obtain rfl := Option.some.inj h
    have hasName : tokenName token = typeName reference := by
      simpa [typeName] using List.find?_some isExact
    refine ⟨List.mem_of_find?_eq_some isExact, ?_, fun _ _ _ => hasName⟩
    exact hasName ▸ (tokenName_suffix token).isInfix
  · rename_i noExact
    have occurs : Text.occursIn (typeName reference).toList token.toList = true := by
      simpa [typeName] using List.find?_some h
    refine ⟨List.mem_of_find?_eq_some h, Text.occursIn_iff.1 occurs, ?_⟩
    intro other isBranch hasName
    have differs := List.find?_eq_none.1 noExact other isBranch
    exact absurd hasName (by simpa [typeName] using differs)

/-- A reference is taken to mean a branch exactly if its type name occurs in the token of one. -/
theorem exists_branchToken?_iff {tokens : List String} {reference : String} :
    (∃ token, branchToken? tokens reference = some token) ↔
      ∃ token ∈ tokens, (typeName reference).toList <:+: token.toList := by
  constructor
  · rintro ⟨token, h⟩
    exact ⟨token, (branchToken?_means h).branch, (branchToken?_means h).occurs⟩
  · rintro ⟨token, isBranch, occurs⟩
    unfold branchToken?
    dsimp only
    split
    · exact ⟨_, rfl⟩
    · refine Option.isSome_iff_exists.1 (List.find?_isSome.2 ⟨token, isBranch, ?_⟩)
      exact Text.occursIn_iff.2 occurs

theorem mem_entries_iff {mapping : List (String × String)} {tokens : List String}
    {value token : String} :
    (value, token) ∈ mapping.filterMap (fun (value, reference) =>
        (branchToken? tokens reference).map fun token => (value, token)) ↔
      ∃ reference, (value, reference) ∈ mapping ∧ branchToken? tokens reference = some token := by
  constructor
  · intro listed
    obtain ⟨⟨value', reference⟩, isMapped, meant⟩ := List.mem_filterMap.1 listed
    obtain ⟨token', found, same⟩ := Option.map_eq_some_iff.1 meant
    cases same
    exact ⟨reference, isMapped, found⟩
  · rintro ⟨reference, isMapped, found⟩
    exact List.mem_filterMap.2
      ⟨(value, reference), isMapped, Option.map_eq_some_iff.2 ⟨token, found, rfl⟩⟩

/-- Each value leads to what its component is taken to mean. -/
theorem discriminator_means {d : Discriminator} {variants : List TypeSpec} {value token : String}
    (h : (discriminator d variants).mapping.get? value = some token) :
    ∃ reference, (value, reference) ∈ d.mapping ∧
      Means (branchTokens variants) reference token := by
  have listed := SortedMap.mem_of_mem_ofList ((SortedMap.mem_toList_iff ..).2 h)
  obtain ⟨reference, isMapped, found⟩ := mem_entries_iff.1 listed
  exact ⟨reference, isMapped, branchToken?_means found⟩

/-- A value is kept exactly if the type name of its component occurs in the token of a branch. -/
theorem contains_discriminator_iff {d : Discriminator} {variants : List TypeSpec} {value : String} :
    (discriminator d variants).mapping.contains value = true ↔
      ∃ reference, (value, reference) ∈ d.mapping ∧
        ∃ token ∈ branchTokens variants, (typeName reference).toList <:+: token.toList := by
  refine (SortedMap.contains_ofList ..).trans ((exists_congr fun token => mem_entries_iff).trans ?_)
  simp only [← exists_branchToken?_iff]
  constructor
  · rintro ⟨token, reference, isMapped, found⟩
    exact ⟨reference, isMapped, token, found⟩
  · rintro ⟨reference, isMapped, token, found⟩
    exact ⟨token, reference, isMapped, found⟩

end Union

/-! ## Branches -/

/-- Whether a component of this schema is an object with a token of its own: it is neither an array
nor an enum, and has members, or is an object of which neither branches nor values are said. -/
def Schema.isEntered (s : Schema) : Bool :=
  !s.hasType .array && s.enum.isEmpty &&
    (!(s.properties.isEmpty && s.allOf.isEmpty) ||
      s.oneOf.isEmpty && s.hasType .object && !s.hasValueSchema)

namespace Infer

variable {task : InferenceTask} {scope : Scope}

theorem typeOf_of_isEntered {resolve : Resolver} {parent component : String} {found : Lookup.Found}
    (named : found.name = some component) (entered : found.schema.isEntered = true) :
    typeOf task resolve scope parent found =
      enterComponent task resolve scope component found.schema := by
  simp only [Schema.isEntered, Bool.and_eq_true, Bool.not_eq_true'] at entered
  obtain ⟨⟨noArray, noEnum⟩, object⟩ := entered
  simp only [typeOf, componentType, named, noArray, noEnum, Bool.not_true, Bool.or_self,
    Bool.false_eq_true, if_false]
  split
  · rename_i noMembers
    simp_all
  · rfl

/-- The type stands for the part: if the part leads to an object with a token of its own, the type
is named by this token. -/
def StandsFor (task : InferenceTask) (scope : Scope) (part : SchemaOrRef) (type : TypeSpec) :
    Prop :=
  ∀ target component, Lookup.schema task.document part = .ok target →
    target.name = some component → target.schema.isEntered = true →
      type = .named (task.token scope.module (Naming.pascalCase component))

theorem registerComponent_named {token : String} {type : NamedType} :
    Upholds (fun _ => True) (registerComponent token type) fun resolved =>
      resolved.type = .named token := by
  unfold registerComponent
  refine Upholds.any.bind fun existing _ => ?_
  split
  · exact Upholds.any.bind fun _ _ => .pure rfl
  · split
    · exact .pure rfl
    · exact .throw

theorem enterComponent_named {resolve : Resolver} {component : String} {schema : Schema} :
    Upholds (fun _ => True) (enterComponent task resolve scope component schema) fun resolved =>
      resolved.type = .named (task.token scope.module (Naming.pascalCase component)) := by
  unfold enterComponent buildComponent
  dsimp only
  refine Upholds.any.bind fun _ _ => Upholds.any.bind fun visited _ => ?_
  split
  · exact .pure rfl
  · refine Upholds.any.bind fun _ _ => Upholds.any.bind fun _ _ => Upholds.any.bind fun type _ => ?_
    exact registerComponent_named.bind fun resolved named => Upholds.any.bind fun _ _ => .pure named

theorem registerGenerated_named {name : String} {type : NamedType} :
    Upholds (fun _ => True) (registerGenerated task scope name type) fun resolved =>
      ∃ token, resolved.type = .named token := by
  refine ⟨fun s _ => (registerGenerated_ends task scope name type s).mono ?_ fun _ _ _ => trivial⟩
  rintro resolved s' ⟨token, puts⟩
  exact ⟨trivial, token, puts.type_eq⟩

theorem resolver_standsFor {depth : Nat} {parent : String} {part : SchemaOrRef}
    {target : Lookup.Found} (located : Lookup.schema task.document part = .ok target) :
    Upholds (fun _ => True) (resolver task depth scope parent target) fun resolved =>
      StandsFor task scope part resolved.type := by
  cases depth with
  | zero => exact .throw
  | succ depth =>
      by_cases entered : ∃ component, target.name = some component ∧
        target.schema.isEntered = true
      · obtain ⟨component, named, isEntered⟩ := entered
        rw [resolver, typeOf_of_isEntered named isEntered]
        refine enterComponent_named.imp fun resolved type target' component' located' named' _ => ?_
        cases located.symm.trans located'
        cases named.symm.trans named'
        exact type
      · refine Upholds.any.imp fun resolved _ target' component located' named isEntered => ?_
        cases located.symm.trans located'
        exact absurd ⟨component, named, isEntered⟩ entered

/-- The type is the union of the `oneOf` of the schema, with its discriminator. -/
def IsUnionOf (task : InferenceTask) (scope : Scope) (schema : Schema) (type : TypeSpec) : Prop :=
  ∃ variants, type = .union variants (schema.discriminator.map (Union.discriminator · variants)) ∧
    ∀ part ∈ schema.oneOf, ∃ variant ∈ variants, StandsFor task scope part variant

section

variable {depth : Nat} {parent : String} {schema : Schema}

theorem unionType_isUnionOf :
    Upholds (fun _ => True) (unionType task (resolver task depth) scope parent schema)
      fun resolved => IsUnionOf task scope schema resolved.type := by
  have each : Upholds (fun _ => True)
      (variantTypes task (resolver task depth) scope parent schema.oneOf) fun variants =>
        ∀ part ∈ schema.oneOf, ∃ variant ∈ variants, StandsFor task scope part variant := by
    refine Upholds.mapM_forall fun part _ => Upholds.find.bind fun target located => ?_
    exact (resolver_standsFor located).bind fun resolved stands => .pure stands
  exact each.bind fun variants stands => .pure ⟨variants, rfl, stands⟩

/-- A schema with a `oneOf` is given a named type, or the union of it. -/
theorem inlineType_union (branches : schema.oneOf ≠ []) :
    Upholds (fun _ => True) (inlineType task (resolver task depth) scope parent schema)
      fun resolved => (∃ token, resolved.type = .named token) ∨
        IsUnionOf task scope schema resolved.type := by
  unfold inlineType
  split
  · exact Upholds.any.bind fun type _ => registerGenerated_named.imp fun _ => .inl
  · rw [if_pos (by simp [branches])]
    exact unionType_isUnionOf.imp fun _ => .inr

theorem componentType_union {component : String} (branches : schema.oneOf ≠ []) :
    Upholds (fun _ => True)
      (componentType task (resolver task depth) scope parent component schema)
      fun resolved => (∃ token, resolved.type = .named token) ∨
        IsUnionOf task scope schema resolved.type := by
  unfold componentType
  dsimp only
  split
  · rw [if_pos (by simp [branches])]
    exact unionType_isUnionOf.imp fun _ => .inr
  · exact enterComponent_named.imp fun _ named => .inl ⟨_, named⟩

end

theorem propertyType_union {parent : String} {found : Lookup.Found}
    (branches : found.schema.oneOf ≠ []) :
    Upholds (fun _ => True) (propertyType task scope parent found) fun resolved =>
      (∃ token, resolved.type = .named token) ∨
        IsUnionOf task scope found.schema resolved.type := by
  rw [propertyType, depthBound, resolver, typeOf]
  split
  · split
    · exact inlineType_union branches
    · exact componentType_union branches
  · exact inlineType_union branches

/-- In the union of a `oneOf` with a discriminator, a value leads to a branch in whose token the
type name of its component occurs, and to one that has this name if there is one. A value is left
out exactly if the name occurs in no token. Each branch that is an object with a token of its own
has this token, which ends with its type name. -/
theorem unionDiscriminator_targets {parent : String} {found : Lookup.Found} {d : Discriminator}
    {variants : List TypeSpec} {discriminator : Option UnionDiscriminator} {isNew : Bool}
    {s s' : Session} (branches : found.schema.oneOf ≠ [])
    (declared : found.schema.discriminator = some d)
    (h : (propertyType task scope parent found).run.run s =
      (.ok ⟨.union variants discriminator, isNew⟩, s')) :
    ∃ union, discriminator = some union ∧
      (∀ value token, union.mapping.get? value = some token →
        ∃ reference, (value, reference) ∈ d.mapping ∧
          Union.Means (Union.branchTokens variants) reference token) ∧
      (∀ value, union.mapping.contains value = true ↔
        ∃ reference, (value, reference) ∈ d.mapping ∧ ∃ token ∈ Union.branchTokens variants,
          (Union.typeName reference).toList <:+: token.toList) ∧
      ∀ part ∈ found.schema.oneOf, ∀ target component,
        Lookup.schema task.document part = .ok target → target.name = some component →
          target.schema.isEntered = true → ∃ token ∈ Union.branchTokens variants,
            token = task.token scope.module (Naming.pascalCase component) ∧
              Union.tokenName token = Naming.pascalCase component := by
  rcases ((propertyType_union branches).ends s trivial).of_run h |>.2 with
    ⟨token, named⟩ | ⟨variants', isUnion, stands⟩
  · cases named
  · cases isUnion
    rw [declared]
    refine ⟨_, rfl, fun value token => Union.discriminator_means,
      fun value => Union.contains_discriminator_iff, ?_⟩
    intro part isBranch target component located named entered
    obtain ⟨variant, isVariant, standsFor⟩ := stands part isBranch
    obtain rfl := standsFor target component located named entered
    refine ⟨_, List.mem_filterMap.2 ⟨_, isVariant, rfl⟩, rfl, ?_⟩
    exact Union.tokenName_token task scope.module (Naming.isPlain_pascalCase component)

end Infer

/-! ## Cats -/

/-- Cats and big cats. -/
def cats : InferenceTask :=
  (Document.having [("Cat", .item (.texts ["kind"])), ("BigCat", .item (.texts ["kind", "weight"]))]
    []).task

/-- One of several kinds of cats, told apart by a property. The value `cat` means a cat. -/
def catKinds (branches : List SchemaOrRef) : Lookup.Found :=
  ⟨none, { oneOf := branches
           discriminator := some ⟨"kind", [("cat", Lookup.schemaReference "Cat")]⟩ }⟩

/-- Where there are only big cats, a cat is taken to be one, though no branch has its name. -/
theorem catToBigCat_mapped :
    ∃ resolved s', (Infer.propertyType cats ⟨"pets", "Pet"⟩ "Pet"
      (catKinds [.to "BigCat"])).run.run .first = (.ok resolved, s') ∧
      resolved.type = .union [.named "pkg:pets:BigCat"]
        (some ⟨"kind", .ofList [("cat", "pkg:pets:BigCat")]⟩) ∧
      Union.tokenName "pkg:pets:BigCat" ≠ Union.typeName (Lookup.schemaReference "Cat") := by
  obtain ⟨resolved, s', ran, type⟩ := Infer.exists_run (Infer.propertyType cats ⟨"pets", "Pet"⟩
    "Pet" (catKinds [.to "BigCat"])) .first (fun resolved _ =>
      resolved.type = .union [.named "pkg:pets:BigCat"]
        (some ⟨"kind", .ofList [("cat", "pkg:pets:BigCat")]⟩)) (by decide +kernel)
  exact ⟨resolved, s', ran, type, by decide +kernel⟩

/-- Where there are cats, too, a cat is one of them, though its name occurs in the token before. -/
theorem bigCatsFirst_exact :
    ∃ union isNew s', (Infer.propertyType cats ⟨"pets", "Pet"⟩ "Pet"
      (catKinds [.to "BigCat", .to "Cat"])).run.run .first =
        (.ok ⟨.union [.named "pkg:pets:BigCat", .named "pkg:pets:Cat"] (some union), isNew⟩, s') ∧
      ∃ token, union.mapping.get? "cat" = some token ∧ Union.tokenName token = "Cat" := by
  obtain ⟨⟨_, isNew⟩, s', ran, rfl⟩ := Infer.exists_run (Infer.propertyType cats
    ⟨"pets", "Pet"⟩ "Pet" (catKinds [.to "BigCat", .to "Cat"])) .first (fun resolved _ =>
      resolved.type = .union [.named "pkg:pets:BigCat", .named "pkg:pets:Cat"]
        (some ⟨"kind", .ofList [("cat", "pkg:pets:Cat")]⟩)) (by decide +kernel)
  obtain ⟨union, isUnion, leads, kept, branches⟩ :=
    Infer.unionDiscriminator_targets (by simp [catKinds]) rfl ran
  refine ⟨union, isNew, s', isUnion ▸ ran, ?_⟩
  obtain ⟨cat, isBranch, -, named⟩ :=
    branches (.to "Cat") (by simp [catKinds]) ⟨some "Cat", .texts ["kind"]⟩ "Cat" rfl rfl rfl
  have isCat : Union.typeName (Lookup.schemaReference "Cat") = "Cat" := by decide +kernel
  have hasName : Union.tokenName cat = Union.typeName (Lookup.schemaReference "Cat") :=
    named.trans (by decide +kernel)
  have isKept : union.mapping.contains "cat" = true :=
    (kept "cat").2 ⟨_, List.mem_cons_self, cat, isBranch,
      hasName ▸ (Union.tokenName_suffix cat).isInfix⟩
  obtain ⟨token, leadsTo⟩ := (SortedMap.contains_iff ..).1 isKept
  obtain ⟨reference, isMapped, means⟩ := leads "cat" token leadsTo
  cases List.mem_singleton.1 isMapped
  exact ⟨token, leadsTo, (means.named cat isBranch hasName).trans isCat⟩

end ResourceInference
