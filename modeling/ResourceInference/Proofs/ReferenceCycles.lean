import Mathlib.Logic.Relation
import ResourceInference.Proofs.SchemaSteps

/-!
# Cycles of references

A component with members stops the recursion through a cycle of references: when the cycle comes
round, its mark is set. A component of another kind does not, and neither does one that describes a
map where it is the type of a property, since the map is seen through without entering it. A
document is guarded if every cycle of references among its components meets one that stops
(`Document.Guarded`).

In a guarded document, the components that are passed between two that stop are pairwise distinct
(`Trail`), so there are no more of them than components, and each time the schemas inside get
smaller. This bounds how deep schemas can lie between two entries (`Trail.step`).
-/

set_option autoImplicit false

namespace ResourceInference

/-! ## References of a schema -/

/-- A schema stands right inside another one, as the schema of a property or not. -/
inductive Schema.Holds (s : Schema) : Bool → SchemaOrRef → Prop where
  | part {part : SchemaOrRef} : part ∈ s.parts → Holds s false part
  | property {wire : String} {part : SchemaOrRef} : (wire, part) ∈ s.properties → Holds s true part

/-- A schema refers to a component, at any depth, in the place of a property or not. -/
inductive Schema.RefersTo : Schema → Bool → String → Prop where
  | here {s : Schema} {asProperty : Bool} {path target : String}
      (held : s.Holds asProperty (.ref path))
      (named : Lookup.targetName "schemas" path = .ok target) : RefersTo s asProperty target
  | inside {s inner : Schema} {place asProperty : Bool} {target : String}
      (held : s.Holds place (.item inner)) (refers : RefersTo inner asProperty target) :
      RefersTo s asProperty target

namespace Document

/-- A reference to a component stops the recursion: the component has members, and if the reference
is the schema of a property, the component is no map. -/
def Stops (d : Document) (asProperty : Bool) (target : String) : Prop :=
  ∃ schema, Lookup.component d target = .ok schema ∧ schema.isComposite = true ∧
    (asProperty = true → schema.mapValues? = none)

/-- A component refers to another one without stopping the recursion there. -/
def Passes (d : Document) (source target : String) : Prop :=
  ∃ schema asProperty, Lookup.component d source = .ok schema ∧
    schema.RefersTo asProperty target ∧ ¬ d.Stops asProperty target

/-- Every cycle of references stops the recursion somewhere. -/
def Guarded (d : Document) : Prop := ∀ component, ¬ Relation.TransGen d.Passes component component

/-- The names of the component schemas. -/
def componentNames (d : Document) : List String := d.tables.schemas.map (·.1)

end Document

/-! ## Sizes -/

theorem sizeOfRef_le_sizeOfList {part : SchemaOrRef} {parts : List SchemaOrRef}
    (member : part ∈ parts) : sizeOfRef part ≤ sizeOfList parts := by
  induction parts with
  | nil => cases member
  | cons first rest ih =>
      rw [sizeOfList]
      rcases List.mem_cons.1 member with rfl | member
      · omega
      · have later := ih member
        omega

theorem sizeOfRef_le_sizeOfFields {wire : String} {part : SchemaOrRef}
    {properties : List (String × SchemaOrRef)} (member : (wire, part) ∈ properties) :
    sizeOfRef part ≤ sizeOfFields properties := by
  induction properties with
  | nil => cases member
  | cons first rest ih =>
      obtain ⟨name, value⟩ := first
      rw [sizeOfFields]
      rcases List.mem_cons.1 member with same | member
      · cases same
        omega
      · have later := ih member
        omega

theorem Schema.size_eq (s : Schema) :
    s.size = 1 + sizeOfFields s.properties + sizeOfAdditional s.additionalProperties +
      sizeOfOptional s.items + sizeOfList s.allOf + sizeOfList s.oneOf + sizeOfList s.anyOf := by
  cases s
  rw [Schema.size]

theorem sizeOfRef_pos (part : SchemaOrRef) : 0 < sizeOfRef part := by
  cases part with
  | ref _ => exact Nat.one_pos
  | item schema =>
      rw [sizeOfRef, schema.size_eq]
      omega

/-- What stands inside a schema is smaller than the schema. -/
theorem Schema.Holds.size_lt {s : Schema} {place : Bool} {part : SchemaOrRef}
    (held : s.Holds place part) : sizeOfRef part < s.size := by
  rw [s.size_eq]
  cases held with
  | property member =>
      have fields := sizeOfRef_le_sizeOfFields member
      omega
  | part member =>
      simp only [Schema.parts, List.mem_append, Schema.valueSchemas, Option.mem_toList] at member
      rcases member with (((values | items) | allOf) | oneOf) | anyOf
      · split at values
        · rename_i value isMap
          obtain rfl := List.mem_singleton.1 values
          rw [isMap, sizeOfAdditional]
          omega
        · cases values
      · rw [items, sizeOfOptional]
        omega
      · have list := sizeOfRef_le_sizeOfList allOf
        omega
      · have list := sizeOfRef_le_sizeOfList oneOf
        omega
      · have list := sizeOfRef_le_sizeOfList anyOf
        omega

theorem Schema.holds_of_mapValues? {s : Schema} {values : SchemaOrRef}
    (isMap : s.mapValues? = some values) : s.Holds true values := by
  unfold mapValues? at isMap
  split at isMap
  · obtain ⟨⟨wire, value⟩, first, rfl⟩ := Option.map_eq_some_iff.1 isMap
    exact .property (List.mem_of_mem_head? first)
  · cases isMap

/-! ## Components -/

namespace Lookup

theorem follow_mem {d : Document} {name : String} {seen : List String} {bound : Nat}
    {schema : Schema} (found : follow d name seen bound = .ok schema) :
    name ∈ d.componentNames ∧ ∃ entry ∈ d.tables.schemas, entry.2 = .item schema := by
  induction bound generalizing name seen with
  | zero => cases found
  | succ bound ih =>
      unfold follow at found
      split at found
      · cases found
      · split at found
        · cases found
        · rename_i here
          cases found
          have entry := mem_of_lookup here
          exact ⟨List.mem_map.2 ⟨_, entry, rfl⟩, _, entry, rfl⟩
        · rename_i path here
          simp only [bind, Except.bind] at found
          split at found
          · cases found
          · exact ⟨List.mem_map.2 ⟨_, mem_of_lookup here, rfl⟩, (ih found).2⟩

theorem component_mem {d : Document} {name : String} {schema : Schema}
    (found : component d name = .ok schema) :
    name ∈ d.componentNames ∧ ∃ entry ∈ d.tables.schemas, entry.2 = .item schema :=
  follow_mem found

end Lookup

theorem Infer.size_le_componentsSize {d : Document} {name : String} {schema : Schema}
    (found : Lookup.component d name = .ok schema) : schema.size ≤ Infer.componentsSize d := by
  obtain ⟨-, entry, member, same⟩ := Lookup.component_mem found
  have size : schema.size = sizeOfRef entry.2 := by rw [same, sizeOfRef]
  rw [size]
  exact sizeOfRef_le_sizeOfFields member

/-- A find with a name comes from a reference to that name. -/
theorem Lookup.schema_cases {d : Document} {part : SchemaOrRef} {found : Lookup.Found}
    (located : Lookup.schema d part = .ok found) :
    (∃ schema, part = .item schema ∧ found = ⟨none, schema⟩) ∨
      ∃ path target, part = .ref path ∧ Lookup.targetName "schemas" path = .ok target ∧
        found.name = some target ∧ Lookup.component d target = .ok found.schema := by
  cases part with
  | item schema =>
      cases located
      exact .inl ⟨schema, rfl, rfl⟩
  | ref path =>
      simp only [Lookup.schema, bind, Except.bind] at located
      split at located
      · cases located
      · rename_i target named
        split at located
        · cases located
        · rename_i resolved
          cases located
          exact .inr ⟨path, target, rfl, named, rfl, resolved⟩

/-- A document is guarded if all its components stop the recursion. -/
theorem Document.guarded_of_forall {d : Document}
    (stops : ∀ entry ∈ d.tables.schemas, ∀ schema, entry.2 = .item schema →
      schema.isComposite = true ∧ schema.mapValues? = none) : d.Guarded := by
  intro component cycle
  have last : ∃ asProperty, ¬ d.Stops asProperty component := by
    cases cycle with
    | single step => exact ⟨_, step.choose_spec.choose_spec.2.2⟩
    | tail _ step => exact ⟨_, step.choose_spec.choose_spec.2.2⟩
  obtain ⟨schema, found⟩ : ∃ schema, Lookup.component d component = .ok schema := by
    obtain ⟨_, ⟨schema, _, found, _⟩, _⟩ := Relation.TransGen.head'_iff.1 cycle
    exact ⟨schema, found⟩
  obtain ⟨asProperty, passes⟩ := last
  obtain ⟨-, entry, member, same⟩ := Lookup.component_mem found
  obtain ⟨composite, noMap⟩ := stops entry member schema same
  exact passes ⟨schema, found, composite, fun _ => noMap⟩

/-! ## Between two entries -/

/-- The components that were passed since the last entry, on the way to a schema: all of them
different, and each leading to whatever the schema refers to. -/
structure Trail (d : Document) (passed : List String) (schema : Schema) : Prop where
  nodup : passed.Nodup
  known : passed ⊆ d.componentNames
  reaches : ∀ component ∈ passed, ∀ asProperty target, schema.RefersTo asProperty target →
    ¬ d.Stops asProperty target → Relation.TransGen d.Passes component target

/-- How deep schemas can still lie when some components have been passed. -/
def Document.room (d : Document) (passed : Nat) : Nat :=
  (d.componentNames.length - passed) * (Infer.componentsSize d + 1)

namespace Trail

variable {d : Document} {passed : List String} {schema : Schema}

theorem start (schema : Schema) : Trail d [] schema :=
  ⟨List.nodup_nil, List.nil_subset _, fun _ member => by cases member⟩

theorem inside (h : Trail d passed schema) {inner : Schema} {place : Bool}
    (held : schema.Holds place (.item inner)) : Trail d passed inner :=
  ⟨h.nodup, h.known, fun component member asProperty target refers passes =>
    h.reaches component member asProperty target (.inside held refers) passes⟩

/-- Passing a component that the schema refers to. That it was passed before would close a cycle on
which nothing stops. -/
theorem pass (guarded : d.Guarded) (h : Trail d passed schema) {asProperty : Bool}
    {target : String} (refers : schema.RefersTo asProperty target)
    (passes : ¬ d.Stops asProperty target) {next : Schema}
    (found : Lookup.component d target = .ok next) : Trail d (target :: passed) next where
  nodup := by
    refine List.nodup_cons.2 ⟨fun member => ?_, h.nodup⟩
    exact guarded target (h.reaches target member asProperty target refers passes)
  known := by
    intro component member
    rcases List.mem_cons.1 member with rfl | member
    · exact (Lookup.component_mem found).1
    · exact h.known member
  reaches := by
    intro component member place other onward passesOn
    have step : d.Passes target other := ⟨next, place, found, onward, passesOn⟩
    rcases List.mem_cons.1 member with rfl | member
    · exact .single step
    · exact (h.reaches component member asProperty target refers passes).tail step

/-- A step to a schema inside, which does not stop: the room for what lies deeper gets smaller. -/
theorem step (guarded : d.Guarded) (h : Trail d passed schema) {place : Bool} {part : SchemaOrRef}
    (held : schema.Holds place part) {found : Lookup.Found}
    (located : Lookup.schema d part = .ok found)
    (passes : ∀ target, found.name = some target → ¬ d.Stops place target) :
    ∃ passed', Trail d passed' found.schema ∧
      d.room passed'.length + found.schema.size ≤ d.room passed.length + sizeOfRef part := by
  rcases Lookup.schema_cases located with
    ⟨inner, rfl, rfl⟩ | ⟨path, target, rfl, path_eq, named, component⟩
  · have size : sizeOfRef (.item inner) = inner.size := by rw [sizeOfRef]
    exact ⟨passed, h.inside held, by simp only [size, Nat.le_refl]⟩
  · have next := h.pass guarded (.here held path_eq) (passes target named) component
    have size := Infer.size_le_componentsSize component
    have count : passed.length + 1 ≤ d.componentNames.length :=
      next.nodup.length_le_of_subset next.known
    refine ⟨target :: passed, next, ?_⟩
    have one : d.room passed.length =
        d.room (target :: passed).length + (Infer.componentsSize d + 1) := by
      unfold Document.room
      rw [List.length_cons, ← Nat.succ_mul]
      congr 1
      omega
    rw [one, sizeOfRef]
    omega

end Trail

/-! ## Calls -/

/-- The find is a component with members, so it is entered if it is not marked. -/
def Lookup.Found.IsEntered (found : Lookup.Found) : Prop :=
  found.name ≠ none ∧ found.schema.isComposite = true

theorem Lookup.Found.LiesIn.not_stops {d : Document} {found : Lookup.Found}
    (inside : found.LiesIn d) (h : ¬ found.IsEntered) {place : Bool} {target : String}
    (named : found.name = some target) : ¬ d.Stops place target := by
  rintro ⟨schema, component, composite, -⟩
  obtain rfl := Except.ok.inj ((inside target named).symm.trans component)
  exact h ⟨by simp [named], composite⟩

theorem Calls.one_lt_size {d : Document} {schema : Schema} {found : Lookup.Found}
    (called : Calls d schema found) : 1 < schema.size := by
  have inside : ∃ place part, schema.Holds place part := by
    cases called with
    | part member _ => exact ⟨false, _, .part member⟩
    | property member _ _ => exact ⟨true, _, .property member⟩
    | values member _ _ _ => exact ⟨true, _, .property member⟩
  obtain ⟨place, part, held⟩ := inside
  exact Nat.lt_of_le_of_lt (sizeOfRef_pos part) held.size_lt

/-- A schema whose type is asked for on the way is a component that is entered, or the way to it is
shorter. -/
theorem Trail.call {d : Document} {passed : List String} {schema : Schema} {found : Lookup.Found}
    (guarded : d.Guarded) (h : Trail d passed schema) (called : Calls d schema found) :
    found.IsEntered ∨ ∃ passed', Trail d passed' found.schema ∧
      d.room passed'.length + found.schema.size < d.room passed.length + schema.size := by
  refine (Classical.em found.IsEntered).imp_right fun passes => ?_
  have inside := called.liesIn
  cases called with
  | part member located =>
      have held : schema.Holds false _ := .part member
      obtain ⟨passed', next, shorter⟩ :=
        h.step guarded held located fun _ => inside.not_stops passes
      have smaller := held.size_lt
      exact ⟨passed', next, by omega⟩
  | property member located _ =>
      have held : schema.Holds true _ := .property member
      obtain ⟨passed', next, shorter⟩ :=
        h.step guarded held located fun _ => inside.not_stops passes
      have smaller := held.size_lt
      exact ⟨passed', next, by omega⟩
  | @values _ _ _ holder _ member located isMap valuesLocated =>
      -- the holder is no stop, because it is a map
      have seen : ∀ target, holder.name = some target → ¬ d.Stops true target := by
        rintro target named ⟨schema, component, -, noMap⟩
        obtain rfl := Except.ok.inj
          ((Lookup.schema_liesIn located target named).symm.trans component)
        rw [noMap rfl] at isMap
        cases isMap
      have held : schema.Holds true _ := .property member
      have heldValues := Schema.holds_of_mapValues? isMap
      obtain ⟨passed₁, next₁, shorter₁⟩ := h.step guarded held located seen
      obtain ⟨passed₂, next₂, shorter₂⟩ :=
        next₁.step guarded heldValues valuesLocated fun _ => inside.not_stops passes
      have smaller := held.size_lt
      have smallerValues := heldValues.size_lt
      exact ⟨passed₂, next₂, by omega⟩

end ResourceInference
