import Mathlib.Data.List.Forall2
import ResourceInference.Proofs.Runs
import ResourceInference.Proofs.TemplateVariables

/-!
# Parameters follow their variables

When a path is normalised, the parameters of its item and of the operations of the item are renamed
in their places, and nothing else of the item is touched (`PathItem.ParametersRelated`). A parameter
that declares a variable of the path comes to declare the variable that stands in its place in the
normal form; one that declares none stays as it is. A parameter under another name is taken in the
place of its reference, and every other reference is left (`PathTemplate.FollowsVariable`,
`PathTemplate.parameters_followVariables`). All names change at once, so that two variables may also
swap their names.
-/

set_option autoImplicit false

namespace ResourceInference

/-! ## Items that differ in their parameters -/

/-- An operation is another one but for its parameters, which are related to those of the other one
by one. -/
def Operation.ParametersRelated (related : RefOr Parameter → RefOr Parameter → Prop)
    (original operation : Operation) : Prop :=
  ∃ parameters, List.Forall₂ related original.parameters parameters ∧
    operation = { original with parameters }

/-- A path item is another one but for its parameters and those of its operations, which are related
to those of the other one by one. -/
structure PathItem.ParametersRelated (related : RefOr Parameter → RefOr Parameter → Prop)
    (item changed : PathItem) : Prop where
  summary : changed.summary = item.summary
  description : changed.description = item.description
  onPath : List.Forall₂ related item.parameters changed.parameters
  onOperations : ∀ method, Option.Rel (Operation.ParametersRelated related)
    (item.operation? method) (changed.operation? method)

section

variable {related weaker : RefOr Parameter → RefOr Parameter → Prop}
  (weaken : ∀ entry renamed, related entry renamed → weaker entry renamed)

include weaken

theorem Operation.ParametersRelated.imp {original operation : Operation}
    (h : original.ParametersRelated related operation) :
    original.ParametersRelated weaker operation := by
  obtain ⟨parameters, renamed, same⟩ := h
  exact ⟨parameters, renamed.imp weaken, same⟩

theorem PathItem.ParametersRelated.imp {item changed : PathItem}
    (h : item.ParametersRelated related changed) : item.ParametersRelated weaker changed := by
  refine ⟨h.summary, h.description, h.onPath.imp weaken, fun method => ?_⟩
  have renamed := h.onOperations method
  generalize item.operation? method = original, changed.operation? method = operation at renamed ⊢
  cases renamed with
  | none => exact .none
  | some renamed => exact .some (renamed.imp weaken)

end

/-- An item is related to itself, if each of its parameters is. -/
theorem PathItem.ParametersRelated.refl {related : RefOr Parameter → RefOr Parameter → Prop}
    (same : ∀ entry, related entry entry) (item : PathItem) :
    item.ParametersRelated related item := by
  have list : ∀ entries, List.Forall₂ related entries entries :=
    fun entries => List.forall₂_same.2 fun entry _ => same entry
  refine ⟨rfl, rfl, list _, fun method => ?_⟩
  cases item.operation? method with
  | none => exact .none
  | some operation => exact .some ⟨operation.parameters, list _, rfl⟩

namespace PathTemplate

variable {d : Document} {table : List (String × String)}

/-! ## Renamed by a table -/

/-- One parameter is another one under its new name. -/
def Renames (d : Document) (table : List (String × String)) (entry renamed : RefOr Parameter) :
    Prop :=
  renameParameter d table entry = .ok renamed

theorem renameParameters_renames {entries : List (RefOr Parameter)} :
    ∀ {renamed}, renameParameters d table entries = (renamed, none) →
      List.Forall₂ (Renames d table) entries renamed := by
  induction entries with
  | nil =>
      rintro renamed ⟨⟩
      exact .nil
  | cons entry rest ih =>
      intro renamed renames
      unfold renameParameters at renames
      split at renames
      · cases renames
      · rename_i first first_eq
        cases later : renameParameters d table rest with
        | mk renamedRest error =>
            rw [later] at renames
            cases renames
            exact .cons first_eq (ih later)

/-- The parameters of the operations of some methods are renamed, and all else is as it was. -/
structure RenamedOn (d : Document) (table : List (String × String)) (methods : List Method)
    (item changed : PathItem) : Prop where
  summary : changed.summary = item.summary
  description : changed.description = item.description
  parameters : changed.parameters = item.parameters
  renamed : ∀ method ∈ methods, Option.Rel (Operation.ParametersRelated (Renames d table))
    (item.operation? method) (changed.operation? method)
  kept : ∀ method ∉ methods, changed.operation? method = item.operation? method

namespace RenamedOn

variable {item between changed : PathItem} {method : Method} {methods : List Method}

theorem nil : RenamedOn d table [] item item := ⟨rfl, rfl, rfl, by simp, fun _ _ => rfl⟩

theorem of_none (absent : item.operation? method = none) :
    RenamedOn d table [method] item item := by
  refine ⟨rfl, rfl, rfl, fun other member => ?_, fun _ _ => rfl⟩
  rw [List.mem_singleton.1 member, absent]
  exact .none

theorem setOperation {original operation : Operation}
    (present : item.operation? method = some original)
    (renamed : original.ParametersRelated (Renames d table) operation) :
    RenamedOn d table [method] item (item.setOperation method (some operation)) := by
  refine ⟨by cases method <;> rfl, by cases method <;> rfl, by cases method <;> rfl,
    fun other member => ?_, fun other notMember => ?_⟩
  · rw [List.mem_singleton.1 member, PathItem.operation?_setOperation, if_pos rfl, present]
    exact .some renamed
  · rw [PathItem.operation?_setOperation, if_neg (by simpa using notMember)]

/-- The operation of a method is renamed once, if the method comes once. -/
theorem cons (first : RenamedOn d table [method] item between)
    (rest : RenamedOn d table methods between changed) (notLater : method ∉ methods) :
    RenamedOn d table (method :: methods) item changed := by
  refine ⟨rest.summary.trans first.summary, rest.description.trans first.description,
    rest.parameters.trans first.parameters, fun other member => ?_, fun other notMember => ?_⟩
  · by_cases isFirst : other = method
    · rw [isFirst, rest.kept method notLater]
      exact first.renamed method List.mem_cons_self
    · rw [← first.kept other (by simpa using isFirst)]
      exact rest.renamed other (List.mem_of_ne_of_mem isFirst member)
  · obtain ⟨notFirst, notMember⟩ := List.ne_and_not_mem_of_not_mem_cons notMember
    rw [rest.kept other notMember, first.kept other (by simpa using notFirst)]

end RenamedOn

theorem renameOperation_renames {item changed : PathItem} {method : Method}
    (renames : renameOperation d table item method = (changed, none)) :
    RenamedOn d table [method] item changed := by
  unfold renameOperation at renames
  split at renames
  · rename_i absent
    cases renames
    exact .of_none absent
  · rename_i original isOriginal
    cases later : renameParameters d table original.parameters with
    | mk parameters error =>
        rw [later] at renames
        cases renames
        exact .setOperation isOriginal ⟨parameters, renameParameters_renames later, rfl⟩

theorem renameOperations_renames {methods : List Method} {changed : PathItem} :
    ∀ {item : PathItem}, methods.Nodup → renameOperations d table item methods = (changed, none) →
      RenamedOn d table methods item changed := by
  induction methods with
  | nil =>
      intro item _ renames
      cases renames
      exact .nil
  | cons first rest ih =>
      intro item distinct renames
      obtain ⟨notLater, distinct⟩ := List.nodup_cons.1 distinct
      unfold renameOperations at renames
      split at renames
      · cases renames
      · rename_i between renamed
        exact (renameOperation_renames renamed).cons (ih distinct renames) notLater

/-- A renamed item is the item with all its parameters renamed. -/
theorem renameItem_renames {item changed : PathItem}
    (renames : renameItem d table item = (changed, none)) :
    item.ParametersRelated (Renames d table) changed := by
  unfold renameItem at renames
  split at renames
  · cases renames
  · rename_i parameters renamed
    have operations := renameOperations_renames (by decide) renames
    refine ⟨operations.summary, operations.description, ?_, fun method => ?_⟩
    · rw [operations.parameters]
      exact renameParameters_renames renamed
    · have renamedOn := operations.renamed method method.mem_all
      cases method <;> exact renamedOn

/-! ## Renamed with the variables -/

variable {path normalized : String} {entry renamed : RefOr Parameter}

/-- In the place of a variable of one path, a variable stands in another. -/
def Replaces (path normalized name new : String) : Prop :=
  (variableSegment name, variableSegment new) ∈
    (Text.split '/' path).zip (Text.split '/' normalized)

/-- A parameter is renamed with the variable that it declares. If it declares none, it stays. -/
structure FollowsVariable (d : Document) (path normalized : String)
    (entry renamed : RefOr Parameter) : Prop where
  declares : ∀ parameter, Lookup.parameter d entry = .ok parameter → parameter.isPath = true →
    parameter.name ∈ variableNames path →
      ∃ new, (∀ other, Replaces path normalized parameter.name other ↔ other = new) ∧
        Lookup.parameter d renamed = .ok { parameter with name := new } ∧
        renamed = if new = parameter.name then entry else .item { parameter with name := new }
  stays : (∀ parameter, Lookup.parameter d entry = .ok parameter → parameter.isPath = true →
    parameter.name ∉ variableNames path) → renamed = entry

/-- In the place of a variable, the variable of its new name stands, and no other one. -/
theorem replaces_normalForm (distinct : (variableNames path).Nodup) {name : String}
    (member : name ∈ variableNames path) (other : String) :
    Replaces path (normalForm path) name other ↔ other = newName (renamings path) name := by
  have isVariable := variableName?_variableSegment name
  rw [Replaces, split_normalForm_eq_map distinct, ← List.map_prod_left_eq_zip, List.mem_map]
  constructor
  · rintro ⟨segment, -, pair⟩
    obtain ⟨rfl, isOther⟩ := Prod.mk.inj pair
    rw [renameSegment_of_some isVariable] at isOther
    exact (variableSegment_injective isOther).symm
  · rintro rfl
    exact ⟨_, mem_variableNames.1 member, by rw [renameSegment_of_some isVariable]⟩

/-- The table renames variables of the path only, and gives each of them another name. -/
theorem renamings_lookup (distinct : (variableNames path).Nodup) {name new : String}
    (found : (renamings path).lookup name = some new) : name ∈ variableNames path ∧ new ≠ name := by
  rw [lookup_renamings distinct] at found
  have member := mem_of_lookup found
  exact ⟨renamings_sublist.subset (List.mem_map_of_mem member), ne_of_mem_renamings member⟩

/-- A parameter that is renamed by the table of a path follows its variable. -/
theorem Renames.followsVariable (distinct : (variableNames path).Nodup)
    (renames : Renames d (renamings path) entry renamed) :
    FollowsVariable d path (normalForm path) entry renamed := by
  unfold Renames renameParameter at renames
  cases located : Lookup.parameter d entry with
  | error e =>
      rw [located] at renames
      cases renames
  | ok parameter =>
      simp only [located, bind, Except.bind] at renames
      constructor
      · intro parameter' located' isPath member
        obtain rfl := Except.ok.inj (located.symm.trans located')
        refine ⟨_, replaces_normalForm distinct member, ?_⟩
        rw [if_pos isPath] at renames
        cases found : (renamings path).lookup parameter.name with
        | none =>
            rw [found] at renames
            cases renames
            have same : newName (renamings path) parameter.name = parameter.name := by
              simp [newName, found]
            rw [same, if_pos rfl]
            exact ⟨located, rfl⟩
        | some new =>
            rw [found] at renames
            cases renames
            have same : newName (renamings path) parameter.name = new := by simp [newName, found]
            rw [same, if_neg (renamings_lookup distinct found).2]
            exact ⟨rfl, rfl⟩
      · intro notDeclared
        split at renames
        · rename_i isPath
          split at renames
          · rename_i found
            exact absurd (renamings_lookup distinct found).1 (notDeclared parameter located isPath)
          · exact (Except.ok.inj renames).symm
        · exact (Except.ok.inj renames).symm

/-- Where the table of a path is empty, a parameter that stays follows its variable. -/
theorem followsVariable_of_isEmpty (distinct : (variableNames path).Nodup)
    (none : (renameSegments .none (Text.split '/' path)).2.isEmpty = true) :
    FollowsVariable d path (normalForm path) entry entry := by
  refine ⟨fun parameter located isPath member => ?_, fun _ => rfl⟩
  have same : newName (renamings path) parameter.name = parameter.name := by
    rw [newName, lookup_renamings distinct, List.isEmpty_iff.1 none]
    rfl
  refine ⟨_, replaces_normalForm distinct member, ?_⟩
  rw [same, if_pos rfl]
  exact ⟨located, rfl⟩

/-- If the variables of a path are distinct, its parameters and those of its operations follow
them when it is normalised. The lists keep their length and order, all else of the item is as it
was, and the document is only read. -/
theorem parameters_followVariables {d : Document} {path normalized : String}
    {item changed : PathItem} (h : normalize d path item = (.ok normalized, changed))
    (distinct : (variableNames path).Nodup) :
    item.ParametersRelated (FollowsVariable d path normalized) changed := by
  obtain rfl := normalize_path h
  unfold normalize at h
  dsimp only at h
  split at h
  · rename_i none
    obtain ⟨-, rfl⟩ := Prod.mk.inj h
    exact .refl (fun _ => followsVariable_of_isEmpty distinct none) item
  · split at h
    · cases h
    · rename_i changed' renamed
      obtain ⟨-, rfl⟩ := Prod.mk.inj h
      exact (renameItem_renames renamed).imp fun _ _ renames => renames.followsVariable distinct

/-- A document with one component: the parameter of a user. -/
def withUserParameter : Document :=
  { Document.having [] [] with components := some { parameters := [("User", .inPath "usersId")] } }

/-- Two ids swap their names. The one that is declared by reference is taken in place, and the
parameter of a query that is called `id`, too, stays. -/
theorem swappedIds_follow :
    let path := "/users/\x7bid\x7d/keys/\x7busersId\x7d"
    let normalized := "/users/\x7busersId\x7d/keys/\x7bid\x7d"
    let inQuery : RefOr Parameter := .item { name := "id", location := .query }
    let item : PathItem :=
      { parameters := [.ref "#/components/parameters/User"]
        get := some { parameters := [inQuery, .inPath "id"] } }
    let changed : PathItem :=
      { parameters := [.inPath "id"]
        get := some { parameters := [inQuery, .inPath "usersId"] } }
    normalize withUserParameter path item = (.ok normalized, changed) ∧
      (variableNames path).Nodup ∧
      item.ParametersRelated (FollowsVariable withUserParameter path normalized) changed := by
  intro path normalized inQuery item changed
  have renamed : renameSegments none (Text.split '/' path) =
      (["", "users", "\x7busersId\x7d", "keys", "\x7bid\x7d"],
        [("id", "usersId"), ("usersId", "id")]) := by decide +kernel
  have h : normalize withUserParameter path item = (.ok normalized, changed) := by
    simp only [normalize, renamed]
    rfl
  have names : variableNames path = ["id", "usersId"] := by decide +kernel
  have distinct : (variableNames path).Nodup := by simp [names]
  exact ⟨h, distinct, parameters_followVariables h distinct⟩

end PathTemplate

end ResourceInference
