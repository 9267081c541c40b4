import ResourceInference.Proofs.RenamedParameters
import ResourceInference.Proofs.SettledRuns

/-!
# Variables of paths

The path of a resource or a function has variables. If the variables of every path template are
distinct and declared (`Document.DeclaresVariables`), then each of them is an input that must be
given, as a text (`pathVariables_supplied`).

Normalising renames the variables of the template, and the parameters of the item and of its
operations, in two different places. Both go by one table: the variables of the normal form are the
new names of the variables of the template (`PathTemplate.variableNames_normalForm`), and a
parameter that declares a variable comes to declare its new name
(`PathTemplate.renameItem_declares`). This needs distinct variables: of two variables with one name,
the table knows one new name only.
-/

set_option autoImplicit false

namespace ResourceInference

/-! ## Declarations -/

/-- Some parameters declare a variable of a path. -/
def Document.Declares (d : Document) (parameters : List (RefOr Parameter)) (name : String) : Prop :=
  ∃ entry ∈ parameters, ∃ parameter, Lookup.parameter d entry = .ok parameter ∧
    parameter.isPath = true ∧ parameter.name = name

/-- A variable is declared on a path, or on each of its operations. -/
def PathItem.Declares (d : Document) (item : PathItem) (name : String) : Prop :=
  d.Declares item.parameters name ∨ ∀ method operation,
    item.operation? method = some operation → d.Declares operation.parameters name

/-- The variables of every path template are distinct, and all of them are declared. -/
structure Document.DeclaresVariables (d : Document) : Prop where
  distinct : ∀ path item, (SortedMap.ofList d.paths).get? path = some item →
    (PathTemplate.variableNames path).Nodup
  declared : ∀ path item, (SortedMap.ofList d.paths).get? path = some item →
    ∀ name ∈ PathTemplate.variableNames path, item.Declares d name

namespace PathItem

variable {d : Document} {item : PathItem} {name : String}

/-- What is declared on a path is a path parameter of each of its operations. -/
theorem Declares.hasPathParameter (h : item.Declares d name) {method : Method}
    {operation : Operation} (present : item.operation? method = some operation) :
    operation.HasPathParameter d item name := by
  rcases h with onItem | onOperations
  · obtain ⟨entry, member, declares⟩ := onItem
    exact ⟨entry, List.mem_append_left _ member, declares⟩
  · obtain ⟨entry, member, declares⟩ := onOperations method operation present
    exact ⟨entry, List.mem_append_right _ member, declares⟩

theorem Declares.deleting (h : item.Declares d name) (deleted : Method → Bool) :
    (item.deleting deleted).Declares d name := by
  rcases h with onItem | onOperations
  · exact .inl onItem
  · refine .inr fun method operation present => onOperations method operation ?_
    rw [operation?_deleting] at present
    split at present
    · cases present
    · exact present

end PathItem

namespace PathTemplate

variable {d : Document} {table : List (String × String)} {name : String}

/-! ### Renamed parameters -/

theorem Renames.declares {entry renamed : RefOr Parameter} {parameter : Parameter}
    (renames : Renames d table entry renamed)
    (located : Lookup.parameter d entry = .ok parameter) (isPath : parameter.isPath = true) :
    ∃ parameter', Lookup.parameter d renamed = .ok parameter' ∧ parameter'.isPath = true ∧
      parameter'.name = newName table parameter.name := by
  simp only [Renames, renameParameter, located, bind, Except.bind, isPath, ↓reduceIte] at renames
  cases found : table.lookup parameter.name with
  | none =>
      rw [found] at renames
      cases renames
      exact ⟨parameter, located, isPath, by simp [newName, found]⟩
  | some new =>
      rw [found] at renames
      cases renames
      exact ⟨{ parameter with name := new }, rfl, isPath, by simp [newName, found]⟩

/-- Renamed parameters declare the new name of what the parameters declare. -/
theorem declares_of_renames {entries renamed : List (RefOr Parameter)}
    (renames : List.Forall₂ (Renames d table) entries renamed)
    (declares : d.Declares entries name) : d.Declares renamed (newName table name) := by
  obtain ⟨entry, member, parameter, located, isPath, rfl⟩ := declares
  induction renames with
  | nil => cases member
  | cons first later ih =>
      rcases List.mem_cons.1 member with rfl | inRest
      · exact ⟨_, List.mem_cons_self, first.declares located isPath⟩
      · obtain ⟨entry', member', declares⟩ := ih inRest
        exact ⟨entry', List.mem_cons_of_mem _ member', declares⟩

/-- A renamed item declares the new names of the variables that the item declares. -/
theorem renameItem_declares {item changed : PathItem}
    (renames : renameItem d table item = (changed, none)) (declares : item.Declares d name) :
    changed.Declares d (newName table name) := by
  have renamed := renameItem_renames renames
  rcases declares with onItem | onOperations
  · exact .inl (declares_of_renames renamed.onPath onItem)
  · right
    intro method operation present
    have renamedOn := renamed.onOperations method
    rw [present] at renamedOn
    cases originally : item.operation? method with
    | none =>
        rw [originally] at renamedOn
        cases renamedOn
    | some original =>
        rw [originally] at renamedOn
        cases renamedOn with
        | some related =>
            obtain ⟨parameters, list, rfl⟩ := related
            exact declares_of_renames list (onOperations method original originally)

/-- Normalising keeps all variables declared. -/
theorem normalize_declares {path normalized : String} {item changed : PathItem}
    (h : normalize d path item = (.ok normalized, changed)) (distinct : (variableNames path).Nodup)
    (declared : ∀ name ∈ variableNames path, item.Declares d name) :
    ∀ name ∈ variableNames normalized, changed.Declares d name := by
  intro name member
  have isNormal := normalize_path h
  unfold normalize at h
  dsimp only at h
  split at h
  · cases h
    exact declared name member
  · split at h
    · cases h
    · rename_i renamed
      obtain ⟨-, rfl⟩ := Prod.mk.inj h
      rw [isNormal, variableNames_normalForm distinct] at member
      obtain ⟨old, isVariable, rfl⟩ := List.mem_map.1 member
      exact renameItem_declares renamed (declared old isVariable)

end PathTemplate

/-- The paths that operations are extracted from declare the variables of their normal forms. -/
theorem Document.DeclaresVariables.extracted {task : InferenceTask} {ctx : PathContext}
    {item : PathItem} (h : task.document.DeclaresVariables) (extracts : task.Extracts ctx item) :
    ∀ name ∈ PathTemplate.variableNames ctx.path, ctx.item.Declares task.document name := by
  have distinct := h.distinct _ _ extracts.listed
  have declared : ∀ name ∈ PathTemplate.variableNames ctx.documentPath,
      (withoutExcluded task.options.exclusions ctx.documentPath item).Declares task.document
        name := by
    intro name member
    rw [withoutExcluded_eq_deleting]
    exact (h.declared _ _ extracts.listed name member).deleting _
  have normalized := extracts.normalized
  unfold Infer.normalizedPath at normalized
  split at normalized
  · split at normalized
    · rename_i ran
      obtain ⟨samePath, sameItem⟩ := Prod.mk.inj normalized.pure
      rw [← samePath, ← sameItem]
      exact PathTemplate.normalize_declares ran distinct declared
    · exact normalized.not_throw.elim
  · obtain ⟨samePath, sameItem⟩ := Prod.mk.inj normalized.pure
    rw [← samePath, ← sameItem]
    exact declared

/-! ## Inputs -/

/-- Among some properties, a text must be given under the name. -/
structure PropertyMap.RequiresText (properties : PropertyMap) (required : List String)
    (name : String) : Prop where
  listed : name ∈ required
  isText : ∃ property, properties.get? name = some property ∧ property.type = .text

namespace ObjectType.HoldsPathParameters

variable {o : ObjectType} {d : Document} {item : PathItem} {operation : Operation} {wire : String}
  (holds : o.HoldsPathParameters d item operation)
  (isParameter : operation.HasPathParameter d item wire)

include holds isParameter

/-- Every path parameter must be given as a text. -/
theorem requiresText :
    PropertyMap.RequiresText o.properties o.required (Naming.sdkName wire) := by
  have present : o.properties.contains (Naming.sdkName wire) = true :=
    (holds.names _).2 ⟨wire, isParameter, rfl⟩
  obtain ⟨property, held⟩ := (SortedMap.contains_iff ..).1 present
  refine ⟨?_, property, held, ?_⟩
  · rw [holds.required]
    exact (o.properties.mem_keys_iff _).2 present
  · exact holds.texts _ ((SortedMap.mem_toList_iff ..).2 held)

/-- Path parameters that are added to a resource must be given as texts, whatever else could be set
under their names. -/
theorem requiresText_withPathParameters (r : ResourceSpec) :
    PropertyMap.RequiresText (Infer.withPathParameters o r).inputProperties
      (Infer.withPathParameters o r).requiredInputs (Naming.sdkName wire) := by
  obtain ⟨listed, property, held, isText⟩ := holds.requiresText isParameter
  refine ⟨?_, property, ?_, isText⟩
  · exact (Infer.mem_requiredInputs_withPathParameters ..).2 (.inl listed)
  · simp [Infer.withPathParameters, SortedMap.get?_union, held]

end ObjectType.HoldsPathParameters

theorem Infer.creator?_operation? {task : InferenceTask} {ctx : PathContext} {method : Method}
    {operation : Operation} (creates : creator? task ctx = some (method, operation)) :
    ctx.item.operation? method = some operation := by
  unfold creator? at creates
  split at creates
  · rename_i isPost
    cases creates
    exact isPost
  · rename_i isPut
    split at creates
    · cases creates
      exact isPut
    · cases creates
  · cases creates

/-- In an extraction of a document that declares the variables of its paths, every variable of the
path that creates a resource must be set on it, as a text, and every variable of the path that a
function reads is one of its inputs and must be given, as a text. Paths are normalised or not, as
the task says. -/
theorem pathVariables_supplied {task : InferenceTask} {e : Extraction}
    (declares : task.document.DeclaresVariables) (h : extract task = .ok e) :
    (∀ token r, e.package.resources.get? token = some r →
      (∃ path, e.metadata.Seated token .create path) ∧
      ∀ path, e.metadata.Seated token .create path → ∀ name ∈ PathTemplate.variableNames path,
        PropertyMap.RequiresText r.inputProperties r.requiredInputs (Naming.sdkName name)) ∧
    ∀ token f, e.package.functions.get? token = some f →
      (∃ path, e.metadata.Seated token .read path) ∧ ∃ inputs, f.inputs = some inputs ∧
      ∀ path, e.metadata.Seated token .read path → ∀ name ∈ PathTemplate.variableNames path,
        PropertyMap.RequiresText inputs.properties inputs.required (Naming.sdkName name) := by
  obtain ⟨settled, -⟩ := extract_origins h
  rw [extract_eq_finish h]
  refine ⟨fun token r present => ?_, fun token f present => ?_⟩
  · obtain ⟨maker, base, parameters, origin, holds, rfl⟩ := settled.resources token r present
    obtain ⟨item, extracts⟩ := origin.extracts
    refine ⟨⟨maker.ctx.path, origin.seated⟩, fun path seated name member => ?_⟩
    rw [origin.seated.unique seated] at member
    have declared := declares.extracted extracts name member
    have isOperation := Infer.creator?_operation? origin.creates
    exact holds.requiresText_withPathParameters (declared.hasPathParameter isOperation) base
  · obtain ⟨maker, origin⟩ := settled.functions token f present
    obtain ⟨item, extracts⟩ := origin.extracts
    obtain ⟨inputs, isInputs, holds⟩ := origin.inputs
    refine ⟨⟨maker.ctx.path, origin.seated⟩, inputs, isInputs, fun path seated name member => ?_⟩
    rw [origin.seated.unique seated] at member
    have declared := declares.extracted extracts name member
    have isOperation : maker.ctx.item.operation? .get = some maker.operation := origin.isGet
    exact holds.requiresText (declared.hasPathParameter isOperation)

/-- The paths of books on shelves declare their variables. -/
theorem shelvedBooks_declaresVariables : shelvedBooks.document.DeclaresVariables := by
  have listed : (SortedMap.ofList shelvedBooks.document.paths).toList =
      shelvedBooks.document.paths := by rfl
  have collection : PathTemplate.variableNames "/shelves/\x7bid\x7d/books" = ["id"] := by
    decide +kernel
  have one : PathTemplate.variableNames "/shelves/\x7bid\x7d/books/\x7bbook_id\x7d" =
      ["id", "book_id"] := by decide +kernel
  have each : ∀ entry ∈ shelvedBooks.document.paths, (PathTemplate.variableNames entry.1).Nodup ∧
      ∀ name ∈ PathTemplate.variableNames entry.1, entry.2.Declares shelvedBooks.document name := by
    refine List.forall_mem_cons.2 ⟨?_, List.forall_mem_cons.2 ⟨?_, by simp⟩⟩
    · rw [collection]
      refine ⟨by simp, fun name member => .inl ⟨.inPath name, ?_, _, rfl, rfl, rfl⟩⟩
      simp_all
    · rw [one]
      refine ⟨by simp, fun name member => .inl ⟨.inPath name, ?_, _, rfl, rfl, rfl⟩⟩
      rcases List.mem_cons.1 member with rfl | last
      · simp
      · simp [List.mem_singleton.1 last]
  refine ⟨fun path item present => ?_, fun path item present => ?_⟩
  all_goals
    have member := (SortedMap.mem_toList_iff ..).2 present
    rw [listed] at member
  · exact (each _ member).1
  · exact (each _ member).2

/-- The function that reads a book asks for its shelf and its id, under their new names. -/
theorem shelvedBooks_variables_supplied : ∃ e, extract shelvedBooks = .ok e ∧
    ∃ f inputs, e.package.functions.get? "pkg:shelves:getBook" = some f ∧ f.inputs = some inputs ∧
      PropertyMap.RequiresText inputs.properties inputs.required "shelvesId" ∧
        PropertyMap.RequiresText inputs.properties inputs.required "id" := by
  obtain ⟨ran, -, isFunction, slot⟩ := shelvedBooks_run
  have h := extract_of_isOk ran
  obtain ⟨-, functions⟩ := pathVariables_supplied shelvedBooks_declaresVariables h
  generalize shelvedBooks.lastSession.finish = e at h functions isFunction slot
  obtain ⟨f, present⟩ := Option.isSome_iff_exists.1 isFunction
  obtain ⟨-, inputs, isInputs, required⟩ := functions _ f present
  have supplied := required _ (Option.bind_eq_some_iff.1 slot)
  have names : PathTemplate.variableNames "/shelves/\x7bshelvesId\x7d/books/\x7bid\x7d" =
      ["shelvesId", "id"] := by decide +kernel
  rw [names] at supplied
  have shelf : Naming.sdkName "shelvesId" = "shelvesId" := by decide +kernel
  have book : Naming.sdkName "id" = "id" := by decide +kernel
  have shelfSupplied := supplied "shelvesId" (by simp)
  have bookSupplied := supplied "id" (by simp)
  rw [shelf] at shelfSupplied
  rw [book] at bookSupplied
  exact ⟨e, h, f, inputs, present, isInputs, shelfSupplied, bookSupplied⟩

end ResourceInference
