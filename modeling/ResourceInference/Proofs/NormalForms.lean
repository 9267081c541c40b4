import ResourceInference.Proofs.Courses
import ResourceInference.Proofs.ExcludedOperations

/-!
# Paths and their normal forms

A path of the document is extracted under its normal form. The normal form is a function of the path
alone (`InferenceTask.normalForm`), although normalising reads the parameters of the path item and
may fail; and neither leaving out excluded operations nor normalising changes which methods a path
answers otherwise (`InferenceTask.Extracts.offers_iff`).
-/

set_option autoImplicit false

namespace ResourceInference

/-! ## Normal forms -/

namespace PathTemplate

/-- The path with its variables named by their place. -/
def normalForm (path : String) : String :=
  Text.join '/' (renameSegments none (Text.split '/' path)).1

/-- Without renamings the segments stay. -/
theorem renameSegments_of_isEmpty {segments : List String} :
    ∀ {parent : Option String}, (renameSegments parent segments).2.isEmpty = true →
      (renameSegments parent segments).1 = segments := by
  induction segments with
  | nil => exact fun _ => rfl
  | cons segment rest ih =>
      intro parent none
      unfold renameSegments at none ⊢
      split at none
      · cases none
      · exact congrArg (segment :: ·) (ih none)

/-- Only the path decides to what it is normalised. -/
theorem normalize_path {d : Document} {path normalized : String} {item changed : PathItem}
    (h : normalize d path item = (.ok normalized, changed)) : normalized = normalForm path := by
  unfold normalize at h
  dsimp only at h
  split at h
  · rename_i none
    cases h
    rw [normalForm, renameSegments_of_isEmpty none, Text.join_split]
  · split at h
    · cases h
    · cases h
      rfl

end PathTemplate

/-! ## Operations of a normalised item -/

namespace PathItem

theorem operation?_setOperation (item : PathItem) (method other : Method)
    (operation : Option Operation) : (item.setOperation method operation).operation? other =
      if other = method then operation else item.operation? other := by
  cases method <;> cases other <;> rfl

theorem operation?_deleting (item : PathItem) (deleted : Method → Bool) (method : Method) :
    (item.deleting deleted).operation? method =
      if deleted method then none else item.operation? method := by
  cases method <;> rfl

/-- Both items answer the same methods. -/
def SameMethods (item other : PathItem) : Prop :=
  ∀ method, (item.operation? method).isSome = (other.operation? method).isSome

end PathItem

namespace PathTemplate

variable (d : Document) (table : List (String × String))

theorem renameOperation_sameMethods (item : PathItem) (method : Method) :
    (renameOperation d table item method).1.SameMethods item := by
  intro other
  unfold renameOperation
  split
  · rfl
  · rename_i operation present
    dsimp only
    rw [PathItem.operation?_setOperation]
    split
    · rename_i same
      rw [same, present]
      rfl
    · rfl

theorem renameOperations_sameMethods (methods : List Method) :
    ∀ item : PathItem, (renameOperations d table item methods).1.SameMethods item := by
  induction methods with
  | nil => exact fun _ _ => rfl
  | cons method rest ih =>
      intro item other
      have first := renameOperation_sameMethods d table item method other
      unfold renameOperations
      split
      · rename_i changed _ renamed
        rwa [renamed] at first
      · rename_i changed renamed
        rw [renamed] at first
        exact (ih changed other).trans first

theorem normalize_sameMethods (path : String) (item : PathItem) :
    (normalize d path item).2.SameMethods item := by
  intro method
  unfold normalize
  dsimp only
  split
  · rfl
  · generalize renamingTable _ = table
    have renamed : (renameItem d table item).1.SameMethods item := by
      intro method
      unfold renameItem
      split
      · cases method <;> rfl
      · refine (renameOperations_sameMethods d table Method.all _ method).trans ?_
        cases method <;> rfl
    split
    · rename_i changed _ same
      have methods := renamed method
      rwa [same] at methods
    · rename_i changed same
      have methods := renamed method
      rwa [same] at methods

end PathTemplate

/-! ## Paths of a document -/

/-- The slot that the operation of a method fills. -/
def Method.slot : Method → CrudSlot
  | .get => .read
  | .post => .create
  | .put => .put
  | .patch => .update
  | .delete => .delete

namespace InferenceTask

variable (task : InferenceTask)

/-- The path under which a path of the document is extracted. -/
def normalForm (path : String) : String :=
  if task.options.normalizePathParameters then PathTemplate.normalForm path else path

/-- The document has an operation that is not excluded, under a path and a method. -/
def Offers (path : String) (method : Method) : Prop :=
  ∃ item : PathItem, (SortedMap.ofList task.document.paths).get? path = some item ∧
    (item.operation? method).isSome = true ∧
      task.options.exclusions.excludes method.name path = false

/-- The document has an operation, under a path, that may fill a slot. -/
def Fills (path : String) : CrudSlot → Prop
  | .create => task.Offers path .post ∨ task.Offers path .put ∧ ¬ task.Offers path .post
  | .read => task.Offers path .get
  | .update => task.Offers path .patch
  | .delete => task.Offers path .delete
  | .put => task.Offers path .put

/-- A path is the normal form of one that may fill a slot. -/
def Provides (slot : CrudSlot) (path : String) : Prop :=
  ∃ documentPath, task.normalForm documentPath = path ∧ task.Fills documentPath slot

/-- What the operations of a path of the document are extracted from. -/
structure Extracts (ctx : PathContext) (item : PathItem) : Prop where
  listed : (SortedMap.ofList task.document.paths).get? ctx.documentPath = some item
  answers : (withoutExcluded task.options.exclusions ctx.documentPath item).hasOperations = true
  normalized : (Infer.normalizedPath task ctx.documentPath
    (withoutExcluded task.options.exclusions ctx.documentPath item)).Yields (ctx.path, ctx.item)
  module : ctx.module = Naming.moduleOf ctx.path task.options.useParentAsModule

end InferenceTask

namespace Infer

theorem normalizedPath_reads (task : InferenceTask) (path : String) (item : PathItem) :
    Reads (normalizedPath task path item) := by
  unfold normalizedPath
  split
  · split
    · exact .pure _
    · exact .throw _
  · exact .pure _

/-- What a path is normalised to is its normal form, and an item that answers the same methods. -/
theorem normalizedPath_yields {task : InferenceTask} {path normalized : String}
    {item changed : PathItem}
    (h : (normalizedPath task path item).Yields (normalized, changed)) :
    normalized = task.normalForm path ∧ changed.SameMethods item := by
  unfold normalizedPath at h
  unfold InferenceTask.normalForm
  split at h
  · rename_i normalizes
    rw [if_pos normalizes]
    split at h
    · rename_i normalized' changed' ran
      cases h.pure
      have methods := PathTemplate.normalize_sameMethods task.document path item
      rw [ran] at methods
      exact ⟨PathTemplate.normalize_path ran, methods⟩
    · exact h.not_throw.elim
  · rename_i normalizes
    rw [if_neg normalizes]
    cases h.pure
    exact ⟨rfl, fun _ => rfl⟩

end Infer

namespace InferenceTask

variable {task : InferenceTask} {ctx : PathContext} {item : PathItem}

theorem Extracts.path_eq (h : task.Extracts ctx item) :
    ctx.path = task.normalForm ctx.documentPath := (Infer.normalizedPath_yields h.normalized).1

/-- The operations that are extracted are those that the document offers. -/
theorem Extracts.offers_iff (h : task.Extracts ctx item) (method : Method) :
    task.Offers ctx.documentPath method ↔ (ctx.item.operation? method).isSome = true := by
  rw [(Infer.normalizedPath_yields h.normalized).2 method, withoutExcluded_eq_deleting,
    PathItem.operation?_deleting]
  unfold Offers ExclusionList.deletes
  rw [h.listed]
  cases task.options.exclusions.excludes method.name ctx.documentPath <;> simp

/-- A path with an operation that is not excluded has operations left. -/
theorem Offers.answers {path : String} {method : Method} (offers : task.Offers path method)
    (listed : (SortedMap.ofList task.document.paths).get? path = some item) :
    (withoutExcluded task.options.exclusions path item).hasOperations = true := by
  obtain ⟨same, listed', present, allowed⟩ := offers
  obtain rfl := Option.some.inj (listed.symm.trans listed')
  have left : method ∈ (withoutExcluded task.options.exclusions path item).methods := by
    refine List.mem_filter.2 ⟨method.mem_all, ?_⟩
    rw [withoutExcluded_eq_deleting, PathItem.operation?_deleting]
    simp [ExclusionList.deletes, allowed, present]
  rw [PathItem.hasOperations]
  cases methods : (withoutExcluded task.options.exclusions path item).methods with
  | nil =>
      rw [methods] at left
      cases left
  | cons _ _ => rfl

theorem Extracts.provides (h : task.Extracts ctx item) (method : Method)
    (present : (ctx.item.operation? method).isSome = true) :
    task.Provides method.slot ctx.path := by
  have offers := (h.offers_iff method).2 present
  refine ⟨ctx.documentPath, h.path_eq.symm, ?_⟩
  cases method with
  | post => exact .inl offers
  | get | put | patch | delete => exact offers

/-- What creates is a POST, or a PUT if there is no POST. -/
theorem Extracts.provides_create (h : task.Extracts ctx item)
    (creates : (Infer.creator? task ctx).isSome = true) : task.Provides .create ctx.path := by
  unfold Infer.creator? at creates
  split at creates
  · rename_i isPost
    exact h.provides .post (by simp [PathItem.operation?, isPost])
  · rename_i noPost isPut
    refine ⟨ctx.documentPath, h.path_eq.symm, .inr ⟨(h.offers_iff .put).2 ?_, fun offers => ?_⟩⟩
    · simp [PathItem.operation?, isPut]
    · have present := (h.offers_iff .post).1 offers
      simp [PathItem.operation?, noPost] at present
  · cases creates

/-- A path of the document is extracted from one context only. -/
theorem Extracts.unique {other : PathContext} {otherItem : PathItem} (h : task.Extracts ctx item)
    (h' : task.Extracts other otherItem) (same : other.documentPath = ctx.documentPath) :
    other = ctx := by
  have listed := h'.listed
  have normalized := h'.normalized
  rw [same] at listed normalized
  obtain rfl := Option.some.inj (h.listed.symm.trans listed)
  obtain ⟨samePath, sameItem⟩ := Prod.mk.inj (normalized.unique h.normalized)
  have sameModule : other.module = ctx.module := by rw [h'.module, h.module, samePath]
  cases other
  cases ctx
  simp only [PathContext.mk.injEq]
  exact ⟨samePath, same, sameModule, sameItem⟩

end InferenceTask

end ResourceInference
