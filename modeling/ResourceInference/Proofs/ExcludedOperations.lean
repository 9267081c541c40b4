import ResourceInference.Proofs.TaskView

/-!
# Excluding is deleting

Rules of exclusion are read in two places: every path leaves out its own excluded operations, and a
PUT looks for a POST on the path around it that is not excluded. Deleting the excluded operations
from the document beforehand has the same effect in both, and for every document and all rules the
two runs end alike (`extract_deletingExcluded`).

The runs are compared step by step. A path item of the reduced document is what the path item of
the full one is reduced to before anything else is done with it (`withoutExcluded_eq_deleting`), so
that both runs take the same steps on a path (`extractPath_deletingExcluded`); and the reduced
document lists the same paths in the same order (`SortedMap.toList_ofList_map`).
-/

set_option autoImplicit false

namespace ResourceInference

/-! ## Deleting operations -/

/-- The item without its operations under some methods. -/
def PathItem.deleting (item : PathItem) (deleted : Method → Bool) : PathItem :=
  { item with
    get := if deleted .get then none else item.get
    post := if deleted .post then none else item.post
    put := if deleted .put then none else item.put
    delete := if deleted .delete then none else item.delete
    patch := if deleted .patch then none else item.patch }

/-- The document without some of its operations. Paths stay, also those without operations. -/
def Document.deleting (d : Document) (deleted : String → Method → Bool) : Document :=
  { d with paths := d.paths.map fun entry => (entry.1, entry.2.deleting (deleted entry.1)) }

/-- Whether rules exclude the operation of a path under a method. -/
def ExclusionList.deletes (list : ExclusionList) (path : String) (method : Method) : Bool :=
  list.excludes method.name path

/-- The task whose document lacks the excluded operations, and which excludes nothing. -/
def InferenceTask.deletingExcluded (task : InferenceTask) : InferenceTask :=
  ⟨task.document.deleting task.options.exclusions.deletes, task.options.excludingNothing⟩

namespace PathItem

theorem deleting_nothing (item : PathItem) : item.deleting (fun _ => false) = item := rfl

theorem deleting_deleting (item : PathItem) (first second : Method → Bool) :
    (item.deleting first).deleting second =
      item.deleting fun method => second method || first method := by
  have either : ∀ (operation : Option Operation) (a b : Bool),
      (if a then none else if b then none else operation) =
        if a || b then none else operation := by
    intro operation a b
    cases a <;> rfl
  simp only [deleting, either]

theorem setOperation_none (item : PathItem) (method : Method) :
    item.setOperation method none = item.deleting (· = method) := by
  cases method <;> rfl

end PathItem

theorem ExclusionList.none_deletes (path : String) :
    ExclusionList.none.deletes path = fun _ => false := rfl

/-- Leaving out excluded operations one method after the other deletes them. -/
theorem withoutExcluded_eq_deleting (list : ExclusionList) (path : String) (item : PathItem) :
    withoutExcluded list path item = item.deleting (list.deletes path) := by
  have step : ∀ (item : PathItem) (method : Method),
      (if list.excludes method.name path then item.setOperation method none else item) =
        item.deleting fun other => other = method && list.deletes path other := by
    intro item method
    have one : (fun other => decide (other = method) && list.deletes path other) =
        fun other => decide (other = method) && list.deletes path method := by
      funext other
      by_cases same : other = method
      · rw [same]
      · simp [same]
    rw [one, PathItem.setOperation_none]
    cases excluded : list.excludes method.name path <;>
      simp [ExclusionList.deletes, excluded, PathItem.deleting_nothing]
  simp only [withoutExcluded, step, Method.all, List.foldl_cons, List.foldl_nil,
    PathItem.deleting_deleting]
  congr 1
  funext method
  cases method <;> simp

/-! ## The path around a path -/

theorem lookup_map_entries {α β : Type} (f : String → α → β) (entries : List (String × α))
    (key : String) : (entries.map fun entry => (entry.1, f entry.1 entry.2)).lookup key =
      (entries.lookup key).map (f key) := by
  induction entries with
  | nil => rfl
  | cons first rest ih =>
      obtain ⟨name, held⟩ := first
      by_cases same : key = name
      · subst same
        simp
      · have other : (key == name) = false := by simpa using same
        simp [List.lookup_cons, other, ih]

namespace Infer

variable (task : InferenceTask)

theorem deletingExcluded_agrees : task.deletingExcluded.Agrees task := ⟨rfl, rfl⟩

/-- Both documents give the same answer to whether a PUT creates: the POST of the path around it
is deleted in the one if it is excluded in the other. -/
theorem putCreates_deletingExcluded (ctx : PathContext) :
    putCreates task.deletingExcluded ctx = putCreates task ctx := by
  unfold putCreates
  split
  · rfl
  · rename_i parent last _
    have posts : ∀ item : PathItem,
        ((item.deleting (task.options.exclusions.deletes parent)).post.isSome &&
            !ExclusionList.none.deletes parent .post) =
          (item.post.isSome && !task.options.exclusions.deletes parent .post) := by
      intro item
      rw [ExclusionList.none_deletes]
      cases excluded : task.options.exclusions.deletes parent .post <;>
        simp [PathItem.deleting, excluded]
    have parents : task.deletingExcluded.document.paths.lookup parent =
        (task.document.paths.lookup parent).map
          (·.deleting (task.options.exclusions.deletes parent)) :=
      lookup_map_entries (fun path (item : PathItem) =>
        item.deleting (task.options.exclusions.deletes path)) ..
    rw [parents, Option.any_map]
    exact congrArg (!Naming.isVariableSegment last && !·)
      (congrArg (Option.any · (task.document.paths.lookup parent)) (funext posts))

/-! ## The run -/

theorem extractOperations_deletingExcluded (ctx : PathContext) :
    extractOperations task.deletingExcluded ctx = extractOperations task ctx :=
  (deletingExcluded_agrees task).extractOperations ctx (putCreates_deletingExcluded task ctx)

/-- A path of the reduced document takes the steps of that path in the full one. -/
theorem extractPath_deletingExcluded (path : String) (item : PathItem) :
    extractPath task.deletingExcluded
        (path, item.deleting (task.options.exclusions.deletes path)) =
      extractPath task (path, item) := by
  have agree := deletingExcluded_agrees task
  have nothing : task.deletingExcluded.options.exclusions = .none := rfl
  simp only [extractPath, withoutExcluded_eq_deleting, nothing, ExclusionList.none_deletes,
    PathItem.deleting_nothing, agree.normalizedPath, agree.useParentAsModule,
    extractOperations_deletingExcluded]

theorem extractPaths_deletingExcluded :
    extractPaths task.deletingExcluded = extractPaths task := by
  have listed : (SortedMap.ofList task.deletingExcluded.document.paths).toList =
      (SortedMap.ofList task.document.paths).toList.map fun entry =>
        (entry.1, entry.2.deleting (task.options.exclusions.deletes entry.1)) :=
    SortedMap.toList_ofList_map (fun path (item : PathItem) =>
      item.deleting (task.options.exclusions.deletes path)) task.document.paths
  simp only [extractPaths, listed, List.forM_eq_forM, List.forM_map]
  congr 1
  funext entry
  exact extractPath_deletingExcluded task entry.1 entry.2

end Infer

/-- Excluding operations gives what deleting them from the document gives: the same extraction, or
the same error. -/
theorem extract_deletingExcluded (task : InferenceTask) :
    extract task.deletingExcluded = extract task := by
  have start : Session.new task.deletingExcluded.options = Session.new task.options := rfl
  simp only [extract, start, Infer.extractPaths_deletingExcluded]

end ResourceInference
