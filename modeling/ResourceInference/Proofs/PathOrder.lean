import ResourceInference.Proofs.Runs
import ResourceInference.Proofs.TaskView

/-!
# The order of paths

A document lists its paths in some order, and a run takes them in ascending order. The list is read
in two places: it is sorted for the run, and a PUT looks for the path around it. Where no path
comes twice, neither depends on the order of the list, so two documents that list the same paths in
different orders give the same extraction, or the same error (`extract_paths_perm`).

The visits do depend on the order in which they are made: of two different enums of one name, the
first one gets the name and the second one that of its resource in front (`namesakes`).
-/

set_option autoImplicit false

namespace ResourceInference

/-- The document with another list of paths. -/
def Document.listing (d : Document) (paths : List (String × PathItem)) : Document :=
  { d with paths }

/-- The task whose document has another list of paths. -/
def InferenceTask.listing (task : InferenceTask) (paths : List (String × PathItem)) :
    InferenceTask :=
  { task with document := task.document.listing paths }

namespace InferenceTask

variable {task : InferenceTask} {paths : List (String × PathItem)}

theorem listing_agrees : (task.listing paths).Agrees task := ⟨rfl, rfl⟩

/-- The path around a PUT is found in any order of the list. -/
theorem putCreates_listing (distinct : (task.document.paths.map (·.1)).Nodup)
    (perm : task.document.paths.Perm paths) (ctx : PathContext) :
    Infer.putCreates (task.listing paths) ctx = Infer.putCreates task ctx := by
  have around : ∀ parent, (task.listing paths).document.paths.lookup parent =
      task.document.paths.lookup parent := by
    intro parent
    exact (lookup_perm distinct perm parent).symm
  have options : (task.listing paths).options = task.options := rfl
  simp only [Infer.putCreates, around, options]

/-- A path takes the same steps in any order of the list. -/
theorem extractPath_listing (distinct : (task.document.paths.map (·.1)).Nodup)
    (perm : task.document.paths.Perm paths) :
    Infer.extractPath (task.listing paths) = Infer.extractPath task := by
  funext entry
  have options : (task.listing paths).options = task.options := rfl
  have operations := fun ctx =>
    listing_agrees.extractOperations ctx (putCreates_listing distinct perm ctx)
  simp only [Infer.extractPath, options, listing_agrees.normalizedPath, operations]

end InferenceTask

/-- Documents that list the same paths in different orders give the same extraction, or the same
error. -/
theorem extract_paths_perm {task : InferenceTask} {paths : List (String × PathItem)}
    (distinct : (task.document.paths.map (·.1)).Nodup) (perm : task.document.paths.Perm paths) :
    extract (task.listing paths) = extract task := by
  have start : Session.new (task.listing paths).options = Session.new task.options := rfl
  have visits : SortedMap.ofList (task.listing paths).document.paths =
      SortedMap.ofList task.document.paths := (SortedMap.ofList_perm distinct perm).symm
  have same : Infer.extractPaths (task.listing paths) = Infer.extractPaths task := by
    simp only [Infer.extractPaths, visits, InferenceTask.extractPath_listing distinct perm]
  simp only [extract, start, same]

/-! ## An order that would matter -/

/-- An object with a state, which is one of some words. -/
def Schema.withState (words : List String) : Schema :=
  .object [("state", .item {
    type := some (.single .string)
    enum := words.map Value.string })] []

/-- A path that makes lamps, with a state of their own. -/
def lampPath : String × PathItem :=
  ("/home/lamps", .creating "createLamp" (.item (.withState ["on", "off"])))

/-- A path that makes doors, with another state. -/
def doorPath : String × PathItem :=
  ("/home/doors", .creating "createDoor" (.item (.withState ["open", "shut"])))

/-- A document in which two enums want one name. -/
def namesakes : InferenceTask := (Document.having [] [lampPath, doorPath]).task

/-- The doors are visited first whichever path is listed first, and get the name. -/
theorem namesakes_paths_perm : (namesakes.document.paths.map (·.1)).Nodup ∧
    namesakes.document.paths.Perm [doorPath, lampPath] ∧
      extract (namesakes.listing [doorPath, lampPath]) = extract namesakes ∧
        ∃ e, extract namesakes = .ok e ∧ (e.package.types.get? "pkg:home:State").isSome ∧
          (e.package.types.get? "pkg:home:LampState").isSome := by
  have distinct : (namesakes.document.paths.map (·.1)).Nodup := by decide
  have perm : namesakes.document.paths.Perm [doorPath, lampPath] := .swap doorPath lampPath []
  refine ⟨distinct, perm, extract_paths_perm distinct perm, namesakes.lastSession.finish,
    extract_of_isOk (by decide +kernel), by decide +kernel, by decide +kernel⟩

end ResourceInference
