import ResourceInference.Proofs.NormalForms
import ResourceInference.Proofs.Runs

/-!
# Runs over the paths of a document

A run extracts the operations of each path from one context (`InferenceTask.Extracts`). If they stay
on a course and leave behind what `made` says of the context, and if that lasts along the course
(`Course.RunsPaths`), then the whole run stays on the course, and in the end `made` is true of every
context (`Course.RunsPaths.lastSession`).
-/

set_option autoImplicit false

namespace ResourceInference

/-- What there is to say of a path of the document when it has been extracted: if operations are
left, they are extracted from a context, and `made` says what they have left behind. -/
def InferenceTask.PathExtracted (task : InferenceTask) (made : PathContext → Session → Prop)
    (entry : String × PathItem) (s : Session) : Prop :=
  (withoutExcluded task.options.exclusions entry.1 entry.2).hasOperations = true →
    ∃ ctx, task.Extracts ctx entry.2 ∧ ctx.documentPath = entry.1 ∧ made ctx s

namespace Course

/-- Where a run stays on a course, a successful one ends in a session on the course. -/
theorem Runs.lastSession {C : Course} {task : InferenceTask} {post : Unit → Session → Prop}
    (runs : C.Runs (Infer.extractPaths task) (Session.new task.options) post) {e : Extraction}
    (h : extract task = .ok e) :
    C.rel (Session.new task.options) task.lastSession ∧ post () task.lastSession :=
  runs.ends.of_run (extract_ran h).1

/-- The operations of every path stay on the course and leave behind what `made` says, which lasts;
and so does the note of a module between them. -/
structure RunsPaths (C : Course) (task : InferenceTask) (made : PathContext → Session → Prop) :
    Prop where
  lasts : ∀ {ctx s s'}, C.rel s s' → made ctx s → made ctx s'
  modules : ∀ s moduleNamespaces,
    C.rel s { s with metadata := { s.metadata with moduleNamespaces } }
  operations : ∀ {ctx item}, task.Extracts ctx item → ∀ s,
    C.Runs (Infer.extractOperations task ctx) s fun _ => made ctx

namespace RunsPaths

variable {C : Course} {task : InferenceTask} {made : PathContext → Session → Prop} {s : Session}
  (runs : C.RunsPaths task made)

include runs

theorem addModule_runs {module : String} :
    C.Runs (Infer.addModule module) s fun _ _ => True := by
  have later : C.rel s { s with metadata :=
      if s.metadata.moduleNamespaces.contains module then s.metadata
      else { s.metadata with moduleNamespaces :=
        s.metadata.moduleNamespaces.insert module (Naming.moduleNamespace module) } } := by
    split
    · exact C.refl s
    · exact runs.modules s _
  exact ⟨⟨later, trivial⟩⟩

theorem extractPath_runs {entry : String × PathItem}
    (listed : entry ∈ (SortedMap.ofList task.document.paths).toList) :
    C.Runs (Infer.extractPath task entry) s fun _ => task.PathExtracted made entry := by
  obtain ⟨documentPath, item⟩ := entry
  unfold Infer.extractPath
  dsimp only
  split
  · rename_i none
    refine .pure fun answers => ?_
    simp [answers] at none
  · rename_i answers
    refine (Runs.reads (Infer.normalizedPath_reads ..)).bind
      fun (path, changed) s₁ _ ⟨_, normalized⟩ => ?_
    refine runs.addModule_runs.bind fun _ s₂ _ _ => ?_
    have extracts : task.Extracts ⟨path, documentPath,
        Naming.moduleOf path task.options.useParentAsModule, changed⟩ item :=
      ⟨(SortedMap.mem_toList_iff ..).1 listed, by simpa using answers, normalized, rfl⟩
    exact (runs.operations extracts s₂).imp fun _ s₃ _ done _ => ⟨_, extracts, rfl, done⟩

theorem extractPaths_runs :
    C.Runs (Infer.extractPaths task) s fun _ s' =>
      ∀ entry ∈ (SortedMap.ofList task.document.paths).toList,
        task.PathExtracted made entry s' := by
  unfold Infer.extractPaths
  refine .forM (fun entry s s' later extracted answers => ?_) fun entry listed s => ?_
  · obtain ⟨ctx, extracts, same, done⟩ := extracted answers
    exact ⟨ctx, extracts, same, runs.lasts later done⟩
  · exact runs.extractPath_runs listed

/-- The session of a successful run lies on the course, and every path has been extracted. -/
theorem lastSession_extracted {e : Extraction} (h : extract task = .ok e) :
    C.rel (Session.new task.options) task.lastSession ∧
      ∀ entry ∈ (SortedMap.ofList task.document.paths).toList,
        task.PathExtracted made entry task.lastSession :=
  runs.extractPaths_runs.lastSession h

/-- In a successful run, what `made` says is true of every context that operations are extracted
from. -/
theorem lastSession_made {e : Extraction} (h : extract task = .ok e) {ctx : PathContext}
    {item : PathItem} (extracts : task.Extracts ctx item) : made ctx task.lastSession := by
  obtain ⟨-, extracted⟩ := runs.lastSession_extracted h
  obtain ⟨other, extracts', same, done⟩ :=
    extracted (ctx.documentPath, item) ((SortedMap.mem_toList_iff ..).2 extracts.listed)
      extracts.answers
  -- The run has extracted the path from some context, which can only have been this one.
  obtain rfl := extracts.unique extracts' same
  exact done

end RunsPaths

end Course

end ResourceInference
