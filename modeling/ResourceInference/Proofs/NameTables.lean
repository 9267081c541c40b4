import ResourceInference.Proofs.Composition
import ResourceInference.Proofs.Runs
import ResourceInference.Proofs.WireNames

/-!
# The two tables of names

A name that differs from its SDK name is noted twice, from the one to the other and back, and the
name of a path parameter a third time. The two steps of noting may fail one by one, but where a run
comes to its end, the two tables are inverse to each other, every pair in them is a name with the
SDK name derived from it, and the table of path parameters is a part of them
(`nameTables_inverse`).

All steps of a run that write names do it by `recordName` and `recordPathParameter`
(`Infer.Composed`), so it is enough to look at these two.
-/

set_option autoImplicit false

namespace ResourceInference

/-- The tables of names are inverse to each other, hold only names with their SDK names, and the
path parameters are among them. -/
structure Metadata.NamesPaired (m : Metadata) : Prop where
  agree : m.NamesAgree
  derived : ∀ wire sdk, m.sdkNames.get? wire = some sdk → sdk = Naming.sdkName wire ∧ sdk ≠ wire
  parameters : ∀ wire sdk, m.pathParameters.get? wire = some sdk → m.sdkNames.get? wire = some sdk

namespace Metadata.NamesPaired

variable {m m' : Metadata}

theorem empty : ({} : Metadata).NamesPaired where
  agree := by
    intro wire sdk
    constructor <;> intro h <;> cases h
  derived := by
    intro wire sdk h
    cases h
  parameters := by
    intro wire sdk h
    cases h

theorem of_same (h : m.NamesPaired) (wireNames : m'.wireNames = m.wireNames)
    (sdkNames : m'.sdkNames = m.sdkNames) (pathParameters : m'.pathParameters = m.pathParameters) :
    m'.NamesPaired where
  agree := by
    simp only [NamesAgree, wireNames, sdkNames]
    exact h.agree
  derived := by
    rw [sdkNames]
    exact h.derived
  parameters := by
    rw [sdkNames, pathParameters]
    exact h.parameters

/-- A name and its SDK name have been noted in both tables. -/
theorem noting {wire sdk : String} {wireNames sdkNames : SortedMap String} (h : m.NamesPaired)
    (derived : sdk = Naming.sdkName wire) (differs : wire ≠ sdk)
    (wireAssigned : assign m.wireNames sdk wire = .ok wireNames)
    (sdkAssigned : assign m.sdkNames wire sdk = .ok sdkNames) :
    { m with wireNames, sdkNames }.NamesPaired where
  agree := by
    intro other sdk
    apply (get?_assign wireAssigned sdk other).trans
    apply Iff.trans ?_ (get?_assign sdkAssigned other sdk).symm
    exact or_congr and_comm (h.agree other sdk)
  derived := by
    intro other sdk noted
    rcases (get?_assign sdkAssigned other sdk).1 noted with ⟨rfl, rfl⟩ | before
    · exact ⟨derived, differs.symm⟩
    · exact h.derived other sdk before
  parameters := by
    intro other sdk noted
    apply (get?_assign sdkAssigned other sdk).2
    exact .inr (h.parameters other sdk noted)

/-- A noted name has been noted as that of a path parameter. -/
theorem notingParameter {wire sdk : String} {pathParameters : SortedMap String}
    (h : m.NamesPaired) (noted : m.sdkNames.get? wire = some sdk)
    (assigned : assign m.pathParameters wire sdk = .ok pathParameters) :
    { m with pathParameters }.NamesPaired where
  agree := h.agree
  derived := h.derived
  parameters := by
    intro other held parameter
    rcases (get?_assign assigned other held).1 parameter with ⟨rfl, rfl⟩ | before
    · exact noted
    · exact h.parameters other held before

end Metadata.NamesPaired

namespace Infer

/-- Where the step gives a result, paired tables of names are still paired. -/
structure KeepsNamesPaired {α : Type} (x : Infer α) : Prop where
  ends : ∀ s, s.metadata.NamesPaired →
    Ends x s (fun _ s' => s'.metadata.NamesPaired) fun _ _ => True

variable {α : Type} {s : Session}

theorem BesideTables.metadata_eq {x : Infer α} (h : BesideTables x) (s : Session) :
    (x.run.run s).2.metadata = s.metadata := by
  have same := congrArg (·.2.metadata) (h.same s s.metadata)
  exact same

/-- A name that differs from its SDK name has been noted when it has been recorded. -/
theorem recordName_pairs {wire sdk : String} (derived : sdk = Naming.sdkName wire)
    (differs : wire ≠ sdk) (paired : s.metadata.NamesPaired) :
    Ends (recordName wire sdk) s
      (fun _ s' => s'.metadata.NamesPaired ∧ s'.metadata.sdkNames.get? wire = some sdk)
        fun _ _ => True := by
  apply (recordName_ends wire sdk).imp
  rintro _ s' (⟨own, -⟩ | ⟨wireNames, sdkNames, wireAssigned, sdkAssigned, rfl⟩)
  · exact absurd own differs
  · have noted := (get?_assign sdkAssigned wire sdk).2 (.inl ⟨rfl, rfl⟩)
    exact ⟨paired.noting derived differs wireAssigned sdkAssigned, noted⟩

theorem recordName_keepsNamesPaired {wire sdk : String} (derived : sdk = Naming.sdkName wire) :
    KeepsNamesPaired (recordName wire sdk) := by
  constructor
  intro s paired
  by_cases own : wire = sdk
  · unfold recordName
    rw [if_pos own]
    exact paired
  · exact (recordName_pairs derived own paired).imp fun _ _ pairs => pairs.1

theorem recordPathParameter_keepsNamesPaired {wire sdk : String}
    (derived : sdk = Naming.sdkName wire) : KeepsNamesPaired (recordPathParameter wire sdk) := by
  constructor
  intro s paired
  unfold recordPathParameter
  by_cases own : wire = sdk
  · rw [if_pos own]
    exact paired
  · rw [if_neg own]
    refine ends_bind.2 ((recordName_pairs derived own paired).imp ?_)
    intro _ s' ⟨paired, noted⟩
    refine ends_bind.2 (ends_get.2 (ends_bind.2 ?_))
    cases assigned : assign s'.metadata.pathParameters wire sdk with
    | error existing => simp [assignName, assigned]
    | ok pathParameters =>
        simp only [assignName, assigned, ends_pure]
        exact paired.notingParameter noted assigned

/-- A step that only writes to other tables leaves the tables of names alone. -/
theorem seat_keepsNamesPaired (token : String) (slot : CrudSlot) (path : String) :
    KeepsNamesPaired (seat token slot path) := by
  constructor
  intro s paired
  refine ends_bind.2 (ends_get.2 ?_)
  split
  · exact paired.of_same rfl rfl rfl
  · exact trivial

theorem setAutoName_keepsNamesPaired (token property : String) :
    KeepsNamesPaired (setAutoName token property) := by
  constructor
  intro s paired
  refine ends_bind.2 (ends_get.2 ?_)
  split
  · exact paired.of_same rfl rfl rfl
  · exact trivial

theorem addModule_keepsNamesPaired (module : String) : KeepsNamesPaired (addModule module) := by
  constructor
  intro s paired
  change (if s.metadata.moduleNamespaces.contains module = true then s.metadata else
    { s.metadata with moduleNamespaces := _ }).NamesPaired
  split
  · exact paired
  · exact paired.of_same rfl rfl rfl

/-- Whatever is put together from the steps of a run keeps the tables of names paired. -/
theorem Composed.keepsNamesPaired {x : Infer α} (h : Composed x) : KeepsNamesPaired x := by
  induction h with
  | beside beside =>
      constructor
      intro s paired
      have same := beside.metadata_eq s
      unfold Ends
      split
      · rename_i s' ran
        have kept : s'.metadata = s.metadata := by rw [← same, ran]
        change s'.metadata.NamesPaired
        rwa [kept]
      · trivial
  | bind _ _ first rest =>
      constructor
      intro s paired
      refine ends_bind.2 ((first.ends s paired).imp ?_)
      exact fun a s' paired => (rest a).ends s' paired
  | recordName wire => exact recordName_keepsNamesPaired rfl
  | recordPathParameter wire => exact recordPathParameter_keepsNamesPaired rfl
  | seat token slot path => exact seat_keepsNamesPaired token slot path
  | setAutoName token property => exact setAutoName_keepsNamesPaired token property
  | addModule module => exact addModule_keepsNamesPaired module

end Infer

/-- In an extraction, the tables of names are inverse to each other: a wire name stands for an SDK
name in the one exactly if that stands for it in the other. Each pair is a name with the SDK name
that is derived from it and differs from it, and the table of path parameters is a part of the table
of SDK names. -/
theorem nameTables_inverse {task : InferenceTask} {e : Extraction} (h : extract task = .ok e) :
    (∀ wire sdk, e.metadata.wireNames.get? sdk = some wire ↔
      e.metadata.sdkNames.get? wire = some sdk) ∧
    (∀ wire sdk, e.metadata.sdkNames.get? wire = some sdk →
      sdk = Naming.sdkName wire ∧ sdk ≠ wire) ∧
    ∀ wire sdk, e.metadata.pathParameters.get? wire = some sdk →
      e.metadata.sdkNames.get? wire = some sdk := by
  have run :=
    (Infer.extractPaths_composed task).keepsNamesPaired.ends (Session.new task.options) .empty
  have paired : e.metadata.NamesPaired := by
    unfold extract at h
    unfold Infer.Ends at run
    split at h
    · rename_i ran
      rw [ran] at run
      cases h
      exact run
    · cases h
  exact ⟨paired.agree, paired.derived, paired.parameters⟩

/-! ## A run with names of every kind -/

/-- Books on a shelf: the variable of the path and a property have names of their own, and the name
of another property is its SDK name. -/
def namedBooks : InferenceTask :=
  (Document.having [] [("/shelves/{shelf_no}/books", {
    PathItem.creating "createBook" (.item (.texts ["book_title", "year"])) with
    parameters := [.inPath "shelf_no"] })]).task

/-- Both names that differ are noted both ways, one of them as that of a path parameter. -/
theorem namedBooks_inverse : ∃ e, extract namedBooks = .ok e ∧
    e.metadata.sdkNames.toList = [("book_title", "bookTitle"), ("shelf_no", "shelfNo")] ∧
    e.metadata.pathParameters.toList = [("shelf_no", "shelfNo")] ∧
    e.metadata.wireNames.get? "shelfNo" = some "shelf_no" := by
  have run : extract namedBooks = .ok namedBooks.lastSession.finish :=
    extract_of_isOk (by decide +kernel)
  have parameters : namedBooks.lastSession.finish.metadata.pathParameters.toList =
      [("shelf_no", "shelfNo")] := by decide +kernel
  have parameter : namedBooks.lastSession.finish.metadata.pathParameters.get? "shelf_no" =
      some "shelfNo" := by
    apply (SortedMap.mem_toList_iff ..).1
    rw [parameters]
    exact List.mem_singleton.2 rfl
  obtain ⟨inverse, -, within⟩ := nameTables_inverse run
  exact ⟨_, run, by decide +kernel, parameters, (inverse _ _).2 (within _ _ parameter)⟩

end ResourceInference
