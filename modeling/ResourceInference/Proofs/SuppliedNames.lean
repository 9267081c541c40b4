import ResourceInference.Proofs.PathFootprints
import ResourceInference.Proofs.SharedMakers

/-!
# Names that are supplied

Two names of a resource are not for the caller to give, as the provider supplies them. The property
`id` belongs to it alone: no body brings it in, so that a resource never shows it. The property
`name` gets a generated name where the request demands it itself: then the table of generated names
has the token of the creation (`generatedName_demanded`), and the names that must be set do not get
it from there.

Neither is kept away from all other steps. Path parameters have SDK names of their own, and the
normal form of a path calls its last variable `id`; such a parameter can be set on the resource, and
must be (`identityInput_iff`, `numberedWidget_identity`). And a part of the request may require the
`name` that the request itself passes over (`generatedName_required_iff`, `namedThing_required`).
-/

set_option autoImplicit false

namespace ResourceInference

/-! ## Identity -/

/-- In an extraction, no resource shows an `id`. It can be set, and then must be, exactly if it is
the SDK name of a path parameter of the creation that the resource has been made for. -/
theorem identityInput_iff {task : InferenceTask} {e : Extraction} (h : extract task = .ok e)
    {token : String} {r : ResourceSpec} (present : e.package.resources.get? token = some r) :
    r.properties.contains idProperty = false ∧ idProperty ∉ r.required ∧
      ∃ maker, r.MadeBy task e.metadata token maker ∧
        (r.inputProperties.contains idProperty = true ↔ maker.HasParameter task idProperty) ∧
        (idProperty ∈ r.requiredInputs ↔ maker.HasParameter task idProperty) := by
  obtain ⟨settled, -⟩ := extract_origins h
  rw [extract_eq_finish h] at present ⊢
  obtain ⟨maker, madeBy⟩ := settled.resources token r present
  obtain ⟨draft, taken, -, made, completes⟩ := madeBy.completes
  refine ⟨completes.properties ▸ made.outputs, fun required => ?_, maker, madeBy, ?_, ?_⟩
  · exact absurd ((completes.required _).1 required).2 (by simp [made.outputs])
  · rw [completes.inputs, made.inputs]
    simp
  · rw [completes.requiredInputs, made.requiredInputs]
    simp

/-- A widget is created under a variable of its path. -/
def numberedWidget (wire : String) : InferenceTask :=
  (Document.having [] [("/widgets/\x7b" ++ wire ++ "\x7d",
    { PathItem.creating "createWidget" (.item (.texts ["id", "size"])) with
      parameters := [.inPath wire] })]).task

/-- The variable is called `id` in the normal form of the path, and must be set on the resource. -/
theorem numberedWidget_identity : ∃ e r, extract (numberedWidget "widget_id") = .ok e ∧
    e.package.resources.get? "pkg:widgets:Widget" = some r ∧
      r.inputProperties.contains idProperty = true ∧ idProperty ∈ r.requiredInputs := by
  exact extract_resource (numberedWidget "widget_id") "pkg:widgets:Widget"
    (fun _ r => r.inputProperties.contains idProperty = true ∧ idProperty ∈ r.requiredInputs)
    (by decide +kernel)

/-- A variable with another name stays what it is, and the `id` in the body is left out. -/
theorem numberedWidget_apart : ∃ e r, extract (numberedWidget "label") = .ok e ∧
    e.package.resources.get? "pkg:widgets:Widget" = some r ∧
      r.properties.contains idProperty = false ∧ idProperty ∉ r.required ∧
        ∃ maker, r.MadeBy (numberedWidget "label") e.metadata "pkg:widgets:Widget" maker ∧
          ¬ maker.HasParameter (numberedWidget "label") idProperty ∧
            idProperty ∉ r.requiredInputs := by
  obtain ⟨e, r, h, present, optional⟩ := extract_resource (numberedWidget "label")
    "pkg:widgets:Widget" (fun _ r => idProperty ∉ r.requiredInputs) (by decide +kernel)
  obtain ⟨hidden, notRequired, maker, madeBy, -, required⟩ := identityInput_iff h present
  exact ⟨e, r, h, present, hidden, notRequired, maker, madeBy, fun has => optional (required.2 has),
    optional⟩

/-! ## Generated names -/

/-- The area of generated names: tokens get one, which is `name`, for a creation whose request
demands it. -/
def Area.ofGeneratedNames (task : InferenceTask) : Area where
  types _ := True
  entries _ := True
  autoNames token property := property = autoNameProperty ∧
    ∃ maker : ResourceMaker, maker.Makes task ∧ maker.token task = token ∧
      maker.bodies.request.Demands task.document autoNameProperty
  modules _ := True

/-- What gets a generated name is a `name` that the request of a creation demands itself. -/
theorem generatedName_demanded {task : InferenceTask} {e : Extraction} (h : extract task = .ok e)
    {token property : String} (generated : e.metadata.autoNames.get? token = some property) :
    property = autoNameProperty ∧ ∃ maker : ResourceMaker, maker.Makes task ∧
      maker.token task = token ∧
        maker.bodies.request.Demands task.document autoNameProperty := by
  have within : (Session.new task.options).Within (.ofGeneratedNames task) task.lastSession := by
    refine Infer.lastSession_within (fun _ => trivial) (fun ctx item extracts => ?_) h
    refine .free (fun _ => trivial) (fun _ => trivial) fun {method operation name bodies}
      isCreator named demands => ⟨rfl, ⟨ctx, method, operation, name, bodies⟩, ?_, rfl, demands⟩
    exact ⟨⟨item, extracts⟩, isCreator, named⟩
  rw [extract_eq_finish h] at generated
  rcases within.autoNames token with same | ⟨given, -, isGiven, inside⟩
  · cases same.symm.trans generated
  · cases isGiven.symm.trans generated
    exact inside

/-- In an extraction, what gets a generated name is the `name` of a creation that demands it, and
under the token stands a resource of the same path and name. If the creation that this has been made
for demands it too, it is shown and can be set. It must be set exactly if it is the SDK name of a
path parameter, or of some other property that is demanded, or if a part of the request requires
it. -/
theorem generatedName_required_iff {task : InferenceTask} {e : Extraction}
    (h : extract task = .ok e) {token property : String}
    (generated : e.metadata.autoNames.get? token = some property) :
    property = autoNameProperty ∧ ∃ maker : ResourceMaker, maker.Makes task ∧
      maker.token task = token ∧ maker.bodies.request.Demands task.document property ∧
      ∃ r standing, e.package.resources.get? token = some r ∧
        r.MadeBy task e.metadata token standing ∧
        standing.ctx.path = maker.ctx.path ∧ standing.name = maker.name ∧
        (standing.bodies.request.Demands task.document property →
          r.properties.contains property = true ∧ r.inputProperties.contains property = true) ∧
        ∃ taken, (standing.bodies.request.allOf.mapM
            (Infer.takePart task ⟨standing.ctx.module, standing.name⟩)).Results taken ∧
          (property ∈ r.requiredInputs ↔ standing.HasParameter task property ∨
            (∃ wire, standing.bodies.request.Demands task.document wire ∧ wire ≠ property ∧
              Naming.sdkName wire = property) ∨
            standing.bodies.stripRequired = false ∧
              ∃ object, some object ∈ taken ∧ property ∈ object.required) := by
  obtain ⟨rfl, maker, makes, rfl, demands⟩ := generatedName_demanded h generated
  obtain ⟨settled, answered⟩ := extract_origins h
  obtain ⟨r, standing, present, madeBy, samePath, sameName⟩ := makes.stands answered settled
  rw [extract_eq_finish h]
  obtain ⟨draft, taken, takes, made, completes⟩ := madeBy.completes
  have notId : autoNameProperty ≠ idProperty := by decide
  refine ⟨rfl, maker, makes, rfl, demands, r, standing, present, madeBy, samePath, sameName, ?_,
    taken, takes, ?_⟩
  · intro demanded
    obtain ⟨part, declared, settable⟩ := demanded.declared
    have named : Naming.sdkName autoNameProperty = autoNameProperty := by decide +kernel
    have isInput : draft.inputs.contains autoNameProperty = true :=
      (made.inputs _).2 ⟨notId, .inl ⟨_, mem_of_lookup declared, named, settable⟩⟩
    exact ⟨completes.shown _ isInput, (completes.inputs _).2 (.inr isInput)⟩
  · rw [completes.requiredInputs, made.requiredInputs]
    simp [notId]

/-- A thing is created with a `name`, which its schema requires, and a part of that may, too. -/
def namedThing (required : List String) : InferenceTask :=
  (Document.having [("Base", .item { Schema.texts ["name"] with required })]
    [("/things", .creating "createThing" (.item { Schema.texts ["name"] with
      allOf := [.to "Base"], required := ["name"] }))]).task

/-- The name of the thing is generated and yet must be set, since the part requires it. -/
theorem namedThing_required : ∃ e r, extract (namedThing ["name"]) = .ok e ∧
    e.metadata.autoNames.get? "pkg:things:Thing" = some "name" ∧
      e.package.resources.get? "pkg:things:Thing" = some r ∧ "name" ∈ r.requiredInputs := by
  obtain ⟨e, r, h, present, generated, required⟩ := extract_resource (namedThing ["name"])
    "pkg:things:Thing" (fun e r => e.metadata.autoNames.get? "pkg:things:Thing" = some "name" ∧
      "name" ∈ r.requiredInputs) (by decide +kernel)
  exact ⟨e, r, h, generated, present, required⟩

/-- Where the part requires nothing, the name need not be set. -/
theorem namedThing_optional : ∃ e r, extract (namedThing []) = .ok e ∧
    e.metadata.autoNames.get? "pkg:things:Thing" = some "name" ∧
      e.package.resources.get? "pkg:things:Thing" = some r ∧ "name" ∉ r.requiredInputs ∧
        ∃ standing, r.MadeBy (namedThing []) e.metadata "pkg:things:Thing" standing ∧
          ¬ standing.HasParameter (namedThing []) "name" := by
  obtain ⟨e, r, h, present, generated, optional⟩ := extract_resource (namedThing [])
    "pkg:things:Thing" (fun e r => e.metadata.autoNames.get? "pkg:things:Thing" = some "name" ∧
      "name" ∉ r.requiredInputs) (by decide +kernel)
  obtain ⟨-, -, -, -, -, r', standing, present', madeBy, -, -, -, _, -, required⟩ :=
    generatedName_required_iff h generated
  cases present.symm.trans present'
  exact ⟨e, r, h, generated, present, optional, standing, madeBy,
    fun has => optional (required.2 (.inl has))⟩

end ResourceInference
