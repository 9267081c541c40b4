import Mathlib.Data.List.Nodup
import ResourceInference.Proofs.SettledRuns

/-!
# Makers that share a token

A resource that is put under a token takes the place of one that is there, and so does a function.
All that stands against it is the table of paths: the slot of a token takes a second path only if it
is the first one again. So two makers share a token exactly if the normal forms of their paths are
the same and their names are, and then what stands under the token has been made by one of them, and
what the other one has made is lost (`makers_sharing_iff`).

The values of a discriminator are names of one creation in Pascal case, in which different values
may come to the same. A creation leaves a resource for each value if and only if they do not; the
two kinds of pets in `pets_overwritten` do.
-/

set_option autoImplicit false

namespace ResourceInference

/-! ## Tokens of makers -/

theorem InferenceTask.token_injective (task : InferenceTask) (module : String) :
    Function.Injective (task.token module) := by
  intro name other same
  simpa [InferenceTask.token, typeToken] using same

section

variable {task : InferenceTask}

theorem InferenceTask.Extracts.module_eq {ctx ctx' : PathContext} {item item' : PathItem}
    (h : task.Extracts ctx item) (h' : task.Extracts ctx' item') (same : ctx'.path = ctx.path) :
    ctx'.module = ctx.module := by
  rw [h'.module, h.module, same]

/-- Of two names on extracted paths, the tokens are the same exactly if paths and names are, where
the table has the paths in one slot of the tokens. -/
theorem InferenceTask.Extracts.token_eq_iff {ctx ctx' : PathContext} {item item' : PathItem}
    (h : task.Extracts ctx item) (h' : task.Extracts ctx' item') {m : Metadata} {slot : CrudSlot}
    {name name' : String} (seated : m.Seated (task.token ctx.module name) slot ctx.path)
    (seated' : m.Seated (task.token ctx'.module name') slot ctx'.path) :
    task.token ctx'.module name' = task.token ctx.module name ↔
      ctx'.path = ctx.path ∧ name' = name := by
  constructor
  · intro same
    rw [same] at seated'
    have samePath := seated.unique seated'
    rw [h.module_eq h' samePath] at same
    exact ⟨samePath, task.token_injective ctx.module same⟩
  · rintro ⟨samePath, rfl⟩
    rw [h.module_eq h' samePath]

end

/-! ## What stands under a token -/

section

variable {task : InferenceTask} {s : Session}
  (answered : ∀ ctx item, task.Extracts ctx item → ctx.Answered task s)

include answered

namespace ResourceMaker.Makes

variable {maker other : ResourceMaker}

theorem hasCreated (makes : maker.Makes task) :
    s.HasCreated (maker.token task) maker.ctx.path := by
  obtain ⟨item, extracts⟩ := makes.extracts
  have made := (answered _ _ extracts).creates _ _ makes.creates
  exact made.names _ _ makes.named

theorem token_eq_iff (makes : maker.Makes task) (makes' : other.Makes task) :
    other.token task = maker.token task ↔
      other.ctx.path = maker.ctx.path ∧ other.name = maker.name := by
  obtain ⟨item, extracts⟩ := makes.extracts
  obtain ⟨item', extracts'⟩ := makes'.extracts
  exact extracts.token_eq_iff extracts' (makes.hasCreated answered).2 (makes'.hasCreated answered).2

/-- What stands under the token of a creation has been made by one with the same path and name. -/
theorem stands (settled : s.Settled task) (makes : maker.Makes task) :
    ∃ r standing, s.package.resources.get? (maker.token task) = some r ∧
      r.MadeBy task s.metadata (maker.token task) standing ∧
        standing.ctx.path = maker.ctx.path ∧ standing.name = maker.name := by
  obtain ⟨r, present⟩ := (SortedMap.contains_iff ..).1 (makes.hasCreated answered).1
  obtain ⟨standing, base, parameters, origin, rest⟩ := settled.resources _ r present
  have same := (makes.token_eq_iff answered origin.toMakes).1 origin.token_eq
  exact ⟨r, standing, present, ⟨base, parameters, origin, rest⟩, same⟩

end ResourceMaker.Makes

namespace FunctionMaker.Makes

variable {maker other : FunctionMaker}

theorem hasRead (makes : maker.Makes task) : s.HasRead (maker.token task) maker.ctx.path := by
  obtain ⟨item, extracts⟩ := makes.extracts
  exact (answered _ _ extracts).reads _ _ _ makes.isGet makes.named

theorem token_eq_iff (makes : maker.Makes task) (makes' : other.Makes task) :
    other.token task = maker.token task ↔
      other.ctx.path = maker.ctx.path ∧ other.name = maker.name := by
  obtain ⟨item, extracts⟩ := makes.extracts
  obtain ⟨item', extracts'⟩ := makes'.extracts
  exact extracts.token_eq_iff extracts' (makes.hasRead answered).2 (makes'.hasRead answered).2

/-- What stands under the token of a read has been made by one with the same path and name. -/
theorem stands (settled : s.Settled task) (makes : maker.Makes task) :
    ∃ f standing, s.package.functions.get? (maker.token task) = some f ∧
      f.Origin task s.metadata (maker.token task) standing ∧
        standing.ctx.path = maker.ctx.path ∧ standing.name = maker.name := by
  obtain ⟨f, present⟩ := (SortedMap.contains_iff ..).1 (makes.hasRead answered).1
  obtain ⟨standing, origin⟩ := settled.functions _ f present
  have same := (makes.token_eq_iff answered origin.toMakes).1 origin.token_eq
  exact ⟨f, standing, present, origin, same⟩

end FunctionMaker.Makes

end

/-- In an extraction, two creations share a token exactly if the normal forms of their paths and
their names are the same; and what stands under the token has been made by one of them, so that it
has been made by the creation itself if that shares the token with no other one. Likewise for reads
and their functions. The values of a discriminator all have a resource under their tokens, and these
are distinct exactly if the values are in Pascal case. -/
theorem makers_sharing_iff {task : InferenceTask} {e : Extraction} (h : extract task = .ok e) :
    (∀ maker : ResourceMaker, maker.Makes task →
      (∃ r standing, e.package.resources.get? (maker.token task) = some r ∧
        r.MadeBy task e.metadata (maker.token task) standing ∧
          standing.ctx.path = maker.ctx.path ∧ standing.name = maker.name) ∧
      ∀ other : ResourceMaker, other.Makes task →
        (other.token task = maker.token task ↔
          other.ctx.path = maker.ctx.path ∧ other.name = maker.name)) ∧
    (∀ maker : FunctionMaker, maker.Makes task →
      (∃ f standing, e.package.functions.get? (maker.token task) = some f ∧
        f.Origin task e.metadata (maker.token task) standing ∧
          standing.ctx.path = maker.ctx.path ∧ standing.name = maker.name) ∧
      ∀ other : FunctionMaker, other.Makes task →
        (other.token task = maker.token task ↔
          other.ctx.path = maker.ctx.path ∧ other.name = maker.name)) ∧
    ∀ ctx item method operation request, task.Extracts ctx item →
      Infer.creator? task ctx = some (method, operation) →
        (Infer.requestSchema task method ctx.path operation).Yields request →
      (∀ entry ∈ discriminatorMapping request.schema, e.package.resources.contains
        (task.token ctx.module (Naming.pascalCase entry.1)) = true) ∧
      (((discriminatorMapping request.schema).map fun entry =>
          task.token ctx.module (Naming.pascalCase entry.1)).Nodup ↔
        ((discriminatorMapping request.schema).map fun entry =>
          Naming.pascalCase entry.1).Nodup) := by
  obtain ⟨settled, answered⟩ := extract_origins h
  rw [extract_eq_finish h]
  refine ⟨fun maker makes => ?_, fun maker makes => ?_, ?_⟩
  · exact ⟨makes.stands answered settled, fun other => makes.token_eq_iff answered⟩
  · exact ⟨makes.stands answered settled, fun other => makes.token_eq_iff answered⟩
  · intro ctx item method operation request extracts creates sent
    have made := (answered ctx item extracts).creates method operation creates
    refine ⟨fun entry member => (made.values request sent entry member).1, ?_⟩
    have tokens : ((discriminatorMapping request.schema).map fun entry =>
        task.token ctx.module (Naming.pascalCase entry.1)) =
        ((discriminatorMapping request.schema).map fun entry => Naming.pascalCase entry.1).map
          (task.token ctx.module) := by
      simp only [List.map_map, Function.comp_def]
    rw [tokens]
    exact List.nodup_map_iff (task.token_injective ctx.module)

/-! ## Two kinds of pets -/

/-- Pets of two kinds, each with a property of its own. -/
def petKinds (first second : String) : Schema where
  oneOf := [.to "A", .to "B"]
  discriminator := some ⟨"kind",
    [(first, Lookup.schemaReference "A"), (second, Lookup.schemaReference "B")]⟩

/-- Both kinds of pets are created by one operation. -/
def pets (first second : String) : InferenceTask :=
  (Document.having [("A", .item (.texts ["kind", "a"])), ("B", .item (.texts ["kind", "b"]))]
    [("/pets", .creating "createPet" (.item (petKinds first second)))]).task

/-- The discriminator has two values, which come to one name: one resource is left, which has the
property of the second kind and lacks that of the first. -/
theorem pets_overwritten : ∃ e, extract (pets "foo-bar" "foo_bar") = .ok e ∧
    (discriminatorMapping (petKinds "foo-bar" "foo_bar")).length = 2 ∧
      e.package.resources.keys = ["pkg:pets:FooBar"] ∧
        ∃ r, e.package.resources.get? "pkg:pets:FooBar" = some r ∧
          r.properties.contains "b" = true ∧ r.properties.contains "a" = false := by
  have h : extract (pets "foo-bar" "foo_bar") =
      .ok (pets "foo-bar" "foo_bar").lastSession.finish := extract_of_isOk (by decide +kernel)
  have keys : (pets "foo-bar" "foo_bar").lastSession.finish.package.resources.keys =
      ["pkg:pets:FooBar"] := by decide +kernel
  have facts : ((pets "foo-bar" "foo_bar").lastSession.finish.package.resources.get?
      "pkg:pets:FooBar").map (fun r => r.properties.contains "b" && !r.properties.contains "a") =
        some true := by decide +kernel
  generalize (pets "foo-bar" "foo_bar").lastSession.finish = e at h keys facts
  obtain ⟨r, present, only⟩ := Option.map_eq_some_iff.1 facts
  exact ⟨e, h, rfl, keys, r, present, by simpa using only⟩

/-- Two values with two names leave two resources. -/
theorem pets_apart : ∃ e, extract (pets "cat" "dog") = .ok e ∧
    e.package.resources.contains "pkg:pets:Cat" = true ∧
      e.package.resources.contains "pkg:pets:Dog" = true ∧
        ["pkg:pets:Cat", "pkg:pets:Dog"].Nodup := by
  have h : extract (pets "cat" "dog") = .ok (pets "cat" "dog").lastSession.finish :=
    extract_of_isOk (by decide +kernel)
  have extracts : (pets "cat" "dog").Extracts ⟨"/pets", "/pets", "pets",
      .creating "createPet" (.item (petKinds "cat" "dog"))⟩
        (.creating "createPet" (.item (petKinds "cat" "dog"))) :=
    ⟨rfl, by decide +kernel, fun _ => rfl, by decide +kernel⟩
  obtain ⟨-, -, discriminated⟩ := makers_sharing_iff h
  generalize (pets "cat" "dog").lastSession.finish = e at h discriminated
  obtain ⟨made, apart⟩ := discriminated _ _ .post _ ⟨none, petKinds "cat" "dog"⟩ extracts rfl
    (fun _ => rfl)
  have cat : (pets "cat" "dog").token "pets" (Naming.pascalCase "cat") = "pkg:pets:Cat" := by
    decide +kernel
  have dog : (pets "cat" "dog").token "pets" (Naming.pascalCase "dog") = "pkg:pets:Dog" := by
    decide +kernel
  have catMade := made ("cat", Lookup.schemaReference "A") List.mem_cons_self
  have dogMade := made ("dog", Lookup.schemaReference "B")
    (List.mem_cons_of_mem _ List.mem_cons_self)
  have tokens := apart.2 (by decide +kernel)
  change [(pets "cat" "dog").token "pets" (Naming.pascalCase "cat"),
    (pets "cat" "dog").token "pets" (Naming.pascalCase "dog")].Nodup at tokens
  rw [cat] at catMade tokens
  rw [dog] at dogMade tokens
  exact ⟨e, h, catMade, dogMade, tokens⟩

end ResourceInference
