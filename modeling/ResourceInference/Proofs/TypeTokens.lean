import ResourceInference.Proofs.EnumNames
import ResourceInference.Proofs.PathFootprints

/-!
# What the tokens of types look like

The token of a type has the module of a path of the document in it, and behind that a name. Names
are put together from titles, type names and fixed endings, which all consist of ASCII letters and
digits, and from the names of maps: the values of a property that is a map are named after its wire
name in a body, and after its SDK name everywhere else, and these are taken as they are. So a name
has such a stem at most, between two texts of letters and digits (`InferenceTask.Spells`), and is
one of letters and digits itself exactly if its stem is (`typeToken_spelt`). A map in a body whose
wire name has a hyphen shows that the stem may spoil the name (`hyphenMap_token`).

A name can be empty, too, where it is made by Pascal-casing alone. Then nothing was left of
something that a type is named after (`InferenceTask.NamesTypes`), for Pascal-casing keeps at least
what is an ASCII letter or digit (`Naming.pascalCase_ne_empty`).
-/

set_option autoImplicit false

namespace ResourceInference

/-! ## What is left of a name -/

namespace Naming

/-- Something is left of a name with an ASCII letter or digit. -/
theorem pascalCase_ne_empty {name : String} {c : Char} (member : c ∈ name.toList)
    (letter : c.isAlphanum = true) : pascalCase name ≠ "" := by
  have positive : 0 < (pascalCase name).length := by
    by_cases upper : IsUpperCase name
    · have lowered : c.toLower ∈ name.toList.flatMap Text.lowerOf := by
        refine List.mem_flatMap.2 ⟨c, member, ?_⟩
        simp [Text.lowerOf, Text.isAscii_of_isAlphanum letter]
      rw [length_pascalCase_of_isUpperCase upper]
      exact List.countP_pos_iff.2 ⟨_, lowered, Text.isAlphanum_toLower letter⟩
    · rw [length_pascalCase_of_not_isUpperCase upper]
      exact List.countP_pos_iff.2 ⟨c, member, letter⟩
  intro empty
  rw [empty] at positive
  cases positive

/-- If nothing is left of a name, a text of letters and digits in it is empty. -/
theorem eq_empty_of_pascalCase {name text : String} (plain : IsPlain text)
    (inside : ∀ c ∈ text.toList, c ∈ name.toList) (empty : pascalCase name = "") : text = "" := by
  cases chars : text.toList with
  | nil => exact String.toList_eq_nil_iff.1 chars
  | cons c rest =>
      have member : c ∈ text.toList := chars ▸ List.mem_cons_self
      exact absurd empty (pascalCase_ne_empty (inside c member) (plain c member))

theorem pascalCase_eq_empty {raw : String} (empty : camelCase false raw = []) :
    pascalCase raw = "" := by
  have none : (camelCase true raw).length = 0 := by
    have same : (camelCase false raw).length = 0 := by rw [empty, List.length_nil]
    simpa only [camelCase, length_joinWords] using same
  rw [pascalCase, List.length_eq_zero_iff.1 none]

/-- If nothing is left of the SDK name of a wire name, nothing is left of the wire name. -/
theorem pascalCase_of_sdkName {raw : String} (empty : pascalCase (sdkName raw) = "") :
    pascalCase raw = "" := by
  cases words : camelCase false raw with
  | nil => exact pascalCase_eq_empty words
  | cons c rest =>
      have kept : c ∈ camelCase false raw := words ▸ List.mem_cons_self
      have letter : c.isAlphanum = true := isAlphanum_of_mem_joinWords kept
      have member : c.toLower ∈ (sdkName raw).toList := by
        rw [sdkName, String.toList_ofList, words]
        split <;> simp [lowerFirst]
      exact absurd empty (pascalCase_ne_empty member (Text.isAlphanum_toLower letter))

end Naming

theorem IsPlain.append {first second : String} (plain : IsPlain first) (plain' : IsPlain second) :
    IsPlain (first ++ second) := by
  intro c member
  rw [String.toList_append] at member
  exact (List.mem_append.1 member).elim (plain c) (plain' c)

theorem IsPlain.of_append {first second third : String}
    (plain : IsPlain (first ++ second ++ third)) : IsPlain second := by
  intro c member
  refine plain c ?_
  rw [String.toList_append, String.toList_append]
  exact List.mem_append_left _ (List.mem_append_right _ member)

/-! ## What types are named after -/

/-- The schema at a place describes a map. -/
def RefOr.DescribesMap (d : Document) (part : SchemaOrRef) : Prop :=
  ∃ found values, Lookup.schema d part = .ok found ∧ found.schema.mapValues? = some values

namespace InferenceTask

variable (task : InferenceTask)

/-- The finds whose types a run asks for: those that operations ask for, and those inside them. -/
inductive Meets : Lookup.Found → Prop where
  | asked {ctx : PathContext} {item : PathItem} {found : Lookup.Found}
      (extracts : task.Extracts ctx item) (asks : ctx.Asks task found) : Meets found
  | inside {found inner : Lookup.Found} (outer : Meets found)
      (calls : Calls task.document found.schema inner) : Meets inner

/-- A part of a name that is taken as it is: the wire name of a property of a body that is a map,
the SDK name of a property of another schema that is a map, or nothing. -/
inductive Stem : String → Prop where
  | none : Stem ""
  | body {maker : ResourceMaker} {body : Schema} {wire : String} {part : SchemaOrRef}
      (makes : maker.Makes task) (isBody : maker.bodies.Has body)
      (member : (wire, part) ∈ body.properties) (isMap : part.DescribesMap task.document) :
      Stem wire
  | property {found : Lookup.Found} {wire : String} {part : SchemaOrRef} (met : task.Meets found)
      (member : (wire, part) ∈ found.schema.properties)
      (isMap : part.DescribesMap task.document) : Stem (Naming.sdkName wire)

/-- What the name of a type may be made of alone: the name of a component, of a resource, of a
property of a body, or of a property of another schema that is a map. -/
inductive NamesTypes : String → Prop where
  | component {component : String} {schema : Schema} (met : task.Meets ⟨some component, schema⟩) :
      NamesTypes component
  | resource {maker : ResourceMaker} (makes : maker.Makes task) : NamesTypes maker.name
  | body {maker : ResourceMaker} {body : Schema} {wire : String} {part : SchemaOrRef}
      (makes : maker.Makes task) (isBody : maker.bodies.Has body)
      (member : (wire, part) ∈ body.properties) : NamesTypes wire
  | property {found : Lookup.Found} {wire : String} {part : SchemaOrRef} (met : task.Meets found)
      (member : (wire, part) ∈ found.schema.properties)
      (isMap : part.DescribesMap task.document) : NamesTypes wire

/-- Something that types are named after has no ASCII letter or digit in Pascal case. -/
def NamesMute : Prop := ∃ source, task.NamesTypes source ∧ Naming.pascalCase source = ""

/-- The name has a stem between two texts of ASCII letters and digits, and nothing is left of it in
Pascal case only if nothing is left of something that types are named after. -/
structure Spells (name : String) : Prop where
  stem : ∃ front stem rest, IsPlain front ∧ task.Stem stem ∧ IsPlain rest ∧
    name = front ++ stem ++ rest
  mute : Naming.pascalCase name = "" → task.NamesMute

variable {task} {name : String}

namespace Spells

theorem of_isPlain (plain : IsPlain name) (mute : Naming.pascalCase name = "" → task.NamesMute) :
    task.Spells name :=
  ⟨⟨name, "", "", plain, .none, by decide, by simp⟩, mute⟩

theorem of_stem (stem : task.Stem name) (mute : Naming.pascalCase name = "" → task.NamesMute) :
    task.Spells name :=
  ⟨⟨"", name, "", by decide, stem, by decide, by simp⟩, mute⟩

theorem behind {suffix : String} (h : task.Spells name) (plain : IsPlain suffix) :
    task.Spells (name ++ suffix) := by
  obtain ⟨front, stem, rest, plainFront, isStem, plainRest, rfl⟩ := h.stem
  refine ⟨⟨front, stem, rest ++ suffix, plainFront, isStem, plainRest.append plain, ?_⟩, ?_⟩
  · simp only [String.append_assoc]
  · intro empty
    have none : suffix = "" := by
      refine Naming.eq_empty_of_pascalCase plain (fun c member => ?_) empty
      rw [String.toList_append]
      exact List.mem_append_right _ member
    rw [none, String.append_empty] at empty
    exact h.mute empty

theorem before {start : String} (plain : IsPlain start) (h : task.Spells name) :
    task.Spells (start ++ name) := by
  obtain ⟨front, stem, rest, plainFront, isStem, plainRest, rfl⟩ := h.stem
  refine ⟨⟨start ++ front, stem, rest, plain.append plainFront, isStem, plainRest, ?_⟩, ?_⟩
  · simp only [String.append_assoc]
  · intro empty
    have none : start = "" := by
      refine Naming.eq_empty_of_pascalCase plain (fun c member => ?_) empty
      rw [String.toList_append]
      exact List.mem_append_left _ member
    rw [none, String.empty_append] at empty
    exact h.mute empty

theorem pascalCase (mute : Naming.pascalCase name = "" → task.NamesMute) :
    task.Spells (Naming.pascalCase name) := by
  have plain := Naming.isPlain_pascalCase name
  refine .of_isPlain plain fun empty => mute ?_
  exact Naming.eq_empty_of_pascalCase plain (fun _ => id) empty

end Spells

end InferenceTask

/-! ## Names in a run -/

theorem PathContext.CreatesAs.creates {task : InferenceTask} {ctx : PathContext} {method : Method}
    {operation : Operation} {name : String} {bodies : ResourceBodies}
    (named : ctx.CreatesAs task method operation name bodies)
    (isCreator : Infer.creator? task ctx = some (method, operation)) :
    ctx.Creates task bodies := by
  obtain ⟨id, request, response, -, sent, answered, named⟩ := named
  have sends : ctx.Sends task request.schema (response.map (·.schema)) :=
    ⟨method, operation, request, response, isCreator, sent, answered, rfl, rfl⟩
  cases named with
  | whole unbranched => exact .whole sends unbranched
  | branch member target branchAnswered => exact .branch sends member target branchAnswered

theorem PathContext.CreatesAs.isPlain {task : InferenceTask} {ctx : PathContext} {method : Method}
    {operation : Operation} {name : String} {bodies : ResourceBodies}
    (named : ctx.CreatesAs task method operation name bodies) : IsPlain name := by
  obtain ⟨id, request, response, -, -, -, named⟩ := named
  cases named with
  | whole _ => exact Infer.isPlain_singularTitle task id method
  | branch _ _ _ => exact Naming.isPlain_pascalCase _

/-- The area of types whose tokens have the module of a path and a name that is spelt right. -/
def Area.ofSpelling (task : InferenceTask) : Area where
  types token := ∃ ctx item name, task.Extracts ctx item ∧ token = task.token ctx.module name ∧
    task.Spells name
  entries _ := True
  autoNames _ _ := True
  modules _ := True

/-- The names that a path gives to types are spelt right. -/
def PathNames.ofSpelling {task : InferenceTask} {ctx : PathContext} {item : PathItem}
    (extracts : task.Extracts ctx item) : PathNames task ctx (.ofSpelling task) where
  meets := task.Meets
  fits := task.Spells
  lies fits := ⟨ctx, item, _, extracts, rfl, fits⟩
  behind := .behind
  before := .before
  cased fits := .pascalCase fits.mute
  component {found component} met named := by
    obtain ⟨_, schema⟩ := found
    cases named
    exact .pascalCase fun empty => ⟨component, .component met, empty⟩
  opens {found} met :=
    { inside := .inside met
      values := fun {wire part holder values} member located isMap =>
        have isMap : part.DescribesMap task.document := ⟨holder, values, located, isMap⟩
        .of_stem (.property met member isMap) fun empty =>
          ⟨wire, .property met member isMap, Naming.pascalCase_of_sdkName empty⟩ }
  entries _ := trivial
  getting title := .pascalCase fun empty =>
    absurd empty (Naming.pascalCase_ne_empty (c := 'g') (by simp) (by decide))
  listing title := .pascalCase fun empty =>
    absurd empty (Naming.pascalCase_ne_empty (c := 'l') (by simp) (by decide))
  reads isGet reads := .asked extracts (.read isGet reads)
  creates {method operation name bodies} isCreator named :=
    have makes : ResourceMaker.Makes task ⟨ctx, method, operation, name, bodies⟩ :=
      ⟨⟨item, extracts⟩, isCreator, named⟩
    { named := .of_isPlain named.isPlain fun empty => ⟨name, .resource makes, empty⟩
      asked := fun asks => .asked extracts (.body (named.creates isCreator) asks)
      maps := fun {body wire part found values} isBody member located isMap =>
        .of_stem (.body makes isBody member ⟨found, values, located, isMap⟩) fun empty =>
          ⟨wire, .body makes isBody member, empty⟩
      others := fun {body wire part found} isBody member _ _ =>
        .pascalCase fun empty => ⟨wire, .body makes isBody member, empty⟩
      generated := fun _ => trivial }

/-- In an extraction, the token of a type has the module of a path in it, and behind that a name
with a stem between two texts of ASCII letters and digits, so that the name is one of letters and
digits exactly if the stem is. It is empty only if nothing is left in Pascal case of something that
types are named after. -/
theorem typeToken_spelt {task : InferenceTask} {e : Extraction} (h : extract task = .ok e)
    {token : String} {type : NamedType} (held : e.package.types.get? token = some type) :
    ∃ ctx item name, task.Extracts ctx item ∧ token = task.token ctx.module name ∧
      (∃ front stem rest, IsPlain front ∧ task.Stem stem ∧ IsPlain rest ∧
        name = front ++ stem ++ rest ∧ (IsPlain name ↔ IsPlain stem)) ∧
      (name = "" → ∃ source, task.NamesTypes source ∧ Naming.pascalCase source = "") := by
  have within := Infer.lastSession_within (fun _ => trivial)
    (fun _ _ extracts => .ofSpelling extracts) h
  rw [extract_eq_finish h] at held
  rcases within.types token with ⟨ctx, item, name, extracts, isToken, spells⟩ | same
  · obtain ⟨front, stem, rest, plain, isStem, plain', isName⟩ := spells.stem
    refine ⟨ctx, item, name, extracts, isToken, ⟨front, stem, rest, plain, isStem, plain', isName,
      fun plainName => ?_, fun plainStem => ?_⟩, ?_⟩
    · exact (isName ▸ plainName).of_append
    · exact isName ▸ (plain.append plainStem).append plain'
    · rintro rfl
      exact spells.mute (by decide)
  · cases same.symm.trans held

/-! ## A map in a body -/

/-- In front of a name of letters and digits a token has a colon. -/
theorem InferenceTask.token_colon (task : InferenceTask) (module : String) {name : String}
    (plain : IsPlain name) :
    ((task.token module name).toList.reverse.dropWhile Char.isAlphanum).head? = some ':' := by
  have letters : ∀ c ∈ name.toList.reverse, c.isAlphanum = true :=
    fun c member => plain c (List.mem_reverse.1 member)
  simp only [token, typeToken, String.toList_append, List.reverse_append]
  rw [List.dropWhile_append_of_pos letters]
  rfl

/-- A thing is created with a map whose values are objects. -/
def mappedThing (wire : String) : InferenceTask :=
  (Document.having [] [("/things", .creating "createThing" (.item (.object
    [(wire, .item { Schema.object [("x", .item (.texts ["a"]))] [] with
      additionalProperties := some (.allowed true) })] [])))]).task

/-- The values of a map are named after its wire name as it is, with the hyphen in it. -/
theorem hyphenMap_token : ∃ e type, extract (mappedThing "foo-bar") = .ok e ∧
    e.package.types.get? "pkg:things:foo-barProperties" = some type ∧
      ¬ ∃ ctx item name, (mappedThing "foo-bar").Extracts ctx item ∧
        "pkg:things:foo-barProperties" = (mappedThing "foo-bar").token ctx.module name ∧
          name ≠ "" ∧ IsPlain name := by
  have h : extract (mappedThing "foo-bar") = .ok (mappedThing "foo-bar").lastSession.finish :=
    extract_of_isOk (by decide +kernel)
  have present : (mappedThing "foo-bar").lastSession.finish.package.types.contains
      "pkg:things:foo-barProperties" = true := by decide +kernel
  generalize (mappedThing "foo-bar").lastSession.finish = e at h present
  obtain ⟨type, held⟩ := (SortedMap.contains_iff ..).1 present
  refine ⟨e, type, h, held, ?_⟩
  rintro ⟨ctx, item, name, -, isToken, -, plain⟩
  have colon := (mappedThing "foo-bar").token_colon ctx.module plain
  rw [← isToken] at colon
  exact absurd colon (by decide)

/-- Without the hyphen all is well. -/
theorem wordMap_token : ∃ e type, extract (mappedThing "size") = .ok e ∧
    e.package.types.get? "pkg:things:sizeProperties" = some type ∧
      ∃ ctx item name, (mappedThing "size").Extracts ctx item ∧
        "pkg:things:sizeProperties" = (mappedThing "size").token ctx.module name ∧
          (∃ front stem rest, IsPlain front ∧ (mappedThing "size").Stem stem ∧ IsPlain rest ∧
            name = front ++ stem ++ rest ∧ (IsPlain name ↔ IsPlain stem)) ∧
          (name = "" → ∃ source, (mappedThing "size").NamesTypes source ∧
            Naming.pascalCase source = "") := by
  have h : extract (mappedThing "size") = .ok (mappedThing "size").lastSession.finish :=
    extract_of_isOk (by decide +kernel)
  have present : (mappedThing "size").lastSession.finish.package.types.contains
      "pkg:things:sizeProperties" = true := by decide +kernel
  obtain ⟨type, held⟩ := (SortedMap.contains_iff ..).1 present
  exact ⟨_, type, h, held, typeToken_spelt h held⟩

end ResourceInference
