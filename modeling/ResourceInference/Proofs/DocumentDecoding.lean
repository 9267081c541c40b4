import ResourceInference.OpenApi.Reader
import ResourceInference.Proofs.SchemaDecoding

/-!
# Documents that are written and read again

A document that was read from JSON, written as JSON and read again is the same document unless one
of its schemas hides a reference (`Document.reread_iff`). Nothing else is lost: every part of a
document is recovered if the schemas in it are, one lemma for each part, from parameters up to the
document.
-/

set_option autoImplicit false

namespace ResourceInference

open Decode

/-! ## References -/

/-- The components are written as records without the key of references. -/
def WrittenAsRecords {α : Type} (encode : α → Value) : Prop :=
  ∀ a, ∃ entries names, encode a = .record entries ∧ Named names entries ∧ names.Nodup ∧
    "$ref" ∉ names

/-- The schemas that are written in a component, none in a reference. -/
def RefOr.schemas {α : Type} (schemas : α → List Schema) : RefOr α → List Schema
  | .ref _ => []
  | .item component => schemas component

section

variable {α : Type} {decode : Node → Result α} {encode : α → Value} {schemas : α → List Schema}
  {bound : Nat}

theorem WrittenAsRecords.present (records : WrittenAsRecords encode) (a : α) :
    isAbsent (.ofValue (encode a)) = false := by
  obtain ⟨entries, names, written, -⟩ := records a
  rw [written]
  rfl

theorem RefOr.present (records : WrittenAsRecords encode) (r : RefOr α) :
    isAbsent (.ofValue (r.encode encode)) = false := by
  cases r with
  | ref path => rfl
  | item component => exact records.present component

/-- A reference or a component is recovered if the component is. -/
theorem RefOr.faithful (records : WrittenAsRecords encode) {node : Node} {r : RefOr α}
    (within : node.Within (bound + 1)) (h : RefOr.decode decode node = .ok r)
    (component : ∀ c, decode node = .ok c →
      Faithful decode encode (fun c => NoneHides (schemas c)) (bound + 1) c) :
    Faithful (RefOr.decode decode) (RefOr.encode encode) (fun r => NoneHides (r.schemas schemas))
      (bound + 1) r := by
  have item : ∀ c, decode node = .ok c → Faithful (RefOr.decode decode) (RefOr.encode encode)
      (fun r => NoneHides (r.schemas schemas)) (bound + 1) (.item c) := by
    intro c made
    refine ⟨Iff.trans ?_ (component c made).back, (component c made).within⟩
    obtain ⟨entries, names, written, named, distinct, unnamed⟩ := records c
    have none : referenceTarget? (Node.ofEntries (entries.filterMap id)) = none := by
      rw [Option.eq_none_iff_forall_ne_some]
      intro path found
      have held := (referenceTarget?_distinct (named.keys.nodup distinct) path).1 found
      exact unnamed (named.keys.subset (List.mem_map_of_mem (mem_of_lookup held)))
    simp only [Recovers, RefOr.encode, written, Value.record, Node.ofValue, RefOr.decode, none,
      map_ok, RefOr.item.injEq, exists_eq_right]
  unfold RefOr.decode at h
  split at h
  · split at h
    · cases h
      refine ⟨iff_of_true ?_ noneHides_nil, ?_⟩
      · rw [Recovers, RefOr.encode, encodeReference, Node.ofValue, RefOr.decode,
          referenceTarget?_reference]
      · intro e member
        obtain rfl := List.mem_singleton.1 member
        exact within_string _ _
    · obtain ⟨c, made, rfl⟩ := map_ok.1 h
      exact item c made
  · obtain ⟨c, made, rfl⟩ := map_ok.1 h
    exact item c made

end

/-! ## Parameters and bodies -/

/-- The schemas that are written in a parameter. -/
def Parameter.schemas (p : Parameter) : List Schema := nestedOfOptional p.schema

/-- The schemas that are written in content of a media type. -/
def MediaType.schemas (m : MediaType) : List Schema := nestedOfOptional m.schema

/-- The schemas that are written in a request body. -/
def RequestBody.schemas (b : RequestBody) : List Schema := b.content.flatMap (·.2.schemas)

/-- The schemas that are written in a response. -/
def Response.schemas (r : Response) : List Schema := r.content.flatMap (·.2.schemas)

@[simp]
theorem noneHides_flatMap {α : Type} {items : List α} {schemas : α → List Schema} :
    NoneHides (items.flatMap schemas) ↔ ∀ a ∈ items, NoneHides (schemas a) := by
  simp only [NoneHides, List.mem_flatMap, forall_exists_index, and_imp]
  constructor
  · intro h a member s inside
    exact h s a member inside
  · intro h s a member inside
    exact h a member s inside

/-- A table is recovered if the schemas in its components are. -/
theorem faithful_table {α : Type} {reading : Reading} {decode : Node → Result α}
    {encode : α → Value} {schemas : α → List Schema} {bound : Nat}
    (each : ∀ b, b + 1 = bound → ∀ node a, node.Within b → decode node = .ok a →
      Faithful decode encode (fun a => NoneHides (schemas a)) b a)
    {node : Node} {table : List (String × α)} (within : node.Within bound)
    (h : Decode.mapping reading decode node = .ok table) :
    Faithful (Decode.mapping reading decode) (encodeTable encode)
      (fun table => NoneHides (table.flatMap fun e => schemas e.2)) bound table :=
  (faithful_mapping each within h).weaken noneHides_flatMap.symm

theorem ParameterLocation.recovers (l : ParameterLocation) :
    ParameterLocation.decode (.ofValue (.string l.name)) = .ok l := by
  cases l <;> rfl

theorem Parameter.written : WrittenAsRecords Parameter.encode := fun _ =>
  ⟨_, _, rfl, .entry (.entry (.optional (.entry (.optional .nil)))), by decide, by decide⟩

theorem Parameter.faithful {node : Node} {p : Parameter} {bound : Nat} (within : node.Within bound)
    (h : Parameter.decode node = .ok p) :
    Faithful Parameter.decode Parameter.encode (fun p => NoneHides p.schemas) bound p := by
  simp only [Parameter.decode, bind_ok] at h
  obtain ⟨f, read, name, -, location, -, description, -, required, -, schema, shaped, -, -,
    made⟩ := h
  cases made
  obtain ⟨b, rfl, inside⟩ := fields_within within read
  have kept := kept_optional inside shaped fun node part => faithful_schema
  refine ⟨?_, within_record (by simpa using fun part present => (kept part present).within)⟩
  have back := readOptional_kept kept fun part _ => present_schema part
  unfold Recovers Parameter.decode Parameter.encode
  rw [fields_record (.entry (.entry (.optional (.entry (.optional .nil))))) (by decide)]
  simpa [readDefault, ParameterLocation.recovers, Parameter.schemas, noneHides_optional] using back


theorem MediaType.faithful {node : Node} {m : MediaType} {bound : Nat} (within : node.Within bound)
    (h : MediaType.decode node = .ok m) :
    Faithful MediaType.decode MediaType.encode (fun m => NoneHides m.schemas) bound m := by
  simp only [MediaType.decode, bind_ok] at h
  obtain ⟨f, read, schema, shaped, -, -, made⟩ := h
  cases made
  obtain ⟨b, rfl, inside⟩ := fields_within within read
  have kept := kept_optional inside shaped fun node part => faithful_schema
  refine ⟨?_, within_record (by simpa using fun part present => (kept part present).within)⟩
  have back := readOptional_kept kept fun part _ => present_schema part
  unfold Recovers MediaType.decode MediaType.encode
  rw [fields_record (.optional .nil) (by decide)]
  simpa [MediaType.schemas, noneHides_optional] using back

/-- Content is recovered if its schemas are. -/
theorem faithful_content {node : Node} {content : List (String × MediaType)} {bound : Nat}
    (within : node.Within bound) (h : decodeContent node = .ok content) :
    Faithful decodeContent (encodeTable MediaType.encode)
      (fun content => NoneHides (content.flatMap (·.2.schemas))) bound content :=
  faithful_table (fun _ _ _ _ => MediaType.faithful) within h

theorem RequestBody.written : WrittenAsRecords RequestBody.encode := fun _ =>
  ⟨_, _, rfl, .optional (.entry .nil), by decide, by decide⟩

/-- A request body has content when it is encoded, even where it was read without any. -/
theorem RequestBody.faithful {node : Node} {r : RequestBody} {bound : Nat}
    (within : node.Within (bound + 2)) (h : RequestBody.decode node = .ok r) :
    Faithful RequestBody.decode RequestBody.encode (fun r => NoneHides r.schemas)
      (bound + 2) r := by
  simp only [RequestBody.decode, bind_ok] at h
  obtain ⟨f, read, description, -, content, filled, -, -, made⟩ := h
  cases made
  obtain ⟨b, same, inside⟩ := fields_within within read
  obtain rfl : b = bound + 1 := by omega
  have kept : Faithful decodeContent (encodeTable MediaType.encode)
      (fun content => NoneHides (content.flatMap (·.2.schemas))) (bound + 1) content := by
    rcases withDefault_ok filled with rfl | ⟨e, member, made⟩
    · exact ⟨iff_of_true rfl (by simp), fun _ filled => by cases filled⟩
    · exact faithful_content (inside e member) made
  refine ⟨?_, within_record (by simpa using kept.within)⟩
  have back := kept.back
  unfold Recovers RequestBody.decode RequestBody.encode
  rw [fields_record (.optional (.entry .nil)) (by decide)]
  simpa [readDefault, RequestBody.schemas, Recovers] using back

theorem Response.written : WrittenAsRecords Response.encode := fun _ =>
  ⟨_, _, rfl, .entry (.table .nil), by decide, by decide⟩

theorem Response.faithful {node : Node} {r : Response} {bound : Nat} (within : node.Within bound)
    (h : Response.decode node = .ok r) :
    Faithful Response.decode Response.encode (fun r => NoneHides r.schemas) bound r := by
  simp only [Response.decode, bind_ok] at h
  obtain ⟨f, read, description, -, content, filled, -, -, made⟩ := h
  cases made
  obtain ⟨b, rfl, inside⟩ := fields_within within read
  have kept := kept_default inside filled fun node => faithful_content
  refine ⟨?_, within_record (by simpa [tableEntry] using fun present => (kept present).within)⟩
  have back := readDefault_kept kept (by simp)
  unfold Recovers Response.decode Response.encode
  rw [fields_record (.entry (.table .nil)) (by decide)]
  simpa [readDefault, tableEntry, Response.schemas] using back

/-! ## Paths -/

/-- The schemas that are written in an operation. -/
def Operation.schemas (o : Operation) : List Schema :=
  o.parameters.flatMap (RefOr.schemas Parameter.schemas) ++
    o.requestBody.toList.flatMap (RefOr.schemas RequestBody.schemas) ++
    o.responses.flatMap fun e => e.2.schemas Response.schemas

/-- The schemas that are written in a path item. -/
def PathItem.schemas (item : PathItem) : List Schema :=
  item.parameters.flatMap (RefOr.schemas Parameter.schemas) ++
    [item.get, item.post, item.put, item.delete, item.patch].flatMap fun operation =>
      operation.toList.flatMap Operation.schemas

/-- Parameters are recovered if their schemas are. -/
theorem faithful_parameters {reading : Reading} {node : Node} {parameters : List (RefOr Parameter)}
    {bound : Nat} (within : node.Within (bound + 2))
    (h : decodeParameters reading node = .ok parameters) :
    Faithful (decodeParameters reading)
      (fun parameters => .list (parameters.map (RefOr.encode Parameter.encode)))
      (fun parameters => NoneHides (parameters.flatMap (RefOr.schemas Parameter.schemas)))
      (bound + 2) parameters := by
  have each := faithful_list (fun b below node r within made => by
    obtain rfl : b = bound + 1 := by omega
    exact RefOr.faithful Parameter.written within made fun _ => Parameter.faithful within) within h
  exact each.weaken noneHides_flatMap.symm

/-- Components by name are recovered if their schemas are. -/
theorem faithful_components {α : Type} {decode : Node → Result α} {encode : α → Value}
    {schemas : α → List Schema} {bound : Nat} (records : WrittenAsRecords encode)
    (component : ∀ node c, node.Within (bound + 1) → decode node = .ok c →
      Faithful decode encode (fun c => NoneHides (schemas c)) (bound + 1) c)
    {reading : Reading} {node : Node} {table : List (String × RefOr α)}
    (within : node.Within (bound + 2))
    (h : Decode.mapping reading (RefOr.decode decode) node = .ok table) :
    Faithful (Decode.mapping reading (RefOr.decode decode)) (encodeTable (RefOr.encode encode))
      (fun table => NoneHides (table.flatMap fun e => e.2.schemas schemas)) (bound + 2) table := by
  refine faithful_table (fun b below node r within made => ?_) within h
  obtain rfl : b = bound + 1 := by omega
  exact RefOr.faithful records within made fun c => component node c within

theorem Operation.faithful {reading : Reading} {node : Node} {o : Operation} {bound : Nat}
    (within : node.Within (bound + 3)) (h : Operation.decode reading node = .ok o) :
    Faithful (Operation.decode reading) Operation.encode (fun o => NoneHides o.schemas)
      (bound + 3) o := by
  simp only [Operation.decode, bind_ok] at h
  obtain ⟨f, read, id, -, summary, -, description, -, parameters, listed, body, sent, responses,
    answered, -, -, made⟩ := h
  cases made
  obtain ⟨b, same, inside⟩ := fields_within within read
  obtain rfl : b = bound + 2 := by omega
  have keptParameters := kept_default inside listed fun node => faithful_parameters
  have keptBody := kept_optional inside sent fun node r within made =>
    RefOr.faithful RequestBody.written within made fun _ => RequestBody.faithful within
  have keptResponses := kept_default inside answered fun node =>
    faithful_components Response.written fun node r => Response.faithful
  refine ⟨?_, within_record ?_⟩
  · have backParameters := readDefault_kept keptParameters (by simp)
    have backBody := readOptional_kept keptBody fun r _ => RefOr.present RequestBody.written r
    have backResponses := readDefault_kept keptResponses (by simp)
    unfold Recovers Operation.decode Operation.encode
    rw [fields_record (.optional (.optional (.optional (.list (.optional (.table .nil))))))
      (by decide)]
    simp [listEntry, tableEntry, Operation.schemas, backParameters, backBody, backResponses]
  · have fitParameters := fun present => (keptParameters present).within
    have fitBody := fun r present => (keptBody r present).within
    have fitResponses := fun present => (keptResponses present).within
    simp_all [tableEntry, listEntry]

theorem Operation.written : WrittenAsRecords Operation.encode := fun _ =>
  ⟨_, _, rfl, .optional (.optional (.optional (.list (.optional (.table .nil))))), by decide,
    by decide⟩

theorem PathItem.faithful {reading : Reading} {node : Node} {item : PathItem} {bound : Nat}
    (within : node.Within (bound + 4)) (h : PathItem.decode reading node = .ok item) :
    Faithful (PathItem.decode reading) PathItem.encode (fun item => NoneHides item.schemas)
      (bound + 4) item := by
  simp only [PathItem.decode, bind_ok] at h
  obtain ⟨f, read, summary, -, description, -, parameters, listed, get, got, post, posted,
    put, puts, delete, deleted, patch, patched, -, -, made⟩ := h
  cases made
  obtain ⟨b, same, inside⟩ := fields_within within read
  obtain rfl : b = bound + 3 := by omega
  have keptParameters := kept_default inside listed fun node => faithful_parameters
  have kept : ∀ {name o}, f.optional name (Operation.decode reading) = .ok o → _ := fun h =>
    kept_optional inside h fun node o => Operation.faithful
  have keptGet := kept got
  have keptPost := kept posted
  have keptPut := kept puts
  have keptDelete := kept deleted
  have keptPatch := kept patched
  refine ⟨?_, within_record ?_⟩
  · have present : ∀ o : Operation, isAbsent (.ofValue o.encode) = false :=
      Operation.written.present
    have backParameters := readDefault_kept keptParameters (by simp)
    have backGet := readOptional_kept keptGet fun o _ => present o
    have backPost := readOptional_kept keptPost fun o _ => present o
    have backPut := readOptional_kept keptPut fun o _ => present o
    have backDelete := readOptional_kept keptDelete fun o _ => present o
    have backPatch := readOptional_kept keptPatch fun o _ => present o
    unfold Recovers PathItem.decode PathItem.encode
    rw [fields_record (.optional (.optional (.list (.optional (.optional (.optional (.optional
      (.optional .nil)))))))) (by decide)]
    simp [listEntry, PathItem.schemas, backParameters, backGet, backPost, backPut, backDelete,
      backPatch]
  · have fitParameters := fun present => (keptParameters present).within
    have fitGet := fun r present => (keptGet r present).within
    have fitPost := fun r present => (keptPost r present).within
    have fitPut := fun r present => (keptPut r present).within
    have fitDelete := fun r present => (keptDelete r present).within
    have fitPatch := fun r present => (keptPatch r present).within
    simp_all [listEntry]


/-! ## Documents -/

/-- The schemas that are written in the component tables. -/
def Components.nestedSchemas (c : Components) : List Schema :=
  (c.schemas.flatMap fun e => nestedOfRef e.2) ++
    (c.parameters.flatMap fun e => e.2.schemas Parameter.schemas) ++
    (c.requestBodies.flatMap fun e => e.2.schemas RequestBody.schemas) ++
    c.responses.flatMap fun e => e.2.schemas Response.schemas

/-- The schemas that are written in a document. -/
def Document.nestedSchemas (d : Document) : List Schema :=
  (d.paths.flatMap fun e => e.2.schemas) ++ d.components.toList.flatMap Components.nestedSchemas

theorem Info.faithful {reading : Reading} {node : Node} {i : Info} {bound : Nat}
    (within : node.Within bound) (h : Info.decode reading node = .ok i) :
    Faithful (Info.decode reading) Info.encode (fun _ => True) bound i := by
  simp only [Info.decode, bind_ok] at h
  obtain ⟨f, read, title, -, description, -, version, -, -, -, made⟩ := h
  cases made
  obtain ⟨b, rfl, inside⟩ := fields_within within read
  refine ⟨iff_of_true ?_ trivial, within_record (by simp)⟩
  unfold Recovers Info.decode Info.encode
  rw [fields_record (.entry (.optional (.entry .nil))) (by decide)]
  simp

theorem Components.faithful {reading : Reading} {node : Node} {c : Components} {bound : Nat}
    (within : node.Within (bound + 4)) (h : Components.decode reading node = .ok c) :
    Faithful (Components.decode reading) Components.encode (fun c => NoneHides c.nestedSchemas)
      (bound + 4) c := by
  simp only [Components.decode, bind_ok] at h
  obtain ⟨f, read, schemas, shaped, parameters, listed, bodies, sent, responses, answered, -, -,
    made⟩ := h
  cases made
  obtain ⟨b, same, inside⟩ := fields_within within read
  obtain rfl : b = bound + 3 := by omega
  have keptSchemas := kept_default inside shaped fun node =>
    faithful_table fun b below node part => faithful_schema
  have keptParameters := kept_default inside listed fun node =>
    faithful_components Parameter.written fun node p => Parameter.faithful
  have keptBodies := kept_default inside sent fun node =>
    faithful_components RequestBody.written fun node r => RequestBody.faithful
  have keptResponses := kept_default inside answered fun node =>
    faithful_components Response.written fun node r => Response.faithful
  refine ⟨?_, within_record ?_⟩
  · have backSchemas := readDefault_kept keptSchemas (by simp)
    have backParameters := readDefault_kept keptParameters (by simp)
    have backBodies := readDefault_kept keptBodies (by simp)
    have backResponses := readDefault_kept keptResponses (by simp)
    unfold Recovers Components.decode Components.encode
    rw [fields_record (.table (.table (.table (.table .nil)))) (by decide)]
    simp [tableEntry, Components.nestedSchemas, backSchemas, backParameters, backBodies,
      backResponses]
  · have fitSchemas := fun present => (keptSchemas present).within
    have fitParameters := fun present => (keptParameters present).within
    have fitBodies := fun present => (keptBodies present).within
    have fitResponses := fun present => (keptResponses present).within
    simp_all [tableEntry]

theorem Document.faithful {reading : Reading} {node : Node} {d : Document} {bound : Nat}
    (within : node.Within (bound + 6)) (h : Document.decode reading node = .ok d) :
    Faithful (Document.decode reading) Document.encode (fun d => NoneHides d.nestedSchemas)
      (bound + 6) d := by
  simp only [Document.decode, bind_ok] at h
  obtain ⟨f, read, openapi, -, info, described, paths, listed, components, shared, -, -, made⟩ := h
  cases made
  obtain ⟨b, same, inside⟩ := fields_within within read
  obtain rfl : b = bound + 5 := by omega
  have keptInfo : Faithful (Info.decode reading) Info.encode (fun _ => True) (bound + 5) info := by
    obtain ⟨e, member, made⟩ := required_ok described
    exact Info.faithful (inside e member) made
  have keptPaths := kept_default inside listed fun node =>
    faithful_table fun b below node item within made => by
      obtain rfl : b = bound + 4 := by omega
      exact PathItem.faithful within made
  have keptComponents := kept_optional inside shared fun node c => Components.faithful
  refine ⟨?_, within_record ?_⟩
  · have backInfo : Info.decode reading (.ofValue info.encode) = .ok info := keptInfo.back.2 trivial
    have backPaths := readDefault_kept keptPaths (by simp)
    have backComponents := readOptional_kept keptComponents fun c _ => rfl
    unfold Recovers Document.decode Document.encode
    rw [fields_record (.entry (.entry (.table (.optional .nil)))) (by decide)]
    simp [tableEntry, Document.nestedSchemas, backInfo, backPaths, backComponents]
  · have fitInfo := keptInfo.within
    have fitPaths := fun present => (keptPaths present).within
    have fitComponents := fun c present => (keptComponents c present).within
    simp_all [tableEntry]

theorem read_json_ok {text : String} {d : Document} :
    Document.read .json text = .ok d ↔ ∃ node, Json.read text = .ok node ∧
      Document.decode .json node = .ok d ∧ isVersionThree d.openapi = true := by
  simp only [Document.read, readText, readJson]
  cases Json.read text with
  | error e => simp [bind, Except.bind]
  | ok node =>
    cases decoded : Document.decode .json node with
    | error e => simp [bind, Except.bind, Except.mapError, decoded]
    | ok made =>
      simp only [Except.ok.injEq, exists_eq_left', decoded]
      show (if isVersionThree made.openapi then Except.ok made
        else Except.error (DocumentError.unsupportedVersion made.openapi)) = .ok d ↔ _
      split <;> aesop

/-- A document that was read from JSON is recovered from what it is written as exactly if none of
its schemas hides a reference, where the numbers in it are read as they are written. -/
theorem Document.reread_iff {text : String} {d : Document}
    (accepted : Document.read .json text = .ok d)
    (numerals : ∀ n ∈ Json.numbers d.encode, Json.ReadsBack n) :
    Document.read .json (Json.compact d.encode) = .ok d ↔
      ∀ s ∈ d.nestedSchemas, ¬ s.HidesReference := by
  obtain ⟨node, read, decoded, three⟩ := read_json_ok.1 accepted
  have within : node.Within (121 + 6) := Json.within_of_read read
  have kept := Document.faithful within decoded
  have reread := Json.read_compact kept.within numerals
  rw [read_json_ok, reread]
  simp only [Except.ok.injEq, exists_eq_left', three, and_true]
  exact kept.back

/-- A text with a reference and a keyword that is not declared. -/
def sizedText : String :=
  "\x7b\"openapi\":\"3.0.3\",\"info\":\x7b\"title\":\"T\",\"version\":\"1\"\x7d," ++
  "\"paths\":\x7b\"/sizes\":\x7b\"get\":\x7b\"responses\":\x7b\"200\":" ++
  "\x7b\"$ref\":\"#/components/responses/Size\"\x7d\x7d\x7d\x7d\x7d," ++
  "\"components\":\x7b\"schemas\":\x7b\"Size\":" ++
  "\x7b\"maximum\":12,\"type\":\"number\"\x7d\x7d\x7d\x7d"

/-- The document that the text spells. -/
def sized : Document where
  openapi := "3.0.3"
  info := { title := "T", version := "1" }
  paths := [("/sizes",
    { get := some { responses := [("200", .ref "#/components/responses/Size")] } })]
  components := some
    { schemas := [("Size", .item
        { type := some (.single .number), extensions := [("maximum", .number (.integer 12))] })] }

set_option maxRecDepth 4000 in
theorem sized_reread :
    Document.read .json sizedText = .ok sized ∧
      (∀ n ∈ Json.numbers sized.encode, Json.ReadsBack n) ∧
      (∀ s ∈ sized.nestedSchemas, ¬ s.HidesReference) ∧
      Document.read .json (Json.compact sized.encode) = .ok sized := by
  have accepted : Document.read .json sizedText = .ok sized := by rfl
  have numerals : ∀ n ∈ Json.numbers sized.encode, Json.ReadsBack n := by
    intro n member
    obtain rfl : n = .integer 12 := List.mem_singleton.1 member
    rfl
  have plain : ∀ s ∈ sized.nestedSchemas, ¬ s.HidesReference := by
    intro s member
    obtain rfl : s = _ := List.mem_singleton.1 member
    rintro ⟨path, found⟩
    cases (show none = some (Value.string path) from found)
  exact ⟨accepted, numerals, plain, (Document.reread_iff accepted numerals).2 plain⟩

/-- A text in which a schema names its reference twice. -/
def twiceReferredText : String :=
  "\x7b\"openapi\":\"3.0.3\",\"info\":\x7b\"title\":\"T\",\"version\":\"1\"\x7d," ++
  "\"components\":\x7b\"schemas\":\x7b\"A\":\x7b\"$ref\":\"#/components/schemas/B\"," ++
  "\"$ref\":\"#/components/schemas/C\"\x7d\x7d\x7d\x7d"

/-- A document with one component schema. -/
def ofComponent (a : SchemaOrRef) : Document where
  openapi := "3.0.3"
  info := { title := "T", version := "1" }
  components := some { schemas := [("A", a)] }

set_option maxRecDepth 4000 in
/-- The reference that was named twice is kept as a keyword and comes back as a reference. -/
theorem twiceReferred_lost :
    ∃ text d, Document.read .json text = .ok d ∧
      (∀ n ∈ Json.numbers d.encode, Json.ReadsBack n) ∧
      Document.read .json (Json.compact d.encode) ≠ .ok d := by
  have accepted : Document.read .json twiceReferredText = .ok (ofComponent (.item
      { extensions := [("$ref", .string "#/components/schemas/C")] })) := by rfl
  have reread : Document.read .json (Json.compact (ofComponent (.item
      { extensions := [("$ref", .string "#/components/schemas/C")] })).encode) =
      .ok (ofComponent (.ref "#/components/schemas/C")) := by rfl
  refine ⟨_, _, accepted, fun n member => absurd member List.not_mem_nil, ?_⟩
  rw [reread]
  simp [ofComponent]

end ResourceInference
