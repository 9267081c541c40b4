import Mathlib.Tactic.Simproc.ExistsAndEq
import ResourceInference.Proofs.Decoding

/-!
# Decoding encoded schemas

A schema that was read from JSON is recovered from its encoding unless it, or a schema written in
it, has a text under the key of references (`Schema.HidesReference`). A schema is read with such an
extension where its object has the key twice: no reference is made of it then, but what it is
encoded as has the key once, and is a reference.

The keywords of a schema are read one by one (`decodeKeywords_cons`), so what is known of a schema
after each of them (`Schema.Kept`) is known of what they make in the end. Its encoding is read back
keyword by keyword too (`foldlM_written`). The induction over schemas is on the depth of the tree.
-/

set_option autoImplicit false

namespace ResourceInference

open Decode

/-! ## Schemas as entries -/

theorem encodeSchemaFields_eq (properties : List (String × SchemaOrRef)) :
    encodeSchemaFields properties = properties.map fun e => (e.1, encodeSchemaOrRef e.2) := by
  induction properties with
  | nil => rfl
  | cons entry rest ih => simp [encodeSchemaFields, ih]

theorem encodeSchemas_eq (schemas : List SchemaOrRef) :
    encodeSchemas schemas = schemas.map encodeSchemaOrRef := by
  induction schemas with
  | nil => rfl
  | cons schema rest ih => simp [encodeSchemas, ih]

/-- What is said of undeclared properties as data. -/
def AdditionalProperties.encode : AdditionalProperties Schema → Value
  | .allowed b => .bool b
  | .schema part => encodeSchemaOrRef part

/-- What is said of undeclared properties, from a tree. -/
def AdditionalProperties.decode (node : Node) : Result (AdditionalProperties Schema) :=
  match bool node with
  | .ok b => .ok (.allowed b)
  | .error _ => .schema <$> decodeSchemaOrRef node

/-- The keywords of a schema as entries. -/
def Schema.written (s : Schema) : List (Option (String × Value)) :=
  [Value.entry? "type" TypeSet.encode s.type,
    Value.entry? "format" Value.string s.format,
    Value.entry? "title" Value.string s.title,
    Value.entry? "description" Value.string s.description,
    Value.entry? "default" id s.default,
    tableEntry "properties" encodeSchemaOrRef s.properties,
    listEntry "required" Value.string s.required,
    Value.entry? "additionalProperties" AdditionalProperties.encode s.additionalProperties,
    Value.entry? "items" encodeSchemaOrRef s.items,
    listEntry "allOf" encodeSchemaOrRef s.allOf,
    listEntry "oneOf" encodeSchemaOrRef s.oneOf,
    listEntry "anyOf" encodeSchemaOrRef s.anyOf,
    Value.entry? "discriminator" Discriminator.encode s.discriminator,
    listEntry "enum" id s.enum,
    Value.entry "readOnly" (.bool s.readOnly),
    Value.entry "writeOnly" (.bool s.writeOnly)]

theorem Schema.encode_eq (s : Schema) :
    s.encode = .object (s.written.filterMap id ++ s.extensions) := by
  obtain ⟨type, format, title, description, default, properties, required, additional, items, allOf,
    oneOf, anyOf, discriminator, enum, readOnly, writeOnly, extensions⟩ := s
  have undeclared : encodeAdditional additional =
      Value.entry? "additionalProperties" AdditionalProperties.encode additional := by
    rcases additional with _ | (b | schema) <;> rfl
  have arrays : encodeItems items = Value.entry? "items" encodeSchemaOrRef items := by
    cases items <;> rfl
  simp only [Schema.encode, Schema.written, undeclared, arrays, encodeSchemaFields_eq,
    encodeSchemas_eq, tableEntry, listEntry, encodeTable, Value.strings, List.map_id_fun, id]

theorem Schema.written_named (s : Schema) : Named Schema.keywords s.written :=
  .optional <| .optional <| .optional <| .optional <| .optional <| .defaulted <| .defaulted <|
    .optional <| .optional <| .defaulted <| .defaulted <| .defaulted <| .optional <| .defaulted <|
    .entry <| .entry .nil

/-- A schema with the keyword or extension of a node. -/
def Schema.withKey (s : Schema) (reading : Reading) (name : String) (node : Node) :
    Result Schema := do
  match name with
  | "properties" => pure { s with properties := ← decodeSchemaMap reading node }
  | "additionalProperties" =>
    pure { s with additionalProperties := ← Decode.optional AdditionalProperties.decode node }
  | "items" => pure { s with items := ← Decode.optional decodeSchemaOrRef node }
  | "allOf" => pure { s with allOf := ← decodeSchemaList reading node }
  | "oneOf" => pure { s with oneOf := ← decodeSchemaList reading node }
  | "anyOf" => pure { s with anyOf := ← decodeSchemaList reading node }
  | _ => s.setKeyword reading name node

theorem decodeKeywords_cons (reading : Reading) (seen : List String) (s : Schema) (key node : Node)
    (rest : List (Node × Node)) :
    decodeKeywords reading seen s ((key, node) :: rest) =
      text reading key >>= fun name =>
        if seen.contains name && Schema.keywords.contains name then throw .shape
        else s.withKey reading name node >>= fun s =>
          decodeKeywords reading (name :: seen) s rest := by
  rw [decodeKeywords]
  refine bind_congr fun name => ?_
  by_cases twice : (seen.contains name && Schema.keywords.contains name) = true
  · rw [if_pos twice]
    split <;> simp only [twice] <;> rfl
  · rw [if_neg twice]
    split <;> simp only [twice]
    case h_2 =>
      by_cases absent : isAbsent node
      · simp [Schema.withKey, Decode.optional, absent, ok_bind]
      · cases read : Decode.bool node <;>
          simp [Schema.withKey, Decode.optional, AdditionalProperties.decode, absent, read, ok_bind]
    case h_3 =>
      by_cases absent : isAbsent node <;>
        simp [Schema.withKey, Decode.optional, absent, ok_bind]
    case h_7 =>
      unfold Schema.withKey
      split <;> simp_all
    all_goals simp [Schema.withKey]

/-- One more entry of a schema that is read back. -/
def Schema.withEntry (s : Schema) (entry : String × Value) : Result Schema :=
  s.withKey .typed entry.1 (.ofValue entry.2)

/-- Entries with distinct keys are put into a schema one by one. -/
theorem decodeKeywords_distinct {entries : List (String × Value)} :
    ∀ {seen : List String} {s : Schema}, (seen ++ entries.map (·.1)).Nodup →
      decodeKeywords .typed seen s (Node.ofEntries entries) =
        entries.foldlM Schema.withEntry s := by
  induction entries with
  | nil =>
    intro seen s distinct
    simp [decodeKeywords, Node.ofEntries, pure, Except.pure]
  | cons entry entries ih =>
    intro seen s distinct
    obtain ⟨key, v⟩ := entry
    have new : key ∉ seen := fun member =>
      (List.nodup_append.1 distinct).2.2 key member key (by simp) rfl
    have later : (key :: seen ++ entries.map (·.1)).Nodup := by
      refine List.Perm.nodup_iff ?_ |>.1 distinct
      simp
    rw [Node.ofEntries, decodeKeywords_cons, List.foldlM_cons]
    simp only [text, ok_bind, List.contains_eq_mem, new, decide_false, Bool.false_and,
      Bool.false_eq_true, ↓reduceIte]
    exact bind_congr fun s => ih later

section

variable {α : Type} {key : String} {entries : List (Option (String × Value))} {t u : Schema}

theorem foldlM_optional {decode : Node → Result α} {encode : α → Value} {x : Option α}
    {set : Option α → Schema}
    (put : ∀ node, t.withKey .typed key node =
      Decode.optional decode node >>= fun a => pure (set a))
    (unset : set none = t) :
    ((Value.entry? key encode x :: entries).filterMap id).foldlM Schema.withEntry t =
      readOptional decode (x.map encode) >>= fun a =>
        (entries.filterMap id).foldlM Schema.withEntry (set a) := by
  cases x with
  | none => simp [Value.entry?, readOptional, ok_bind, unset]
  | some a => simp [Value.entry?, readOptional, Schema.withEntry, put]

theorem foldlM_unless {decode : Node → Result α} {default : α} {absent : Bool} {v : Value}
    {set : α → Schema}
    (put : ∀ node, t.withKey .typed key node = decode node >>= fun a => pure (set a))
    (unset : set default = t) :
    ((Value.entryUnless absent key v :: entries).filterMap id).foldlM Schema.withEntry t =
      readDefault decode default (if absent then none else some v) >>= fun a =>
        (entries.filterMap id).foldlM Schema.withEntry (set a) := by
  cases absent with
  | true => simp [Value.entryUnless, readDefault, ok_bind, unset]
  | false => simp [Value.entryUnless, readDefault, Schema.withEntry, put]

theorem foldlM_entry {decode : Node → Result α} {v : Value} {set : α → Schema}
    (put : ∀ node, t.withKey .typed key node = decode node >>= fun a => pure (set a)) :
    ((Value.entry key v :: entries).filterMap id).foldlM Schema.withEntry t =
      decode (.ofValue v) >>= fun a => (entries.filterMap id).foldlM Schema.withEntry (set a) := by
  simp [Value.entry, Schema.withEntry, put]

end

/-- What the written keywords of a schema are read as. -/
def Schema.reread (s : Schema) : Result Schema := do
  let type ← readOptional TypeSet.decode (s.type.map TypeSet.encode)
  let format ← readOptional (text .typed) (s.format.map .string)
  let title ← readOptional (text .typed) (s.title.map .string)
  let description ← readOptional (text .typed) (s.description.map .string)
  let default ← readOptional (value .typed) (s.default.map id)
  let properties ← readDefault (decodeSchemaMap .typed) []
    (if s.properties.isEmpty then none else some (encodeTable encodeSchemaOrRef s.properties))
  let required ← readDefault (Decode.list .typed (text .typed)) []
    (if s.required.isEmpty then none else some (.list (s.required.map .string)))
  let additionalProperties ← readOptional AdditionalProperties.decode
    (s.additionalProperties.map AdditionalProperties.encode)
  let items ← readOptional decodeSchemaOrRef (s.items.map encodeSchemaOrRef)
  let allOf ← readDefault (decodeSchemaList .typed) []
    (if s.allOf.isEmpty then none else some (.list (s.allOf.map encodeSchemaOrRef)))
  let oneOf ← readDefault (decodeSchemaList .typed) []
    (if s.oneOf.isEmpty then none else some (.list (s.oneOf.map encodeSchemaOrRef)))
  let anyOf ← readDefault (decodeSchemaList .typed) []
    (if s.anyOf.isEmpty then none else some (.list (s.anyOf.map encodeSchemaOrRef)))
  let discriminator ← readOptional (Discriminator.decode .typed)
    (s.discriminator.map Discriminator.encode)
  let enum ← readDefault (Decode.list .typed (value .typed)) []
    (if s.enum.isEmpty then none else some (.list (s.enum.map id)))
  let readOnly ← bool (.ofValue (.bool s.readOnly))
  let writeOnly ← bool (.ofValue (.bool s.writeOnly))
  pure { type, format, title, description, default, properties, required,
         additionalProperties, items, allOf, oneOf, anyOf, discriminator, enum, readOnly,
         writeOnly }

/-- The written keywords of a schema are read one by one. -/
theorem foldlM_written (s : Schema) :
    (s.written.filterMap id).foldlM Schema.withEntry {} = s.reread := by
  refine Eq.trans (foldlM_optional (fun _ => rfl) rfl) (bind_congr fun type => ?_)
  refine Eq.trans (foldlM_optional (fun _ => rfl) rfl) (bind_congr fun format => ?_)
  refine Eq.trans (foldlM_optional (fun _ => rfl) rfl) (bind_congr fun title => ?_)
  refine Eq.trans (foldlM_optional (fun _ => rfl) rfl) (bind_congr fun description => ?_)
  refine Eq.trans (foldlM_optional (fun _ => rfl) rfl) (bind_congr fun default => ?_)
  refine Eq.trans (foldlM_unless (fun _ => rfl) rfl) (bind_congr fun properties => ?_)
  refine Eq.trans (foldlM_unless (fun _ => rfl) rfl) (bind_congr fun required => ?_)
  refine Eq.trans (foldlM_optional (fun _ => rfl) rfl) (bind_congr fun additionalProperties => ?_)
  refine Eq.trans (foldlM_optional (fun _ => rfl) rfl) (bind_congr fun items => ?_)
  refine Eq.trans (foldlM_unless (fun _ => rfl) rfl) (bind_congr fun allOf => ?_)
  refine Eq.trans (foldlM_unless (fun _ => rfl) rfl) (bind_congr fun oneOf => ?_)
  refine Eq.trans (foldlM_unless (fun _ => rfl) rfl) (bind_congr fun anyOf => ?_)
  refine Eq.trans (foldlM_optional (fun _ => rfl) rfl) (bind_congr fun discriminator => ?_)
  refine Eq.trans (foldlM_unless (fun _ => rfl) rfl) (bind_congr fun enum => ?_)
  refine Eq.trans (foldlM_entry fun _ => rfl) (bind_congr fun readOnly => ?_)
  refine Eq.trans (foldlM_entry fun _ => rfl) (bind_congr fun writeOnly => ?_)
  rfl


/-! ## What is known of a schema that was read -/

mutual

/-- A schema and the schemas that are written in it. -/
def Schema.nested : Schema → List Schema
  | s@⟨_, _, _, _, _, properties, _, additional, items, allOf, oneOf, anyOf, _, _, _, _, _⟩ =>
    s :: (nestedOfFields properties ++ nestedOfAdditional additional ++ nestedOfOptional items ++
      nestedOfList allOf ++ nestedOfList oneOf ++ nestedOfList anyOf)

/-- The schemas that are written in a schema or a reference. -/
def nestedOfRef : SchemaOrRef → List Schema
  | .ref _ => []
  | .item s => s.nested

/-- The schemas that are written in properties. -/
def nestedOfFields : List (String × SchemaOrRef) → List Schema
  | [] => []
  | (_, part) :: rest => nestedOfRef part ++ nestedOfFields rest

/-- The schemas that are written in a list. -/
def nestedOfList : List SchemaOrRef → List Schema
  | [] => []
  | part :: rest => nestedOfRef part ++ nestedOfList rest

/-- The schemas that are written in a schema that may be absent. -/
def nestedOfOptional : Option SchemaOrRef → List Schema
  | none => []
  | some part => nestedOfRef part

/-- The schemas that are written in what is said of undeclared properties. -/
def nestedOfAdditional : Option (AdditionalProperties Schema) → List Schema
  | none => []
  | some (.allowed _) => []
  | some (.schema part) => nestedOfRef part

end

/-- The schema has a text under the key that references have. -/
def Schema.HidesReference (s : Schema) : Prop :=
  ∃ path, s.extensions.lookup "$ref" = some (.string path)

/-- None of the schemas has a text under the key that references have. -/
def NoneHides (schemas : List Schema) : Prop := ∀ s ∈ schemas, ¬ s.HidesReference

@[simp]
theorem noneHides_nil : NoneHides [] := by simp [NoneHides]

@[simp]
theorem noneHides_cons {s : Schema} {rest : List Schema} :
    NoneHides (s :: rest) ↔ ¬ s.HidesReference ∧ NoneHides rest := by
  simp [NoneHides]

@[simp]
theorem noneHides_append {left right : List Schema} :
    NoneHides (left ++ right) ↔ NoneHides left ∧ NoneHides right := by
  simp [NoneHides, or_imp, forall_and]

theorem noneHides_list {parts : List SchemaOrRef} :
    NoneHides (nestedOfList parts) ↔ ∀ part ∈ parts, NoneHides (nestedOfRef part) := by
  induction parts with
  | nil => simp [nestedOfList]
  | cons part rest ih => simp [nestedOfList, ih]

theorem noneHides_fields {properties : List (String × SchemaOrRef)} :
    NoneHides (nestedOfFields properties) ↔ ∀ e ∈ properties, NoneHides (nestedOfRef e.2) := by
  induction properties with
  | nil => simp [nestedOfFields]
  | cons part rest ih => simp [nestedOfFields, ih]

theorem noneHides_optional {x : Option SchemaOrRef} :
    NoneHides (nestedOfOptional x) ↔ ∀ part ∈ x, NoneHides (nestedOfRef part) := by
  cases x <;> simp [nestedOfOptional]

theorem noneHides_additional {x : Option (AdditionalProperties Schema)} :
    NoneHides (nestedOfAdditional x) ↔ ∀ a ∈ x, NoneHides (nestedOfAdditional (some a)) := by
  cases x with
  | none => exact iff_of_true noneHides_nil nofun
  | some a => simp

/-- The decoding of a schema or a reference is faithful. -/
abbrev FaithfulSchema (bound : Nat) (part : SchemaOrRef) : Prop :=
  Faithful decodeSchemaOrRef encodeSchemaOrRef (fun part => NoneHides (nestedOfRef part)) bound part

/-- What is known of each keyword of a schema that was read. -/
structure Schema.Kept (bound : Nat) (s : Schema) : Prop where
  type : ∀ t ∈ s.type, Faithful TypeSet.decode TypeSet.encode (fun _ => True) bound t
  default : ∀ v ∈ s.default, v ≠ .null ∧ Faithful (value .typed) id (fun _ => True) bound v
  properties : s.properties ≠ [] → Faithful (decodeSchemaMap .typed)
    (encodeTable encodeSchemaOrRef) (fun table => NoneHides (nestedOfFields table)) bound
    s.properties
  required : s.required ≠ [] → Faithful (Decode.list .typed (text .typed))
    (fun texts => .list (texts.map .string)) (fun _ => True) bound s.required
  additionalProperties : ∀ a ∈ s.additionalProperties, Faithful AdditionalProperties.decode
    AdditionalProperties.encode (fun a => NoneHides (nestedOfAdditional (some a))) bound a
  items : ∀ part ∈ s.items, FaithfulSchema bound part
  allOf : s.allOf ≠ [] → Faithful (decodeSchemaList .typed)
    (fun parts => .list (parts.map encodeSchemaOrRef)) (fun parts => NoneHides (nestedOfList parts))
    bound s.allOf
  oneOf : s.oneOf ≠ [] → Faithful (decodeSchemaList .typed)
    (fun parts => .list (parts.map encodeSchemaOrRef)) (fun parts => NoneHides (nestedOfList parts))
    bound s.oneOf
  anyOf : s.anyOf ≠ [] → Faithful (decodeSchemaList .typed)
    (fun parts => .list (parts.map encodeSchemaOrRef)) (fun parts => NoneHides (nestedOfList parts))
    bound s.anyOf
  discriminator : ∀ d ∈ s.discriminator,
    Faithful (Discriminator.decode .typed) Discriminator.encode (fun _ => True) bound d
  enum : s.enum ≠ [] → Faithful (Decode.list .typed (value .typed))
    (fun values => .list (values.map id)) (fun _ => True) bound s.enum
  distinct : (s.extensions.map (·.1)).Nodup
  extensions : ∀ e ∈ s.extensions, e.1 ∉ Schema.keywords ∧
    Faithful (value .typed) id (fun _ => True) bound e.2

theorem Schema.Kept.empty (bound : Nat) : Schema.Kept bound {} := by
  constructor <;> simp


/-! ## Keywords -/

theorem decodeSchemaEntries_eq (reading : Reading) (entries : List (Node × Node)) :
    ∀ done, decodeSchemaEntries reading done entries =
      putAll reading decodeSchemaOrRef done entries := by
  induction entries with
  | nil =>
    intro done
    simp [decodeSchemaEntries, putAll, pure, Except.pure]
  | cons entry rest ih =>
    intro done
    simp [decodeSchemaEntries, putAll, ih]

theorem decodeSchemaItems_eq (nodes : List Node) :
    decodeSchemaItems nodes = nodes.mapM decodeSchemaOrRef := by
  induction nodes with
  | nil => simp [decodeSchemaItems, pure, Except.pure]
  | cons node rest ih => simp [decodeSchemaItems, ih]

theorem decodeSchemaMap_mapping (reading : Reading) (entries : List (Node × Node)) :
    decodeSchemaMap reading (.mapping entries) =
      Decode.mapping reading decodeSchemaOrRef (.mapping entries) :=
  decodeSchemaEntries_eq reading entries []

theorem decodeSchemaList_list (reading : Reading) (nodes : List Node) :
    decodeSchemaList reading (.list nodes) = Decode.list reading decodeSchemaOrRef (.list nodes) :=
  decodeSchemaItems_eq nodes

/-- A tree of JSON is a map of schemas as it is a map of anything. -/
theorem decodeSchemaMap_eq {reading : Reading} {node : Node} {bound : Nat}
    (within : node.Within bound) :
    decodeSchemaMap reading node = Decode.mapping reading decodeSchemaOrRef node := by
  cases node with
  | mapping entries => exact decodeSchemaMap_mapping reading entries
  | plain | tagged => cases bound <;> exact absurd within id
  | null | bool | number | string | list => rfl

theorem decodeSchemaList_eq {reading : Reading} {node : Node} {bound : Nat}
    (within : node.Within bound) :
    decodeSchemaList reading node = Decode.list reading decodeSchemaOrRef node := by
  cases node with
  | list nodes => exact decodeSchemaList_list reading nodes
  | plain | tagged => cases bound <;> exact absurd within id
  | null | bool | number | string | mapping => rfl

theorem SchemaType.faithful (t : SchemaType) (bound : Nat) :
    Faithful SchemaType.decode (fun t => .string t.name) (fun _ => True) bound t :=
  ⟨iff_of_true (by cases t <;> rfl) trivial, within_string _ _⟩

theorem TypeSet.faithful {node : Node} {t : TypeSet} {bound : Nat} (within : node.Within bound)
    (h : TypeSet.decode node = .ok t) :
    Faithful TypeSet.decode TypeSet.encode (fun _ => True) bound t := by
  unfold TypeSet.decode at h
  split at h
  · rename_i type _
    cases h
    have back : SchemaType.decode (.ofValue (.string type.name)) = .ok type :=
      (type.faithful bound).back.2 trivial
    refine ⟨iff_of_true ?_ trivial, within_string _ _⟩
    simp only [Recovers, TypeSet.encode, TypeSet.decode, back]
  · obtain ⟨types, listed, rfl⟩ := map_ok.1 h
    have all := faithful_list (fun b _ node t _ _ => SchemaType.faithful t b) within listed
    have encoded : TypeSet.encode (.several types) = .list (types.map fun t => .string t.name) := by
      simp [TypeSet.encode, Value.strings]
    refine ⟨iff_of_true ?_ trivial, encoded ▸ all.within⟩
    have several : ∀ nodes, SchemaType.decode (.list nodes) = .error .shape := fun _ => rfl
    have back := all.back.2 fun _ _ => trivial
    simp only [Recovers, Node.ofValue] at back
    simp [Recovers, encoded, TypeSet.decode, Node.ofValue, several, back]

/-- A discriminator is recovered from its encoding. -/
theorem Discriminator.faithful {reading : Reading} {node : Node} {d : Discriminator} {bound : Nat}
    (within : node.Within bound) (h : Discriminator.decode reading node = .ok d) :
    Faithful (Discriminator.decode reading) Discriminator.encode (fun _ => True) bound d := by
  unfold Discriminator.decode at h
  simp only [bind_ok] at h
  obtain ⟨f, read, name, -, mapping, mapped, -, -, made⟩ := h
  cases made
  obtain ⟨b, rfl, inside⟩ := fields_within within read
  have kept := kept_default inside mapped fun node within made =>
    faithful_mapping (fun b _ _ s _ _ => faithful_text s b) within made
  have encoded : Discriminator.encode ⟨name, mapping⟩ = .record
      [Value.entry "propertyName" (.string name), tableEntry "mapping" .string mapping] := rfl
  refine ⟨iff_of_true ?_ trivial, encoded ▸ within_record ?_⟩
  · unfold Recovers Discriminator.decode
    rw [encoded, fields_record (.entry (.table .nil)) (by decide)]
    simpa [tableEntry] using (readDefault_kept kept (by simp)).2 (by simp)
  · simpa [tableEntry] using fun present => (kept present).within

theorem present_schema (part : SchemaOrRef) :
    isAbsent (.ofValue (encodeSchemaOrRef part)) = false := by
  cases part with
  | ref path => rfl
  | item s =>
    rw [encodeSchemaOrRef, Schema.encode_eq]
    rfl

/-- What is not null is not said to be absent. -/
theorem present_value {v : Value} (present : v ≠ .null) : isAbsent (.ofValue v) = false := by
  cases v <;> first | rfl | exact absurd rfl present

theorem AdditionalProperties.present (a : AdditionalProperties Schema) :
    isAbsent (.ofValue a.encode) = false := by
  cases a with
  | allowed b => rfl
  | schema part => exact present_schema part

/-- What is said of undeclared properties is recovered as its schema is. -/
theorem AdditionalProperties.faithful {node : Node} {a : AdditionalProperties Schema} {bound : Nat}
    (part : ∀ p, decodeSchemaOrRef node = .ok p → FaithfulSchema bound p)
    (h : AdditionalProperties.decode node = .ok a) :
    Faithful AdditionalProperties.decode AdditionalProperties.encode
      (fun a => NoneHides (nestedOfAdditional (some a))) bound a := by
  unfold AdditionalProperties.decode at h
  split at h
  · cases h
    exact ⟨iff_of_true rfl (by simp [nestedOfAdditional]), within_bool _ _⟩
  · obtain ⟨p, made, rfl⟩ := map_ok.1 h
    have notBool : ∃ e, Decode.bool (.ofValue (encodeSchemaOrRef p)) = Except.error e := by
      cases p with
      | ref path => exact ⟨_, rfl⟩
      | item s =>
        rw [encodeSchemaOrRef, Schema.encode_eq]
        exact ⟨_, rfl⟩
    obtain ⟨e, notBool⟩ := notBool
    refine ⟨?_, (part p made).within⟩
    rw [nestedOfAdditional, ← (part p made).back]
    simp [Recovers, AdditionalProperties.decode, AdditionalProperties.encode, notBool, map_ok]

/-- What is not said to be absent is not null. -/
theorem value_ne_null {reading : Reading} {node : Node} {v : Value} {bound : Nat}
    (within : node.Within bound) (present : isAbsent node = false)
    (h : value reading node = .ok v) : v ≠ .null := by
  rintro rfl
  cases node with
  | null => cases present
  | bool | number | string => simp [value] at h
  | list nodes => simp [value, map_ok] at h
  | mapping entries => simp [value, map_ok] at h
  | plain | tagged => cases bound <;> exact absurd within id

section

variable {bound : Nat}
  (part : ∀ b ≤ bound, ∀ node p, node.Within b → decodeSchemaOrRef node = .ok p →
    FaithfulSchema b p)

include part

theorem faithful_schemas {node : Node} {parts : List SchemaOrRef} (within : node.Within bound)
    (h : decodeSchemaList .typed node = .ok parts) :
    Faithful (decodeSchemaList .typed) (fun parts => .list (parts.map encodeSchemaOrRef))
      (fun parts => NoneHides (nestedOfList parts)) bound parts := by
  rw [decodeSchemaList_eq within] at h
  have each := faithful_list (fun b below node p => part b (by omega) node p) within h
  refine ⟨Iff.trans ?_ (each.back.trans noneHides_list.symm), each.within⟩
  rw [Recovers, Node.ofValue, decodeSchemaList_list]
  rfl

theorem faithful_properties {node : Node} {properties : List (String × SchemaOrRef)}
    (within : node.Within bound) (h : decodeSchemaMap .typed node = .ok properties) :
    Faithful (decodeSchemaMap .typed) (encodeTable encodeSchemaOrRef)
      (fun table => NoneHides (nestedOfFields table)) bound properties := by
  rw [decodeSchemaMap_eq within] at h
  have each := faithful_mapping (fun b below node p => part b (by omega) node p) within h
  refine ⟨Iff.trans ?_ (each.back.trans noneHides_fields.symm), each.within⟩
  rw [Recovers, encodeTable, Node.ofValue, decodeSchemaMap_mapping]
  rfl

omit part in
/-- What is known of a schema is known with one more keyword that holds no schemas, or with one more
extension. -/
theorem Schema.Kept.setKeyword {s s' : Schema} {name : String} {node : Node} (kept : s.Kept bound)
    (within : node.Within bound)
    (flat : name ∉ ["properties", "additionalProperties", "items", "allOf", "oneOf", "anyOf"])
    (h : s.setKeyword .typed name node = .ok s') : s'.Kept bound := by
  unfold Schema.setKeyword at h
  split at h
  case h_1 =>
    obtain ⟨v, made, rfl⟩ := set_ok.1 h
    exact { kept with
      type := fun t present => TypeSet.faithful within (of_optional made t present).2 }
  case h_5 =>
    obtain ⟨v, made, rfl⟩ := set_ok.1 h
    refine { kept with default := fun w present => ?_ }
    obtain ⟨there, made⟩ := of_optional made w present
    exact ⟨value_ne_null within there made, faithful_value within made⟩
  case h_6 =>
    obtain ⟨v, made, rfl⟩ := set_ok.1 h
    have each := faithful_list (fun b _ _ s _ _ => faithful_text s b) within made
    exact { kept with required := fun _ => each.weaken (by simp) }
  case h_7 =>
    obtain ⟨v, made, rfl⟩ := set_ok.1 h
    exact { kept with
      discriminator := fun d present =>
        Discriminator.faithful within (of_optional made d present).2 }
  case h_8 =>
    obtain ⟨v, made, rfl⟩ := set_ok.1 h
    have each := faithful_list (fun b _ _ v inside made => faithful_value inside made) within made
    exact { kept with enum := fun _ => each.weaken (by simp) }
  case h_11 =>
    obtain ⟨v, made, rfl⟩ := set_ok.1 h
    simp only [List.mem_cons, List.not_mem_nil, or_false, not_or] at flat
    obtain ⟨_, _, _, _, _, _⟩ := flat
    have unknown : name ∉ Schema.keywords := by
      simp only [Schema.keywords, List.mem_cons, List.not_mem_nil, or_false, not_or]
      and_intros <;> assumption
    refine { kept with distinct := nodup_putEntry kept.distinct, extensions := ?_ }
    intro e member
    rcases mem_putEntry member with rfl | member
    · exact ⟨unknown, faithful_value within made⟩
    · exact kept.extensions e member
  all_goals
    obtain ⟨v, made, rfl⟩ := set_ok.1 h
    exact { kept with }

/-- What is known of a schema is known with one more keyword or extension. -/
theorem Schema.Kept.withKey {s s' : Schema} {name : String} {node : Node} (kept : s.Kept bound)
    (within : node.Within bound) (h : s.withKey .typed name node = .ok s') : s'.Kept bound := by
  unfold Schema.withKey at h
  split at h
  · obtain ⟨v, made, rfl⟩ := set_ok.1 h
    exact { kept with properties := fun _ => faithful_properties part within made }
  · obtain ⟨v, made, rfl⟩ := set_ok.1 h
    have faithful : ∀ a ∈ v, _ := fun a present =>
      AdditionalProperties.faithful (part bound (Nat.le_refl _) node · within)
        (of_optional made a present).2
    exact { kept with additionalProperties := faithful }
  · obtain ⟨v, made, rfl⟩ := set_ok.1 h
    have faithful : ∀ p ∈ v, _ := fun p present =>
      part bound (Nat.le_refl _) node p within (of_optional made p present).2
    exact { kept with items := faithful }
  · obtain ⟨v, made, rfl⟩ := set_ok.1 h
    exact { kept with allOf := fun _ => faithful_schemas part within made }
  · obtain ⟨v, made, rfl⟩ := set_ok.1 h
    exact { kept with oneOf := fun _ => faithful_schemas part within made }
  · obtain ⟨v, made, rfl⟩ := set_ok.1 h
    exact { kept with anyOf := fun _ => faithful_schemas part within made }
  · refine kept.setKeyword within ?_ h
    simp only [List.mem_cons, List.not_mem_nil, or_false, not_or]
    and_intros <;> assumption

end


/-! ## Reading a schema back -/

/-- What is no keyword becomes an extension. -/
theorem Schema.withKey_extension {s : Schema} {name : String} (unknown : name ∉ Schema.keywords)
    (node : Node) : s.withKey .typed name node = value .typed node >>= fun v =>
      pure { s with extensions := putEntry name v s.extensions } := by
  simp only [Schema.keywords, List.mem_cons, List.not_mem_nil, or_false, not_or] at unknown
  unfold Schema.withKey Schema.setKeyword
  split <;> simp_all

theorem foldlM_extensions {extensions : List (String × Value)} :
    ∀ {s : Schema}, (s.extensions.map (·.1) ++ extensions.map (·.1)).Nodup →
      (∀ e ∈ extensions, e.1 ∉ Schema.keywords ∧ Recovers (value .typed) id e.2) →
      extensions.foldlM Schema.withEntry s =
        .ok { s with extensions := s.extensions ++ extensions } := by
  induction extensions with
  | nil =>
    intro s distinct each
    cases s
    simp only [List.append_nil]
    rfl
  | cons e rest ih =>
    intro s distinct each
    obtain ⟨name, v⟩ := e
    obtain ⟨unknown, back⟩ := each _ List.mem_cons_self
    have new : name ∉ s.extensions.map (·.1) := fun member =>
      (List.nodup_append.1 distinct).2.2 name member name (by simp) rfl
    have back : value .typed (.ofValue v) = .ok v := back
    have step : s.withEntry (name, v) =
        .ok { s with extensions := s.extensions ++ [(name, v)] } := by
      rw [Schema.withEntry, Schema.withKey_extension unknown, back, ok_bind, putEntry_new new]
      rfl
    have later := @ih { s with extensions := s.extensions ++ [(name, v)] } (by simpa using distinct)
      fun e member => each e (List.mem_cons_of_mem _ member)
    rw [List.foldlM_cons, step, ok_bind, later]
    simp

/-- The keys of a written schema are distinct. -/
theorem Schema.Kept.keys {bound : Nat} {s : Schema} (kept : s.Kept bound) :
    ((s.written.filterMap id ++ s.extensions).map (·.1)).Nodup := by
  have known := s.written_named.keys
  rw [List.map_append, List.nodup_append]
  refine ⟨known.nodup (by decide), kept.distinct, ?_⟩
  rintro key written _ extra rfl
  obtain ⟨e, member, rfl⟩ := List.mem_map.1 extra
  exact (kept.extensions e member).1 (known.subset written)

theorem text_toOption (v : Value) (path : String) :
    (text .typed (.ofValue v)).toOption = some path ↔ v = .string path := by
  cases v <;> simp [text, Node.ofValue, Except.toOption]

/-- The target of a mapping with distinct keys. -/
theorem referenceTarget?_distinct {entries : List (String × Value)}
    (distinct : (entries.map (·.1)).Nodup) (path : String) :
    referenceTarget? (Node.ofEntries entries) = some path ↔
      entries.lookup "$ref" = some (.string path) := by
  have taken := filter_key distinct "$ref"
  unfold referenceTarget?
  simp only [declaredFields_distinct distinct, List.mem_singleton, taken]
  cases entries.lookup "$ref" with
  | none => simp
  | some v => simpa using text_toOption v path


theorem referenceTarget?_reference (path : String) :
    referenceTarget? (Node.ofEntries [("$ref", .string path)]) = some path :=
  (referenceTarget?_distinct (by simp) path).2 rfl

theorem Schema.reread_extensions {s t : Schema} (h : s.reread = .ok t) : t.extensions = [] := by
  simp only [Schema.reread, bind_ok, pure_ok] at h
  obtain ⟨_, -, _, -, _, -, _, -, _, -, _, -, _, -, _, -, _, -, _, -, _, -, _, -, _, -, _, -, _, -,
    _, -, rfl⟩ := h
  rfl

/-- The schemas that are written in a schema, but for itself. -/
def Schema.inner (s : Schema) : List Schema :=
  nestedOfFields s.properties ++ nestedOfAdditional s.additionalProperties ++
    nestedOfOptional s.items ++ nestedOfList s.allOf ++ nestedOfList s.oneOf ++ nestedOfList s.anyOf

theorem Schema.nested_eq (s : Schema) : s.nested = s :: s.inner := by
  cases s
  rfl

/-- The keywords of a schema are read back if no schema inside hides a reference. -/
theorem Schema.Kept.reread_ok {bound : Nat} {s : Schema} (kept : s.Kept bound) :
    s.reread = .ok { s with extensions := [] } ↔ NoneHides s.inner := by
  have type := readOptional_kept kept.type fun t _ => by cases t <;> rfl
  have default := readOptional_kept (fun v present => (kept.default v present).2)
    fun v present => present_value (kept.default v present).1
  have properties := readDefault_kept kept.properties noneHides_nil
  have required := readDefault_kept kept.required trivial
  have additional := readOptional_kept kept.additionalProperties fun a _ => a.present
  have items := readOptional_kept kept.items fun part _ => present_schema part
  have allOf := readDefault_kept kept.allOf noneHides_nil
  have oneOf := readDefault_kept kept.oneOf noneHides_nil
  have anyOf := readDefault_kept kept.anyOf noneHides_nil
  have discriminator := readOptional_kept kept.discriminator fun d _ => rfl
  have enum := readDefault_kept kept.enum trivial
  simp only [Schema.reread, bind_ok, pure_ok, bool_bool, readOptional_text, Except.ok.injEq,
    Schema.mk.injEq, existsAndEq, and_true, true_and]
  simp only [List.isEmpty_iff, type, default, properties, required, additional, items, allOf,
    oneOf, anyOf, discriminator, enum, Schema.inner, noneHides_optional, noneHides_append,
    implies_true, true_and, and_true, and_assoc, ← noneHides_additional]

/-- Of the encoding of a schema the keywords are read back one by one, and the extensions as they
are. -/
theorem Schema.Kept.decodeKeywords_written {bound : Nat} {s : Schema} (kept : s.Kept bound) :
    ResourceInference.decodeKeywords .typed [] {}
        (Node.ofEntries (s.written.filterMap id ++ s.extensions)) = .ok s ↔
      s.reread = .ok { s with extensions := [] } := by
  rw [decodeKeywords_distinct (by simpa using kept.keys), List.foldlM_append, foldlM_written,
    bind_ok]
  have extend : ∀ t : Schema, t.extensions = [] →
      s.extensions.foldlM Schema.withEntry t = .ok { t with extensions := s.extensions } := by
    intro t none
    have back : ∀ e ∈ s.extensions, e.1 ∉ Schema.keywords ∧ Recovers (value .typed) id e.2 :=
      fun e member => (kept.extensions e member).imp_right fun h => h.back.2 trivial
    have extended := @foldlM_extensions s.extensions t (by simpa [none] using kept.distinct) back
    simpa [none] using extended
  constructor
  · rintro ⟨t, written, extended⟩
    have none := Schema.reread_extensions written
    rw [extend t none] at extended
    have same : { s with extensions := [] } = t := by
      rw [← Except.ok.inj extended, ← none]
      cases t
      rfl
    rw [written, same]
  · intro written
    refine ⟨_, written, ?_⟩
    rw [extend _ rfl]
    cases s
    rfl

/-- A schema that was read is recovered unless it, or a schema in it, hides a reference. -/
theorem Schema.Kept.recovers {bound : Nat} {s : Schema} (kept : s.Kept bound) :
    Recovers decodeSchemaOrRef encodeSchemaOrRef (.item s) ↔ NoneHides s.nested := by
  have target := referenceTarget?_distinct kept.keys
  have hidden : (s.written.filterMap id ++ s.extensions).lookup "$ref" =
      s.extensions.lookup "$ref" :=
    lookup_append_of_not_mem fun member =>
      absurd (s.written_named.keys.subset member) (by decide)
  rw [hidden] at target
  rw [Recovers, encodeSchemaOrRef, Schema.encode_eq, Node.ofValue, decodeSchemaOrRef,
    Schema.nested_eq]
  cases found : referenceTarget? (Node.ofEntries (s.written.filterMap id ++ s.extensions)) with
  | some path =>
    have hides : s.HidesReference := ⟨path, (target path).1 found⟩
    simp [hides]
  | none =>
    have candid : ¬ s.HidesReference := by
      rintro ⟨path, hides⟩
      rw [(target path).2 hides] at found
      cases found
    simp only [map_ok, RefOr.item.injEq, exists_eq_right, kept.decodeKeywords_written,
      kept.reread_ok, noneHides_cons, candid, not_false_eq_true, true_and]

theorem Schema.Kept.fits {bound : Nat} {s : Schema} (kept : s.Kept bound) :
    ∀ entry ∈ s.written, Fits bound entry := by
  have type := fun t present => (kept.type t present).within
  have default := fun v present => (kept.default v present).2.within
  have properties := fun present => (kept.properties present).within
  have required := fun present => (kept.required present).within
  have additional := fun a present => (kept.additionalProperties a present).within
  have items := fun part present => (kept.items part present).within
  have allOf := fun present => (kept.allOf present).within
  have oneOf := fun present => (kept.oneOf present).within
  have anyOf := fun present => (kept.anyOf present).within
  have discriminator := fun d present => (kept.discriminator d present).within
  have enum := fun present => (kept.enum present).within
  simp_all [Schema.written, tableEntry, listEntry]

/-- A schema that was read is encoded no deeper than it was nested. -/
theorem Schema.Kept.within {bound : Nat} {s : Schema} (kept : s.Kept bound) :
    s.encode.Within (bound + 1) := by
  rw [Schema.encode_eq]
  intro e member
  rcases List.mem_append.1 member with member | member
  · exact within_record kept.fits e member
  · exact (kept.extensions e member).2.within

/-- What is known of a schema is known with the keywords of more entries. -/
theorem Schema.Kept.decodeKeywords {bound : Nat}
    (part : ∀ b ≤ bound, ∀ node p, node.Within b → decodeSchemaOrRef node = .ok p →
      FaithfulSchema b p)
    {entries : List (Node × Node)} (within : ∀ e ∈ entries, e.2.Within bound) :
    ∀ {seen : List String} {s s' : Schema}, s.Kept bound →
      ResourceInference.decodeKeywords .typed seen s entries = .ok s' → s'.Kept bound := by
  induction entries with
  | nil =>
    intro seen s s' kept h
    rw [ResourceInference.decodeKeywords] at h
    cases h
    exact kept
  | cons entry entries ih =>
    intro seen s s' kept h
    obtain ⟨key, node⟩ := entry
    rw [decodeKeywords_cons, bind_ok] at h
    obtain ⟨name, -, h⟩ := h
    split at h
    · cases h
    · obtain ⟨t, made, h⟩ := bind_ok.1 h
      have one := kept.withKey part (within (key, node) List.mem_cons_self) made
      exact ih (fun e member => within e (List.mem_cons_of_mem _ member)) one h

/-- A schema or a reference that was read is recovered unless a schema in it hides a reference. -/
theorem faithful_schema {bound : Nat} : ∀ {node : Node} {p : SchemaOrRef}, node.Within bound →
    decodeSchemaOrRef node = .ok p → FaithfulSchema bound p := by
  induction bound using Nat.strongRecOn with
  | _ bound ih =>
    intro node p within h
    cases node with
    | mapping entries =>
      cases bound with
      | zero => exact absurd within id
      | succ bound =>
        rw [decodeSchemaOrRef] at h
        split at h
        · cases h
          refine ⟨iff_of_true ?_ noneHides_nil, ?_⟩
          · rw [Recovers, encodeSchemaOrRef, encodeReference, Node.ofValue, decodeSchemaOrRef,
              referenceTarget?_reference]
          · intro e member
            obtain rfl := List.mem_singleton.1 member
            exact within_string _ _
        · obtain ⟨s, read, rfl⟩ := map_ok.1 h
          have kept := (Schema.Kept.empty bound).decodeKeywords
            (fun b below node p => ih b (by omega)) within read
          exact ⟨kept.recovers, kept.within⟩
    | plain | tagged => cases bound <;> exact absurd within id
    | null | bool | number | string | list => cases h

end ResourceInference
