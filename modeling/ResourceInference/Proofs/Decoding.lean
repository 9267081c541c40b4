import Mathlib.Data.List.Forall2
import ResourceInference.OpenApi.Decode
import ResourceInference.OpenApi.Encode
import ResourceInference.Proofs.JsonTrees

/-!
# Decoding what was encoded

What holds of every kind of component: lists, tables, data values and records. A record is written
with its fields in the order of their names and without those that have nothing to say (`Named`),
so what is read under a name is what the record answers to it (`Decode.answer`).

A tree is taken to be one of JSON that is nested at most so deep (`Node.Within`): plain and tagged
scalars of YAML are left out.
-/

set_option autoImplicit false

namespace ResourceInference

namespace Decode

variable {α β : Type}

/-! ## Results -/

@[simp]
theorem ok_bind (a : α) (f : α → Result β) : (Except.ok a >>= f) = f a := rfl

@[simp]
theorem bind_ok {x : Result α} {f : α → Result β} {b : β} :
    (x >>= f) = .ok b ↔ ∃ a, x = .ok a ∧ f a = .ok b := by
  cases x <;> simp [bind, Except.bind]

@[simp]
theorem pure_ok {a b : α} : (pure a : Result α) = .ok b ↔ a = b := by
  simp [pure, Except.pure]

theorem set_ok {x : Result α} {set : α → β} {b : β} :
    (x >>= fun a => pure (set a)) = .ok b ↔ ∃ a, x = .ok a ∧ set a = b := by
  cases x <;> simp [bind, Except.bind, pure, Except.pure]

theorem map_ok {x : Result α} {f : α → β} {b : β} :
    f <$> x = .ok b ↔ ∃ a, x = .ok a ∧ f a = b := by
  cases x <;> simp [Functor.map, Except.map]

theorem mapM_ok {f : α → Result β} {as : List α} {bs : List β} :
    as.mapM f = .ok bs ↔ List.Forall₂ (fun a b => f a = .ok b) as bs := by
  induction as generalizing bs with
  | nil => cases bs <;> simp [pure, Except.pure]
  | cons a as ih =>
    cases bs <;> simp [bind_ok, ih, pure, Except.pure]

theorem exists_of_mapM {f : α → Result β} {as : List α} {bs : List β} (h : as.mapM f = .ok bs) :
    ∀ b ∈ bs, ∃ a ∈ as, f a = .ok b := by
  rw [mapM_ok] at h
  induction h with
  | nil => simp
  | @cons a b as bs first others ih =>
    intro c member
    rcases List.mem_cons.1 member with rfl | member
    · exact ⟨a, List.mem_cons_self, first⟩
    · obtain ⟨a', inside, found⟩ := ih c member
      exact ⟨a', List.mem_cons_of_mem _ inside, found⟩

/-! ## Recovering

`Recovers` says of one component that decoding its encoding gives it again. `Faithful` is what every
decoder turns out to give: a component of which it is known when it is recovered, and how deep its
encoding is. -/

/-- Decoding recovers what was encoded. -/
def Recovers (decode : Node → Result α) (encode : α → Value) (a : α) : Prop :=
  decode (.ofValue (encode a)) = .ok a

/-- Decoding recovers a component from its encoding exactly if the component is plain, and the
encoding is nested at most so deep. -/
structure Faithful (decode : Node → Result α) (encode : α → Value) (plain : α → Prop)
    (bound : Nat) (a : α) : Prop where
  back : Recovers decode encode a ↔ plain a
  within : (encode a).Within bound

theorem Faithful.weaken {decode : Node → Result α} {encode : α → Value} {plain plain' : α → Prop}
    {bound : Nat} {a : α} (h : Faithful decode encode plain bound a) (same : plain a ↔ plain' a) :
    Faithful decode encode plain' bound a := ⟨h.back.trans same, h.within⟩

/-! ## Lists -/

/-- A list is recovered if its items are. -/
theorem recovers_list {reading : Reading} {decode : Node → Result α} {encode : α → Value}
    {items : List α} :
    Recovers (list reading decode) (fun items => .list (items.map encode)) items ↔
      ∀ a ∈ items, Recovers decode encode a := by
  simp [Recovers, list, Decode.items, Node.ofValue, Node.ofItems_eq, bind, Except.bind, mapM_ok]

theorem faithful_list {reading : Reading} {decode : Node → Result α} {encode : α → Value}
    {plain : α → Prop} {bound : Nat}
    (each : ∀ b, b + 1 = bound → ∀ node a, node.Within b → decode node = .ok a →
      Faithful decode encode plain b a)
    {node : Node} {items : List α} (within : node.Within bound)
    (h : list reading decode node = .ok items) :
    Faithful (list reading decode) (fun items => .list (items.map encode))
      (fun items => ∀ a ∈ items, plain a) bound items := by
  cases node with
  | list nodes =>
    cases bound with
    | zero => exact absurd within id
    | succ bound =>
      have h : nodes.mapM decode = .ok items := h
      have all : ∀ a ∈ items, Faithful decode encode plain bound a := by
        intro a member
        obtain ⟨node, inside, decoded⟩ := exists_of_mapM h a member
        exact each bound rfl node a (within node inside) decoded
      refine ⟨?_, ?_⟩
      · rw [recovers_list]
        exact forall₂_congr fun a member => (all a member).back
      · intro v member
        obtain ⟨a, inside, rfl⟩ := List.mem_map.1 member
        exact (all a inside).within
  | plain | tagged => cases bound <;> exact absurd within id
  | null | bool | number | string | mapping => cases h

/-! ## Tables -/

/-- Entries of a mapping, put into a list of entries by key. -/
def putAll (reading : Reading) (decode : Node → Result α) (done : List (String × α))
    (entries : List (Node × Node)) : Result (List (String × α)) :=
  entries.foldlM (fun done (key, value) => do
    pure (putEntry (← text reading key) (← decode value) done)) done

theorem putAll_cons {reading : Reading} {decode : Node → Result α} {key : Node} {node : Node}
    {rest : List (Node × Node)} {done table : List (String × α)} :
    putAll reading decode done ((key, node) :: rest) = .ok table ↔
      ∃ name, text reading key = .ok name ∧ ∃ a, decode node = .ok a ∧
        putAll reading decode (putEntry name a done) rest = .ok table := by
  simp [putAll, bind_ok, pure, Except.pure]

/-- Entries with distinct keys become a list of entries in their order. -/
theorem putAll_distinct {reading : Reading} {decode : Node → Result α}
    {entries : List (String × Value)} : ∀ {done table : List (String × α)},
      (done.map (·.1) ++ entries.map (·.1)).Nodup →
      (putAll reading decode done (Node.ofEntries entries) = .ok table ↔
        ∃ new, List.Forall₂ (fun e made => made.1 = e.1 ∧ decode (.ofValue e.2) = .ok made.2)
          entries new ∧ table = done ++ new) := by
  induction entries with
  | nil =>
    intro done table distinct
    simp [putAll, Node.ofEntries, pure, Except.pure, eq_comm]
  | cons entry entries ih =>
    intro done table distinct
    obtain ⟨key, v⟩ := entry
    have new : key ∉ done.map (·.1) := by
      intro member
      have apart := (List.nodup_append.1 distinct).2.2
      exact apart key member key (by simp) rfl
    have step := fun a => @ih (done ++ [(key, a)]) table (by simpa using distinct)
    simp only [Node.ofEntries, putAll_cons, text, Except.ok.injEq, exists_eq_left',
      putEntry_new new, step]
    constructor
    · rintro ⟨a, made, others, each, rfl⟩
      exact ⟨(key, a) :: others, .cons ⟨rfl, made⟩ each, by simp⟩
    · rintro ⟨_, each, rfl⟩
      cases each with
      | @cons _ made _ others first each =>
        obtain ⟨name, a⟩ := made
        obtain ⟨rfl, made⟩ := first
        exact ⟨a, made, others, each, by simp⟩

/-- A table without a repeated key is recovered if its components are. -/
theorem recovers_mapping {reading : Reading} {decode : Node → Result α} {encode : α → Value}
    {table : List (String × α)} (distinct : (table.map (·.1)).Nodup) :
    Recovers (mapping reading decode) (encodeTable encode) table ↔
      ∀ e ∈ table, Recovers decode encode e.2 := by
  have keys : (table.map fun e => (e.1, encode e.2)).map (·.1) = table.map (·.1) := by simp
  have start := @putAll_distinct _ reading decode (table.map fun e => (e.1, encode e.2)) [] table
    (by rw [keys]; exact distinct)
  change putAll reading decode [] (Node.ofEntries (table.map fun e => (e.1, encode e.2))) =
    .ok table ↔ _
  rw [start]
  simp [Recovers, List.forall₂_map_left_iff]

/-- What a table keeps: no key twice, and only what was decoded. -/
theorem putAll_ok {reading : Reading} {decode : Node → Result α} {kept : α → Prop}
    {entries : List (Node × Node)} (each : ∀ e ∈ entries, ∀ a, decode e.2 = .ok a → kept a) :
    ∀ {done table : List (String × α)}, putAll reading decode done entries = .ok table →
      (done.map (·.1)).Nodup → (∀ e ∈ done, kept e.2) →
      (table.map (·.1)).Nodup ∧ ∀ e ∈ table, kept e.2 := by
  induction entries with
  | nil =>
    intro done table h distinct all
    cases h
    exact ⟨distinct, all⟩
  | cons entry entries ih =>
    intro done table h distinct all
    obtain ⟨name, -, a, made, h⟩ := putAll_cons.1 h
    have later := fun e member => each e (List.mem_cons_of_mem _ member)
    refine ih later h (nodup_putEntry distinct) ?_
    intro e member
    rcases mem_putEntry member with rfl | member
    · exact each entry List.mem_cons_self a made
    · exact all e member

theorem faithful_mapping {reading : Reading} {decode : Node → Result α} {encode : α → Value}
    {plain : α → Prop} {bound : Nat}
    (each : ∀ b, b + 1 = bound → ∀ node a, node.Within b → decode node = .ok a →
      Faithful decode encode plain b a)
    {node : Node} {table : List (String × α)} (within : node.Within bound)
    (h : mapping reading decode node = .ok table) :
    Faithful (mapping reading decode) (encodeTable encode) (fun table => ∀ e ∈ table, plain e.2)
      bound table := by
  cases node with
  | mapping entries =>
    cases bound with
    | zero => exact absurd within id
    | succ bound =>
      have h : putAll reading decode [] entries = .ok table := h
      obtain ⟨distinct, all⟩ := putAll_ok
        (fun e member a made => each bound rfl e.2 a (within e member) made) h .nil (by simp)
      refine ⟨?_, ?_⟩
      · rw [recovers_mapping distinct]
        exact forall₂_congr fun e member => (all e member).back
      · intro v member
        obtain ⟨e, inside, rfl⟩ := List.mem_map.1 member
        exact (all e inside).within
  | plain | tagged => cases bound <;> exact absurd within id
  | null | bool | number | string | list => cases h

/-! ## Texts and values -/

theorem faithful_text {reading : Reading} (s : String) (bound : Nat) :
    Faithful (text reading) .string (fun _ => True) bound s :=
  ⟨iff_of_true rfl trivial, by cases bound <;> trivial⟩

/-- Ascending entries stay as they are. -/
theorem valueEntries_ascending {reading : Reading} {entries : List (String × Value)}
    (each : ∀ e ∈ entries, Recovers (value reading) id e.2) :
    ∀ {done : List (String × Value)}, (done ++ entries).Pairwise KeyLt →
      valueEntries reading done (Node.ofEntries entries) = .ok (done ++ entries) := by
  induction entries with
  | nil =>
    intro done ascending
    simp [valueEntries, Node.ofEntries]
  | cons entry entries ih =>
    intro done ascending
    obtain ⟨key, v⟩ := entry
    have read : value reading (.ofValue v) = .ok v := each _ List.mem_cons_self
    have last : ∀ e ∈ done, e.1 < key := fun e member =>
      (List.pairwise_append.1 ascending).2.2 e member (key, v) List.mem_cons_self
    have later := @ih (fun e member => each e (List.mem_cons_of_mem _ member)) (done ++ [(key, v)])
      (by simpa using ascending)
    simp only [Node.ofEntries, valueEntries, text, read, insertEntry_last last, bind, Except.bind]
    simpa using later

/-- What the entries of an object keep: ascending keys, and only what was decoded. -/
theorem valueEntries_ok {reading : Reading} {kept : Value → Prop} {entries : List (Node × Node)}
    (each : ∀ e ∈ entries, ∀ v, value reading e.2 = .ok v → kept v) :
    ∀ {done new : List (String × Value)}, valueEntries reading done entries = .ok new →
      done.Pairwise KeyLt → (∀ e ∈ done, kept e.2) →
      new.Pairwise KeyLt ∧ ∀ e ∈ new, kept e.2 := by
  induction entries with
  | nil =>
    intro done new h ascending all
    simp only [valueEntries, Except.ok.injEq] at h
    subst h
    exact ⟨ascending, all⟩
  | cons entry entries ih =>
    intro done new h ascending all
    obtain ⟨key, node⟩ := entry
    simp only [valueEntries, bind_ok] at h
    obtain ⟨name, -, v, made, h⟩ := h
    refine ih (fun e member => each e (List.mem_cons_of_mem _ member)) h
      (pairwise_insertEntry ascending) ?_
    intro e member
    rcases mem_insertEntry member with rfl | member
    · exact each (key, node) List.mem_cons_self v made
    · exact all e member

theorem values_eq (reading : Reading) (nodes : List Node) :
    values reading nodes = nodes.mapM (value reading) := by
  induction nodes with
  | nil => rfl
  | cons node rest ih => simp [values, ih, List.mapM_cons]

/-- A data value is recovered from itself. -/
theorem faithful_value {reading : Reading} {bound : Nat} : ∀ {node : Node} {v : Value},
    node.Within bound → value reading node = .ok v →
      Faithful (value reading) id (fun _ => True) bound v := by
  induction bound with
  | zero =>
    intro node v within h
    cases node with
    | null | bool | number | string =>
      obtain rfl : _ = v := by simpa [value] using h
      exact ⟨iff_of_true (by simp [Recovers, Node.ofValue, value]) trivial, trivial⟩
    | list | mapping | plain | tagged => exact absurd within id
  | succ bound ih =>
    intro node v within h
    cases node with
    | null | bool | number | string =>
      obtain rfl : _ = v := by simpa [value] using h
      exact ⟨iff_of_true (by simp [Recovers, Node.ofValue, value]) trivial, trivial⟩
    | plain | tagged => exact absurd within id
    | list nodes =>
      simp only [value, map_ok, values_eq] at h
      obtain ⟨items, h, rfl⟩ := h
      have each : ∀ v ∈ items, Faithful (value reading) id (fun _ => True) bound v := by
        intro v member
        obtain ⟨node, inside, made⟩ := exists_of_mapM h v member
        exact ih (within node inside) made
      refine ⟨iff_of_true ?_ trivial, fun v member => (each v member).within⟩
      simp only [Recovers, id, Node.ofValue, value, values_eq, Node.ofItems_eq, map_ok]
      have back : ∀ v ∈ items, value reading (.ofValue v) = .ok v := fun v member =>
        (each v member).back.2 trivial
      exact ⟨items, by simpa [mapM_ok] using back, rfl⟩
    | mapping entries =>
      simp only [value, map_ok] at h
      obtain ⟨new, h, rfl⟩ := h
      obtain ⟨ascending, each⟩ := valueEntries_ok
        (fun e member v made => ih (within e member) made) h .nil (by simp)
      refine ⟨iff_of_true ?_ trivial, fun e member => (each e member).within⟩
      simp only [Recovers, id, Node.ofValue, value, map_ok]
      have back := fun e member => (each e member).back.2 trivial
      exact ⟨new, valueEntries_ascending back ascending, rfl⟩

/-! ## Records as entries -/

/-- The entries are those of the named fields, in the order of the names. -/
inductive Named : List String → List (Option (String × Value)) → Prop where
  | nil : Named [] []
  | entry {name names value entries} (rest : Named names entries) :
      Named (name :: names) (Value.entry name value :: entries)
  | optional {α name names entries} {encode : α → Value} {x : Option α}
      (rest : Named names entries) :
      Named (name :: names) (Value.entry? name encode x :: entries)
  | defaulted {absent name names value entries} (rest : Named names entries) :
      Named (name :: names) (Value.entryUnless absent name value :: entries)

theorem Named.table {α : Type} {name : String} {names : List String} {encode : α → Value}
    {table : List (String × α)} {entries : List (Option (String × Value))}
    (rest : Named names entries) :
    Named (name :: names) (tableEntry name encode table :: entries) := .defaulted rest

theorem Named.list {α : Type} {name : String} {names : List String} {encode : α → Value}
    {items : List α} {entries : List (Option (String × Value))} (rest : Named names entries) :
    Named (name :: names) (listEntry name encode items :: entries) := .defaulted rest

theorem Named.keys {names : List String} {entries : List (Option (String × Value))}
    (h : Named names entries) : ((entries.filterMap id).map (·.1)).Sublist names := by
  induction h with
  | nil => exact .slnil
  | entry rest ih => exact ih.cons_cons _
  | @optional _ _ _ _ _ x rest ih =>
    cases x with
    | none => exact ih.cons _
    | some a => exact ih.cons_cons _
  | @defaulted absent _ _ _ _ rest ih =>
    cases absent with
    | true => exact ih.cons _
    | false => exact ih.cons_cons _

theorem fieldName_string (reading : Reading) (declared : List String) (key : String) :
    fieldName reading declared (.string key) = .ok (some key) := by
  cases reading <;> rfl

/-- Of entries with distinct keys those of declared fields are taken. -/
theorem declaredFields_distinct {reading : Reading} {declared : List String}
    {entries : List (String × Value)} (distinct : (entries.map (·.1)).Nodup) :
    declaredFields reading declared (Node.ofEntries entries) =
      .ok ((entries.filter (·.1 ∈ declared)).map fun e => (e.1, .ofValue e.2)) := by
  induction entries with
  | nil => rfl
  | cons entry entries ih =>
    obtain ⟨key, v⟩ := entry
    obtain ⟨new, distinct⟩ := List.nodup_cons.1 distinct
    simp only [Node.ofEntries, declaredFields, ih distinct, fieldName_string, bind, Except.bind]
    by_cases known : key ∈ declared
    · have single : ((entries.filter (·.1 ∈ declared)).map fun e =>
          (e.1, Node.ofValue e.2)).lookup key = none := by
        refine List.lookup_eq_none_iff.2 fun e member => ?_
        obtain ⟨e', inside, rfl⟩ := List.mem_map.1 member
        have apart : key ≠ e'.1 := fun same =>
          new (List.mem_map.2 ⟨e', (List.mem_filter.1 inside).1, same.symm⟩)
        simpa using apart
      simp [known, single, pure, Except.pure]
    · simp [known, pure, Except.pure]

/-- The fields that a record is read as. -/
def Fields.of (entries : List (Option (String × Value))) : Fields :=
  ⟨(entries.filterMap id).map fun e => (e.1, .ofValue e.2), false, false⟩

/-- The entries of a record are read as its fields. -/
theorem fields_record {reading : Reading} {names : List String}
    {entries : List (Option (String × Value))} (named : Named names entries)
    (distinct : names.Nodup) :
    fields reading names (.ofValue (.record entries)) = .ok (.of entries) := by
  have known : ∀ e ∈ entries.filterMap id, decide (e.1 ∈ names) := by
    intro e member
    simpa using named.keys.subset (List.mem_map_of_mem member)
  have all := @declaredFields_distinct reading names _ (named.keys.nodup distinct)
  rw [List.filter_eq_self.2 known] at all
  have read : fields reading names (.ofValue (.record entries)) =
      declaredFields reading names (Node.ofEntries (entries.filterMap id)) >>=
        fun taken => pure ⟨taken, false, false⟩ := by
    cases reading <;> rfl
  rw [read, all]
  rfl

/-! ## Fields that were read -/

theorem declaredFields_within {reading : Reading} {names : List String} {bound : Nat}
    {entries : List (Node × Node)} (within : ∀ e ∈ entries, e.2.Within bound) :
    ∀ {taken : List (String × Node)}, declaredFields reading names entries = .ok taken →
      ∀ e ∈ taken, e.2.Within bound := by
  induction entries with
  | nil =>
    intro taken h
    cases h
    exact nofun
  | cons entry entries ih =>
    intro taken h
    obtain ⟨key, node⟩ := entry
    simp only [declaredFields, bind_ok] at h
    obtain ⟨others, later, name, -, h⟩ := h
    have inside := ih (fun e member => within e (List.mem_cons_of_mem _ member)) later
    split at h
    · split at h
      · cases h
        exact inside
      · split at h
        · cases h
        · cases h
          intro e member
          rcases List.mem_cons.1 member with rfl | member
          · exact within (key, node) List.mem_cons_self
          · exact inside e member
    · cases h
      exact inside

/-- Only lists and mappings spell records, and fields are nested one level less. -/
theorem fields_within {reading : Reading} {names : List String} {node : Node} {f : Fields}
    {bound : Nat} (within : node.Within bound) (h : fields reading names node = .ok f) :
    ∃ b, b + 1 = bound ∧ ∀ e ∈ f.entries, e.2.Within b := by
  cases node with
  | list nodes =>
    have read : f = ⟨names.zip nodes, true, names.length < nodes.length⟩ := by
      cases reading <;> cases h <;> rfl
    cases bound with
    | zero => exact absurd within id
    | succ b =>
      refine ⟨b, rfl, fun e member => ?_⟩
      rw [read] at member
      exact within _ (List.of_mem_zip member).2
  | mapping entries =>
    have read : (declaredFields reading names entries >>=
        fun taken => pure ⟨taken, false, false⟩) = Except.ok f := by
      cases reading <;> exact h
    obtain ⟨taken, taking, made⟩ := bind_ok.1 read
    cases made
    cases bound with
    | zero => exact absurd within id
    | succ b => exact ⟨b, rfl, declaredFields_within within taking⟩
  | plain | tagged => cases bound <;> exact absurd within id
  | null | bool | number | string => cases reading <;> cases h

theorem of_optional {decode : Node → Result α} {node : Node} {x : Option α}
    (h : Decode.optional decode node = .ok x) :
    ∀ a ∈ x, isAbsent node = false ∧ decode node = .ok a := by
  unfold Decode.optional at h
  split at h
  · cases h
    exact nofun
  · rename_i present
    obtain ⟨a, made, rfl⟩ := map_ok.1 h
    rintro _ ⟨⟩
    exact ⟨by simpa using present, made⟩

theorem required_ok {f : Fields} {name : String} {decode : Node → Result α} {a : α}
    (h : f.required name decode = .ok a) : ∃ e ∈ f.entries, decode e.2 = .ok a := by
  unfold Fields.required at h
  split at h
  · rename_i node found
    exact ⟨(name, node), mem_of_lookup found, h⟩
  · cases h

theorem withDefault_ok {f : Fields} {name : String} {decode : Node → Result α} {default a : α}
    (h : f.withDefault name decode default = .ok a) :
    a = default ∨ ∃ e ∈ f.entries, decode e.2 = .ok a := by
  unfold Fields.withDefault at h
  split at h
  · rename_i node found
    exact .inr ⟨(name, node), mem_of_lookup found, h⟩
  · cases h
    exact .inl rfl

theorem optional_ok {f : Fields} {name : String} {decode : Node → Result α} {x : Option α}
    (h : f.optional name decode = .ok x) : ∀ a ∈ x, ∃ e ∈ f.entries, decode e.2 = .ok a := by
  unfold Fields.optional at h
  split at h
  · rename_i node found
    exact fun a present => ⟨(name, node), mem_of_lookup found, (of_optional h a present).2⟩
  · split at h <;> cases h
    exact nofun

/-! ## Fields of a written record -/

/-- What a record says under a name. -/
def answer (entries : List (Option (String × Value))) (name : String) : Option Value :=
  (entries.filterMap id).lookup name

theorem Fields.lookup_of (entries : List (Option (String × Value))) (name : String) :
    (Fields.of entries).entries.lookup name = (answer entries name).map Node.ofValue := by
  simp only [Fields.of, answer]
  induction entries.filterMap id with
  | nil => rfl
  | cons e rest ih =>
    obtain ⟨key, v⟩ := e
    simp only [List.map_cons, List.lookup_cons, ih]
    split <;> rfl

theorem of_positional (entries : List (Option (String × Value))) :
    (Fields.of entries).positional = false := rfl

@[simp]
theorem of_close (entries : List (Option (String × Value))) (reading : Reading) :
    (Fields.of entries).close reading = .ok () := rfl

@[simp]
theorem answer_nil (name : String) : answer [] name = none := rfl

@[simp]
theorem answer_entry (name key : String) (v : Value) (entries : List (Option (String × Value))) :
    answer (Value.entry key v :: entries) name =
      if name = key then some v else answer entries name := by
  by_cases h : name = key
  · simp [answer, Value.entry, h]
  · have apart : (name == key) = false := by simpa using h
    simp [answer, Value.entry, h, List.lookup_cons, apart]

@[simp]
theorem answer_optional (name key : String) (encode : α → Value) (x : Option α)
    (entries : List (Option (String × Value))) :
    answer (Value.entry? key encode x :: entries) name =
      if name = key then (x.map encode).or (answer entries name) else answer entries name := by
  cases x with
  | none => simp [answer, Value.entry?]
  | some a => exact answer_entry name key (encode a) entries |>.trans (by simp)

@[simp]
theorem answer_unless (absent : Bool) (name key : String) (v : Value)
    (entries : List (Option (String × Value))) :
    answer (Value.entryUnless absent key v :: entries) name =
      if name = key then (if absent then answer entries name else some v)
      else answer entries name := by
  cases absent with
  | true => simp [answer, Value.entryUnless]
  | false => exact answer_entry name key v entries |>.trans (by simp)

/-- A field that must be there, with the answer. -/
@[simp]
def readRequired (decode : Node → Result α) : Option Value → Result α
  | some v => decode (.ofValue v)
  | none => .error .shape

/-- An optional field with the answer. -/
def readOptional (decode : Node → Result α) : Option Value → Result (Option α)
  | some v => Decode.optional decode (.ofValue v)
  | none => .ok none

/-- A field with a default, with the answer. -/
def readDefault (decode : Node → Result α) (default : α) : Option Value → Result α
  | some v => decode (.ofValue v)
  | none => .ok default

section

variable {name : String} {entries : List (Option (String × Value))} {decode : Node → Result α}

@[simp]
theorem Fields.required_of :
    (Fields.of entries).required name decode = readRequired decode (answer entries name) := by
  simp only [Fields.required, Fields.lookup_of]
  cases answer entries name <;> rfl

@[simp]
theorem Fields.optional_of :
    (Fields.of entries).optional name decode = readOptional decode (answer entries name) := by
  simp only [Fields.optional, Fields.lookup_of, of_positional]
  cases answer entries name <;> rfl

@[simp]
theorem Fields.withDefault_of {default : α} :
    (Fields.of entries).withDefault name decode default =
      readDefault decode default (answer entries name) := by
  simp only [Fields.withDefault, Fields.lookup_of]
  cases answer entries name <;> rfl

variable {encode : α → Value}

theorem readOptional_map {x : Option α}
    (present : ∀ a ∈ x, isAbsent (.ofValue (encode a)) = false) :
    readOptional decode (x.map encode) = .ok x ↔ ∀ a ∈ x, Recovers decode encode a := by
  cases x with
  | none => simp [readOptional]
  | some a => simp [readOptional, Decode.optional, present a rfl, map_ok, Recovers]

variable {plain : α → Prop} {bound : Nat}

theorem readOptional_kept {x : Option α} (kept : ∀ a ∈ x, Faithful decode encode plain bound a)
    (present : ∀ a ∈ x, isAbsent (.ofValue (encode a)) = false) :
    readOptional decode (x.map encode) = .ok x ↔ ∀ a ∈ x, plain a :=
  (readOptional_map present).trans (forall₂_congr fun a member => (kept a member).back)

end

theorem readDefault_kept {decode : Node → Result (List α)} {encode : List α → Value}
    {plain : List α → Prop} {bound : Nat} {items : List α} [Decidable (items = [])]
    (kept : items ≠ [] → Faithful decode encode plain bound items) (nil : plain []) :
    readDefault decode [] (if items = [] then none else some (encode items)) = .ok items ↔
      plain items := by
  by_cases empty : items = []
  · simp [readDefault, empty, nil]
  · simpa [readDefault, empty, Recovers] using (kept empty).back

/-! ## What is kept of a field -/

section

variable {f : Fields} {name : String} {bound : Nat}

theorem kept_optional {decode : Node → Result α} {encode : α → Value} {plain : α → Prop}
    {x : Option α} (inside : ∀ e ∈ f.entries, e.2.Within bound)
    (h : f.optional name decode = .ok x)
    (faithful : ∀ node a, node.Within bound → decode node = .ok a →
      Faithful decode encode plain bound a) : ∀ a ∈ x, Faithful decode encode plain bound a := by
  intro a present
  obtain ⟨e, member, made⟩ := optional_ok h a present
  exact faithful e.2 a (inside e member) made

theorem kept_default {decode : Node → Result (List α)} {encode : List α → Value}
    {plain : List α → Prop} {items : List α} (inside : ∀ e ∈ f.entries, e.2.Within bound)
    (h : f.withDefault name decode [] = .ok items)
    (faithful : ∀ node, node.Within bound → decode node = .ok items →
      Faithful decode encode plain bound items) :
    items ≠ [] → Faithful decode encode plain bound items := by
  intro present
  rcases withDefault_ok h with empty | ⟨e, member, made⟩
  · exact absurd empty present
  · exact faithful e.2 (inside e member) made

end

/-! ## Depth of records -/

/-- The entry, if it is there, is nested at most so deep. -/
def Fits (bound : Nat) (entry : Option (String × Value)) : Prop := ∀ e ∈ entry, e.2.Within bound

theorem within_record {bound : Nat} {entries : List (Option (String × Value))}
    (fits : ∀ entry ∈ entries, Fits bound entry) : (Value.record entries).Within (bound + 1) := by
  intro e member
  obtain ⟨entry, inside, rfl⟩ := List.mem_filterMap.1 member
  exact fits _ inside e rfl

@[simp]
theorem fits_entry {bound : Nat} {key : String} {v : Value} :
    Fits bound (Value.entry key v) ↔ v.Within bound := by
  simp [Fits, Value.entry]

@[simp]
theorem fits_optional {bound : Nat} {key : String} {encode : α → Value} {x : Option α} :
    Fits bound (Value.entry? key encode x) ↔ ∀ a ∈ x, (encode a).Within bound := by
  cases x <;> simp [Fits, Value.entry?]

@[simp]
theorem fits_unless {bound : Nat} {key : String} {v : Value} {absent : Bool} :
    Fits bound (Value.entryUnless absent key v) ↔ (absent = false → v.Within bound) := by
  cases absent <;> simp [Fits, Value.entryUnless]

@[simp]
theorem within_string (s : String) (bound : Nat) : (Value.string s).Within bound := by
  cases bound <;> trivial

@[simp]
theorem within_bool (b : Bool) (bound : Nat) : (Value.bool b).Within bound := by
  cases bound <;> trivial

@[simp]
theorem text_string (reading : Reading) (s : String) :
    text reading (.ofValue (.string s)) = .ok s := rfl

@[simp]
theorem bool_bool (b : Bool) : bool (.ofValue (.bool b)) = .ok b := rfl

@[simp]
theorem readOptional_text (reading : Reading) (x : Option String) :
    readOptional (text reading) (x.map .string) = .ok x := by
  cases x <;> rfl

end Decode

end ResourceInference
