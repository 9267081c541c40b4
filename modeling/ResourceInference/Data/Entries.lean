/-!
# Lists of entries

The maps of a document are lists of entries in the order in which the document lists them.
-/

set_option autoImplicit false

namespace ResourceInference

/-- Put a value under a key of a list of entries: in the place of the entry that has the key, or
else at the end. -/
def putEntry {α : Type} (key : String) (value : α) : List (String × α) → List (String × α)
  | [] => [(key, value)]
  | entry :: rest =>
    if entry.1 = key then (key, value) :: rest else entry :: putEntry key value rest

theorem lookup_putEntry_self {α : Type} (key : String) (value : α)
    (entries : List (String × α)) : (putEntry key value entries).lookup key = some value := by
  induction entries with
  | nil => simp [putEntry]
  | cons entry rest ih =>
    unfold putEntry
    split
    · simp
    · rename_i ne
      obtain ⟨name, held⟩ := entry
      have other : (key == name) = false := by simpa using fun h => ne h.symm
      simp [List.lookup_cons, other, ih]

theorem lookup_putEntry_of_ne {α : Type} {key other : String} (ne : other ≠ key) (value : α)
    (entries : List (String × α)) :
    (putEntry key value entries).lookup other = entries.lookup other := by
  induction entries with
  | nil =>
    have : (other == key) = false := by simpa using ne
    simp [putEntry, List.lookup_cons, this]
  | cons entry rest ih =>
    obtain ⟨name, held⟩ := entry
    unfold putEntry
    split
    · rename_i same
      obtain rfl : name = key := same
      have : (other == name) = false := by simpa using ne
      simp [List.lookup_cons, this]
    · simp only [List.lookup_cons]
      split <;> simp_all

theorem mem_putEntry {α : Type} {key : String} {value : α} {entries : List (String × α)}
    {entry : String × α} (h : entry ∈ putEntry key value entries) :
    entry = (key, value) ∨ entry ∈ entries := by
  induction entries with
  | nil => simpa [putEntry] using h
  | cons first rest ih =>
    unfold putEntry at h
    split at h
    · rcases List.mem_cons.1 h with h | h
      · exact .inl h
      · exact .inr (List.mem_cons_of_mem _ h)
    · rcases List.mem_cons.1 h with h | h
      · exact .inr (by simp [h])
      · exact (ih h).imp_right (List.mem_cons_of_mem _)

theorem keys_putEntry {α : Type} (key : String) (value : α) (entries : List (String × α)) :
    (putEntry key value entries).map (·.1) =
      if key ∈ entries.map (·.1) then entries.map (·.1) else entries.map (·.1) ++ [key] := by
  induction entries with
  | nil => rfl
  | cons entry rest ih =>
    unfold putEntry
    by_cases same : entry.1 = key
    · simp [same]
    · simp only [same, ↓reduceIte, List.map_cons, ih, List.mem_cons, Ne.symm same, false_or]
      split <;> rfl

/-- A value under a key leaves the keys distinct. -/
theorem nodup_putEntry {α : Type} {key : String} {value : α} {entries : List (String × α)}
    (distinct : (entries.map (·.1)).Nodup) :
    ((putEntry key value entries).map (·.1)).Nodup := by
  rw [keys_putEntry]
  split
  · exact distinct
  · rename_i new
    refine List.nodup_append.2 ⟨distinct, by simp, ?_⟩
    rintro other member _ last rfl
    exact new (List.mem_singleton.1 last ▸ member)

/-- A new key stands at the end. -/
theorem putEntry_new {α : Type} {key : String} {value : α} {entries : List (String × α)}
    (new : key ∉ entries.map (·.1)) : putEntry key value entries = entries ++ [(key, value)] := by
  induction entries with
  | nil => rfl
  | cons first rest ih =>
    have apart : first.1 ≠ key := fun same => new (by simp [same])
    have later : key ∉ rest.map (·.1) := fun member => new (List.mem_cons_of_mem _ member)
    simp [putEntry, apart, ih later]

/-- At most one entry has a key, if no key comes twice. -/
theorem filter_key {α : Type} {entries : List (String × α)} (distinct : (entries.map (·.1)).Nodup)
    (key : String) :
    entries.filter (·.1 = key) = ((entries.lookup key).map (key, ·)).toList := by
  induction entries with
  | nil => rfl
  | cons entry rest ih =>
    obtain ⟨name, value⟩ := entry
    obtain ⟨new, distinct⟩ := List.nodup_cons.1 distinct
    by_cases same : name = key
    · subst same
      have none : rest.filter (·.1 = name) = [] := by
        refine List.filter_eq_nil_iff.2 fun entry member => ?_
        simpa using fun same : entry.1 = name => new (List.mem_map.2 ⟨entry, member, same⟩)
      simp [none]
    · have apart : (key == name) = false := by simpa using fun h : key = name => same h.symm
      simp [same, apart, List.lookup_cons, ih distinct]

theorem lookup_append_of_not_mem {α : Type} {left right : List (String × α)} {key : String}
    (absent : key ∉ left.map (·.1)) : (left ++ right).lookup key = right.lookup key := by
  induction left with
  | nil => rfl
  | cons entry rest ih =>
    obtain ⟨name, value⟩ := entry
    have apart : (key == name) = false := by
      simpa using fun same : key = name => absent (by simp [same])
    simpa [List.lookup_cons, apart] using ih fun member => absent (List.mem_cons_of_mem _ member)

end ResourceInference
