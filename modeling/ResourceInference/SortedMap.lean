/-!
# Maps sorted by key

A finite map from text keys, kept as the list of its entries in strictly ascending order of the
keys. Text is ordered by code points. The order is part of the type, so two maps that answer
every look-up alike are equal (`SortedMap.ext_get?`), and listing a map is listing its entries.
-/

set_option autoImplicit false

namespace ResourceInference

/-- The order of entries by key. -/
def KeyLt {α : Type} (a b : String × α) : Prop := a.1 < b.1

/-- Put a value under a key of an ascending list of entries. -/
def insertEntry {α : Type} (key : String) (value : α) : List (String × α) → List (String × α)
  | [] => [(key, value)]
  | entry :: rest =>
    if key < entry.1 then (key, value) :: entry :: rest
    else if key = entry.1 then (key, value) :: rest
    else entry :: insertEntry key value rest

theorem mem_insertEntry {α : Type} {key : String} {value : α} {entry : String × α}
    {entries : List (String × α)} (h : entry ∈ insertEntry key value entries) :
    entry = (key, value) ∨ entry ∈ entries := by
  induction entries with
  | nil => simpa [insertEntry] using h
  | cons first rest ih =>
    unfold insertEntry at h
    split at h
    · simpa using h
    · split at h
      · rcases List.mem_cons.1 h with h | h
        · exact .inl h
        · exact .inr (List.mem_cons_of_mem _ h)
      · rcases List.mem_cons.1 h with h | h
        · exact .inr (by simp [h])
        · exact (ih h).imp_right (List.mem_cons_of_mem _)

/-- Of two keys, neither before the other, both are one. -/
theorem key_lt_of_ne {a b : String} (notLess : ¬ a < b) (ne : a ≠ b) : b < a := by
  rcases Std.lt_trichotomy a b with h | h | h
  · exact absurd h notLess
  · exact absurd h ne
  · exact h

theorem pairwise_insertEntry {α : Type} {key : String} {value : α}
    {entries : List (String × α)} (sorted : entries.Pairwise KeyLt) :
    (insertEntry key value entries).Pairwise KeyLt := by
  induction entries with
  | nil => simp [insertEntry]
  | cons first rest ih =>
    obtain ⟨least, tail⟩ := List.pairwise_cons.1 sorted
    unfold insertEntry
    split
    · rename_i before
      refine List.pairwise_cons.2 ⟨fun entry member => ?_, sorted⟩
      rcases List.mem_cons.1 member with rfl | member
      · exact before
      · exact String.lt_trans before (least entry member)
    · split
      · rename_i same
        exact List.pairwise_cons.2
          ⟨fun entry member => by simpa [KeyLt, same] using least entry member, tail⟩
      · rename_i notBefore ne
        refine List.pairwise_cons.2 ⟨fun entry member => ?_, ih tail⟩
        rcases mem_insertEntry member with rfl | member
        · exact key_lt_of_ne notBefore ne
        · exact least entry member

/-- A key after all others stands at the end. -/
theorem insertEntry_last {α : Type} {key : String} {value : α} {entries : List (String × α)}
    (last : ∀ entry ∈ entries, entry.1 < key) :
    insertEntry key value entries = entries ++ [(key, value)] := by
  induction entries with
  | nil => rfl
  | cons first rest ih =>
    have before : first.1 < key := last first List.mem_cons_self
    have notBefore : ¬ key < first.1 := fun after =>
      String.lt_irrefl _ (String.lt_trans before after)
    have ne : key ≠ first.1 := fun same => String.lt_irrefl _ (same ▸ before)
    simp [insertEntry, notBefore, ne,
      ih fun entry member => last entry (List.mem_cons_of_mem _ member)]

/-! ## Look-up -/

theorem lookup_insertEntry_self {α : Type} (key : String) (value : α)
    (entries : List (String × α)) : (insertEntry key value entries).lookup key = some value := by
  induction entries with
  | nil => simp [insertEntry]
  | cons first rest ih =>
    unfold insertEntry
    split
    · simp
    · split
      · simp
      · rename_i ne
        obtain ⟨name, held⟩ := first
        have other : (key == name) = false := by simpa using ne
        simp [List.lookup_cons, other, ih]

theorem lookup_insertEntry_of_ne {α : Type} {key other : String} (ne : other ≠ key) (value : α)
    (entries : List (String × α)) :
    (insertEntry key value entries).lookup other = entries.lookup other := by
  have apart : (other == key) = false := by simpa using ne
  induction entries with
  | nil => simp [insertEntry, List.lookup_cons, apart]
  | cons first rest ih =>
    obtain ⟨name, held⟩ := first
    unfold insertEntry
    split
    · simp [List.lookup_cons, apart]
    · split
      · rename_i same
        obtain rfl : key = name := same
        simp [List.lookup_cons, apart]
      · simp only [List.lookup_cons]
        split <;> simp_all

theorem lookup_filter_ne_self {α : Type} (key : String) (entries : List (String × α)) :
    (entries.filter (·.1 ≠ key)).lookup key = none := by
  induction entries with
  | nil => rfl
  | cons first rest ih =>
    obtain ⟨name, held⟩ := first
    by_cases same : name = key
    · simpa [List.filter, same] using ih
    · have other : (key == name) = false := by simpa using fun h => same h.symm
      simpa [List.filter, same, List.lookup_cons, other] using ih

theorem lookup_filter_of_ne {α : Type} {key other : String} (ne : other ≠ key)
    (entries : List (String × α)) :
    (entries.filter (·.1 ≠ key)).lookup other = entries.lookup other := by
  induction entries with
  | nil => rfl
  | cons first rest ih =>
    obtain ⟨name, held⟩ := first
    by_cases same : name = key
    · have apart : (other == key) = false := by simpa using ne
      simpa [List.filter, List.lookup_cons, same, apart] using ih
    · simp only [List.filter, same, ne_eq, not_false_eq_true, decide_true, List.lookup_cons]
      split <;> simp_all

theorem mem_of_lookup {α : Type} {key : String} {value : α} {entries : List (String × α)}
    (h : entries.lookup key = some value) : (key, value) ∈ entries := by
  induction entries with
  | nil => simp at h
  | cons first rest ih =>
    obtain ⟨name, held⟩ := first
    simp only [List.lookup_cons] at h
    split at h
    · rename_i same
      have key_eq : key = name := by simpa using same
      have value_eq : held = value := by simpa using h
      exact List.mem_cons.2 (.inl (by rw [key_eq, ← value_eq]))
    · exact List.mem_cons_of_mem _ (ih h)

theorem lookup_of_not_mem {α : Type} {key : String} {entries : List (String × α)}
    (new : key ∉ entries.map (·.1)) : entries.lookup key = none := by
  refine List.lookup_eq_none_iff.2 fun entry member => ?_
  simpa using fun same : key = entry.1 => new (List.mem_map.2 ⟨entry, member, same.symm⟩)

/-- Ascending entries have distinct keys. -/
theorem nodup_keys {α : Type} {entries : List (String × α)} (sorted : entries.Pairwise KeyLt) :
    (entries.map (·.1)).Nodup := by
  refine List.pairwise_map.2 (sorted.imp ?_)
  intro a b before same
  rw [KeyLt, same] at before
  exact String.lt_irrefl _ before

theorem lookup_of_mem {α : Type} {entry : String × α} {entries : List (String × α)}
    (distinct : (entries.map (·.1)).Nodup) (h : entry ∈ entries) :
    entries.lookup entry.1 = some entry.2 := by
  induction entries with
  | nil => simp at h
  | cons first rest ih =>
    obtain ⟨new, restDistinct⟩ := List.nodup_cons.1 distinct
    obtain ⟨name, held⟩ := first
    rcases List.mem_cons.1 h with rfl | h
    · exact List.lookup_cons_self
    · have later : (entry.1 == name) = false := by
        simpa using fun same : entry.1 = name => new (List.mem_map.2 ⟨entry, h, same⟩)
      simpa [List.lookup_cons, later] using ih restDistinct h

/-- Where no key comes twice, the order of the entries does not matter to a look-up. -/
theorem lookup_perm {α : Type} {entries entries' : List (String × α)}
    (distinct : (entries.map (·.1)).Nodup) (perm : entries.Perm entries') (key : String) :
    entries.lookup key = entries'.lookup key := by
  have distinct' : (entries'.map (·.1)).Nodup := (perm.map _).nodup_iff.1 distinct
  refine Option.ext fun value => ⟨fun h => ?_, fun h => ?_⟩
  · exact lookup_of_mem distinct' (perm.mem_iff.1 (mem_of_lookup h))
  · exact lookup_of_mem distinct (perm.mem_iff.2 (mem_of_lookup h))

/-- Two ascending lists with the same members are equal. -/
theorem eq_of_mem_iff {α : Type} {as bs : List (String × α)} (left : as.Pairwise KeyLt)
    (right : bs.Pairwise KeyLt) (h : ∀ entry, entry ∈ as ↔ entry ∈ bs) : as = bs := by
  induction as generalizing bs with
  | nil =>
    cases bs with
    | nil => rfl
    | cons b bs => exact absurd ((h b).2 List.mem_cons_self) (by simp)
  | cons a as ih =>
    cases bs with
    | nil => exact absurd ((h a).1 List.mem_cons_self) (by simp)
    | cons b bs =>
      obtain ⟨leastLeft, tailLeft⟩ := List.pairwise_cons.1 left
      obtain ⟨leastRight, tailRight⟩ := List.pairwise_cons.1 right
      have same : a = b := by
        rcases List.mem_cons.1 ((h a).1 List.mem_cons_self) with eq | inRight
        · exact eq
        · rcases List.mem_cons.1 ((h b).2 List.mem_cons_self) with eq | inLeft
          · exact eq.symm
          · exact absurd (String.lt_trans (leastLeft b inLeft) (leastRight a inRight))
              (String.lt_irrefl _)
      subst same
      have rest : ∀ entry, entry ∈ as ↔ entry ∈ bs := fun entry => by
        constructor
        · intro member
          rcases List.mem_cons.1 ((h entry).1 (List.mem_cons_of_mem _ member)) with eq | found
          · exact absurd (leastLeft entry member) (eq ▸ String.lt_irrefl _)
          · exact found
        · intro member
          rcases List.mem_cons.1 ((h entry).2 (List.mem_cons_of_mem _ member)) with eq | found
          · exact absurd (leastRight entry member) (eq ▸ String.lt_irrefl _)
          · exact found
      rw [ih tailLeft tailRight rest]

/-! ## Maps -/

/-- A map from text keys, listed in ascending order of the keys. -/
structure SortedMap (α : Type) where
  entries : List (String × α)
  sorted : entries.Pairwise KeyLt
  deriving DecidableEq

namespace SortedMap

variable {α β : Type}

/-- The map without entries. -/
def empty : SortedMap α := ⟨[], List.Pairwise.nil⟩

instance : EmptyCollection (SortedMap α) := ⟨empty⟩

instance : Inhabited (SortedMap α) := ⟨empty⟩

/-- The value under a key. -/
def get? (m : SortedMap α) (key : String) : Option α := m.entries.lookup key

/-- Whether a key has a value. -/
def contains (m : SortedMap α) (key : String) : Bool := (m.get? key).isSome

/-- Put a value under a key, in place of the one it had. -/
def insert (m : SortedMap α) (key : String) (value : α) : SortedMap α :=
  ⟨insertEntry key value m.entries, pairwise_insertEntry m.sorted⟩

/-- Drop a key and its value. -/
def erase (m : SortedMap α) (key : String) : SortedMap α :=
  ⟨m.entries.filter (·.1 ≠ key), m.sorted.filter _⟩

/-- The entries, in ascending order of the keys. -/
def toList (m : SortedMap α) : List (String × α) := m.entries

/-- The keys, in ascending order. -/
def keys (m : SortedMap α) : List String := m.entries.map (·.1)

/-- Whether the map has no entries. -/
def isEmpty (m : SortedMap α) : Bool := m.entries.isEmpty

/-- The map of a list of entries; a later entry replaces an earlier one under its key. -/
def ofList (entries : List (String × α)) : SortedMap α :=
  entries.foldl (fun m entry => m.insert entry.1 entry.2) empty

/-- All entries of `m`, and those of `other` in place of entries under the same key. -/
def union (m other : SortedMap α) : SortedMap α :=
  other.entries.foldl (fun m entry => m.insert entry.1 entry.2) m

/-- An entry with its value changed by `f`. -/
def onValue (f : α → β) (entry : String × α) : String × β := (entry.1, f entry.2)

/-! ## One view: the value under a key -/

theorem get?_empty (key : String) : (empty : SortedMap α).get? key = none := rfl

theorem get?_insert (m : SortedMap α) (key other : String) (value : α) :
    (m.insert key value).get? other = if other = key then some value else m.get? other := by
  by_cases same : other = key
  · subst same
    simpa [get?, insert] using lookup_insertEntry_self _ _ _
  · simpa [get?, insert, same] using lookup_insertEntry_of_ne same value m.entries

theorem get?_erase (m : SortedMap α) (key other : String) :
    (m.erase key).get? other = if other = key then none else m.get? other := by
  by_cases same : other = key
  · subst same
    simpa [get?, erase] using lookup_filter_ne_self other m.entries
  · simpa [get?, erase, same] using lookup_filter_of_ne same m.entries

theorem mem_toList_iff (m : SortedMap α) (key : String) (value : α) :
    (key, value) ∈ m.toList ↔ m.get? key = some value :=
  ⟨fun h => lookup_of_mem (nodup_keys m.sorted) h, mem_of_lookup⟩

/-- Maps that answer every look-up alike are equal. -/
theorem ext_get? {m n : SortedMap α} (h : ∀ key, m.get? key = n.get? key) : m = n := by
  have entries : m.entries = n.entries := eq_of_mem_iff m.sorted n.sorted fun (key, value) => by
    rw [show (key, value) ∈ m.entries ↔ _ from m.mem_toList_iff key value, h key]
    exact (n.mem_toList_iff key value).symm
  cases m
  cases n
  simp_all

theorem contains_iff (m : SortedMap α) (key : String) :
    m.contains key = true ↔ ∃ value, m.get? key = some value := Option.isSome_iff_exists

theorem get?_eq_none_iff (m : SortedMap α) (key : String) :
    m.get? key = none ↔ m.contains key = false := by
  simp [contains]

theorem contains_empty (key : String) : (∅ : SortedMap α).contains key = false := rfl

theorem contains_insert (m : SortedMap α) (key other : String) (value : α) :
    (m.insert key value).contains other = true ↔ other = key ∨ m.contains other = true := by
  rw [contains, get?_insert]
  split <;> simp_all [contains]

theorem contains_insert_of_ne (m : SortedMap α) {key other : String} (ne : other ≠ key)
    (value : α) : (m.insert key value).contains other = m.contains other := by
  rw [contains, get?_insert, if_neg ne, contains]

theorem contains_erase (m : SortedMap α) (key other : String) :
    (m.erase key).contains other = true ↔ other ≠ key ∧ m.contains other = true := by
  rw [contains, get?_erase]
  split <;> simp_all [contains]

/-! ## Keys -/

theorem mem_keys_iff (m : SortedMap α) (key : String) :
    key ∈ m.keys ↔ m.contains key = true := by
  simp only [contains_iff, ← mem_toList_iff]
  simp [keys, toList]

/-- Keys are listed in strictly ascending order. -/
theorem pairwise_keys (m : SortedMap α) : m.keys.Pairwise (· < ·) :=
  List.pairwise_map.2 m.sorted

/-! ## Changing values -/

theorem contains_insertAll {entries : List (String × α)} {key : String} :
    ∀ {m : SortedMap α}, (entries.foldl (fun m entry => m.insert entry.1 entry.2) m).contains key =
        true ↔ (∃ value, (key, value) ∈ entries) ∨ m.contains key = true := by
  induction entries with
  | nil => simp
  | cons first rest ih =>
    intro m
    obtain ⟨name, value⟩ := first
    rw [List.foldl_cons, ih, contains_insert]
    constructor
    · rintro (⟨value, member⟩ | rfl | before)
      · exact .inl ⟨value, List.mem_cons_of_mem _ member⟩
      · exact .inl ⟨_, List.mem_cons_self⟩
      · exact .inr before
    · rintro (⟨value, member⟩ | before)
      · rcases List.mem_cons.1 member with same | member
        · exact .inr (.inl (Prod.mk.inj same).1)
        · exact .inl ⟨value, member⟩
      · exact .inr (.inr before)

theorem contains_ofList (entries : List (String × α)) (key : String) :
    (ofList entries).contains key = true ↔ ∃ value, (key, value) ∈ entries :=
  contains_insertAll.trans (or_iff_left (by simp [contains, get?_empty]))

theorem contains_union (m other : SortedMap α) (key : String) :
    (m.union other).contains key = true ↔ other.contains key = true ∨ m.contains key = true := by
  have entries : (∃ value, (key, value) ∈ other.toList) ↔ other.contains key = true := by
    simp only [mem_toList_iff, contains_iff]
  exact contains_insertAll.trans (or_congr_left entries)

theorem get?_insertAll {entries : List (String × α)} (distinct : (entries.map (·.1)).Nodup)
    (key : String) : ∀ m : SortedMap α,
      (entries.foldl (fun m entry => m.insert entry.1 entry.2) m).get? key =
        (entries.lookup key).or (m.get? key) := by
  induction entries with
  | nil => exact fun m => rfl
  | cons first rest ih =>
    intro m
    obtain ⟨new, restDistinct⟩ := List.nodup_cons.1 distinct
    obtain ⟨name, value⟩ := first
    rw [List.foldl_cons, ih restDistinct, get?_insert]
    by_cases same : key = name
    · subst same
      simp [lookup_of_not_mem new]
    · have other : (key == name) = false := by simpa using same
      simp [same, List.lookup_cons, other]

theorem get?_union (m other : SortedMap α) (key : String) :
    (m.union other).get? key = (other.get? key).or (m.get? key) :=
  get?_insertAll (nodup_keys other.sorted) key m

theorem get?_ofList {entries : List (String × α)} (distinct : (entries.map (·.1)).Nodup)
    (key : String) : (ofList entries).get? key = entries.lookup key :=
  (get?_insertAll distinct key empty).trans (Option.or_none ..)

/-- Where no key comes twice, the order of the entries does not matter to their map. -/
theorem ofList_perm {entries entries' : List (String × α)}
    (distinct : (entries.map (·.1)).Nodup) (perm : entries.Perm entries') :
    ofList entries = ofList entries' := by
  refine ext_get? fun key => ?_
  rw [get?_ofList distinct, get?_ofList ((perm.map _).nodup_iff.1 distinct)]
  exact lookup_perm distinct perm key

/-- A map that has gone into another one changes nothing when it goes in again. -/
theorem union_union (m other : SortedMap α) : (m.union other).union other = m.union other := by
  refine ext_get? fun key => ?_
  rw [get?_union, get?_union]
  cases other.get? key <;> rfl

theorem insertEntry_map (f : String → α → β) (key : String) (value : α)
    (entries : List (String × α)) :
    insertEntry key (f key value) (entries.map fun entry => (entry.1, f entry.1 entry.2)) =
      (insertEntry key value entries).map fun entry => (entry.1, f entry.1 entry.2) := by
  induction entries with
  | nil => rfl
  | cons first rest ih =>
    simp only [List.map_cons, insertEntry]
    by_cases before : key < first.1
    · rw [if_pos before, if_pos before, List.map_cons, List.map_cons]
    · by_cases same : key = first.1
      · rw [if_neg before, if_neg before, if_pos same, if_pos same, List.map_cons]
      · rw [if_neg before, if_neg before, if_neg same, if_neg same, List.map_cons, ih]

/-- Changing the values of a list of entries changes the values of its map, and no keys. -/
theorem toList_ofList_map (f : String → α → β) (entries : List (String × α)) :
    (ofList (entries.map fun entry => (entry.1, f entry.1 entry.2))).toList =
      (ofList entries).toList.map fun entry => (entry.1, f entry.1 entry.2) := by
  suffices h : ∀ (m : SortedMap β) (n : SortedMap α),
      m.toList = n.toList.map (fun entry => (entry.1, f entry.1 entry.2)) →
      ((entries.map fun entry => (entry.1, f entry.1 entry.2)).foldl
        (fun m entry => m.insert entry.1 entry.2) m).toList =
      (entries.foldl (fun m entry => m.insert entry.1 entry.2) n).toList.map
        fun entry => (entry.1, f entry.1 entry.2) from h empty empty rfl
  induction entries with
  | nil => exact fun m n h => h
  | cons first rest ih =>
    intro m n h
    refine ih (m.insert first.1 (f first.1 first.2)) (n.insert first.1 first.2) ?_
    change insertEntry _ _ m.toList = _
    rw [h]
    exact insertEntry_map f first.1 first.2 n.toList

/-! ## Properties of all values -/

/-- Every value of the map has a property. -/
def All (good : α → Prop) (m : SortedMap α) : Prop := ∀ entry ∈ m.toList, good entry.2

theorem all_empty (good : α → Prop) : (∅ : SortedMap α).All good := by
  intro entry member
  cases member

theorem All.insert {good : α → Prop} {m : SortedMap α} (h : m.All good) (key : String)
    {value : α} (hvalue : good value) : (m.insert key value).All good := by
  intro entry member
  rcases mem_insertEntry member with rfl | member
  · exact hvalue
  · exact h entry member

theorem All.insertAll {good : α → Prop} {entries : List (String × α)}
    (hentries : ∀ entry ∈ entries, good entry.2) :
    ∀ {m : SortedMap α}, m.All good →
      (entries.foldl (fun m entry => m.insert entry.1 entry.2) m).All good := by
  induction entries with
  | nil => exact id
  | cons first rest ih =>
    intro m h
    exact ih (fun entry member => hentries entry (List.mem_cons_of_mem _ member))
      (h.insert first.1 (hentries first List.mem_cons_self))

theorem All.union {good : α → Prop} {m other : SortedMap α} (h : m.All good)
    (h' : other.All good) : (m.union other).All good := All.insertAll h' h

theorem all_ofList {good : α → Prop} {entries : List (String × α)}
    (h : ∀ entry ∈ entries, good entry.2) : (ofList entries).All good :=
  All.insertAll h (all_empty good)

end SortedMap

/-- A set of texts, listed in ascending order. -/
abbrev SortedSet := SortedMap Unit

namespace SortedSet

/-- The set of the texts of a list. -/
def ofList (texts : List String) : SortedSet := SortedMap.ofList (texts.map (·, ()))

/-- Add a text to a set. -/
def add (s : SortedSet) (text : String) : SortedSet := s.insert text ()

/-- Sets with the same texts are equal. -/
theorem ext_contains {s t : SortedSet} (h : ∀ text, s.contains text = t.contains text) :
    s = t := by
  refine SortedMap.ext_get? fun text => ?_
  have same := h text
  simp only [SortedMap.contains] at same
  cases inLeft : s.get? text <;> cases inRight : t.get? text <;> simp_all

theorem contains_ofList (texts : List String) (text : String) :
    (ofList texts).contains text = true ↔ text ∈ texts := by
  simp [ofList, SortedMap.contains_ofList]

/-- A set is given back by its list. -/
theorem ofList_keys (s : SortedSet) : ofList s.keys = s := by
  refine ext_contains fun text => Bool.eq_iff_iff.2 ?_
  rw [contains_ofList, SortedMap.mem_keys_iff]

end SortedSet

end ResourceInference
