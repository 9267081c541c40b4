import ResourceInference.Proofs.EnumReuse

/-!
# The members of an enum of texts

Of the values of a schema an enum of texts takes those whose Pascal-case name no value in front of
them has (`stringMembersFrom_step`). So the members are those of certain positions, in order, and
what stands at any other position is null or has the name of an earlier member (`Selects`).

Names are compared before the one that is the name of the enum gets its `_`. They stay apart
nevertheless, as a Pascal-case name consists of letters and digits (`memberName_injective`), so no
two members have one name, and none has that of the enum (`stringMembers_unique`).
-/

set_option autoImplicit false

namespace ResourceInference.EnumSearch

/-! ## Values and their names -/

/-- The member that a value would be. -/
def member? (enumName : String) (value : Value) : Option EnumMember :=
  (generatedName? value).map fun name => ⟨memberName enumName name, value⟩

theorem isNull_iff (value : Value) : isNull value = true ↔ generatedName? value = none := by
  cases value <;> simp [isNull, generatedName?, literal?]

theorem memberName_ne (enumName name : String) : memberName enumName name ≠ enumName := by
  rw [memberName]
  split
  · rename_i isEnum
    intro same
    have longer := congrArg String.length same
    rw [isEnum, String.length_append] at longer
    exact Nat.succ_ne_self _ longer
  · assumption

/-! ## Selected positions -/

/-- The members are those at the positions `kept`, in order. A value at another position has a name
that has been seen, or that of a member in front of it, unless it has none. -/
structure Selects (enumName : String) (seen : List String) (values : List Value)
    (members : List EnumMember) (kept : List Nat) : Prop where
  ascending : kept.Pairwise (· < ·)
  members_eq : members.map some = kept.map fun i => values[i]?.bind (member? enumName)
  covers : ∀ (i : Nat) (value : Value) (name : String), values[i]? = some value →
    generatedName? value = some name → i ∉ kept →
      name ∈ seen ∨ ∃ j ∈ kept, j < i ∧ values[j]?.bind generatedName? = some name

namespace Selects

variable {enumName : String} {seen : List String} {value : Value} {values : List Value}
  {members : List EnumMember} {kept : List Nat}

theorem nil : Selects enumName seen [] [] [] :=
  ⟨.nil, rfl, fun i _ _ there => by simp at there⟩

/-- Positions behind a value in front are one further. -/
theorem ascending_succ (h : Selects enumName seen values members kept) :
    (kept.map (· + 1)).Pairwise (· < ·) :=
  List.pairwise_map.2 (h.ascending.imp Nat.succ_lt_succ)

theorem covers_succ (value : Value) (h : Selects enumName seen values members kept) {i : Nat}
    {found : Value} {name : String} (there : values[i]? = some found)
    (named : generatedName? found = some name)
    (left : i + 1 ∉ kept.map (· + 1)) :
    name ∈ seen ∨ ∃ j ∈ kept.map (· + 1), j < i + 1 ∧
      (value :: values)[j]?.bind generatedName? = some name := by
  have leftOut : i ∉ kept := fun isKept => left (List.mem_map.2 ⟨i, isKept, rfl⟩)
  rcases h.covers i found name there named leftOut with before | ⟨j, isKept, earlier, same⟩
  · exact .inl before
  · exact .inr ⟨j + 1, List.mem_map.2 ⟨j, isKept, rfl⟩, Nat.succ_lt_succ earlier, same⟩

theorem leaveOut (h : Selects enumName seen values members kept)
    (before : ∀ name, generatedName? value = some name → name ∈ seen) :
    Selects enumName seen (value :: values) members (kept.map (· + 1)) := by
  refine ⟨h.ascending_succ, ?_, fun i found name there named left => ?_⟩
  · rw [h.members_eq, List.map_map]
    rfl
  · cases i with
    | zero =>
        cases there
        exact .inl (before name named)
    | succ i => exact h.covers_succ value there named left

theorem keep {name : String} (named : generatedName? value = some name)
    (h : Selects enumName (name :: seen) values members kept) :
    Selects enumName seen (value :: values) (⟨memberName enumName name, value⟩ :: members)
      (0 :: kept.map (· + 1)) := by
  refine ⟨List.pairwise_cons.2 ⟨fun j later => ?_, h.ascending_succ⟩, ?_,
    fun i found other there isName left => ?_⟩
  · obtain ⟨_, _, rfl⟩ := List.mem_map.1 later
    exact Nat.succ_pos _
  · have first : (some value).bind (member? enumName) =
        some ⟨memberName enumName name, value⟩ := by
      rw [Option.bind_some, member?, named, Option.map_some]
    rw [List.map_cons, h.members_eq, List.map_cons, List.map_map]
    exact congrArg (· :: _) first.symm
  · cases i with
    | zero => exact absurd List.mem_cons_self left
    | succ i =>
        have leftLater : i + 1 ∉ kept.map (· + 1) :=
          fun isKept => left (List.mem_cons_of_mem _ isKept)
        rcases h.covers_succ value there isName leftLater with
          before | ⟨j, isKept, earlier, same⟩
        · -- What has been seen behind this value is its own name, or was seen in front of it.
          rcases List.mem_cons.1 before with rfl | seenBefore
          · exact .inr ⟨0, List.mem_cons_self, Nat.succ_pos i, named⟩
          · exact .inl seenBefore
        · exact .inr ⟨j, List.mem_cons_of_mem _ isKept, earlier, same⟩

end Selects

theorem exists_selects (enumName : String) (values : List Value) : ∀ seen,
    ∃ kept, Selects enumName seen values (stringMembersFrom enumName seen values) kept := by
  induction values with
  | nil => exact fun seen => ⟨[], .nil⟩
  | cons value rest ih =>
      intro seen
      obtain ⟨before, same⟩ | ⟨name, named, -, same⟩ :=
        stringMembersFrom_step enumName seen value rest
      · obtain ⟨kept, selects⟩ := ih seen
        rw [same]
        exact ⟨_, selects.leaveOut before⟩
      · obtain ⟨kept, selects⟩ := ih (name :: seen)
        rw [same]
        exact ⟨_, selects.keep named⟩

theorem values_sublist (enumName : String) (values : List Value) : ∀ seen,
    ((stringMembersFrom enumName seen values).map (·.value)).Sublist
      (values.filter (!isNull ·)) := by
  induction values with
  | nil => exact fun _ => .slnil
  | cons value rest ih =>
      intro seen
      obtain ⟨-, same⟩ | ⟨name, named, -, same⟩ := stringMembersFrom_step enumName seen value rest
      · rw [same]
        exact (ih seen).trans ((List.sublist_cons_self value rest).filter _)
      · have noNull : (!isNull value) = true := by
          rw [Bool.not_eq_true', Bool.eq_false_iff, ne_eq, isNull_iff, named]
          exact Option.some_ne_none name
        have kept : (value :: rest).filter (!isNull ·) = value :: rest.filter (!isNull ·) :=
          List.filter_cons_of_pos noNull
        rw [same, kept]
        exact (ih (name :: seen)).cons_cons value

/-! ## The result -/

/-- The members of an enum of texts, whatever its name and its values: no two have one name, and
none has that of the enum. Their values are among those that are not null, in the same order. They
are those of certain positions, and every value at another position that is not null has the
Pascal-case name of a value at one of these positions in front of it. -/
theorem stringMembers_unique (enumName : String) (values : List Value) :
    ((stringMembers enumName values).map (·.name)).Nodup ∧
    (∀ m ∈ stringMembers enumName values, m.name ≠ enumName) ∧
    ((stringMembers enumName values).map (·.value)).Sublist (values.filter (!isNull ·)) ∧
    ∃ kept : List Nat, kept.Pairwise (· < ·) ∧
      (stringMembers enumName values).map some =
        kept.map (fun i => values[i]?.bind (member? enumName)) ∧
      ∀ (i : Nat) (value : Value), values[i]? = some value → isNull value = false → i ∉ kept →
        ∃ j ∈ kept, j < i ∧ ∃ earlier, values[j]? = some earlier ∧
          ∃ name, generatedName? earlier = some name ∧ generatedName? value = some name := by
  obtain ⟨kept, selects⟩ := exists_selects enumName values []
  refine ⟨nodup_names_stringMembersFrom values [], fun m member => ?_,
    values_sublist enumName values [], kept, selects.ascending, selects.members_eq,
    fun i value there noNull left => ?_⟩
  · obtain ⟨name, -, -, same⟩ := name_of_mem_stringMembersFrom member
    rw [same]
    exact memberName_ne enumName name
  · cases named : generatedName? value with
    | none => cases noNull.symm.trans ((isNull_iff value).2 named)
    | some name =>
        rcases selects.covers i value name there named left with before | ⟨j, isKept, earlier, same⟩
        · cases before
        · obtain ⟨other, isThere, isName⟩ := Option.bind_eq_some_iff.1 same
          exact ⟨j, isKept, earlier, other, isThere, name, isName, rfl⟩

example : stringMembers "Size"
    [.string "size", .null, .string "very small", .string "very-small", .bool true] =
      [⟨"Size_", .string "size"⟩, ⟨"VerySmall", .string "very small"⟩, ⟨"True", .bool true⟩] :=
  rfl

end ResourceInference.EnumSearch
