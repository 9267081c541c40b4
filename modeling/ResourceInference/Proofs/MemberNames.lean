import Mathlib.Data.Finset.Card
import ResourceInference.Proofs.EnumReuse

/-!
# Enums with the same member names

Two enums are taken for one by a count and an inclusion: they have equally many members, and the
names of the second are among those of the first. That they have the same names does not follow, as
a name may come twice. It follows, and the other way round, exactly for enums that repeat names
equally often (`sameMembers_exact`). Enums of texts never repeat one, but enums of integers repeat
what their schema repeats: `1, 1` is taken for `1, 2`, and `1, 2` is not taken for `1, 1`
(`repeatedInteger_confused`).
-/

set_option autoImplicit false

namespace ResourceInference

namespace EnumType

/-- The set of the member names. -/
def nameSet (e : EnumType) : Finset String := e.names.toFinset

/-- How many members have a name that another member has in front of them. -/
def repeated (e : EnumType) : Nat := e.members.length - e.nameSet.card

variable {a b c : EnumType}

theorem length_eq (e : EnumType) : e.members.length = e.nameSet.card + e.repeated := by
  have atMost : e.nameSet.card ≤ e.names.length := e.names.toFinset_card_le
  have named : e.names.length = e.members.length := List.length_map ..
  unfold repeated
  omega

theorem repeated_eq_zero_of_nodup {e : EnumType} (distinct : e.names.Nodup) : e.repeated = 0 := by
  have all : e.nameSet.card = e.names.length := List.toFinset_card_of_nodup distinct
  have named : e.names.length = e.members.length := List.length_map ..
  have split := e.length_eq
  omega

theorem sameMembers_iff :
    a.sameMembers b = true ↔ a.members.length = b.members.length ∧ b.nameSet ⊆ a.nameSet := by
  simp [sameMembers, nameSet, Finset.subset_iff]

/-- An enum that has as many members and no other names has the same names if it repeats them as
often. -/
theorem nameSet_eq_iff (same : a.sameMembers b = true) :
    a.nameSet = b.nameSet ↔ a.repeated = b.repeated := by
  obtain ⟨lengths, included⟩ := sameMembers_iff.1 same
  have left := a.length_eq
  have right := b.length_eq
  constructor
  · intro names
    rw [names] at left
    omega
  · intro often
    exact (Finset.eq_of_subset_of_card_le included (by omega)).symm

/-- Enums with the same names have equally many members if they repeat names equally often. -/
theorem sameMembers_of_nameSet_eq (names : a.nameSet = b.nameSet) :
    a.sameMembers b = true ↔ a.repeated = b.repeated := by
  have left := a.length_eq
  have right := b.length_eq
  rw [sameMembers_iff, names]
  rw [names] at left
  constructor
  · rintro ⟨lengths, -⟩
    omega
  · intro often
    exact ⟨by omega, Finset.Subset.refl _⟩

theorem sameMembers_trans (first : a.sameMembers b = true) (second : b.sameMembers c = true) :
    a.sameMembers c = true := by
  obtain ⟨lengths, included⟩ := sameMembers_iff.1 first
  obtain ⟨lengths', included'⟩ := sameMembers_iff.1 second
  exact sameMembers_iff.2 ⟨lengths.trans lengths', included'.trans included⟩

/-- Enums that are taken for one in one order are so in the other one if they repeat names equally
often. -/
theorem sameMembers_symm_iff (same : a.sameMembers b = true) :
    b.sameMembers a = true ↔ a.repeated = b.repeated := by
  constructor
  · intro reverse
    obtain ⟨-, included⟩ := sameMembers_iff.1 same
    obtain ⟨-, included'⟩ := sameMembers_iff.1 reverse
    exact (nameSet_eq_iff same).1 (included'.antisymm included)
  · intro often
    exact (sameMembers_of_nameSet_eq ((nameSet_eq_iff same).2 often).symm).2 often.symm

end EnumType

/-- Two enums that repeat names equally often are taken for one exactly if the sets of their names
are the same; of enums that do not, at most one of the two is true. What is taken for one in one
order is so in the other order too exactly if names are repeated equally often. Being taken for one
is transitive, and enums of texts repeat no name. -/
theorem sameMembers_exact (a b : EnumType) :
    (a.repeated = b.repeated → (a.sameMembers b = true ↔ a.nameSet = b.nameSet)) ∧
    (a.repeated ≠ b.repeated → ¬ (a.sameMembers b = true ∧ a.nameSet = b.nameSet)) ∧
    (a.sameMembers b = true → (b.sameMembers a = true ↔ a.repeated = b.repeated)) ∧
    (∀ c, a.sameMembers b = true → b.sameMembers c = true → a.sameMembers c = true) ∧
    ∀ name schema, EnumSearch.ofSchema? name schema = some a → a.base = .string →
      a.repeated = 0 := by
  refine ⟨fun often => ⟨fun same => ?_, fun names => ?_⟩, ?_, ?_, ?_, ?_⟩
  · exact (EnumType.nameSet_eq_iff same).2 often
  · exact (EnumType.sameMembers_of_nameSet_eq names).2 often
  · rintro differ ⟨same, names⟩
    exact differ ((EnumType.nameSet_eq_iff same).1 names)
  · exact EnumType.sameMembers_symm_iff
  · exact fun c => EnumType.sameMembers_trans
  · intro name schema made texts
    exact EnumType.repeated_eq_zero_of_nodup (EnumSearch.nodup_names_of_string made texts)

/-! ## Enums of two schemas -/

/-- The same sizes in another order are taken for each other, as neither repeats a name. -/
theorem reorderedSizes_same :
    let sizes : EnumType :=
      ⟨none, .string, [⟨"Small", .string "small"⟩, ⟨"Big", .string "big"⟩]⟩
    let reordered : EnumType :=
      ⟨none, .string, [⟨"Big", .string "big"⟩, ⟨"Small", .string "small"⟩]⟩
    EnumSearch.ofSchema? "Size" (enumOf .string [.string "small", .string "big"]) = some sizes ∧
      EnumSearch.ofSchema? "Size" (enumOf .string [.string "big", .string "small"]) =
        some reordered ∧
      sizes.sameMembers reordered = true ∧ sizes.nameSet = reordered.nameSet ∧
      reordered.sameMembers sizes = true ∧ sizes.sameMembers sizes = true := by
  intro sizes reordered
  have made : EnumSearch.ofSchema? "Size" (enumOf .string [.string "small", .string "big"]) =
      some sizes := rfl
  have made' : EnumSearch.ofSchema? "Size" (enumOf .string [.string "big", .string "small"]) =
      some reordered := rfl
  obtain ⟨sameNames, -, reversed, transitive, plain⟩ := sameMembers_exact sizes reordered
  obtain ⟨-, -, -, -, plain'⟩ := sameMembers_exact reordered sizes
  have often : sizes.repeated = reordered.repeated :=
    (plain _ _ made rfl).trans (plain' _ _ made' rfl).symm
  have same : sizes.sameMembers reordered = true := rfl
  have reverse : reordered.sameMembers sizes = true := (reversed same).2 often
  exact ⟨made, made', same, (sameNames often).1 same, reverse, transitive _ same reverse⟩

/-- Of two levels, the first has the names `1` and `2` and the second has `1` twice. The second is
taken for the first, though it has not the same names, and the first is not taken for the second. -/
theorem repeatedInteger_confused :
    let levels := enumOf .integer [.number (.integer 1), .number (.integer 2)]
    let repeating := enumOf .integer [.number (.integer 1), .number (.integer 1)]
    ∃ a b, EnumSearch.ofSchema? "Level" levels = some a ∧
      EnumSearch.ofSchema? "Level" repeating = some b ∧ a.sameMembers b = true ∧
      a.nameSet ≠ b.nameSet ∧ b.sameMembers a = false ∧
      (findEnum "Level" repeating).run.run (afterEnum "Level" levels) =
        (.ok (some ⟨.named "pkg:m:Level", false⟩), afterEnum "Level" levels) :=
  ⟨_, _, rfl, rfl, rfl, by decide, rfl, rfl⟩

end ResourceInference
