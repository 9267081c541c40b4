import Mathlib.Data.List.Forall2
import ResourceInference.Proofs.Runs
import ResourceInference.Proofs.TemplateVariables

/-!
# Paths in normal form

A path is in normal form if its last variable is called `id` when it speaks of an id, and no other
variable is called `id` (`PathTemplate.IsNormal`). Normalising leads there, since no new name is out
of place itself: what is made of the `id` of a parent never is `id` again, whatever the segment of
the parent is (`PathTemplate.parentIdName_ne_id`). And a path in normal form stays as it is, with
its item. So normalising a second time changes nothing (`PathTemplate.normalize_normalize`).
-/

set_option autoImplicit false

namespace ResourceInference.PathTemplate

variable {parent : Option String} {isLast : Bool} {name new : String} {segments : List String}

/-! ## Segments -/

/-- The name of every variable is in place. -/
inductive IsNormal : List String → Prop where
  | nil : IsNormal []
  | cons {segment : String} {rest : List String}
      (first : ∀ name, variableName? segment = some name → InPlace rest.isEmpty name)
      (later : IsNormal rest) : IsNormal (segment :: rest)

namespace IsNormal

/-- No segment in front of the last one is the variable `id`. -/
theorem ne_id (h : IsNormal segments) :
    ∀ segment ∈ segments.dropLast, segment ≠ variableSegment "id" := by
  induction h with
  | nil => simp
  | @cons segment rest first later ih =>
      cases rest with
      | nil => simp
      | cons next rest =>
          rw [List.dropLast_cons_cons]
          refine List.forall_mem_cons.2 ⟨?_, ih⟩
          rintro rfl
          exact first "id" (variableName?_variableSegment "id") rfl

/-- A variable that is the last segment and speaks of an id is called `id`. -/
theorem last_eq_id (h : IsNormal segments)
    (isLast : segments.getLast? = some (variableSegment name)) (mentions : mentionsId name = true) :
    name = "id" := by
  induction h with
  | nil => cases isLast
  | @cons segment rest first later ih =>
      cases rest with
      | nil =>
          obtain rfl : segment = variableSegment name := by simpa using isLast
          exact first name (variableName?_variableSegment name) mentions
      | cons next rest => exact ih (by simpa using isLast)

/-- Nothing is renamed. -/
theorem renameSegments_eq (h : IsNormal segments) :
    ∀ parent, renameSegments parent segments = (segments, []) := by
  induction h with
  | nil => exact fun _ => rfl
  | @cons segment rest first later ih =>
      intro parent
      rcases renameSegments_cons parent segment rest with
        ⟨name, new, isVariable, renames, -⟩ | ⟨-, same⟩
      · rw [newName?_eq_none_iff.2 (first name isVariable)] at renames
        cases renames
      · rw [same, ih]

end IsNormal

theorem isEmpty_renameSegments : (renameSegments parent segments).1.isEmpty = segments.isEmpty := by
  cases segments with
  | nil => rfl
  | cons first rest =>
      rcases renameSegments_cons parent first rest with ⟨_, _, -, -, same⟩ | ⟨-, same⟩ <;>
        simp [same]

/-- Renamed segments are in normal form: by induction on the segments, whatever their parent is. -/
theorem renameSegments_isNormal : ∀ parent, IsNormal (renameSegments parent segments).1 := by
  induction segments with
  | nil => exact fun _ => .nil
  | cons segment rest ih =>
      intro parent
      rcases renameSegments_cons parent segment rest with
        ⟨name, new, -, renames, same⟩ | ⟨stays, same⟩
      · rw [same]
        refine .cons ?_ (ih _)
        rw [isEmpty_renameSegments, variableName?_variableSegment]
        rintro _ ⟨⟩
        exact newName?_inPlace renames
      · rw [same]
        refine .cons (fun name isVariable => ?_) (ih _)
        rw [isEmpty_renameSegments]
        exact newName?_eq_none_iff.1 (stays name isVariable)

/-- The segment stays, or it is a variable and becomes another one. -/
def SegmentRenamed (segment renamed : String) : Prop :=
  renamed = segment ∨ ∃ name new, segment = variableSegment name ∧ renamed = variableSegment new

/-- Every segment keeps its place, and only variables are renamed. -/
theorem renameSegments_renamed : ∀ parent,
    List.Forall₂ SegmentRenamed segments (renameSegments parent segments).1 := by
  induction segments with
  | nil => exact fun _ => .nil
  | cons segment rest ih =>
      intro parent
      rcases renameSegments_cons parent segment rest with
        ⟨name, new, isVariable, -, same⟩ | ⟨-, same⟩
      · rw [same]
        exact .cons (.inr ⟨name, new, variableName?_eq_some.1 isVariable, rfl⟩) (ih _)
      · rw [same]
        exact .cons (.inl rfl) (ih _)

/-! ## Paths -/

/-- A path in normal form stays as it is, and so does its item. -/
theorem normalize_of_isNormal {path : String} (h : IsNormal (Text.split '/' path)) (d : Document)
    (item : PathItem) : normalize d path item = (.ok path, item) := by
  simp [normalize, h.renameSegments_eq]

/-- A normalised path has as many segments as the path, and differs from it in variables only. None
of them but the last is the variable `id`, and the last is, if it is a variable that speaks of an
id. When it is normalised again, path and item stay as they are, whatever the references of the
parameters lead to. -/
theorem normalize_normalize {d : Document} {path normalized : String} {item changed : PathItem}
    (h : normalize d path item = (.ok normalized, changed)) :
    List.Forall₂ SegmentRenamed (Text.split '/' path) (Text.split '/' normalized) ∧
      (∀ segment ∈ (Text.split '/' normalized).dropLast, segment ≠ variableSegment "id") ∧
      (∀ name, (Text.split '/' normalized).getLast? = some (variableSegment name) →
        mentionsId name = true → name = "id") ∧
      ∀ d', normalize d' normalized changed = (.ok normalized, changed) := by
  have segments : Text.split '/' normalized = (renameSegments none (Text.split '/' path)).1 := by
    rw [normalize_path h, split_normalForm]
  have isNormal : IsNormal (Text.split '/' normalized) :=
    segments ▸ renameSegments_isNormal none
  refine ⟨?_, isNormal.ne_id, fun name => isNormal.last_eq_id, fun d' => ?_⟩
  · exact segments ▸ renameSegments_renamed none
  · exact normalize_of_isNormal isNormal d' changed

/-- The keys of a user: the id of the user is named after its place, and the one of the key is
called `id`. Their parameters are renamed with them. -/
theorem usersKeys_normalize :
    let path := "/users/\x7bid\x7d/keys/\x7bkey_id\x7d"
    let normalized := "/users/\x7busersId\x7d/keys/\x7bid\x7d"
    let changed : PathItem := { parameters := [.inPath "usersId", .inPath "id"] }
    normalize (.having [] []) path { parameters := [.inPath "id", .inPath "key_id"] } =
        (.ok normalized, changed) ∧
      normalize (.having [] []) normalized changed = (.ok normalized, changed) := by
  intro path normalized changed
  have renamed : renameSegments none (Text.split '/' path) =
      (["", "users", "\x7busersId\x7d", "keys", "\x7bid\x7d"],
        [("id", "usersId"), ("key_id", "id")]) := by decide +kernel
  have h : normalize (.having [] []) path { parameters := [.inPath "id", .inPath "key_id"] } =
      (.ok normalized, changed) := by
    simp only [normalize, renamed]
    rfl
  exact ⟨h, (normalize_normalize h).2.2.2 _⟩

end ResourceInference.PathTemplate
