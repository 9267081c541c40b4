import ResourceInference.Proofs.NormalForms

/-!
# Variables of a template

Normalising a path template changes nothing but the names of its variables. If these are distinct,
one table of new names says all of it: every segment that is a variable becomes the variable of the
new name, in its place, and every other segment stays (`PathTemplate.renameSegments_eq_map`). So the
segments of the normal form, and its variables, are those of the template under new names
(`PathTemplate.split_normalForm_eq_map`, `PathTemplate.variableNames_normalForm`). Distinctness is
needed: of two variables with one name, the table knows one new name only.

Without it, the segments are read one by one: the last one becomes `id`, if it is out of place
(`PathTemplate.renameSegments_singleton`), and an `id` in front of others is named after the segment
before it (`PathTemplate.renameSegments_front`).
-/

set_option autoImplicit false

namespace ResourceInference

namespace PathTemplate

/-! ## Variables of a template -/

/-- The variables of a path template, in their order. -/
def variableNames (path : String) : List String := (Text.split '/' path).filterMap variableName?

theorem variableName?_eq_some {segment name : String} :
    variableName? segment = some name ↔ segment = variableSegment name := by
  constructor
  · intro isVariable
    unfold variableName? at isVariable
    split at isVariable
    · rename_i rest chars
      split at isVariable
      · rename_i reversed backwards
        have inside : rest = reversed.reverse ++ ['\x7d'] := by
          rw [← List.reverse_reverse rest, backwards, List.reverse_cons]
        cases isVariable
        apply String.toList_injective
        simp [chars, inside, variableSegment]
      · cases isVariable
    · cases isVariable
  · rintro rfl
    simp [variableName?, variableSegment]

variable {parent : Option String} {segments : List String}

theorem variableName?_variableSegment (name : String) :
    variableName? (variableSegment name) = some name := variableName?_eq_some.2 rfl

theorem mem_variableNames {path name : String} :
    name ∈ variableNames path ↔ variableSegment name ∈ Text.split '/' path := by
  simp only [variableNames, List.mem_filterMap, variableName?_eq_some, exists_eq_right]

theorem variableSegment_injective : Function.Injective variableSegment := by
  intro name other same
  have names := congrArg variableName? same
  rw [variableName?_variableSegment, variableName?_variableSegment] at names
  exact Option.some.inj names

/-- The first segment is a variable that gets a new name, or it stays and there is none for it. -/
theorem renameSegments_cons (parent : Option String) (segment : String) (rest : List String) :
    (∃ name new, variableName? segment = some name ∧
      newName? parent rest.isEmpty name = some new ∧
        renameSegments parent (segment :: rest) =
          (variableSegment new :: (renameSegments (some (variableSegment new)) rest).1,
            (name, new) :: (renameSegments (some (variableSegment new)) rest).2)) ∨
    (∀ name, variableName? segment = some name → newName? parent rest.isEmpty name = none) ∧
      renameSegments parent (segment :: rest) =
        (segment :: (renameSegments (some segment) rest).1,
          (renameSegments (some segment) rest).2) := by
  rw [renameSegments]
  cases isVariable : variableName? segment with
  | none => exact .inr ⟨by simp, rfl⟩
  | some name =>
      cases renames : newName? parent rest.isEmpty name with
      | none =>
          right
          simp [renames]
      | some new =>
          left
          exact ⟨name, new, rfl, renames, by simp [renames]⟩

/-- Only variables of the segments are renamed, each one at its place. -/
theorem renamings_sublist : ∀ {parent : Option String},
    ((renameSegments parent segments).2.map Prod.fst).Sublist
      (segments.filterMap variableName?) := by
  induction segments with
  | nil => exact .slnil
  | cons segment rest ih =>
      intro parent
      rcases renameSegments_cons parent segment rest with
        ⟨name, new, isVariable, -, same⟩ | ⟨-, same⟩
      · rw [same, List.filterMap_cons_some isVariable]
        exact ih.cons_cons name
      · rw [same]
        exact ih.trans ((List.sublist_cons_self segment rest).filterMap variableName?)

/-! ### Names at their place -/

section

variable {isLast : Bool} {name new : String}

/-- At the last place a variable that speaks of an id is called `id`, and at no other place a
variable is. -/
def InPlace (isLast : Bool) (name : String) : Prop :=
  if isLast then mentionsId name = true → name = "id" else name ≠ "id"

/-- A variable gets a new name exactly if its name is out of place. -/
theorem newName?_eq_none_iff : newName? parent isLast name = none ↔ InPlace isLast name := by
  unfold newName? InPlace
  cases isLast with
  | true =>
      simp only [if_true, ite_eq_right_iff, reduceCtorEq, imp_false, not_and]
      exact ⟨fun h mentions => Decidable.not_not.1 fun ne => h ne mentions, fun h ne => ne ∘ h⟩
  | false => simp

/-- The name ends with `_id`, which is longer than `id`, or with `Id`. -/
theorem parentIdName_ne_id (parent : String) : parentIdName parent ≠ "id" := by
  intro same
  have chars := congrArg String.toList same
  unfold parentIdName at chars
  dsimp only at chars
  rw [String.toList_append, String.toList_ofList] at chars
  split at chars
  · have lengths := congrArg List.length chars
    simp at lengths
  · have ends : ['I', 'd'] = ['i', 'd'] :=
      List.append_inj_right' (chars.trans (List.nil_append _).symm) rfl
    cases ends

/-- A new name is in place. -/
theorem newName?_inPlace (renames : newName? parent isLast name = some new) :
    InPlace isLast new := by
  unfold newName? at renames
  unfold InPlace
  split at renames
  · rename_i last
    split at renames
    · cases renames
      simp [last]
    · cases renames
  · rename_i notLast
    split at renames
    · cases renames
      simpa [notLast] using parentIdName_ne_id _
    · cases renames

theorem newName?_front :
    newName? parent false name = some new ↔ name = "id" ∧ new = parentIdName (parent.getD "") := by
  simp [newName?, eq_comm]

theorem newName?_last :
    newName? parent true name = some new ↔ ¬ InPlace true name ∧ new = "id" := by
  by_cases inPlace : InPlace true name
  · simp [newName?_eq_none_iff.2 inPlace, inPlace]
  · have outOfPlace := inPlace
    simp only [InPlace, if_true, Classical.not_imp] at outOfPlace
    simp [newName?, outOfPlace, inPlace, eq_comm]

/-- A new name is another name, since the old one is out of place. -/
theorem newName?_ne (renames : newName? parent isLast name = some new) : new ≠ name := by
  rintro rfl
  rw [newName?_eq_none_iff.2 (newName?_inPlace renames)] at renames
  cases renames

end

/-- The last segment becomes the variable `id`, if it is a variable that is out of place. -/
theorem renameSegments_singleton (parent : Option String) (segment : String) :
    (∃ name, segment = variableSegment name ∧ ¬ InPlace true name ∧
      renameSegments parent [segment] = ([variableSegment "id"], [(name, "id")])) ∨
    (∀ name, segment = variableSegment name → InPlace true name) ∧
      renameSegments parent [segment] = ([segment], []) := by
  rcases renameSegments_cons parent segment [] with ⟨name, new, isVariable, renames, same⟩ |
    ⟨stays, same⟩
  · obtain ⟨outOfPlace, rfl⟩ := newName?_last.1 renames
    exact .inl ⟨name, variableName?_eq_some.1 isVariable, outOfPlace, same⟩
  · refine .inr ⟨fun name isVariable => newName?_eq_none_iff.1 (stays name ?_), same⟩
    exact variableName?_eq_some.2 isVariable

/-- In front of other segments, the variable `id` is named after its parent, and all else stays. -/
theorem renameSegments_front (parent : Option String) (segment next : String)
    (rest : List String) :
    (segment = variableSegment "id" ∧
      let renamed := variableSegment (parentIdName (parent.getD ""))
      renameSegments parent (segment :: next :: rest) =
        (renamed :: (renameSegments (some renamed) (next :: rest)).1,
          ("id", parentIdName (parent.getD "")) ::
            (renameSegments (some renamed) (next :: rest)).2)) ∨
    segment ≠ variableSegment "id" ∧
      renameSegments parent (segment :: next :: rest) =
        (segment :: (renameSegments (some segment) (next :: rest)).1,
          (renameSegments (some segment) (next :: rest)).2) := by
  rcases renameSegments_cons parent segment (next :: rest) with
    ⟨name, new, isVariable, renames, same⟩ | ⟨stays, same⟩
  · obtain ⟨rfl, rfl⟩ := newName?_front.1 renames
    exact .inl ⟨variableName?_eq_some.1 isVariable, same⟩
  · refine .inr ⟨fun isId => ?_, same⟩
    exact newName?_eq_none_iff.1 (stays "id" (variableName?_eq_some.2 isId)) rfl

/-! ### Parents of ids -/

/-- A segment right in front of a variable `id` that is not the last one of some segments. `start`
stands in front of all of them. -/
def IsIdParent (start : String) (segments : List String) (parent : String) : Prop :=
  [parent, variableSegment "id"] <:+: start :: segments.dropLast

theorem not_isIdParent_singleton {start segment parent : String} :
    ¬ IsIdParent start [segment] parent := by
  simp [IsIdParent, List.infix_cons_iff]

theorem isIdParent_cons {start segment next parent : String} {rest : List String} :
    IsIdParent start (segment :: next :: rest) parent ↔
      parent = start ∧ segment = variableSegment "id" ∨
        IsIdParent segment (next :: rest) parent := by
  rw [IsIdParent, IsIdParent, List.dropLast_cons_cons, List.infix_cons_iff, List.cons_prefix_cons,
    List.cons_prefix_cons, eq_comm (a := variableSegment "id")]
  simp

/-- A parent of an `id` has an `id` behind it. -/
theorem IsIdParent.mem {start parent : String} (h : IsIdParent start segments parent) :
    variableSegment "id" ∈ segments.dropLast := by
  rcases List.infix_cons_iff.1 h with first | later
  · exact (List.cons_prefix_cons.1 first).2.subset List.mem_cons_self
  · exact later.subset (List.mem_cons_of_mem _ List.mem_cons_self)

/-! ### New names -/

/-- The new name of a variable, or its own if the table has none. -/
def newName (table : List (String × String)) (name : String) : String :=
  (table.lookup name).getD name

section

variable {renamings : List (String × String)} {old other new : String}

theorem newName_cons_self : newName ((old, new) :: renamings) old = new := by
  simp [newName]

theorem newName_cons_of_ne (ne : other ≠ old) :
    newName ((old, new) :: renamings) other = newName renamings other := by
  have differ : (other == old) = false := by simpa using ne
  simp [newName, List.lookup_cons, differ]

/-- Renamings of distinct names go into the table as they are. -/
theorem lookup_renamingTable (distinct : (renamings.map Prod.fst).Nodup) (name : String) :
    (renamingTable renamings).lookup name = renamings.lookup name := by
  have lookups : ∀ table : List (String × String),
      (renamings.foldl (fun table entry => putEntry entry.1 entry.2 table) table).lookup name =
        (renamings.lookup name).or (table.lookup name) := by
    induction renamings with
    | nil => simp
    | cons entry rest ih =>
        intro table
        obtain ⟨first, renamed⟩ := entry
        obtain ⟨notLater, distinct⟩ := List.nodup_cons.1 distinct
        rw [List.foldl_cons, ih distinct]
        by_cases same : name = first
        · subst same
          simp [lookup_of_not_mem notLater, lookup_putEntry_self]
        · have differ : (name == first) = false := by simpa using same
          simp [lookup_putEntry_of_ne same, List.lookup_cons, differ]
  rw [renamingTable, lookups]
  simp

end

theorem newName_of_not_mem {renamings : List (String × String)} {name : String}
    (notRenamed : name ∉ renamings.map Prod.fst) : newName renamings name = name := by
  simp [newName, lookup_of_not_mem notRenamed]

/-! ### Renamed segments -/

/-- A segment with its variable, if it is one, under a new name. -/
def renameSegment (rename : String → String) (segment : String) : String :=
  match variableName? segment with
  | some name => variableSegment (rename name)
  | none => segment

section

variable {rename other : String → String} {segment name : String}

theorem renameSegment_of_some (isVariable : variableName? segment = some name) :
    renameSegment rename segment = variableSegment (rename name) := by
  simp [renameSegment, isVariable]

theorem renameSegment_of_none (isText : variableName? segment = none) :
    renameSegment rename segment = segment := by
  simp [renameSegment, isText]

theorem variableName?_renameSegment :
    variableName? (renameSegment rename segment) = (variableName? segment).map rename := by
  cases isVariable : variableName? segment with
  | none => rw [renameSegment_of_none isVariable, isVariable, Option.map_none]
  | some name =>
      rw [renameSegment_of_some isVariable, variableName?_variableSegment, Option.map_some]

theorem renameSegment_congr
    (same : ∀ name, variableName? segment = some name → rename name = other name) :
    renameSegment rename segment = renameSegment other segment := by
  cases isVariable : variableName? segment with
  | none => rw [renameSegment_of_none isVariable, renameSegment_of_none isVariable]
  | some name =>
      rw [renameSegment_of_some isVariable, renameSegment_of_some isVariable, same name isVariable]

end

/-- If the variables are distinct, every segment is renamed by the renamings of all segments. -/
theorem renameSegments_eq_map : ∀ {parent : Option String},
    (segments.filterMap variableName?).Nodup →
      (renameSegments parent segments).1 =
        segments.map (renameSegment (newName (renameSegments parent segments).2)) := by
  induction segments with
  | nil => exact fun _ => rfl
  | cons segment rest ih =>
      intro parent distinct
      have restDistinct : (rest.filterMap variableName?).Nodup :=
        distinct.sublist ((List.sublist_cons_self segment rest).filterMap variableName?)
      rcases renameSegments_cons parent segment rest with
        ⟨old, new, isVariable, -, same⟩ | ⟨-, same⟩
      · rw [List.filterMap_cons_some isVariable] at distinct
        rw [same, List.map_cons, renameSegment_of_some isVariable, newName_cons_self,
          ih restDistinct]
        refine congrArg (variableSegment new :: ·) (List.map_congr_left fun later member => ?_)
        -- The variables behind the first one have other names, so its entry is not for them.
        refine renameSegment_congr fun other isOther => (newName_cons_of_ne ?_).symm
        rintro rfl
        exact (List.nodup_cons.1 distinct).1 (List.mem_filterMap.2 ⟨later, member, isOther⟩)
      · rw [same, List.map_cons, ih restDistinct]
        refine congrArg (· :: _) ?_
        cases isVariable : variableName? segment with
        | none => rw [renameSegment_of_none isVariable]
        | some name =>
            rw [List.filterMap_cons_some isVariable] at distinct
            have notRenamed : name ∉ (renameSegments (some segment) rest).2.map Prod.fst :=
              fun renamed => (List.nodup_cons.1 distinct).1 (renamings_sublist.subset renamed)
            rw [renameSegment_of_some isVariable, newName_of_not_mem notRenamed]
            exact variableName?_eq_some.1 isVariable

/-! ### Joined segments -/

theorem parentIdName_free {parent : String} (free : '/' ∉ parent.toList) :
    '/' ∉ (parentIdName parent).toList := by
  intro member
  unfold parentIdName at member
  dsimp only at member
  rw [String.toList_append, String.toList_ofList] at member
  rcases List.mem_append.1 member with inStem | inEnd
  · exact free (Text.mem_of_mem_trimBoth inStem)
  · split at inEnd <;> simp at inEnd

theorem newName?_free {isLast : Bool} {name new : String}
    (free : ∀ segment, parent = some segment → '/' ∉ segment.toList)
    (renames : newName? parent isLast name = some new) : '/' ∉ new.toList := by
  unfold newName? at renames
  split at renames
  · split at renames
    · cases renames
      simp
    · cases renames
  · split at renames
    · obtain rfl := Option.some.inj renames
      apply parentIdName_free
      cases parent with
      | none => simp
      | some segment => exact free segment rfl
    · cases renames

/-- No new name brings in a separator. -/
theorem renameSegments_free : ∀ {parent : Option String},
    (∀ segment, parent = some segment → '/' ∉ segment.toList) →
      (∀ segment ∈ segments, '/' ∉ segment.toList) →
        ∀ segment ∈ (renameSegments parent segments).1, '/' ∉ segment.toList := by
  induction segments with
  | nil =>
      intro parent _ _ segment member
      cases member
  | cons first rest ih =>
      intro parent freeParent free segment member
      have freeRest : ∀ segment ∈ rest, '/' ∉ segment.toList :=
        fun segment member => free segment (List.mem_cons_of_mem _ member)
      -- The first segment is the parent of those behind it, under its new name.
      have next : ∀ renamed : String, '/' ∉ renamed.toList →
          segment ∈ renamed :: (renameSegments (some renamed) rest).1 → '/' ∉ segment.toList := by
        intro renamed freeRenamed member
        rcases List.mem_cons.1 member with rfl | later
        · exact freeRenamed
        · refine ih ?_ freeRest segment later
          rintro _ ⟨⟩
          exact freeRenamed
      rcases renameSegments_cons parent first rest with ⟨name, new, -, renames, same⟩ | ⟨-, same⟩
      · rw [same] at member
        refine next _ ?_ member
        have freeNew := newName?_free freeParent renames
        simp [variableSegment, freeNew]
      · rw [same] at member
        exact next _ (free first List.mem_cons_self) member

/-- Every renaming gives another name. -/
theorem ne_of_mem_renamings : ∀ {parent : Option String} {old new : String},
    (old, new) ∈ (renameSegments parent segments).2 → new ≠ old := by
  induction segments with
  | nil =>
      intro parent old new member
      cases member
  | cons segment rest ih =>
      intro parent old new member
      rcases renameSegments_cons parent segment rest with ⟨_, _, -, renames, same⟩ | ⟨-, same⟩
      · rw [same] at member
        rcases List.mem_cons.1 member with first | later
        · cases first
          exact newName?_ne renames
        · exact ih later
      · rw [same] at member
        exact ih member

theorem renameSegments_ne_nil (nonempty : segments ≠ []) :
    (renameSegments parent segments).1 ≠ [] := by
  cases segments with
  | nil => exact absurd rfl nonempty
  | cons first rest =>
      rcases renameSegments_cons parent first rest with ⟨_, _, -, -, same⟩ | ⟨-, same⟩ <;>
        simp [same]

/-- The segments of the normal form are the renamed segments of the path. -/
theorem split_normalForm (path : String) :
    Text.split '/' (normalForm path) = (renameSegments none (Text.split '/' path)).1 := by
  refine Text.split_join (renameSegments_ne_nil (Text.split_ne_nil '/' path)) ?_
  refine renameSegments_free (by simp) fun segment => ?_
  exact Text.not_mem_of_mem_split

/-- The table of new names that the parameters of a path are renamed by. -/
def renamings (path : String) : List (String × String) :=
  renamingTable (renameSegments none (Text.split '/' path)).2

theorem lookup_renamings {path : String} (distinct : (variableNames path).Nodup) (name : String) :
    (renamings path).lookup name = (renameSegments none (Text.split '/' path)).2.lookup name :=
  lookup_renamingTable (renamings_sublist.nodup distinct) name

/-- The segments of the normal form are those of the path under new names. -/
theorem split_normalForm_eq_map {path : String} (distinct : (variableNames path).Nodup) :
    Text.split '/' (normalForm path) =
      (Text.split '/' path).map (renameSegment (newName (renamings path))) := by
  have table : newName (renamings path) = newName (renameSegments none (Text.split '/' path)).2 :=
    funext fun name => congrArg (Option.getD · name) (lookup_renamings distinct name)
  rw [split_normalForm, renameSegments_eq_map distinct, table]

/-- The variables of the normal form are the new names of the variables of the path. -/
theorem variableNames_normalForm {path : String} (distinct : (variableNames path).Nodup) :
    variableNames (normalForm path) =
      (variableNames path).map (newName (renamings path)) := by
  rw [variableNames, split_normalForm_eq_map distinct, List.filterMap_map, variableNames,
    List.map_filterMap]
  exact congrArg (List.filterMap · _) (funext fun segment => variableName?_renameSegment)

end PathTemplate

end ResourceInference
