import Mathlib.Data.List.Nodup
import ResourceInference.Proofs.Runs
import ResourceInference.Proofs.TemplateVariables

/-!
# Variables that clash

The `id` of a parent is named after the segment in front of it, whatever the other variables of the
path are called. So two variables may come to share a name, though they had different names before.
This happens in one way only: the new name of an `id` is the name of another variable in front of
the last segment (`PathTemplate.normalize_nodup_iff`). The last segment is out of danger, since what
an `id` is named speaks of an id, and a last variable that does so is called `id` itself
(`PathTemplate.mentionsId_parentIdName`).
-/

set_option autoImplicit false

namespace ResourceInference

/-- The lower case of the end of a text ends the lower case of the text. -/
theorem Text.lowerAfter_append (before cs ds : List Char) :
    ∃ front, lowerAfter before (cs ++ ds) = front ++ lowerAfter (cs.reverse ++ before) ds := by
  induction cs generalizing before with
  | nil => exact ⟨[], rfl⟩
  | cons c rest ih =>
      obtain ⟨front, later⟩ := ih (c :: before)
      have behind : (c :: rest).reverse ++ before = rest.reverse ++ c :: before := by simp
      rw [List.cons_append, lowerAfter, later, behind, ← List.append_assoc]
      exact ⟨_, rfl⟩

namespace PathTemplate

variable {segments : List String} {name old new : String}

/-! ## Where variables get new names -/

/-- What an `id` is named after its parent speaks of an id. -/
theorem mentionsId_parentIdName (parent : String) : mentionsId (parentIdName parent) = true := by
  have ends : ∃ front, (parentIdName parent).toList = front ++ ['I', 'd'] ∨
      (parentIdName parent).toList = front ++ ['i', 'd'] := by
    rw [parentIdName, String.toList_append, String.toList_ofList]
    split
    · exact ⟨Text.trimBoth isBrace parent.toList ++ ['_'], .inr (by simp)⟩
    · exact ⟨Text.trimBoth isBrace parent.toList, .inl rfl⟩
  obtain ⟨stem, chars | chars⟩ := ends
  all_goals
    obtain ⟨front, lowered⟩ := Text.lowerAfter_append [] stem _
    rw [mentionsId, Text.occursIn_iff, Text.lower, String.toList_ofList, String.toList_ofList,
      chars, lowered]
    exact (List.suffix_append front ['i', 'd']).isInfix

/-- At its place among some segments, a variable gets a new name: an `id` behind a parent the name
that its parent gives it, and the last one, if it is out of place, the name `id`. -/
def GetsName (start : String) (segments : List String) (old new : String) : Prop :=
  (old = "id" ∧ ∃ parent, IsIdParent start segments parent ∧ new = parentIdName parent) ∨
  (segments.getLast? = some (variableSegment old) ∧ ¬ InPlace true old ∧ new = "id")

namespace GetsName

variable {start segment next : String} {rest : List String}

theorem nil : ¬ GetsName start [] old new := by
  rintro (⟨-, parent, isParent, -⟩ | ⟨isLast, -⟩)
  · simpa using isParent.mem
  · cases isLast

theorem singleton : GetsName start [segment] old new ↔
    segment = variableSegment old ∧ ¬ InPlace true old ∧ new = "id" := by
  simp [GetsName, not_isIdParent_singleton]

theorem cons : GetsName start (segment :: next :: rest) old new ↔
    (segment = variableSegment "id" ∧ old = "id" ∧ new = parentIdName start) ∨
      GetsName segment (next :: rest) old new := by
  simp only [GetsName, isIdParent_cons, List.getLast?_cons_cons, or_and_right, exists_or,
    and_assoc, exists_eq_left, and_or_left, or_assoc, and_left_comm]

/-- Without an `id` in front of the last segment, it does not matter what stands in front. -/
theorem congr (noId : variableSegment "id" ∉ segments) (start other : String) :
    GetsName start segments old new ↔ GetsName other segments old new := by
  have noParent : ∀ start parent, ¬ IsIdParent start segments parent :=
    fun _ _ isParent => noId ((List.dropLast_sublist segments).subset isParent.mem)
  simp [GetsName, noParent]

end GetsName

/-- If the variables are distinct, the renamings of some segments say which of them get new names at
their places. -/
theorem mem_renamings_iff : ∀ {parent : Option String},
    (segments.filterMap variableName?).Nodup →
      ((old, new) ∈ (renameSegments parent segments).2 ↔
        GetsName (parent.getD "") segments old new) := by
  induction segments with
  | nil =>
      intro parent _
      simp [renameSegments, GetsName.nil]
  | cons segment rest ih =>
      intro parent distinct
      cases rest with
      | nil =>
          rw [GetsName.singleton]
          rcases renameSegments_singleton parent segment with
            ⟨name, rfl, outOfPlace, same⟩ | ⟨inPlace, same⟩
          · rw [same, List.mem_singleton, Prod.mk.injEq, variableSegment_injective.eq_iff]
            constructor
            · rintro ⟨rfl, rfl⟩
              exact ⟨rfl, outOfPlace, rfl⟩
            · rintro ⟨rfl, -, rfl⟩
              exact ⟨rfl, rfl⟩
          · rw [same]
            refine iff_of_false List.not_mem_nil ?_
            rintro ⟨isVariable, outOfPlace, -⟩
            exact outOfPlace (inPlace old isVariable)
      | cons next rest =>
          have restDistinct : ((next :: rest).filterMap variableName?).Nodup :=
            distinct.sublist ((List.sublist_cons_self segment _).filterMap variableName?)
          rcases renameSegments_front parent segment next rest with ⟨rfl, same⟩ | ⟨notId, same⟩
          · -- No other `id` follows, so none is named after the renamed segment.
            have noId : variableSegment "id" ∉ next :: rest := by
              intro member
              rw [List.filterMap_cons_some (variableName?_variableSegment "id")] at distinct
              exact (List.nodup_cons.1 distinct).1
                (List.mem_filterMap.2 ⟨_, member, variableName?_variableSegment "id"⟩)
            rw [same, List.mem_cons, Prod.mk.injEq, ih restDistinct, GetsName.cons,
              GetsName.congr noId _ (variableSegment "id")]
            simp
          · rw [same, ih restDistinct, GetsName.cons, or_iff_right fun first => notId first.1]
            rfl

/-! ## When names clash -/

theorem mem_dropLast_or_getLast? {segment : String} (member : segment ∈ segments) :
    segment ∈ segments.dropLast ∨ segments.getLast? = some segment := by
  have nonempty : segments ≠ [] := List.ne_nil_of_mem member
  rw [← List.dropLast_concat_getLast nonempty, List.mem_append, List.mem_singleton] at member
  rw [List.getLast?_eq_some_getLast nonempty]
  exact member.imp_right fun isLast => by rw [isLast]

/-- Of distinct variables, none in front of the last segment is the last segment. -/
theorem getLast?_ne_of_mem_dropLast (distinct : (segments.filterMap variableName?).Nodup)
    (inFront : variableSegment name ∈ segments.dropLast) :
    segments.getLast? ≠ some (variableSegment name) := by
  intro isLast
  rw [← List.dropLast_append_getLast? _ isLast, List.filterMap_append] at distinct
  have isVariable := variableName?_variableSegment name
  have first : name ∈ segments.dropLast.filterMap variableName? :=
    List.mem_filterMap.2 ⟨_, inFront, isVariable⟩
  have last : name ∈ [variableSegment name].filterMap variableName? :=
    List.mem_filterMap.2 ⟨_, List.mem_cons_self, isVariable⟩
  exact (List.nodup_append.1 distinct).2.2 name first name last rfl

/-- Every `id` in front of the last segment has a parent. -/
theorem exists_isIdParent (start : String) (inFront : variableSegment "id" ∈ segments.dropLast) :
    ∃ parent, IsIdParent start segments parent := by
  unfold IsIdParent
  generalize segments.dropLast = front at inFront ⊢
  induction front generalizing start with
  | nil => cases inFront
  | cons first rest ih =>
      rcases List.mem_cons.1 inFront with rfl | later
      · exact ⟨start, [], rest, rfl⟩
      · obtain ⟨parent, isParent⟩ := ih first later
        exact ⟨parent, isParent.trans (List.suffix_cons start _).isInfix⟩

section

variable {path : String}

/-- Among the variables of a path, the `id` behind a parent takes the name of another one. -/
def NamesClash (path : String) : Prop :=
  ∃ parent, IsIdParent "" (Text.split '/' path) parent ∧
    variableSegment (parentIdName parent) ∈ (Text.split '/' path).dropLast

theorem lookup_renamings_iff (distinct : (variableNames path).Nodup) :
    (renamings path).lookup old = some new ↔ GetsName "" (Text.split '/' path) old new := by
  have renames : (old, new) ∈ (renameSegments none (Text.split '/' path)).2 ↔
      GetsName "" (Text.split '/' path) old new := mem_renamings_iff distinct
  rw [lookup_renamings distinct, ← renames]
  exact ⟨mem_of_lookup, lookup_of_mem (renamings_sublist.nodup distinct)⟩

/-- Without a clash, what gets the name of another variable gets it from one that gives it up. -/
theorem GetsName.givenUp (apart : ¬ NamesClash path) {other : String}
    (gets : GetsName "" (Text.split '/' path) name other) (member : other ∈ variableNames path) :
    ∃ next, GetsName "" (Text.split '/' path) other next := by
  have isSegment := mem_dropLast_or_getLast? (mem_variableNames.1 member)
  rcases gets with ⟨rfl, parent, isParent, rfl⟩ | ⟨isLast, outOfPlace, rfl⟩
  · rcases isSegment with inFront | isLast
    · exact absurd ⟨parent, isParent, inFront⟩ apart
    · refine ⟨"id", .inr ⟨isLast, fun inPlace => ?_, rfl⟩⟩
      exact parentIdName_ne_id parent (inPlace (mentionsId_parentIdName parent))
  · rcases isSegment with inFront | isLast'
    · obtain ⟨parent, isParent⟩ := exists_isIdParent "" inFront
      exact ⟨_, .inl ⟨rfl, parent, isParent, rfl⟩⟩
    · rw [isLast] at isLast'
      obtain rfl := variableSegment_injective (Option.some.inj isLast')
      exact absurd (fun _ => rfl) outOfPlace

/-- No two variables get the same name. -/
theorem GetsName.unique {segments : List String} {other : String}
    (gets : GetsName "" segments name new) (gets' : GetsName "" segments other new) :
    name = other := by
  rcases gets with ⟨rfl, parent, -, isNew⟩ | ⟨isLast, -, isNew⟩
  · rcases gets' with ⟨rfl, -⟩ | ⟨-, -, isNew'⟩
    · rfl
    · exact absurd (isNew.symm.trans isNew') (parentIdName_ne_id parent)
  · rcases gets' with ⟨-, parent, -, isNew'⟩ | ⟨isLast', -⟩
    · exact absurd (isNew'.symm.trans isNew) (parentIdName_ne_id parent)
    · exact variableSegment_injective (Option.some.inj (isLast.symm.trans isLast'))

/-- What a variable ends up with is a name it gets, or its own name, which it does not give up. -/
theorem newName_cases (distinct : (variableNames path).Nodup) (name : String) :
    GetsName "" (Text.split '/' path) name (newName (renamings path) name) ∨
      newName (renamings path) name = name ∧
        ∀ new, ¬ GetsName "" (Text.split '/' path) name new := by
  cases found : (renamings path).lookup name with
  | none =>
      refine .inr ⟨by simp [newName, found], fun new gets => ?_⟩
      rw [(lookup_renamings_iff distinct).2 gets] at found
      cases found
  | some new =>
      left
      simpa [newName, found] using (lookup_renamings_iff distinct).1 found

/-- Without a clash, no two variables end up with the same name. -/
theorem newName_injOn (distinct : (variableNames path).Nodup) (apart : ¬ NamesClash path)
    {name other : String} (member : name ∈ variableNames path)
    (member' : other ∈ variableNames path)
    (same : newName (renamings path) name = newName (renamings path) other) : name = other := by
  rcases newName_cases distinct name with gets | ⟨own, keeps⟩ <;>
    rcases newName_cases distinct other with gets' | ⟨own', keeps'⟩
  · exact gets.unique (same ▸ gets')
  · rw [same, own'] at gets
    obtain ⟨next, givenUp⟩ := gets.givenUp apart member'
    exact absurd givenUp (keeps' next)
  · rw [← same, own] at gets'
    obtain ⟨next, givenUp⟩ := gets'.givenUp apart member
    exact absurd givenUp (keeps next)
  · exact own.symm.trans (same.trans own')

/-- Where names clash, the `id` and the other variable end up with the same name. -/
theorem NamesClash.newName_eq (distinct : (variableNames path).Nodup) (clash : NamesClash path) :
    ∃ other ∈ variableNames path, "id" ∈ variableNames path ∧ other ≠ "id" ∧
      newName (renamings path) "id" = newName (renamings path) other := by
  obtain ⟨parent, isParent, inFront⟩ := clash
  have inSegments := (List.dropLast_sublist (Text.split '/' path)).subset
  refine ⟨parentIdName parent, mem_variableNames.2 (inSegments inFront),
    mem_variableNames.2 (inSegments isParent.mem), parentIdName_ne_id parent, ?_⟩
  have found := (lookup_renamings_iff distinct).2 (.inl ⟨rfl, parent, isParent, rfl⟩)
  have kept : (renamings path).lookup (parentIdName parent) = none := by
    refine Option.eq_none_iff_forall_ne_some.2 fun new found => ?_
    rcases (lookup_renamings_iff distinct).1 found with ⟨isId, -⟩ | ⟨isLast, -⟩
    · exact parentIdName_ne_id parent isId
    · exact getLast?_ne_of_mem_dropLast distinct inFront isLast
  rw [newName, newName, found, kept]
  rfl

/-- The variables of a path stay distinct when it is normalised, exactly if no `id` is named after
its parent as another variable in front of the last segment is called. -/
theorem normalize_nodup_iff {d : Document} {normalized : String} {item changed : PathItem}
    (h : normalize d path item = (.ok normalized, changed))
    (distinct : (variableNames path).Nodup) :
    (variableNames normalized).Nodup ↔ ¬ NamesClash path := by
  rw [normalize_path h, variableNames_normalForm distinct, List.nodup_map_iff_inj_on distinct]
  constructor
  · intro injective clash
    obtain ⟨other, member, isVariable, ne, same⟩ := clash.newName_eq distinct
    exact ne (injective _ isVariable _ member same).symm
  · exact fun apart _ member _ member' => newName_injOn distinct apart member member'

/-- The user of some teams takes the name of the team, and the declarations of both are alike. -/
theorem usersTeams_clash :
    let path := "/users/\x7bid\x7d/teams/\x7busersId\x7d/members"
    let normalized := "/users/\x7busersId\x7d/teams/\x7busersId\x7d/members"
    (variableNames path).Nodup ∧
      normalize (.having [] []) path { parameters := [.inPath "id", .inPath "usersId"] } =
        (.ok normalized, { parameters := [.inPath "usersId", .inPath "usersId"] }) ∧
      ¬ (variableNames normalized).Nodup := by
  intro path normalized
  have renamed : renameSegments none (Text.split '/' path) =
      (["", "users", "\x7busersId\x7d", "teams", "\x7busersId\x7d", "members"],
        [("id", "usersId")]) := by decide +kernel
  refine ⟨by decide +kernel, ?_, by decide +kernel⟩
  simp only [normalize, renamed]
  rfl

/-- As the last segment, the variable that is called like that gives its name up. -/
theorem usersTeam_apart :
    let path := "/users/\x7bid\x7d/teams/\x7busersId\x7d"
    let normalized := "/users/\x7busersId\x7d/teams/\x7bid\x7d"
    let changed : PathItem := { parameters := [.inPath "usersId", .inPath "id"] }
    normalize (.having [] []) path { parameters := [.inPath "id", .inPath "usersId"] } =
        (.ok normalized, changed) ∧
      (variableNames path).Nodup ∧ ¬ NamesClash path ∧ (variableNames normalized).Nodup := by
  intro path normalized changed
  have renamed : renameSegments none (Text.split '/' path) =
      (["", "users", "\x7busersId\x7d", "teams", "\x7bid\x7d"],
        [("id", "usersId"), ("usersId", "id")]) := by decide +kernel
  have h : normalize (.having [] []) path { parameters := [.inPath "id", .inPath "usersId"] } =
      (.ok normalized, changed) := by
    simp only [normalize, renamed]
    rfl
  have distinct : (variableNames path).Nodup := by decide +kernel
  have segments : (Text.split '/' path).dropLast = ["", "users", "\x7bid\x7d", "teams"] := by
    decide +kernel
  have apart : ¬ NamesClash path := by
    rintro ⟨parent, isParent, inFront⟩
    rw [IsIdParent, segments] at isParent
    obtain rfl : parent = "users" := by
      simpa [List.infix_cons_iff, List.cons_prefix_cons, variableSegment] using isParent
    have notInFront : variableSegment (parentIdName "users") ∉ (Text.split '/' path).dropLast := by
      decide +kernel
    exact notInFront inFront
  exact ⟨h, distinct, apart, (normalize_nodup_iff h distinct).2 apart⟩

end

end PathTemplate

end ResourceInference
