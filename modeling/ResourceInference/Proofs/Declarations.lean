import Mathlib.Data.List.Nodup
import ResourceInference.Proofs.ComposedBodies

/-!
# Properties that are declared more than once

A request may declare a property several times: two of its own properties may have one SDK name,
and so may a property of its own and those of its parts. What can be set and what is shown are
filled from the same declarations, but not by the same rule. A part goes over what can be set, and
under what is shown; so of what can be set the last declaration is left, and of what is shown the
last one of the request itself, or else the first one of its parts
(`Infer.gatherDraft_declares`).

Without a response, nothing else is shown, and whatever can be set is shown under its name. It is
shown as it can be set exactly if the declarations agree where the rules part
(`RequestDeclarations.Agree`, `Infer.settable_shown_iff`). They do if no name is declared twice
(`distinctNames_agree`); they do not if a part says otherwise of a property than the request does
(`redeclaredSize_differs`).
-/

set_option autoImplicit false

namespace ResourceInference

/-! ## Loops that write -/

section

variable {σ α β : Type} (view : σ → Option β) {writes : α → Option β} {step : σ → α → σ}

/-- Where every item writes over what is there, what the last one has written is left. -/
theorem foldl_over (replaces : ∀ state a, view (step state a) = (writes a).or (view state))
    (items : List α) : ∀ state, view (items.foldl step state) =
      (items.filterMap writes).getLast?.or (view state) := by
  induction items with
  | nil => exact fun _ => rfl
  | cons a rest ih =>
      intro state
      rw [List.foldl_cons, ih, replaces, List.filterMap_cons]
      cases writes a with
      | none => rfl
      | some written =>
          dsimp only
          rw [List.getLast?_cons]
          cases (rest.filterMap writes).getLast? <;> rfl

/-- Where no item writes over what is there, what the first one has written is left. -/
theorem foldl_under (keeps : ∀ state a, view (step state a) = (view state).or (writes a))
    (items : List α) : ∀ state, view (items.foldl step state) =
      (view state).or (items.filterMap writes).head? := by
  induction items with
  | nil => exact fun _ => (Option.or_none ..).symm
  | cons a rest ih =>
      intro state
      rw [List.foldl_cons, ih, keeps, List.filterMap_cons, Option.or_assoc]
      cases writes a <;> rfl

end

/-! ## Declarations -/

/-- What an entry says of the property with a name. -/
def PropertySpec.under? (name : String) (entry : String × PropertySpec) : Option PropertySpec :=
  if name = entry.1 then some entry.2 else none

theorem PropertySpec.get?_insert (properties : PropertyMap) (name : String)
    (entry : String × PropertySpec) : (properties.insert entry.1 entry.2).get? name =
      (under? name entry).or (properties.get? name) := by
  rw [SortedMap.get?_insert, under?]
  split <;> rfl

/-- The entries of a map say one thing of a name, if there is a property with the name. -/
theorem PropertySpec.filterMap_under? (properties : PropertyMap) (name : String) :
    properties.toList.filterMap (under? name) = (properties.get? name).toList := by
  obtain ⟨entries, sorted⟩ := properties
  change entries.filterMap (under? name) = (entries.lookup name).toList
  have distinct := nodup_keys sorted
  clear sorted
  induction entries with
  | nil => rfl
  | cons first rest ih =>
      obtain ⟨new, restDistinct⟩ := List.nodup_cons.1 distinct
      obtain ⟨key, property⟩ := first
      rw [List.filterMap_cons, List.lookup_cons, ih restDistinct]
      by_cases same : name = key
      · subst same
        simp [under?, lookup_of_not_mem new]
      · have other : (name == key) = false := by simpa using same
        simp [under?, same, other]

/-- As many entries say something of a name as have it. -/
theorem PropertySpec.length_under? (name : String) (entries : List (String × PropertySpec)) :
    (entries.filterMap (under? name)).length = (entries.map (·.1)).count name := by
  induction entries with
  | nil => rfl
  | cons entry rest ih =>
      rw [List.map_cons, List.count_cons, ← ih, List.filterMap_cons, under?]
      by_cases same : entry.1 = name
      · simp [same]
      · simp [same, Ne.symm same]

/-- What a request declares: its own properties, each with whether it is read-only, and the objects
that are taken for its parts. -/
structure RequestDeclarations where
  own : List (Bool × String × PropertySpec)
  taken : List (Option ObjectType)

namespace RequestDeclarations

variable (declared : RequestDeclarations) (name : String)

/-- What the request itself says of a name. -/
def ownSpecs : List PropertySpec :=
  declared.own.filterMap fun property => PropertySpec.under? name property.2

/-- What the request itself says of a name where it is not read-only. -/
def settableSpecs : List PropertySpec :=
  declared.own.filterMap fun property =>
    if property.1 then none else PropertySpec.under? name property.2

/-- What the parts of the request say of a name. -/
def partSpecs : List PropertySpec :=
  declared.taken.filterMap (·.bind (·.properties.get? name))

/-- How a name can be set: the last declaration prevails. -/
def input? : Option PropertySpec :=
  (declared.partSpecs name).getLast?.or (declared.settableSpecs name).getLast?

/-- How a name is shown: the last declaration of the request itself prevails, or else the first one
of its parts. -/
def output? : Option PropertySpec :=
  (declared.ownSpecs name).getLast?.or (declared.partSpecs name).head?

/-- The declarations of a name agree where it makes a difference which of them prevails. -/
structure Agree : Prop where
  /-- A part says what the request says itself. -/
  redeclared : ∀ spec part, (declared.ownSpecs name).getLast? = some spec →
    (declared.partSpecs name).getLast? = some part → part = spec
  /-- The last part says what the first one says. -/
  repeated : declared.ownSpecs name = [] → ∀ first last,
    (declared.partSpecs name).head? = some first →
      (declared.partSpecs name).getLast? = some last → last = first
  /-- The last declaration that is not read-only says what the last one says. -/
  hidden : declared.partSpecs name = [] → ∀ settable spec,
    (declared.settableSpecs name).getLast? = some settable →
      (declared.ownSpecs name).getLast? = some spec → settable = spec

variable {declared name}

theorem mem_ownSpecs_of_settable {spec : PropertySpec} (h : spec ∈ declared.settableSpecs name) :
    spec ∈ declared.ownSpecs name := by
  obtain ⟨property, member, isSaid⟩ := List.mem_filterMap.1 h
  refine List.mem_filterMap.2 ⟨property, member, ?_⟩
  split at isSaid
  · cases isSaid
  · exact isSaid

theorem settableSpecs_of_own (h : declared.ownSpecs name = []) :
    declared.settableSpecs name = [] := by
  refine List.eq_nil_iff_forall_not_mem.2 fun spec member => ?_
  have own := mem_ownSpecs_of_settable member
  rw [h] at own
  cases own

/-- Whatever can be set is shown. -/
theorem exists_output? {spec : PropertySpec} (h : declared.input? name = some spec) :
    ∃ shown, declared.output? name = some shown := by
  refine Option.isSome_iff_exists.1 (Option.isSome_iff_ne_none.2 fun hidden => ?_)
  obtain ⟨noOwn, noPart⟩ := Option.or_eq_none_iff.1 hidden
  have noOwn := List.getLast?_eq_none_iff.1 noOwn
  rw [input?, settableSpecs_of_own noOwn, List.head?_eq_none_iff.1 noPart] at h
  cases h

/-- A name is shown as it can be set exactly if its declarations agree. -/
theorem agree_iff : declared.Agree name ↔
    ∀ spec, declared.input? name = some spec → declared.output? name = some spec := by
  constructor
  · intro agree spec set
    rcases Option.or_eq_some_iff.1 set with part | ⟨noPart, settable⟩
    -- The last part can be set: it meets what the request says itself, or else the first part.
    · cases own : (declared.ownSpecs name).getLast? with
      | some shown =>
          rw [output?, own, agree.redeclared shown spec own part]
          rfl
      | none =>
          have noOwn := List.getLast?_eq_none_iff.1 own
          obtain ⟨first, isFirst⟩ := exists_output? set
          rw [output?, own, Option.none_or] at isFirst
          rw [output?, own, isFirst, agree.repeated noOwn first spec isFirst part]
          rfl
    · have noPart := List.getLast?_eq_none_iff.1 noPart
      obtain ⟨shown, isShown⟩ := exists_output? set
      rw [output?, noPart, List.head?_nil, Option.or_none] at isShown
      rw [output?, isShown, agree.hidden noPart spec shown settable isShown]
      rfl
  · intro shows
    refine ⟨fun spec part own isPart => ?_, fun noOwn first last isFirst isLast => ?_,
      fun noPart settable spec isSettable own => ?_⟩
    · have shown := shows part (by rw [input?, isPart, Option.some_or])
      rw [output?, own, Option.some_or] at shown
      exact (Option.some.inj shown).symm
    · have shown := shows last (by rw [input?, isLast, Option.some_or])
      rw [output?, noOwn, List.getLast?_nil, Option.none_or, isFirst] at shown
      exact (Option.some.inj shown).symm
    · have shown := shows settable (by rw [input?, noPart, isSettable]; rfl)
      rw [output?, own, Option.some_or] at shown
      exact (Option.some.inj shown).symm

/-- Where all declarations of a name say the same, they agree. -/
theorem agree_of_same (same : ∀ a ∈ declared.ownSpecs name ++ declared.partSpecs name,
    ∀ b ∈ declared.ownSpecs name ++ declared.partSpecs name, a = b) : declared.Agree name where
  redeclared _ _ own isPart :=
    same _ (List.mem_append_right _ (List.mem_of_getLast? isPart)) _
      (List.mem_append_left _ (List.mem_of_getLast? own))
  repeated _ _ _ isFirst isLast :=
    same _ (List.mem_append_right _ (List.mem_of_getLast? isLast)) _
      (List.mem_append_right _ (List.mem_of_head? isFirst))
  hidden _ _ _ isSettable own :=
    same _ (List.mem_append_left _ (mem_ownSpecs_of_settable (List.mem_of_getLast? isSettable))) _
      (List.mem_append_left _ (List.mem_of_getLast? own))

/-- All names that are declared, each as often as it is declared. -/
def names (declared : RequestDeclarations) : List String :=
  declared.own.map (·.2.1) ++
    declared.taken.flatMap fun taken => (taken.map (·.properties.keys)).getD []

/-- Each declaration of a name says something of it. -/
theorem length_specs : (declared.ownSpecs name ++ declared.partSpecs name).length =
    declared.names.count name := by
  obtain ⟨own, taken⟩ := declared
  rw [names, List.length_append, List.count_append]
  congr 1
  · have same := PropertySpec.length_under? name (own.map (·.2))
    rwa [List.filterMap_map, List.map_map] at same
  · rw [partSpecs]
    dsimp only
    induction taken with
    | nil => rfl
    | cons first rest ih =>
        rw [List.flatMap_cons, List.count_append, ← ih, List.filterMap_cons]
        cases first with
        | none => simp
        | some object =>
            have same := PropertySpec.length_under? name object.properties.toList
            rw [PropertySpec.filterMap_under?] at same
            change _ = List.count name object.properties.keys + _
            rw [SortedMap.keys, ← SortedMap.toList, ← same, Option.bind_some]
            cases object.properties.get? name <;> simp [Nat.add_comm]

/-- Where no name is declared twice, all declarations agree. -/
theorem agree_of_nodup (distinct : declared.names.Nodup) : declared.Agree name := by
  refine agree_of_same fun a isA b isB => ?_
  have few : (declared.ownSpecs name ++ declared.partSpecs name).length ≤ 1 :=
    length_specs ▸ List.nodup_iff_count_le_one.1 distinct name
  match specs : declared.ownSpecs name ++ declared.partSpecs name with
  | [] => simp [specs] at isA
  | [spec] => simp_all
  | _ :: _ :: _ => simp [specs] at few

end RequestDeclarations

/-! ## Drafts -/

namespace ResourceDraft

/-- Add a property of the request, which is read-only or not. -/
def addOwn (draft : ResourceDraft) (property : Bool × String × PropertySpec) : ResourceDraft :=
  draft.addRequestProperty property.1 property.2

/-- The two drafts have the same properties. -/
def SameProperties (draft draft' : ResourceDraft) : Prop :=
  draft'.inputs = draft.inputs ∧ draft'.outputs = draft.outputs

theorem SameProperties.trans {draft draft' draft'' : ResourceDraft}
    (first : draft.SameProperties draft') (second : draft'.SameProperties draft'') :
    draft.SameProperties draft'' :=
  ⟨second.1.trans first.1, second.2.trans first.2⟩

section

variable (draft : ResourceDraft)

theorem requireInput_same (sdk : String) : draft.SameProperties (draft.requireInput sdk) := by
  unfold requireInput
  split <;> exact ⟨rfl, rfl⟩

theorem requireOutput_same (sdk : String) : draft.SameProperties (draft.requireOutput sdk) := by
  unfold requireOutput
  split <;> exact ⟨rfl, rfl⟩

/-- What a part requires changes no properties. -/
theorem addPart_same (stripRequired : Bool) (object : ObjectType) :
    (object.properties.toList.foldl addPartProperty draft).SameProperties
      (draft.addPart stripRequired object) := by
  have requires : ∀ (names : List String) (draft : ResourceDraft),
      draft.SameProperties (names.foldl requireInput draft) := by
    intro names
    induction names with
    | nil => exact fun _ => ⟨rfl, rfl⟩
    | cons name rest ih => exact fun draft => (draft.requireInput_same name).trans (ih _)
  unfold addPart
  dsimp only
  split
  · exact ⟨rfl, rfl⟩
  · exact requires object.required _

variable {name : String} (notId : name ≠ idProperty)

include notId

theorem get?_outputs_addOutput (entry : String × PropertySpec) :
    (draft.addOutput entry).outputs.get? name =
      (PropertySpec.under? name entry).or (draft.outputs.get? name) := by
  unfold addOutput
  split
  · rename_i isId
    rw [PropertySpec.under?, if_neg (isId ▸ notId), Option.none_or]
  · exact PropertySpec.get?_insert ..

theorem get?_outputs_addOwn (property : Bool × String × PropertySpec) :
    (draft.addOwn property).outputs.get? name =
      (PropertySpec.under? name property.2).or (draft.outputs.get? name) := by
  rw [← draft.get?_outputs_addOutput notId]
  unfold addOwn addRequestProperty
  dsimp only
  split <;> rfl

theorem get?_inputs_addOwn (property : Bool × String × PropertySpec) :
    (draft.addOwn property).inputs.get? name =
      (if property.1 then none else PropertySpec.under? name property.2).or
        (draft.inputs.get? name) := by
  obtain ⟨readOnly, entry⟩ := property
  unfold addOwn addRequestProperty
  dsimp only
  split
  · rename_i skipped
    have silent : (if readOnly then none else PropertySpec.under? name entry) = none := by
      rcases Bool.or_eq_true_iff.1 skipped with isId | isReadOnly
      · have other : name ≠ entry.1 := of_decide_eq_true isId ▸ notId
        rw [PropertySpec.under?, if_neg other, ite_self]
      · rw [if_pos isReadOnly]
    rw [inputs_addOutput, silent, Option.none_or]
  · rename_i taken
    rw [inputs_addOutput, PropertySpec.get?_insert, if_neg (by simp_all)]

theorem get?_inputs_addPartProperty (entry : String × PropertySpec) :
    (draft.addPartProperty entry).inputs.get? name =
      (PropertySpec.under? name entry).or (draft.inputs.get? name) := by
  unfold addPartProperty
  split
  · rename_i isId
    rw [PropertySpec.under?, if_neg (isId ▸ notId), Option.none_or]
  · exact PropertySpec.get?_insert ..

theorem get?_outputs_addPartProperty (entry : String × PropertySpec) :
    (draft.addPartProperty entry).outputs.get? name =
      (draft.outputs.get? name).or (PropertySpec.under? name entry) := by
  unfold addPartProperty
  split
  · rename_i isId
    rw [PropertySpec.under?, if_neg (isId ▸ notId), Option.or_none]
  · dsimp only
    split
    · rename_i present
      unfold PropertySpec.under?
      split
      · rename_i same
        obtain ⟨spec, isThere⟩ := (SortedMap.contains_iff ..).1 (same ▸ present)
        rw [isThere, Option.some_or]
      · rw [Option.or_none]
    · rename_i missing
      rw [PropertySpec.get?_insert]
      unfold PropertySpec.under?
      split
      · rename_i same
        have absent := (SortedMap.get?_eq_none_iff ..).2 (Bool.eq_false_iff.2 missing)
        rw [same, absent, Option.or_none, Option.none_or]
      · rw [Option.or_none, Option.none_or]

theorem get?_inputs_addTaken (stripRequired : Bool) (taken : Option ObjectType) :
    (draft.addTaken stripRequired taken).inputs.get? name =
      (taken.bind (·.properties.get? name)).or (draft.inputs.get? name) := by
  cases taken with
  | none => rfl
  | some object =>
      have written := foldl_over (fun draft : ResourceDraft => draft.inputs.get? name)
        (fun draft => draft.get?_inputs_addPartProperty notId) object.properties.toList draft
      rw [PropertySpec.filterMap_under?] at written
      rw [addTaken, (draft.addPart_same stripRequired object).1, Option.bind_some]
      refine written.trans ?_
      cases object.properties.get? name <;> rfl

theorem get?_outputs_addTaken (stripRequired : Bool) (taken : Option ObjectType) :
    (draft.addTaken stripRequired taken).outputs.get? name =
      (draft.outputs.get? name).or (taken.bind (·.properties.get? name)) := by
  cases taken with
  | none => exact (Option.or_none ..).symm
  | some object =>
      have written := foldl_under (fun draft : ResourceDraft => draft.outputs.get? name)
        (fun draft => draft.get?_outputs_addPartProperty notId) object.properties.toList draft
      rw [PropertySpec.filterMap_under?, Option.head?_toList] at written
      rw [addTaken, (draft.addPart_same stripRequired object).2]
      exact written

end

/-- The properties of the draft are those that have been declared, but for `id`. -/
structure Declares (declared : RequestDeclarations) (draft : ResourceDraft) : Prop where
  inputs : ∀ name, name ≠ idProperty → draft.inputs.get? name = declared.input? name
  outputs : ∀ name, name ≠ idProperty → draft.outputs.get? name = declared.output? name

/-- The declarations, put into an empty draft one after the other. -/
theorem declares_of_folds (stripRequired : Bool) (declared : RequestDeclarations)
    {draft : ResourceDraft} (own : SameProperties (declared.own.foldl addOwn {}) draft) :
    (declared.taken.foldl (addTaken stripRequired) draft).Declares declared where
  inputs name notId := by
    have first := foldl_over (fun draft : ResourceDraft => draft.inputs.get? name)
      (fun draft => draft.get?_inputs_addOwn notId) declared.own {}
    have later := foldl_over (fun draft : ResourceDraft => draft.inputs.get? name)
      (fun draft => draft.get?_inputs_addTaken notId stripRequired) declared.taken draft
    rw [later, own.1, first]
    exact congrArg _ (Option.or_none ..)
  outputs name notId := by
    have first := foldl_over (fun draft : ResourceDraft => draft.outputs.get? name)
      (fun draft => draft.get?_outputs_addOwn notId) declared.own {}
    have later := foldl_under (fun draft : ResourceDraft => draft.outputs.get? name)
      (fun draft => draft.get?_outputs_addTaken notId stripRequired) declared.taken draft
    rw [later, own.2, first]
    exact congrArg (Option.or · _) (Option.or_none ..)

end ResourceDraft

/-- Whatever can be set on the resource is shown, and as it can be set. -/
def ResourceSpec.ShowsInputs (r : ResourceSpec) : Prop :=
  ∀ name spec, r.inputProperties.get? name = some spec → r.properties.get? name = some spec

namespace Infer

variable {task : InferenceTask} {scope : Scope} {bodies : ResourceBodies} {s : Session}

theorem gatherRequiredInput_same {token wire : String} {request : Schema} {draft : ResourceDraft} :
    Upholds (fun _ => True) (gatherRequiredInput task token request draft wire)
      draft.SameProperties := by
  unfold gatherRequiredInput
  split
  · exact .pure ⟨rfl, rfl⟩
  · refine Upholds.any.bind fun found _ => ?_
    split
    · exact .pure ⟨rfl, rfl⟩
    · split
      · exact Upholds.any.bind fun _ _ => .pure ⟨rfl, rfl⟩
      · exact .pure (draft.requireInput_same _)

/-- What must be set and what is always shown changes no properties. -/
theorem required_same {token : String} {request : Schema} {draft : ResourceDraft}
    {wires wires' : List String} :
    Upholds (fun _ => True) (wires.foldlM (gatherRequiredInput task token request) draft >>=
      fun draft => wires'.foldlM gatherRequiredOutput draft) draft.SameProperties := by
  have inputs : Upholds (fun _ => True)
      (wires.foldlM (gatherRequiredInput task token request) draft) draft.SameProperties :=
    Upholds.foldlM (fun _ _ _ same => gatherRequiredInput_same.imp fun _ => same.trans) ⟨rfl, rfl⟩
  refine inputs.bind fun draft' same => Upholds.foldlM (fun wire _ draft' same => ?_) same
  exact Upholds.any.bind fun _ _ => .pure (same.trans (draft'.requireOutput_same _))

/-- Without a response, the properties of the request are resolved, and then only names are
required. -/
theorem gatherOwn_eq {token : String} (unanswered : bodies.response = none) :
    gatherOwn task scope token bodies =
      bodies.request.properties.mapM (bodyProperty task scope) >>= fun own =>
        bodies.request.required.foldlM (gatherRequiredInput task token bodies.request)
          (own.foldl ResourceDraft.addOwn {}) >>= fun draft =>
            bodies.request.required.foldlM gatherRequiredOutput draft := by
  have walked : gatherRequestProperty task scope = fun draft entry =>
      bodyProperty task scope entry >>= fun property => pure (draft.addOwn property) := rfl
  simp only [gatherOwn, walked, foldlM_eq_mapM, bind_assoc, pure_bind, unanswered, gatherAnswer,
    Option.map_none, Option.getD_none, List.append_nil]

/-- Without a response, the draft is made of what the request declares. -/
theorem gatherDraft_declares {token : String} (unanswered : bodies.response = none) :
    Ends (gatherDraft task scope token bodies) s
      (fun draft s' => ∃ (declared : RequestDeclarations) (s₁ : Session),
        (bodies.request.properties.mapM (bodyProperty task scope)).run.run s =
          (.ok declared.own, s₁) ∧
        (takenParts task scope token bodies).run.run s = (.ok declared.taken, s') ∧
        draft.Declares declared) fun _ _ => True := by
  refine (gatherDraft_folds task scope token bodies s).imp ?_
  rintro _ s' ⟨draft, s₀, taken, ran, took, rfl⟩
  have made : Ends (gatherOwn task scope token bodies) s (fun draft _ => ∃ own s₁,
      (bodies.request.properties.mapM (bodyProperty task scope)).run.run s = (.ok own, s₁) ∧
        ResourceDraft.SameProperties (own.foldl ResourceDraft.addOwn {}) draft)
      fun _ _ => True := by
    rw [gatherOwn_eq unanswered]
    refine ends_bind.2 ((ends_ran _ s).mono (fun own s₁ resolved => ?_) fun _ _ _ => trivial)
    exact (required_same.ends s₁ trivial).imp fun _ _ same => ⟨own, s₁, resolved, same.2⟩
  obtain ⟨own, s₁, resolved, same⟩ := made.of_run ran
  exact ⟨⟨own, taken⟩, s₁, resolved, (run_takenParts task scope token bodies ran).trans took,
    ResourceDraft.declares_of_folds _ ⟨own, taken⟩ same⟩

/-- The resource that is put under the token has been made of what the request declares; `id` can
neither be set nor is it shown. -/
theorem gatherResource_declares {path : String} (unanswered : bodies.response = none) :
    Ends (gatherResource task scope bodies path) s (fun token s' =>
      ∃ (draft : ResourceDraft) (declared : RequestDeclarations) (s₁ s₂ : Session),
        s'.package.resources.get? token = some (draft.toResource bodies.request.description) ∧
        (bodies.request.properties.mapM (bodyProperty task scope)).run.run s =
          (.ok declared.own, s₁) ∧
        (takenParts task scope token bodies).run.run s = (.ok declared.taken, s₂) ∧
        draft.Declares declared ∧
        draft.inputs.get? idProperty = none ∧ draft.outputs.get? idProperty = none)
      fun _ _ => True := by
  refine ends_bind.2 (((gatherDraft_declares unanswered).and gatherDraft_withoutId).mono ?_
    fun _ _ _ => trivial)
  rintro draft s₂ ⟨⟨declared, s₁, resolved, took, declares⟩, noId⟩
  refine .after fun _ s₃ => ?_
  exact ⟨draft, declared, s₁, s₂, (s₃.get?_withResource ..).trans (if_pos rfl), resolved, took,
    declares, noId⟩

/-- Without a response, whatever can be set on the resource is shown under its name. It is shown as
it can be set exactly if the declarations of every name agree. -/
theorem settable_shown_iff {path token : String} {s' : Session}
    (unanswered : bodies.response = none)
    (h : (gatherResource task scope bodies path).run.run s = (.ok token, s')) :
    ∃ (r : ResourceSpec) (declared : RequestDeclarations) (s₁ s₂ : Session),
      s'.package.resources.get? token = some r ∧
      (bodies.request.properties.mapM (bodyProperty task scope)).run.run s =
        (.ok declared.own, s₁) ∧
      (takenParts task scope token bodies).run.run s = (.ok declared.taken, s₂) ∧
      (∀ name, name ≠ idProperty → r.inputProperties.get? name = declared.input? name ∧
        r.properties.get? name = declared.output? name) ∧
      (∀ name, r.inputProperties.contains name = true → r.properties.contains name = true) ∧
      (r.ShowsInputs ↔ ∀ name, name ≠ idProperty → declared.Agree name) := by
  obtain ⟨draft, declared, s₁, s₂, present, resolved, took, declares, noInput, noOutput⟩ :=
    (gatherResource_declares unanswered).of_run h
  have notId : ∀ name spec, draft.inputs.get? name = some spec → name ≠ idProperty := by
    rintro name spec set rfl
    cases noInput.symm.trans set
  refine ⟨_, declared, s₁, s₂, present, resolved, took,
    fun name notId => ⟨declares.inputs name notId, declares.outputs name notId⟩, ?_, ?_⟩
  · intro name settable
    obtain ⟨spec, set⟩ := (SortedMap.contains_iff ..).1 settable
    have declaredInput := (declares.inputs name (notId name spec set)).symm.trans set
    obtain ⟨shown, isShown⟩ := RequestDeclarations.exists_output? declaredInput
    exact (SortedMap.contains_iff ..).2
      ⟨shown, (declares.outputs name (notId name spec set)).trans isShown⟩
  · constructor
    · intro shows name notId
      refine RequestDeclarations.agree_iff.2 fun spec set => ?_
      rw [← declares.outputs name notId]
      exact shows name spec ((declares.inputs name notId).trans set)
    · intro agree name spec set
      have notId := notId name spec set
      refine (declares.outputs name notId).trans ?_
      exact RequestDeclarations.agree_iff.1 (agree name notId) spec
        ((declares.inputs name notId).symm.trans set)

end Infer

/-! ## Sizes -/

/-- A thing with a size, which is a text, and a part. -/
def sizedThing (part : Schema) : Schema := { Schema.texts ["size"] with allOf := [.item part] }

/-- A part that says that the size is a number. -/
def countedSize : Schema := .object [("size", .item { type := some (.single .integer) })] []

/-- The size can be set as a number, and is shown as a text. -/
theorem redeclaredSize_differs :
    ∃ token s' r, (gatherThing (sizedThing countedSize) []).run.run .first = (.ok token, s') ∧
      s'.package.resources.get? token = some r ∧ ¬ r.ShowsInputs := by
  obtain ⟨token, s', r, ran, present, set, shown⟩ := gatherThing_checked (sizedThing countedSize) []
    (fun r => (r.inputProperties.get? "size").map (·.type) = some (.primitive .integer) ∧
      (r.properties.get? "size").map (·.type) = some (.primitive .string)) (by decide +kernel)
  refine ⟨token, s', r, ran, present, fun shows => ?_⟩
  obtain ⟨spec, isSet, isNumber⟩ := Option.map_eq_some_iff.1 set
  rw [shows "size" spec isSet, Option.map_some, isNumber] at shown
  cases shown

/-- Where the part says something else, all is shown as it can be set. -/
theorem distinctNames_agree :
    ∃ token s' r, (gatherThing (sizedThing (.texts ["colour"])) []).run.run .first =
      (.ok token, s') ∧ s'.package.resources.get? token = some r ∧
      r.inputProperties.keys = ["colour", "size"] ∧ r.ShowsInputs := by
  let bodies : ResourceBodies := { request := sizedThing (.texts ["colour"]) }
  let task := (createsThing bodies.request []).task
  obtain ⟨token, s', ran, rfl, checked⟩ := Infer.exists_run
    (gatherThing (sizedThing (.texts ["colour"])) []) .first (fun token s' =>
      token = "pkg:things:Thing" ∧ (s'.package.resources.get? token).any
        (·.inputProperties.keys = ["colour", "size"]) = true) (by decide +kernel)
  obtain ⟨r, declared, s₁, s₂, present, resolved, took, -, -, shows⟩ :=
    Infer.settable_shown_iff rfl ran
  have ownNames : Infer.Ends (bodies.request.properties.mapM
      (Infer.bodyProperty task ⟨"things", "Thing"⟩)) .first
      (fun own _ => own.map (·.2.1) = ["size"]) fun _ _ => False := by decide +kernel
  have partNames : Infer.Ends (Infer.takenParts task ⟨"things", "Thing"⟩ "pkg:things:Thing" bodies)
      .first (fun taken _ =>
        (taken.flatMap fun taken => (taken.map (·.properties.keys)).getD []) = ["colour"])
      fun _ _ => False := by decide +kernel
  have distinct : declared.names.Nodup := by
    rw [RequestDeclarations.names, ownNames.of_run resolved, partNames.of_run took]
    decide
  refine ⟨_, s', r, ran, present, ?_,
    shows.2 fun _ _ => RequestDeclarations.agree_of_nodup distinct⟩
  simpa [present] using checked

end ResourceInference
