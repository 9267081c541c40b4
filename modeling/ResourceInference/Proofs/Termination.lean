import ResourceInference.Proofs.EnumSearches
import ResourceInference.Proofs.History
import ResourceInference.Proofs.ReferenceCycles
import ResourceInference.Proofs.Runs

/-!
# Giving a type ends

A schema of a guarded document gets its type, or an error, after finitely many steps, and no
component is entered again while it is under construction, exactly if no reference to a component
under construction is met when its mark is lost (`resolver_ends_iff`). A mark is lost when a merge
drops the type of the token; while the component is under construction, that is a type that was
made for a schema in place and has got the token of the component.

The invariant (`Session.Watched`) has two parts. A component under construction has its mark
unless it was lost, so entering it again and meeting it unmarked are the same. And the components
that the call has entered and not left are under construction, or one was entered again; so, as
long as none is, they are pairwise distinct, and there are at most as many as component schemas.
Between two entries the depth is bounded by `Trail.step`.

That all components have members is not enough: one that describes a map is seen through without a
mark, and a lost mark lets a component be entered again
(`onlyComposites_endless_and_reenters`).
-/

set_option autoImplicit false

namespace ResourceInference

/-! ## Marks -/

namespace Session

/-- Since the journal was `base`, some events have been noted; a component under construction has
its mark exactly if it was not lost, and was entered again only when it was met without. -/
structure Marks (base events : List Event) (s : Session) : Prop where
  journal : s.journal = events ++ base
  marked : ∀ token ∈ Journal.underConstruction events,
    (s.visited.contains token = true ↔ Journal.unmarked token events = false)
  entered : Journal.reenters events = Journal.meetsUnmarked events

/-- The marks are right, and the components of some tokens are under construction, unless one was
entered again. Without tokens, one was entered again. -/
def Watched (base : List Event) (entered : Option (List String)) (s : Session) : Prop :=
  ∃ events, s.Marks base events ∧ (Journal.reenters events = true ∨
    ∃ tokens, entered = some tokens ∧ tokens ⊆ Journal.underConstruction events)

/-- The tokens when one more component is entered. -/
def entering? (token : String) : Option (List String) → Option (List String)
  | none => none
  | some tokens => if token ∈ tokens then none else some (token :: tokens)

theorem entering?_eq_some {token : String} {entered : Option (List String)}
    {tokens : List String} (h : entering? token entered = some tokens) :
    ∃ outer, entered = some outer ∧ token ∉ outer ∧ tokens = token :: outer := by
  cases entered with
  | none => cases h
  | some outer =>
      simp only [entering?] at h
      split at h
      · cases h
      · rename_i fresh
        exact ⟨outer, rfl, fresh, (Option.some.inj h).symm⟩

variable {base events : List Event} {entered : Option (List String)} {s : Session}
  {component token : String}

/-- Something is noted that has no part in construction and in marks. -/
theorem Watched.noting {event : Event} (h : s.Watched base entered)
    (construction : ∀ events,
      Journal.underConstruction (event :: events) = Journal.underConstruction events)
    (unmarked : ∀ token events,
      Journal.unmarked token (event :: events) = Journal.unmarked token events)
    (reenters : ∀ events, Journal.reenters (event :: events) = Journal.reenters events)
    (meets : ∀ events, Journal.meetsUnmarked (event :: events) = Journal.meetsUnmarked events) :
    (s.noted event).Watched base entered := by
  obtain ⟨events, marks, open_⟩ := h
  refine ⟨event :: events, ⟨congrArg (_ :: ·) marks.journal, fun token member => ?_, ?_⟩, ?_⟩
  · rw [construction] at member
    rw [unmarked]
    exact marks.marked token member
  · rw [reenters, meets, marks.entered]
  · rw [reenters, construction]
    exact open_

theorem Watched.dropping (h : s.Watched base entered) :
    (s.dropping token).Watched base entered := by
  obtain ⟨events, marks, open_⟩ := h
  refine ⟨.dropped token :: events, ⟨congrArg (_ :: ·) marks.journal, ?_, marks.entered⟩, open_⟩
  intro other member
  rw [Journal.unmarked_dropped, ← marks.marked other member]
  exact SortedMap.contains_erase ..

/-- A reference to a component that is marked is not met without its mark. -/
theorem Watched.meeting (h : s.Watched base entered) (visited : s.visited.contains token = true) :
    (s.noted (.referred component token)).Watched base entered := by
  obtain ⟨events, marks, open_⟩ := h
  refine ⟨.referred component token :: events, ⟨congrArg (_ :: ·) marks.journal, marks.marked, ?_⟩,
    open_⟩
  have marked : ((Journal.underConstruction events).contains token &&
      Journal.unmarked token events) = false := by
    by_cases member : token ∈ Journal.underConstruction events
    · rw [(marks.marked token member).1 visited, Bool.and_false]
    · simp [member]
  change Journal.reenters events = (_ || _)
  rw [marked, Bool.false_or, marks.entered]

/-- A component that is entered while it is under construction was met without its mark. -/
theorem Watched.entering (h : s.Watched base entered) (unmarked : s.visited.contains token ≠ true) :
    ((s.noted (.referred component token)).entering token).Watched base
      (entering? token entered) := by
  obtain ⟨events, marks, open_⟩ := h
  refine ⟨.entered token :: .referred component token :: events,
    ⟨congrArg (_ :: _ :: ·) marks.journal, ?_, ?_⟩, ?_⟩
  · intro other member
    rw [Journal.unmarked_entered]
    refine (SortedMap.contains_insert ..).trans ?_
    by_cases same : other = token
    · simp only [same, true_or]
    · exact or_congr_right (marks.marked other ((List.mem_cons.1 member).resolve_left same))
  · have lost : (Journal.underConstruction events).contains token =
        ((Journal.underConstruction events).contains token && Journal.unmarked token events) := by
      by_cases member : token ∈ Journal.underConstruction events
      · have := mt (marks.marked token member).2 unmarked
        rw [Bool.not_eq_false] at this
        rw [this, Bool.and_true]
      · simp [member]
    change (_ || Journal.reenters events) = (_ || Journal.meetsUnmarked events)
    rw [marks.entered, ← lost]
    rfl
  · rcases open_ with again | ⟨tokens, rfl, open_⟩
    · exact .inl (by simp [Journal.reenters, again])
    · by_cases member : token ∈ tokens
      · exact .inl (by simpa [Journal.reenters] using .inl (open_ member))
      · refine .inr ⟨token :: tokens, by simp [entering?, member], ?_⟩
        exact List.cons_subset_cons token open_

theorem Watched.leaving (h : s.Watched base (entering? token entered)) :
    (s.noted (.left token)).Watched base entered := by
  obtain ⟨events, marks, open_⟩ := h
  refine ⟨.left token :: events, ⟨congrArg (_ :: ·) marks.journal, ?_, marks.entered⟩, ?_⟩
  · exact fun other member => marks.marked other (List.mem_of_mem_erase member)
  · rcases open_ with again | ⟨tokens, same, open_⟩
    · exact .inl again
    · obtain ⟨outer, rfl, fresh, rfl⟩ := entering?_eq_some same
      refine .inr ⟨outer, rfl, fun other inOuter => ?_⟩
      have ne : other ≠ token := fun same => fresh (same ▸ inOuter)
      exact (List.mem_erase_of_ne ne).2 (open_ (List.mem_cons_of_mem _ inOuter))

end Session

/-- The marks are right while some components are entered; and inference comes to its bound only if
one was entered again. -/
def watch (base : List Event) (entered : Option (List String)) : Invariant where
  holds := Session.Watched base entered
  later _ _ := True
  good _ _ := True
  answer _ _ := True
  fails e s := ∃ events, s.Marks base events ∧ (e.IsEndless → Journal.reenters events = true)
  refl _ := trivial
  trans _ _ := trivial
  lasts _ := id
  stops h ends := by
    obtain ⟨events, marks, -⟩ := h
    exact ⟨events, marks, fun endless => absurd endless ends⟩
  tables h changes := by
    obtain ⟨metadata, rfl⟩ := changes
    obtain ⟨events, marks, open_⟩ := h
    exact ⟨⟨events, ⟨marks.journal, marks.marked, marks.entered⟩, open_⟩, trivial⟩
  known _ _ := ⟨trivial, trivial, fun _ _ => trivial⟩
  registers h _ _ := by
    obtain ⟨events, marks, open_⟩ := h
    exact ⟨⟨events, ⟨marks.journal, marks.marked, marks.entered⟩, open_⟩, trivial⟩
  forms _ _ h :=
    ⟨h.noting (fun _ => rfl) (fun _ _ => rfl) (fun _ => rfl) fun _ => rfl, trivial⟩
  merges _ h :=
    ⟨h.noting (fun _ => rfl) (fun _ _ => rfl) (fun _ => rfl) fun _ => rfl, trivial⟩
  drops _ h := ⟨h.dropping, trivial⟩

namespace Infer

/-! ## Entering a component -/

theorem enterComponent_watch {task : InferenceTask} {resolve : Resolver} {scope : Scope}
    {component token : String} {schema : Schema} {base : List Event}
    {entered : Option (List String)} {s : Session}
    (named : task.token scope.module (Naming.pascalCase component) = token)
    (serves : (watch base (Session.entering? token entered)).Serves task resolve scope schema)
    (h : s.Watched base entered) :
    (watch base entered).Leads (enterComponent task resolve scope component schema) s
      fun resolved s' => (watch base entered).Fits s' resolved := by
  have fits : ∀ s' resolved, (watch base entered).Fits s' resolved :=
    fun _ _ => ⟨fun _ _ => trivial, fun _ _ => trivial⟩
  refine ⟨Invariant.enterComponent_ends named (fun visited => ?_)
    (fun unmarked => Invariant.objectType_leads serves (h.entering unmarked)) (fun _ _ => id)
    (fun _ _ _ made _ _ => ?_) fun _ _ => id⟩
  · exact ⟨h.meeting visited, trivial, fits _ _⟩
  · exact ⟨Session.Watched.leaving made, trivial, fits _ _⟩

end Infer

/-! ## Depth -/

/-- The tokens of a scope that belong to components, pairwise distinct. -/
structure Opened (task : InferenceTask) (scope : Scope) (tokens : List String) : Prop where
  nodup : tokens.Nodup
  named : tokens ⊆ task.document.componentNames.map fun component =>
    task.token scope.module (Naming.pascalCase component)

theorem Opened.cons {task : InferenceTask} {scope : Scope} {tokens : List String}
    (h : Opened task scope tokens) {component token : String}
    (known : component ∈ task.document.componentNames)
    (named : task.token scope.module (Naming.pascalCase component) = token)
    (fresh : token ∉ tokens) : Opened task scope (token :: tokens) where
  nodup := List.nodup_cons.2 ⟨fresh, h.nodup⟩
  named := List.cons_subset.2 ⟨List.mem_map.2 ⟨component, known, named⟩, h.named⟩

theorem Opened.length_le {task : InferenceTask} {scope : Scope} {tokens : List String}
    (h : Opened task scope tokens) : tokens.length ≤ task.document.componentNames.length := by
  have bound := h.nodup.length_le_of_subset h.named
  rwa [List.length_map] at bound

/-- How deep schemas can still lie behind later entries, when some components are entered. -/
def Document.entryRoom (d : Document) (entered : Nat) : Nat :=
  (d.componentNames.length - entered) * (d.room 0 + Infer.componentsSize d + 1)

/-- There is depth enough for a schema, when some components are entered: it is a component that is
entered next, or it lies on a way to such a component. -/
def Enough (d : Document) (tokens : List String) (depth : Nat) (found : Lookup.Found) : Prop :=
  found.IsEntered ∧ d.entryRoom tokens.length < depth ∨
    ∃ passed, Trail d passed found.schema ∧
      d.entryRoom tokens.length + d.room passed.length + found.schema.size ≤ depth

section

variable {d : Document} {tokens : List String} {depth : Nat} {found next : Lookup.Found}

theorem Document.entryRoom_eq {entered : Nat} (fewer : entered < d.componentNames.length) :
    d.entryRoom entered = d.entryRoom (entered + 1) + (d.room 0 + Infer.componentsSize d + 1) := by
  unfold entryRoom
  rw [← Nat.succ_mul]
  congr 1
  omega

theorem Trail.enough (guarded : d.Guarded) {passed : List String} {schema : Schema}
    (h : Trail d passed schema)
    (depth_le : d.entryRoom tokens.length + d.room passed.length + schema.size ≤ depth + 1)
    (called : Calls d schema next) : Enough d tokens depth next := by
  rcases h.call guarded called with entered | ⟨passed', onward, shorter⟩
  · have size := called.one_lt_size
    exact .inl ⟨entered, by omega⟩
  · exact .inr ⟨passed', onward, by omega⟩

/-- Without an entry there is depth enough for the schemas inside. -/
theorem Enough.inside (guarded : d.Guarded) (h : Enough d tokens (depth + 1) found)
    (passes : ¬ found.IsEntered) (called : Calls d found.schema next) :
    Enough d tokens depth next := by
  rcases h with ⟨entered, -⟩ | ⟨passed, trail, depth_le⟩
  · exact absurd entered passes
  · exact trail.enough guarded depth_le called

/-- After an entry a new trail begins. -/
theorem Enough.entering (guarded : d.Guarded) (h : Enough d tokens (depth + 1) found)
    (inside : found.LiesIn d) {token : String}
    (fewer : tokens.length < d.componentNames.length) (called : Calls d found.schema next) :
    Enough d (token :: tokens) depth next := by
  have rooms := d.entryRoom_eq fewer
  rcases h with ⟨⟨named, -⟩, depth_lt⟩ | ⟨passed, trail, depth_le⟩
  · obtain ⟨component, name⟩ := Option.ne_none_iff_exists'.1 named
    have size := Infer.size_le_componentsSize (inside component name)
    refine (Trail.start found.schema).enough guarded ?_ called
    rw [List.length_cons, List.length_nil]
    omega
  · refine trail.enough guarded ?_ called
    rw [List.length_cons]
    omega

end

namespace Infer

variable {task : InferenceTask} {scope : Scope}

theorem enumType_watch (plain : IsPlain scope.resource) {base : List Event}
    {entered : Option (List String)} (name : String) (schema : Schema) {s : Session}
    (h : s.Watched base entered) :
    Ends (enumType task scope name schema) s (fun _ _ => True) (watch base entered).fails := by
  refine ((enumType_ends task scope name schema s).and
    (enumType_isNotEndless task plain name schema s)).mono (fun _ _ _ => trivial) ?_
  rintro e s' ⟨rfl, ends⟩
  exact (watch base entered).stops h ends

/-- With depth enough, giving a schema its type keeps the marks right, and comes to the bound only
if a component is entered again. -/
theorem resolver_watch (guarded : task.document.Guarded) (plain : IsPlain scope.resource)
    (base : List Event) (depth : Nat) : ∀ {entered parent found s},
      found.LiesIn task.document →
      (∀ tokens, entered = some tokens →
        Opened task scope tokens ∧ Enough task.document tokens depth found) →
      s.Watched base entered →
        (watch base entered).Leads (resolver task depth scope parent found) s
          fun resolved s' => (watch base entered).Fits s' resolved := by
  induction depth with
  | zero =>
      intro entered parent found s _ enough ⟨events, marks, open_⟩
      refine ⟨events, marks, fun _ => ?_⟩
      rcases open_ with again | ⟨tokens, same, -⟩
      · exact again
      · rcases (enough tokens same).2 with ⟨-, depth_lt⟩ | ⟨passed, -, depth_le⟩
        · exact absurd depth_lt (Nat.not_lt_zero _)
        · have size := found.schema.size_eq
          omega
  | succ depth ih =>
      intro entered parent found s inside enough h
      have serves : ∀ entered, (∀ called, Calls task.document found.schema called →
          ∀ tokens, entered = some tokens →
            Opened task scope tokens ∧ Enough task.document tokens depth called) →
          (watch base entered).Serves task (resolver task depth) scope found.schema := by
        intro entered enough
        exact ⟨fun called _ _ h => ih called.liesIn (enough _ called) h,
          fun name s h => enumType_watch plain name found.schema h⟩
      have enters : ∀ component, found.name = some component →
          (watch base entered).Leads
            (enterComponent task (resolver task depth) scope component found.schema) s
            fun resolved s' => (watch base entered).Fits s' resolved := by
        intro component name
        refine enterComponent_watch rfl (serves _ fun called calls tokens same => ?_) h
        obtain ⟨outer, rfl, fresh, rfl⟩ := Session.entering?_eq_some same
        obtain ⟨opened, outerEnough⟩ := enough outer rfl
        have known := (Lookup.component_mem (inside component name)).1
        have wider := opened.cons known rfl fresh
        exact ⟨wider, outerEnough.entering guarded inside wider.length_le calls⟩
      change (watch base entered).Leads (typeOf task (resolver task depth) scope parent found) s _
      by_cases passes : found.IsEntered
      · obtain ⟨component, name⟩ := Option.ne_none_iff_exists'.1 passes.1
        rw [typeOf_eq_enterComponent name passes.2]
        exact enters component name
      · refine Invariant.typeOf_leads (serves entered fun called calls tokens same => ?_) enters h
        exact ⟨(enough tokens same).1, (enough tokens same).2.inside guarded passes calls⟩

/-! ## The result -/

/-- How deep the bound of a schema is in terms of rooms. -/
theorem enough_of_depthBound {d : Document} {found : Lookup.Found} {depth : Nat}
    (deep : depthBound d found.schema ≤ depth) : Enough d [] depth found := by
  refine .inr ⟨[], .start _, Nat.le_trans ?_ deep⟩
  unfold Document.entryRoom Document.room depthBound
  have count : d.componentNames.length = d.tables.schemas.length := List.length_map ..
  rw [count, List.length_nil, Nat.sub_zero]
  generalize d.tables.schemas.length = n
  generalize componentsSize d = size
  have entry : n * (size + 1) + size + 1 = (n + 1) * (size + 1) := by
    rw [Nat.add_one_mul]
    rfl
  have all : (n + 1) * (n + 1) * (size + 1) =
      n * ((n + 1) * (size + 1)) + (n * (size + 1) + (size + 1)) := by
    rw [Nat.mul_assoc, Nat.add_one_mul n ((n + 1) * (size + 1)), Nat.add_one_mul n (size + 1)]
  rw [entry, all]
  omega

/-- In a guarded document, giving a schema its type ends and enters no component again while it is
under construction, exactly if no component under construction is met without its mark. -/
theorem resolver_ends_iff {task : InferenceTask} (guarded : task.document.Guarded) {scope : Scope}
    (plain : IsPlain scope.resource) {found : Lookup.Found} (inside : found.LiesIn task.document)
    {depth : Nat} (deep : depthBound task.document found.schema ≤ depth) (parent : String)
    (s : Session) :
    Ends (resolver task depth scope parent found) s
      (fun _ s' => ∃ events, s'.journal = events ++ s.journal ∧
        (Journal.reenters events = false ↔ Journal.meetsUnmarked events = false))
      fun e s' => ∃ events, s'.journal = events ++ s.journal ∧
        (¬ e.IsEndless ∧ Journal.reenters events = false ↔
          Journal.meetsUnmarked events = false) := by
  have start : s.Watched s.journal (some []) :=
    ⟨[], ⟨rfl, by simp [Journal.underConstruction], rfl⟩, .inr ⟨[], rfl, List.nil_subset _⟩⟩
  have opened : Opened task scope [] := ⟨List.nodup_nil, List.nil_subset _⟩
  have leads : (watch s.journal (some [])).Leads (resolver task depth scope parent found) s
      fun resolved s' => (watch s.journal (some [])).Fits s' resolved := by
    refine resolver_watch guarded plain s.journal depth inside (fun tokens same => ?_) start
    cases same
    exact ⟨opened, enough_of_depthBound deep⟩
  refine leads.ends.mono ?_ ?_
  · rintro resolved s' ⟨⟨events, marks, -⟩, -, -⟩
    exact ⟨events, marks.journal, by rw [marks.entered]⟩
  · rintro e s' ⟨events, marks, endless⟩
    refine ⟨events, marks.journal, ?_⟩
    rw [← marks.entered]
    constructor
    · exact And.right
    · intro notAgain
      exact ⟨fun h => by simp [endless h] at notAgain, notAgain⟩

/-- A node that contains nodes, as long as the recursion stops. -/
def nodesInNodes : Document := .having [("Node", .item (.object [("child", .to "Node")] []))] []

/-- In any session, a node that contains nodes gets its type without entering it again. -/
theorem node_ends :
    let node : Lookup.Found := ⟨some "Node", .object [("child", .to "Node")] []⟩
    nodesInNodes.Guarded ∧ depthBound nodesInNodes node.schema ≤ 100 ∧ ∀ s,
      Ends (resolver nodesInNodes.task 100 ⟨"tree", Naming.pascalCase "node"⟩ "P" node) s
        (fun _ s' => ∃ events, s'.journal = events ++ s.journal ∧
          (Journal.reenters events = false ↔ Journal.meetsUnmarked events = false))
        fun e s' => ∃ events, s'.journal = events ++ s.journal ∧
          (¬ e.IsEndless ∧ Journal.reenters events = false ↔
            Journal.meetsUnmarked events = false) := by
  intro node
  have guarded : nodesInNodes.task.document.Guarded := by
    refine Document.guarded_of_forall fun entry member schema same => ?_
    obtain rfl := List.mem_singleton.1 member
    cases same
    exact ⟨rfl, rfl⟩
  have plain : IsPlain (Scope.mk "tree" (Naming.pascalCase "node")).resource :=
    Naming.isPlain_pascalCase "node"
  have inside : node.LiesIn nodesInNodes.task.document :=
    Lookup.schema_liesIn (show Lookup.schema nodesInNodes (.to "Node") = .ok node from rfl)
  have deep : depthBound nodesInNodes.task.document node.schema ≤ 100 := by decide
  exact ⟨guarded, deep, resolver_ends_iff guarded plain inside deep "P"⟩

/-! ## Where it does not end -/

/-- A component with members that describes a map, and a property that comes back to it. -/
def entryOfMap : Schema := .object [("next", .to "Table")] []

/-- A map, as an object with one property and leave for any other. -/
def table : Schema :=
  { Schema.object [("entry", .item entryOfMap)] [] with
    additionalProperties := some (.allowed true) }

/-- The only component has members, but is seen through. -/
def tableOfEntries : Document := .having [("Table", .item table)] []

/-- A component whose name is that of another one with `Properties` behind it. -/
def barProperties : Schema := .object [("bar", .to "Bar"), ("self", .to "BarProperties")] []

/-- The schema in place that `Bar` consists of takes the token of `BarProperties`, and the merge
drops it. -/
def barAndProperties : Document :=
  .having [("BarProperties", .item barProperties),
    ("Bar", .item (.object [] [.item
      (.object [("name", .item { type := some (.single .string) })] [])]))] []

/-- All component schemas are objects with members. -/
def onlyComposites (d : Document) : Bool :=
  d.tables.schemas.all fun entry =>
    match entry.2 with
    | .item schema => schema.hasType .object && schema.isComposite
    | .ref _ => false

theorem entryOfMap_endless (depth : Nat) (scope : Scope) : ∀ parent s,
    Ends (resolver tableOfEntries.task depth scope parent ⟨none, entryOfMap⟩) s
      (fun _ _ => False) fun e _ => e.IsEndless := by
  induction depth with
  | zero => exact fun _ _ => trivial
  | succ depth ih =>
      intro parent s
      have tableFound : Lookup.schema tableOfEntries.task.document (.to "Table") =
          .ok ⟨some "Table", table⟩ := rfl
      have entryFound : Lookup.schema tableOfEntries.task.document (.item entryOfMap) =
          .ok ⟨none, entryOfMap⟩ := rfl
      have sameName : Naming.sdkName "next" = "next" := by decide
      have property : ∀ parent, Ends (addProperty tableOfEntries.task
          (resolver tableOfEntries.task depth) scope parent ∅ ("next", .to "Table")) s
          (fun _ _ => False) fun e _ => e.IsEndless := by
        intro parent
        simp only [addProperty, ends_bind, ends_find_of_ok tableFound, recordName, sameName,
          if_true, ends_pure, propertyTypeOf]
        exact ends_bind.2 ((ends_find_of_ok entryFound).2
          (ends_bind.2 ((ih "next" s).imp fun _ _ => False.elim)))
      have declared : (SortedMap.ofList entryOfMap.properties).toList =
          [("next", .to "Table")] := rfl
      change Ends (inlineType tableOfEntries.task _ scope parent entryOfMap) s _ _
      have members : entryOfMap.properties.isEmpty = false := rfl
      simp only [inlineType, members, Bool.not_false, if_true, objectType, objectMembers, declared,
        List.foldlM_cons, ends_bind]
      exact (property _).imp fun _ _ => False.elim

theorem onlyComposites_endless_and_reenters :
    (onlyComposites tableOfEntries = true ∧ ∀ depth scope parent s,
      Ends (resolver tableOfEntries.task depth scope parent ⟨none, entryOfMap⟩) s
        (fun _ _ => False) fun e _ => e.IsEndless) ∧
    onlyComposites barAndProperties = true ∧
      Journal.reenters ((propertyType barAndProperties.task ⟨"bar", "Bar"⟩ "P"
        ⟨some "BarProperties", barProperties⟩).run.run
          (.new barAndProperties.task.options)).2.journal = true :=
  ⟨⟨by decide +kernel, entryOfMap_endless⟩, by decide +kernel, by decide +kernel⟩

end Infer

end ResourceInference
