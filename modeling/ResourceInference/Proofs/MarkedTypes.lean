import ResourceInference.Proofs.Bodies
import ResourceInference.Proofs.Discriminators

/-!
# Marked tokens have types

A mark says that the component of a token has been entered, and a reference to a component that is
marked is answered with its token at once. So a mark without a type would lead to a type that does
not exist. While components are under construction there are such marks: a component has no type
before its members are made, and meanwhile its mark may be lost to a merge, or its token be taken by
a schema in place. What no step does is to abandon a token, that is to leave a mark without a type
behind that was not there before (`Session.AbandonsNothing`). This needs no record of what is under
construction, since a component that is left has a type, whoever registered it.

What is true of single changes is true of every call that makes types or changes the table of types
(`SessionCall.run_marks`), and so of all sessions that successful calls lead to. There every marked
token has a type, and a reference that is answered at once leads to it (`marked_registered`). A call
that fails may abandon the components that it has entered.
-/

set_option autoImplicit false

namespace ResourceInference

/-! ## Abandoned tokens -/

namespace Session

/-- A token is marked, but has no type. -/
def Abandoned (s : Session) (token : String) : Prop :=
  s.visited.contains token = true ∧ ¬ s.package.types.contains token = true

instance (s : Session) (token : String) : Decidable (s.Abandoned token) :=
  inferInstanceAs (Decidable (_ ∧ _))

/-- No token is abandoned that was not abandoned before. -/
structure AbandonsNothing (s s' : Session) : Prop where
  before : ∀ token, s'.Abandoned token → s.Abandoned token

variable {s s' s'' : Session}

theorem AbandonsNothing.trans (first : s.AbandonsNothing s') (second : s'.AbandonsNothing s'') :
    s.AbandonsNothing s'' :=
  ⟨fun token abandoned => first.before token (second.before token abandoned)⟩

/-- No token is marked anew, and those that go on to be marked keep their types. -/
theorem AbandonsNothing.of_kept
    (kept : ∀ token, s'.visited.contains token = true → s.visited.contains token = true ∧
      (s.package.types.contains token = true → s'.package.types.contains token = true)) :
    s.AbandonsNothing s' := by
  refine ⟨fun token ⟨marked, free⟩ => ?_⟩
  obtain ⟨before, keeps⟩ := kept token marked
  exact ⟨before, fun registered => free (keeps registered)⟩

/-- Neither the marks nor the table of types has changed. -/
theorem AbandonsNothing.of_same (marks : s'.visited = s.visited)
    (types : s'.package.types = s.package.types) : s.AbandonsNothing s' :=
  .of_kept fun token marked => ⟨by rwa [← marks], fun registered => by rwa [types]⟩

theorem AbandonsNothing.withType (token : String) (type : NamedType) :
    s.AbandonsNothing (s.withType token type) :=
  .of_kept fun _ marked =>
    ⟨marked, fun registered => (SortedMap.contains_insert ..).2 (.inr registered)⟩

theorem AbandonsNothing.unmarking (token : String) :
    s.AbandonsNothing { s with visited := s.visited.erase token } :=
  .of_kept fun _ marked => ⟨((SortedMap.contains_erase ..).1 marked).2, id⟩

theorem AbandonsNothing.dropping (token : String) : s.AbandonsNothing (s.dropping token) := by
  refine .of_kept fun other marked => ?_
  obtain ⟨ne, before⟩ := (SortedMap.contains_erase ..).1 marked
  exact ⟨before, fun registered => (SortedMap.contains_erase ..).2 ⟨ne, registered⟩⟩

theorem AbandonsNothing.moving (source target : String) (type : NamedType) :
    s.AbandonsNothing (s.moving source target type) := by
  refine .of_kept fun other marked => ?_
  obtain ⟨ne, before⟩ := (SortedMap.contains_erase ..).1 marked
  refine ⟨before, fun registered => (SortedMap.contains_insert ..).2 (.inr ?_)⟩
  exact (SortedMap.contains_erase ..).2 ⟨ne, registered⟩

/-- A component that is left with a type: what its own mark has added is not abandoned. -/
theorem AbandonsNothing.building {component token : String}
    (later : ((s.noted (.referred component token)).entering token).AbandonsNothing s')
    (registered : s'.package.types.contains token = true) :
    s.AbandonsNothing (s'.noted (.left token)) := by
  refine ⟨fun other abandoned => ?_⟩
  obtain ⟨marked, free⟩ := later.before other abandoned
  rcases (SortedMap.contains_insert ..).1 marked with rfl | before
  · exact absurd registered abandoned.2
  · exact ⟨before, free⟩

end Session

/-- The course along which no token is abandoned. -/
def Course.marking : Course where
  rel := Session.AbandonsNothing
  breaks _ _ := True
  refl _ := ⟨fun _ => id⟩
  trans := .trans
  breaksOff _ := trivial
  breaksLater _ _ := trivial

theorem Course.marking_runs {α : Type} {x : Infer α} {s : Session} (writes : Infer.WritesTables x) :
    Course.marking.Runs x s fun _ _ => True := by
  refine .of_writesTables writes ?_
  rintro _ ⟨_, rfl⟩
  exact .of_same rfl rfl

/-- The frame along which no token is abandoned, whatever schema types are asked of. -/
def Frame.marking (task : InferenceTask) : Frame task where
  toCourse := .marking
  toFinds := .all task.document
  done _ _ := True
  named _ _ := True
  doneLasts _ := id
  namedLasts _ := id
  registers _ _ := .withType ..
  forms _ := .of_same rfl rfl
  merges _ _ := .of_same rfl rfl
  drops _ _ := .dropping _
  records _ _ := Course.marking_runs (Infer.recordName_writesTables ..)
  pathParameters _ _ := .of_same rfl rfl
  autoNames _ _ := .of_same rfl rfl
  finishes _ := trivial
  refers _ _ _ := .of_same rfl rfl
  builds _ later registered _ _ := .building later registered
  breaksBuilding _ := trivial

/-! ## Calls -/

/-- A call that makes types, or changes the table of types, with its arguments. -/
inductive SessionCall where
  /-- Give a schema its type. -/
  | propertyType (scope : Scope) (parent : String) (found : Lookup.Found)
  /-- Make the members of an object. -/
  | objectMembers (scope : Scope) (parent : String) (schema : Schema)
  /-- Merge the parts of an `allOf`. -/
  | mergedMembers (scope : Scope) (parent : String) (parts : List SchemaOrRef)
  /-- Make a resource from its bodies. -/
  | gatherResource (scope : Scope) (bodies : ResourceBodies) (path : String)
  /-- Make a function that reads one thing. -/
  | getFunction (scope : Scope) (item : PathItem) (operation : Operation) (name : String)
      (returns : Option Lookup.Found)
  /-- Make a function that lists. -/
  | listFunction (scope : Scope) (item : PathItem) (operation : Operation) (name : String)
      (returns : Lookup.Found)
  /-- Register a type, unless its token is taken. -/
  | register (token : String) (type : NamedType)
  /-- Drop a type. -/
  | removeType (token : String)
  /-- Put the type under a token under another one. -/
  | moveType (source target : String)

namespace SessionCall

variable {task : InferenceTask} {s : Session} {scope : Scope}

/-- Make a call. What it gives is left out: only the session that it leaves behind matters. -/
def run (task : InferenceTask) : SessionCall → Infer Unit
  | propertyType scope parent found => do
    let _ ← Infer.propertyType task scope parent found
  | objectMembers scope parent schema => do
    let _ ← Infer.objectMembers task (Infer.propertyType task) scope parent schema
  | mergedMembers scope parent parts => do
    let _ ← Infer.mergedMembers task (Infer.propertyType task) scope parent parts
  | gatherResource scope bodies path => do
    let _ ← Infer.gatherResource task scope bodies path
  | getFunction scope item operation name returns => do
    let _ ← Infer.getFunction task scope item operation name returns
  | listFunction scope item operation name returns => do
    let _ ← Infer.listFunction task scope item operation name returns
  | register token type => do
    let _ ← Infer.register token type
  | removeType token => Infer.removeType token
  | moveType source target => Infer.moveType source target

/-- What a step stays on, it stays on also if its result is left out. -/
theorem runs_without_result {C : Course} {α : Type} {x : Infer α} {post : α → Session → Prop}
    (h : C.Runs x s post) : C.Runs (do let _ ← x) s fun _ _ => True :=
  h.bind fun _ _ _ _ => .pure trivial

theorem gatherResource_marks {bodies : ResourceBodies} {path : String} :
    Course.marking.Runs (Infer.gatherResource task scope bodies path) s fun _ _ => True := by
  refine (Frame.gatherDraft_runs (F := .marking task)).left.bind fun draft s₁ _ _ => ?_
  refine (Course.marking_runs (Infer.seat_writesTables ..)).bind fun _ s₂ _ _ => ?_
  exact ⟨.of_same rfl rfl, trivial⟩

theorem renameListType_marks {name : String} {type : TypeSpec} :
    Course.marking.Runs (Infer.renameListType name type) s fun _ _ => True := by
  refine ⟨(Infer.renameListType_ends name type s).mono ?_ fun _ _ => False.elim⟩
  intro _ s' moves
  cases moves with
  | stays => exact ⟨Course.marking.refl s, trivial⟩
  | unmarked source => exact ⟨.unmarking source, trivial⟩
  | moved target _ => exact ⟨.moving _ target _, trivial⟩

theorem listFunction_marks {item : PathItem} {operation : Operation} {name : String}
    {returns : Lookup.Found} :
    Course.marking.Runs (Infer.listFunction task scope item operation name returns) s
      fun _ _ => True := by
  have serves := Frame.propertyType_serves (.marking task)
  refine (Frame.pathParameters_runs (F := .marking task)).left.bind fun inputs s₁ _ _ => ?_
  refine (serves _ _ _ s₁ trivial).left.bind fun resolved s₂ _ _ => ?_
  exact renameListType_marks.bind fun _ _ _ _ => .pure trivial

theorem register_marks {token : String} {type : NamedType} :
    Course.marking.Runs (Infer.register token type) s fun _ _ => True := by
  cases taken : s.package.types.get? token with
  | none => exact ⟨(Infer.ends_register taken).2 ⟨.withType token type, trivial⟩⟩
  | some existing =>
      exact ⟨(Infer.ends_register_of_taken taken).2 ⟨Course.marking.refl s, trivial⟩⟩

theorem moveType_marks {source target : String} :
    Course.marking.Runs (Infer.moveType source target) s fun _ _ => True := by
  cases registered : s.package.types.get? source with
  | none => exact ⟨(Infer.ends_moveType_of_none registered).2 ⟨.unmarking source, trivial⟩⟩
  | some type =>
      exact ⟨(Infer.ends_moveType registered).2 ⟨.moving source target type, trivial⟩⟩

/-- A call that is successful abandons no token. -/
theorem run_marks (call : SessionCall) : Course.marking.Runs (call.run task) s fun _ _ => True := by
  have serves := Frame.propertyType_serves (.marking task)
  cases call with
  | propertyType scope parent found =>
      exact runs_without_result (serves scope parent found s trivial).left
  | objectMembers scope parent schema =>
      exact runs_without_result (Frame.objectMembers_runs serves).left
  | mergedMembers scope parent parts =>
      exact runs_without_result (Frame.mergedMembers_runs serves).left
  | gatherResource scope bodies path => exact runs_without_result gatherResource_marks
  | getFunction scope item operation name returns =>
      have allowed : ∀ found, returns = some found → (Frame.marking task).allows found :=
        fun _ _ => trivial
      exact runs_without_result (Frame.getFunction_runs allowed).left
  | listFunction scope item operation name returns => exact runs_without_result listFunction_marks
  | register token type => exact runs_without_result register_marks
  | removeType token => exact ⟨Infer.ends_removeType.2 ⟨.dropping token, trivial⟩⟩
  | moveType source target => exact moveType_marks

/-- Calls in a row abandon no token, if all of them are successful. -/
theorem calls_mark (calls : List SessionCall) :
    Course.marking.Runs (calls.forM (run task)) s fun _ _ => True := by
  have each : Course.marking.Runs (calls.forM (run task)) s fun _ _ => ∀ call ∈ calls, True :=
    .forM (fun _ _ _ _ => id) fun call _ _ => call.run_marks
  exact each.imp fun _ _ _ _ => trivial

end SessionCall

/-! ## The result -/

/-- In every session that successful calls lead to from a new one, whichever calls and however many,
every marked token has a type. So where the type of a component is asked for next and its token is
marked, the answer is this token, nothing is made, and the token has a type. -/
theorem marked_registered {task : InferenceTask} {calls : List SessionCall} {s : Session}
    (ran : (calls.forM (SessionCall.run task)).run.run (Session.new task.options) = (.ok (), s)) :
    (∀ token, s.visited.contains token = true → s.package.types.contains token = true) ∧
    ∀ (scope : Scope) (parent component token : String) (found : Lookup.Found),
      found.name = some component → found.schema.isEntered = true →
        task.token scope.module (Naming.pascalCase component) = token →
          s.visited.contains token = true →
            Infer.Ends (Infer.propertyType task scope parent found) s
              (fun resolved s' => resolved = ⟨.named token, false⟩ ∧ s'.package = s.package ∧
                s.package.types.contains token = true)
              fun _ _ => False := by
  have registered : ∀ token, s.visited.contains token = true →
      s.package.types.contains token = true := by
    intro token marked
    have later := ((SessionCall.calls_mark calls).ends.of_run ran).1
    refine Decidable.byContradiction fun free => ?_
    obtain ⟨markedAtFirst, -⟩ := later.before token ⟨marked, free⟩
    cases markedAtFirst
  refine ⟨registered, fun scope parent component token found named entered isToken marked => ?_⟩
  rw [Infer.propertyType, Infer.depthBound, Infer.resolver,
    Infer.typeOf_of_isEntered named entered, Infer.ends_enterComponent isToken, if_pos marked]
  exact ⟨rfl, rfl, registered token marked⟩

/-- A component that refers to itself and to another one. -/
def treeNode : Schema := .object [("next", .to "Node"), ("leaf", .to "Leaf")] []

/-- Components of which only the one that refers to itself is to keep its type and its mark. -/
def tree : InferenceTask :=
  (Document.having [("Node", .item treeNode), ("Leaf", .item (.texts ["color"])),
    ("Bark", .item (.texts ["texture"]))] []).task

/-- Calls that enter all components: the type of one is dropped with the merge that it was made for,
that of another one moves. -/
def treeCalls : List SessionCall :=
  [.propertyType ⟨"m", "Res"⟩ "Tree" ⟨some "Node", treeNode⟩,
    .mergedMembers ⟨"m", "Res"⟩ "Tree" [.to "Bark"],
    .moveType "pkg:m:Leaf" "pkg:m:Foliage"]

/-- After the calls the component that refers to itself is marked, and a reference to it leads to
its type. -/
theorem treeNode_registered : ∃ s,
    (treeCalls.forM (SessionCall.run tree)).run.run (Session.new tree.options) = (.ok (), s) ∧
      s.visited.keys = ["pkg:m:Node"] ∧ s.package.types.contains "pkg:m:Node" = true ∧
        Infer.Ends (Infer.propertyType tree ⟨"m", "Res"⟩ "Tree" ⟨some "Node", treeNode⟩) s
          (fun resolved s' => resolved = ⟨.named "pkg:m:Node", false⟩ ∧ s'.package = s.package ∧
            s.package.types.contains "pkg:m:Node" = true)
          fun _ _ => False := by
  obtain ⟨⟨⟩, s, ran, marks⟩ :=
    Infer.exists_run (treeCalls.forM (SessionCall.run tree)) (Session.new tree.options)
      (fun _ s => s.visited.keys = ["pkg:m:Node"]) (by decide +kernel)
  have marked : s.visited.contains "pkg:m:Node" = true := by
    rw [← SortedMap.mem_keys_iff, marks]
    exact List.mem_singleton.2 rfl
  obtain ⟨registered, answered⟩ := marked_registered ran
  exact ⟨s, ran, marks, registered _ marked,
    answered ⟨"m", "Res"⟩ "Tree" "Node" _ _ rfl (by decide) (by decide +kernel) marked⟩

/-- A call that fails while the members of a component are made abandons it: its mark stays. -/
example :
    let call := SessionCall.propertyType ⟨"m", "Res"⟩ "Tree"
      ⟨some "Hole", .object [("inside", .item {})] []⟩
    Session.Abandoned ((call.run tree).run.run Session.first).2 "pkg:m:Hole" := by
  decide +kernel

end ResourceInference
