import ResourceInference.Proofs.History
import ResourceInference.Proofs.Runs

/-!
# Dangling references

A token that an extraction mentions need not be registered in it: a merge drops a type that was
registered for it alone, also if the type mentions itself or was mentioned while it was made, and a
list that is renamed leaves references to its old token behind. These are the only ways: what an
extraction mentions is registered, or its type was taken away during the run
(`registered_or_takenAway`). So no reference dangles exactly if every type that was taken away and
is still mentioned has been registered again (`mentioned_registered_iff`).

References are answered before their target is registered. What holds at all times is that a token
that is mentioned is registered, or under construction, or was taken away (`Session.Accounts`), and
nothing is under construction between two operations.
-/

set_option autoImplicit false

namespace ResourceInference

/-! ## Accounts -/

namespace Session

/-- A token may be mentioned: it is registered, or under construction, or was taken away. -/
def Accounts (s : Session) (token : String) : Prop :=
  s.package.types.contains token = true ∨ token ∈ Journal.underConstruction s.journal ∨
    Journal.takenAway s.journal token = true

/-- The components of some tokens are under construction, every token that is mentioned is
accounted for, and so is every mark. -/
structure Accounted (building : List String) (s : Session) : Prop where
  construction : Journal.underConstruction s.journal = building
  marked : ∀ token, s.visited.contains token = true →
    s.package.types.contains token = true ∨ token ∈ building
  types : ∀ {token type}, s.package.types.get? token = some type →
    ∀ mentioned ∈ type.tokens, s.Accounts mentioned
  resources : ∀ {token resource}, s.package.resources.get? token = some resource →
    ∀ mentioned ∈ resource.tokens, s.Accounts mentioned
  functions : ∀ {token function}, s.package.functions.get? token = some function →
    ∀ mentioned ∈ function.tokens, s.Accounts mentioned

variable {building building' : List String} {s s' : Session} {token : String}

theorem contains_of_get? {type : NamedType} (h : s.package.types.get? token = some type) :
    s.package.types.contains token = true := (SortedMap.contains_iff ..).2 ⟨type, h⟩

/-- Types, marks and journal may change, as long as the accounts are kept. -/
theorem Accounted.change (h : s.Accounted building)
    (construction : Journal.underConstruction s'.journal = building')
    (keeps : ∀ token, s.Accounts token → s'.Accounts token)
    (marked : ∀ token, s'.visited.contains token = true →
      s'.package.types.contains token = true ∨ token ∈ building')
    (types : ∀ {token type}, s'.package.types.get? token = some type →
      (∃ earlier, s.package.types.get? earlier = some type) ∨
        ∀ mentioned ∈ type.tokens, s'.Accounts mentioned)
    (resources : s'.package.resources = s.package.resources)
    (functions : s'.package.functions = s.package.functions) : s'.Accounted building' where
  construction := construction
  marked := marked
  types := by
    intro token type registered mentioned member
    rcases types registered with ⟨earlier, before⟩ | covered
    · exact keeps mentioned (h.types before mentioned member)
    · exact covered mentioned member
  resources := by
    intro token resource registered mentioned member
    rw [resources] at registered
    exact keeps mentioned (h.resources registered mentioned member)
  functions := by
    intro token function registered mentioned member
    rw [functions] at registered
    exact keeps mentioned (h.functions registered mentioned member)

/-! ## Single changes -/

theorem accounts_withType (type : NamedType) {other : String} (h : s.Accounts other) :
    (s.withType token type).Accounts other := by
  rcases h with registered | rest
  · exact .inl ((SortedMap.contains_insert ..).2 (.inr registered))
  · exact .inr rest

theorem Accounted.withType {type : NamedType} (h : s.Accounted building)
    (covers : ∀ mentioned ∈ type.tokens, s.Accounts mentioned) :
    (s.withType token type).Accounted building := by
  refine h.change h.construction (fun _ => accounts_withType type) (fun other visited => ?_)
    (fun {other named} registered => ?_) rfl rfl
  · rcases h.marked other visited with registered | open_
    · exact .inl ((SortedMap.contains_insert ..).2 (.inr registered))
    · exact .inr open_
  · rw [get?_withType] at registered
    split at registered
    · cases registered
      exact .inr fun mentioned member => accounts_withType _ (covers mentioned member)
    · exact .inl ⟨other, registered⟩

/-- An event that neither begins nor ends a construction keeps the accounts. -/
theorem accounts_noted {event : Event} {other : String}
    (construction : Journal.underConstruction (event :: s.journal) =
      Journal.underConstruction s.journal) (h : s.Accounts other) :
    (s.noted event).Accounts other := by
  rcases h with registered | open_ | taken
  · exact .inl registered
  · exact .inr (.inl (by rwa [← construction] at open_))
  · exact .inr (.inr ((Journal.takenAway_cons ..).2 (.inr taken)))

theorem Accounted.noted {event : Event} (h : s.Accounted building)
    (construction : Journal.underConstruction (event :: s.journal) =
      Journal.underConstruction s.journal) : (s.noted event).Accounted building :=
  h.change (construction.trans h.construction) (fun _ => accounts_noted construction) h.marked
    (fun registered => .inl ⟨_, registered⟩) rfl rfl

theorem accounts_dropping {other : String} (h : s.Accounts other) :
    (s.dropping token).Accounts other := by
  rcases h with registered | open_ | taken
  · by_cases same : other = token
    · exact .inr (.inr ((Journal.takenAway_cons ..).2 (.inl (by simp [Journal.takesAway, same]))))
    · exact .inl ((SortedMap.contains_erase ..).2 ⟨same, registered⟩)
  · exact .inr (.inl open_)
  · exact .inr (.inr ((Journal.takenAway_cons ..).2 (.inr taken)))

theorem Accounted.dropping (h : s.Accounted building) :
    (s.dropping token).Accounted building := by
  refine h.change h.construction (fun _ => accounts_dropping) (fun other visited => ?_)
    (fun {other type} registered => ?_) rfl rfl
  · obtain ⟨ne, before⟩ := (SortedMap.contains_erase ..).1 visited
    exact (h.marked other before).imp_left fun registered =>
      (SortedMap.contains_erase ..).2 ⟨ne, registered⟩
  · rw [get?_dropping] at registered
    split at registered
    · cases registered
    · exact .inl ⟨other, registered⟩

theorem accounts_moving {target : String} (type : NamedType) {other : String}
    (h : s.Accounts other) : (s.moving token target type).Accounts other := by
  rcases h with registered | open_ | taken
  · by_cases same : other = token
    · exact .inr (.inr ((Journal.takenAway_cons ..).2 (.inl (by simp [Journal.takesAway, same]))))
    · refine .inl ((SortedMap.contains_insert ..).2 (.inr ?_))
      exact (SortedMap.contains_erase ..).2 ⟨same, registered⟩
  · exact .inr (.inl open_)
  · exact .inr (.inr ((Journal.takenAway_cons ..).2 (.inr taken)))

theorem Accounted.moving {target : String} {type : NamedType} (h : s.Accounted building)
    (registered : s.package.types.get? token = some type) :
    (s.moving token target type).Accounted building := by
  refine h.change h.construction (fun _ => accounts_moving type) (fun other visited => ?_)
    (fun {other named} found => ?_) rfl rfl
  · obtain ⟨ne, before⟩ := (SortedMap.contains_erase ..).1 visited
    refine (h.marked other before).imp_left fun registered => ?_
    exact (SortedMap.contains_insert ..).2 (.inr ((SortedMap.contains_erase ..).2 ⟨ne, registered⟩))
  · rw [get?_moving] at found
    split at found
    · cases found
      exact .inl ⟨token, registered⟩
    · split at found
      · cases found
      · exact .inl ⟨other, found⟩

theorem Accounted.withResource {resource : ResourceSpec} (h : s.Accounted building)
    (covers : ∀ mentioned ∈ resource.tokens, s.Accounts mentioned) :
    (s.withResource token resource).Accounted building where
  construction := h.construction
  marked := h.marked
  types := h.types
  resources := by
    intro other found registered
    rw [get?_withResource] at registered
    split at registered
    · cases registered
      exact covers
    · exact h.resources registered
  functions := h.functions

theorem Accounted.withFunction {function : FunctionSpec} (h : s.Accounted building)
    (covers : ∀ mentioned ∈ function.tokens, s.Accounts mentioned) :
    (s.withFunction token function).Accounted building where
  construction := h.construction
  marked := h.marked
  types := h.types
  resources := h.resources
  functions := by
    intro other found registered
    rw [get?_withFunction] at registered
    split at registered
    · cases registered
      exact covers
    · exact h.functions registered

/-! ## Construction -/

theorem accounts_entering {other : String} (h : s.Accounts other) :
    (s.entering token).Accounts other := by
  rcases h with registered | open_ | taken
  · exact .inl registered
  · exact .inr (.inl (List.mem_cons_of_mem _ open_))
  · exact .inr (.inr ((Journal.takenAway_cons ..).2 (.inr taken)))

theorem Accounted.entering (h : s.Accounted building) :
    (s.entering token).Accounted (token :: building) := by
  refine h.change ?_ (fun _ => accounts_entering) (fun other visited => ?_)
    (fun registered => .inl ⟨_, registered⟩) rfl rfl
  · exact congrArg (token :: ·) h.construction
  · rcases (SortedMap.contains_insert ..).1 visited with rfl | before
    · exact .inr List.mem_cons_self
    · exact (h.marked other before).imp_right (List.mem_cons_of_mem _)

/-- A construction may end when the type is registered. -/
theorem accounts_leaving {other : String} (h : s.Accounted (token :: building))
    (registered : s.package.types.contains token = true) (accounts : s.Accounts other) :
    (s.noted (.left token)).Accounts other := by
  rcases accounts with found | open_ | taken
  · exact .inl found
  · rw [h.construction] at open_
    rcases List.mem_cons.1 open_ with rfl | open_
    · exact .inl registered
    · refine .inr (.inl ?_)
      change other ∈ (Journal.underConstruction s.journal).erase token
      rwa [h.construction, List.erase_cons_head]
  · exact .inr (.inr ((Journal.takenAway_cons ..).2 (.inr taken)))

theorem Accounted.leaving (h : s.Accounted (token :: building))
    (registered : s.package.types.contains token = true) :
    (s.noted (.left token)).Accounted building := by
  refine h.change ?_ (fun _ => accounts_leaving h registered) (fun other visited => ?_)
    (fun found => .inl ⟨_, found⟩) rfl rfl
  · change (Journal.underConstruction s.journal).erase token = building
    rw [h.construction, List.erase_cons_head]
  · rcases h.marked other visited with found | open_
    · exact .inl found
    · rcases List.mem_cons.1 open_ with rfl | open_
      · exact .inl registered
      · exact .inr open_

end Session

/-! ## The invariant -/

/-- All mentioned tokens are accounted for, while some components are under construction. -/
def accounts (building : List String) : Invariant where
  holds := Session.Accounted building
  later s s' := ∀ token, s.Accounts token → s'.Accounts token
  good := Session.Accounts
  answer s token := s.package.types.contains token = true ∨ token ∈ building
  fails _ _ := True
  refl _ _ := id
  trans first second token h := second token (first token h)
  lasts later := later _
  stops _ _ := trivial
  tables h changes := by
    obtain ⟨metadata, rfl⟩ := changes
    exact ⟨h.change h.construction (fun _ => id) h.marked (fun found => .inl ⟨_, found⟩) rfl rfl,
      fun _ => id⟩
  known h registered :=
    ⟨.inl (Session.contains_of_get? registered), .inl (Session.contains_of_get? registered),
      h.types registered⟩
  registers h _ covers := ⟨h.withType covers, fun _ => Session.accounts_withType _⟩
  forms _ _ h := ⟨h.noted rfl, fun _ => Session.accounts_noted rfl⟩
  merges _ h := ⟨h.noted rfl, fun _ => Session.accounts_noted rfl⟩
  drops _ h := ⟨h.dropping, fun _ => Session.accounts_dropping⟩

namespace Infer

variable {task : InferenceTask} {building : List String} {s : Session}

theorem enterComponent_accounts {resolve : Resolver} {scope : Scope} {component : String}
    {schema : Schema}
    (serves : ∀ token, (accounts (token :: building)).Serves task resolve scope schema)
    (h : s.Accounted building) :
    (accounts building).Leads (enterComponent task resolve scope component schema) s
      fun resolved s' => (accounts building).Fits s' resolved := by
  generalize named : task.token scope.module (Naming.pascalCase component) = token
  have met : (s.noted (.referred component token)).Accounted building := h.noted rfl
  have later : ∀ other, s.Accounts other → (s.noted (.referred component token)).Accounts other :=
    fun _ => Session.accounts_noted rfl
  refine ⟨Invariant.enterComponent_ends named (fun visited => ?_)
    (fun _ => Invariant.objectType_leads (serves token) met.entering) (fun _ _ => id)
    (fun {type s₁ resolved s₂} later₁ covers registers made later₂ fits => ?_) fun _ _ => id⟩
  · have answer := met.marked token visited
    refine ⟨met, later, fun other mentioned => ?_, fun other same => ?_⟩
    · obtain rfl := List.mem_singleton.1 mentioned
      exact answer.imp_right fun open_ => .inl (by rwa [met.construction])
    · cases same
      exact answer
  · obtain ⟨_, found, -⟩ := registers.registered
    have registered := Session.contains_of_get? found
    refine ⟨made.leaving registered, fun other before => ?_, fun other mentioned => ?_, ?_⟩
    · exact Session.accounts_leaving made registered
        (later₂ other (later₁ other (Session.accounts_entering (later other before))))
    · exact Session.accounts_leaving made registered (fits.covers other mentioned)
    · intro other same
      rcases fits.answers other same with found | open_
      · exact .inl found
      · rcases List.mem_cons.1 open_ with rfl | open_
        · exact .inl registered
        · exact .inr open_

/-- Giving a schema its type keeps the accounts. -/
theorem resolver_accounts (task : InferenceTask) (depth : Nat) :
    ∀ {building scope parent found s}, Session.Accounted building s →
      (accounts building).Leads (resolver task depth scope parent found) s
        fun resolved s' => (accounts building).Fits s' resolved := by
  induction depth with
  | zero => exact fun _ => ⟨trivial⟩
  | succ depth ih =>
      intro building scope parent found s h
      have serves : ∀ building, (accounts building).Serves task (resolver task depth) scope
          found.schema :=
        fun building => .of_mayFail (fun _ _ => trivial) fun _ _ _ h => ih h
      exact Invariant.typeOf_leads (serves building)
        (fun _ _ => enterComponent_accounts (fun token => serves (token :: building)) h) h

/-- When a list that is renamed has a registered type, the renamed type is accounted for. -/
theorem renameListType_accounts {name : String} {resolved : Resolved} (h : s.Accounted [])
    (fits : (accounts []).Fits s resolved) :
    (accounts []).Leads (renameListType name resolved.type) s
      fun type s' => (accounts []).Covers s' type.tokens := by
  unfold renameListType
  dsimp only
  split
  · rename_i token target renamed
    obtain ⟨source, named, moved⟩ := Option.bind_eq_some_iff.1 renamed
    obtain ⟨_, -, same⟩ := Option.map_eq_some_iff.1 moved
    cases same
    rcases fits.answers token named with found | open_
    · obtain ⟨type, registered⟩ := (SortedMap.contains_iff ..).1 found
      refine ⟨ends_bind.2 ((ends_moveType registered).2 ?_)⟩
      have there : (s.moving token target type).package.types.get? target = some type := by
        simp [Session.get?_moving]
      refine ⟨h.moving registered, fun _ => Session.accounts_moving type, fun other member => ?_⟩
      obtain rfl := List.mem_singleton.1 member
      exact .inl (Session.contains_of_get? there)
    · cases open_
  · exact .pure h fits.covers

end Infer

/-- The invariant over a whole run: between two operations nothing is under construction. -/
def runAccounts (task : InferenceTask) : RunInvariant task where
  toInvariant := accounts []
  mayFail _ _ := trivial
  resolves _ _ h := Infer.resolver_accounts task _ h
  lists _ _ h := Invariant.Leads.bind (Infer.resolver_accounts task _ h)
    fun _ _ h _ fits => Infer.renameListType_accounts h fits
  knownResource h registered := h.resources registered
  putsResource h covers := ⟨h.withResource covers, fun _ => id⟩
  putsFunction h covers := ⟨h.withFunction covers, fun _ => id⟩

/-! ## Extractions -/

theorem accounted_new (options : InferenceOptions) : (Session.new options).Accounted [] where
  construction := rfl
  marked _ visited := by cases visited
  types registered := by cases registered
  resources registered := by cases registered
  functions registered := by cases registered

/-- What an extraction mentions is registered, or its type was taken away. -/
theorem registered_or_takenAway {task : InferenceTask} {e : Extraction} (h : extract task = .ok e)
    {token : String} (mentioned : token ∈ e.package.tokens) :
    e.package.types.contains token = true ∨
      Journal.takenAway task.lastSession.journal token = true := by
  have accounted := (runAccounts task).holds_lastSession (accounted_new _) h
  have package : e.package = task.lastSession.package := by rw [extract_eq_finish h]; rfl
  rw [package] at mentioned ⊢
  have accounts : task.lastSession.Accounts token := by
    rcases Package.mem_tokens_iff.1 mentioned with
      ⟨_, _, present, inside⟩ | ⟨_, _, present, inside⟩ | ⟨_, _, present, inside⟩
    · exact accounted.resources present token inside
    · exact accounted.types present token inside
    · exact accounted.functions present token inside
  rcases accounts with registered | open_ | taken
  · exact .inl registered
  · rw [accounted.construction] at open_
    cases open_
  · exact .inr taken

/-- A node that contains nodes, and a leaf that consists of what a node has. The merge for the leaf
drops the node, although it mentions itself. -/
def nodeAndLeaf (paths : List (String × PathItem)) : InferenceTask :=
  (Document.having
    [("Node", .item (.object [("child", .to "Node")] [])),
      ("Leaf", .item (.object [] [.to "Node"]))] paths).task

theorem leaf_mentions_unregistered :
    ∃ e, extract (nodeAndLeaf [("/leaf", .reading "getLeaf" (.to "Leaf"))]) = .ok e ∧
      "pkg:leaf:Node" ∈ e.package.tokens ∧ e.package.types.contains "pkg:leaf:Node" = false :=
  ⟨_, extract_of_isOk (by decide +kernel), by decide +kernel, by decide +kernel⟩

/-- No reference of an extraction dangles exactly if every type that was taken away during the run
and that the extraction still mentions is registered again. -/
theorem mentioned_registered_iff {task : InferenceTask} {e : Extraction}
    (h : extract task = .ok e) :
    (∀ token ∈ e.package.tokens, e.package.types.contains token = true) ↔
      ∀ token ∈ e.package.tokens, Journal.takenAway task.lastSession.journal token = true →
        e.package.types.contains token = true := by
  constructor
  · intro all token mentioned _
    exact all token mentioned
  · intro restored token mentioned
    rcases registered_or_takenAway h mentioned with registered | taken
    · exact registered
    · exact restored token mentioned taken

/-- The node is registered again when it is read itself. -/
theorem node_read_mentioned_registered :
    let task := nodeAndLeaf
      [("/tree/leaf", .reading "getLeaf" (.to "Leaf")),
        ("/tree/node", .reading "getNode" (.to "Node"))]
    Journal.takenAway task.lastSession.journal "pkg:tree:Node" = true ∧
      ∀ token ∈ task.lastSession.finish.package.tokens,
        task.lastSession.finish.package.types.contains token = true :=
  ⟨by decide +kernel,
    (mentioned_registered_iff (extract_of_isOk (by decide +kernel))).2 (by decide +kernel)⟩

end ResourceInference
