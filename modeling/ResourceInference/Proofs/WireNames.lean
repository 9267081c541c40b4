import ResourceInference.Proofs.Operations

/-!
# The way back to wire names

A package speaks of SDK names, and the tables beside it lead back to the wire names
(`Metadata.Restores`). A name that differs from its SDK name is noted when it is used, and then it
is restored; a name that is its own SDK name is not noted, so nothing keeps another name from taking
its place. In an extraction a used name is restored exactly if no other name is noted for its SDK
name (`used_restored_iff`); `fooBar` beside `foo_bar` is lost (`ownName_lost`).

What is used is told by the document, with two exceptions, in which it depends on the run. A
component that is met may be answered with the type of another one, so the journal says which ones
are entered (`Journal.Enters`). And which members an object obtains from its parts depends on what
is registered under their tokens when they are merged; so it is the journal that says which members
an object has got, and thereby which of the names that its schema requires mean a member
(`Journal.Requires`, `Infer.objectMembers_tells`).
-/

set_option autoImplicit false

namespace ResourceInference

/-! ## Single assignment -/

/-- A key that is given a value has it, and the table has nothing new beside it. -/
theorem get?_assign {table assigned : SortedMap String} {key value : String}
    (h : assign table key value = .ok assigned) (other held : String) :
    assigned.get? other = some held ↔
      other = key ∧ held = value ∨ table.get? other = some held := by
  unfold assign at h
  split at h
  · rename_i existing taken
    split at h
    · rename_i same
      cases h
      exact held_iff_of_taken (taken.trans (congrArg some same)) other held
    · cases h
  · rename_i free
    cases h
    exact held_iff_of_free free (fun other => SortedMap.get?_insert ..) other held

namespace Metadata

/-- The table of wire names leads from the SDK name of a wire name back to it. -/
def Restores (m : Metadata) (wire : String) : Prop :=
  (m.wireNames.get? (Naming.sdkName wire)).getD (Naming.sdkName wire) = wire

instance (m : Metadata) (wire : String) : Decidable (m.Restores wire) :=
  inferInstanceAs (Decidable (_ = _))

/-- The two tables of names say the same. -/
def NamesAgree (m : Metadata) : Prop :=
  ∀ wire sdk, m.wireNames.get? sdk = some wire ↔ m.sdkNames.get? wire = some sdk

/-- A wire name is its own SDK name, or is noted for it. -/
def Notes (m : Metadata) (wire : String) : Prop :=
  Naming.sdkName wire = wire ∨ m.wireNames.get? (Naming.sdkName wire) = some wire

variable {m : Metadata} {wire : String}

/-- A name that differs from its SDK name is restored if it is noted. -/
theorem Notes.restores (h : m.Notes wire) (differs : Naming.sdkName wire ≠ wire) :
    m.Restores wire := by
  have noted := h.resolve_left differs
  rw [Restores, noted]
  rfl

/-- A name is restored exactly if no other name is noted for its SDK name. -/
theorem Notes.restores_iff (h : m.Notes wire) (agree : m.NamesAgree) :
    m.Restores wire ↔ ∀ other, m.sdkNames.get? other = some (Naming.sdkName wire) →
      other = wire := by
  unfold Restores
  generalize isSdk : Naming.sdkName wire = sdk at h
  rw [Notes, isSdk] at h
  cases noted : m.wireNames.get? sdk with
  | none =>
      have own : sdk = wire := h.resolve_right (by rw [noted]; simp)
      refine iff_of_true own fun other named => ?_
      cases noted.symm.trans ((agree other sdk).2 named)
  | some holder =>
      constructor
      · rintro rfl other named
        exact Option.some.inj (((agree other sdk).2 named).symm.trans noted)
      · intro only
        exact only holder ((agree holder sdk).1 noted)

end Metadata

/-! ## Used names -/

/-- A component was entered when a reference to it was met: its token had no mark. -/
def Journal.Enters (component token : String) (journal : List Event) : Prop :=
  ∃ earlier, .entered token :: .referred component token :: earlier <:+ journal

theorem Journal.enters_cons {component token : String} {event : Event} {journal : List Event} :
    Enters component token (event :: journal) ↔
      (∃ earlier, event = .entered token ∧ journal = .referred component token :: earlier) ∨
        Enters component token journal := by
  simp only [Enters, List.suffix_cons_iff, List.cons.injEq, exists_or]
  simp only [eq_comm]

theorem Journal.Enters.of_cons {component token : String} {event : Event} {journal : List Event}
    (h : Enters component token (event :: journal)) (other : event ≠ .entered token) :
    Enters component token journal := by
  rcases enters_cons.1 h with ⟨_, same, _⟩ | before
  · exact absurd same other
  · exact before

/-- A wire name is required of an object that has been formed, and means one of its members, its own
or one that was merged into it. -/
def Journal.Requires (wire : String) (journal : List Event) : Prop :=
  ∃ required members, .formed required members ∈ journal ∧ wire ∈ required ∧
    Naming.sdkName wire ∈ members

theorem Journal.requires_cons {wire : String} {event : Event} {journal : List Event} :
    Requires wire (event :: journal) ↔
      (∃ required members, event = .formed required members ∧ wire ∈ required ∧
        Naming.sdkName wire ∈ members) ∨ Requires wire journal := by
  simp only [Requires, List.mem_cons, or_and_right, exists_or, eq_comm]

theorem Journal.Requires.of_cons {wire : String} {event : Event} {journal : List Event}
    (h : Requires wire (event :: journal)) (other : ∀ required members,
      event ≠ .formed required members) : Requires wire journal := by
  rcases requires_cons.1 h with ⟨_, _, same, _⟩ | before
  · exact absurd same (other _ _)
  · exact before

/-- When the members of an object are made, the journal tells of all names that its schema requires
and that mean one of them. -/
theorem Infer.objectMembers_tells {task : InferenceTask} {resolve : Resolver} {scope : Scope}
    {parent : String} {schema : Schema} {s : Session} :
    Ends (objectMembers task resolve scope parent schema) s
      (fun members s' => ∀ wire ∈ schema.required,
        members.properties.contains (Naming.sdkName wire) = true →
          Journal.Requires wire s'.journal) fun _ _ => True := by
  unfold objectMembers
  dsimp only
  refine .after fun properties s₁ => .after fun merged s₂ => .after fun required s₃ => ?_
  refine ends_bind.2 (ends_note.2 (ends_pure.2 fun wire member present => ?_))
  exact ⟨_, _, List.mem_cons_self, member, (SortedMap.mem_keys_iff ..).2 present⟩

/-- The wire names that members are given when the type of a find is asked for. The members of
components that are entered on the way are not among them. -/
inductive Lookup.Found.Names (d : Document) : Lookup.Found → String → Prop where
  | own {found : Lookup.Found} {wire : String} (isObject : found.shape = .object)
      (own : found.schema.OwnName wire) : Names d found wire
  | inner {found inner : Lookup.Found} {wire : String} (asks : found.Asks d inner)
      (names : Names d inner wire) : Names d found wire

/-- The wire names that are used in an extraction: those of properties, required names and path
parameters of operations, those of the members of types that operations or entered components ask
for, and those that are required of objects and mean one of their members. -/
inductive InferenceTask.Uses (task : InferenceTask) : String → Prop where
  | operation {ctx : PathContext} {item : PathItem} {wire : String}
      (extracts : task.Extracts ctx item) (own : ctx.OwnName task wire) : Uses task wire
  | asked {ctx : PathContext} {item : PathItem} {found : Lookup.Found} {wire : String}
      (extracts : task.Extracts ctx item) (asks : ctx.Asks task found)
      (names : found.Names task.document wire) : Uses task wire
  | component {component token wire : String} {schema : Schema}
      (entered : Journal.Enters component token task.lastSession.journal)
      (located : Lookup.component task.document component = .ok schema)
      (own : schema.OwnName wire) : Uses task wire
  | inside {component token wire : String} {schema : Schema} {found : Lookup.Found}
      (entered : Journal.Enters component token task.lastSession.journal)
      (located : Lookup.component task.document component = .ok schema)
      (inside : schema.Inside task.document found) (names : found.Names task.document wire) :
      Uses task wire
  | required {wire : String} (requires : Journal.Requires wire task.lastSession.journal) :
      Uses task wire

/-! ## Names along a run -/

namespace Session

/-- All names that members are given for the type of a find are noted. -/
def NotesAll (d : Document) (found : Lookup.Found) (s : Session) : Prop :=
  ∀ wire, found.Names d wire → s.metadata.Notes wire

/-- All that an object schema needs is noted. -/
def Covers (d : Document) (s : Session) (schema : Schema) : Prop :=
  schema.Covered d (s.NotesAll d ·) s.metadata.Notes

/-- All names of a find are noted once its own are, and those of all that it asks for. -/
theorem NotesAll.of_covered {d : Document} {found : Lookup.Found} {s : Session}
    (h : found.Covered d (s.NotesAll d ·) s.metadata.Notes) : s.NotesAll d found := by
  intro wire names
  cases names with
  | own isObject own => exact h.names isObject wire own
  | inner asks names => exact h.asked _ asks wire names

/-- The tables of names grow and go on to agree. Of components that are entered on the way all names
are noted, and of objects that are formed the required names that mean a member. -/
structure NotesOn (d : Document) (s s' : Session) : Prop where
  kept : ∀ sdk wire, s.metadata.wireNames.get? sdk = some wire →
    s'.metadata.wireNames.get? sdk = some wire
  agree : s.metadata.NamesAgree → s'.metadata.NamesAgree
  entered : ∀ component token, Journal.Enters component token s'.journal →
    Journal.Enters component token s.journal ∨
      ∀ schema, Lookup.component d component = .ok schema → s'.Covers d schema
  required : ∀ wire, Journal.Requires wire s'.journal →
    Journal.Requires wire s.journal ∨ s'.metadata.Notes wire

variable {d : Document} {s s' s'' : Session}

theorem NotesOn.notes (h : s.NotesOn d s') {wire : String} (noted : s.metadata.Notes wire) :
    s'.metadata.Notes wire := noted.imp_right (h.kept _ _)

theorem NotesOn.notesAll (h : s.NotesOn d s') {found : Lookup.Found} (noted : s.NotesAll d found) :
    s'.NotesAll d found := fun wire names => h.notes (noted wire names)

theorem NotesOn.covers (h : s.NotesOn d s') {schema : Schema} (covers : s.Covers d schema) :
    s'.Covers d schema := covers.imp (fun _ => h.notesAll) fun _ => h.notes

theorem NotesOn.trans (first : s.NotesOn d s') (second : s'.NotesOn d s'') : s.NotesOn d s'' where
  kept sdk wire noted := second.kept sdk wire (first.kept sdk wire noted)
  agree agree := second.agree (first.agree agree)
  entered component token entered := by
    rcases second.entered component token entered with before | covers
    · exact (first.entered component token before).imp_right fun covers schema located =>
        second.covers (covers schema located)
    · exact .inr covers
  required wire requires := by
    rcases second.required wire requires with before | noted
    · exact (first.required wire before).imp_right second.notes
    · exact .inr noted

/-- The tables of names are left alone, no component is entered and no object formed. -/
theorem NotesOn.of_tables (wireNames : s'.metadata.wireNames = s.metadata.wireNames)
    (sdkNames : s'.metadata.sdkNames = s.metadata.sdkNames)
    (entered : ∀ component token, Journal.Enters component token s'.journal →
      Journal.Enters component token s.journal)
    (required : ∀ wire, Journal.Requires wire s'.journal → Journal.Requires wire s.journal) :
    s.NotesOn d s' where
  kept sdk wire noted := by rwa [wireNames]
  agree agree := by
    intro wire sdk
    rw [wireNames, sdkNames]
    exact agree wire sdk
  entered component token after := .inl (entered component token after)
  required wire after := .inl (required wire after)

theorem NotesOn.of_same (wireNames : s'.metadata.wireNames = s.metadata.wireNames)
    (sdkNames : s'.metadata.sdkNames = s.metadata.sdkNames) (journal : s'.journal = s.journal) :
    s.NotesOn d s' :=
  .of_tables wireNames sdkNames (fun _ _ after => journal ▸ after) fun _ after => journal ▸ after

/-- The tables of names are left alone, and something else happens. -/
theorem NotesOn.of_event {event : Event} (wireNames : s'.metadata.wireNames = s.metadata.wireNames)
    (sdkNames : s'.metadata.sdkNames = s.metadata.sdkNames)
    (journal : s'.journal = event :: s.journal) (noComponent : ∀ token, event ≠ .entered token)
    (noObject : ∀ required members, event ≠ .formed required members) : s.NotesOn d s' := by
  refine .of_tables wireNames sdkNames (fun component token after => ?_) fun wire after => ?_
  · rw [journal] at after
    exact after.of_cons (noComponent token)
  · rw [journal] at after
    exact after.of_cons noObject

/-- An object is formed whose required names that mean a member are noted. -/
theorem NotesOn.forming {required members : List String}
    (named : ∀ wire ∈ required, Naming.sdkName wire ∈ members → s.metadata.Notes wire) :
    s.NotesOn d (s.noted (.formed required members)) where
  kept _ _ := id
  agree := id
  entered _ _ after := .inl (after.of_cons (by simp))
  required wire after := by
    rcases Journal.requires_cons.1 after with ⟨_, _, here, member, present⟩ | before
    · cases here
      exact .inr (named wire member present)
    · exact .inl before

end Session

/-- The course along which names are noted. -/
def Course.noting (d : Document) : Course where
  rel := Session.NotesOn d
  breaks _ _ := True
  refl _ := .of_same rfl rfl rfl
  trans := .trans
  breaksOff _ := trivial
  breaksLater _ _ := trivial

namespace Infer

variable {d : Document} {s : Session}

theorem recordName_notes (wire : String) :
    (Course.noting d).Runs (recordName wire (Naming.sdkName wire)) s fun _ s' =>
      s'.metadata.Notes wire := by
  unfold Metadata.Notes
  generalize Naming.sdkName wire = sdk
  refine ⟨(recordName_ends wire sdk).imp ?_⟩
  rintro _ s' (⟨same, rfl⟩ | ⟨wireNames, sdkNames, wireAssigned, sdkAssigned, rfl⟩)
  · exact ⟨(Course.noting d).refl _, .inl same.symm⟩
  · have wireTable := get?_assign wireAssigned
    have sdkTable := get?_assign sdkAssigned
    refine ⟨⟨fun key held noted => (wireTable ..).2 (.inr noted), fun agree other key => ?_,
      fun _ _ => .inl, fun _ => .inl⟩, .inr ((wireTable ..).2 (.inl ⟨rfl, rfl⟩))⟩
    refine (wireTable ..).trans (.trans ?_ (sdkTable ..).symm)
    exact or_congr and_comm (agree other key)

theorem seat_notes {token path : String} {slot : CrudSlot} :
    (Course.noting d).Runs (seat token slot path) s fun _ _ => True := by
  unfold seat
  refine Course.Runs.get.bind fun _ s₁ _ _ => ?_
  split
  · exact ⟨.of_same rfl rfl rfl, trivial⟩
  · exact .throw

end Infer

/-- A component is built with all its names noted. -/
theorem Session.NotesOn.building {d : Document} {s s' : Session} {component token : String}
    {schema : Schema} (located : Lookup.component d component = .ok schema)
    (later : ((s.noted (.referred component token)).entering token).NotesOn d s')
    (covers : s'.Covers d schema) : s.NotesOn d (s'.noted (.left token)) where
  kept := later.kept
  agree := later.agree
  entered other answer entered := by
    rcases later.entered other answer (entered.of_cons (by simp)) with before | others
    · -- Either this component's own mark is meant, or one from before it was met.
      rcases Journal.enters_cons.1 before with ⟨earlier, here, met⟩ | before
      · cases here
        cases met
        refine .inr fun schema' located' => ?_
        obtain rfl := Except.ok.inj (located'.symm.trans located)
        exact covers
      · exact .inl (before.of_cons (by simp))
    · exact .inr others
  required wire requires := by
    refine (later.required wire (requires.of_cons (by simp))).imp_left fun before => ?_
    exact (before.of_cons (by simp)).of_cons (by simp)

/-- The frame along which names are noted. -/
def RunFrame.naming (task : InferenceTask) : RunFrame task where
  toCourse := .noting task.document
  toFinds := .inside task.document
  done found s := s.NotesAll task.document found
  named wire s := s.metadata.Notes wire
  filled _ _ _ := True
  doneLasts later := later.notesAll
  namedLasts later := later.notes
  filledLasts _ := id
  registers _ _ := .of_same rfl rfl rfl
  forms := .forming
  merges _ _ := .of_event rfl rfl rfl (by simp) (by simp)
  drops _ _ := .of_event rfl rfl rfl (by simp) (by simp)
  moves _ _ _ _ := .of_event rfl rfl rfl (by simp) (by simp)
  unmarks _ _ := .of_same rfl rfl rfl
  refers _ _ _ := .of_event rfl rfl rfl (by simp) (by simp)
  records _ wire := Infer.recordName_notes wire
  pathParameters _ _ := .of_same rfl rfl rfl
  autoNames _ _ := .of_same rfl rfl rfl
  moduleNamespaces _ _ := .of_same rfl rfl rfl
  finishes := .of_covered
  builds allowed later _ covered _ := .building (allowed _ rfl) later covered
  breaksBuilding _ := trivial
  seats _ _ _ _ := Infer.seat_notes
  reads _ _ _ _ := Infer.seat_notes.bind fun _ _ _ _ => ⟨.of_same rfl rfl rfl, trivial⟩
  creates _ _ _ _ := Infer.seat_notes.bind fun _ _ _ _ => ⟨.of_same rfl rfl rfl, trivial⟩
  replaces _ _ := .of_same rfl rfl rfl

/-! ## The result -/

/-- In an extraction, a used name that differs from its SDK name is restored from it, and any used
name is restored exactly if the tables give its SDK name to no other name. -/
theorem used_restored_iff {task : InferenceTask} {e : Extraction} (h : extract task = .ok e)
    {wire : String} (used : task.Uses wire) :
    (Naming.sdkName wire ≠ wire → e.metadata.Restores wire) ∧
      (e.metadata.Restores wire ↔ ∀ other,
        e.metadata.sdkNames.get? other = some (Naming.sdkName wire) → other = wire) := by
  obtain ⟨later, -⟩ := (RunFrame.naming task).lastSession_extracted h
  have done : ∀ {ctx item}, task.Extracts ctx item →
      (RunFrame.naming task).PathDone ctx task.lastSession :=
    (RunFrame.naming task).lastSession_pathDone h
  have covers : ∀ {component token schema},
      Journal.Enters component token task.lastSession.journal →
        Lookup.component task.document component = .ok schema →
          task.lastSession.Covers task.document schema := by
    intro component token schema entered located
    rcases later.entered component token entered with ⟨_, start⟩ | covers
    · cases List.suffix_nil.1 start
    · exact covers schema located
  have agree : task.lastSession.metadata.NamesAgree := later.agree fun _ _ => by
    constructor <;> intro h <;> cases h
  have noted : task.lastSession.metadata.Notes wire := by
    cases used with
    | operation extracts own => exact (done extracts).names wire own
    | asked extracts asks names => exact (done extracts).asked _ asks wire names
    | component entered located own => exact (covers entered located).names wire own
    | inside entered located inside names =>
        exact (covers entered located).inside _ inside wire names
    | required requires =>
        rcases later.required wire requires with ⟨_, _, start, _⟩ | noted
        · cases start
        · exact noted
  rw [extract_eq_finish h]
  exact ⟨noted.restores, noted.restores_iff agree⟩

/-! ## Two names with one SDK name -/

/-- A thing with two properties, one of which is written as the SDK name of the other one. -/
def twoSpellings : InferenceTask :=
  (Document.having [("Thing", .item (.texts ["foo_bar", "fooBar"]))]
    [("/thing", .reading "getThing" (.to "Thing"))]).task

theorem twoSpellings_uses {wire : String} (member : wire ∈ ["foo_bar", "fooBar"]) :
    twoSpellings.Uses wire := by
  have entered : [.entered "pkg:thing:Thing", .referred "Thing" "pkg:thing:Thing"] <:+
      twoSpellings.lastSession.journal := by decide +kernel
  exact .component ⟨[], entered⟩ rfl (.property (List.mem_map.2 ⟨wire, member, rfl⟩))

/-- A name that is its own SDK name is lost beside another one with this SDK name. -/
theorem ownName_lost : ∃ e, extract twoSpellings = .ok e ∧ twoSpellings.Uses "fooBar" ∧
    ¬ e.metadata.Restores "fooBar" := by
  have h : extract twoSpellings = .ok twoSpellings.lastSession.finish :=
    extract_of_isOk (by decide +kernel)
  have lost : ¬ twoSpellings.lastSession.finish.metadata.Restores "fooBar" := by decide +kernel
  exact ⟨_, h, twoSpellings_uses (by simp), lost⟩

/-- The other name is restored. -/
theorem snakeName_restored : ∃ e, extract twoSpellings = .ok e ∧ twoSpellings.Uses "foo_bar" ∧
    e.metadata.Restores "foo_bar" := by
  have h : extract twoSpellings = .ok twoSpellings.lastSession.finish :=
    extract_of_isOk (by decide +kernel)
  have used : twoSpellings.Uses "foo_bar" := twoSpellings_uses (by simp)
  have differs : Naming.sdkName "foo_bar" ≠ "foo_bar" := by decide +kernel
  exact ⟨_, h, used, (used_restored_iff h used).1 differs⟩

/-- A thing that requires a property of its part by another spelling of the name. -/
def partSpelling : InferenceTask :=
  (Document.having
    [("Thing", .item { allOf := [.item (.texts ["fooBar"])], required := ["foo_bar"] })]
    [("/thing", .reading "getThing" (.to "Thing"))]).task

/-- The name that is required means only a member that was merged. It is used and restored. -/
example : ∃ e, extract partSpelling = .ok e ∧ partSpelling.Uses "foo_bar" ∧
    e.metadata.Restores "foo_bar" := by
  have formed : .formed ["foo_bar"] ["fooBar"] ∈ partSpelling.lastSession.journal := by
    decide +kernel
  refine ⟨_, extract_of_isOk (by decide +kernel), .required ⟨_, _, formed, ?_, ?_⟩, ?_⟩
  · exact List.mem_singleton.2 rfl
  · decide +kernel
  · decide +kernel

end ResourceInference
