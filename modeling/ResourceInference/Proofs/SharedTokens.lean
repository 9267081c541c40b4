import ResourceInference.Proofs.History
import ResourceInference.Proofs.Operations

/-!
# Components that share a token

The token of a component drops separators and letters that no identifier has, so two components may
have one token. The mark of a token does not say which component was entered under it: whichever is
met first is made, and a reference to the other one is answered with its type. So the type under a
token has the properties of the component that was made there (`Journal.maker`), as long as the type
stands; it has exactly those of a component without an `allOf` if and only if both have the same SDK
names, and so in particular if no other component shares the token (`answered_exact_iff`). Two
components with other properties are conflated without an error (`twins_conflated`).
-/

set_option autoImplicit false

namespace ResourceInference

/-! ## Who made a type -/

namespace Journal

/-- The component that was met last, if nothing has happened since. -/
def metLast : List Event → Option String
  | .referred component _ :: _ => some component
  | _ => none

/-- The components under construction under a token, the one entered last first. -/
def makers (token : String) : List Event → List (Option String)
  | [] => []
  | .entered entered :: earlier =>
    if entered = token then metLast earlier :: makers token earlier else makers token earlier
  | .left left :: earlier =>
    if left = token then (makers token earlier).tail else makers token earlier
  | _ :: earlier => makers token earlier

/-- The component that was left last under a token. -/
def maker (token : String) : List Event → Option String
  | [] => none
  | .left left :: earlier =>
    if left = token then (makers token earlier).head?.join else maker token earlier
  | _ :: earlier => maker token earlier

end Journal

/-- Two schemas give their properties the same SDK names. -/
def Schema.SameNames (s other : Schema) : Prop :=
  ∀ key, (∃ entry ∈ s.properties, Naming.sdkName entry.1 = key) ↔
    ∃ entry ∈ other.properties, Naming.sdkName entry.1 = key

/-- An object that has exactly the properties of one schema has exactly those of the schemas with
the same names. -/
theorem Package.HasExactly.iff_sameNames {package : Package} {token : String} {made : Schema}
    (h : package.HasExactly token made) (schema : Schema) :
    package.HasExactly token schema ↔ schema.SameNames made := by
  obtain ⟨object, registered, keys⟩ := h
  constructor
  · rintro ⟨other, registered', keys'⟩ key
    cases registered.symm.trans registered'
    exact (keys' key).symm.trans (keys key)
  · exact fun same => ⟨object, registered, fun key => (keys key).trans (same key).symm⟩

/-! ## The invariant -/

namespace Session

/-- A type that stands was made for the component that was left last under its token, and has
exactly its properties, if it has no `allOf`. -/
def Made (d : Document) (s : Session) : Prop :=
  ∀ token, Journal.stands token s.journal = true → ∃ component schema,
    Journal.maker token s.journal = some component ∧
      .referred component token ∈ s.journal ∧ Lookup.component d component = .ok schema ∧
        (schema.allOf = [] → s.package.HasExactly token schema)

/-- What is under construction stays so, and types that stand go on to be those of their makers. -/
structure MakesOn (d : Document) (s s' : Session) : Prop where
  grows : s.journal <:+ s'.journal
  makers : ∀ token, Journal.makers token s'.journal = Journal.makers token s.journal
  made : s.Made d → s'.Made d

variable {d : Document} {s s' s'' : Session}

theorem MakesOn.trans (first : s.MakesOn d s') (second : s'.MakesOn d s'') : s.MakesOn d s'' :=
  ⟨first.grows.trans second.grows, fun token => (second.makers token).trans (first.makers token),
    fun made => second.made (first.made made)⟩

/-- Types that stand have stood before, were made by the same component, and are kept. -/
theorem Made.change (h : s.Made d) (grows : s.journal <:+ s'.journal)
    (kept : ∀ token, Journal.stands token s'.journal = true →
      Journal.stands token s.journal = true ∧
        Journal.maker token s'.journal = Journal.maker token s.journal ∧
          ∀ type, s.package.types.get? token = some type →
            s'.package.types.get? token = some type) : s'.Made d := by
  intro token stands
  obtain ⟨stood, same, types⟩ := kept token stands
  obtain ⟨component, schema, isMaker, referred, located, exactly⟩ := h token stood
  refine ⟨component, schema, same.trans isMaker, grows.subset referred, located, fun noParts => ?_⟩
  obtain ⟨object, registered, keys⟩ := exactly noParts
  exact ⟨object, types _ registered, keys⟩

/-- Neither the journal nor the table of types has changed. -/
theorem MakesOn.of_same (journal : s'.journal = s.journal)
    (types : s'.package.types = s.package.types) : s.MakesOn d s' := by
  have grows : s.journal <:+ s'.journal := journal ▸ List.suffix_rfl
  refine ⟨grows, fun token => by rw [journal], fun made => made.change grows fun token stands => ?_⟩
  rw [journal] at stands ⊢
  exact ⟨stands, rfl, fun type registered => by rwa [types]⟩

theorem MakesOn.withType {token : String} {type : NamedType}
    (free : s.package.types.get? token = none) : s.MakesOn d (s.withType token type) := by
  refine ⟨List.suffix_rfl, fun _ => rfl, fun made => made.change List.suffix_rfl
    fun other stands => ?_⟩
  refine ⟨stands, rfl, fun found registered => ?_⟩
  rw [get?_withType]
  split
  · rename_i same
    rw [same, free] at registered
    cases registered
  · exact registered

/-- Something is noted that has no part in who made the types that stand. -/
theorem MakesOn.noting {event : Event}
    (makers : ∀ token, Journal.makers token (event :: s.journal) = Journal.makers token s.journal)
    (maker : ∀ token, Journal.maker token (event :: s.journal) = Journal.maker token s.journal)
    (stands : ∀ token, Journal.stands token (event :: s.journal) = Journal.stands token s.journal) :
    s.MakesOn d (s.noted event) := by
  refine ⟨List.suffix_cons .., makers, fun made => made.change (List.suffix_cons ..)
    fun token isThere => ⟨?_, maker token, fun _ => id⟩⟩
  exact (stands token).symm.trans isThere

theorem MakesOn.dropping (token : String) : s.MakesOn d (s.dropping token) := by
  refine ⟨List.suffix_cons .., fun _ => rfl, fun made => made.change (List.suffix_cons ..)
    fun other stands => ?_⟩
  obtain ⟨ne, stood⟩ : ¬ token = other ∧ Journal.stands other s.journal = true := by
    simpa [Session.dropping, Journal.stands, Journal.replaces, Journal.takesAway] using stands
  refine ⟨stood, rfl, fun type registered => ?_⟩
  rwa [get?_dropping, if_neg (Ne.symm ne)]

theorem MakesOn.moving (source target : String) (type : NamedType) :
    s.MakesOn d (s.moving source target type) := by
  refine ⟨List.suffix_cons .., fun _ => rfl, fun made => made.change (List.suffix_cons ..)
    fun other stands => ?_⟩
  obtain ⟨⟨notSource, notTarget⟩, stood⟩ :
      (¬ source = other ∧ ¬ target = other) ∧ Journal.stands other s.journal = true := by
    simpa [Session.moving, Journal.stands, Journal.replaces] using stands
  refine ⟨stood, rfl, fun type registered => ?_⟩
  rwa [get?_moving, if_neg (Ne.symm notTarget), if_neg (Ne.symm notSource)]

/-- A component is left as the maker of its type. -/
theorem MakesOn.building {component token : String} {schema : Schema}
    (located : Lookup.component d component = .ok schema)
    (later : ((s.noted (.referred component token)).entering token).MakesOn d s')
    (exactly : schema.allOf = [] → s'.package.HasExactly token schema) :
    s.MakesOn d (s'.noted (.left token)) := by
  have opened : ∀ other, Journal.makers other s'.journal =
      if token = other then some component :: Journal.makers other s.journal
      else Journal.makers other s.journal := later.makers
  have met : .referred component token ∈ s'.journal :=
    later.grows.subset (List.mem_cons_of_mem _ List.mem_cons_self)
  refine ⟨?_, fun other => ?_, fun made => ?_⟩
  · exact (List.suffix_cons ..).trans
      ((List.suffix_cons ..).trans (later.grows.trans (List.suffix_cons ..)))
  · change (if token = other then (Journal.makers other s'.journal).tail
      else Journal.makers other s'.journal) = _
    rw [opened]
    split <;> rfl
  · have entered : ((s.noted (.referred component token)).entering token).Made d :=
      made.change ((List.suffix_cons ..).trans (List.suffix_cons ..)) fun _ stands =>
        ⟨stands, rfl, fun _ => id⟩
    have made' := later.made entered
    -- Under its own token the component is the maker now; under other tokens all is as it was.
    intro other stands
    by_cases same : token = other
    · subst same
      refine ⟨component, schema, ?_, List.mem_cons_of_mem _ met, located, exactly⟩
      simp [Session.noted, Journal.maker, opened]
    · have stood : Journal.stands other s'.journal = true := by
        simpa [Session.noted, Journal.stands, same] using stands
      obtain ⟨builder, made, isMaker, referred, there, exactly⟩ := made' other stood
      refine ⟨builder, made, ?_, List.mem_cons_of_mem _ referred, there, exactly⟩
      simpa [Session.noted, Journal.maker, same] using isMaker

end Session

/-- The course along which types stay those of their makers. -/
def Course.making (d : Document) : Course where
  rel := Session.MakesOn d
  breaks _ _ := True
  refl _ := .of_same rfl rfl
  trans := .trans
  breaksOff _ := trivial
  breaksLater _ _ := trivial

theorem Course.making_runs {d : Document} {α : Type} {x : Infer α} {s : Session}
    (writes : Infer.WritesTables x) : (Course.making d).Runs x s fun _ _ => True := by
  refine .of_writesTables writes ?_
  rintro _ ⟨_, rfl⟩
  exact .of_same rfl rfl

/-- The frame along which types stay those of their makers. -/
def RunFrame.making (task : InferenceTask) : RunFrame task where
  toCourse := .making task.document
  toFinds := .inside task.document
  done _ _ := True
  named _ _ := True
  filled _ _ _ := True
  doneLasts _ := id
  namedLasts _ := id
  filledLasts _ := id
  registers _ free := .withType free
  forms _ := .noting (fun _ => rfl) (fun _ => rfl) fun _ => rfl
  merges _ _ := .noting (fun _ => rfl) (fun _ => rfl) fun _ => rfl
  drops _ token := .dropping token
  moves _ source target type := .moving source target type
  unmarks _ _ := .of_same rfl rfl
  refers _ _ _ := .noting (fun _ => rfl) (fun _ => rfl) fun _ => rfl
  records _ _ := Course.making_runs (Infer.recordName_writesTables ..)
  pathParameters _ _ := .of_same rfl rfl
  autoNames _ _ := .of_same rfl rfl
  moduleNamespaces _ _ := .of_same rfl rfl
  finishes _ := trivial
  builds allowed later _ _ exactly := .building (allowed _ rfl) later exactly
  breaksBuilding _ := trivial
  seats _ _ _ _ := Course.making_runs (Infer.seat_writesTables ..)
  reads _ _ _ _ := (Course.making_runs (Infer.seat_writesTables ..)).bind
    fun _ _ _ _ => ⟨.of_same rfl rfl, trivial⟩
  creates _ _ _ _ := (Course.making_runs (Infer.seat_writesTables ..)).bind
    fun _ _ _ _ => ⟨.of_same rfl rfl, trivial⟩
  replaces _ _ := .of_same rfl rfl

/-! ## The result -/

/-- In an extraction, where a reference to a component without an `allOf` was answered with a token
whose type stands, the type was made for some component that was answered with the token too. It is
an object with exactly the properties of the first component if and only if both have the same SDK
names, provided that the maker has no `allOf` either; and it is so if no other component shares the
token. -/
theorem answered_exact_iff {task : InferenceTask} {e : Extraction} (h : extract task = .ok e)
    {component token : String} {schema : Schema}
    (referred : .referred component token ∈ task.lastSession.journal)
    (located : Lookup.component task.document component = .ok schema)
    (noParts : schema.allOf = [])
    (stands : Journal.stands token task.lastSession.journal = true) :
    (Journal.isShared token task.lastSession.journal = false →
      e.package.HasExactly token schema) ∧
    ∃ maker made, Journal.maker token task.lastSession.journal = some maker ∧
      .referred maker token ∈ task.lastSession.journal ∧
        Lookup.component task.document maker = .ok made ∧
          (made.allOf = [] → (e.package.HasExactly token schema ↔ schema.SameNames made)) := by
  have start : (Session.new task.options).Made task.document := fun _ stands => by cases stands
  obtain ⟨makes, -⟩ := (RunFrame.making task).lastSession_extracted h
  obtain ⟨maker, made, isMaker, met, there, exactly⟩ := makes.made start token stands
  rw [extract_eq_finish h]
  refine ⟨fun apart => ?_, maker, made, isMaker, met, there, fun noParts' =>
    (exactly noParts').iff_sameNames schema⟩
  obtain rfl := Journal.eq_of_referred apart referred met
  obtain rfl := Except.ok.inj (there.symm.trans located)
  exact exactly noParts

/-! ## Two components with one token -/

/-- Two components with one token and different properties, and one that refers to both. -/
def twins : InferenceTask :=
  (Document.having
    [("foo_bar", .item (.texts ["a"])), ("FooBar", .item (.texts ["b"])),
      ("Pair", .item (.object [("one", .to "foo_bar"), ("two", .to "FooBar")] []))]
    [("/pair", .reading "getPair" (.to "Pair"))]).task

/-- Both components are met, only the first one is made, and its type stands. -/
theorem twins_run : (extract twins).isOk = true ∧
    [.referred "foo_bar" "pkg:pair:FooBar", .referred "FooBar" "pkg:pair:FooBar"] ⊆
      twins.lastSession.journal ∧
    Journal.maker "pkg:pair:FooBar" twins.lastSession.journal = some "foo_bar" ∧
    Journal.stands "pkg:pair:FooBar" twins.lastSession.journal = true ∧
    ((twins.lastSession.finish.package.types.get? "pkg:pair:FooBar").bind NamedType.object?).map
      (·.properties.contains (Naming.sdkName "b")) = some false := by
  decide +kernel

/-- The reference to the second component is answered with the type of the first one. -/
theorem twins_conflated : ∃ e, extract twins = .ok e ∧
    .referred "FooBar" "pkg:pair:FooBar" ∈ twins.lastSession.journal ∧
      Lookup.component twins.document "FooBar" = .ok (.texts ["b"]) ∧
        e.package.types.contains "pkg:pair:FooBar" = true ∧
          ¬ e.package.HasExactly "pkg:pair:FooBar" (.texts ["b"]) := by
  obtain ⟨ran, met, -, -, lacks⟩ := twins_run
  refine ⟨_, extract_of_isOk ran, met (by simp), rfl, ?_, fun ⟨object, registered, keys⟩ => ?_⟩
  · rw [SortedMap.contains, Option.isSome_iff_ne_none]
    intro none
    rw [none] at lacks
    cases lacks
  · have has := (keys (Naming.sdkName "b")).2 ⟨("b", _), List.mem_cons_self, rfl⟩
    rw [registered] at lacks
    cases has.symm.trans (Option.some.inj lacks)

/-- The type is that of the component that is met first. -/
theorem twins_first_exact : ∃ e, extract twins = .ok e ∧
    e.package.HasExactly "pkg:pair:FooBar" (.texts ["a"]) := by
  obtain ⟨ran, met, first, stands, -⟩ := twins_run
  have located : Lookup.component twins.document "foo_bar" = .ok (.texts ["a"]) := rfl
  obtain ⟨-, maker, made, isMaker, -, there, exactly⟩ :=
    answered_exact_iff (extract_of_isOk ran) (met (by simp)) located rfl stands
  obtain rfl := Option.some.inj (isMaker.symm.trans first)
  obtain rfl := Except.ok.inj (there.symm.trans located)
  exact ⟨_, extract_of_isOk ran, (exactly rfl).2 fun _ => Iff.rfl⟩

end ResourceInference
