import ResourceInference.Proofs.ArrangedTypes
import ResourceInference.Proofs.Composition

/-!
# Recording a name earlier or later

Recording a name reads and writes the two tables of names and nothing else, and it fails only where
another name has been recorded against it. It makes no difference to a run whether a name is
recorded before or after any other steps: the run fails in both orders, or leaves the same session
(`Infer.Composed.commutes`). This is so for two names, and all other primitive steps leave the
tables of names alone.
-/

set_option autoImplicit false

namespace ResourceInference

variable {α β : Type}

/-! ## The tables of names -/

/-- The two tables of names: from SDK names to wire names, and back. -/
structure NamePair where
  wireNames : SortedMap String
  sdkNames : SortedMap String

/-- The tables with a wire name and its SDK name, if nothing is recorded against it. -/
def NamePair.record? (names : NamePair) (wire sdk : String) : Option NamePair :=
  if wire = sdk then some names
  else do
    let wireNames ← (assign names.wireNames sdk wire).toOption
    let sdkNames ← (assign names.sdkNames wire sdk).toOption
    pure ⟨wireNames, sdkNames⟩

/-- The tables of names of a session. -/
def Session.names (s : Session) : NamePair := ⟨s.metadata.wireNames, s.metadata.sdkNames⟩

/-- The session with other tables of names. -/
def Session.withNames (s : Session) (names : NamePair) : Session :=
  { s with metadata :=
      { s.metadata with wireNames := names.wireNames, sdkNames := names.sdkNames } }

theorem SortedMap.insert_of_get? (m : SortedMap α) {key : String} {value : α}
    (h : m.get? key = some value) : m.insert key value = m := by
  apply ext_get?
  intro other
  rw [get?_insert]
  split
  · rename_i same
    rw [same, h]
  · rfl

/-- A value is assigned where there is none or the same one. -/
theorem assign_toOption (table : SortedMap String) (key value : String) :
    (assign table key value).toOption =
      if table.get? key = none ∨ table.get? key = some value then some (table.insert key value)
      else none := by
  rw [assign]
  cases held : table.get? key with
  | none => simp [Except.toOption]
  | some existing =>
    by_cases same : existing = value
    · subst same
      simp [Except.toOption, table.insert_of_get? held]
    · simp [Except.toOption, same]

/-- Two values are assigned in either order, or in none. -/
theorem assign_comm (table : SortedMap String) (key value other value' : String) :
    ((assign table key value).toOption.bind fun table => (assign table other value').toOption) =
      (assign table other value').toOption.bind fun table =>
        (assign table key value).toOption := by
  simp only [assign_toOption]
  by_cases same : key = other
  · subst same
    by_cases values : value = value'
    · rw [values]
    · have reverse : ¬ value' = value := Ne.symm values
      split <;> split <;> simp [SortedMap.get?_insert, values, reverse]
  · have commute := table.insert_insert_of_ne same value value'
    split <;> split <;> simp_all [SortedMap.get?_insert, Ne.symm same]

namespace NamePair

/-- Of two names, the two tables are written one after the other. -/
theorem record?_twice (names : NamePair) {wire sdk wire' sdk' : String} (differ : wire ≠ sdk)
    (differ' : wire' ≠ sdk') : (names.record? wire sdk).bind (·.record? wire' sdk') =
      ((assign names.wireNames sdk wire).toOption.bind fun table =>
        (assign table sdk' wire').toOption).bind fun wireNames =>
          ((assign names.sdkNames wire sdk).toOption.bind fun table =>
            (assign table wire' sdk').toOption).bind fun sdkNames =>
              some ⟨wireNames, sdkNames⟩ := by
  simp only [record?, if_neg differ, if_neg differ', Option.bind_eq_bind, Option.pure_def,
    Option.bind_assoc, Option.bind_some]
  refine congrArg _ (funext fun wireNames => ?_)
  exact Option.bind_comm _ _

theorem record?_comm (names : NamePair) (wire sdk wire' sdk' : String) :
    (names.record? wire sdk).bind (·.record? wire' sdk') =
      (names.record? wire' sdk').bind (·.record? wire sdk) := by
  by_cases same : wire = sdk
  · simp [record?, same]
  · by_cases same' : wire' = sdk'
    · simp [record?, same']
    · rw [record?_twice names same same', record?_twice names same' same, assign_comm,
        assign_comm names.sdkNames]

end NamePair

namespace Infer

/-! ## Steps beside the tables of names -/

theorem run_bind_ok {x : Infer α} {f : α → Infer β} {s t : Session} {a : α}
    (ran : x.run.run s = (.ok a, t)) : (x >>= f).run.run s = (f a).run.run t := by
  rw [run_bind, ran]

theorem run_bind_error {x : Infer α} {f : α → Infer β} {s t : Session} {e : InferenceError}
    (ran : x.run.run s = (.error e, t)) : (x >>= f).run.run s = (.error e, t) := by
  rw [run_bind, ran]

theorem assignName_ok {table assigned : SortedMap String} {key value : String}
    (h : assign table key value = .ok assigned) (s : Session) :
    (assignName table key value).run.run s = (.ok assigned, s) := by
  rw [assignName, h]
  rfl

theorem assignName_error {table : SortedMap String} {key value existing : String}
    (h : assign table key value = .error existing) (s : Session) :
    (assignName table key value).run.run s = (.error (.nameConflict key existing value), s) := by
  rw [assignName, h]
  rfl

/-- Recording a name changes the tables of names, or it fails. -/
theorem recordName_outcome (wire sdk : String) (s : Session) :
    (∃ names, s.names.record? wire sdk = some names ∧
      (recordName wire sdk).run.run s = (.ok (), s.withNames names)) ∨
    s.names.record? wire sdk = none ∧ ∃ e t, (recordName wire sdk).run.run s = (.error e, t) := by
  unfold recordName NamePair.record? Session.names
  by_cases same : wire = sdk
  · rw [if_pos same, if_pos same]
    exact .inl ⟨s.names, rfl, rfl⟩
  · have current : ∀ t : Session, (get : Infer Session).run.run t = (.ok t, t) := fun _ => rfl
    have changed : ∀ (f : Metadata → Metadata) (t : Session), (modifyMetadata f).run.run t =
        (.ok (), { t with metadata := f t.metadata }) := fun _ _ => rfl
    rw [if_neg same, if_neg same]
    simp only [run_bind, current, changed]
    cases wireNames : assign s.metadata.wireNames sdk wire with
    | error existing =>
      rw [assignName_error wireNames]
      exact .inr ⟨rfl, _, _, rfl⟩
    | ok table =>
      simp only [assignName_ok wireNames]
      cases sdkNames : assign s.metadata.sdkNames wire sdk with
      | error existing =>
        rw [assignName_error sdkNames]
        exact .inr ⟨rfl, _, _, rfl⟩
      | ok other =>
        rw [assignName_ok sdkNames]
        exact .inl ⟨_, rfl, rfl⟩

/-- Two names are recorded if the tables take both. -/
theorem recordNames_outcome (wire sdk wire' sdk' : String) (s : Session) :
    (∃ names, (s.names.record? wire sdk).bind (·.record? wire' sdk') = some names ∧
      (recordName wire sdk >>= fun _ => recordName wire' sdk').run.run s =
        (.ok (), s.withNames names)) ∨
    (s.names.record? wire sdk).bind (·.record? wire' sdk') = none ∧
      ∃ e t, (recordName wire sdk >>= fun _ => recordName wire' sdk').run.run s =
        (.error e, t) := by
  rcases recordName_outcome wire sdk s with ⟨names, recorded, ran⟩ | ⟨refused, e, t, ran⟩
  · rw [recorded, run_bind_ok ran]
    exact recordName_outcome wire' sdk' (s.withNames names)
  · rw [refused]
    exact .inr ⟨rfl, e, t, run_bind_error ran⟩

/-- The step neither reads nor changes the tables of names: with other ones it does the same, and
leaves those. -/
structure BesideNames (x : Infer α) : Prop where
  same : ∀ s names, x.run.run (s.withNames names) =
    ((x.run.run s).1, (x.run.run s).2.withNames names)

namespace BesideNames

theorem names_eq {x : Infer α} (h : BesideNames x) (s : Session) :
    (x.run.run s).2.names = s.names := congrArg (·.2.names) (h.same s s.names)

theorem of_besideTables {x : Infer α} (h : BesideTables x) : BesideNames x := by
  constructor
  intro s names
  have kept : (x.run.run s).2.metadata = s.metadata := congrArg (·.2.metadata) (h.same s s.metadata)
  rw [Session.withNames, h.same, Session.withNames, kept]

theorem bind {x : Infer α} {f : α → Infer β} (hx : BesideNames x)
    (hf : ∀ a, BesideNames (f a)) : BesideNames (x >>= f) := by
  constructor
  intro s names
  rw [run_bind, run_bind, hx.same s names]
  rcases x.run.run s with ⟨e | a, s'⟩
  · rfl
  · exact (hf a).same s' names

theorem get {f : Session → Infer β} (same : ∀ s names, f (s.withNames names) = f s)
    (hf : ∀ s, BesideNames (f s)) : BesideNames (get >>= f) := by
  constructor
  intro s names
  change (f (s.withNames names)).run.run (s.withNames names) =
    (((f s).run.run s).1, ((f s).run.run s).2.withNames names)
  rw [same s names]
  exact (hf s).same s names

end BesideNames

theorem seat_besideNames (token : String) (slot : CrudSlot) (path : String) :
    BesideNames (seat token slot path) := by
  apply BesideNames.get (fun _ _ => rfl)
  intro s
  split
  · exact ⟨fun _ _ => rfl⟩
  · exact ⟨fun _ _ => rfl⟩

theorem setAutoName_besideNames (token property : String) :
    BesideNames (setAutoName token property) := by
  apply BesideNames.get (fun _ _ => rfl)
  intro s
  split
  · exact ⟨fun _ _ => rfl⟩
  · exact ⟨fun _ _ => rfl⟩

theorem modifyMetadata_besideNames {f : Metadata → Metadata}
    (beside : ∀ m wireNames sdkNames,
      f { m with wireNames, sdkNames } = { f m with wireNames, sdkNames }) :
    BesideNames (modifyMetadata f) := by
  constructor
  intro s names
  refine congrArg (fun m => (Except.ok (), { s with metadata := m })) ?_
  exact beside s.metadata names.wireNames names.sdkNames

theorem addModule_besideNames (module : String) : BesideNames (addModule module) := by
  apply modifyMetadata_besideNames
  intro m wireNames sdkNames
  dsimp only
  split <;> rfl

/-- The name of a path parameter has a table of its own. -/
theorem assignParameter_besideNames (wire sdk : String) : BesideNames
    (do
      let pathParameters ← assignName (← get).metadata.pathParameters wire sdk
      modifyMetadata fun m => { m with pathParameters }) := by
  apply BesideNames.get (fun _ _ => rfl)
  intro s
  apply BesideNames.bind (.of_besideTables (assignName_reads ..).besideTables)
  exact fun _ => ⟨fun _ _ => rfl⟩

/-! ## Recording names first -/

/-- The step `x` may be taken before or after the step `r`. -/
def Commutes (r : Infer Unit) (x : Infer α) : Prop :=
  Alike Eq (r >>= fun _ => x) (x >>= fun a => r >>= fun _ => pure a)

namespace Commutes

variable {wire sdk : String}

theorem bind {r : Infer Unit} {x : Infer α} {f : α → Infer β} (hx : Commutes r x)
    (hf : ∀ a, Commutes r (f a)) : Commutes r (x >>= f) := by
  have front : Alike Eq (r >>= fun _ => x >>= f) (x >>= fun a => r >>= fun _ => f a) := by
    have first := Alike.bind_same hx fun a => Alike.refl (f a)
    simpa only [bind_assoc, pure_bind] using first
  have behind : Alike Eq (x >>= fun a => r >>= fun _ => f a)
      (x >>= fun a => f a >>= fun b => r >>= fun _ => pure b) :=
    (Alike.refl x).bind_same hf
  unfold Commutes
  rw [bind_assoc]
  exact front.trans behind

/-- A step beside the tables of names finds and leaves them as they are. -/
theorem of_besideNames {x : Infer α} (h : BesideNames x) :
    Commutes (Infer.recordName wire sdk) x := by
  constructor
  intro s
  have kept := h.names_eq s
  have later := h.same s
  have note := recordName_outcome wire sdk
  rcases ran : x.run.run s with ⟨e | a, s'⟩ <;> rw [ran] at kept later
  · have second := run_bind_error (f := fun a => Infer.recordName wire sdk >>= fun _ => pure a) ran
    rcases note s with ⟨names, -, noted⟩ | ⟨-, e', t, noted⟩
    · exact .inr ⟨e, _, e, s', (run_bind_ok noted).trans (later names), second⟩
    · exact .inr ⟨e', t, e, s', run_bind_error noted, second⟩
  · have second := run_bind_ok (f := fun a => Infer.recordName wire sdk >>= fun _ => pure a) ran
    rcases note s with ⟨names, recorded, noted⟩ | ⟨refused, e', t, noted⟩ <;>
      rcases note s' with ⟨names', recorded', noted'⟩ | ⟨refused', e'', t', noted'⟩
    · obtain rfl : names' = names := by
        rw [kept, recorded] at recorded'
        exact (Option.some.inj recorded').symm
      exact .inl ⟨a, a, _, (run_bind_ok noted).trans (later names'),
        second.trans (run_bind_ok noted'), rfl⟩
    · rw [kept, recorded] at refused'
      cases refused'
    · rw [kept, refused] at recorded'
      cases recorded'
    · exact .inr ⟨e', t, e'', t', run_bind_error noted, second.trans (run_bind_error noted')⟩

/-- Of two names, both are recorded in either order, or in none. -/
theorem recordName (wire' sdk' : String) :
    Commutes (Infer.recordName wire sdk) (Infer.recordName wire' sdk') := by
  have last : (fun a : Unit => Infer.recordName wire sdk >>= fun _ => (pure a : Infer Unit)) =
      fun _ => Infer.recordName wire sdk := by
    funext a
    exact bind_pure _
  unfold Commutes
  rw [last]
  constructor
  intro s
  have both := s.names.record?_comm wire sdk wire' sdk'
  rcases recordNames_outcome wire sdk wire' sdk' s with
      ⟨names, taken, ran⟩ | ⟨refused, e, t, ran⟩ <;>
    rcases recordNames_outcome wire' sdk' wire sdk s with
      ⟨names', taken', ran'⟩ | ⟨refused', e', t', ran'⟩
  · rw [taken, taken'] at both
    cases both
    exact .inl ⟨(), (), _, ran, ran', rfl⟩
  · rw [taken, refused'] at both
    cases both
  · rw [refused, taken'] at both
    cases both
  · exact .inr ⟨e, t, e', t', ran, ran'⟩

end Commutes

/-- A name may be recorded before or after any steps of a run. -/
theorem Composed.commutes {x : Infer α} (h : Composed x) (wire sdk : String) :
    Commutes (Infer.recordName wire sdk) x := by
  induction h with
  | beside h => exact .of_besideNames (.of_besideTables h)
  | bind _ _ first rest => exact first.bind rest
  | recordName wire' => exact .recordName ..
  | recordPathParameter wire' =>
    unfold Infer.recordPathParameter
    split
    · exact .of_besideNames (.of_besideTables (.pure ()))
    · exact (Commutes.recordName ..).bind fun _ =>
        .of_besideNames (assignParameter_besideNames ..)
  | seat token slot path => exact .of_besideNames (seat_besideNames ..)
  | setAutoName token property => exact .of_besideNames (setAutoName_besideNames ..)
  | addModule module => exact .of_besideNames (addModule_besideNames module)

end Infer

end ResourceInference
