import Mathlib.Data.List.Pairwise
import ResourceInference.Proofs.CommutingNames
import ResourceInference.Proofs.CrudTable

/-!
# Single assignment

The tables beside the package have places that are given a value once: the slots of a token, and the
keys of the tables of auto-names and names. What it does to give a place a value is said once for
all of them (`Infer.run_give`): a free place gets the value, giving it again changes nothing, and
another value is refused, with the session left as it was.

So a place keeps the first value that it is given (`Session.value?_givenAll`). Whether some
assignments are all accepted is a matter of each of them and of each two (`Session.acceptsAll_iff`),
and any two that agree may change places (`Session.given_comm`). So the order of assignments matters
neither to whether they are all accepted nor, if they are, to what they leave
(`assignments_single`).
-/

set_option autoImplicit false

namespace ResourceInference

/-! ## Places -/

/-- The tables beside a package that map texts to texts by single assignment. -/
inductive TextTable where
  | autoNames
  | wireNames
  | sdkNames
  | pathParameters
  deriving DecidableEq, Repr

/-- A place in the tables beside a package that is given its value once. -/
inductive Place where
  | slot (token : String) (slot : CrudSlot)
  | entry (table : TextTable) (key : String)
  deriving DecidableEq, Repr

/-- What is said where a place has a value and another one is wanted. -/
def Place.conflict (place : Place) (existing wanted : String) : InferenceError :=
  match place with
  | .slot token filled => .ambiguousOperation token filled existing wanted
  | .entry .autoNames token => .autoNameConflict token existing wanted
  | .entry _ key => .nameConflict key existing wanted

theorem SortedMap.insert_twice {α : Type} (m : SortedMap α) (key : String) (value value' : α) :
    (m.insert key value).insert key value' = m.insert key value' := by
  apply ext_get?
  intro other
  simp only [get?_insert]
  split <;> rfl

theorem CrudPaths.set_comm (paths : CrudPaths) {slot other : CrudSlot} (ne : slot ≠ other)
    (path path' : String) :
    (paths.set slot path).set other path' = (paths.set other path').set slot path := by
  cases slot <;> cases other <;> first | rfl | exact absurd rfl ne

namespace Metadata

/-- The table of texts. -/
def texts (m : Metadata) : TextTable → SortedMap String
  | .autoNames => m.autoNames
  | .wireNames => m.wireNames
  | .sdkNames => m.sdkNames
  | .pathParameters => m.pathParameters

/-- The tables with another one in place of a table of texts. -/
def withTexts (m : Metadata) (table : TextTable) (texts : SortedMap String) : Metadata :=
  match table with
  | .autoNames => { m with autoNames := texts }
  | .wireNames => { m with wireNames := texts }
  | .sdkNames => { m with sdkNames := texts }
  | .pathParameters => { m with pathParameters := texts }

/-- The paths of a token. -/
def paths (m : Metadata) (token : String) : CrudPaths := (m.crud.get? token).getD {}

/-- The value of a place. -/
def value? (m : Metadata) : Place → Option String
  | .slot token slot => (m.paths token).get? slot
  | .entry table key => (m.texts table).get? key

/-- The tables with a value in a place, whatever it held. -/
def put (m : Metadata) (place : Place) (value : String) : Metadata :=
  match place with
  | .slot token slot => { m with crud := m.crud.insert token ((m.paths token).set slot value) }
  | .entry table key => m.withTexts table ((m.texts table).insert key value)

variable (m : Metadata)

@[simp]
theorem texts_withTexts (table other : TextTable) (texts : SortedMap String) :
    (m.withTexts table texts).texts other = if other = table then texts else m.texts other := by
  cases table <;> cases other <;> rfl

theorem withTexts_twice (table : TextTable) (texts texts' : SortedMap String) :
    (m.withTexts table texts).withTexts table texts' = m.withTexts table texts' := by
  cases table <;> rfl

theorem withTexts_comm {table other : TextTable} (ne : table ≠ other)
    (texts texts' : SortedMap String) :
    (m.withTexts table texts).withTexts other texts' =
      (m.withTexts other texts').withTexts table texts := by
  cases table <;> cases other <;> first | rfl | exact absurd rfl ne

theorem withTexts_self (table : TextTable) : m.withTexts table (m.texts table) = m := by
  cases table <;> rfl

@[simp]
theorem paths_withTexts (table : TextTable) (texts : SortedMap String) (token : String) :
    (m.withTexts table texts).paths token = m.paths token := by
  cases table <;> rfl

/-- A place has the value that was put there, and the others have what they had. -/
theorem value?_put (place other : Place) (value : String) :
    (m.put place value).value? other = if other = place then some value else m.value? other := by
  cases place with
  | slot token slot =>
    cases other with
    | slot token' slot' =>
      simp only [put, value?, paths, SortedMap.get?_insert, Place.slot.injEq]
      by_cases same : token' = token
      · subst same
        simp [CrudPaths.get?_set]
      · simp [same]
    | entry table _ => cases table <;> rfl
  | entry table key =>
    cases other with
    | slot token slot => simp [put, value?]
    | entry table' key' =>
      simp only [put, value?, texts_withTexts, Place.entry.injEq]
      by_cases same : table' = table
      · subst same
        simp [SortedMap.get?_insert]
      · simp [same]

/-- Values may be put into two places in either order. -/
theorem put_comm {place other : Place} (ne : place ≠ other) (value value' : String) :
    (m.put place value).put other value' = (m.put other value').put place value := by
  cases place with
  | slot token slot =>
    cases other with
    | slot token' slot' =>
      by_cases same : token = token'
      · subst same
        have slots : slot ≠ slot' := fun h => ne (by rw [h])
        simp only [put, paths, SortedMap.get?_insert, if_true, Option.getD_some,
          SortedMap.insert_twice]
        rw [CrudPaths.set_comm _ slots]
      · simp only [put, paths, SortedMap.get?_insert, same, Ne.symm same, if_false,
          m.crud.insert_insert_of_ne same]
    | entry table _ => cases table <;> rfl
  | entry table key =>
    cases other with
    | slot _ _ => cases table <;> rfl
    | entry table' key' =>
      by_cases same : table = table'
      · subst same
        have keys : key ≠ key' := fun h => ne (by rw [h])
        simp only [put, texts_withTexts, if_true, withTexts_twice,
          (m.texts table).insert_insert_of_ne keys]
      · simp only [put, texts_withTexts, same, Ne.symm same, if_false, m.withTexts_comm same]

/-- A token with a slot that is filled has an entry. -/
theorem get?_crud_of_filled {token path : String} {slot : CrudSlot}
    (filled : (m.paths token).get? slot = some path) :
    m.crud.get? token = some (m.paths token) := by
  unfold paths at filled ⊢
  cases listed : m.crud.get? token with
  | none =>
    rw [listed] at filled
    cases slot <;> cases filled
  | some _ => rfl

end Metadata

/-! ## Giving a place its value -/

/-- The session with a value in a place of the tables. -/
def Session.put (s : Session) (place : Place) (value : String) : Session :=
  { s with metadata := s.metadata.put place value }

namespace Infer

/-- Give a name its counterpart in a table of the session. -/
def giveName (table : TextTable) (key value : String) : Infer Unit := do
  let texts ← assignName ((← get).metadata.texts table) key value
  modifyMetadata (·.withTexts table texts)

/-- Give a place its value. -/
def give : Place → String → Infer Unit
  | .slot token slot, path => seat token slot path
  | .entry .autoNames token, property => setAutoName token property
  | .entry table key, value => giveName table key value

theorem run_seat (token : String) (slot : CrudSlot) (path : String) (s : Session) :
    (seat token slot path).run.run s =
      match (s.metadata.paths token).seat slot path with
      | .ok paths => (.ok (), { s with
          metadata := { s.metadata with crud := s.metadata.crud.insert token paths } })
      | .error existing => (.error (.ambiguousOperation token slot existing path), s) := by
  change (match (s.metadata.paths token).seat slot path with
    | .ok paths => modifyMetadata fun m => { m with crud := m.crud.insert token paths }
    | .error existing => throw (.ambiguousOperation token slot existing path) :
      Infer Unit).run.run s = _
  cases (s.metadata.paths token).seat slot path <;> rfl

theorem run_setAutoName (token property : String) (s : Session) :
    (setAutoName token property).run.run s =
      match assign s.metadata.autoNames token property with
      | .ok autoNames => (.ok (), { s with metadata := { s.metadata with autoNames } })
      | .error existing => (.error (.autoNameConflict token existing property), s) := by
  change (match assign s.metadata.autoNames token property with
    | .ok autoNames => modifyMetadata fun m => { m with autoNames }
    | .error existing => throw (.autoNameConflict token existing property) :
      Infer Unit).run.run s = _
  cases assign s.metadata.autoNames token property <;> rfl

theorem run_giveName (table : TextTable) (key value : String) (s : Session) :
    (giveName table key value).run.run s =
      match assign (s.metadata.texts table) key value with
      | .ok texts => (.ok (), { s with metadata := s.metadata.withTexts table texts })
      | .error existing => (.error (.nameConflict key existing value), s) := by
  change (assignName (s.metadata.texts table) key value >>= fun texts =>
    modifyMetadata (·.withTexts table texts)).run.run s = _
  cases assigned : assign (s.metadata.texts table) key value with
  | ok texts => exact run_bind_ok (assignName_ok assigned s)
  | error existing => exact run_bind_error (assignName_error assigned s)

/-- An entry of a table is given its value by single assignment. -/
theorem run_give_entry (table : TextTable) (key value : String) (s : Session) :
    (give (.entry table key) value).run.run s =
      match assign (s.metadata.texts table) key value with
      | .ok texts => (.ok (), { s with metadata := s.metadata.withTexts table texts })
      | .error existing => (.error ((Place.entry table key).conflict existing value), s) := by
  cases table with
  | autoNames => exact run_setAutoName key value s
  | wireNames => exact run_giveName .wireNames key value s
  | sdkNames => exact run_giveName .sdkNames key value s
  | pathParameters => exact run_giveName .pathParameters key value s

/-- A free place gets the value. A place that has the value is left alone, and with another value
it is left alone too, but the step fails. -/
theorem run_give (place : Place) (value : String) (s : Session) :
    (give place value).run.run s =
      match s.metadata.value? place with
      | none => (.ok (), s.put place value)
      | some held =>
        if held = value then (.ok (), s) else (.error (place.conflict held value), s) := by
  cases place with
  | slot token slot =>
    have step := run_seat token slot value s
    simp only [give, Metadata.value?, step, CrudPaths.seat]
    cases held : (s.metadata.paths token).get? slot with
    | none => rfl
    | some existing =>
      have listed := s.metadata.get?_crud_of_filled held
      by_cases same : existing = value
      · simp only [same, if_true, s.metadata.crud.insert_of_get? listed]
      · simp only [same, if_false, Place.conflict]
  | entry table key =>
    simp only [run_give_entry, Metadata.value?, assign]
    cases held : (s.metadata.texts table).get? key with
    | none => rfl
    | some existing =>
      by_cases same : existing = value
      · simp only [same, if_true, s.metadata.withTexts_self]
      · simp only [same, if_false]

end Infer

/-! ## Assignments in a row -/

/-- A value for a place. -/
@[ext]
structure Assignment where
  place : Place
  value : String
  deriving DecidableEq, Repr

namespace Assignment

/-- The step that gives the place its value. -/
def step (a : Assignment) : Infer Unit := Infer.give a.place a.value

/-- Two assignments do not give one place two values. -/
def Agrees (a b : Assignment) : Prop := a.place = b.place → a.value = b.value

instance : Std.Symm Agrees := ⟨fun _ _ agree same => (agree same.symm).symm⟩

/-- The first value that is for a place. -/
def firstFor (place : Place) (assignments : List Assignment) : Option String :=
  (assignments.find? (·.place = place)).map (·.value)

end Assignment

namespace Session

/-- The assignment succeeds in the session. -/
def Accepts (s : Session) (a : Assignment) : Prop := (a.step.run.run s).1 = .ok ()

/-- The session after an assignment, be it accepted or not. -/
def given (s : Session) (a : Assignment) : Session := (a.step.run.run s).2

/-- The session after some assignments one after the other, each of them accepted or not. -/
def givenAll (s : Session) (assignments : List Assignment) : Session := assignments.foldl given s

/-- All of the assignments succeed, one after the other. -/
def AcceptsAll : Session → List Assignment → Prop
  | _, [] => True
  | s, a :: rest => s.Accepts a ∧ (s.given a).AcceptsAll rest

variable {s : Session} {a b : Assignment}

/-- A place takes the value that it has, or any if it has none. -/
theorem accepts_iff :
    s.Accepts a ↔ ∀ held, s.metadata.value? a.place = some held → held = a.value := by
  rw [Accepts, Assignment.step, Infer.run_give]
  cases s.metadata.value? a.place with
  | none => simp
  | some held =>
    by_cases same : held = a.value
    · simp [same]
    · simp [same]

/-- A place refuses a value if it has another one. -/
theorem not_accepts_iff :
    ¬ s.Accepts a ↔ ∃ held, s.metadata.value? a.place = some held ∧ held ≠ a.value := by
  simp only [accepts_iff, Classical.not_forall, exists_prop, ne_eq]

theorem given_eq :
    s.given a = if s.metadata.value? a.place = none then s.put a.place a.value else s := by
  rw [given, Assignment.step, Infer.run_give]
  cases s.metadata.value? a.place with
  | none => simp
  | some held => by_cases same : held = a.value <;> simp [same]

/-- An assignment fails if its place has another value, and leaves the session as it was. -/
theorem run_step_error {e : InferenceError} {s' : Session} :
    a.step.run.run s = (.error e, s') ↔
      s' = s ∧ ∃ held, s.metadata.value? a.place = some held ∧ held ≠ a.value ∧
        e = a.place.conflict held a.value := by
  rw [Assignment.step, Infer.run_give]
  cases s.metadata.value? a.place with
  | none => exact ⟨nofun, nofun⟩
  | some held =>
    dsimp only
    constructor
    · intro failed
      by_cases same : held = a.value
      · rw [if_pos same] at failed
        cases failed
      · rw [if_neg same] at failed
        cases failed
        exact ⟨rfl, held, rfl, same, rfl⟩
    · rintro ⟨rfl, _, ⟨⟩, differs, rfl⟩
      rw [if_neg differs]

/-- An assignment is for a place that had no value. -/
theorem value?_given (s : Session) (a : Assignment) (place : Place) :
    (s.given a).metadata.value? place =
      (s.metadata.value? place).or (if place = a.place then some a.value else none) := by
  rw [given_eq]
  by_cases free : s.metadata.value? a.place = none
  · rw [if_pos free, put, Metadata.value?_put]
    by_cases same : place = a.place
    · simp [same, free]
    · simp [same]
  · rw [if_neg free]
    by_cases same : place = a.place
    · obtain ⟨held, taken⟩ := Option.ne_none_iff_exists'.1 free
      simp [same, taken]
    · simp [same]

/-- A place keeps the value that it has, or else the first one that it is given. -/
theorem value?_givenAll (s : Session) (assignments : List Assignment) (place : Place) :
    (s.givenAll assignments).metadata.value? place =
      (s.metadata.value? place).or (Assignment.firstFor place assignments) := by
  induction assignments generalizing s with
  | nil => simp [givenAll, Assignment.firstFor]
  | cons a rest ih =>
    have later := ih (s.given a)
    rw [value?_given, Option.or_assoc] at later
    refine later.trans (congrArg _ ?_)
    by_cases same : a.place = place
    · simp [Assignment.firstFor, same]
    · simp [Assignment.firstFor, same, Ne.symm same]

/-- What has a value after some assignments had it before, or it is one of them. -/
theorem value?_of_givenAll {assignments : List Assignment} {place : Place} {value : String}
    (given : (s.givenAll assignments).metadata.value? place = some value) :
    s.metadata.value? place = some value ∨ ⟨place, value⟩ ∈ assignments := by
  rw [value?_givenAll, Option.or_eq_some_iff] at given
  refine given.imp_right ?_
  rintro ⟨-, first⟩
  obtain ⟨a, found, rfl⟩ := Option.map_eq_some_iff.1 first
  obtain rfl : a.place = place := by simpa using List.find?_some found
  exact List.mem_of_find?_eq_some found

/-- What is accepted after an assignment is what is accepted before it and agrees with it. -/
theorem accepts_given_iff (accepted : s.Accepts a) :
    (s.given a).Accepts b ↔ s.Accepts b ∧ a.Agrees b := by
  rw [accepts_iff] at accepted
  rw [accepts_iff, accepts_iff, value?_given, Assignment.Agrees]
  by_cases same : b.place = a.place
  · rw [same, if_pos rfl]
    cases held : s.metadata.value? a.place with
    | none => simp
    | some value =>
      have given := accepted value held
      simp [given]
  · simp [same, Ne.symm same]

/-- The values of accepted assignments are there at the end. -/
theorem value?_of_acceptsAll {assignments : List Assignment} (accepted : s.AcceptsAll assignments)
    (member : a ∈ assignments) :
    (s.givenAll assignments).metadata.value? a.place = some a.value := by
  induction assignments generalizing s with
  | nil => cases member
  | cons first rest ih =>
    rcases List.mem_cons.1 member with rfl | later
    · have here : (s.given a).metadata.value? a.place = some a.value := by
        rw [value?_given, if_pos rfl]
        cases held : s.metadata.value? a.place with
        | none => rfl
        | some value => rw [accepts_iff.1 accepted.1 value held, Option.some_or]
      exact (value?_givenAll (s.given a) rest a.place).trans (by rw [here, Option.some_or])
    · exact ih accepted.2 later

/-- Assignments are accepted in a row if each of them is, and each two of them agree. -/
theorem acceptsAll_iff (s : Session) (assignments : List Assignment) :
    s.AcceptsAll assignments ↔
      (∀ a ∈ assignments, s.Accepts a) ∧ assignments.Pairwise Assignment.Agrees := by
  induction assignments generalizing s with
  | nil => simp [AcceptsAll]
  | cons a rest ih =>
    rw [AcceptsAll, ih, List.forall_mem_cons, List.pairwise_cons]
    constructor
    · rintro ⟨first, others, apart⟩
      have each := fun b member => (accepts_given_iff first).1 (others b member)
      exact ⟨⟨first, fun b member => (each b member).1⟩, fun b member => (each b member).2, apart⟩
    · rintro ⟨⟨first, others⟩, agree, apart⟩
      have each := fun b member => (accepts_given_iff first).2 ⟨others b member, agree b member⟩
      exact ⟨first, each, apart⟩

/-- Two assignments that agree leave the same session in either order. -/
theorem given_comm (agree : a.Agrees b) (s : Session) :
    (s.given a).given b = (s.given b).given a := by
  by_cases same : a.place = b.place
  · have equal : a = b := Assignment.ext same (agree same)
    rw [equal]
  · have before : (s.given b).metadata.value? a.place = s.metadata.value? a.place := by
      simp [value?_given, same]
    have behind : (s.given a).metadata.value? b.place = s.metadata.value? b.place := by
      simp [value?_given, Ne.symm same]
    rw [given_eq (s := s.given a), given_eq (s := s.given b), before, behind, given_eq, given_eq]
    split <;> split <;> try rfl
    exact congrArg (fun m => { s with metadata := m }) (s.metadata.put_comm same ..)

variable {assignments others : List Assignment}

/-- The order does not matter to whether assignments are accepted in a row. -/
theorem acceptsAll_perm (perm : assignments.Perm others) (s : Session) :
    s.AcceptsAll others ↔ s.AcceptsAll assignments := by
  rw [acceptsAll_iff, acceptsAll_iff, perm.pairwise_iff (Std.Symm.symm _ _)]
  simp only [perm.mem_iff]

/-- In any order, assignments that are accepted in a row leave the same session. -/
theorem givenAll_perm (perm : assignments.Perm others) (accepted : s.AcceptsAll assignments) :
    s.givenAll others = s.givenAll assignments := by
  have agree := ((s.acceptsAll_iff assignments).1 accepted).2.forall_of_forall fun _ _ _ => rfl
  exact (perm.foldl_eq' (fun _ left _ right => given_comm (agree left right)) s).symm

end Session

/-- Places are given values once. After any assignments, accepted or not, a place has the value that
it had, or else the first one that it was given. An assignment fails exactly if its place has
another value; the error then says both, and the session is as it was. In another order, all
assignments succeed exactly if all of them do in this one, and then the session at the end is the
same. -/
theorem assignments_single (s : Session) (assignments : List Assignment) :
    (∀ place, (s.givenAll assignments).metadata.value? place =
      (s.metadata.value? place).or (Assignment.firstFor place assignments)) ∧
    (∀ (a : Assignment) e s', a.step.run.run (s.givenAll assignments) = (.error e, s') ↔
      s' = s.givenAll assignments ∧
        ∃ held, (s.givenAll assignments).metadata.value? a.place = some held ∧ held ≠ a.value ∧
          e = a.place.conflict held a.value) ∧
    ∀ others, assignments.Perm others →
      (s.AcceptsAll others ↔ s.AcceptsAll assignments) ∧
        (s.AcceptsAll assignments → s.givenAll others = s.givenAll assignments) := by
  refine ⟨s.value?_givenAll assignments, fun a e s' => ?_, fun others perm => ?_⟩
  · exact Session.run_step_error
  · exact ⟨s.acceptsAll_perm perm, s.givenAll_perm perm⟩

/-! ## A resource of which everything is told once -/

/-- What a run says of pets: two paths, the property that names them, and the name of a property. -/
def petAssignments : List Assignment :=
  [⟨.slot "pkg:pets:Pet" .create, "/pets"⟩, ⟨.slot "pkg:pets:Pet" .read, "/pets/\x7bid\x7d"⟩,
    ⟨.entry .autoNames "pkg:pets:Pet", "name"⟩, ⟨.entry .wireNames "petName", "pet_name"⟩]

/-- It may be said backwards, and a second path that reads is refused. -/
theorem petAssignments_single :
    let told := Session.first.givenAll petAssignments
    petAssignments.Perm petAssignments.reverse ∧ Session.first.AcceptsAll petAssignments.reverse ∧
      Session.first.givenAll petAssignments.reverse = told ∧
      told.metadata.value? (.entry .wireNames "petName") = some "pet_name" ∧
      (Infer.seat "pkg:pets:Pet" .read "/pets").run.run told =
        (.error (.ambiguousOperation "pkg:pets:Pet" .read "/pets/\x7bid\x7d" "/pets"), told) := by
  intro told
  have backwards : petAssignments.Perm petAssignments.reverse := (List.reverse_perm _).symm
  have accepted : Session.first.AcceptsAll petAssignments := ⟨rfl, rfl, rfl, rfl, trivial⟩
  obtain ⟨kept, refused, anyOrder⟩ := assignments_single Session.first petAssignments
  obtain ⟨accepts, leaves⟩ := anyOrder _ backwards
  refine ⟨backwards, accepts.2 accepted, leaves accepted, (kept _).trans rfl, ?_⟩
  exact (refused ⟨.slot "pkg:pets:Pet" .read, "/pets"⟩ _ _).2
    ⟨rfl, "/pets/\x7bid\x7d", (kept _).trans rfl, by decide, rfl⟩

end ResourceInference
