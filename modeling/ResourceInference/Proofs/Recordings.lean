import ResourceInference.Proofs.SingleAssignment

/-!
# Recordings that fail

A wire name and its SDK name are recorded by a row of assignments: in the table of wire names, in
the table of SDK names and, for a path parameter, in a third table (`Recording.step_eq`). The row
stops at the first assignment that is refused and keeps the ones in front of it
(`Infer.giveAll_ends`), so a recording may fail and leave half of a pair behind.

It is only ever the first half. A path parameter is in the table of SDK names too, so what the third
table would refuse is refused by the second one already (`Metadata.ParametersNoted`). A failed
recording leaves the tables as they were exactly if the SDK name had a wire name
(`failedRecording_kept_iff`). Where all SDK names are derived from their wire names, as they are in
an extraction, the second table refuses nothing, and nothing is left behind.
-/

set_option autoImplicit false

namespace ResourceInference

namespace Infer

/-- Give places their values, one after the other. -/
def giveAll (assignments : List Assignment) : Infer Unit := assignments.forM (·.step)

/-- A row of assignments stops at the first one that is refused, and keeps those in front of it. -/
theorem giveAll_ends (assignments : List Assignment) (s : Session) :
    Ends (giveAll assignments) s
      (fun _ s' => s.AcceptsAll assignments ∧ s' = s.givenAll assignments)
      fun e s' => ∃ front a rest, assignments = front ++ a :: rest ∧ s.AcceptsAll front ∧
        s' = s.givenAll front ∧ a.step.run.run s' = (.error e, s') := by
  induction assignments generalizing s with
  | nil => exact ⟨trivial, rfl⟩
  | cons a rest ih =>
    refine ends_bind.2 ((ends_ran a.step s).mono ?_ ?_)
    · intro _ s₁ ran
      have accepted : s.Accepts a := congrArg Prod.fst ran
      obtain rfl : s.given a = s₁ := congrArg Prod.snd ran
      refine (ih (s.given a)).mono ?_ ?_
      · rintro _ s' ⟨others, left⟩
        exact ⟨⟨accepted, others⟩, left⟩
      · rintro e s' ⟨front, b, back, rfl, others, left, refused⟩
        exact ⟨a :: front, b, back, rfl, ⟨accepted, others⟩, left, refused⟩
    · intro e s' ran
      obtain ⟨rfl, -⟩ := Session.run_step_error.1 ran
      exact ⟨[], a, rest, rfl, trivial, rfl, ran⟩

end Infer

/-! ## Recordings as assignments -/

/-- A wire name and an SDK name that are recorded as a pair, maybe as those of a path parameter. -/
structure Recording where
  wire : String
  sdk : String
  isParameter : Bool := false
  deriving DecidableEq, Repr

namespace Recording

/-- The step that records the pair. -/
def step (r : Recording) : Infer Unit :=
  if r.isParameter then Infer.recordPathParameter r.wire r.sdk else Infer.recordName r.wire r.sdk

/-- The wire name of the SDK name. -/
def wireHalf (r : Recording) : Assignment := ⟨.entry .wireNames r.sdk, r.wire⟩

/-- The SDK name of the wire name. -/
def sdkHalf (r : Recording) : Assignment := ⟨.entry .sdkNames r.wire, r.sdk⟩

/-- The SDK name of the path parameter. -/
def parameter (r : Recording) : Assignment := ⟨.entry .pathParameters r.wire, r.sdk⟩

/-- The assignments of a recording. A name that is its own SDK name is not recorded. -/
def assignments (r : Recording) : List Assignment :=
  if r.wire = r.sdk then []
  else r.wireHalf :: r.sdkHalf :: if r.isParameter then [r.parameter] else []

theorem step_eq (r : Recording) : r.step = Infer.giveAll r.assignments := by
  obtain ⟨wire, sdk, isParameter⟩ := r
  by_cases own : wire = sdk
  · cases isParameter <;>
      simp [step, assignments, own, Infer.giveAll, Infer.recordName, Infer.recordPathParameter]
  · cases isParameter <;>
      simp [step, assignments, own, Infer.giveAll, Infer.recordName, Infer.recordPathParameter,
        wireHalf, sdkHalf, parameter, Assignment.step, Infer.give, Infer.giveName, Metadata.texts,
        Metadata.withTexts]

end Recording

namespace Recording

variable {r : Recording} {front : List Assignment}

/-- What a recording can come to: nothing, the first half, both halves, or the third table too. -/
theorem prefix_cases (kept : front <+: r.assignments) :
    front = [] ∨ front = [r.wireHalf] ∨ front = [r.wireHalf, r.sdkHalf] ∨
      front = [r.wireHalf, r.sdkHalf, r.parameter] := by
  have all : r.assignments <+: [r.wireHalf, r.sdkHalf, r.parameter] := by
    unfold assignments
    split
    · exact List.nil_prefix
    · cases r.isParameter <;> simp
  have kept := kept.trans all
  simp only [List.prefix_cons_iff, List.prefix_nil] at kept
  rcases kept with rfl | ⟨_, rfl, rfl | ⟨_, rfl, rfl | ⟨_, rfl, rfl⟩⟩⟩
  · exact .inl rfl
  · exact .inr (.inl rfl)
  · exact .inr (.inr (.inl rfl))
  · exact .inr (.inr (.inr rfl))

end Recording

/-! ## Sessions that are reached by recordings -/

/-- What is noted of a path parameter is noted in the table of SDK names too. -/
def Metadata.ParametersNoted (m : Metadata) : Prop :=
  ∀ wire sdk, m.pathParameters.get? wire = some sdk → m.sdkNames.get? wire = some sdk

/-- Every name in the table of SDK names has the SDK name that is derived from it. -/
def Metadata.SdkNamesDerived (m : Metadata) : Prop :=
  ∀ wire sdk, m.sdkNames.get? wire = some sdk → sdk = Naming.sdkName wire

namespace Session

/-- The session after a recording, be it complete or not. -/
def recorded (s : Session) (r : Recording) : Session := (r.step.run.run s).2

/-- The session after some recordings one after the other, each of them complete or not. -/
def recordedAll (s : Session) (recordings : List Recording) : Session :=
  recordings.foldl recorded s

variable {s : Session} {r : Recording}

/-- Of a recording, the first assignments are kept. -/
theorem recorded_eq (s : Session) (r : Recording) :
    ∃ front, front <+: r.assignments ∧ s.AcceptsAll front ∧ s.recorded r = s.givenAll front := by
  have ends := Infer.giveAll_ends r.assignments s
  rw [← r.step_eq, Infer.Ends] at ends
  rcases ran : r.step.run.run s with ⟨_ | _, s'⟩
  · rw [ran] at ends
    obtain ⟨front, a, rest, made, accepted, rfl, -⟩ := ends
    exact ⟨front, ⟨a :: rest, made.symm⟩, accepted, congrArg Prod.snd ran⟩
  · rw [ran] at ends
    obtain ⟨accepted, rfl⟩ := ends
    exact ⟨r.assignments, List.prefix_refl _, accepted, congrArg Prod.snd ran⟩

/-- Half a recording or all of it, a path parameter has been noted in both tables. -/
theorem recorded_parametersNoted (noted : s.metadata.ParametersNoted) (r : Recording) :
    (s.recorded r).metadata.ParametersNoted := by
  obtain ⟨front, kept, accepted, left⟩ := s.recorded_eq r
  rw [left]
  intro wire sdk parameter
  have given : (s.givenAll front).metadata.value? (.entry .pathParameters wire) = some sdk :=
    parameter
  change (s.givenAll front).metadata.value? (.entry .sdkNames wire) = some sdk
  rcases value?_of_givenAll given with before | member
  · have earlier : s.metadata.value? (.entry .sdkNames wire) = some sdk := noted wire sdk before
    rw [value?_givenAll, earlier, Option.some_or]
  · -- The third table comes last, so the other two have taken the names.
    rcases Recording.prefix_cases kept with rfl | rfl | rfl | rfl <;>
      simp [Recording.wireHalf, Recording.sdkHalf, Recording.parameter] at member
    obtain ⟨rfl, rfl⟩ := member
    exact value?_of_acceptsAll (a := r.sdkHalf) accepted (by simp)

theorem recorded_sdkNamesDerived (derived : s.metadata.SdkNamesDerived)
    (named : r.sdk = Naming.sdkName r.wire) : (s.recorded r).metadata.SdkNamesDerived := by
  obtain ⟨front, kept, -, left⟩ := s.recorded_eq r
  rw [left]
  intro wire sdk given
  have given : (s.givenAll front).metadata.value? (.entry .sdkNames wire) = some sdk := given
  rcases value?_of_givenAll given with before | member
  · exact derived wire sdk before
  · rcases Recording.prefix_cases kept with rfl | rfl | rfl | rfl <;>
      simp [Recording.wireHalf, Recording.sdkHalf, Recording.parameter] at member
    all_goals
      obtain ⟨rfl, rfl⟩ := member
      exact named

theorem recordedAll_parametersNoted (noted : s.metadata.ParametersNoted)
    (recordings : List Recording) : (s.recordedAll recordings).metadata.ParametersNoted := by
  induction recordings generalizing s with
  | nil => exact noted
  | cons r rest ih => exact ih (recorded_parametersNoted noted r)

theorem recordedAll_sdkNamesDerived (derived : s.metadata.SdkNamesDerived)
    {recordings : List Recording} (named : ∀ r ∈ recordings, r.sdk = Naming.sdkName r.wire) :
    (s.recordedAll recordings).metadata.SdkNamesDerived := by
  induction recordings generalizing s with
  | nil => exact derived
  | cons r rest ih =>
    obtain ⟨first, others⟩ := List.forall_mem_cons.1 named
    exact ih (recorded_sdkNamesDerived derived first) others

theorem new_parametersNoted (options : InferenceOptions) :
    (new options).metadata.ParametersNoted :=
  fun _ _ listed => nomatch (listed : none = some _)

theorem new_sdkNamesDerived (options : InferenceOptions) :
    (new options).metadata.SdkNamesDerived :=
  fun _ _ listed => nomatch (listed : none = some _)

end Session

/-! ## Recordings that fail -/

namespace Recording

variable {s s' : Session} {r : Recording} {e : InferenceError}

/-- The two halves of a pair are for different tables. -/
theorem halves_agree : r.wireHalf.Agrees r.sdkHalf := by
  intro same
  cases same

/-- A recording that is complete has both its halves accepted. -/
theorem accepts_of_complete (ran : r.step.run.run s = (.ok (), s')) (differ : r.wire ≠ r.sdk) :
    s.Accepts r.wireHalf ∧ s.Accepts r.sdkHalf := by
  have ends := Infer.giveAll_ends r.assignments s
  rw [← r.step_eq] at ends
  have accepted := ((s.acceptsAll_iff _).1 (ends.of_run ran).1).1
  simp only [assignments, if_neg differ, List.forall_mem_cons] at accepted
  exact ⟨accepted.1, accepted.2.1⟩

/-- A recording that fails refuses one of its halves, and leaves what the first one leaves. -/
theorem left_of_failed (noted : s.metadata.ParametersNoted)
    (ran : r.step.run.run s = (.error e, s')) :
    r.wire ≠ r.sdk ∧ ¬ (s.Accepts r.wireHalf ∧ s.Accepts r.sdkHalf) ∧ s' = s.given r.wireHalf := by
  have ends := Infer.giveAll_ends r.assignments s
  rw [← r.step_eq, Infer.Ends, ran] at ends
  obtain ⟨front, a, rest, made, accepted, rfl, refused⟩ := ends
  obtain ⟨-, held, taken, other, -⟩ := Session.run_step_error.1 refused
  have refuses : ¬ (s.givenAll front).Accepts a := Session.not_accepts_iff.2 ⟨held, taken, other⟩
  refine ⟨fun own => ?_, ?_⟩
  · simp [assignments, own] at made
  have kept : front ++ [a] <+: r.assignments := ⟨rest, by simp [made]⟩
  rcases prefix_cases kept with cut | cut | cut | cut
  · simp at cut
  · obtain ⟨rfl, ⟨⟩⟩ := List.append_inj' (show front ++ [a] = [] ++ [r.wireHalf] from cut) rfl
    exact ⟨fun ⟨first, _⟩ => refuses first, (congrArg Prod.snd refused).symm⟩
  · obtain ⟨rfl, ⟨⟩⟩ :=
      List.append_inj' (show front ++ [a] = [r.wireHalf] ++ [r.sdkHalf] from cut) rfl
    exact ⟨fun ⟨_, second⟩ => refuses ((Session.accepts_given_iff accepted.1).2
      ⟨second, halves_agree⟩), rfl⟩
  · obtain ⟨rfl, ⟨⟩⟩ := List.append_inj'
      (show front ++ [a] = [r.wireHalf, r.sdkHalf] ++ [r.parameter] from cut) rfl
    -- The third table holds what the second one held, so the second one has refused the name.
    have second := ((Session.accepts_given_iff accepted.1).1 accepted.2.1).1
    have before : s.metadata.value? r.parameter.place = some held := by
      refine (Session.value?_of_givenAll taken).resolve_right ?_
      simp [wireHalf, sdkHalf, parameter]
    exact absurd (Session.accepts_iff.1 second held (noted _ _ before)) other

/-- A recording fails if it has two names, and one of them goes with a third one. -/
theorem failed_iff (noted : s.metadata.ParametersNoted) :
    (∃ e s', r.step.run.run s = (.error e, s')) ↔
      r.wire ≠ r.sdk ∧ ¬ (s.Accepts r.wireHalf ∧ s.Accepts r.sdkHalf) := by
  constructor
  · rintro ⟨e, s', ran⟩
    obtain ⟨differ, refused, -⟩ := left_of_failed noted ran
    exact ⟨differ, refused⟩
  · rintro ⟨differ, refused⟩
    rcases ran : r.step.run.run s with ⟨_ | _, s'⟩
    · exact ⟨_, s', rfl⟩
    · exact absurd (accepts_of_complete ran differ) refused

/-- A recording that fails is without effect if the SDK name has a wire name. -/
theorem left_of_contains (noted : s.metadata.ParametersNoted)
    (ran : r.step.run.run s = (.error e, s')) :
    s' = if s.metadata.wireNames.contains r.sdk then s
      else s.put (.entry .wireNames r.sdk) r.wire := by
  obtain ⟨-, -, rfl⟩ := left_of_failed noted ran
  have listed : s.metadata.wireNames.contains r.sdk = true ↔
      ¬ s.metadata.value? r.wireHalf.place = none := Option.isSome_iff_ne_none
  simp only [Session.given_eq, listed, ite_not]
  rfl

/-- Where SDK names are derived, the table of SDK names refuses none, so that a recording fails only
if its SDK name has a wire name. -/
theorem contains_of_derived (noted : s.metadata.ParametersNoted)
    (derived : s.metadata.SdkNamesDerived) (named : r.sdk = Naming.sdkName r.wire)
    (ran : r.step.run.run s = (.error e, s')) : s.metadata.wireNames.contains r.sdk = true := by
  obtain ⟨-, refused, -⟩ := left_of_failed noted ran
  have second : s.Accepts r.sdkHalf := by
    refine Session.accepts_iff.2 fun held listed => ?_
    exact (derived r.wire held listed).trans named.symm
  obtain ⟨held, taken, -⟩ := Session.not_accepts_iff.1 fun first => refused ⟨first, second⟩
  exact Option.isSome_iff_exists.2 ⟨held, taken⟩

end Recording

/-- The tables of names are the same. -/
structure Metadata.SameNames (m m' : Metadata) : Prop where
  wireNames : m.wireNames = m'.wireNames
  sdkNames : m.sdkNames = m'.sdkNames
  pathParameters : m.pathParameters = m'.pathParameters

/-- After any recordings, failed ones included, a recording fails exactly if it has two names and
one of them goes with a third one. It then leaves the tables of names as they were exactly if the
SDK name had a wire name; if it had none, it has one now, and nothing else has changed. If all SDK
names are derived from their wire names, a recording that fails has no effect. -/
theorem failedRecording_kept_iff (options : InferenceOptions) (earlier : List Recording)
    (r : Recording) :
    let s := (Session.new options).recordedAll earlier
    ((∃ e s', r.step.run.run s = (.error e, s')) ↔ r.wire ≠ r.sdk ∧
      ((∃ held, s.metadata.wireNames.get? r.sdk = some held ∧ held ≠ r.wire) ∨
        ∃ held, s.metadata.sdkNames.get? r.wire = some held ∧ held ≠ r.sdk)) ∧
    ∀ e s', r.step.run.run s = (.error e, s') →
      (s'.metadata.SameNames s.metadata ↔ s.metadata.wireNames.contains r.sdk = true) ∧
      (s' = if s.metadata.wireNames.contains r.sdk then s
        else s.put (.entry .wireNames r.sdk) r.wire) ∧
      ((∀ q ∈ r :: earlier, q.sdk = Naming.sdkName q.wire) → s' = s) := by
  intro s
  have noted : s.metadata.ParametersNoted := 
    Session.recordedAll_parametersNoted (Session.new_parametersNoted options) earlier
  refine ⟨?_, fun e s' ran => ?_⟩
  · rw [Recording.failed_iff noted, Classical.not_and_iff_not_or_not, Session.not_accepts_iff,
      Session.not_accepts_iff]
    rfl
  · have left := Recording.left_of_contains noted ran
    refine ⟨⟨fun same => ?_, fun listed => ?_⟩, left, fun named => ?_⟩
    · by_contra absent
      rw [if_neg absent] at left
      have gained : s'.metadata.wireNames.contains r.sdk = true := by
        rw [left, Session.put, Metadata.put, Metadata.withTexts, SortedMap.contains_insert]
        simp
      exact absent (same.wireNames ▸ gained)
    · rw [if_pos listed] at left
      rw [left]
      exact ⟨rfl, rfl, rfl⟩
    · obtain ⟨name, names⟩ := List.forall_mem_cons.1 named
      have derived : s.metadata.SdkNamesDerived := 
        Session.recordedAll_sdkNamesDerived (Session.new_sdkNamesDerived options) names
      rw [left, if_pos (Recording.contains_of_derived noted derived name ran)]

/-! ## A name with two SDK names -/

/-- A name that gets its SDK name. -/
def fooBar : Recording := ⟨"foo_bar", "fooBar", true⟩

/-- A second wire name of an SDK name is refused, and leaves nothing behind. -/
theorem secondWireName_kept :
    let s := Session.first.recordedAll [fooBar]
    ∃ e s', (Infer.recordName "foo-bar" "fooBar").run.run s = (.error e, s') ∧
      s'.metadata.SameNames s.metadata := by
  intro s
  obtain ⟨fails, kept⟩ := failedRecording_kept_iff { packageName := "pkg" } [fooBar]
    ⟨"foo-bar", "fooBar", false⟩
  obtain ⟨e, s', ran⟩ := fails.2 ⟨by decide, .inl ⟨"foo_bar", rfl, by decide⟩⟩
  exact ⟨e, s', ran, (kept e s' ran).1.2 rfl⟩

/-- A second SDK name of a wire name is refused, and yet it has the wire name afterwards. -/
theorem secondSdkName_left :
    let s := Session.first.recordedAll [fooBar]
    ∃ s', (Infer.recordName "foo_bar" "other").run.run s =
        (.error (.nameConflict "foo_bar" "fooBar" "other"), s') ∧
      ¬ s'.metadata.SameNames s.metadata ∧
      s'.metadata.wireNames.get? "other" = some "foo_bar" ∧
      s'.metadata.sdkNames.get? "foo_bar" = some "fooBar" := by
  intro s
  refine ⟨_, rfl, fun same => ?_, rfl, rfl⟩
  have gained := congrArg (·.get? "other") same.wireNames
  cases (gained : some "foo_bar" = none)

end ResourceInference
