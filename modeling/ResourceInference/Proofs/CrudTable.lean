import ResourceInference.Proofs.Operations

/-!
# The table of paths

The table beside a package says which path serves each slot of a token. In an extraction it has
every operation of the document that is not excluded, and no other ones; the resources of the
package are the tokens that have a path which creates, and functions have one which reads
(`crudTable_exact`).

Resources and the slots that create are balanced between the steps that make resources, not within
them: the slot is filled first. So the two changes count as one (`RunFrame.creates`).
-/

set_option autoImplicit false

namespace ResourceInference

/-- A slot of a token has a path. -/
def Metadata.Seated (m : Metadata) (token : String) (slot : CrudSlot) (path : String) : Prop :=
  ∃ paths, m.crud.get? token = some paths ∧ paths.get? slot = some path

theorem Metadata.Seated.unique {m : Metadata} {token path path' : String} {slot : CrudSlot}
    (h : m.Seated token slot path) (h' : m.Seated token slot path') : path' = path := by
  obtain ⟨paths, listed, held⟩ := h
  obtain ⟨_, listed', held'⟩ := h'
  cases listed.symm.trans listed'
  exact Option.some.inj (held'.symm.trans held)

/-! ## Filling a slot -/

namespace CrudPaths

theorem get?_set (paths : CrudPaths) (slot other : CrudSlot) (path : String) :
    (paths.set slot path).get? other = if other = slot then some path else paths.get? other := by
  cases slot <;> cases other <;> rfl

/-- A slot that is given a path has this path and no other one, and other slots are left alone. -/
theorem get?_seat {paths seated : CrudPaths} {slot : CrudSlot} {path : String}
    (h : paths.seat slot path = .ok seated) (other : CrudSlot) (held : String) :
    seated.get? other = some held ↔
      other = slot ∧ held = path ∨ paths.get? other = some held := by
  unfold seat at h
  split at h
  · rename_i existing taken
    split at h
    · rename_i same
      cases h
      exact held_iff_of_taken (taken.trans (congrArg some same)) other held
    · cases h
  · rename_i free
    cases h
    exact held_iff_of_free free (fun other => get?_set ..) other held

end CrudPaths

theorem Metadata.seated_iff (m : Metadata) (token : String) (slot : CrudSlot) (path : String) :
    m.Seated token slot path ↔ ((m.crud.get? token).getD {}).get? slot = some path := by
  unfold Seated
  cases m.crud.get? token with
  | none => cases slot <;> simp [CrudPaths.get?]
  | some paths => simp

/-- A slot of a token has been given a path, and nothing else has changed in the table. -/
structure Session.Seats (s s' : Session) (token : String) (slot : CrudSlot) (path : String) :
    Prop where
  package : s'.package = s.package
  seated : ∀ other slot' path', s'.metadata.Seated other slot' path' ↔
    other = token ∧ slot' = slot ∧ path' = path ∨ s.metadata.Seated other slot' path'

namespace Session.Seats

variable {s s' : Session} {token other path path' : String} {slot slot' : CrudSlot}

theorem here (h : s.Seats s' token slot path) : s'.metadata.Seated token slot path :=
  (h.seated ..).2 (.inl ⟨rfl, rfl, rfl⟩)

theorem kept (h : s.Seats s' token slot path) (before : s.metadata.Seated other slot' path') :
    s'.metadata.Seated other slot' path' := (h.seated ..).2 (.inr before)

theorem provided {task : InferenceTask} (h : s.Seats s' token slot path)
    (provides : task.Provides slot path) (after : s'.metadata.Seated other slot' path') :
    s.metadata.Seated other slot' path' ∨ task.Provides slot' path' := by
  rcases (h.seated ..).1 after with ⟨rfl, rfl, rfl⟩ | before
  · exact .inr provides
  · exact .inl before

end Session.Seats

namespace Infer

variable {s : Session}

theorem seat_ends (token : String) (slot : CrudSlot) (path : String) :
    Ends (seat token slot path) s (fun _ s' => s.Seats s' token slot path) fun _ _ => True := by
  unfold seat
  refine ends_bind.2 (ends_get.2 ?_)
  split
  · rename_i paths seated
    refine ⟨rfl, fun other slot' path' => ?_⟩
    change Metadata.Seated { s.metadata with crud := s.metadata.crud.insert token paths } .. ↔ _
    rw [Metadata.seated_iff, Metadata.seated_iff, SortedMap.get?_insert]
    split
    · rename_i same
      subst same
      exact (CrudPaths.get?_seat seated slot' path').trans (by simp)
    · rename_i ne
      simp [ne]
  · exact trivial

end Infer

/-! ## The table along a run -/

/-- Resources are the tokens with a path that creates, and functions have one that reads. -/
structure Session.Balanced (s : Session) : Prop where
  resources : ∀ token, s.package.resources.contains token = true ↔
    ∃ path, s.metadata.Seated token .create path
  functions : ∀ token, s.package.functions.contains token = true →
    ∃ path, s.metadata.Seated token .read path

/-- The table loses no path, gets only paths that the document provides, and stays balanced. -/
structure Session.Tabulates (task : InferenceTask) (s s' : Session) : Prop where
  kept : ∀ token slot path, s.metadata.Seated token slot path → s'.metadata.Seated token slot path
  provided : ∀ token slot path, s'.metadata.Seated token slot path →
    s.metadata.Seated token slot path ∨ task.Provides slot path
  balanced : s.Balanced → s'.Balanced

/-- The tables of paths, resources and functions are the same. -/
structure Session.SameTable (s s' : Session) : Prop where
  crud : s'.metadata.crud = s.metadata.crud
  resources : ∀ token, s'.package.resources.contains token = s.package.resources.contains token
  functions : s'.package.functions = s.package.functions

namespace Session

variable {task : InferenceTask} {s s' s'' : Session}

/-- Functions go on to have their slot that reads filled. -/
theorem Seats.functions {token path : String} {slot : CrudSlot} (h : s.Seats s' token slot path)
    (balanced : s.Balanced) {other : String}
    (isFunction : s'.package.functions.contains other = true) :
    ∃ path, s'.metadata.Seated other .read path := by
  rw [h.package] at isFunction
  obtain ⟨path', before⟩ := balanced.functions other isFunction
  exact ⟨path', h.kept before⟩

theorem SameTable.seated (h : s.SameTable s') (token : String) (slot : CrudSlot) (path : String) :
    s'.metadata.Seated token slot path ↔ s.metadata.Seated token slot path := by
  unfold Metadata.Seated
  rw [h.crud]

theorem Tabulates.of_same (h : s.SameTable s') : s.Tabulates task s' where
  kept token slot path := (h.seated token slot path).2
  provided token slot path seated := .inl ((h.seated token slot path).1 seated)
  balanced balanced := by
    refine ⟨fun token => ?_, fun token => ?_⟩
    · simp only [h.resources, h.seated]
      exact balanced.resources token
    · simp only [h.functions, h.seated]
      exact balanced.functions token

theorem Tabulates.trans (first : s.Tabulates task s') (second : s'.Tabulates task s'') :
    s.Tabulates task s'' where
  kept token slot path seated := second.kept _ _ _ (first.kept token slot path seated)
  provided token slot path seated :=
    (second.provided token slot path seated).elim (first.provided token slot path) .inr
  balanced balanced := second.balanced (first.balanced balanced)

end Session

/-- The course along which the table of paths grows. -/
def Course.tabulating (task : InferenceTask) : Course where
  rel := Session.Tabulates task
  breaks _ _ := True
  refl _ := .of_same ⟨rfl, fun _ => rfl, rfl⟩
  trans := .trans
  breaksOff _ := trivial
  breaksLater _ _ := trivial

namespace Infer

variable {task : InferenceTask} {s : Session}

theorem recordName_tabulates (wire sdk : String) :
    (Course.tabulating task).Runs (recordName wire sdk) s fun _ _ => True := by
  refine ⟨(recordName_ends wire sdk).imp ?_⟩
  rintro _ s' (⟨-, rfl⟩ | ⟨_, _, -, -, rfl⟩)
  · exact ⟨(Course.tabulating task).refl _, trivial⟩
  · exact ⟨.of_same ⟨rfl, fun _ => rfl, rfl⟩, trivial⟩

variable {slot : CrudSlot} {path : String}

/-- A slot that creates nothing is filled with a path that the document provides. -/
theorem seat_tabulates {token : String} (provides : task.Provides slot path)
    (changes : slot ≠ .create) :
    (Course.tabulating task).Runs (seat token slot path) s fun _ s' =>
      s'.metadata.Seated token slot path := by
  refine ⟨(seat_ends token slot path).imp fun _ s' seats => ⟨⟨?_, ?_, ?_⟩, seats.here⟩⟩
  · exact fun _ _ _ => seats.kept
  · exact fun _ _ _ => seats.provided provides
  · intro balanced
    refine ⟨fun other => ?_, fun other => seats.functions balanced⟩
    rw [seats.package, balanced.resources other]
    simp only [seats.seated, Ne.symm changes, false_and, and_false, false_or]

/-- A function is put under a token whose slot that reads is filled. -/
theorem putFunction_tabulates {token : String} {function : FunctionSpec}
    (provides : task.Provides .read path) :
    (Course.tabulating task).Runs (seat token .read path >>= fun _ => putFunction token function) s
      fun _ s' => ∃ token, s'.metadata.Seated token .read path := by
  refine (seat_tabulates provides (by decide)).bind fun _ s₁ _ seated =>
    ⟨⟨⟨?_, ?_, ?_⟩, token, seated⟩⟩
  · exact fun _ _ _ => id
  · exact fun _ _ _ => .inl
  · intro balanced
    refine ⟨balanced.resources, fun other isFunction => ?_⟩
    rcases (SortedMap.contains_insert ..).1 isFunction with rfl | before
    · exact ⟨path, seated⟩
    · exact balanced.functions other before

/-- A resource is put under a token whose slot that creates is filled. -/
theorem putResource_tabulates {token : String} {resource : ResourceSpec}
    (provides : task.Provides .create path) :
    (Course.tabulating task).Runs
      (seat token .create path >>= fun _ => putResource token resource) s
      fun _ s' => ∃ token, s'.metadata.Seated token .create path := by
  refine ⟨ends_bind.2 ((seat_ends token .create path).imp fun _ s₁ seats => ?_)⟩
  refine ⟨⟨?_, ?_, ?_⟩, token, seats.here⟩
  · exact fun _ _ _ => seats.kept
  · exact fun _ _ _ => seats.provided provides
  · intro balanced
    refine ⟨fun other => ?_, fun other => seats.functions balanced⟩
    refine (SortedMap.contains_insert ..).trans ?_
    rw [seats.package, balanced.resources other]
    constructor
    · rintro (rfl | ⟨path', before⟩)
      · exact ⟨path, seats.here⟩
      · exact ⟨path', seats.kept before⟩
    · rintro ⟨path', after⟩
      rcases (seats.seated ..).1 after with ⟨rfl, -⟩ | before
      · exact .inl rfl
      · exact .inr ⟨path', before⟩

end Infer

/-- The frame along which the table of paths grows. -/
def RunFrame.tabulation (task : InferenceTask) : RunFrame task where
  toCourse := .tabulating task
  toFinds := .all task.document
  done _ _ := True
  named _ _ := True
  filled slot path s := ∃ token, s.metadata.Seated token slot path
  doneLasts _ := id
  namedLasts _ := id
  filledLasts later := fun ⟨token, seated⟩ => ⟨token, later.kept _ _ _ seated⟩
  registers _ _ := .of_same ⟨rfl, fun _ => rfl, rfl⟩
  forms _ := .of_same ⟨rfl, fun _ => rfl, rfl⟩
  merges _ _ := .of_same ⟨rfl, fun _ => rfl, rfl⟩
  drops _ _ := .of_same ⟨rfl, fun _ => rfl, rfl⟩
  moves _ _ _ _ := .of_same ⟨rfl, fun _ => rfl, rfl⟩
  unmarks _ _ := .of_same ⟨rfl, fun _ => rfl, rfl⟩
  refers _ _ _ := .of_same ⟨rfl, fun _ => rfl, rfl⟩
  records _ _ := Infer.recordName_tabulates ..
  pathParameters _ _ := .of_same ⟨rfl, fun _ => rfl, rfl⟩
  autoNames _ _ := .of_same ⟨rfl, fun _ => rfl, rfl⟩
  moduleNamespaces _ _ := .of_same ⟨rfl, fun _ => rfl, rfl⟩
  finishes _ := trivial
  builds {s s' component token schema} _ later _ _ _ := by
    have entered : s.SameTable ((s.noted (.referred component token)).entering token) :=
      ⟨rfl, fun _ => rfl, rfl⟩
    have left : s'.SameTable (s'.noted (.left token)) := ⟨rfl, fun _ => rfl, rfl⟩
    exact (Session.Tabulates.of_same entered).trans (.trans later (.of_same left))
  breaksBuilding _ := trivial
  seats _ _ provides changes := (Infer.seat_tabulates provides changes).imp fun _ _ _ seated =>
    ⟨_, seated⟩
  reads _ _ _ provides := Infer.putFunction_tabulates provides
  creates _ _ _ provides := Infer.putResource_tabulates provides
  replaces {s token resource} changed present := by
    refine .of_same ⟨rfl, fun other => Bool.eq_iff_iff.2 ?_, rfl⟩
    refine (SortedMap.contains_insert ..).trans (or_iff_right_of_imp ?_)
    rintro rfl
    exact (SortedMap.contains_iff ..).2 ⟨resource, present⟩

/-! ## The result -/

/-- In an extraction, every operation of the document that is not excluded has filled its slot of
some token with the normal form of its path; every filled slot is filled by such an operation, the
slot that creates by a POST, or by a PUT where there is no POST; the resources are the tokens whose
slot that creates is filled, and functions have their slot that reads filled. -/
theorem crudTable_exact {task : InferenceTask} {e : Extraction} (h : extract task = .ok e) :
    (∀ path method, task.Offers path method →
      ∃ token, e.metadata.Seated token method.slot (task.normalForm path)) ∧
    (∀ token slot path, e.metadata.Seated token slot path → task.Provides slot path) ∧
    (∀ token, e.package.resources.contains token = true ↔
      ∃ path, e.metadata.Seated token .create path) ∧
    ∀ token, e.package.functions.contains token = true →
      ∃ path, e.metadata.Seated token .read path := by
  obtain ⟨tabulates, extracted⟩ := (RunFrame.tabulation task).lastSession_extracted h
  have none : ∀ token slot path, ¬ (Session.new task.options).metadata.Seated token slot path := by
    rintro token slot path ⟨paths, registered, -⟩
    cases registered
  have start : (Session.new task.options).Balanced := by
    refine ⟨fun token => ⟨fun isResource => ?_, ?_⟩, fun token isFunction => ?_⟩
    · cases isResource
    · rintro ⟨path, seated⟩
      exact absurd seated (none token .create path)
    · cases isFunction
  rw [extract_eq_finish h]
  refine ⟨fun path method offers => ?_, fun token slot path seated => ?_,
    (tabulates.balanced start).resources, (tabulates.balanced start).functions⟩
  · obtain ⟨item, listed, present, allowed⟩ := offers
    have offers : task.Offers path method := ⟨item, listed, present, allowed⟩
    obtain ⟨ctx, extracts, rfl, done⟩ := extracted (path, item)
      ((SortedMap.mem_toList_iff ..).2 listed) (offers.answers listed)
    rw [← extracts.path_eq]
    exact done.filled method ((extracts.offers_iff method).1 offers)
  · exact (tabulates.provided token slot path seated).resolve_left (none token slot path)

/-- A book that can be read and deleted. -/
def oneBook : InferenceTask :=
  (Document.having [] [("/books/\x7bbookId\x7d",
    { PathItem.reading "getBook" (.item (.object [] [])) with
      delete := some { operationId := some "deleteBook" } })]).task

/-- The operations of a book fill their slots under the normal form of its path, and the function
that reads it has its slot filled. -/
theorem oneBook_crudTable : ∃ e, extract oneBook = .ok e ∧
    (∃ token, e.metadata.Seated token .delete "/books/\x7bid\x7d") ∧
      ∃ path, e.metadata.Seated "pkg:books:getBook" .read path ∧ oneBook.Provides .read path := by
  have h : extract oneBook = .ok oneBook.lastSession.finish := extract_of_isOk (by decide +kernel)
  obtain ⟨all, only, -, functions⟩ := crudTable_exact h
  have offers : oneBook.Offers "/books/\x7bbookId\x7d" .delete :=
    ⟨_, rfl, by decide +kernel, by decide +kernel⟩
  have normal : oneBook.normalForm "/books/\x7bbookId\x7d" = "/books/\x7bid\x7d" := by
    decide +kernel
  obtain ⟨path, seated⟩ := functions "pkg:books:getBook" (by decide +kernel)
  exact ⟨_, h, normal ▸ all _ _ offers, path, seated, only _ _ _ seated⟩

end ResourceInference
