import ResourceInference.Json.Reader
import ResourceInference.Proofs.JsonTokens

/-!
# Reading what was written

The reader makes of the tokens of a value its tree, as long as the value is nested no deeper than
the reader follows (`Json.read_compact`). The induction is on that depth: what is inside a list or
an object has one level less, and so have the frames that are still free.

On the other hand no tree that is read is nested deeper than that (`Json.within_of_read`).
-/

set_option autoImplicit false

namespace ResourceInference

/-- The value is made of scalars by lists and objects that are nested at most so deep. -/
def Value.Within : Nat → Value → Prop
  | bound + 1, .list items => ∀ item ∈ items, item.Within bound
  | bound + 1, .object entries => ∀ entry ∈ entries, entry.2.Within bound
  | 0, .list _ => False
  | 0, .object _ => False
  | _, _ => True

/-- The tree is made of scalars of JSON by lists and mappings that are nested at most so deep. -/
def Node.Within : Nat → Node → Prop
  | bound + 1, .list items => ∀ item ∈ items, item.Within bound
  | bound + 1, .mapping entries => ∀ entry ∈ entries, entry.2.Within bound
  | 0, .list _ => False
  | 0, .mapping _ => False
  | _, .plain _ => False
  | _, .tagged _ _ => False
  | _, _ => True

namespace Json

/-! ## Reading tokens -/

theorem run_cons {r r' : Reader} {token : Token} (h : r.step token = .ok r') (rest : List Token) :
    r.run (token :: rest) = r'.run rest := by
  simp only [Reader.run, h, bind, Except.bind]

/-- A value does not start with the end of a list. -/
theorem valueTokens_head (v : Value) :
    ∃ token rest, valueTokens v = token :: rest ∧ token ≠ .closeList := by
  cases v <;> simp [valueTokens]

/-- Where an item may stand a value is read as a value. -/
theorem run_item {frames : List Frame} {expect : Expect} (h : expect = .value ∨ expect = .itemOrEnd)
    (v : Value) (more : List Token) :
    Reader.run ⟨frames, expect, none⟩ (valueTokens v ++ more) =
      Reader.run ⟨frames, .value, none⟩ (valueTokens v ++ more) := by
  obtain ⟨token, rest, spelt, notEnd⟩ := valueTokens_head v
  have same : Reader.step ⟨frames, expect, none⟩ token =
      Reader.step ⟨frames, .value, none⟩ token := by
    rcases h with rfl | rfl
    · rfl
    · cases token <;> first | rfl | exact absurd rfl notEnd
  simp only [spelt, List.cons_append, Reader.run, same]

/-- Where a key may stand a text is a key. -/
theorem step_key {expect : Expect} (h : expect = .key ∨ expect = .keyOrEnd)
    (done : List (Node × Node)) (key : String) (frames : List Frame) :
    Reader.step ⟨.object done :: frames, expect, none⟩ (.string key) =
      .ok ⟨.entry done (.string key) :: frames, .colon, none⟩ := by
  rcases h with rfl | rfl <;> rfl

theorem complete_list (items : List Node) (frames : List Frame) (node : Node) :
    Reader.complete (.list items :: frames) node =
      ⟨.list (node :: items) :: frames, .after, none⟩ := rfl

theorem complete_entry (entries : List (Node × Node)) (key : Node) (frames : List Frame)
    (node : Node) : Reader.complete (.entry entries key :: frames) node =
      ⟨.object ((key, node) :: entries) :: frames, .after, none⟩ := rfl

section

variable {bound : Nat} (value : ∀ {v : Value} {frames : List Frame} {more : List Token},
  v.Within bound → frames.length + bound ≤ depthLimit →
    Reader.run ⟨frames, .value, none⟩ (valueTokens v ++ more) =
      (Reader.complete frames (.ofValue v)).run more)

include value

/-- Items of a list, the last of which ends it. -/
theorem run_items {frames : List Frame} {more : List Token}
    (room : frames.length + 1 + bound ≤ depthLimit) {items : List Value} :
    ∀ {item : Value} {done : List Node} {expect : Expect},
      expect = .value ∨ expect = .itemOrEnd → (∀ v ∈ item :: items, v.Within bound) →
      Reader.run ⟨.list done :: frames, expect, none⟩
          ([.comma].intercalate (itemTokens (item :: items)) ++ .closeList :: more) =
        (Reader.complete frames
          (.list (done.reverse ++ Node.ofItems (item :: items)))).run more := by
  induction items with
  | nil =>
    intro item done expect h within
    simp only [itemTokens, List.intercalate_singleton]
    rw [run_item h, value (within item List.mem_cons_self) (by simpa using room), complete_list,
      run_cons rfl]
    simp [Node.ofItems]
  | cons next items ih =>
    intro item done expect h within
    have later := @ih next (.ofValue item :: done) .value (.inl rfl) fun v member =>
      within v (List.mem_cons_of_mem _ member)
    simp only [itemTokens, List.intercalate_cons_cons, List.append_assoc, List.cons_append,
      List.nil_append] at later ⊢
    rw [run_item h, value (within item List.mem_cons_self) (by simpa using room), complete_list,
      run_cons rfl, later]
    simp [Node.ofItems]

/-- Entries of an object, the last of which ends it. -/
theorem run_entries {frames : List Frame} {more : List Token}
    (room : frames.length + 1 + bound ≤ depthLimit) {entries : List (String × Value)} :
    ∀ {entry : String × Value} {done : List (Node × Node)} {expect : Expect},
      expect = .key ∨ expect = .keyOrEnd → (∀ e ∈ entry :: entries, e.2.Within bound) →
      Reader.run ⟨.object done :: frames, expect, none⟩
          ([.comma].intercalate (entryTokens (entry :: entries)) ++ .closeObject :: more) =
        (Reader.complete frames
          (.mapping (done.reverse ++ Node.ofEntries (entry :: entries)))).run more := by
  induction entries with
  | nil =>
    rintro ⟨key, v⟩ done expect keyed within
    simp only [entryTokens, List.intercalate_singleton, List.cons_append]
    rw [run_cons (step_key keyed done key frames), run_cons rfl,
      value (within _ List.mem_cons_self) (by simpa using room),
      complete_entry, run_cons rfl]
    simp [Node.ofEntries]
  | cons next entries ih =>
    rintro ⟨key, v⟩ done expect keyed within
    have later := @ih next ((.string key, .ofValue v) :: done) .key (.inl rfl) fun e member =>
      within e (List.mem_cons_of_mem _ member)
    simp only [entryTokens, List.intercalate_cons_cons, List.append_assoc, List.cons_append,
      List.nil_append] at later ⊢
    rw [run_cons (step_key keyed done key frames), run_cons rfl,
      value (within _ List.mem_cons_self) (by simpa using room),
      complete_entry, run_cons rfl, later]
    simp [Node.ofEntries]

end

/-- The tokens of a value are read as its tree. -/
theorem run_value {bound : Nat} : ∀ {v : Value} {frames : List Frame} {more : List Token},
    v.Within bound → frames.length + bound ≤ depthLimit →
      Reader.run ⟨frames, .value, none⟩ (valueTokens v ++ more) =
        (Reader.complete frames (.ofValue v)).run more := by
  induction bound with
  | zero =>
    intro v frames more within room
    cases v with
    | null | bool | number | string => rfl
    | list | object => exact absurd within id
  | succ bound ih =>
    intro v frames more within room
    have opens : frames.length < depthLimit := by omega
    have inside : frames.length + 1 + bound ≤ depthLimit := by omega
    cases v with
    | null | bool | number | string => rfl
    | list items =>
      have opening : Reader.step ⟨frames, .value, none⟩ .openList =
          .ok ⟨.list [] :: frames, .itemOrEnd, none⟩ := by
        simp [Reader.step, Reader.value, Reader.push, opens]
      simp only [valueTokens, List.cons_append, List.append_assoc, List.nil_append]
      rw [run_cons opening]
      cases items with
      | nil => rfl
      | cons item items => exact run_items ih inside (.inr rfl) within
    | object entries =>
      have opening : Reader.step ⟨frames, .value, none⟩ .openObject =
          .ok ⟨.object [] :: frames, .keyOrEnd, none⟩ := by
        simp [Reader.step, Reader.value, Reader.push, opens]
      simp only [valueTokens, List.cons_append, List.append_assoc, List.nil_append]
      rw [run_cons opening]
      cases entries with
      | nil => rfl
      | cons entry entries => exact run_entries ih inside (.inr rfl) within

/-- **A value is read back as it is written**, if it is not nested too deep and the reader reads
back its numbers. -/
theorem read_compact {v : Value} (within : v.Within depthLimit)
    (back : ∀ n ∈ numbers v, ReadsBack n) : read (compact v) = .ok (.ofValue v) := by
  have spelt := (spell_compact v back).tokens [] (by simp [Delimits])
  have tree := @run_value _ v [] [] within (by simp)
  simp only [List.append_nil, tokens, finish] at spelt tree
  rw [read, spelt]
  exact tree

/-! ## Depth of what is read -/

/-- The trees that a frame holds are nested at most so deep. -/
def Frame.Within (bound : Nat) : Frame → Prop
  | .list items => ∀ item ∈ items, item.Within bound
  | .object entries | .entry entries _ => ∀ entry ∈ entries, entry.2.Within bound

/-- Each open frame has room for the trees that it holds. -/
def FramesWithin : List Frame → Prop
  | [] => True
  | frame :: rest => (∃ bound, bound + 1 + rest.length = depthLimit ∧ frame.Within bound) ∧
    FramesWithin rest

/-- What the reader holds is nested no deeper than it allows. -/
structure Reader.Bounded (r : Reader) : Prop where
  frames : FramesWithin r.frames
  done : ∀ node ∈ r.done, node.Within depthLimit

theorem bounded_complete {frames : List Frame} {node : Node} {bound : Nat}
    (held : FramesWithin frames) (room : bound + frames.length = depthLimit)
    (within : node.Within bound) : (Reader.complete frames node).Bounded := by
  cases frames with
  | nil =>
    obtain rfl : bound = depthLimit := by simpa using room
    exact ⟨trivial, fun node member => by cases member; exact within⟩
  | cons frame rest =>
    obtain ⟨⟨bound', room', inside⟩, others⟩ := held
    obtain rfl : bound = bound' := by simp at room; omega
    cases frame with
    | list items =>
      refine ⟨⟨⟨bound, room', ?_⟩, others⟩, nofun⟩
      intro item member
      rcases List.mem_cons.1 member with rfl | member
      · exact within
      · exact inside item member
    | object entries => exact ⟨⟨⟨bound, room', inside⟩, others⟩, nofun⟩
    | entry entries key =>
      refine ⟨⟨⟨bound, room', ?_⟩, others⟩, nofun⟩
      intro entry member
      rcases List.mem_cons.1 member with rfl | member
      · exact within
      · exact inside entry member

theorem FramesWithin.length_le {frames : List Frame} (held : FramesWithin frames) :
    frames.length ≤ depthLimit := by
  cases frames with
  | nil => exact Nat.zero_le _
  | cons frame rest =>
    obtain ⟨⟨bound, room, -⟩, -⟩ := held
    simp only [List.length_cons]
    omega

/-- A scalar is as deep as any tree may be. -/
theorem within_literal (value : Literal) (bound : Nat) : value.node.Within bound := by
  cases value <;> cases bound <;> trivial

theorem bounded_scalar {frames : List Frame} {node : Node} (held : FramesWithin frames)
    (scalar : ∀ bound, node.Within bound) : (Reader.complete frames node).Bounded :=
  bounded_complete held (Nat.sub_add_cancel held.length_le) (scalar _)

theorem bounded_push {frames : List Frame} {frame : Frame} {expect : Expect} {r : Reader}
    (held : FramesWithin frames) (empty : ∀ bound, frame.Within bound)
    (h : Reader.push frames frame expect = .ok r) : r.Bounded := by
  unfold Reader.push at h
  split at h
  · rename_i room
    cases h
    exact ⟨⟨⟨depthLimit - 1 - frames.length, by omega, empty _⟩, held⟩, nofun⟩
  · cases h

theorem bounded_value {frames : List Frame} {token : Token} {r : Reader}
    (held : FramesWithin frames) (h : Reader.value frames token = .ok r) : r.Bounded := by
  cases token with
  | openList => exact bounded_push held (fun _ => by simp [Frame.Within]) h
  | openObject => exact bounded_push held (fun _ => by simp [Frame.Within]) h
  | literal value =>
    cases h
    exact bounded_scalar held (within_literal value)
  | string s =>
    cases h
    exact bounded_scalar held fun bound => by cases bound <;> trivial
  | closeList | closeObject | colon | comma | broken => cases h

theorem bounded_key {frames : List Frame} {token : Token} {r : Reader}
    (held : FramesWithin frames) (h : Reader.key frames token = .ok r) : r.Bounded := by
  unfold Reader.key at h
  split at h
  · split at h
    · cases h
      exact ⟨held, nofun⟩
    · cases h
  · cases h
  · cases h

/-- Every step stays within the depth limit. -/
theorem bounded_step {r r' : Reader} {token : Token} (held : r.Bounded)
    (h : r.step token = .ok r') : r'.Bounded := by
  obtain ⟨frames, expect, done⟩ := r
  have inside : FramesWithin frames := held.frames
  simp only [Reader.step] at h
  split at h
  · exact bounded_value inside h
  · cases h
    obtain ⟨⟨bound, room, -⟩, others⟩ := inside
    exact bounded_complete others room (by simp [Node.Within])
  · exact bounded_value inside h
  · cases h
    obtain ⟨⟨bound, room, -⟩, others⟩ := inside
    exact bounded_complete others room (by simp [Node.Within])
  · exact bounded_key inside h
  · exact bounded_key inside h
  · cases h
    exact ⟨inside, nofun⟩
  · cases h
    exact ⟨inside, nofun⟩
  · cases h
    obtain ⟨⟨bound, room, items⟩, others⟩ := inside
    exact bounded_complete others room fun item member => items item (List.mem_reverse.1 member)
  · cases h
    exact ⟨inside, nofun⟩
  · cases h
    obtain ⟨⟨bound, room, entries⟩, others⟩ := inside
    exact bounded_complete others room fun entry member => entries entry (List.mem_reverse.1 member)
  · cases h

/-- What the tokens of a text spell is nested no deeper than the limit. -/
theorem bounded_run {r : Reader} {tokens : List Token} {node : Node} (held : r.Bounded)
    (h : r.run tokens = .ok node) : node.Within depthLimit := by
  induction tokens generalizing r with
  | nil =>
    unfold Reader.run at h
    split at h
    · rename_i found
      cases h
      exact held.done _ found
    · cases h
  | cons token rest ih =>
    cases next : r.step token with
    | error cause => simp [Reader.run, next, bind, Except.bind] at h
    | ok r' =>
      rw [run_cons next] at h
      exact ih (bounded_step held next) h

/-- A tree that is read is nested no deeper than the limit. -/
theorem within_of_read {text : String} {node : Node} (h : read text = .ok node) :
    node.Within depthLimit :=
  bounded_run (r := .initial) ⟨trivial, nofun⟩ h

end Json

end ResourceInference
