import ResourceInference.Inference.Journal

/-!
# What a journal tells

A journal lists events, the latest first. It tells which components are under construction, whether
one was entered again while it was, whether the type or the mark of a token was taken away, and
whether the type that was registered for a component is still the one under its token.
-/

set_option autoImplicit false

namespace ResourceInference.Journal

/-! ## Construction -/

/-- The tokens under construction, the one entered last first. -/
def underConstruction : List Event → List String
  | [] => []
  | .entered token :: earlier => token :: underConstruction earlier
  | .left token :: earlier => (underConstruction earlier).erase token
  | _ :: earlier => underConstruction earlier

/-- Whether a component was entered while it was under construction. -/
def reenters : List Event → Bool
  | [] => false
  | .entered token :: earlier => (underConstruction earlier).contains token || reenters earlier
  | _ :: earlier => reenters earlier

/-! ## Registered types -/

/-- Whether an event takes the type of a token away: it is dropped, or moved to another token. -/
def takesAway (token : String) : Event → Bool
  | .dropped dropped => dropped = token
  | .moved source _ => source = token
  | _ => false

/-- Whether the type of a token was ever taken away. -/
def takenAway (journal : List Event) (token : String) : Bool := journal.any (takesAway token)

/-- Whether the mark of a token is lost: its type was taken away, and its component was not entered
since. -/
def unmarked (token : String) : List Event → Bool
  | [] => false
  | .entered entered :: earlier => entered ≠ token && unmarked token earlier
  | event :: earlier => takesAway token event || unmarked token earlier

/-- Whether a reference to a component was met while the component was under construction and its
mark was lost. -/
def meetsUnmarked : List Event → Bool
  | [] => false
  | .referred _ token :: earlier =>
    (underConstruction earlier).contains token && unmarked token earlier || meetsUnmarked earlier
  | _ :: earlier => meetsUnmarked earlier

/-- Whether another type may be under a token after an event: the type of the token was taken away,
or another one was moved there. -/
def replaces (token : String) : Event → Bool
  | .moved source target => source = token || target = token
  | event => takesAway token event

/-- Whether the type that was registered for the component of a token stands: since the component
was left, the type was not replaced. -/
def stands (token : String) : List Event → Bool
  | [] => false
  | .left left :: earlier => left = token || stands token earlier
  | event :: earlier => !replaces token event && stands token earlier

/-! ## Merged components -/

/-- The token under construction that was entered last. -/
def builder (journal : List Event) : Option String := (underConstruction journal).head?

/-- Whether a component was merged into what is built under a token when its type did not stand:
right after a reference to it that was answered at once. -/
def mergesUnfinished (into : Option String) (token : String) : List Event → Bool
  | [] => false
  | .merged merged :: .referred component answer :: earlier =>
    (merged = token && answer = token && builder earlier = into && !stands token earlier) ||
      mergesUnfinished into token (.referred component answer :: earlier)
  | _ :: earlier => mergesUnfinished into token earlier

/-- Whether a token was the answer to references to two components. -/
def isShared (token : String) (journal : List Event) : Bool :=
  journal.any fun
    | .referred first answer => answer = token && journal.any fun
      | .referred second other => other = token && second ≠ first
      | _ => false
    | _ => false

theorem takenAway_cons (event : Event) (journal : List Event) (token : String) :
    takenAway (event :: journal) token = true ↔
      takesAway token event = true ∨ takenAway journal token = true := by
  simp [takenAway]

theorem unmarked_dropped (token dropped : String) (journal : List Event) :
    unmarked token (.dropped dropped :: journal) = false ↔
      token ≠ dropped ∧ unmarked token journal = false := by
  by_cases same : token = dropped
  · simp [unmarked, takesAway, same]
  · simp [unmarked, takesAway, same, Ne.symm same]

theorem unmarked_entered (token entered : String) (journal : List Event) :
    unmarked token (.entered entered :: journal) = false ↔
      token = entered ∨ unmarked token journal = false := by
  by_cases same : token = entered
  · simp [unmarked, same]
  · simp [unmarked, same, Ne.symm same]

theorem mergesUnfinished_of_cons {into : Option String} {token : String} {event : Event}
    {journal : List Event} (h : mergesUnfinished into token (event :: journal) = false) :
    mergesUnfinished into token journal = false := by
  unfold mergesUnfinished at h
  split at h
  · contradiction
  · simp_all
  · simp_all

theorem isShared_iff (token : String) (journal : List Event) :
    isShared token journal = true ↔ ∃ first second, .referred first token ∈ journal ∧
      .referred second token ∈ journal ∧ second ≠ first := by
  unfold isShared
  constructor
  · intro h
    obtain ⟨event, referred, h⟩ := List.any_eq_true.1 h
    split at h
    · obtain ⟨same, h⟩ := Bool.and_eq_true_iff.1 h
      obtain rfl := of_decide_eq_true same
      obtain ⟨event, shared, h⟩ := List.any_eq_true.1 h
      split at h
      · simp only [Bool.and_eq_true, decide_eq_true_eq] at h
        obtain ⟨rfl, ne⟩ := h
        exact ⟨_, _, referred, shared, ne⟩
      · cases h
    · cases h
  · rintro ⟨first, second, referred, shared, ne⟩
    refine List.any_eq_true.2 ⟨_, referred, ?_⟩
    simp only [decide_true, Bool.true_and]
    exact List.any_eq_true.2 ⟨_, shared, by simp [ne]⟩

theorem eq_of_referred {first second token : String} {journal : List Event}
    (apart : isShared token journal = false) (referred : .referred first token ∈ journal)
    (same : .referred second token ∈ journal) : second = first := by
  refine Decidable.byContradiction fun ne => Bool.eq_false_iff.1 apart ?_
  exact (isShared_iff ..).2 ⟨first, second, referred, same, ne⟩

theorem isShared_of_cons {token : String} {event : Event} {journal : List Event}
    (h : isShared token (event :: journal) = false) : isShared token journal = false := by
  refine Bool.eq_false_iff.2 fun shared => Bool.eq_false_iff.1 h ?_
  obtain ⟨first, second, referred, other, ne⟩ := (isShared_iff ..).1 shared
  exact (isShared_iff ..).2
    ⟨first, second, List.mem_cons_of_mem _ referred, List.mem_cons_of_mem _ other, ne⟩

end ResourceInference.Journal
