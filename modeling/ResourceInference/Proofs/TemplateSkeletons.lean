import ResourceInference.Proofs.Runs
import ResourceInference.Proofs.TemplateVariables

/-!
# Templates without names

A path template is made of text and of names in braces, any number of them between two separators.
Without the names, it is a skeleton (`PathTemplate.Emptied`). Normalising is meant to change names
only, so it should leave the skeleton. It does so exactly if what it takes for one variable is one
(`PathTemplate.normalize_emptied_iff`): a segment counts as a variable by its first and its last
character, so that a last segment of two names and a dot between them may become one `id`, and an
`id` behind such a segment takes over all of it for its own name.
-/

set_option autoImplicit false

namespace ResourceInference.PathTemplate

/-! ## Skeletons -/

/-- A text without braces. -/
def BraceFree (cs : List Char) : Prop := ∀ c ∈ cs, isBrace c = false

instance (cs : List Char) : Decidable (BraceFree cs) :=
  List.decidableBAll (fun c => isBrace c = false) cs

/-- Braces stand in a template around names only, and `emptied` is the template with all names taken
out of their braces. -/
inductive Emptied : List Char → List Char → Prop where
  | nil : Emptied [] []
  | text {c : Char} {cs emptied : List Char} (plain : isBrace c = false)
      (rest : Emptied cs emptied) : Emptied (c :: cs) (c :: emptied)
  | expression {name cs emptied : List Char} (plain : BraceFree name) (rest : Emptied cs emptied) :
      Emptied ('\x7b' :: name ++ '\x7d' :: cs) ('\x7b' :: '\x7d' :: emptied)

/-- A text without what stands between braces. `inside` says whether the last brace in front of it
opens. -/
def skeleton (inside : Bool) : List Char → List Char
  | [] => []
  | c :: cs =>
    if isBrace c then c :: skeleton (c == '\x7b') cs
    else if inside then skeleton inside cs
    else c :: skeleton inside cs

/-- Whether the last brace in a text opens, or in front of it, if it has none. -/
def endsInside (inside : Bool) : List Char → Bool
  | [] => inside
  | c :: cs => endsInside (if isBrace c then c == '\x7b' else inside) cs

variable {inside : Bool} {c : Char} {name cs ds : List Char}

theorem skeleton_open : skeleton inside ('\x7b' :: cs) = '\x7b' :: skeleton true cs := rfl

theorem skeleton_close : skeleton inside ('\x7d' :: cs) = '\x7d' :: skeleton false cs := rfl

theorem skeleton_brace (brace : isBrace c = true) :
    skeleton inside (c :: cs) = c :: skeleton (c == '\x7b') cs := if_pos brace

theorem not_opens (plain : isBrace c = false) : (c == '\x7b') = false :=
  (Bool.or_eq_false_iff.1 plain).1

theorem skeleton_outside : skeleton false (c :: cs) = c :: skeleton (c == '\x7b') cs := by
  cases brace : isBrace c with
  | true => exact skeleton_brace brace
  | false => simp [skeleton, brace, not_opens brace]

theorem skeleton_inside (plain : isBrace c = false) :
    skeleton true (c :: cs) = skeleton true cs := by
  simp [skeleton, plain]

theorem skeleton_append :
    skeleton inside (cs ++ ds) = skeleton inside cs ++ skeleton (endsInside inside cs) ds := by
  induction cs generalizing inside with
  | nil => rfl
  | cons c rest ih =>
      simp only [List.cons_append, skeleton, endsInside]
      split
      · rw [ih, List.cons_append]
      · split
        · rename_i isInside
          rw [isInside, ih]
        · rw [ih, List.cons_append]

/-- Inside braces, nothing is left of a name. -/
theorem skeleton_eq_nil_iff : skeleton true cs = [] ↔ BraceFree cs := by
  induction cs with
  | nil => simp [skeleton, BraceFree]
  | cons c rest ih =>
      cases brace : isBrace c with
      | true => simp [skeleton, BraceFree, brace]
      | false => simpa [skeleton_inside brace, BraceFree, brace] using ih

theorem skeleton_name (plain : BraceFree name) :
    skeleton true (name ++ '\x7d' :: cs) = '\x7d' :: skeleton false cs := by
  rw [skeleton_append, skeleton_eq_nil_iff.2 plain, skeleton_close, List.nil_append]

theorem Emptied.skeleton_eq (template : Emptied cs ds) : skeleton false cs = ds := by
  induction template with
  | nil => rfl
  | text plain rest ih => rw [skeleton_outside, not_opens plain, ih]
  | expression plain rest ih => rw [List.cons_append, skeleton_open, skeleton_name plain, ih]

theorem Emptied.texts (plain : BraceFree cs) {rest emptied : List Char} (h : Emptied rest emptied) :
    Emptied (cs ++ rest) (cs ++ emptied) := by
  induction cs with
  | nil => exact h
  | cons c cs ih =>
      obtain ⟨first, later⟩ := List.forall_mem_cons.1 plain
      exact .text first (ih later)

/-- A text whose skeleton begins with a closing brace begins with a name. -/
theorem exists_name (closes : skeleton true cs = '\x7d' :: ds) :
    ∃ name rest, cs = name ++ '\x7d' :: rest ∧ BraceFree name ∧ skeleton false rest = ds := by
  induction cs with
  | nil => cases closes
  | cons c rest ih =>
      cases brace : isBrace c with
      | true =>
          rw [skeleton_brace brace] at closes
          obtain ⟨rfl, later⟩ := List.cons.inj closes
          exact ⟨[], rest, rfl, by simp [BraceFree], later⟩
      | false =>
          rw [skeleton_inside brace] at closes
          obtain ⟨name, rest, rfl, plain, same⟩ := ih closes
          exact ⟨c :: name, rest, rfl, List.forall_mem_cons.2 ⟨brace, plain⟩, same⟩

/-- A text is emptied to what a template is emptied to, exactly if it has the same skeleton. -/
theorem Emptied.iff_skeleton {other : List Char} (template : Emptied cs ds) :
    Emptied other ds ↔ skeleton false other = ds := by
  refine ⟨Emptied.skeleton_eq, fun same => ?_⟩
  induction template generalizing other with
  | nil =>
      cases other with
      | nil => exact .nil
      | cons c rest => simp [skeleton_outside] at same
  | text plain template ih =>
      cases other with
      | nil => cases same
      | cons c rest =>
          rw [skeleton_outside] at same
          obtain ⟨rfl, later⟩ := List.cons.inj same
          rw [not_opens plain] at later
          exact .text plain (ih later)
  | expression plain template ih =>
      cases other with
      | nil => cases same
      | cons c rest =>
          rw [skeleton_outside] at same
          obtain ⟨rfl, closes⟩ := List.cons.inj same
          obtain ⟨name, rest, rfl, plain', later⟩ := exists_name closes
          exact .expression plain' (ih later)

/-! ## Skeletons of segments -/

/-- Segments with a separator in front of each. -/
def spelled (segments : List String) : List Char :=
  segments.flatMap fun segment => '/' :: segment.toList

theorem spelled_cons (segment : String) (rest : List String) :
    spelled (segment :: rest) = '/' :: segment.toList ++ spelled rest := rfl

theorem toList_join {segments : List String} (nonempty : segments ≠ []) :
    '/' :: (Text.join '/' segments).toList = spelled segments := by
  rw [Text.join, String.toList_ofList]
  induction segments with
  | nil => exact absurd rfl nonempty
  | cons segment rest ih =>
      rw [spelled_cons]
      cases rest with
      | nil => simp [Text.joinPieces, spelled]
      | cons next rest =>
          rw [← ih (by simp)]
          simp [Text.joinPieces]

/-- What stands behind a segment begins with a separator, if it is not empty. -/
def StartsSegment (cs : List Char) : Prop := ∀ c ∈ cs.head?, c = '/'

theorem startsSegment_skeleton (segments : List String) :
    StartsSegment (skeleton false (spelled segments)) := by
  cases segments with
  | nil => simp [StartsSegment, spelled, skeleton]
  | cons segment rest => simp [StartsSegment, spelled_cons, skeleton_outside]

/-- Behind an opening brace, the closing one and the end of the segment follow exactly if a name
stands there, and nothing else does. -/
theorem closes_iff {tail tail' : List Char} (free : '/' ∉ cs) (starts : StartsSegment tail) :
    skeleton true cs ++ '\x7d' :: tail' = '\x7d' :: tail ↔ BraceFree cs ∧ tail' = tail := by
  constructor
  · intro same
    cases left : skeleton true cs with
    | nil =>
        rw [left] at same
        exact ⟨skeleton_eq_nil_iff.1 left, (List.cons.inj same).2⟩
    | cons brace more =>
        exfalso
        rw [left] at same
        obtain ⟨rfl, later⟩ := List.cons.inj same
        obtain ⟨name, rest, rfl, -, rfl⟩ := exists_name left
        subst later
        cases rest with
        | nil => exact absurd (starts '\x7d' rfl) (by decide)
        | cons c rest =>
            rw [skeleton_outside] at starts
            exact free (starts c rfl ▸ by simp)
  · rintro ⟨plain, rfl⟩
    rw [skeleton_eq_nil_iff.2 plain, List.nil_append]

theorem skeleton_variableSegment (name : String) (rest : List String) :
    skeleton inside (spelled (variableSegment name :: rest)) =
      skeleton inside ['/', '\x7b'] ++
        (skeleton true name.toList ++ '\x7d' :: skeleton false (spelled rest)) := by
  have chars : spelled (variableSegment name :: rest) =
      ['/', '\x7b'] ++ (name.toList ++ '\x7d' :: spelled rest) := by
    simp [spelled_cons, variableSegment]
  have opens : endsInside inside ['/', '\x7b'] = true := rfl
  rw [chars, skeleton_append, opens, skeleton_append, skeleton_close]

/-! ## Skeletons of renamed segments -/

variable {segments : List String}

/-- The old name or the new one is `id`. -/
theorem newName?_id {parent : Option String} {isLast : Bool} {name new : String}
    (renames : newName? parent isLast name = some new) : name = "id" ∨ new = "id" := by
  cases isLast with
  | true => exact .inr (newName?_last.1 renames).2
  | false => exact .inl (newName?_front.1 renames).1

theorem braceFree_id : BraceFree "id".toList := by decide

/-- Renamed segments have the same skeleton exactly if no old name and no new one has a brace: by
induction on the segments, whatever stands in front of them. -/
theorem skeleton_renameSegments_iff : ∀ (parent : Option String) (inside : Bool),
    (∀ segment, parent = some segment → '/' ∉ segment.toList) →
      (∀ segment ∈ segments, '/' ∉ segment.toList) →
        (skeleton inside (spelled (renameSegments parent segments).1) =
            skeleton inside (spelled segments) ↔
          ∀ entry ∈ (renameSegments parent segments).2,
            BraceFree entry.1.toList ∧ BraceFree entry.2.toList) := by
  induction segments with
  | nil => simp [renameSegments]
  | cons segment rest ih =>
      intro parent inside freeParent free
      obtain ⟨freeSegment, freeRest⟩ := List.forall_mem_cons.1 free
      rcases renameSegments_cons parent segment rest with
        ⟨name, new, isVariable, renames, same⟩ | ⟨-, same⟩
      · obtain rfl := variableName?_eq_some.1 isVariable
        have freeName : '/' ∉ name.toList := by simpa [variableSegment] using freeSegment
        have freeNew : '/' ∉ new.toList := newName?_free freeParent renames
        have later := ih (some (variableSegment new)) false
          (by simpa [variableSegment] using freeNew) freeRest
        rw [same, skeleton_variableSegment, skeleton_variableSegment, List.append_right_inj,
          List.forall_mem_cons, ← later]
        rcases newName?_id renames with rfl | rfl
        · rw [skeleton_eq_nil_iff.2 braceFree_id, List.nil_append,
            closes_iff freeNew (startsSegment_skeleton rest), and_iff_right braceFree_id]
        · rw [skeleton_eq_nil_iff.2 braceFree_id, List.nil_append, eq_comm,
            closes_iff freeName (startsSegment_skeleton _), and_iff_left braceFree_id, eq_comm]
      · rw [same, spelled_cons, spelled_cons, skeleton_append, skeleton_append,
          List.append_right_inj]
        refine ih _ _ ?_ freeRest
        rintro _ ⟨⟩
        exact freeSegment

/-! ## Which names have braces -/

/-- What is taken for the name of a variable has no brace where names change: not in the last
segment, if it is a variable that speaks of an id, and not in what an `id` is named after its
parent. `start` stands in front of the segments. -/
structure NamesOnly (start : String) (segments : List String) : Prop where
  last : ∀ name, segments.getLast? = some (variableSegment name) → mentionsId name = true →
    BraceFree name.toList
  front : ∀ parent, IsIdParent start segments parent → BraceFree (parentIdName parent).toList

namespace NamesOnly

variable {start segment next : String} {rest : List String}

theorem nil : NamesOnly start [] := by
  refine ⟨by simp, fun parent isParent => ?_⟩
  simpa using isParent.mem

theorem singleton : NamesOnly start [segment] ↔
    ∀ name, segment = variableSegment name → mentionsId name = true → BraceFree name.toList := by
  refine ⟨fun h name same => h.last name (by rw [same]; rfl), fun h => ⟨fun name isLast => ?_, ?_⟩⟩
  · exact h name (Option.some.inj isLast)
  · exact fun parent isParent => absurd isParent not_isIdParent_singleton

theorem cons : NamesOnly start (segment :: next :: rest) ↔
    (segment = variableSegment "id" → BraceFree (parentIdName start).toList) ∧
      NamesOnly segment (next :: rest) := by
  constructor
  · rintro ⟨last, front⟩
    refine ⟨fun isId => front start (isIdParent_cons.2 (.inl ⟨rfl, isId⟩)), last, ?_⟩
    exact fun parent isParent => front parent (isIdParent_cons.2 (.inr isParent))
  · rintro ⟨first, last, front⟩
    refine ⟨last, fun parent isParent => ?_⟩
    rcases isIdParent_cons.1 isParent with ⟨rfl, isId⟩ | later
    · exact first isId
    · exact front parent later

end NamesOnly

/-- As a parent, a variable gives its name without the braces. -/
theorem trimBoth_variableSegment {name : String} (plain : BraceFree name.toList) :
    Text.trimBoth isBrace (variableSegment name).toList = name.toList := by
  have chars : (variableSegment name).toList = '\x7b' :: (name.toList ++ ['\x7d']) := by
    simp [variableSegment]
  have plain' : BraceFree name.toList.reverse := fun c member => plain c (List.mem_reverse.1 member)
  rw [Text.trimBoth, chars, List.dropWhile_cons_of_pos (by decide), List.dropWhile_append,
    Text.dropWhile_eq_self plain]
  cases empty : name.toList.isEmpty with
  | true =>
      rw [List.isEmpty_iff.1 empty]
      decide
  | false =>
      rw [if_neg (by simp), List.reverse_append, List.reverse_singleton, List.singleton_append,
        List.dropWhile_cons_of_pos (by decide), Text.dropWhile_eq_self plain', List.reverse_reverse]

theorem braceFree_parentIdName {name : String} (plain : BraceFree name.toList) :
    BraceFree (parentIdName (variableSegment name)).toList := by
  rw [parentIdName, String.toList_append, String.toList_ofList, trimBoth_variableSegment plain]
  have idEnd : ∀ underscored : Bool,
      BraceFree (if underscored then "_id" else "Id").toList := by decide
  exact List.forall_mem_append.2 ⟨plain, idEnd _⟩

/-- The renamings are of names without braces exactly if this can be told from the segments as they
were: where a segment was renamed itself, it gives its new name. -/
theorem renamings_braceFree_iff : ∀ (parent : Option String) (start : String),
    (BraceFree (parentIdName (parent.getD "")).toList ↔ BraceFree (parentIdName start).toList) →
      ((∀ entry ∈ (renameSegments parent segments).2,
          BraceFree entry.1.toList ∧ BraceFree entry.2.toList) ↔ NamesOnly start segments) := by
  induction segments with
  | nil => simp [renameSegments, NamesOnly.nil]
  | cons segment rest ih =>
      intro parent start alike
      cases rest with
      | nil =>
          rw [NamesOnly.singleton]
          rcases renameSegments_singleton parent segment with
            ⟨name, rfl, outOfPlace, same⟩ | ⟨inPlace, same⟩
          · have mentions : mentionsId name = true := by
              simp only [InPlace, if_true, Classical.not_imp] at outOfPlace
              exact outOfPlace.1
            rw [same, List.forall_mem_singleton, and_iff_left braceFree_id]
            simp [variableSegment_injective.eq_iff, mentions]
          · refine iff_of_true (by simp [same]) ?_
            rintro name rfl mentions
            obtain rfl := inPlace name rfl mentions
            exact braceFree_id
      | cons next rest =>
          rw [NamesOnly.cons]
          rcases renameSegments_front parent segment next rest with ⟨rfl, same⟩ | ⟨notId, same⟩
          · rw [same, List.forall_mem_cons, and_iff_right braceFree_id, ← alike, imp_iff_right rfl]
            refine and_congr_right fun plain => ih _ _ ?_
            exact iff_of_true (braceFree_parentIdName plain) (braceFree_parentIdName braceFree_id)
          · rw [same, ih (some segment) segment Iff.rfl, and_iff_right]
            exact fun isId => absurd isId notId

/-! ## Skeletons of normal forms -/

section

variable {d : Document} {path normalized : String} {item changed : PathItem}

theorem skeleton_normalForm_iff (path : String) :
    skeleton false (normalForm path).toList = skeleton false path.toList ↔
      NamesOnly "" (Text.split '/' path) := by
  -- With a separator in front of it, a path is its segments, spelled.
  have path_eq : '/' :: path.toList = spelled (Text.split '/' path) := by
    rw [← toList_join (Text.split_ne_nil '/' path), Text.join_split]
  have normalForm_eq : '/' :: (normalForm path).toList =
      spelled (renameSegments none (Text.split '/' path)).1 :=
    toList_join (renameSegments_ne_nil (Text.split_ne_nil '/' path))
  have separated : ∀ cs, skeleton false ('/' :: cs) = '/' :: skeleton false cs := fun _ => rfl
  rw [← List.cons_inj_right '/', ← separated, ← separated, path_eq, normalForm_eq,
    skeleton_renameSegments_iff none false (by simp) fun segment => Text.not_mem_of_mem_split]
  exact renamings_braceFree_iff none "" Iff.rfl

/-- A template is left as it is but for the names in its braces, exactly if what is renamed is one
name, and what it is named after has no braces inside. -/
theorem normalize_emptied_iff {emptied : List Char}
    (h : normalize d path item = (.ok normalized, changed))
    (template : Emptied path.toList emptied) :
    Emptied normalized.toList emptied ↔ NamesOnly "" (Text.split '/' path) := by
  rw [template.iff_skeleton, ← template.skeleton_eq, normalize_path h]
  exact skeleton_normalForm_iff path

/-- The name and the ending of a file are taken for one variable: it speaks of an id, and so both
become `id`, and the ending is gone. -/
theorem fileEnding_dropped :
    let path := "/files/\x7bfile_id\x7d.\x7bext\x7d"
    let normalized := "/files/\x7bid\x7d"
    let item : PathItem := { parameters := [.inPath "file_id", .inPath "ext"] }
    let emptied := "/files/\x7b\x7d.\x7b\x7d".toList
    Emptied path.toList emptied ∧
      normalize (.having [] []) path item = (.ok normalized, item) ∧
      ¬ Emptied normalized.toList emptied := by
  intro path normalized item emptied
  have renamed : renameSegments none (Text.split '/' path) =
      (["", "files", "\x7bid\x7d"], [("file_id\x7d.\x7bext", "id")]) := by decide +kernel
  have files : BraceFree "/files/".toList := by decide
  have fileId : BraceFree "file_id".toList := by decide
  have ext : BraceFree "ext".toList := by decide
  refine ⟨?_, ?_, ?_⟩
  · have ending : Emptied ".\x7bext\x7d".toList ".\x7b\x7d".toList := by
      simpa using Emptied.text rfl (.expression ext .nil)
    simpa [path, emptied] using Emptied.texts files (.expression fileId ending)
  · simp only [normalize, renamed]
    rfl
  · intro same
    have := same.skeleton_eq
    revert this
    decide +kernel

/-- With a last segment that does not speak of an id, the ending stays. -/
theorem pageEnding_kept :
    let path := "/files/\x7bid\x7d/pages/\x7bpage\x7d.\x7bext\x7d"
    let normalized := "/files/\x7bfilesId\x7d/pages/\x7bpage\x7d.\x7bext\x7d"
    let emptied := "/files/\x7b\x7d/pages/\x7b\x7d.\x7b\x7d".toList
    normalize (.having [] []) path {} = (.ok normalized, {}) ∧ Emptied path.toList emptied ∧
      NamesOnly "" (Text.split '/' path) ∧ Emptied normalized.toList emptied := by
  intro path normalized emptied
  have segments : Text.split '/' path =
      ["", "files", "\x7bid\x7d", "pages", "\x7bpage\x7d.\x7bext\x7d"] := by decide +kernel
  have h : normalize (.having [] []) path {} = (.ok normalized, {}) := by
    have renamed : renameSegments none (Text.split '/' path) =
        (["", "files", "\x7bfilesId\x7d", "pages", "\x7bpage\x7d.\x7bext\x7d"],
          [("id", "filesId")]) := by decide +kernel
    simp only [normalize, renamed]
    rfl
  have template : Emptied path.toList emptied := by
    have files : BraceFree "/files/".toList := by decide
    have pages : BraceFree "/pages/".toList := by decide
    have page : BraceFree "page".toList := by decide
    have ext : BraceFree "ext".toList := by decide
    have name : Emptied "\x7bpage\x7d.\x7bext\x7d".toList "\x7b\x7d.\x7b\x7d".toList := by
      simpa using Emptied.expression page (.text rfl (.expression ext .nil))
    simpa [path, emptied] using
      Emptied.texts files (.expression braceFree_id (.texts pages name))
  have namesOnly : NamesOnly "" (Text.split '/' path) := by
    constructor
    · intro name isLast mentions
      rw [segments] at isLast
      obtain rfl : "page\x7d.\x7bext" = name := variableSegment_injective (Option.some.inj isLast)
      exact absurd mentions (by decide +kernel)
    · intro parent isParent
      rw [IsIdParent, segments] at isParent
      obtain rfl : parent = "files" := by
        simpa [List.infix_cons_iff, List.cons_prefix_cons, variableSegment] using isParent
      decide +kernel
  exact ⟨h, template, namesOnly, (normalize_emptied_iff h template).2 namesOnly⟩

end

end ResourceInference.PathTemplate
