import TableBrowser.Proofs.Step.ContentKey
/-!
# Steps with keys

Lists of steps can be compared, and results kept for them, when each step has a
content key. Main statement: the key of a list of steps tells the keys of all
its steps.
-/

namespace TableBrowser

/-- Each step has a content key. -/
def Keyed (steps : List Step) : Prop := ∀ step ∈ steps, ∃ key, step.contentKey = .ok key

theorem Keyed.nil : Keyed [] := by
  intro step member
  cases member

theorem Keyed.of_subset {steps others : List Step} (keyed : Keyed others) (within : steps ⊆ others) :
    Keyed steps := fun step member => keyed step (within member)

/-- Steps that can be compared have keys. -/
theorem Step.keyed_of_sameAll {left right : List Step} (same : sameAll left right = .ok true) :
    Keyed left := by
  have alike := sameAll_eq_true_iff.mp same
  have both : List.Forall₂ (fun first second => (∃ key, first.contentKey = .ok key) ∧
      first.Alike second) left right :=
    alike.imp fun _ _ ⟨key, isKey, others⟩ => ⟨⟨key, isKey⟩, key, isKey, others⟩
  exact ((List.forall₂_and_left ..).mp both).1

theorem Step.sameAll_self {steps : List Step} (keyed : Keyed steps) :
    sameAll steps steps = .ok true := by
  rw [sameAll_eq_true_iff, List.forall₂_same]
  intro step member
  rcases keyed step member with ⟨key, isKey⟩
  exact ⟨key, isKey, isKey⟩

theorem Step.sameAll_of_keyed {left right : List Step} (leftKeyed : Keyed left)
    (rightKeyed : Keyed right) : ∃ same, sameAll left right = .ok same := by
  induction left generalizing right with
  | nil => cases right <;> exact ⟨_, rfl⟩
  | cons first left induction =>
      cases right with
      | nil => exact ⟨_, rfl⟩
      | cons second right =>
          rcases leftKeyed first (by simp) with ⟨leftKey, isLeft⟩
          rcases rightKeyed second (by simp) with ⟨rightKey, isRight⟩
          rcases induction (leftKeyed.of_subset (List.subset_cons_self ..))
            (rightKeyed.of_subset (List.subset_cons_self ..)) with ⟨others, othersSame⟩
          cases same : leftKey == rightKey with
          | true => exact ⟨others, by simp [sameAll, sameAs, isLeft, isRight, same, othersSame,
              bind, Except.bind, pure, Except.pure]⟩
          | false => exact ⟨false, by simp [sameAll, sameAs, isLeft, isRight, same,
              bind, Except.bind, pure, Except.pure]⟩

/-! ## Keys of lists of steps -/

theorem keyed_iff {steps : List Step} : Keyed steps ↔ ∃ key, stepsKey steps = .ok key := by
  constructor
  · intro keyed
    rcases mapM_succeeds keyed with ⟨keys, areKeys⟩
    exact ⟨_, bind_eq_ok.mpr ⟨keys, areKeys, rfl⟩⟩
  · rintro ⟨key, isKey⟩ step member
    rcases bind_eq_ok.mp isKey with ⟨keys, areKeys, _⟩
    exact ok_of_mapM areKeys member

theorem append_null_injective {left right leftRest rightRest : List Char}
    (leftFree : '\x00' ∉ left) (rightFree : '\x00' ∉ right)
    (equal : left ++ '\x00' :: leftRest = right ++ '\x00' :: rightRest) :
    left = right ∧ leftRest = rightRest := by
  rcases List.append_eq_append_iff.mp equal with ⟨more, isRight, rests⟩ | ⟨more, isLeft, rests⟩
  · cases more with
    | nil => exact ⟨by simpa using isRight.symm, (List.cons.inj rests).2⟩
    | cons char more =>
        have isNull := (List.cons.inj rests).1
        exact absurd (by simp [isRight, ← isNull]) rightFree
  · cases more with
    | nil => exact ⟨by simpa using isLeft, (List.cons.inj rests).2.symm⟩
    | cons char more =>
        have isNull := (List.cons.inj rests).1
        exact absurd (by simp [isLeft, ← isNull]) leftFree

theorem join_injective {left right : List String} (leftFree : ∀ key ∈ left, '\x00' ∉ key.toList)
    (rightFree : ∀ key ∈ right, '\x00' ∉ key.toList)
    (equal : String.join (left.map (· ++ "\x00")) = String.join (right.map (· ++ "\x00"))) :
    left = right := by
  induction left generalizing right with
  | nil =>
      cases right with
      | nil => rfl
      | cons second right =>
          have chars := congrArg String.toList equal
          simp at chars
  | cons first left induction =>
      cases right with
      | nil =>
          have chars := congrArg String.toList equal
          simp at chars
      | cons second right =>
          have chars := congrArg String.toList equal
          simp only [List.map_cons, String.join_cons, String.toList_append, List.append_assoc] at chars
          have parts := append_null_injective (leftFree first (by simp))
            (rightFree second (by simp)) chars
          rw [String.toList_inj.mp parts.1, induction
            (fun key member => leftFree key (by simp [member]))
            (fun key member => rightFree key (by simp [member]))
            (String.toList_inj.mp parts.2)]

/-- Lists of steps under one key agree step by step. -/
theorem alike_of_stepsKey {left right : List Step} {key : String}
    (leftKeyed : stepsKey left = .ok key) (rightKeyed : stepsKey right = .ok key) :
    List.Forall₂ Step.Alike left right := by
  have free {steps : List Step} {keys : List String}
      (areKeys : List.Forall₂ (fun step key => step.contentKey = .ok key) steps keys) :
      ∀ key ∈ keys, '\x00' ∉ key.toList := by
    induction areKeys with
    | nil => simp
    | cons isKey _ induction =>
        intro key member
        rcases List.mem_cons.mp member with isFirst | later
        · rw [isFirst, ← (Step.contentKey_eq_ok_iff.mp isKey).2]
          exact Json.null_notMem_form .byName _
        · exact induction key later
  rcases bind_eq_ok.mp leftKeyed with ⟨leftKeys, leftMade, leftJoined⟩
  rcases bind_eq_ok.mp rightKeyed with ⟨rightKeys, rightMade, rightJoined⟩
  have leftEach := mapM_eq_ok.mp leftMade
  have rightEach := mapM_eq_ok.mp rightMade
  have joined := Except.ok.inj (leftJoined.trans rightJoined.symm)
  have same := join_injective (free leftEach) (free rightEach) joined
  subst same
  clear joined leftJoined rightJoined leftMade rightMade leftKeyed rightKeyed
  induction leftEach generalizing right with
  | nil => cases rightEach with | nil => exact .nil
  | cons isLeft _ induction =>
      cases rightEach with
      | cons isRight others => exact .cons ⟨_, isLeft, isRight⟩ (induction others)

/-- Another step makes another key. -/
theorem stepsKey_append_singleton_ne {steps : List Step} {step : Step} {key : String}
    (isKey : stepsKey (steps ++ [step]) = .ok key) : stepsKey steps ≠ .ok key := by
  intro same
  have lengths := (alike_of_stepsKey isKey same).length_eq
  rw [List.length_append, List.length_singleton] at lengths
  omega

/-! ## Steps with and without a key -/

/-- A selection whose content can be written. -/
def Step.selection : Step := .ofParams "select" [("columns", .list [.text "id"])]

/-- A valid selection with a note whose keys cannot be put in order. -/
def Step.mixedNote : Step := .ofParams "select"
  [("columns", .list [.text "id"]),
    ("note", .mapping [(.boolean true, .text "x"), (.text "y", .text "z")])]

theorem ofStep_of_idColumn {step : Step} (isSelect : step.operation = "select")
    (columns : step.param "columns" = .list [.text "id"]) :
    Operation.ofStep step = .ok (.select ["id"]) := by
  simp [Operation.ofStep, isSelect, Operation.ofSelect, columns, Operation.columnNames?,
    Operation.repeatedNames]
  rfl

theorem ofStep_selection : Operation.ofStep .selection = .ok (.select ["id"]) := by
  apply ofStep_of_idColumn rfl
  simp [Step.selection, Step.ofParams, Step.param, Step.param?, Datum.valueAt?]

theorem ofStep_mixedNote : Operation.ofStep .mixedNote = .ok (.select ["id"]) := by
  apply ofStep_of_idColumn rfl
  simp [Step.mixedNote, Step.ofParams, Step.param, Step.param?, Datum.valueAt?]

theorem keyed_selection : Keyed [.selection] := by
  intro step member
  rw [List.mem_singleton.mp member]
  have writable : Json.orderedFault? Step.selection.document = none := by
    simp [Step.selection, Step.ofParams, Step.document, Datum.ofFields, Json.orderedFault?,
      Json.entryFaults, Json.inKeyOrder, Json.clash?, Datum.less, Json.nameFault?, Json.name?,
      Json.itemsFault?]
  exact ⟨_, Step.contentKey_eq_ok_iff.mpr ⟨writable, rfl⟩⟩

theorem not_keyed_mixedNote : ¬ Keyed [.mixedNote] := by
  intro keyed
  rcases keyed .mixedNote (by simp) with ⟨key, isKey⟩
  have note : (Datum.text "note", Datum.mapping
      [(.boolean true, .text "x"), (.text "y", .text "z")]) ∈ Step.mixedNote.params := by
    simp [Step.mixedNote, Step.ofParams]
  exact Step.contentKey_of_mixed note (List.mem_cons_of_mem _ (List.mem_cons_self ..)) rfl
    (List.mem_cons_self ..) rfl key isKey

end TableBrowser
