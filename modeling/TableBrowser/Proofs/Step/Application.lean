import TableBrowser.Pipeline.Basic
import TableBrowser.Proofs.Step.Keyed
/-!
# Applying steps

The steps before some place succeed when all of them do, and no more steps
succeed than stand before the failing one. Main statements: steps that are alike
make the same table, and a failure leaves every list that can still succeed
within the steps before the position to blame.
-/

namespace TableBrowser

variable {relation : String}

/-! ## Single steps -/

theorem Step.valid_of_apply {table result : Table} {step : Step}
    (applied : step.apply relation table = .ok result) : step.Valid := by
  rcases bind_eq_ok.mp applied with ⟨operation, validated, _⟩
  rcases bind_eq_ok.mp validated with ⟨named, isNamed, _⟩
  exact ⟨named, isNamed⟩

theorem Step.apply_congr {left right : Step} (alike : left.Alike right) (leftValid : left.Valid)
    (rightValid : right.Valid) (table : Table) :
    left.apply relation table = right.apply relation table := by
  rcases alike with ⟨key, leftKeyed, rightKeyed⟩
  rw [apply, apply, validate, validate,
    ofStep_eq_of_contentKey leftKeyed rightKeyed leftValid rightValid]

/-- Steps make what the later ones make of the table that the first one makes. -/
theorem applyFrom_cons_eq_ok {position : Nat} {table result : Table} {step : Step}
    {steps : List Step} : applyFrom relation position table (step :: steps) = .ok result ↔
      ∃ next, step.apply relation table = .ok next ∧
        applyFrom relation (position + 1) next steps = .ok result := by
  rw [applyFrom]
  cases step.apply relation table <;> simp

/-- Neither the success nor the result of steps depends on the position of the first one. -/
theorem applyFrom_position {position other : Nat} {table result : Table} {steps : List Step}
    (applied : applyFrom relation position table steps = .ok result) :
    applyFrom relation other table steps = .ok result := by
  induction steps generalizing position other table with
  | nil => exact applied
  | cons step steps induction =>
      rcases applyFrom_cons_eq_ok.mp applied with ⟨next, first, later⟩
      exact applyFrom_cons_eq_ok.mpr ⟨next, first, induction later⟩

theorem applyFrom_append {position : Nat} {table result : Table} {earlier later : List Step} :
    applyFrom relation position table (earlier ++ later) = .ok result ↔
      ∃ between, applyFrom relation position table earlier = .ok between ∧
        applyFrom relation position between later = .ok result := by
  induction earlier generalizing position table with
  | nil => simp [applyFrom, pure, Except.pure]
  | cons step earlier induction =>
      simp only [List.cons_append, applyFrom_cons_eq_ok, induction]
      constructor
      · rintro ⟨next, first, between, before, after⟩
        exact ⟨between, ⟨next, first, before⟩, applyFrom_position after⟩
      · rintro ⟨between, ⟨next, first, before⟩, after⟩
        exact ⟨next, first, between, before, applyFrom_position after⟩

/-- Steps that come after others which succeed are applied to what those make. -/
theorem applyFrom_append_of_ok {position : Nat} {table between : Table} {earlier : List Step}
    (applied : applyFrom relation position table earlier = .ok between) (later : List Step) :
    applyFrom relation position table (earlier ++ later) =
      applyFrom relation (position + earlier.length) between later := by
  induction earlier generalizing position table with
  | nil =>
      cases applied
      rfl
  | cons step earlier induction =>
      rcases applyFrom_cons_eq_ok.mp applied with ⟨next, first, applied⟩
      rw [List.cons_append, applyFrom, first, List.length_cons, Nat.add_comm earlier.length,
        ← Nat.add_assoc]
      exact induction applied

/-! ## Lists of steps -/

/-- The steps make a table of the base. -/
def Applies (relation : String) (base : Table) (steps : List Step) : Prop :=
  ∃ result, applySteps relation base steps = .ok result

theorem Applies.nil {base : Table} : Applies relation base [] := ⟨base, rfl⟩

theorem valid_of_applyFrom {position : Nat} {table result : Table} {steps : List Step}
    (applied : applyFrom relation position table steps = .ok result) :
    ∀ step ∈ steps, step.Valid := by
  induction steps generalizing position table with
  | nil => simp
  | cons first steps induction =>
      rcases applyFrom_cons_eq_ok.mp applied with ⟨next, firstResult, applied⟩
      intro step member
      rcases List.mem_cons.mp member with rfl | later
      · exact Step.valid_of_apply firstResult
      · exact induction applied step later

theorem applyFrom_congr {position : Nat} {table : Table} {left right : List Step}
    (alike : List.Forall₂ Step.Alike left right) (leftValid : ∀ step ∈ left, step.Valid)
    (rightValid : ∀ step ∈ right, step.Valid) :
    applyFrom relation position table left = applyFrom relation position table right := by
  induction alike generalizing position table with
  | nil => rfl
  | cons firstAlike _ induction =>
      rw [applyFrom, applyFrom, Step.apply_congr firstAlike (leftValid _ (by simp))
        (rightValid _ (by simp))]
      split
      · exact induction (fun step member => leftValid step (by simp [member]))
          (fun step member => rightValid step (by simp [member]))
      · rfl

/-- Valid steps under one key make the same table, or fail in the same way. -/
theorem applySteps_eq_of_stepsKey {base : Table} {left right : List Step} {key : String}
    (leftKeyed : stepsKey left = .ok key) (rightKeyed : stepsKey right = .ok key)
    (leftValid : ∀ step ∈ left, step.Valid) (rightValid : ∀ step ∈ right, step.Valid) :
    applySteps relation base left = applySteps relation base right :=
  applyFrom_congr (alike_of_stepsKey leftKeyed rightKeyed) leftValid rightValid

/-! ## Failures -/

theorem Problem.reported_atStep (problem : Problem) (position : Nat) :
    (problem.atStep position).reported.2 = none ∨
      (problem.atStep position).reported.2 = some position := by
  cases problem with
  | failure cause stepIndex => exact .inr rfl
  | fault cause => exact .inl rfl

/-- Steps that fail have a failing one, which is named if any is, and only steps before it succeed. -/
theorem exists_failing {position : Nat} {table : Table} {steps : List Step} {problem : Problem}
    (failed : applyFrom relation position table steps = .error problem) :
    ∃ failing < steps.length,
      (problem.reported.2 = none ∨ problem.reported.2 = some (position + failing)) ∧
        ∀ count result, applyFrom relation position table (steps.take count) = .ok result →
          count ≤ failing := by
  induction steps generalizing position table with
  | nil => cases failed
  | cons step steps induction =>
      unfold applyFrom at failed
      cases first : step.apply relation table with
      | error cause =>
          rw [first] at failed
          cases failed
          refine ⟨0, by simp, cause.reported_atStep position, ?_⟩
          intro count result applied
          cases count with
          | zero => exact Nat.le_refl 0
          | succ count => simp [applyFrom, first] at applied
      | ok next =>
          rw [first] at failed
          rcases induction failed with ⟨failing, within, named, longest⟩
          refine ⟨failing + 1, by simpa using within, by rwa [Nat.add_right_comm] at named, ?_⟩
          intro count result applied
          cases count with
          | zero => exact Nat.zero_le _
          | succ count =>
              simp only [List.take_succ_cons, applyFrom, first] at applied
              exact Nat.succ_le_succ (longest count result applied)

theorem ne_nil_of_failed {base : Table} {steps : List Step} {problem : Problem}
    (failed : applySteps relation base steps = .error problem) : steps ≠ [] := by
  intro empty
  rw [empty] at failed
  cases failed

theorem Pipeline.failedPosition_lt {steps : List Step} (some : steps ≠ []) (named : Option Nat) :
    failedPosition steps named < steps.length := by
  have positive := List.length_pos_iff.mpr some
  unfold failedPosition
  split
  · split <;> omega
  · omega

/-- All steps that still succeed stand before the position to blame. -/
theorem prefix_of_failed {base : Table} {steps earlier : List Step} {problem : Problem}
    (failed : applySteps relation base steps = .error problem)
    (applies : Applies relation base earlier) (isPrefix : earlier <+: steps) :
    earlier <+: steps.take (Pipeline.failedPosition steps problem.reported.2) := by
  rcases exists_failing failed with ⟨failing, within, named, longest⟩
  rcases applies with ⟨result, applied⟩
  have isTake := List.prefix_iff_eq_take.mp isPrefix
  rw [isTake] at applied
  have short := longest earlier.length result applied
  have place : failing ≤ Pipeline.failedPosition steps problem.reported.2 := by
    unfold Pipeline.failedPosition
    rcases named with named | named <;> rw [named] <;> simp only
    · omega
    · split <;> omega
  rw [List.prefix_take_iff]
  exact ⟨isPrefix, short.trans place⟩

/-- A table without columns has none that could be selected. -/
theorem not_applies_selection : ¬ Applies relation .empty [.selection] := by
  rintro ⟨result, applied⟩
  have header : Table.empty.header = [] := rfl
  simp [applySteps, applyFrom, Step.apply, Step.validate, ofStep_selection, header,
    Operation.checkColumns, Operation.namedColumns, Operation.stepFails, Outcome.fail, bind,
    Except.bind] at applied

/-- A table without rows that has the column of a selection. -/
def Table.onlyId : Table := ⟨[⟨"id", .null, []⟩], by decide, by decide⟩

theorem applies_of_select {step : Step} (selects : Operation.ofStep step = .ok (.select ["id"])) :
    Applies relation .onlyId [step] := by
  refine ⟨.onlyId, ?_⟩
  simp only [applySteps, applyFrom, Step.apply, Step.validate, selects]
  rfl

/-- A table of which the selection leaves a part. -/
def Table.idAndName : Table :=
  ⟨[⟨"id", .null, [.null]⟩, ⟨"name", .string, [.text "a"]⟩], by decide, by decide⟩

theorem applySteps_selection : applySteps relation .idAndName [.selection] =
    .ok ⟨[⟨"id", .null, [.null]⟩], by decide, by decide⟩ := by
  simp only [applySteps, applyFrom, Step.apply, Step.validate, ofStep_selection]
  rfl

theorem applies_mixedNote : Applies relation .onlyId [.mixedNote] :=
  applies_of_select ofStep_mixedNote

end TableBrowser
