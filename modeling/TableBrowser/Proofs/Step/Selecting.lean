import TableBrowser.Proofs.Step.FilterFaults
import TableBrowser.Proofs.Step.FilteredSort
/-!
# Selections and the steps around them

A condition reads the cells of the columns that it names, and a sort those of its
keys. Main statement: a filter or a sort that names only columns which a selection
keeps does the same before the selection and after it, failures included.
-/

namespace TableBrowser

/-! ## Cells under the names of columns -/

namespace Table

variable {table : Table}

theorem cellNamed_rowAt {name : String} {column : Column} (found : table.column? name = some column)
    {place : Nat} (inside : place < table.rowCount) :
    cellNamed table.header (table.rowAt place) name = column.values[place]?.getD .null := by
  have paired : table.header.zip (table.rowAt place) =
      table.columns.map fun column => (column.name, column.values[place]?.getD .null) := by
    rw [rowAt_eq_map inside, header, List.zip_map']
  rw [cellNamed, paired, List.find?_map]
  exact congrArg (fun kept : Option Column =>
    ((kept.map fun column => (column.name, column.values[place]?.getD .null)).map (·.2)).getD .null) found

/-- Tables of as many rows that have the same columns under some names. -/
structure AgreeOn (names : List String) (left right : Table) : Prop where
  rowCount : left.rowCount = right.rowCount
  columns : ∀ name ∈ names, ∃ column,
    left.column? name = some column ∧ right.column? name = some column

section AgreeOn

variable {names : List String} {left right : Table} (agree : left.AgreeOn names right)

include agree

theorem AgreeOn.known_left : ∀ name ∈ names, name ∈ left.header := fun name member =>
  (agree.columns name member).elim fun _ found => mem_header_of_column? found.1

theorem AgreeOn.known_right : ∀ name ∈ names, name ∈ right.header := fun name member =>
  (agree.columns name member).elim fun _ found => mem_header_of_column? found.2

end AgreeOn

end Table

namespace Expression

variable {strict : Bool}

/-- The value of an expression depends on the cells of the columns that it names. -/
theorem evaluate_congr {cell other : String → Datum} {expression : Expression}
    (agree : ∀ name ∈ expression.columns, cell name = other name) :
    evaluate strict cell expression = evaluate strict other expression := by
  induction expression with
  | literal value => rfl
  | column name position => rw [evaluate, evaluate, agree name List.mem_cons_self]
  | not operand induction => rw [evaluate, evaluate, induction agree]
  | negation operand induction => rw [evaluate, evaluate, induction agree]
  | and left right leftInduction rightInduction
  | or left right leftInduction rightInduction
  | comparison operator left right leftInduction rightInduction
  | arithmetic operator left right leftInduction rightInduction
  | textTest operator left right leftInduction rightInduction =>
      rw [columns, List.forall_mem_append] at agree
      rw [evaluate, evaluate, leftInduction agree.1, rightInduction agree.2]

variable {left right : Table} {condition : Expression}

theorem holdsAt_of_agreeOn (agree : left.AgreeOn condition.columns right) {place : Nat}
    (inside : place < left.rowCount) :
    condition.holdsAt strict left place = condition.holdsAt strict right place := by
  rw [holdsAt, holds, evaluate_congr fun name member => ?_, ← holds, ← holdsAt]
  rcases agree.columns name member with ⟨column, isLeft, isRight⟩
  rw [Table.cellNamed_rowAt isLeft inside, Table.cellNamed_rowAt isRight (agree.rowCount ▸ inside)]

/-- A condition keeps the same places of tables that agree on its columns, or fails on both. -/
theorem satisfying_of_agreeOn (agree : left.AgreeOn condition.columns right) :
    satisfying strict condition left = satisfying strict condition right := by
  have same {place : Nat} (inside : place < left.rowCount) :
      condition.holdsAt strict left place = condition.holdsAt strict right place :=
    holdsAt_of_agreeOn agree inside
  cases satisfied : satisfying strict condition left with
  | ok places =>
      rcases satisfying_eq_ok.mp satisfied with ⟨isDefined, rfl⟩
      refine (satisfying_eq_ok.mpr ⟨fun place inside => ?_, ?_⟩).symm
      · rw [← agree.rowCount] at inside
        rw [← same inside]
        exact isDefined place inside
      · rw [kept, kept, ← agree.rowCount]
        exact List.filter_congr fun place member => by rw [same (List.mem_range.mp member)]
  | error problem =>
      rcases satisfying_eq_error.mp satisfied with ⟨place, inside, passed, failed⟩
      refine (satisfying_eq_error.mpr
        ⟨place, agree.rowCount ▸ inside, fun earlier isEarlier => ?_, ?_⟩).symm
      · rw [← same (isEarlier.trans inside)]
        exact passed earlier isEarlier
      · rw [← same inside]
        exact failed

end Expression

/-- A sort puts the places of tables that agree on the columns of its keys in the same order. -/
theorem Ordering.sortedIndices_of_agreeOn {left right : Table} {keys : List SortKey}
    (agree : left.AgreeOn (keys.map (·.column)) right) :
    sortedIndices left keys = sortedIndices right keys := by
  induction keys with
  | nil => rw [sortedIndices, sortedIndices, agree.rowCount]
  | cons key keys induction =>
      have others : left.AgreeOn (keys.map (·.column)) right :=
        ⟨agree.rowCount, fun name member => agree.columns name (List.mem_cons_of_mem _ member)⟩
      rcases agree.columns key.column List.mem_cons_self with ⟨column, isLeft, isRight⟩
      rw [sortedIndices, sortedIndices, induction others, isLeft, isRight]

/-! ## Steps that keep rows or arrange them -/

/--
A filter or a sort picks the same places of two tables which agree on the columns that it
names, or fails on both of them in the same way.
-/
theorem Step.exists_places {step : Step} (rowwise : step.operation = "filter" ∨ step.operation = "order")
    {names : List String} (within : ∀ operation, Operation.ofStep step = .ok operation →
      ∀ name ∈ operation.namedColumns.2, name ∈ names)
    {left right : Table} (agree : left.AgreeOn names right) (relation : String) :
    ∃ places : Outcome (List Nat), step.apply relation left = left.pick <$> places ∧
      step.apply relation right = right.pick <$> places := by
  cases isStep : Operation.ofStep step with
  | error problem =>
      refine ⟨.error problem, ?_, ?_⟩ <;> rw [Step.apply, Step.validate, isStep] <;> rfl
  | ok operation =>
      have agreeNamed : left.AgreeOn operation.namedColumns.2 right :=
        ⟨agree.rowCount, fun name member => agree.columns name (within operation isStep name member)⟩
      rw [Step.apply_of_validate (Step.validate_eq_ok.mpr ⟨isStep, agreeNamed.known_left⟩),
        Step.apply_of_validate (Step.validate_eq_ok.mpr ⟨isStep, agreeNamed.known_right⟩)]
      rcases rowwise with isFilter | isOrder
      · rcases Operation.exists_filter isFilter isStep with ⟨condition, strict, rfl⟩
        refine ⟨satisfying strict condition left, rfl, ?_⟩
        rw [Expression.satisfying_of_agreeOn agreeNamed]
        rfl
      · rcases Operation.exists_order isOrder isStep with ⟨keys, rfl⟩
        refine ⟨Ordering.sortedIndices left keys, rfl, ?_⟩
        rw [Ordering.sortedIndices_of_agreeOn agreeNamed]
        rfl

/-! ## Selections -/

namespace Table

variable {table result : Table} {names : List String}

theorem project_eq_ok : table.project names = .ok result ↔
    List.Forall₂ (fun name column => table.column? name = some column) names result.columns := by
  refine ⟨columns_of_project, fun each => bind_eq_ok.mpr ⟨result.columns, ?_, ?_⟩⟩
  · refine mapM_eq_ok.mpr (each.imp fun name column found => ?_)
    rw [found]
    rfl
  · rw [ofColumns_columns]
    rfl

theorem header_project (projected : table.project names = .ok result) : result.header = names :=
  names_of_found (columns_of_project projected)

theorem rowCount_of_mem {column : Column} (member : column ∈ table.columns) :
    table.rowCount = column.values.length := (table.aligned column member).symm

/-- A selection keeps the columns that it names as they are, and all rows if it names any. -/
theorem agreeOn_project (projected : table.project names = .ok result) (notEmpty : names ≠ []) :
    table.AgreeOn names result := by
  have kept {name : String} (isName : name ∈ names) : ∃ column ∈ result.columns,
      table.column? name = some column :=
    exists_of_forall₂ (columns_of_project projected) isName
  constructor
  · rcases List.exists_mem_of_ne_nil names notEmpty with ⟨name, isName⟩
    rcases kept isName with ⟨column, isKept, found⟩
    rw [rowCount_of_mem isKept, rowCount_of_mem (column?_eq_some found).1]
  · intro name isName
    rcases kept isName with ⟨column, isKept, found⟩
    exact ⟨column, found, (column?_eq_some found).2 ▸ column?_name isKept⟩

/-- To select columns of picked rows is to pick rows of the selection. -/
theorem project_pick (projected : table.project names = .ok result) (places : List Nat) :
    (table.pick places).project names = .ok (result.pick places) := by
  rw [project_eq_ok] at projected ⊢
  refine List.forall₂_map_right_iff.mpr (projected.imp fun name column found => ?_)
  simpa using column?_pick found

end Table

/-- A selection names some columns, each of them once. -/
theorem Operation.distinct_of_select {step : Step} {names : List String}
    (isStep : ofStep step = .ok (.select names)) : names ≠ [] ∧ names.Nodup := by
  rcases ofStep_cases isStep with ⟨_, _, _, made⟩ | ⟨isSelect, columns, made, given, noneRepeated⟩ |
    ⟨_, _, made⟩ | ⟨_, _, made⟩
  · cases made
  · cases made
    refine ⟨?_, nodup_of_repeatedNames noneRepeated⟩
    rintro rfl
    rw [List.map_nil] at given
    simp [ofStep, isSelect, ofSelect, given, columnNames?, stepFails, Outcome.fail] at isStep
  · cases made
  · cases made

/-! ## Either order -/

section Pairs

variable {relation : String} {table next : Table} {first second : Step}

theorem applySteps_pair_of_ok (succeeded : first.apply relation table = .ok next) :
    applySteps relation table [first, second] =
      (second.apply relation next).mapError (Problem.atStep 1) := by
  rw [applySteps, applyFrom, succeeded]
  cases applied : second.apply relation next <;> simp [applyFrom, applied, Except.mapError, pure, Except.pure]

theorem applySteps_of_error {problem : Problem} {steps : List Step}
    (failed : first.apply relation table = .error problem) :
    applySteps relation table (first :: steps) = .error (problem.atStep 0) := by
  rw [applySteps, applyFrom, failed]

end Pairs

section Selections

variable (relation : String) (table : Table) {select step : Step} {names : List String}
  (selects : select.validate (some table.header) = .ok (.select names))
  (rowwise : step.operation = "filter" ∨ step.operation = "order")
  (within : ∀ operation, Operation.ofStep step = .ok operation →
    ∀ name ∈ operation.namedColumns.2, name ∈ names)

include selects rowwise within

/-- The two orders of the steps have one outcome, up to the position of the step that fails. -/
theorem exists_outcome_of_select : ∃ outcome : Outcome Table,
    applySteps relation table [step, select] = outcome.mapError (Problem.atStep 0) ∧
      applySteps relation table [select, step] = outcome.mapError (Problem.atStep 1) ∧
        ∀ result, outcome = .ok result → result.header = names := by
  rcases Step.validate_eq_ok.mp selects with ⟨isSelect, known⟩
  rcases Operation.distinct_of_select isSelect with ⟨notEmpty, distinct⟩
  change ∀ name ∈ names, name ∈ table.header at known
  rcases Table.exists_project known distinct with ⟨kept, projected⟩
  have selected : select.apply relation table = .ok kept :=
    (Step.apply_of_validate selects).trans projected
  rcases Step.exists_places rowwise within (Table.agreeOn_project projected notEmpty) relation with
    ⟨places, before, after⟩
  refine ⟨kept.pick <$> places, ?_, after ▸ applySteps_pair_of_ok selected, ?_⟩
  · cases places with
    | error problem => exact applySteps_of_error before
    | ok places =>
        have selectsPicked : select.validate (some (table.pick places).header) = .ok (.select names) := by
          rwa [Table.header_pick]
        rw [applySteps_pair_of_ok before, Step.apply_of_validate selectsPicked]
        exact congrArg (Except.mapError _) (Table.project_pick projected places)
  · intro result made
    cases places with
    | error problem => cases made
    | ok places =>
        cases made
        rw [Table.header_pick, Table.header_project projected]

/--
A filter or a sort that names only columns which a selection keeps makes the same table
before the selection and after it, with the columns of the selection in its order. If it
fails, it does so in either place, for the same cause.
-/
theorem applySteps_select_comm :
    (∀ result, applySteps relation table [step, select] = .ok result ↔
      applySteps relation table [select, step] = .ok result) ∧
    (∀ result, applySteps relation table [step, select] = .ok result → result.header = names) ∧
    (∀ cause, (∃ position, applySteps relation table [step, select] = .error (.failure cause position)) ↔
      ∃ position, applySteps relation table [select, step] = .error (.failure cause position)) ∧
    ∀ fault, applySteps relation table [step, select] = .error (.fault fault) ↔
      applySteps relation table [select, step] = .error (.fault fault) := by
  rcases exists_outcome_of_select relation table selects rowwise within with
    ⟨outcome, before, after, header⟩
  rw [before, after]
  cases outcome with
  | ok made => simpa [Except.mapError] using header made rfl
  | error problem => cases problem <;> simp [Except.mapError, Problem.atStep]

end Selections

/-- The selection of ratings without names. -/
def Step.onlyRating : Step := .ofParams "select" [("columns", .list [.text "rating"])]

/-- The rating that is no number stops the filter, with its name and without it. -/
theorem applySteps_select_ratings : ∃ condition : Expression,
    Step.onlyRating.validate (some unevenRatings.header) = .ok (.select ["rating"]) ∧
    Operation.ofStep (.filtering "rating > 2" none) = .ok (.filter condition true) ∧
    condition.columns = ["rating"] ∧
    applySteps "df" unevenRatings [.filtering "rating > 2" none, .onlyRating] =
      .error (.failure (.step (.comparison ">" (.text "none") (.integer 2))) (some 0)) ∧
    ∃ position, applySteps "df" unevenRatings [.onlyRating, .filtering "rating > 2" none] =
      .error (.failure (.step (.comparison ">" (.text "none") (.integer 2))) position) := by
  have selects : Step.onlyRating.validate (some unevenRatings.header) = .ok (.select ["rating"]) := by
    refine Step.validate_eq_ok.mpr ⟨?_, by decide⟩
    simp [Operation.ofStep, Step.onlyRating, Step.ofParams, Step.param, Step.param?, Datum.valueAt?,
      Operation.ofSelect, Operation.columnNames?, Operation.repeatedNames]
    rfl
  have failed : applySteps "df" unevenRatings [.filtering "rating > 2" none, .onlyRating] =
      .error (.failure (.step (.comparison ">" (.text "none") (.integer 2))) (some 0)) := by
    decide +kernel
  refine ⟨_, selects, rfl, rfl, failed, ?_⟩
  refine ((applySteps_select_comm "df" unevenRatings selects (.inl rfl) ?_).2.2.1 _).mp ⟨_, failed⟩
  intro operation isStep
  cases isStep
  decide

end TableBrowser
