import TableBrowser.Proofs.Step.Application
import TableBrowser.Proofs.Table.WellTyped
/-!
# Types along a pipeline

A step takes columns with their types from its input, or makes them of what the
query engine answers, and then gives some of them a type that the input has under
the same name. Main statement: whatever the engine answers, well-typed tables
become well-typed tables.
-/

namespace TableBrowser

variable {relation : String}

/-! ## Restored types -/

namespace Querying

theorem wellTyped_restoreColumn (wanted : ColumnType) {column : Column} (typed : column.WellTyped) :
    (restoreColumn wanted column).WellTyped := by
  unfold restoreColumn
  split
  next untyped =>
    intro cell member
    have admitted := typed cell member
    rw [untyped] at admitted
    rw [ColumnType.isNull_of_admits admitted]
    exact ColumnType.admits_null wanted
  split
  next =>
    intro cell member
    rcases List.mem_map.mp member with ⟨given, _, rfl⟩
    unfold asBoolean
    split <;> rfl
  split
  next =>
    simp only
    split
    · exact Inference.admits_column _
    · exact typed
  next => exact typed

theorem wellTyped_restoreTypes {answer : Table} (source : Table) (typed : answer.WellTyped) :
    (restoreTypes answer source).WellTyped := by
  intro column member
  rcases List.mem_map.mp member with ⟨given, isGiven, rfl⟩
  unfold restoreFrom
  split
  · exact wellTyped_restoreColumn _ (typed given isGiven)
  · exact typed given isGiven

/-- A query makes its result of an answer of the engine. -/
theorem exists_answer_of_run {statement : String} {table result : Table}
    (ran : run relation statement table = .ok result) :
    ∃ answer found, tableOf answer = .ok found ∧ result = restoreTypes found table := by
  unfold run at ran
  split at ran
  · cases ran
  split at ran
  · cases ran
  next answer _ =>
    split at ran
    · cases ran
    next found made =>
      cases ran
      exact ⟨answer, found, made, rfl⟩

end Querying

/-! ## Steps -/

/-- What a step may make of a table when the query engine may answer anything. -/
inductive Step.Makes (relation : String) (table : Table) (step : Step) : Table → Prop
  | applied {next : Table} (succeeds : step.apply relation table = .ok next) :
      Makes relation table step next
  | answered {statement : String} {answer : Sql.Answer} {found : Table}
      (isQuery : step.validate (some table.header) = .ok (.sql statement))
      (made : Querying.tableOf answer = .ok found) :
      Makes relation table step (Querying.restoreTypes found table)

theorem Step.Makes.wellTyped {table next : Table} {step : Step} (made : step.Makes relation table next)
    (typed : table.WellTyped) : next.WellTyped := by
  have ofAnswer {answer : Sql.Answer} {found : Table} (isTable : Querying.tableOf answer = .ok found) :
      (Querying.restoreTypes found table).WellTyped :=
    Querying.wellTyped_restoreTypes table (Table.wellTyped_of_ofRows isTable)
  cases made with
  | answered _ isTable => exact ofAnswer isTable
  | applied succeeds =>
      rcases bind_eq_ok.mp succeeds with ⟨operation, _, ran⟩
      cases operation with
      | filter condition strict =>
          rcases bind_eq_ok.mp ran with ⟨indices, _, picked⟩
          cases picked
          exact typed.pick indices
      | select columns => exact typed.project ran
      | order keys =>
          rcases bind_eq_ok.mp ran with ⟨indices, _, picked⟩
          cases picked
          exact typed.pick indices
      | sql statement =>
          rcases Querying.exists_answer_of_run ran with ⟨answer, found, isTable, rfl⟩
          exact ofAnswer isTable

/-- The tables that steps may make of a base, one after the other. -/
inductive Derives (relation : String) : Table → List Step → Table → Prop
  | nil (base : Table) : Derives relation base [] base
  | cons {base next result : Table} {step : Step} {steps : List Step}
      (first : step.Makes relation base next) (later : Derives relation next steps result) :
      Derives relation base (step :: steps) result

theorem Derives.of_applyFrom {position : Nat} {base result : Table} {steps : List Step}
    (applied : applyFrom relation position base steps = .ok result) :
    Derives relation base steps result := by
  induction steps generalizing position base with
  | nil =>
      cases applied
      exact .nil _
  | cons step steps induction =>
      rcases applyFrom_cons_eq_ok.mp applied with ⟨next, isNext, applied⟩
      exact .cons (.applied isNext) (induction applied)

theorem Derives.wellTyped {base result : Table} {steps : List Step}
    (derives : Derives relation base steps result) (typed : base.WellTyped) : result.WellTyped := by
  induction derives with
  | nil => exact typed
  | cons first _ induction => exact induction (first.wellTyped typed)

/--
Sources are loaded as well-typed tables, and all steps that succeed keep tables
well-typed, with columns of one length and distinct names, whatever rows the
query engine answers with.
-/
theorem wellTyped_along_steps (relation : String) :
    (∀ (tree : FileTree) (source : Source) (table : Table), source.load tree = .ok table →
      table.WellTyped) ∧
    (∀ (base : Table) (steps : List Step) (result : Table), base.WellTyped →
      Derives relation base steps result →
        result.WellTyped ∧
        (∀ column ∈ result.columns, column.values.length = result.rowCount) ∧
        (result.columns.map (·.name)).Nodup) ∧
    ∀ (base : Table) (steps : List Step) (result : Table),
      applySteps relation base steps = .ok result → Derives relation base steps result := by
  refine ⟨fun _ _ _ => Source.wellTyped_of_load, fun base steps result typed derives => ?_,
    fun _ _ _ => Derives.of_applyFrom⟩
  exact ⟨derives.wellTyped typed, result.aligned, result.distinct⟩

/-! ## A query on flags -/

def flags : Table where
  columns := [⟨"ok", .boolean, [.boolean true, .null]⟩]
  aligned := by decide
  distinct := by decide

def flagAnswer : Sql.Answer where
  columns := [{ name := "ok", affinity := .integer }]
  definedNames := ["ok"]
  rows := [[.integer 1], [.null], [.integer 0]]

/-- The query for all that the input holds. -/
def Step.everything : Step := .ofParams "sql" [("statement", .text "SELECT * FROM df")]

theorem Step.validate_everything (columns : List String) :
    everything.validate (some columns) = .ok (.sql "SELECT * FROM df") := by
  have notBlank : Text.isAllBlank "SELECT * FROM df" = false := by decide +kernel
  have starts : Operation.startsQuery "SELECT * FROM df".toList = true := by decide +kernel
  have statement : everything.param "statement" = .text "SELECT * FROM df" := by decide
  have operation : Operation.ofStep everything = .ok (.sql "SELECT * FROM df") := by
    rw [Operation.ofStep, if_neg (by decide), if_neg (by decide), if_neg (by decide), if_pos (by decide),
      Operation.ofSql, statement]
    simp only [notBlank, starts]
    rfl
  rw [validate, operation]
  rfl

/-- Other rows than those of the table, which become truth values again. -/
theorem wellTyped_along_flags : ∃ result : Table,
    flags.WellTyped ∧ Derives "df" flags [Step.everything] result ∧ result.WellTyped ∧
      result.columns = [⟨"ok", .boolean, [.boolean true, .null, .boolean false]⟩] := by
  let found : Table :=
    { columns := [⟨"ok", .integer, [.integer 1, .null, .integer 0]⟩]
      aligned := by decide
      distinct := by decide }
  have made : Querying.tableOf flagAnswer = .ok found := rfl
  have typed : flags.WellTyped := by decide
  have derives : Derives "df" flags [Step.everything] (Querying.restoreTypes found flags) :=
    .cons (.answered (Step.validate_everything _) made) (.nil _)
  exact ⟨_, typed, derives, ((wellTyped_along_steps "df").2.1 _ _ _ typed derives).1,
    by decide +kernel⟩

end TableBrowser
