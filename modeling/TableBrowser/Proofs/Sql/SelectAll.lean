import TableBrowser.Proofs.Outcome
import TableBrowser.Proofs.Sql.Storing
import TableBrowser.Proofs.Step.Schema
import TableBrowser.Proofs.Step.Typing
import TableBrowser.Proofs.Table.Rows
import TableBrowser.Sql.Storage
/-!
# A query for everything

The rows of a table go through the query engine and come back as they were: the
query for all that a relation holds answers with its rows in their order, truth
values become whole numbers and dates become text, and both are found again by
the types of the columns. Main statement: the query for all that a table holds
makes the same table, except that a zero has no sign any more.
-/

namespace TableBrowser

/-! ## Reading all of a relation -/

namespace Sql

/-- All columns of a source and all its rows. -/
def Select.everything (source : Source) : Select where
  items := [.all]
  source := some source
  condition := none
  groups := []
  order := []
  limit := none

theorem parse_everything : parse "SELECT * FROM df".toList =
    .ok ⟨⟨[], .select (.everything ⟨[], "df", none⟩)⟩, false⟩ := rfl

variable {scope : Scope} {rows : List Row}

theorem values_allColumns {row : Row} (complete : row.length = scope.columns.length)
    (group : List Row) :
    ((allColumns scope).map (·.term)).mapM (Term.value group row) = .ok row := by
  rw [mapM_eq_ok, List.forall₂_map_left_iff, List.forall₂_iff_get]
  refine ⟨by rw [allColumns, List.length_mapIdx, complete], fun index inColumns inRow => ?_⟩
  simp only [allColumns, List.get_eq_getElem, List.getElem_mapIdx, Term.value]
  rw [List.getD_eq_getElem]

/-- Without sort terms every order of rows is sorted, and the given one stays. -/
theorem sortByKeys_nil {α : Type} (items : List (List Value × α)) : sortByKeys [] items = items := by
  have unordered (left right : List Value × α) : keysLess [] right.1 left.1 = false := by
    rw [keysLess]
    simp
  refine List.mergeSort_of_pairwise (List.pairwise_of_forall fun left right => ?_)
  rw [unordered, Bool.not_false]

theorem aggregate?_allColumns :
    (allColumns scope).any (fun column => column.term.aggregate?.isSome) = false := by
  rw [List.any_eq_false]
  intro column member
  rcases List.mem_mapIdx.mp member with ⟨index, inBounds, rfl⟩
  simp [Term.aggregate?]

theorem columns_allColumns :
    (allColumns scope).map (fun column => ⟨column.name, column.term.affinity⟩) = scope.columns ∧
      (allColumns scope).map (·.definedName) = scope.columns.map RelationColumn.name :=
  ⟨List.ext_getElem (by simp [allColumns]) (by simp [allColumns, Term.affinity]),
    List.ext_getElem (by simp [allColumns]) (by simp [allColumns])⟩

/-- What a query for everything answers with, whatever it reads. -/
theorem selectFrom_everything {source : Source} (someColumn : scope.columns ≠ [])
    (complete : ∀ row ∈ rows, row.length = scope.columns.length) :
    selectFrom ⟨scope, rows⟩ (.everything source) =
      .ok ⟨scope.columns, scope.columns.map RelationColumn.name, rows⟩ := by
  have starred : (Select.everything source).items.forM (checkStar scope) = .ok () := by
    change (checkStar scope .all >>= fun _ => pure ()) = _
    rw [checkStar, if_neg (by simpa using someColumn)]
    rfl
  have results : (rows.map fun row => ([row], row)).mapM (fun grouped => do
      let keys ← ([] : List (Term × Bool)).mapM fun sorted => sorted.1.value grouped.1 grouped.2
      return (keys, ← ((allColumns scope).map (·.term)).mapM (·.value grouped.1 grouped.2))) =
        (.ok (rows.map fun row => ([], row)) : Except Problem _) := by
    rw [mapM_eq_ok, List.forall₂_map_left_iff, List.forall₂_map_right_iff, List.forall₂_same]
    intro row member
    exact bind_eq_ok.mpr ⟨[], rfl, bind_eq_ok.mpr
      ⟨row, values_allColumns (complete row member) [row], rfl⟩⟩
  -- Without a limit, a condition, groups and an order, what comes before the rows succeeds at once.
  refine bind_eq_ok.mpr ⟨(), starred, bind_eq_ok.mpr ⟨none, rfl, bind_eq_ok.mpr
    ⟨[allColumns scope], rfl, bind_eq_ok.mpr ⟨none, rfl, bind_eq_ok.mpr ⟨(), rfl, bind_eq_ok.mpr
      ⟨(), rfl, bind_eq_ok.mpr ⟨[], rfl, bind_eq_ok.mpr ⟨(), rfl, bind_eq_ok.mpr
        ⟨[], rfl, ?_⟩⟩⟩⟩⟩⟩⟩⟩⟩
  have single : [allColumns scope].flatten = allColumns scope := List.flatten_singleton
  simp only [single, aggregate?_allColumns, Select.everything, List.isEmpty_nil, Bool.not_true,
    Bool.or_false, Bool.not_false, if_true, columns_allColumns]
  refine bind_eq_ok.mpr ⟨(), rfl, bind_eq_ok.mpr ⟨rows, rfl, bind_eq_ok.mpr ⟨_, rfl, bind_eq_ok.mpr
    ⟨_, results, bind_eq_ok.mpr ⟨rows, ?_, rfl⟩⟩⟩⟩⟩
  rw [List.map_nil, sortByKeys_nil, List.map_map]
  exact congrArg Except.ok (List.map_id rows)

theorem run_everything {relation : Relation} (others : List Relation) (isNamed : relation.name = "df")
    (someColumn : relation.columns ≠ [])
    (complete : ∀ row ∈ relation.rows, row.length = relation.columns.length) :
    run (relation :: others) "SELECT * FROM df" =
      .ok ⟨relation.columns, relation.columns.map RelationColumn.name, relation.rows⟩ := by
  have named : sameName relation.name "df" = true := by
    rw [isNamed]
    decide
  have input : storedInput (relation :: others) ⟨[], "df", none⟩ =
      .ok (inputOf ⟨[], "df", none⟩ relation.columns relation.rows true) := by
    unfold storedInput
    simp [named]
  have answer : selectFrom (inputOf ⟨[], "df", none⟩ relation.columns relation.rows true)
      (.everything ⟨[], "df", none⟩) = _ := selectFrom_everything someColumn complete
  refine bind_eq_ok.mpr ⟨_, parse_everything, bind_eq_ok.mpr ⟨_, ?_, rfl⟩⟩
  rw [evaluateBody]
  exact bind_eq_ok.mpr ⟨_, input, answer⟩

end Sql

open ColumnType (ofDatum ofData)
open Sql (held)

/-! ## Cells that come back -/

/-- The cell that comes back for one that a relation holds. -/
def returned (cell : Datum) : Datum := (held cell).toDatum

/-- The type of what comes back for the cells of a column. -/
def ColumnType.returned : ColumnType → ColumnType
  | .boolean => .integer
  | .datetime => .string
  | type => type

/-- A number without the sign of a zero, any other datum as it is. -/
def Datum.withoutNegativeZero : Datum → Datum
  | .number value => .number (if value.isZero then .zero else value)
  | datum => datum

def Column.withoutNegativeZeros (column : Column) : Column :=
  { column with values := column.values.map Datum.withoutNegativeZero }

theorem ofDatum_returned {type : ColumnType} {cell : Datum} (stores : type.Stores cell) :
    cell = .null ∨ ofDatum (returned cell) = type.returned := by
  cases cell <;> cases type <;> first | exact .inl rfl | exact .inr rfl | exact stores.elim

/-- What comes back for cells of types that are not found again is the cell itself. -/
theorem returned_of_plain {type : ColumnType} {cell : Datum} (stores : type.Stores cell)
    (plain : type ≠ .boolean ∧ type ≠ .datetime) : returned cell = cell.withoutNegativeZero := by
  cases cell <;> cases type <;>
    first | rfl | exact stores.elim | exact absurd rfl plain.1 | exact absurd rfl plain.2

theorem ofData_returned {column : Column} (stores : ∀ cell ∈ column.values, column.type.Stores cell)
    (some : ∃ cell ∈ column.values, cell ≠ .null) :
    ofData (column.values.map returned) = column.type.returned := by
  rcases some with ⟨cell, member, notNull⟩
  refine ColumnType.ofData_of_uniform ?_ ⟨returned cell, List.mem_map_of_mem member,
    (ofDatum_returned (stores cell member)).resolve_left notNull⟩
  intro other isOther
  rcases List.mem_map.mp isOther with ⟨given, isGiven, rfl⟩
  refine (ofDatum_returned (stores given isGiven)).imp_left ?_
  rintro rfl
  rfl

/-! ## Types that are found again -/

namespace Querying

theorem asBoolean_returned {cell : Datum} (stores : ColumnType.boolean.Stores cell) :
    isZeroOneOrNull (returned cell) = true ∧
      asBoolean (returned cell) = cell.withoutNegativeZero := by
  cases cell with
  | null => exact ⟨by decide +kernel, rfl⟩
  | boolean value => cases value <;> exact ⟨by decide +kernel, by decide +kernel⟩
  | _ => exact stores.elim

/-- Dates and times are read from the text that came back for them. -/
theorem column_returned {values : List Datum} (stores : ∀ cell ∈ values, ColumnType.datetime.Stores cell)
    (some : ∃ cell ∈ values, cell ≠ .null) :
    Inference.column ((values.map returned).map asPlainText) =
      (.datetime, values.map Datum.withoutNegativeZero) := by
  have keeps (cell : Datum) (member : cell ∈ values) : cell = .null ∨
      Inference.Keeps (Inference.readings.take 3)
        { type := .datetime, read? := Inference.readTemporal? } cell := by
    have stored := stores cell member
    cases cell with
    | null => exact .inl rfl
    | date value => exact .inr (Inference.keeps_date value)
    | moment value => exact .inr (Inference.keeps_moment stored)
    | time value => exact .inr (Inference.keeps_time stored)
    | _ => exact stored.elim
  have same : values.map Datum.withoutNegativeZero = values := by
    refine (List.map_congr_left (g := id) fun cell member => ?_).trans (List.map_id _)
    have stored := stores cell member
    cases cell <;> first | rfl | exact stored.elim
  rw [same]
  have placed : Inference.readings = Inference.readings.take 3 ++
      { type := .datetime, read? := Inference.readTemporal? } :: [] := rfl
  refine Inference.typing_iff.mp (Inference.typing_of_keeps placed keeps (fun _ _ => rfl) ?_ ?_)
  · rcases some with ⟨cell, member, notNull⟩
    exact ⟨cell, member, (keeps cell member).resolve_left notNull⟩
  · rw [List.map_map, List.forall₂_map_right_iff, List.forall₂_same]
    intro cell member
    have stored := stores cell member
    cases cell with
    | null => exact .inr ⟨rfl, rfl⟩
    | date value => exact .inl rfl
    | moment value => exact .inl rfl
    | time value => exact .inl rfl
    | _ => exact stored.elim

/-- A column of nulls has the type that its cells come back to. -/
theorem restoreColumn_nulls {column : Column} (nulls : ∀ cell ∈ column.values, cell = .null) :
    restoreColumn column.type ⟨column.name, ofData (column.values.map returned),
      column.values.map returned⟩ = column.withoutNegativeZeros := by
  have cells : column.values.map returned = column.values.map Datum.withoutNegativeZero := by
    refine List.map_congr_left fun cell member => ?_
    rw [nulls cell member]
    rfl
  have untyped : ofData (column.values.map returned) = .null := by
    refine ColumnType.ofData_nulls fun other member => ?_
    rcases List.mem_map.mp member with ⟨cell, isCell, rfl⟩
    rw [nulls cell isCell]
    rfl
  rw [restoreColumn, if_pos untyped, cells]
  rfl

theorem restoreColumn_returned {column : Column}
    (stores : ∀ cell ∈ column.values, column.type.Stores cell) :
    restoreColumn column.type ⟨column.name, ofData (column.values.map returned),
      column.values.map returned⟩ = column.withoutNegativeZeros := by
  by_cases nulls : ∀ cell ∈ column.values, cell = .null
  · exact restoreColumn_nulls nulls
  have some : ∃ cell ∈ column.values, cell ≠ .null := by
    push Not at nulls
    exact nulls
  have isType := ofData_returned stores some
  have plain (noChange : column.type ≠ .boolean ∧ column.type ≠ .datetime) :
      column.values.map returned = column.values.map Datum.withoutNegativeZero :=
    List.map_congr_left fun cell member => returned_of_plain (stores cell member) noChange
  rcases column with ⟨name, type, values⟩
  unfold restoreColumn Column.withoutNegativeZeros
  simp only [isType]
  cases type with
  | integer | number | string | null => simp [ColumnType.returned, plain]
  | boolean =>
      have flags : (values.map returned).all isZeroOneOrNull = true := by
        simpa using fun cell member => (asBoolean_returned (stores cell member)).1
      have cells : (values.map returned).map asBoolean = values.map Datum.withoutNegativeZero := by
        rw [List.map_map]
        exact List.map_congr_left fun cell member => (asBoolean_returned (stores cell member)).2
      simp [ColumnType.returned, flags, cells]
  | datetime => simp [ColumnType.returned, column_returned stores some, -List.map_map]

end Querying

/-! ## The table of the answer -/

namespace Table

variable {table : Table}

/-- A column as the answer has it, before its type is restored. -/
def answered (column : Column) : Column :=
  ⟨column.name, ofData (column.values.map returned), column.values.map returned⟩

theorem names_answered : (table.columns.map answered).map (·.name) = table.header := by
  rw [List.map_map]
  rfl

theorem tableOf_answer (affinities : List Sql.RelationColumn)
    (named : affinities.map Sql.RelationColumn.name = table.header) :
    ∃ found : Table,
      Querying.tableOf ⟨affinities, table.header, table.rows.map (·.map held)⟩ = .ok found ∧
        found.columns = table.columns.map answered := by
  have cells : (table.rows.map (·.map held)).map (·.map Sql.Value.toDatum) =
      table.rows.map (·.map returned) := by
    simp only [List.map_map, Function.comp_def]
    rfl
  have columns : table.header.mapIdx (fun index name =>
      let values := columnOfRows (table.rows.map (·.map returned)) index
      ({ name, values, type := ((([] : List (Option ColumnType))[index]?).join).getD (ofData values) } : Column)) =
        table.columns.map answered := by
    refine List.ext_getElem (by simp [header]) fun index inHeader inColumns => ?_
    have inBounds : index < table.columns.length := by simpa using inColumns
    simp [header, answered, columnOfRows_rows returned inBounds]
  have aligned : Aligned (table.columns.map answered) := by
    refine aligned_of_length table.rowCount fun column member => ?_
    rcases List.mem_map.mp member with ⟨given, isGiven, rfl⟩
    exact (List.length_map _).trans (table.aligned given isGiven)
  have distinct : ((table.columns.map answered).map (·.name)).Nodup :=
    names_answered ▸ table.distinct
  refine ⟨⟨_, aligned, distinct⟩, ?_, rfl⟩
  unfold Querying.tableOf ofRows
  simp only [cells]
  rw [show affinities.map (·.name) = table.header from named, columns, ofColumns, dif_pos aligned,
    dif_pos distinct]

end Table

/-! ## Equal tables -/

theorem Datum.equalInstants_self (offset : Option Int) (clock : Int) :
    equalInstants (onOneClock? offset offset clock clock) = true := by
  cases offset <;> simp [onOneClock?, equalInstants]

/-- A zero equals the zero without a sign. -/
theorem Datum.equal_withoutNegativeZero {type : ColumnType} {cell : Datum}
    (stores : type.Stores cell) : cell.withoutNegativeZero.equal cell = true := by
  cases cell with
  | null => rfl
  | boolean value => simp [withoutNegativeZero, equal, numeric?, Numeric.equal]
  | integer value => simp [withoutNegativeZero, equal, numeric?, Numeric.equal]
  | text value => simp [withoutNegativeZero, equal, numeric?, same]
  | bytes value => simp [withoutNegativeZero, equal, numeric?, same]
  | date value => simp [withoutNegativeZero, equal, numeric?, same]
  | moment value => exact equalInstants_self _ _
  | time value => exact equalInstants_self _ _
  | number value =>
      cases value with
      | nan => cases type <;> cases stores
      | infinite negative =>
          simp [withoutNegativeZero, Binary64.isZero, equal, numeric?, Numeric.equal, Binary64.place?]
      | finite negative units representable =>
          by_cases zero : units = 0
          · subst zero
            cases negative <;>
              simp [withoutNegativeZero, Binary64.isZero, equal, numeric?, Numeric.equal,
                Binary64.place?, Binary64.zero, Binary64.signed]
          · simp [withoutNegativeZero, Binary64.isZero, zero, equal, numeric?, Numeric.equal,
              Binary64.place?]
  | list items => cases type <;> exact stores.elim
  | mapping entries => cases type <;> exact stores.elim

theorem Datum.equalItems_withoutNegativeZero {type : ColumnType} {cells : List Datum}
    (stores : ∀ cell ∈ cells, type.Stores cell) :
    equalItems (cells.map withoutNegativeZero) cells = true := by
  induction cells with
  | nil => rfl
  | cons cell cells induction =>
      rw [List.map_cons, equalItems, equal_withoutNegativeZero (stores cell List.mem_cons_self),
        induction fun other member => stores other (List.mem_cons_of_mem cell member)]
      rfl

theorem Table.equal_of_withoutNegativeZeros {result table : Table} (storable : table.Storable)
    (columns : result.columns = table.columns.map Column.withoutNegativeZeros) :
    result.equal table = true := by
  unfold equal
  rw [columns, List.length_map, beq_self_eq_true, Bool.true_and, ← List.map_prod_right_eq_zip,
    List.all_map, List.all_eq_true]
  intro column member
  simp [Column.equal, Column.withoutNegativeZeros,
    Datum.equalItems_withoutNegativeZero (storable.cells column member)]

/-! ## The query -/

theorem apply_everything (table : Table) :
    Step.everything.apply defaultRelation table = Querying.run "df" "SELECT * FROM df" table := by
  rw [Step.apply, Step.validate_everything]
  change Operation.run defaultRelation table (.sql "SELECT * FROM df") = _
  rw [Operation.run]
  rfl

section Query

variable {table : Table} (storable : table.Storable)

include storable

theorem exists_result_of_relatable (relatable : table.Relatable) :
    ∃ result, Step.everything.apply defaultRelation table = .ok result ∧
      result.columns = table.columns.map Column.withoutNegativeZeros := by
  let relation : Sql.Relation :=
    ⟨"df", table.columns.map Sql.columnOf, table.rows.map (·.map held)⟩
  have relations : Sql.relationsOf "df" table = .ok [relation, { relation with name := Sql.shortName }] :=
    bind_eq_ok.mpr ⟨relation, Sql.relationOf_storable storable relatable, rfl⟩
  have named : relation.columns.map Sql.RelationColumn.name = table.header := Sql.names_columnOf
  have complete : ∀ row ∈ relation.rows, row.length = relation.columns.length := by
    intro row member
    rcases List.mem_map.mp member with ⟨given, isGiven, rfl⟩
    rw [List.length_map, Table.length_of_mem_rows isGiven, ← named, List.length_map]
  have answered := Sql.run_everything [{ relation with name := Sql.shortName }] rfl
    (by simpa [relation] using storable.someColumn) complete
  rcases Table.tableOf_answer relation.columns named with ⟨found, made, columns⟩
  rw [named] at answered
  have ran : Querying.run "df" "SELECT * FROM df" table = .ok (Querying.restoreTypes found table) := by
    unfold Querying.run
    simp only [relations, answered]
    rw [made]
    rfl
  refine ⟨Querying.restoreTypes found table, (apply_everything table).trans ran, ?_⟩
  change found.columns.map (Querying.restoreFrom table) = _
  rw [columns, List.map_map]
  refine List.map_congr_left fun column member => ?_
  change Querying.restoreFrom table (Table.answered column) = _
  unfold Querying.restoreFrom
  rw [show table.column? (Table.answered column).name = some column from Table.column?_name member]
  exact Querying.restoreColumn_returned (storable.cells column member)

theorem refused_of_not_relatable (notRelatable : ¬ table.Relatable) :
    ∃ problem ∈ [Sql.Problem.nullCharacter, .tooManyColumns "df"],
      Step.everything.apply defaultRelation table =
        Operation.stepFails (.loadingRelation problem.message) := by
  have refused {problem : Sql.Problem} (failed : Sql.relationOf "df" table = .error problem) :
      Step.everything.apply defaultRelation table =
        Operation.stepFails (.loadingRelation problem.message) := by
    have relations : Sql.relationsOf "df" table = .error problem := by
      rw [Sql.relationsOf, failed]
      rfl
    rw [apply_everything, Querying.run, relations]
  rcases Sql.relationOf_of_not_relatable storable notRelatable with null | tooMany
  · exact ⟨_, by simp, refused null⟩
  · exact ⟨_, by simp, refused tooMany⟩

/--
A table whose columns can be told apart and whose cells a relation holds comes
back from the query for everything in it, when a relation can have its names and
as many columns: under the same names and types, and with the same cells, except
that a zero is not negative any more. Otherwise the step is refused for them.
-/
theorem applySteps_everything :
    (table.Relatable → ∃ result, applySteps defaultRelation table [Step.everything] = .ok result ∧
      result.columns = table.columns.map Column.withoutNegativeZeros ∧
      result.equal table = true) ∧
    (¬ table.Relatable → ∃ problem ∈ [Sql.Problem.nullCharacter, .tooManyColumns "df"],
      applySteps defaultRelation table [Step.everything] =
        .error (.failure (.step (.loadingRelation problem.message)) (some 0))) := by
  constructor
  · intro relatable
    rcases exists_result_of_relatable storable relatable with ⟨result, applied, columns⟩
    refine ⟨result, ?_, columns, Table.equal_of_withoutNegativeZeros storable columns⟩
    rw [applySteps, applyFrom, applied]
    rfl
  · intro notRelatable
    rcases refused_of_not_relatable storable notRelatable with ⟨problem, isProblem, failed⟩
    refine ⟨problem, isProblem, ?_⟩
    rw [applySteps, applyFrom, failed]
    rfl

end Query

/-! ## Tables with columns of every type -/

/-- A column of each type, with a negative zero, nulls, and dates and times of every kind. -/
def everyType : Table where
  columns := [
    ⟨"level", .number, [.number (.finite true 0 Binary64.representable_zero), .null, .number (.infinite true)]⟩,
    ⟨"Ok", .boolean, [.boolean true, .null, .boolean false]⟩,
    ⟨"at", .datetime, [.date ⟨2024, 2, 29, by decide⟩,
      .moment ⟨⟨1, 1, 2, by decide⟩, 23, 59, 0, 7, some ⟨-5400000000, by decide⟩, by decide⟩,
      .time ⟨4, 5, 6, 0, none, by decide⟩]⟩,
    ⟨"note", .string, [.text " 1", .bytes [0, 255], .null]⟩,
    ⟨"count", .integer, [.integer (-9223372036854775808), .null, .integer 0]⟩,
    ⟨"", .null, [.null, .null, .null]⟩]
  aligned := by decide
  distinct := by decide

theorem applySteps_everything_everyType : ∃ result,
    applySteps defaultRelation everyType [Step.everything] = .ok result ∧
      result.columns = everyType.columns.map Column.withoutNegativeZeros ∧
      result.equal everyType = true := by
  have storable : everyType.Storable :=
    { someColumn := by decide
      apart := by decide
      cells := by
        simp [everyType, ColumnType.Stores, Binary64.isNaN, Sql.Value.fits, Time.IsRegular,
          UtcOffset.IsRegular] }
  exact (applySteps_everything storable).1 ⟨by decide, by decide⟩

/-- A column whose name no relation can have. -/
def nullNamed : Table where
  columns := [⟨"a\x00", .integer, [.integer 1]⟩]
  aligned := by decide
  distinct := by decide

/-- One whole number under a name with a null character: the query fails. -/
theorem not_applies_everything_nullNamed :
    ¬ ∃ result, applySteps defaultRelation nullNamed [Step.everything] = .ok result := by
  have storable : nullNamed.Storable :=
    { someColumn := by decide
      apart := by decide
      cells := by simp [nullNamed, ColumnType.Stores, Sql.Value.fits] }
  have notRelatable : ¬ nullNamed.Relatable := by
    rintro ⟨_, withoutNull⟩
    exact withoutNull "a\x00" (by decide) (by decide)
  rcases refused_of_not_relatable storable notRelatable with ⟨problem, _, failed⟩
  rintro ⟨result, applied⟩
  rw [applySteps, applyFrom, failed] at applied
  cases applied

end TableBrowser
