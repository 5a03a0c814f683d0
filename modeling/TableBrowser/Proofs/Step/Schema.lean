import Mathlib.Data.List.Nodup
import TableBrowser.Proofs.Step.Application
import TableBrowser.Step.Application
/-!
# Schemas of steps

Without evaluating a step its schema is told exactly or not at all: filters and
sorts keep the columns of their input, a selection takes those that it names, and
of a query nothing is known. Main statement: a schema that steps make is that of
the table that they make.
-/

namespace TableBrowser

/-! ## Columns of tables -/

theorem find?_eq_some_of_unique {α : Type} {holds : α → Bool} {items : List α} {item : α}
    (member : item ∈ items) (itemHolds : holds item = true)
    (unique : ∀ other ∈ items, holds other = true → other = item) :
    items.find? holds = some item := by
  cases found : items.find? holds with
  | none => exact absurd itemHolds (List.find?_eq_none.mp found item member)
  | some other =>
      rw [unique other (List.mem_of_find?_eq_some found) (List.find?_some found)]

namespace Table

variable {table : Table}

theorem column?_eq_some {name : String} {column : Column}
    (found : table.column? name = some column) : column ∈ table.columns ∧ column.name = name :=
  ⟨List.mem_of_find?_eq_some found, by simpa using List.find?_some found⟩

theorem exists_column?_of_mem {name : String} (member : name ∈ table.header) :
    ∃ column, table.column? name = some column := by
  rcases List.mem_map.mp member with ⟨column, columnMember, isNamed⟩
  apply Option.isSome_iff_exists.mp
  rw [column?, List.find?_isSome]
  exact ⟨column, columnMember, by simp [isNamed]⟩

/-- Each column is the one that its name stands for. -/
theorem column?_name {column : Column} (member : column ∈ table.columns) :
    table.column? column.name = some column := by
  rcases exists_column?_of_mem (List.mem_map_of_mem member) with ⟨found, isFound⟩
  rcases column?_eq_some isFound with ⟨isColumn, sameName⟩
  rw [isFound, List.inj_on_of_nodup_map table.distinct isColumn member sameName]

theorem mem_header_of_column? {name : String} {column : Column}
    (found : table.column? name = some column) : name ∈ table.header := by
  rcases column?_eq_some found with ⟨member, rfl⟩
  exact List.mem_map_of_mem member

@[simp] theorem types_pick (table : Table) (indices : List Nat) :
    (table.pick indices).types = table.types := by
  simp [types, pick]

/-- A projection takes the columns that it names, in its order. -/
theorem columns_of_project {names : List String} {result : Table}
    (projected : table.project names = .ok result) :
    List.Forall₂ (fun name column => table.column? name = some column) names result.columns := by
  rcases bind_eq_ok.mp projected with ⟨columns, taken, made⟩
  have isResult : result.columns = columns := by
    unfold ofColumns at made
    split at made
    · next made' isTable =>
      split at isTable
      · split at isTable
        · cases isTable
          cases made
          rfl
        · cases isTable
      · cases isTable
    · cases made
  rw [isResult]
  refine (mapM_eq_ok.mp taken).imp fun name column isTaken => ?_
  cases found : table.column? name with
  | none =>
      rw [found] at isTaken
      cases isTaken
  | some other =>
      rw [found] at isTaken
      cases isTaken
      rfl

end Table

/-! ## Documents of schemas -/

namespace Schema

theorem names?_ofTable (table : Table) : names? (ofTable table) = some table.header := by
  simp [names?, ofTable, ofTypes, field, Table.types, Table.header, Datum.ofFields, Datum.get,
    Datum.valueAt?, Datum.asText?, Function.comp_def]

theorem isNull_ofTable (table : Table) : (ofTable table).isNull = false := rfl

/-- As names are distinct it does not matter from which end a field is looked for. -/
theorem fieldNamed?_of_column? {table : Table} {name : String} {column : Column}
    (found : table.column? name = some column) :
    fieldNamed? (table.types.map fun (name, type) => field name type) (.text name) =
      some (field column.name column.type) := by
  rcases Table.column?_eq_some found with ⟨member, rfl⟩
  apply find?_eq_some_of_unique
  · simp only [List.mem_reverse, Table.types, List.map_map, List.mem_map]
    exact ⟨column, member, rfl⟩
  · simp [field, Datum.ofFields, Datum.get, Datum.valueAt?]
  · intro other otherMember isNamed
    simp only [List.mem_reverse, Table.types, List.map_map, List.mem_map,
      Function.comp_apply] at otherMember
    rcases otherMember with ⟨given, givenMember, rfl⟩
    have sameName : given.name = column.name := by
      simpa [field, Datum.ofFields, Datum.get, Datum.valueAt?] using isNamed
    rw [List.inj_on_of_nodup_map table.distinct givenMember member sameName]

theorem mapM_lookupKey (names : List String) :
    (names.map Datum.text).mapM lookupKey = .ok (names.map .text) := by
  refine mapM_eq_ok.mpr ?_
  rw [List.forall₂_same]
  intro key member
  rcases List.mem_map.mp member with ⟨name, _, rfl⟩
  rfl

theorem filterMap_fieldNamed? {table : Table} {names : List String} {columns : List Column}
    (found : List.Forall₂ (fun name column => table.column? name = some column) names columns) :
    (names.map Datum.text).filterMap
        (fieldNamed? (table.types.map fun (name, type) => field name type)) =
      columns.map fun column => field column.name column.type := by
  induction found with
  | nil => rfl
  | cons first _ induction =>
      rw [List.map_cons, List.filterMap_cons_some (fieldNamed?_of_column? first), induction,
        List.map_cons]

theorem selectFields_of_project {table result : Table} {names : List String}
    (projected : table.project names = .ok result) :
    selectFields (.list (names.map .text))
        (.list (table.types.map fun (name, type) => field name type)) = .ok (ofTable result) := by
  have allFields : (table.types.map fun (name, type) => field name type).find?
      (fun datum => !isField datum) = none := by
    rw [List.find?_eq_none]
    intro datum member
    rcases List.mem_map.mp member with ⟨type, _, rfl⟩
    simp [field, Datum.ofFields, isField]
  have elements : (Datum.list (names.map .text)).elementsIfAny = .ok (names.map .text) := by
    cases names <;> rfl
  simp only [selectFields, allFields, elements, bind, Except.bind, mapM_lookupKey,
    filterMap_fieldNamed? (Table.columns_of_project projected)]
  simp [ofTable, ofTypes, Table.types, Function.comp_def, pure, Except.pure]

end Schema

/-! ## The schema of a step -/

namespace Operation

theorem eq_map_of_mapM {α β : Type} {read? : α → Option β} {write : β → α}
    (isWritten : ∀ item value, read? item = some value → item = write value) {items : List α}
    {values : List β} (areRead : items.mapM read? = some values) : items = values.map write := by
  induction items generalizing values with
  | nil =>
      cases areRead
      rfl
  | cons item items induction =>
      rw [List.mapM_cons] at areRead
      rcases Option.bind_eq_some_iff.mp areRead with ⟨value, isRead, later⟩
      rcases Option.bind_eq_some_iff.mp later with ⟨others, areOthers, made⟩
      cases made
      rw [List.map_cons, ← isWritten item value isRead, ← induction areOthers]

/-- The names of a selection are the texts of its parameter. -/
theorem columns_of_columnNames? {datum : Datum} {names : List String}
    (named : columnNames? datum = some names) : datum = .list (names.map .text) := by
  unfold columnNames? at named
  split at named
  · cases named
  · refine congrArg Datum.list (eq_map_of_mapM (fun item name isName => ?_) named)
    split at isName
    · split at isName
      · cases isName
      · cases isName
        rfl
    · cases isName
  · cases named

section Cases

variable {step : Step} {operation : Operation}

theorem exists_of_ofFilter (isFilter : ofFilter step = .ok operation) :
    ∃ condition strict, operation = .filter condition strict := by
  unfold ofFilter at isFilter
  split at isFilter
  · split at isFilter
    · cases isFilter
    · split at isFilter
      · rcases bind_eq_ok.mp isFilter with ⟨condition, _, made⟩
        cases made
        exact ⟨condition, _, rfl⟩
      · cases isFilter
  · cases isFilter

theorem exists_of_ofSelect (isSelect : ofSelect step = .ok operation) :
    ∃ columns, operation = .select columns ∧ step.param "columns" = .list (columns.map .text) ∧
      repeatedNames columns = [] := by
  unfold ofSelect at isSelect
  split at isSelect
  · cases isSelect
  · next names named =>
    split at isSelect
    · next noneRepeated =>
      cases isSelect
      exact ⟨names, rfl, columns_of_columnNames? named, noneRepeated⟩
    · cases isSelect

theorem exists_of_ofOrder (isOrder : ofOrder step = .ok operation) :
    ∃ keys, operation = .order keys := by
  unfold ofOrder at isOrder
  split at isOrder
  · rcases bind_eq_ok.mp isOrder with ⟨keys, _, made⟩
    cases made
    exact ⟨keys, rfl⟩
  · cases isOrder

theorem exists_of_ofSql (isSql : ofSql step = .ok operation) :
    ∃ statement, operation = .sql statement := by
  unfold ofSql at isSql
  split at isSql
  · split at isSql
    · cases isSql
    · split at isSql
      · cases isSql
        exact ⟨_, rfl⟩
      · cases isSql
  · cases isSql

/-- The operation of a step tells which one it is, and of a selection what it is given. -/
theorem ofStep_cases (isStep : ofStep step = .ok operation) :
    (step.operation = "filter" ∧ ∃ condition strict, operation = .filter condition strict) ∨
    (step.operation = "select" ∧ ∃ columns, operation = .select columns ∧
      step.param "columns" = .list (columns.map .text) ∧ repeatedNames columns = []) ∨
    (step.operation = "order" ∧ ∃ keys, operation = .order keys) ∨
    (step.operation = "sql" ∧ ∃ statement, operation = .sql statement) := by
  unfold ofStep at isStep
  split_ifs at isStep with isFilter isSelect isOrder isSql
  · exact .inl ⟨isFilter, exists_of_ofFilter isStep⟩
  · exact .inr (.inl ⟨isSelect, exists_of_ofSelect isStep⟩)
  · exact .inr (.inr (.inl ⟨isOrder, exists_of_ofOrder isStep⟩))
  · exact .inr (.inr (.inr ⟨isSql, exists_of_ofSql isStep⟩))
  · cases isStep

end Cases

end Operation

namespace Step

/-- The schema of a step is that of the table that it makes, unless it is not known. -/
theorem outputSchema_of_apply {relation : String} {table result : Table} {step : Step}
    (applied : step.apply relation table = .ok result) :
    step.outputSchema (Schema.ofTable table) = .ok .null ∨
      step.outputSchema (Schema.ofTable table) = .ok (Schema.ofTable result) := by
  rcases bind_eq_ok.mp applied with ⟨operation, validated, ran⟩
  rcases bind_eq_ok.mp validated with ⟨given, isStep, checked⟩
  rcases bind_eq_ok.mp checked with ⟨_, _, made⟩
  cases made
  rcases Operation.ofStep_cases isStep with ⟨isFilter, condition, strict, rfl⟩ |
    ⟨isSelect, columns, rfl, isGiven, _⟩ | ⟨isOrder, keys, rfl⟩ | ⟨isSql, _⟩
  · rcases bind_eq_ok.mp ran with ⟨indices, _, picked⟩
    cases picked
    right
    simp [outputSchema, isFilter, Schema.ofTable]
  · right
    have isProjected : table.project columns = .ok result := ran
    have selected := Schema.selectFields_of_project isProjected
    simpa [outputSchema, isSelect, Schema.ofTable, Schema.ofTypes, Datum.ofFields, Datum.valueAt?,
      isGiven] using selected
  · rcases bind_eq_ok.mp ran with ⟨indices, _, picked⟩
    cases picked
    right
    simp [outputSchema, isOrder, Schema.ofTable]
  · left
    simp [outputSchema, isSql]

end Step

/-- What is known of the schema of steps, once they succeed, is the schema of their result. -/
theorem schemaAfter_of_applyFrom {relation : String} {position : Nat} {table result : Table}
    {steps : List Step} (applied : applyFrom relation position table steps = .ok result) :
    Pipeline.schemaAfter (Schema.ofTable table) steps = .ok .null ∨
      Pipeline.schemaAfter (Schema.ofTable table) steps = .ok (Schema.ofTable result) := by
  induction steps generalizing position table with
  | nil =>
      cases applied
      exact .inr rfl
  | cons step steps induction =>
      rcases applyFrom_cons_eq_ok.mp applied with ⟨next, first, applied⟩
      rw [Pipeline.schemaAfter, Schema.isNull_ofTable, if_neg Bool.false_ne_true]
      rcases Step.outputSchema_of_apply first with unknown | known
      · left
        rw [unknown]
        cases steps <;> rfl
      · rw [known]
        exact induction applied

end TableBrowser
