import TableBrowser.Sql.Parser
import TableBrowser.Sql.Term
/-!
# Evaluating queries

The rows of the relation that a query reads are selected by its condition, put
into groups when it groups or aggregates, sorted, and cut to its limit. Groups
come in the order of their keys, falling where as many sort terms do. A column
of a group is that of its first row, or of the row that holds the last of the
extreme values that the query asks for.
-/

namespace TableBrowser.Sql

structure Relation where
  name : String
  columns : List RelationColumn
  rows : List Row

/-- What a query results in; a column has a name and an affinity, as a column of a relation has. -/
structure Answer where
  columns : List RelationColumn
  /-- The names of the columns for a query that reads the answer as a relation. -/
  definedNames : List String
  rows : List Row

/-! ## Names of result columns -/

/-- The part of a name before a colon and digits at its end. -/
def withoutNumber (name : String) : String :=
  let reversed := name.toList.reverse
  let digits := reversed.takeWhile Decimal.isDigit
  match reversed.drop digits.length with
  | ':' :: rest => if digits.isEmpty then name else String.ofList rest.reverse
  | _ => name

/-- The name with the first number that no earlier name has. -/
def numberedName (used : List String) (base : String) : (attempts number : Nat) → String
  | 0, number => base ++ ":" ++ Decimal.natText number
  | attempts + 1, number =>
      let name := base ++ ":" ++ Decimal.natText number
      if listed used name then numberedName used base attempts (number + 1) else name

/-- Names made distinct, as the columns of a defined relation have to be. -/
def distinctNames (used : List String) : List String → List String
  | [] => []
  | name :: names =>
      let chosen :=
        if listed used name then numberedName used (withoutNumber name) used.length 1 else name
      chosen :: distinctNames (chosen :: used) names

/-- The names of columns without any, by their place. -/
def placeName (index : Nat) : String := "column" ++ Decimal.natText (index + 1)

/-- The columns of an answer as those of a defined relation. -/
def Answer.definedColumns (answer : Answer) (given : List String) : List RelationColumn :=
  let names := if given.isEmpty then answer.definedNames.mapIdx fun index name =>
      if listed ["true", "false"] name then placeName index else name
    else given
  (distinctNames [] names).zip answer.columns |>.map fun (name, column) => { column with name }

/-! ## Result columns -/

structure ResultColumn where
  name : String
  definedName : String
  /-- Whether the name was given by the query. -/
  labelled : Bool
  term : Term

/-- What a query reads: the scope of its names, and rows. -/
structure Input where
  scope : Scope
  rows : List Row

/-- Without a relation there is one row, which has no columns. -/
def Input.nothing : Input := ⟨Scope.nothing, [[]]⟩

def allColumns (scope : Scope) : List ResultColumn :=
  scope.columns.mapIdx fun index column =>
    ⟨column.name, column.name, false, .column index column.affinity⟩

def resultName (scope : Scope) (term : Term) (written : String) : String :=
  match term with
  | .column index _ => ((scope.columns[index]?).map RelationColumn.name).getD written
  | _ => written

/-- A defined relation has the names of its columns as they are spelled. -/
def definedName (expression : Expr) (written : String) : String :=
  match expression with
  | .name _ name _ => name
  | _ => written

/-- Stars are looked at before any name is. -/
def checkStar (scope : Scope) : Item → Except Problem Unit
  | .all => if scope.columns.isEmpty then .error .noTables else .ok ()
  | .allOf relation =>
      if scope.qualifiers.any (Scope.sameNames [relation]) then .ok ()
      else .error (.noSuchTable relation)
  | .expression .. => .ok ()

def resultColumns (scope : Scope) : Item → Except Problem (List ResultColumn)
  | .all => .ok (allColumns scope)
  | .allOf _ => .ok (allColumns scope)
  | .expression expression label written => do
      let term ← scope.resolve expression
      return [match label with
        | some label => ⟨label, label, true, term⟩
        | none =>
            ⟨resultName scope term written, definedName expression written, false, term⟩]

/-! ## Terms of clauses -/

def literalInteger? : Expr → Option Int
  | .literal (.integer value) => some value
  | .negative operand => (literalInteger? operand).map (- ·)
  | .positive operand => literalInteger? operand
  | _ => none

/-- The result column at a position that a clause names by its number. -/
def columnAt (columns : List ResultColumn) (clause : String) (place : Nat) (number : Int) :
    Except Problem Term :=
  if number < 1 then .error (.termOutOfRange (place + 1) clause columns.length)
  else match columns[number.toNat - 1]? with
    | some column => .ok column.term
    | none => .error (.termOutOfRange (place + 1) clause columns.length)

/-- A result column under a label that is used alone. -/
def labelled? (columns : List ResultColumn) : Expr → Option Term
  | .name [] name _ =>
      (columns.find? fun column => column.labelled && sameName column.name name).map (·.term)
  | _ => none

/-- Checks the names of a term before the ranges of numbers are. -/
def checkTermNames (scope : Scope) (columns : List ResultColumn) (clause : String)
    (byLabel : Bool) (place : Nat) (expression : Expr) : Except Problem Unit :=
  if byLabel && (labelled? columns expression).isSome then .ok ()
  else match literalInteger? expression with
    | some number =>
        if number < 1 then .error (.termOutOfRange (place + 1) clause columns.length) else .ok ()
    | none => do
        let _ ← scope.resolve expression

def orderTermOf (scope : Scope) (columns : List ResultColumn) (place : Nat) (expression : Expr) :
    Except Problem Term :=
  match labelled? columns expression with
  | some term => .ok term
  | none =>
      match literalInteger? expression with
      | some number => columnAt columns "ORDER" place number
      | none => scope.resolve expression

def groupTermOf (scope : Scope) (columns : List ResultColumn) (place : Nat) (expression : Expr) :
    Except Problem Term := do
  let term ← match literalInteger? expression with
    | some number => columnAt columns "GROUP" place number
    | none => scope.resolve expression
  if term.aggregate?.isSome then throw .groupedAggregate
  return term

/-- Aggregates stand in result columns and sort terms of queries that have groups, and nowhere else. -/
def refuseAggregates (term : Term) : Except Problem Unit :=
  match term.aggregate? with
  | some spelling => .error (.unexpectedAggregate spelling)
  | none => .ok ()

def rowCountOf (value : Value) : Except Problem Int :=
  match value.numeric.integral with
  | .integer value => .ok value
  | _ => .error .datatypeMismatch

structure ResolvedLimit where
  count : Term
  skipped : Term

def resolveLimit (limit : Limit) : Except Problem ResolvedLimit := do
  let count ← Scope.nothing.resolve limit.count
  let skipped ← match limit.skipped with
    | some skipped => Scope.nothing.resolve skipped
    | none => pure (.literal (.integer 0))
  return { count, skipped }

/-- The rows from a number of skipped ones on; a negative count is no limit. -/
def ResolvedLimit.cut {α : Type} (limit : ResolvedLimit) (rows : List α) :
    Except Problem (List α) := do
  let count ← rowCountOf (← limit.count.value [] [])
  let skipped ← rowCountOf (← limit.skipped.value [] [])
  let rest := rows.drop skipped.toNat
  return if count < 0 then rest else rest.take count.toNat

/-! ## Sorting and grouping -/

/-- Sort keys, of which the first difference decides. -/
def keysLess : List Bool → List Value → List Value → Bool
  | descending :: flags, left :: lefts, right :: rights =>
      if left.less right then !descending
      else if right.less left then descending
      else keysLess flags lefts rights
  | _, _, _ => false

def sortByKeys {α : Type} (descending : List Bool) (items : List (List Value × α)) :
    List (List Value × α) :=
  items.mergeSort fun left right => !keysLess descending right.1 left.1

def sameKeys (left right : List Value) : Bool :=
  (left.zip right).all fun (left, right) => left.equal right

def splitGroups : List (List Value × Row) → List (List Row)
  | [] => []
  | (keys, row) :: rest =>
      match rest, splitGroups rest with
      | (next, _) :: _, group :: groups =>
          if sameKeys keys next then (row :: group) :: groups else [row] :: group :: groups
      | _, groups => [row] :: groups

/-- Which row of a group stands for it in terms outside of aggregates. -/
def representative (extremes : List (Aggregate × Term)) (group : List Row) :
    Except Problem Row :=
  match extremes.eraseDups.getLast? with
  | none => .ok (group.headD [])
  | some (function, argument) => do
      let values ← group.mapM fun row => argument.value [] row
      let place := ((function.extreme? values).map (·.1)).getD (group.length - 1)
      return group.getD place []

/-- The directions of group keys: those of sort terms when there are as many. -/
def groupDirections (groups : List Term) (order : List Bool) : List Bool :=
  if groups.length = order.length then order else groups.map fun _ => false

/-! ## Selecting -/

/-- The groups of the selected rows, each with the row that stands for it. -/
def groupRows (aggregated : Bool) (groups : List Term) (descending : List Bool)
    (extremes : List (Aggregate × Term)) (rows : List Row) : Except Problem (List (List Row × Row)) :=
  if groups.isEmpty then
    if aggregated then do return [(rows, ← representative extremes rows)]
    else .ok (rows.map fun row => ([row], row))
  else do
    let keyed ← rows.mapM fun row => do
      return (← groups.mapM (·.value [] row), row)
    let sorted := sortByKeys (groupDirections groups descending) keyed
    (splitGroups sorted).mapM fun group => do
      return (group, ← representative extremes group)

def selectRows (condition : Option Term) (rows : List Row) : Except Problem (List Row) :=
  match condition with
  | none => .ok rows
  | some term => rows.filterM fun row => do
      return ((← term.value [] row).isTrue?).getD false

/-- The answer of a query that reads the given input. -/
def selectFrom (input : Input) (select : Select) : Except Problem Answer := do
  select.items.forM (checkStar input.scope)
  let limit ← select.limit.mapM resolveLimit
  let scope := { input.scope with aggregates := true }
  let columns := (← select.items.mapM (resultColumns scope)).flatten
  let aggregated := !select.groups.isEmpty || columns.any (·.term.aggregate?.isSome)
  let labels := (columns.filter (·.labelled)).map fun column => (column.name, column.term)
  let scope := { scope with labels }
  let condition ← select.condition.mapM ({ scope with aggregates := aggregated }).resolve
  condition.forM refuseAggregates
  let orderTerms := select.order.mapIdx fun place term => (place, term)
  orderTerms.forM fun (place, term) =>
    checkTermNames scope columns "ORDER" true place term.expression
  let order ← orderTerms.mapM fun (place, term) => do
    return (← orderTermOf scope columns place term.expression, term.descending)
  let groupTerms := select.groups.mapIdx fun place term => (place, term)
  groupTerms.forM fun (place, term) => checkTermNames scope columns "GROUP" false place term
  let groups ← groupTerms.mapM fun (place, term) => groupTermOf scope columns place term
  if !aggregated then order.reverse.forM fun (term, _) => refuseAggregates term
  let terms := columns.map (·.term)
  let extremes := (terms ++ order.map (·.1)).flatMap Term.extremes
  let selected ← selectRows condition input.rows
  let results ← (← groupRows aggregated groups (order.map (·.2)) extremes selected).mapM fun (group, row) => do
    let keys ← order.mapM fun (term, _) => term.value group row
    return (keys, ← terms.mapM (·.value group row))
  let sorted := (sortByKeys (order.map (·.2)) results).map (·.2)
  let rows ← match limit with
    | some limit => limit.cut sorted
    | none => pure sorted
  return ⟨columns.map fun column => ⟨column.name, column.term.affinity⟩,
    columns.map (·.definedName), rows⟩

def valuesAnswer (rows : List (List Expr)) : Except Problem Answer := do
  let width := (rows.head?.map List.length).getD 0
  if rows.any (·.length ≠ width) then throw .unequalRows
  let terms ← rows.mapM fun row => row.mapM Scope.nothing.resolve
  let values ← terms.mapM fun row => row.mapM (·.value [] [])
  let names := (List.range width).map placeName
  return ⟨names.map fun name => ⟨name, .none⟩, names, values⟩

/-! ## Relations -/

def inputOf (source : Source) (columns : List RelationColumn) (rows : List Row)
    (stored : Bool) : Input :=
  let qualifiers := match source.label with
    | some label => [[label]]
    | none => [source.relation] :: (if stored then [["main", source.relation]] else [])
  ⟨⟨qualifiers, columns, [], false⟩, rows⟩

def storedInput (relations : List Relation) (source : Source) : Except Problem Input :=
  let allowed := source.qualifiers.isEmpty || Scope.sameNames source.qualifiers ["main"]
  match relations.find? fun relation => allowed && sameName relation.name source.relation with
  | some relation => .ok (inputOf source relation.columns relation.rows true)
  | none => .error (.noSuchTable (".".intercalate (source.qualifiers ++ [source.relation])))

/--
The answer of a body. A definition is evaluated where its relation is read, and
may not read itself; `depth` bounds how deep definitions read each other.
-/
def evaluateBody (relations : List Relation) (definitions : List Definition) :
    (depth : Nat) → (outer : List String) → Body → Except Problem Answer
  | _, _, .values rows => valuesAnswer rows
  | depth, outer, .select select =>
      match select.source with
      | none => selectFrom Input.nothing select
      | some source =>
          let defined := if source.qualifiers.isEmpty then
              definitions.find? fun definition => sameName definition.name source.relation
            else none
          match defined, depth with
          | none, _ => do selectFrom (← storedInput relations source) select
          | some definition, 0 => .error (.circular definition.name)
          | some definition, depth + 1 =>
              if listed outer definition.name then .error (.circular definition.name)
              else do
                let answer ← evaluateBody relations definitions depth (definition.name :: outer)
                  definition.body
                let given := definition.columns
                if !given.isEmpty && given.length ≠ answer.columns.length then
                  throw (.definitionWidth definition.name answer.columns.length given.length)
                selectFrom (inputOf source (answer.definedColumns given) answer.rows false) select

def run (relations : List Relation) (statement : String) : Except Problem Answer := do
  let parsed ← parse statement.toList
  let query := parsed.query
  let answer ← evaluateBody relations query.definitions (query.definitions.length + 1) [] query.body
  if parsed.continued then throw .severalStatements
  return answer

end TableBrowser.Sql
