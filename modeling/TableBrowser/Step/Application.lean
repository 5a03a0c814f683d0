import TableBrowser.Step.Basic
import TableBrowser.Step.Ordering
import TableBrowser.Step.Querying
import TableBrowser.Table.Basic
/-!
# Applying steps

A step makes a new table of its input. The steps of a pipeline are applied one
after the other, and the first one that fails is named by its position.
-/

namespace TableBrowser

/-! ## Schemas

A schema is a document that names the columns of a table with their types. It
is known of a step's result as far as the step's parameters decide it; null
stands for a schema that is not known.
-/

namespace Schema

def field (name : String) (type : ColumnType) : Datum :=
  Datum.ofFields [("name", .text name), ("type", .text type.name)]

def ofTypes (types : List (String × ColumnType)) : Datum :=
  Datum.ofFields [("fields", .list (types.map fun (name, type) => field name type))]

def ofTable (table : Table) : Datum := ofTypes table.types

/-- The names of the fields that have one, when the document lists fields. -/
def names? (schema : Datum) : Option (List String) :=
  match schema.get "fields" with
  | .list fields => some (fields.filterMap fun field => (field.get "name").asText?)
  | _ => none

/-- A field under its name, the last one of that name. -/
def fieldNamed? (fields : List Datum) (name : Datum) : Option Datum :=
  fields.reverse.find? fun field => field.get "name" = name

def isField : Datum → Bool
  | .mapping _ => true
  | _ => false

/-- A mapping cannot be looked up among names. -/
def lookupKey : Datum → Except Fault Datum
  | .mapping _ => .error (.unhashable "mappingproxy")
  | key => .ok key

/-- The fields that a selection keeps, in its order. -/
def selectFields (columns fields : Datum) : Except Fault Datum := do
  match fields with
  | .list fields =>
      match fields.find? (!isField ·) with
      | some other => .error (.noAttribute other.kindName "get")
      | none =>
          let keys ← (← columns.elementsIfAny).mapM lookupKey
          return Datum.ofFields [("fields", .list (keys.filterMap (fieldNamed? fields)))]
  | .text value =>
      if value.isEmpty then return Datum.ofFields [("fields", .list [])]
      else .error (.noAttribute "str" "get")
  | .mapping [] => return Datum.ofFields [("fields", .list [])]
  | .mapping ((key, _) :: _) => .error (.noAttribute key.kindName "get")
  | fields => .error (.notIterable fields.kindName)

end Schema

namespace Step

/-- The schema of the step's result, from that of its input. -/
def outputSchema (step : Step) (schema : Datum) : Except Fault Datum :=
  if step.operation = "filter" ∨ step.operation = "order" then .ok schema
  else if step.operation = "select" then
    match schema with
    | .mapping entries =>
        match Datum.valueAt? entries "fields" with
        | some fields => Schema.selectFields (step.param "columns") fields
        | none => .ok schema
    | schema => .ok schema
  else .ok .null

end Step

/-! ## Results of steps -/

/-- The name under which queries read their input, unless another one is given. -/
def defaultRelation : String := "df"

/-- The cell of a row under the name of its column. -/
def cellNamed (header : List String) (row : List Datum) (name : String) : Datum :=
  (((header.zip row).find? (·.1 = name)).map (·.2)).getD .null

def satisfying (strict : Bool) (condition : Expression) (table : Table) : Outcome (List Nat) := do
  let rows ← table.rows.zipIdx.filterM fun (row, _) =>
    condition.holds strict (cellNamed table.header row)
  return rows.map (·.2)

def Operation.run (relation : String) (table : Table) : Operation → Outcome Table
  | .filter condition strict => do return table.pick (← satisfying strict condition table)
  | .select columns => table.project columns
  | .order keys => do return table.pick (← Ordering.sortedIndices table keys)
  | .sql statement => Querying.run relation statement table

/-- The result of a step on a table, after its parameters and columns are checked. -/
def Step.apply (relation : String) (table : Table) (step : Step) : Outcome Table := do
  (← step.validate (some table.header)).run relation table

/-- Applies steps of which the first one has the given position. -/
def applyFrom (relation : String) (position : Nat) (table : Table) : List Step → Outcome Table
  | [] => return table
  | step :: steps =>
      match step.apply relation table with
      | .ok next => applyFrom relation (position + 1) next steps
      | .error problem => .error (problem.atStep position)

/-- The view that steps make of a base table. -/
def applySteps (relation : String) (base : Table) (steps : List Step) : Outcome Table :=
  applyFrom relation 0 base steps

end TableBrowser
