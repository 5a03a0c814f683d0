import TableBrowser.Datum.Elements
import TableBrowser.Failure
import TableBrowser.Json.Writing
/-!
# Steps of a pipeline

A step is the name of an operation with parameters, which are data and may be
anything until the step is validated. Two steps are equal when their documents
are, whatever the order of the parameters.
-/

namespace TableBrowser

structure Step where
  operation : String
  params : List (Datum × Datum)
deriving Inhabited

namespace Step

def ofParams (operation : String) (params : List (String × Datum)) : Step where
  operation := operation
  params := params.map fun (name, value) => (.text name, value)

def param? (step : Step) (name : String) : Option Datum := Datum.valueAt? step.params name

/-- A parameter, null when it is not given. -/
def param (step : Step) (name : String) : Datum := (step.param? name).getD .null

def document (step : Step) : Datum :=
  Datum.ofFields [("op", .text step.operation), ("params", .mapping step.params)]

/-- The document in a form that does not depend on the order of entries, when they can be ordered. -/
def contentKey (step : Step) : Except Fault String :=
  match Json.orderedFault? step.document with
  | none => .ok (Json.form .byName step.document)
  | some fault => .error fault

def sameAs (left right : Step) : Except Fault Bool := do
  return (← left.contentKey) == (← right.contentKey)

/-- Step by step equality of lists. -/
def sameAll : List Step → List Step → Except Fault Bool
  | [], [] => .ok true
  | left :: lefts, right :: rights => do
      if ← left.sameAs right then sameAll lefts rights else return false
  | _, _ => .ok false

/-! ## Descriptions -/

/-- One of the two parts of a sort key, for display. -/
def keyPart (index : Nat) (key : Datum) : Except Fault Datum :=
  match key with
  | .list items => (items[index]?).elim (.error (.indexOutOfRange .row)) .ok
  | .text value =>
      (value.toList[index]?).elim (.error (.indexOutOfRange .text))
        fun char => .ok (.text (String.singleton char))
  | .bytes value =>
      (value[index]?).elim (.error (.indexOutOfRange .row)) fun byte => .ok (.integer byte.toNat)
  | .mapping entries =>
      ((entries.find? (·.1 = .integer index)).map (·.2)).elim
        (.error (.noSuchKey (.integer index))) .ok
  | key => .error (.notIndexed key.kindName)

def describedKey (key : Datum) : Except Fault String := do
  let name ← keyPart 0 key
  let direction ← keyPart 1 key
  return name.plainIn Datum.fixedStyle ++ ":" ++ direction.plainIn Datum.fixedStyle

def describedColumn (index : Nat) (column : Datum) : Except Fault String :=
  match column with
  | .text name => .ok name
  | .list _ => .error (.notText index "tuple")
  | .mapping _ => .error (.notText index "mappingproxy")
  | column => .error (.notText index column.kindName)

/-- A step in one line, in the form of a command. -/
def describe (step : Step) : Except Fault String :=
  if step.operation = "filter" then
    .ok ("filter " ++ (step.param "where").plainIn Datum.fixedStyle)
  else if step.operation = "select" then do
    let columns ← (step.param "columns").elementsIfAny
    let names ← (columns.mapIdx fun index column => (index, column)).mapM
      fun (index, column) => describedColumn index column
    return "select " ++ ",".intercalate names
  else if step.operation = "order" then do
    let keys ← (← (step.param "keys").elementsIfAny).mapM describedKey
    return "order " ++ ",".intercalate keys
  else if step.operation = "sql" then
    .ok ("sql " ++ (step.param "statement").plainIn Datum.fixedStyle)
  else
    .ok ("Transform(op=" ++ step.operation ++ ", params=" ++ (Datum.mapping step.params).quoted ++ ")")

end Step

end TableBrowser
