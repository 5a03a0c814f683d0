import TableBrowser.Sql.Value
/-!
# Syntax of queries

A query reads one relation, perhaps one that it defines itself, keeps the rows
that a condition selects, groups and orders them, and computes its result
columns; or it lists its rows.
-/

namespace TableBrowser.Sql

inductive Binary where
  | and
  | or
  | equal
  | notEqual
  | less
  | lessOrEqual
  | greater
  | greaterOrEqual
  /-- Equality under which null equals null. -/
  | same
  | different
  | join
  | arithmetic (operation : Value.Arithmetic)
deriving DecidableEq, Repr

inductive Expr where
  | literal (value : Value)
  /-- A column under its name, perhaps after that of its relation. -/
  | name (qualifiers : List String) (name : String) (doubleQuoted : Bool)
  | call (function : String) (arguments : List Expr)
  /-- A function of whole rows. -/
  | callAll (function : String)
  | negative (operand : Expr)
  | positive (operand : Expr)
  | not (operand : Expr)
  | binary (operator : Binary) (left right : Expr)
deriving Inhabited

inductive Item where
  | all
  | allOf (relation : String)
  /-- An expression, the name that it is given, and its spelling. -/
  | expression (expression : Expr) (label : Option String) (written : String)

structure Source where
  qualifiers : List String
  relation : String
  label : Option String

structure OrderTerm where
  expression : Expr
  descending : Bool

structure Limit where
  count : Expr
  skipped : Option Expr

structure Select where
  items : List Item
  source : Option Source
  condition : Option Expr
  groups : List Expr
  order : List OrderTerm
  limit : Option Limit

inductive Body where
  | select (select : Select)
  | values (rows : List (List Expr))

/-- A relation that a query defines: its name, the names of its columns when they are given, its rows. -/
structure Definition where
  name : String
  columns : List String
  body : Body

structure Query where
  definitions : List Definition
  body : Body

/-! ## What can be wrong with a statement -/

inductive Problem where
  | unrecognized (token : String)
  | near (token : String)
  | incomplete
  | severalStatements
  | nullCharacter
  | noSuchTable (name : String)
  | noSuchColumn (name : String)
  | noSuchFunction (name : String)
  | argumentCount (function : String)
  | misplacedAggregate (function : String)
  | unexpectedAggregate (function : String)
  | labelledAggregate (label : String)
  | groupedAggregate
  | circular (definition : String)
  | noTables
  | unequalRows
  | definitionWidth (name : String) (values columns : Nat)
  | termOutOfRange (position : Nat) (clause : String) (columns : Nat)
  | datatypeMismatch
  | integerOverflow
  | duplicateColumn (name : String)
  | tooManyColumns (relation : String)
  | reservedName (name : String)
  | largeInteger
deriving DecidableEq, Repr

def ordinal (number : Nat) : String :=
  let ending :=
    if number % 100 / 10 = 1 then "th"
    else if number % 10 = 1 then "st"
    else if number % 10 = 2 then "nd"
    else if number % 10 = 3 then "rd"
    else "th"
  Decimal.natText number ++ ending

def Problem.message : Problem → String
  | .unrecognized token => "unrecognized token: \"" ++ token ++ "\""
  | .near token => "near \"" ++ token ++ "\": syntax error"
  | .incomplete => "incomplete input"
  | .severalStatements => "You can only execute one statement at a time."
  | .nullCharacter => "the query contains a null character"
  | .noSuchTable name => "no such table: " ++ name
  | .noSuchColumn name => "no such column: " ++ name
  | .noSuchFunction name => "no such function: " ++ name
  | .argumentCount function => "wrong number of arguments to function " ++ function ++ "()"
  | .misplacedAggregate function => "misuse of aggregate function " ++ function ++ "()"
  | .unexpectedAggregate function => "misuse of aggregate: " ++ function ++ "()"
  | .labelledAggregate label => "misuse of aliased aggregate " ++ label
  | .groupedAggregate => "aggregate functions are not allowed in the GROUP BY clause"
  | .circular definition => "circular reference: " ++ definition
  | .noTables => "no tables specified"
  | .unequalRows => "all VALUES must have the same number of terms"
  | .definitionWidth name values columns =>
      "table " ++ name ++ " has " ++ Decimal.natText values ++ " values for " ++
        Decimal.natText columns ++ " columns"
  | .termOutOfRange position clause columns =>
      ordinal position ++ " " ++ clause ++ " BY term out of range - should be between 1 and " ++
        Decimal.natText columns
  | .datatypeMismatch => "datatype mismatch"
  | .integerOverflow => "integer overflow"
  | .duplicateColumn name => "duplicate column name: " ++ name
  | .tooManyColumns relation => "too many columns on " ++ relation
  | .reservedName name => "object name reserved for internal use: " ++ name
  | .largeInteger => "Python int too large to convert to SQLite INTEGER"

/-! ## Names -/

/-- Names are equal when they differ in the case of ASCII letters only. -/
def sameName (left right : String) : Bool :=
  left.toList.map Char.toLower == right.toList.map Char.toLower

def listed (names : List String) (name : String) : Bool := names.any (sameName name)

end TableBrowser.Sql
