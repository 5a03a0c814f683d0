import TableBrowser.Datum.Basic
/-!
# Expressions

The language of filter conditions: literals and columns, arithmetic,
comparisons, tests of text, and the connectives of logic.
-/

namespace TableBrowser

inductive ArithmeticOperator where
  | add
  | subtract
  | multiply
  | divide
deriving DecidableEq, Repr

inductive ComparisonOperator where
  | equal
  | notEqual
  | less
  | lessOrEqual
  | greater
  | greaterOrEqual
deriving DecidableEq, Repr

inductive TextOperator where
  | contains
  | startsWith
  | endsWith
deriving DecidableEq, Repr

def ArithmeticOperator.symbol : ArithmeticOperator → String
  | .add => "+"
  | .subtract => "-"
  | .multiply => "*"
  | .divide => "/"

def ComparisonOperator.symbol : ComparisonOperator → String
  | .equal => "=="
  | .notEqual => "!="
  | .less => "<"
  | .lessOrEqual => "<="
  | .greater => ">"
  | .greaterOrEqual => ">="

def TextOperator.word : TextOperator → String
  | .contains => "contains"
  | .startsWith => "startswith"
  | .endsWith => "endswith"

inductive Expression where
  | literal (value : Datum)
  /-- A column, with its place in the source. -/
  | column (name : String) (position : Nat)
  | or (left right : Expression)
  | and (left right : Expression)
  | not (operand : Expression)
  | comparison (operator : ComparisonOperator) (left right : Expression)
  | textTest (operator : TextOperator) (left right : Expression)
  | arithmetic (operator : ArithmeticOperator) (left right : Expression)
  | negation (operand : Expression)
deriving DecidableEq

namespace Expression

/-- The names of the columns in the order of their places. -/
def columns : Expression → List String
  | literal _ => []
  | column name _ => [name]
  | or left right | and left right | comparison _ left right | textTest _ left right
  | arithmetic _ left right => left.columns ++ right.columns
  | not operand | negation operand => operand.columns

end Expression

end TableBrowser
