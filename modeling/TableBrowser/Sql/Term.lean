import TableBrowser.Sql.Syntax
/-!
# Terms of queries

A term is an expression whose names are resolved: to columns of the relation
that is read, to result columns that have a label, or to text when the name is
in double quotes and stands for nothing else. Terms are computed for one row of
a group of rows; aggregates look at all rows of the group.
-/

namespace TableBrowser.Sql

inductive Aggregate where
  | count
  | sum
  | least
  | greatest
deriving DecidableEq, Repr

def Aggregate.ofName? (name : String) : Option Aggregate :=
  if sameName name "count" then some .count
  else if sameName name "sum" then some .sum
  else if sameName name "min" then some .least
  else if sameName name "max" then some .greatest
  else none

inductive Term where
  | literal (value : Value)
  | column (index : Nat) (affinity : Affinity)
  | negative (operand : Term)
  | positive (operand : Term)
  | not (operand : Term)
  | binary (operator : Binary) (left right : Term)
  | countRows (spelling : String)
  | aggregate (function : Aggregate) (spelling : String) (argument : Term)
deriving DecidableEq, Inhabited

namespace Term

/-- The last aggregate in a term, as it is spelled. -/
def aggregate? : Term → Option String
  | .literal _ | .column .. => none
  | .negative operand | .positive operand | .not operand => operand.aggregate?
  | .binary _ left right => right.aggregate? <|> left.aggregate?
  | .countRows spelling | .aggregate _ spelling _ => some spelling

/-- The affinity of a term: that of a column, and none of anything computed. -/
def affinity : Term → Affinity
  | .column _ affinity => affinity
  | _ => .none

/-- The smallest and greatest values that a term asks for. -/
def extremes : Term → List (Aggregate × Term)
  | .literal _ | .column .. | .countRows _ => []
  | .negative operand | .positive operand | .not operand => operand.extremes
  | .binary _ left right => left.extremes ++ right.extremes
  | .aggregate function _ argument =>
      if function = .least ∨ function = .greatest then [(function, argument)] else []

end Term

/-! ## Resolving names -/

structure RelationColumn where
  name : String
  affinity : Affinity
deriving DecidableEq

/-- What the names in an expression may refer to. -/
structure Scope where
  /-- The names that may stand before that of a column. -/
  qualifiers : List (List String)
  columns : List RelationColumn
  /-- Result columns under their labels. -/
  labels : List (String × Term)
  aggregates : Bool

namespace Scope

def nothing : Scope := ⟨[], [], [], false⟩

def sameNames (left right : List String) : Bool :=
  left.length = right.length && (left.zip right).all fun (left, right) => sameName left right

def column? (scope : Scope) (qualifiers : List String) (name : String) : Option Term :=
  if qualifiers.isEmpty || scope.qualifiers.any (sameNames qualifiers) then do
    let index ← scope.columns.findIdx? fun column => sameName column.name name
    let column ← scope.columns[index]?
    return .column index column.affinity
  else none

def label? (scope : Scope) (name : String) : Option Term :=
  (scope.labels.find? fun (label, _) => sameName label name).map (·.2)

/-- What a name means that is neither a column nor a label. -/
def wordMeaning (name : String) (doubleQuoted : Bool) : Except Problem Term :=
  if doubleQuoted then .ok (.literal (.text name))
  else if sameName name "true" then .ok (.literal (.integer 1))
  else if sameName name "false" then .ok (.literal (.integer 0))
  else .error (.noSuchColumn name)

def nameMeaning (scope : Scope) (qualifiers : List String) (name : String) (doubleQuoted : Bool) :
    Except Problem Term :=
  match scope.column? qualifiers name with
  | some term => .ok term
  | none =>
      if qualifiers.isEmpty then
        match scope.label? name with
        | some term =>
            if scope.aggregates || term.aggregate?.isNone then .ok term
            else .error (.labelledAggregate name)
        | none => wordMeaning name doubleQuoted
      else .error (.noSuchColumn (".".intercalate (qualifiers ++ [name])))

def callMeaning (scope : Scope) (function : String) (arguments : List Term) :
    Except Problem Term :=
  match Aggregate.ofName? function with
  | none => .error (.noSuchFunction function)
  | some aggregate =>
      if !scope.aggregates then .error (.misplacedAggregate function)
      else match aggregate, arguments with
        | .count, [] => .ok (.countRows function)
        | _, [argument] => .ok (.aggregate aggregate function argument)
        | _, _ => .error (.argumentCount function)

/-- A minus sign before a real that is written out belongs to it. -/
def negativeOf : Term → Term
  | .literal (.real value) => .literal (.real value.neg)
  | operand => .negative operand

/-- The scope of the arguments of a function; aggregates do not nest. -/
def ofArguments (scope : Scope) (function : String) : Scope :=
  if (Aggregate.ofName? function).isSome then { scope with aggregates := false } else scope

mutual

def resolve (scope : Scope) : Expr → Except Problem Term
  | .literal value => .ok (.literal value)
  | .name qualifiers name doubleQuoted => scope.nameMeaning qualifiers name doubleQuoted
  | .call function arguments => do
      let arguments ← resolveAll (scope.ofArguments function) arguments
      scope.callMeaning function arguments
  | .callAll function => scope.callMeaning function []
  | .negative operand => do return negativeOf (← resolve scope operand)
  | .positive operand => do return .positive (← resolve scope operand)
  | .not operand => do return .not (← resolve scope operand)
  | .binary operator left right => do
      return .binary operator (← resolve scope left) (← resolve scope right)

def resolveAll (scope : Scope) : List Expr → Except Problem (List Term)
  | [] => .ok []
  | expression :: expressions => do
      return (← resolve scope expression) :: (← resolveAll scope expressions)

end

end Scope

/-! ## Computing -/

abbrev Row := List Value

/-- Comparing with a numeric column, text that is a number counts as one. -/
def comparable (left right : Affinity) (value : Value) : Value :=
  if left = .none ∧ right = .none then value else value.numeric

def compareValues (operator : Binary) (left right : Value) : Value :=
  if left = .null || right = .null then .null
  else .ofBool (match operator with
    | .equal => left.equal right
    | .notEqual => !left.equal right
    | .less => left.less right
    | .lessOrEqual => !right.less left
    | .greater => right.less left
    | _ => !left.less right)

/-- False beats null, and null beats true. -/
def conjunction : Option Bool → Option Bool → Option Bool
  | some false, _ | _, some false => some false
  | some true, some true => some true
  | _, _ => none

def disjunction (left right : Option Bool) : Option Bool :=
  (conjunction (left.map (!·)) (right.map (!·))).map (!·)

def Binary.apply (operator : Binary) (leftAffinity rightAffinity : Affinity) (left right : Value) :
    Value :=
  match operator with
  | .and => .ofTruth (conjunction left.isTrue? right.isTrue?)
  | .or => .ofTruth (disjunction left.isTrue? right.isTrue?)
  | .join => if left = .null || right = .null then .null else .text (left.asText ++ right.asText)
  | .arithmetic operation => .calculate operation left right
  | .same =>
      .ofBool ((comparable leftAffinity rightAffinity left).equal
        (comparable leftAffinity rightAffinity right))
  | .different =>
      .ofBool (!(comparable leftAffinity rightAffinity left).equal
        (comparable leftAffinity rightAffinity right))
  | operator =>
      compareValues operator (comparable leftAffinity rightAffinity left)
        (comparable leftAffinity rightAffinity right)

/-- A sum so far: exact while all its parts are whole, and always as a real. -/
structure Total where
  exact : Option Int
  rounded : Binary64

/-- Adds a value that is not null; text counts as a real unless it is a whole number. -/
def Total.add (total : Total) (value : Value) : Total where
  exact := match total.exact, value.numeric with
    | some sum, .integer part => some (sum + part)
    | _, _ => none
  rounded := total.rounded.add value.asBinary64

/-- The sum of values, null when there are none; partial sums of whole numbers have to fit. -/
def sumOf (values : List Value) : Except Problem Value :=
  match values with
  | [] => .ok .null
  | values =>
      let total := values.foldl Total.add ⟨some 0, .zero⟩
      match total.exact with
      | none => .ok (.ofBinary64 total.rounded)
      | some sum =>
          if partialSumsFit 0 values then .ok (.integer sum) else .error .integerOverflow
where
  partialSumsFit (sum : Int) : List Value → Bool
    | [] => true
    | value :: values =>
        match value.numeric with
        | .integer part => Value.fits (sum + part) && partialSumsFit (sum + part) values
        | _ => partialSumsFit sum values

/-- Whether a value is further out than another one. -/
def Aggregate.exceeds (function : Aggregate) (value best : Value) : Bool :=
  match function with
  | .least => value.less best
  | _ => best.less value

/-- The first of the furthest values that are not null, and its place. -/
def Aggregate.extreme? (function : Aggregate) (values : List Value) : Option (Nat × Value) :=
  values.zipIdx.foldl (fun best (value, index) =>
    if value = .null then best
    else match best with
      | none => some (index, value)
      | some (_, furthest) =>
          if function.exceeds value furthest then some (index, value) else best) none

def Aggregate.of (function : Aggregate) (values : List Value) : Except Problem Value :=
  let present := values.filter (· ≠ .null)
  match function with
  | .count => .ok (.integer present.length)
  | .sum => sumOf present
  | .least | .greatest => .ok (((function.extreme? values).map (·.2)).getD .null)

namespace Term

def value (group : List Row) (row : Row) : Term → Except Problem Value
  | .literal value => .ok value
  | .column index _ => .ok (row.getD index .null)
  | .negative operand => do return (← operand.value group row).negate
  | .positive operand => operand.value group row
  | .not operand => do return .ofTruth ((← operand.value group row).isTrue?.map (!·))
  | .binary operator left right => do
      let leftValue ← left.value group row
      let rightValue ← right.value group row
      return operator.apply left.affinity right.affinity leftValue rightValue
  | .countRows _ => .ok (.integer group.length)
  | .aggregate function _ argument => do
      function.of (← group.mapM fun row => argument.value [] row)

end Term

end TableBrowser.Sql
