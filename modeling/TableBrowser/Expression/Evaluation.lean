import TableBrowser.Calendar.IsoText
import TableBrowser.Datum.Elements
import TableBrowser.Datum.Order
import TableBrowser.Expression.Syntax
import TableBrowser.Failure
import TableBrowser.Text.Basic
/-!
# Evaluating expressions

Nulls are equal to each other only and come neither before nor after anything;
arithmetic on a null is null, and so is division by zero. Two operands are
compared after they are brought to a common form: numbers with numbers, text
with text, and anything with a date, moment or time that can be read as one.
Where there is no common form they are unequal, and an ordering comparison is a
failure if the evaluation is strict and false if it is not.
-/

namespace TableBrowser.Expression

def isTrue : Datum → Bool
  | .null => false
  | .boolean value => value
  | .integer value => value ≠ 0
  | .number value => !value.isZero
  | .text value => !value.isEmpty
  | .date _ | .moment _ | .time _ => true
  | .bytes value => !value.isEmpty
  | .list items => !items.isEmpty
  | .mapping entries => !entries.isEmpty

def isNumber : Datum → Bool
  | .integer _ | .number _ => true
  | _ => false

/-! ## Comparison -/

/-- A date is the start of its day, and text is read as a moment. -/
def asTemporal? : Datum → Option Datum
  | .moment value => some (.moment value)
  | .time value => some (.time value)
  | .date value => some (.moment (.ofDate value))
  | .text value => (IsoText.moment? (Text.trim value)).map .moment
  | _ => none

def isTemporal : Datum → Bool
  | .date _ | .moment _ | .time _ => true
  | _ => false

def temporalPair? (left right : Datum) : Option (Datum × Datum) :=
  match asTemporal? left, asTemporal? right with
  | some (.moment left), some (.moment right) => some (.moment left, .moment right)
  | some (.time left), some (.time right) => some (.time left, .time right)
  | _, _ => none

/-- The common form of two operands that are not null. -/
def commonForm? (left right : Datum) : Option (Datum × Datum) :=
  if isNumber left && isNumber right then some (left, right)
  else match left, right with
    | .boolean _, .boolean _ => some (left, right)
    | .text _, .text _ => some (left, right)
    | _, _ => if isTemporal left || isTemporal right then temporalPair? left right else none

def equalOperands (left right : Datum) : Bool :=
  if left.isNull || right.isNull then left.isNull && right.isNull
  else match commonForm? left right with
    | some (left, right) => left.equal right
    | none => false

/-- Whole numbers that are too long to be written stop a message about them. -/
def failWith (problem : StepProblem) (operands : List Datum) : Outcome Datum :=
  match operands.forM Datum.checkDigits with
  | .ok _ => Outcome.fail (.step problem)
  | .error fault => Outcome.fault fault

/-- The order that an ordering operator asks for, between two data in common form. -/
def ordered (operator : ComparisonOperator) (left right : Datum) : Except Clash Bool :=
  match operator with
  | .less => left.less right
  | .greater => right.less left
  | .lessOrEqual => return (← left.less right) || left.equal right
  | .greaterOrEqual => return (← right.less left) || left.equal right
  | .equal => return left.equal right
  | .notEqual => return !left.equal right

def compareOperands (strict : Bool) (operator : ComparisonOperator) (left right : Datum) :
    Outcome Datum :=
  match operator with
  | .equal => return .boolean (equalOperands left right)
  | .notEqual => return .boolean (!equalOperands left right)
  | _ =>
      if left.isNull || right.isNull then return .boolean false
      else match commonForm? left right with
        | none =>
            if strict then failWith (.comparison operator.symbol left right) [left, right]
            else return .boolean false
        | some (formedLeft, formedRight) =>
            match ordered operator formedLeft formedRight with
            | .ok result => return .boolean result
            | .error clash => Outcome.fault (.incomparable clash)

/-! ## Arithmetic -/

/-- A number in the 64-bit format; a whole number too large for it is a fault. -/
def asBinary64 : Datum → Except Fault Binary64
  | .integer value =>
      let number := Binary64.ofInt value
      if number.isFinite then .ok number else .error .largeInteger
  | .number value => .ok value
  | _ => .ok .nan

def integerArithmetic (operator : ArithmeticOperator) (left right : Int) : Except Fault Datum :=
  match operator with
  | .add => .ok (.integer (left + right))
  | .subtract => .ok (.integer (left - right))
  | .multiply => .ok (.integer (left * right))
  | .divide =>
      let quotient := Binary64.ofRatio ((left < 0) != (right < 0)) left.natAbs right.natAbs
      if quotient.isFinite then .ok (.number quotient) else .error .largeQuotient

def binaryArithmetic (operator : ArithmeticOperator) (left right : Binary64) : Binary64 :=
  match operator with
  | .add => left.add right
  | .subtract => left.sub right
  | .multiply => left.mul right
  | .divide => left.div right

def isZeroNumber : Datum → Bool
  | .integer value => value = 0
  | .number value => value.isZero
  | _ => false

def numberArithmetic (operator : ArithmeticOperator) (left right : Datum) : Except Fault Datum :=
  match left, right with
  | .integer left, .integer right => integerArithmetic operator left right
  | _, _ => do
      let left ← asBinary64 left
      let right ← asBinary64 right
      return .number (binaryArithmetic operator left right)

def calculate (operator : ArithmeticOperator) (left right : Datum) : Outcome Datum :=
  if left.isNull || right.isNull then return .null
  else if isNumber left && isNumber right then
    if operator = .divide && isZeroNumber right then return .null
    else match numberArithmetic operator left right with
      | .ok result => return result
      | .error fault => Outcome.fault fault
  else match operator, left, right with
    | .add, .text left, .text right => return .text (left ++ right)
    | _, _, _ => failWith (.arithmetic operator.symbol left right) [left, right]

def negate : Datum → Outcome Datum
  | .null => return .null
  | .integer value => return .integer (-value)
  | .number value => return .number value.neg
  | value => failWith (.negation value) [value]

/-! ## Tests of text -/

/-- What a cell of the operand would show. -/
def operandText (datum : Datum) : Except Fault (List Char) := do
  datum.checkDigits
  return datum.cellText.toList

def textTestHolds : TextOperator → List Char → List Char → Bool
  | .contains, text, part => Text.occursIn part text
  | .startsWith, text, part => part.isPrefixOf text
  | .endsWith, text, part => part.isSuffixOf text

def testText (operator : TextOperator) (left right : Datum) : Outcome Datum :=
  if left.isNull || right.isNull then return .boolean false
  else
    match operandText left, operandText right with
    | .ok text, .ok part => return .boolean (textTestHolds operator text part)
    | .error fault, _ => Outcome.fault fault
    | _, .error fault => Outcome.fault fault

/-! ## Expressions -/

/-- The value of an expression in a row that is given by the cell of each column name. -/
def evaluate (strict : Bool) (cell : String → Datum) : Expression → Outcome Datum
  | literal value => return value
  | column name _ => return cell name
  | and left right => do
      if isTrue (← evaluate strict cell left) then
        return .boolean (isTrue (← evaluate strict cell right))
      else return .boolean false
  | or left right => do
      if isTrue (← evaluate strict cell left) then return .boolean true
      else return .boolean (isTrue (← evaluate strict cell right))
  | not operand => do return .boolean (!isTrue (← evaluate strict cell operand))
  | negation operand => do negate (← evaluate strict cell operand)
  | arithmetic operator left right => do
      let left ← evaluate strict cell left
      let right ← evaluate strict cell right
      calculate operator left right
  | comparison operator left right => do
      let left ← evaluate strict cell left
      let right ← evaluate strict cell right
      compareOperands strict operator left right
  | textTest operator left right => do
      let left ← evaluate strict cell left
      let right ← evaluate strict cell right
      testText operator left right

def holds (strict : Bool) (cell : String → Datum) (expression : Expression) : Outcome Bool := do
  return isTrue (← evaluate strict cell expression)

end TableBrowser.Expression
