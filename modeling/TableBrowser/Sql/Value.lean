import TableBrowser.Datum.Order
import TableBrowser.Datum.Display
import TableBrowser.Number.Decimal
import TableBrowser.Text.Basic
/-!
# Values of queries

A query works on nulls, whole numbers of 64 bits, reals, text and bytes. Values
of different kinds are ordered by kind, numbers by their place on the line.
-/

namespace TableBrowser.Sql

inductive Value where
  | null
  | integer (value : Int)
  | real (value : Binary64)
  | text (value : String)
  | blob (value : List UInt8)
deriving DecidableEq, Inhabited

namespace Value

def toDatum : Value → Datum
  | .null => .null
  | .integer value => .integer value
  | .real value => .number value
  | .text value => .text value
  | .blob value => .bytes value

def fits (value : Int) : Bool := -Int.pow 2 63 ≤ value && value < Int.pow 2 63

/-- A real; what is not a number is null. -/
def ofBinary64 (value : Binary64) : Value := if value.isNaN then .null else .real value

/-- A whole number, or the nearest real when it does not fit. -/
def ofInt (value : Int) : Value :=
  if fits value then .integer value else ofBinary64 (Binary64.ofInt value)

/-! ## Numbers in text -/

/-- The longest numeral that starts some characters, and what follows it. -/
def numeral (chars : List Char) : List Char × List Char :=
  let sign := match chars with
    | '-' :: _ => ['-']
    | '+' :: _ => ['+']
    | _ => []
  let afterSign := chars.drop sign.length
  let whole := afterSign.takeWhile Decimal.isDigit
  let afterWhole := afterSign.drop whole.length
  let fraction := match afterWhole with
    | '.' :: rest => '.' :: rest.takeWhile Decimal.isDigit
    | _ => []
  let afterFraction := afterWhole.drop fraction.length
  if whole.isEmpty && fraction.length < 2 then ([], chars)
  else
    let exponent := exponentPart afterFraction
    (sign ++ whole ++ fraction ++ exponent, afterFraction.drop exponent.length)
where
  /-- A letter, an optional sign and digits; nothing when there are no digits. -/
  exponentPart : List Char → List Char
    | letter :: rest =>
        if letter = 'e' ∨ letter = 'E' then
          let sign := match rest with
            | '-' :: _ => ['-']
            | '+' :: _ => ['+']
            | _ => []
          let digits := (rest.drop sign.length).takeWhile Decimal.isDigit
          if digits.isEmpty then [] else letter :: sign ++ digits
        else []
    | [] => []

/-- The value of a numeral: whole when it has neither point nor exponent. -/
def ofNumeral (chars : List Char) : Value :=
  let (negative, magnitude) := Numeral.splitSign chars
  match Decimal.value? magnitude with
  | some value => ofInt (if negative then -(value : Int) else value)
  | none => ((Numeral.decimal? negative magnitude).map .real).getD (.integer 0)

/-- The number that text starts with, zero when it starts with none. -/
def leadingNumber (chars : List Char) : Value :=
  ofNumeral (numeral (chars.dropWhile Numeral.isSpace)).1

/-- The number that text consists of, blanks around it aside. -/
def wholeNumber? (text : String) : Option Value :=
  let (number, rest) := numeral (text.toList.dropWhile Numeral.isSpace)
  if number.isEmpty || !rest.all Numeral.isSpace then none else some (ofNumeral number)

example : wholeNumber? " 12 " = some (.integer 12) := by decide
example : wholeNumber? "1x" = none := by decide

/-- The numeric reading of a value that is not null. -/
def asNumber : Value → Value
  | .text value => leadingNumber value.toList
  | .blob value => leadingNumber (value.map fun byte => Char.ofNat byte.toNat)
  | value => value

def asBinary64 (value : Value) : Binary64 :=
  match value.asNumber with
  | .integer value => Binary64.ofInt value
  | .real value => value
  | _ => .zero

/-! ## Affinities -/

end Value

/-- What a column prefers to hold. -/
inductive Affinity where
  | integer
  | real
  | text
  | none
deriving DecidableEq, Repr

/-- A real that is a whole number of 64 bits becomes one. -/
def Value.integral : Value → Value
  | .real value =>
      match (if value.isIntegral then value.truncate else none) with
      | some whole => if fits whole then .integer whole else .real value
      | none => .real value
  | value => value

/-- Text that is a number becomes that number. -/
def Value.numeric : Value → Value
  | .text written => (wholeNumber? written).getD (.text written)
  | value => value

/-- A whole number becomes a real, and a negative zero a positive one. -/
def Value.asReal : Value → Value
  | .integer value => .real (Binary64.ofInt value)
  | .real value => if value.isZero then .real .zero else .real value
  | value => value

def realDigits : Nat := 15

/-- A number of units as at most that many digits and a power of ten, without zeros at the end. -/
def roundedDigits (units : Nat) : Decimal.Scaled :=
  let shortest := Decimal.shortest units
  let excess : Int := (Decimal.digits shortest.digits).length - realDigits
  if excess ≤ 0 then shortest
  else
    let exponent := shortest.exponent + excess
    let (power, divisor) := Decimal.powerOfTen exponent
    let digits := roundHalfEven (units * divisor) (Binary64.unitsPerOne * power)
    let zeros := ((Decimal.digits digits).reverse.takeWhile (· = '0')).length
    ⟨digits / Nat.pow 10 zeros, exponent + zeros⟩

def realLayout : Decimal.NumberLayout where
  positionalFrom := -4
  positionalBelow := 15
  exponentDigits := 2
  notANumber := ""
  infinity := "Inf"
  mantissaFraction := true

/-- The text of a real, with a point in it. -/
def realText : Binary64 → String
  | .finite negative units _ =>
      if units = 0 then "0.0"
      else (if negative then "-" else "") ++ Decimal.scaledText realLayout (roundedDigits units)
  | value => Decimal.numberText realLayout value

def Value.spelled : Value → Value
  | .integer value => .text (Decimal.intText value)
  | .real value => .text (realText value)
  | value => value

/-- The value that a column holds when it is given another one. -/
def Affinity.store (affinity : Affinity) (value : Value) : Value :=
  match affinity with
  | .none => value
  | .text => value.spelled
  | .integer => value.numeric.integral
  | .real => value.numeric.asReal

/-- What a column prefers, by words in its declared type. -/
def Affinity.ofDeclared (declared : String) : Affinity :=
  let holds (word : String) : Bool := Text.occursIn word.toList (declared.toList.map Char.toUpper)
  if holds "INT" then .integer
  else if ["CHAR", "CLOB", "TEXT"].any holds then .text
  else if declared.isEmpty || holds "BLOB" then .none
  else if ["REAL", "FLOA", "DOUB"].any holds then .real
  else .integer

namespace Value

/-! ## Order -/

/-- Nulls come before numbers, then text, then bytes. -/
def rank : Value → Nat
  | .null => 0
  | .integer _ | .real _ => 1
  | .text _ => 2
  | .blob _ => 3

def less (left right : Value) : Bool :=
  if left.rank = right.rank then
    match left.toDatum.less right.toDatum with
    | .ok before => before
    | .error _ => false
  else left.rank < right.rank

/-- Whether neither of two values comes before the other. -/
def equal (left right : Value) : Bool := !left.less right && !right.less left

/-! ## Truth -/

def ofBool (value : Bool) : Value := .integer (if value then 1 else 0)

/-- Null is neither true nor false; anything else is true unless it reads as zero. -/
def isTrue? (value : Value) : Option Bool :=
  match value with
  | .null => none
  | value => some (!value.asBinary64.isZero)

def ofTruth : Option Bool → Value
  | none => .null
  | some truth => ofBool truth

/-! ## Arithmetic -/

inductive Arithmetic where
  | add
  | subtract
  | multiply
  | divide
deriving DecidableEq, Repr

def Arithmetic.onReals : Arithmetic → Binary64 → Binary64 → Value
  | .add, left, right => ofBinary64 (left.add right)
  | .subtract, left, right => ofBinary64 (left.sub right)
  | .multiply, left, right => ofBinary64 (left.mul right)
  | .divide, left, right => if right.isZero then .null else ofBinary64 (left.div right)

/-- Whole numbers stay whole unless the result does not fit. -/
def Arithmetic.onIntegers (operation : Arithmetic) (left right : Int) : Value :=
  let exact := match operation with
    | .add => left + right
    | .subtract => left - right
    | .multiply => left * right
    | .divide => Int.tdiv left right
  if operation = .divide && right = 0 then .null
  else if fits exact then .integer exact
  else operation.onReals (Binary64.ofInt left) (Binary64.ofInt right)

def calculate (operation : Arithmetic) (left right : Value) : Value :=
  if left = .null || right = .null then .null
  else match left.asNumber, right.asNumber with
    | .integer left, .integer right => operation.onIntegers left right
    | left, right => operation.onReals left.asBinary64 right.asBinary64

def negate (value : Value) : Value := calculate .subtract (.integer 0) value

def asText : Value → String
  | .null => ""
  | .integer value => Decimal.intText value
  | .real value => realText value
  | .text value => value
  | .blob value => String.ofList (value.map fun byte => Char.ofNat byte.toNat)

end Value

end TableBrowser.Sql
