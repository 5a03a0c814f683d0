import TableBrowser.Datum.Basic
/-!
# Comparing data

Numbers are compared by their place on the line, whatever their form, and a
truth value counts as 0 or 1. Text and bytes go by their first difference, and
so do lists. Dates, moments and times go by the calendar. Data that do not
compare raise a `Clash`.
-/

namespace TableBrowser

inductive Clash where
  /-- The names of the two kinds, the left one first. -/
  | kinds (left right : String)
  | dateWithMoment
  | momentOffsets
  | timeOffsets
deriving DecidableEq, Repr

namespace Clash

def message : Clash → String
  | .kinds left right =>
      "'<' not supported between instances of '" ++ left ++ "' and '" ++ right ++ "'"
  | .dateWithMoment => "can't compare datetime.datetime to datetime.date"
  | .momentOffsets => "can't compare offset-naive and offset-aware datetimes"
  | .timeOffsets => "can't compare offset-naive and offset-aware times"

end Clash

namespace Datum

def kindName : Datum → String
  | .null => "NoneType"
  | .boolean _ => "bool"
  | .integer _ => "int"
  | .number _ => "float"
  | .text _ => "str"
  | .date _ => "datetime.date"
  | .moment _ => "datetime.datetime"
  | .time _ => "datetime.time"
  | .bytes _ => "bytes"
  | .list _ => "list"
  | .mapping _ => "dict"

/-- The kind of a datum without the module it belongs to. -/
def className : Datum → String
  | .date _ => "date"
  | .moment _ => "datetime"
  | .time _ => "time"
  | datum => datum.kindName

/-- A number on the line; one that is not a number has no place there. -/
inductive Numeric where
  | nowhere
  | at (place : Binary64.Place)
deriving DecidableEq

def Numeric.less : Numeric → Numeric → Bool
  | .at left, .at right => left.lt right
  | _, _ => false

def Numeric.equal : Numeric → Numeric → Bool
  | .at left, .at right => left == right
  | _, _ => false

def numeric? : Datum → Option Numeric
  | .boolean value => some (.at (.ofInt (if value then 1 else 0)))
  | .integer value => some (.at (.ofInt value))
  | .number value => some (value.place?.elim .nowhere .at)
  | _ => none

def bytesLess : List UInt8 → List UInt8 → Bool
  | _, [] => false
  | [], _ :: _ => true
  | left :: lefts, right :: rights =>
      if left < right then true else if right < left then false else bytesLess lefts rights

def equalInstants : Option (Int × Int) → Bool
  | some (left, right) => left = right
  | none => false

mutual

/-- Equality of meaning: forms of the same number are equal, and nothing equals no number. -/
def equal : Datum → Datum → Bool
  | .list left, .list right => equalItems left right
  | .mapping left, .mapping right => left.length == right.length && equalEntries left right
  | .moment left, .moment right => equalInstants (left.comparable? right)
  | .time left, .time right => equalInstants (left.comparable? right)
  | left, right =>
      match left.numeric?, right.numeric? with
      | some leftNumber, some rightNumber => leftNumber.equal rightNumber
      | none, none => left.same right
      | _, _ => false

def equalItems : List Datum → List Datum → Bool
  | [], [] => true
  | left :: lefts, right :: rights => equal left right && equalItems lefts rights
  | _, _ => false

/-- Every entry on the left has its match on the right, in any order. -/
def equalEntries : List (Datum × Datum) → List (Datum × Datum) → Bool
  | [], _ => true
  | (key, value) :: entries, right =>
      right.any (fun other => equal key other.1 && equal value other.2) &&
        equalEntries entries right

end

def clash (left right : Datum) : Clash := .kinds left.kindName right.kindName

/-- The order of two instants that share a clock, or the clash of those that do not. -/
def lessInstants (clash : Clash) : Option (Int × Int) → Except Clash Bool
  | some (left, right) => .ok (left < right)
  | none => .error clash

mutual

def less : Datum → Datum → Except Clash Bool
  | .text left, .text right => .ok (left < right)
  | .bytes left, .bytes right => .ok (bytesLess left right)
  | .date left, .date right => .ok (left.key < right.key)
  | .date _, .moment _ => .error .dateWithMoment
  | .moment _, .date _ => .error .dateWithMoment
  | .moment left, .moment right => lessInstants .momentOffsets (left.comparable? right)
  | .time left, .time right => lessInstants .timeOffsets (left.comparable? right)
  | .list left, .list right => lessItems left right
  | left, right =>
      match left.numeric?, right.numeric? with
      | some leftNumber, some rightNumber => .ok (leftNumber.less rightNumber)
      | _, _ => .error (clash left right)

/-- Lists compare at their first difference, and a list that ends there comes first. -/
def lessItems : List Datum → List Datum → Except Clash Bool
  | _, [] => .ok false
  | [], _ :: _ => .ok true
  | left :: lefts, right :: rights =>
      if equal left right then lessItems lefts rights else less left right

end

end Datum

end TableBrowser
