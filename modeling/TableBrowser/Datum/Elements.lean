import TableBrowser.Failure.Fault
/-!
# What a datum consists of

Parameters and options come as data of any kind. What is empty or zero counts
as false, and going through a datum yields items, keys or characters.
-/

namespace TableBrowser.Datum

def asInteger? : Datum → Option Int
  | .integer value => some value
  | _ => none

def asBoolean? : Datum → Option Bool
  | .boolean value => some value
  | _ => none

/-- The items of a list; other data have none. -/
def items : Datum → List Datum
  | .list items => items
  | _ => []

def isTruthy : Datum → Bool
  | .null | .boolean false | .text "" | .list [] | .mapping [] | .bytes [] => false
  | .integer value => value ≠ 0
  | .number value => !value.isZero
  | _ => true

/-- What going through a datum yields, one after the other. -/
def elements : Datum → Except Fault (List Datum)
  | .list items => .ok items
  | .mapping entries => .ok (entries.map (·.1))
  | .text value => .ok (value.toList.map fun char => .text (String.singleton char))
  | .bytes value => .ok (value.map fun byte => .integer byte.toNat)
  | datum => .error (.notIterable datum.kindName)

/-- The elements of a datum, none when it counts as false. -/
def elementsIfAny (datum : Datum) : Except Fault (List Datum) :=
  if datum.isTruthy then datum.elements else .ok []

/-! ## Mappings -/

def lengthProblem (index length : Nat) : Fault :=
  .badValue ("dictionary update sequence element #" ++ Decimal.natText index ++ " has length " ++
    Decimal.natText length ++ "; 2 is required")

/-- One of the pairs that make a mapping. -/
def pair (index : Nat) (datum : Datum) : Except Fault (Datum × Datum) :=
  match datum.elements with
  | .ok [.list _, _] => .error (.unhashable "list")
  | .ok [.mapping _, _] => .error (.unhashable "dict")
  | .ok [key, value] => .ok (key, value)
  | .ok items => .error (lengthProblem index items.length)
  | .error _ => .error (.badArgument ("cannot convert dictionary update sequence element #" ++
      Decimal.natText index ++ " to a sequence"))

/-- The entries of a mapping, also of one that is given by its pairs. -/
def entriesOf (datum : Datum) : Except Fault (List (Datum × Datum)) :=
  match datum with
  | .mapping entries => .ok entries
  | datum => do
      let pairs ← (← datum.elementsIfAny).zipIdx.mapM fun (item, index) => pair index item
      return pairs.foldl (fun entries (key, value) => put entries key value) []

/-! ## Long numbers -/

mutual

/-- A whole number inside has more digits than are ever written. -/
def hasLongInteger : Datum → Bool
  | .integer value => Nat.pow 10 Numeral.digitLimit ≤ value.natAbs
  | .list items => anyLongItem items
  | .mapping entries => anyLongEntry entries
  | _ => false

def anyLongItem : List Datum → Bool
  | [] => false
  | item :: items => hasLongInteger item || anyLongItem items

def anyLongEntry : List (Datum × Datum) → Bool
  | [] => false
  | (key, value) :: entries => hasLongInteger key || hasLongInteger value || anyLongEntry entries

end

/-- Fails for a datum that cannot be written for its numbers. -/
def checkDigits (datum : Datum) : Except Fault Unit :=
  if datum.hasLongInteger then .error .longInteger else .ok ()

end TableBrowser.Datum
