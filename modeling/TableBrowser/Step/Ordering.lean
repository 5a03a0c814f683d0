import TableBrowser.Step.Operation
import TableBrowser.Table.Basic
/-!
# Sorting rows

Rows are sorted by one key after the other, the least significant one first.
Each pass is stable and puts nulls last in both directions. A date counts as
the start of its day.

Before a pass, the cells are run through the comparisons of an insertion sort:
a rising or falling run at the start, and then every further cell by halving
what is in order already. The first two cells that do not compare are the clash
that is reported.
-/

namespace TableBrowser.Ordering

def sortValue : Datum → Datum
  | .date value => .moment (.ofDate value)
  | datum => datum

/-! ## Finding a clash -/

/-- The length of the run that a comparison continues, after the first of its members. -/
def runLength (falling : Bool) (previous : Datum) : List Datum → Except Clash Nat
  | [] => .ok 0
  | datum :: data => do
      if (← datum.less previous) == falling then return (← runLength falling datum data) + 1
      else return 0

/-- The place of a datum among sorted ones, after those that are equal to it. -/
def placeBetween (sorted : Array Datum) (datum : Datum) :
    (steps low high : Nat) → Except Clash Nat
  | 0, low, _ => .ok low
  | steps + 1, low, high =>
      if high ≤ low then .ok low
      else do
        let middle := low + (high - low) / 2
        if ← datum.less (sorted.getD middle .null) then placeBetween sorted datum steps low middle
        else placeBetween sorted datum steps (middle + 1) high

def insertAll (sorted : Array Datum) : List Datum → Except Clash Unit
  | [] => .ok ()
  | datum :: data => do
      let place ← placeBetween sorted datum (sorted.size + 1) 0 sorted.size
      insertAll (sorted.insertIdxIfInBounds place datum) data

/-- Makes the comparisons of a sort, and stops at the first clash. -/
def compareAll : List Datum → Except Clash Unit
  | [] => .ok ()
  | [_] => .ok ()
  | first :: second :: rest => do
      let falling ← second.less first
      let length ← runLength falling second rest
      let run := first :: second :: rest.take length
      let sorted := if falling then run.reverse else run
      insertAll sorted.toArray (rest.drop length)

/-- The clash that a sort of some cells meets; a falling sort starts from the last cell. -/
def clash? (direction : Direction) (cells : List Datum) : Option Clash :=
  let data := match direction with
    | .ascending => cells
    | .descending => cells.reverse
  match compareAll data with
  | .ok _ => none
  | .error clash => some clash

/-! ## Sorting -/

def comesBefore (left right : Datum) : Bool :=
  match left.less right with
  | .ok before => before
  | .error _ => false

def inOrder (direction : Direction) (left right : Datum) : Bool :=
  match direction with
  | .ascending => !comesBefore right left
  | .descending => !comesBefore left right

def sortBy (values : List Datum) (direction : Direction) (indices : List Nat) :
    Except Clash (List Nat) :=
  let cells := (values.map sortValue).toArray
  let cell (index : Nat) : Datum := cells[index]?.getD .null
  let present := indices.filter fun index => !(cell index).isNull
  let missing := indices.filter fun index => (cell index).isNull
  match clash? direction (present.map cell) with
  | some clash => .error clash
  | none =>
      .ok (present.mergeSort (fun left right => inOrder direction (cell left) (cell right)) ++ missing)

/-- The places of all rows of a table, sorted by keys of which the first counts most. -/
def sortedIndices (table : Table) : List SortKey → Outcome (List Nat)
  | [] => return List.range table.rowCount
  | key :: keys => do
      let indices ← sortedIndices table keys
      match table.column? key.column with
      | none => Operation.stepFails (.unknownColumn key.column table.header .order)
      | some column =>
          match sortBy column.values key.direction indices with
          | .ok sorted => return sorted
          | .error clash => Operation.stepFails (.unorderable key.column clash)

end TableBrowser.Ordering
