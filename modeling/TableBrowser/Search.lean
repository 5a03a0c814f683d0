import TableBrowser.Pattern.Matching
import TableBrowser.Table.Basic
import TableBrowser.Text.Basic
/-!
# Searching a view

A search finds the cells whose text contains the query, matches it as a pattern,
or is similar enough to it. Cells are found row by row; similar cells come by
falling score. A search keeps the cells it found and which of them is current.
-/

namespace TableBrowser

structure Coordinate where
  row : Nat
  column : Nat
deriving DecidableEq, Repr, Inhabited

/-- Whether a cell comes before another one, row by row. -/
def Coordinate.before (left right : Coordinate) : Bool :=
  left.row < right.row || (left.row = right.row && left.column < right.column)

namespace Search

inductive Mode where
  | literal
  | regex
  | fuzzy
deriving DecidableEq, Repr

namespace Mode

def all : List Mode := [.literal, .regex, .fuzzy]

def name : Mode → String
  | .literal => "literal"
  | .regex => "regex"
  | .fuzzy => "fuzzy"

def ofName? (name : String) : Option Mode := all.find? (·.name = name)

def named (name : String) : Outcome Mode :=
  match ofName? name with
  | some mode => return mode
  | none => Outcome.fail (.search (.unknownMode name))

/-- The mode that comes after another one, around. -/
def next : Mode → Mode
  | .literal => .regex
  | .regex => .fuzzy
  | .fuzzy => .literal

end Mode

structure Query where
  text : String := ""
  mode : Mode := .literal
  caseSensitive : Bool := false
deriving DecidableEq, Repr, Inhabited

/-! ## Finding cells -/

/-- The cells of a view with their text, row by row. -/
def cells (view : Table) : List (Coordinate × String) :=
  view.rows.zipIdx.flatMap fun (row, rowIndex) =>
    row.zipIdx.map fun (cell, columnIndex) => (⟨rowIndex, columnIndex⟩, cell.cellText)

def cellsWhere (holds : String → Bool) (view : Table) : List Coordinate :=
  ((cells view).filter fun (_, text) => holds text).map (·.1)

def containing (caseSensitive : Bool) (query : String) (view : Table) : List Coordinate :=
  let folded (text : String) : List Char :=
    if caseSensitive then text.toList else (Text.lower text).toList
  cellsWhere (fun text => Text.occursIn (folded query) (folded text)) view

def pattern (caseSensitive : Bool) (text : String) : Outcome Pattern :=
  match PatternText.parse (!caseSensitive) text with
  | .ok pattern => return pattern
  | .error (.error error) => Outcome.fail (.search (.badPattern error text))
  | .error (.fault fault) => Outcome.fault fault

/-- Cells that are not empty and score at least the threshold, best first. -/
def similarTo (caseSensitive : Bool) (query : String) (threshold : Binary64) (view : Table) :
    List Coordinate :=
  let scored := ((cells view).filter fun (_, text) => !text.isEmpty).map
    fun (coordinate, text) => (Text.similarity caseSensitive query text, coordinate)
  let good := scored.filter fun (score, _) => threshold.lessEq score
  (good.mergeSort fun left right => right.1.lessEq left.1).map (·.2)

/-- The cells that a query finds in a view; an empty query finds none. -/
def find (threshold : Binary64) (query : Query) (view : Table) : Outcome (List Coordinate) :=
  if query.text.isEmpty then return []
  else match query.mode with
    | .literal => return containing query.caseSensitive query.text view
    | .regex => do
        let pattern ← pattern query.caseSensitive query.text
        return cellsWhere pattern.occursIn view
    | .fuzzy => return similarTo query.caseSensitive query.text threshold view

end Search

/-- A search: its query, the cells found, and the place of the current one among them. -/
structure Search where
  threshold : Binary64
  query : Search.Query := {}
  found : List Coordinate := []
  index : Option Nat := none
deriving DecidableEq

namespace Search

def defaultThreshold : Binary64 := Binary64.ofRatio false 1 2

/-! ## Changing the query -/

/-- A new query; what it does not say stays as it was. Nothing changes when it cannot be searched. -/
def setQuery (search : Search) (view : Table) (text : String) (mode : Option Mode)
    (caseSensitive : Option Bool) : Outcome Search := do
  let query : Query := {
    text, mode := mode.getD search.query.mode,
    caseSensitive := caseSensitive.getD search.query.caseSensitive }
  let found ← find search.threshold query view
  return { search with query, found, index := none }

/-- The same search in another view. -/
def recompute (search : Search) (view : Table) : Outcome Search :=
  if search.query.text.isEmpty then return { search with found := [], index := none }
  else do
    let found ← find search.threshold search.query view
    let index := search.index.filter (· < found.length)
    return { search with found, index }

def clear (search : Search) : Search :=
  { search with query := { search.query with text := "" }, found := [], index := none }

/-! ## Going from match to match -/

def current (search : Search) : Option Coordinate := do search.found[← search.index]?

def goTo (search : Search) (index : Nat) : Search × Option Coordinate :=
  ({ search with index := some index }, search.found[index]?)

/-- The first match at the cursor or after it, or the very first; the best one of similar cells. -/
def firstFrom (search : Search) (cursor : Coordinate) : Search × Option Coordinate :=
  if search.found.isEmpty then (search, none)
  else if search.query.mode = .fuzzy then search.goTo 0
  else search.goTo ((search.found.findIdx? fun found => !found.before cursor).getD 0)

/-- The match after the current one, around; without a current one, the first after the cursor. -/
def nextFrom (search : Search) (cursor : Coordinate) : Search × Option Coordinate :=
  if search.found.isEmpty then (search, none)
  else match search.index with
    | some index => search.goTo ((index + 1) % search.found.length)
    | none =>
        if search.query.mode = .fuzzy then search.goTo 0
        else search.goTo ((search.found.findIdx? fun found => cursor.before found).getD 0)

/-- The match before the current one, around; without a current one, the last before the cursor. -/
def previousFrom (search : Search) (cursor : Coordinate) : Search × Option Coordinate :=
  if search.found.isEmpty then (search, none)
  else
    let last := search.found.length - 1
    match search.index with
    | some index => search.goTo ((index + last) % search.found.length)
    | none =>
        if search.query.mode = .fuzzy then search.goTo last
        else
          let before := search.found.zipIdx.filter fun (found, _) => found.before cursor
          search.goTo ((before.getLast?.map (·.2)).getD last)

/-- Query and place of the current match in the bottom line. -/
def summary (search : Search) : String :=
  if search.query.text.isEmpty then ""
  else if search.found.isEmpty then "/" ++ search.query.text ++ ": no matches"
  else
    let place := match search.index with
      | some index => Decimal.natText (index + 1)
      | none => "-"
    "/" ++ search.query.text ++ ": " ++ place ++ "/" ++ Decimal.natText search.found.length

end Search

end TableBrowser
