import TableBrowser.Calendar.IsoText
import TableBrowser.Number.Decimal
import TableBrowser.Table.ColumnType
import TableBrowser.Text.LetterCase
/-!
# Finding the type of a text column

Blank text is null. A column of text takes the first type that all its text can
be read as, and stays text, cell by cell as it was given, when there is none.
-/

namespace TableBrowser.Inference

def trueWords : List String := ["true", "yes", "t", "y"]

def falseWords : List String := ["false", "no", "f", "n"]

/-- A whole number; text with a point or the letter of an exponent is not read as one. -/
def readInteger? (text : String) : Option Datum :=
  if text.toList.contains '.' || (Text.lower text).toList.contains 'e' then none
  else (Numeral.int? text).map .integer

def readNumber? (text : String) : Option Datum := (Numeral.number? text).map .number

def readBoolean? (text : String) : Option Datum :=
  let word := Text.lower text
  if trueWords.contains word then some (.boolean true)
  else if falseWords.contains word then some (.boolean false)
  else none

/-- A date, a moment or a time; anything shorter than eight characters is none. -/
def readTemporal? (text : String) : Option Datum :=
  if text.toList.length < 8 then none
  else
    (IsoText.date? text).map .date <|> (IsoText.moment? text).map .moment <|>
      (IsoText.time? text).map .time

/-- A type with the reading of its text, and the cells that no column of it may hold. -/
structure Reading where
  type : ColumnType
  read? : String → Option Datum
  refused : Datum → Bool := fun _ => false

/-- The readings in the order in which they are tried. -/
def readings : List Reading := [
  { type := .integer, read? := readInteger? },
  { type := .number, read? := readNumber?, refused := (· = .number .nan) },
  { type := .boolean, read? := readBoolean? },
  { type := .datetime, read? := readTemporal? }]

/-- A cell with blank text made null and other text trimmed. -/
def clean : Datum → Datum
  | .text value => if Text.isAllBlank value then .null else .text (Text.trim value)
  | datum => datum

/-- The cell that clean text reads as; nulls stay. -/
def readCell? (read? : String → Option Datum) : Datum → Option Datum
  | .text value => read? value
  | .null => some .null
  | _ => none

def Reading.column? (reading : Reading) (cells : List Datum) : Option (ColumnType × List Datum) := do
  let read ← cells.mapM (readCell? reading.read?)
  if read.any reading.refused then none else some (reading.type, read)

/-- The text of a column that stays text: the given cells, null where they are blank. -/
def keepText (given : List Datum) : List Datum :=
  given.map fun datum => if clean datum = .null then .null else datum

def isTextOrNull : Datum → Bool
  | .text _ | .null => true
  | _ => false

/-- The type of a column of raw cells, and its cells in that type. -/
def column (given : List Datum) : ColumnType × List Datum :=
  let cells := given.map clean
  if cells.all (·.isNull) then (.null, cells)
  else if !cells.all isTextOrNull then (.ofData cells, cells)
  else (readings.findSome? (·.column? cells)).getD (.string, keepText given)

/-! The type found for a column does not change how many cells it has. -/

theorem length_of_mapM {α β : Type} {f : α → Option β} :
    ∀ {items : List α} {results : List β}, items.mapM f = some results →
      results.length = items.length
  | [], results, equal => by simp_all
  | item :: items, results, equal => by
      simp only [List.mapM_cons, Option.bind_eq_bind, Option.bind_eq_some_iff] at equal
      obtain ⟨result, _, rest, restEqual, equal⟩ := equal
      cases equal
      simp [length_of_mapM restEqual]

theorem length_of_column? {reading : Reading} {cells : List Datum} {found : ColumnType × List Datum}
    (equal : reading.column? cells = some found) : found.2.length = cells.length := by
  simp only [Reading.column?, Option.bind_eq_bind, Option.bind_eq_some_iff] at equal
  obtain ⟨read, readEqual, rest⟩ := equal
  split at rest
  · cases rest
  · cases rest
    exact length_of_mapM readEqual

theorem length_column (given : List Datum) : (column given).2.length = given.length := by
  unfold column
  simp only
  split
  · simp
  · split
    · simp
    · cases found : readings.findSome? (·.column? (given.map clean)) with
      | none => simp [keepText]
      | some result =>
          obtain ⟨reading, _, equal⟩ := List.exists_of_findSome?_eq_some found
          simpa using length_of_column? equal

end TableBrowser.Inference
