import TableBrowser.Search
import TableBrowser.Text.CellWidthTable
/-!
# Laying out a view

A window shows rows of a view from `top` on and columns from `left` on. It moves as
little as needed to show the cursor. A frame holds what is shown: the header and the
cells of the visible rows and columns, cut and filled up to the widths of the columns,
with the cursor and the matches of a search marked.
-/

/-! ## Text in a line of the screen

Most characters take one cell of the screen, some take two, and marks that
combine with the character before them take none. Text is cut and filled up by
cells, not by characters.
-/

namespace TableBrowser.Line

/-- Below this code point every character takes one cell. -/
def plainLimit : Nat := 0x300

def charWidth (char : Char) : Nat :=
  if char.toNat < plainLimit then 1
  else if Text.CharacterRange.covers Text.combiningRanges char then 0
  else if Text.CharacterRange.covers Text.doubleWidthRanges char then 2
  else 1

def width (chars : List Char) : Nat := chars.foldr (fun char columns => charWidth char + columns) 0

def textWidth (text : String) : Nat := width text.toList

/-- Line ends and tabs as spaces; a pair of line ends is one. -/
def flatten : List Char → List Char
  | '\r' :: '\n' :: rest => ' ' :: flatten rest
  | char :: rest => (if char = '\n' ∨ char = '\t' then ' ' else char) :: flatten rest
  | [] => []

def singleLine (text : String) : String := String.ofList (flatten text.toList)

/-- The longest start of some characters that takes no more than a number of cells. -/
def fitting (room : Nat) : List Char → List Char
  | [] => []
  | char :: rest =>
      if charWidth char ≤ room then char :: fitting (room - charWidth char) rest else []

def defaultEllipsis : String := "…"

/-- Text cut to a number of cells, the cut marked; without any cells there is no text. -/
def truncate (text : String) (cells : Int) (ellipsis : String) : String :=
  if cells ≤ 0 then ""
  else
    let room := cells.toNat
    if textWidth text ≤ room then text
    else if room ≤ textWidth ellipsis then String.ofList (ellipsis.toList.take room)
    else
      String.ofList (fitting (room - textWidth ellipsis) text.toList ++ ellipsis.toList)

inductive Side where
  | left
  | right
deriving DecidableEq, Repr

/-- Text filled up with spaces to a number of cells, at the given side of them. -/
def pad (text : String) (cells : Int) (side : Side) : String :=
  let gap := List.replicate (cells - textWidth text).toNat ' '
  match side with
  | .left => String.ofList (text.toList ++ gap)
  | .right => String.ofList (gap ++ text.toList)

example : truncate "table" 3 "." = "ta." := by cbv
example : pad "7" 3 .right = "  7" := by cbv

end TableBrowser.Line

/-! ## The visible part of a view -/

namespace TableBrowser.Window

/-- Where the window starts. -/
structure Scroll where
  top : Nat := 0
  left : Nat := 0
deriving DecidableEq, Repr, Inhabited

/-- The number of cells between two columns. -/
def separatorWidth : Nat := 1

/-- A value moved into the range from zero to a limit. -/
def clamp (value : Int) (limit : Nat) : Nat := (min (max value 0) limit).toNat

/-- The first row shown, such that a row of a view is shown if any is. -/
def topFor (top : Int) (row : Nat) (visible : Int) (count : Nat) : Nat :=
  if visible ≤ 0 then row
  else
    let moved : Int :=
      if row < top then row
      else if top + visible ≤ row then row - visible + 1
      else top
    clamp moved (count - visible.toNat)

/-- The columns that fit after some that take up `used` cells, from the one at `index` on. -/
def fittingAfter (width : Int) (index used : Nat) : List Nat → List Nat
  | [] => []
  | need :: rest =>
      let total := used + separatorWidth + need
      if width < total then []
      else if width ≤ total then [index]
      else index :: fittingAfter width (index + 1) total rest

/-- The columns from `left` on that fit a width, with cells between them; one in any case. -/
def fittingColumns (widths : List Nat) (left : Nat) (width : Int) : List Nat :=
  match widths.drop left with
  | [] => []
  | first :: rest =>
      if width ≤ first then [left] else left :: fittingAfter width (left + 1) first rest

/-- The first column shown, such that a column is shown; the smallest that does when it moves right. -/
def leftFor (left : Int) (column : Nat) (widths : List Nat) (width : Int) : Nat :=
  if widths.isEmpty then 0
  else
    let start := clamp left (widths.length - 1)
    if column < start then column
    else
      ((List.range' start (column - start + 1)).find? fun left =>
        (fittingColumns widths left width).contains column).getD column

end TableBrowser.Window

/-! ## Frames -/

namespace TableBrowser

open Window (Scroll)

structure Size where
  width : Nat
  height : Nat
deriving DecidableEq, Repr, Inhabited

/-- How columns are measured and cells are cut. -/
structure Appearance where
  sampleRows : Int := 200
  minimumWidth : Int := 3
  maximumWidth : Int := 40
  ellipsis : String := Line.defaultEllipsis
deriving DecidableEq, Repr, Inhabited

/-- What a column shows at the top and in its first rows. -/
def Column.sampleTexts (column : Column) (rows : Nat) : List String :=
  column.name :: (column.values.take rows).map Datum.cellText

/-- The width that shows the whole header and the first cells, within limits. -/
def Column.width (appearance : Appearance) (column : Column) : Nat :=
  let texts := column.sampleTexts appearance.sampleRows.toNat
  let needed := (texts.map fun text => Line.textWidth (Line.singleLine text)).foldl max 0
  (max appearance.minimumWidth (min (needed : Int) appearance.maximumWidth)).toNat

def Table.columnWidths (appearance : Appearance) (view : Table) : List Nat :=
  view.columns.map (Column.width appearance)

/-- A cell of a view that is closest to the given place. -/
def Table.clampCursor (view : Table) (row column : Int) : Coordinate where
  row := Window.clamp row (view.rowCount - 1)
  column := Window.clamp column (view.columnCount - 1)

structure FrameCell where
  text : String
  highlighted : Bool
  selected : Bool
deriving DecidableEq, Repr

structure Frame where
  header : List String
  columnIndices : List Nat
  widths : List Nat
  /-- The screen column at which each shown column starts. -/
  offsets : List Nat
  rowIndices : List Nat
  cells : List (List FrameCell)
  cursor : Coordinate
  scroll : Scroll
  rowCount : Nat
  columnCount : Nat
deriving DecidableEq, Repr

namespace Frame

def joinCells (texts : List String) : String :=
  (String.ofList (List.replicate Window.separatorWidth ' ')).intercalate texts

def lines (frame : Frame) : List String :=
  joinCells frame.header :: frame.cells.map fun row => joinCells (row.map (·.text))

/-- Where in the view the cells are that are shown in some way. -/
def places (frame : Frame) (shown : FrameCell → Bool) : List Coordinate :=
  (frame.rowIndices.zip frame.cells).flatMap fun (row, cells) =>
    (frame.columnIndices.zip cells).filterMap fun (column, cell) =>
      if shown cell then some ⟨row, column⟩ else none

end Frame

def visibleRows (height : Nat) : Nat := height - 1

/-- A shown column: its place in the view, its first screen column, and the cells it takes. -/
structure ShownColumn where
  index : Nat
  offset : Nat
  width : Nat
deriving DecidableEq, Repr

/-- Columns side by side from a screen column on, the last one cut to what is left. -/
def placeColumns (widths : List Nat) (total : Nat) (offset : Nat) : List Nat → List ShownColumn
  | [] => []
  | index :: rest =>
      let width := min (widths.getD index 0) (total - offset)
      ⟨index, offset, width⟩ ::
        placeColumns widths total (offset + width + Window.separatorWidth) rest

/-- Text cut and filled up to a width. -/
def fitted (ellipsis : String) (width : Nat) (side : Line.Side) (text : String) : String :=
  Line.pad (Line.truncate (Line.singleLine text) width ellipsis) width side

/-- Numbers stand at the right of their column. -/
def ColumnType.side : ColumnType → Line.Side
  | .integer | .number => .right
  | _ => .left

/-- What to show of a view. -/
structure LayoutRequest where
  row : Int
  column : Int
  top : Int := 0
  left : Int := 0
  size : Size
  /-- The widths of the columns; they are measured when their number is not that of the columns. -/
  widths : Option (List Nat) := none
  highlights : List Coordinate := []

/-- The widths of a request when they fit the view, and measured ones otherwise. -/
def LayoutRequest.widthsFor (request : LayoutRequest) (appearance : Appearance) (view : Table) :
    List Nat :=
  match request.widths.filter (·.length = view.columnCount) with
  | some widths => widths
  | none => view.columnWidths appearance

/-- The frame of a view, moved so that it shows the cursor. -/
def layout (appearance : Appearance) (view : Table) (request : LayoutRequest) : Frame :=
  let widths := request.widthsFor appearance view
  let cursor := view.clampCursor request.row request.column
  let visible := visibleRows request.size.height
  let top := Window.topFor request.top cursor.row visible view.rowCount
  let left := Window.leftFor request.left cursor.column widths request.size.width
  let shown := placeColumns widths request.size.width 0
    (Window.fittingColumns widths left request.size.width)
  let rows := List.range' top (min (top + visible) view.rowCount - top)
  let column (index : Nat) : Column := view.columns.getD index .blank
  let cell (row : Nat) (place : ShownColumn) : FrameCell :=
    let column := column place.index
    { text := fitted appearance.ellipsis place.width column.type.side
        (column.values.getD row .null).cellText
      highlighted := request.highlights.contains ⟨row, place.index⟩
      selected := row = cursor.row && place.index = cursor.column }
  { header := shown.map fun place =>
      fitted appearance.ellipsis place.width .left (column place.index).name
    columnIndices := shown.map (·.index)
    widths := shown.map (·.width)
    offsets := shown.map (·.offset)
    rowIndices := rows
    cells := rows.map fun row => shown.map (cell row)
    cursor
    scroll := ⟨top, left⟩
    rowCount := view.rowCount
    columnCount := view.columnCount }

/-! ## The whole screen

The first line names the tabs, the last one shows a message or a prompt, and the
frame of the view stands between them. The lines fill the screen exactly.
-/

structure Screen where
  size : Size
  tabBar : String
  frame : Option Frame
  bottom : String
  /-- The column of the text cursor in the last line, when there is a prompt. -/
  promptCursor : Option Nat := none

namespace Screen

/-- The lines of the screen that are not the frame's. -/
def surroundingLines : Nat := 2

def gridSize (size : Size) : Size := ⟨size.width, size.height - surroundingLines⟩

def barLine (width : Nat) (text : String) : String :=
  Line.pad (Line.truncate text width "") width .left

def lines (screen : Screen) : List String :=
  let width := screen.size.width
  let grid := (screen.frame.map Frame.lines).getD []
  let body := (List.range (gridSize screen.size).height).map fun index =>
    Line.pad (grid.getD index "") width .left
  let bottom := if surroundingLines ≤ screen.size.height then [barLine width screen.bottom] else []
  (barLine width screen.tabBar :: body ++ bottom).take screen.size.height

/-- The names of the tabs, the active one in brackets, a star after those that are busy. -/
def tabBarOf (tabs : List (String × Bool)) (active : Nat) : String :=
  String.join (tabs.mapIdx fun index (name, busy) =>
    let label := Decimal.natText (index + 1) ++ ":" ++ name ++ (if busy then "*" else "")
    if index = active then "[" ++ label ++ "]" else " " ++ label ++ " ")

/-- A message at the left and the position at the right; the message is cut first. -/
def statusLine (message position : String) (width : Int) : String :=
  let room := width - Line.textWidth position - 1
  if room ≤ 0 then Line.truncate position width Line.defaultEllipsis
  else
    Line.pad (Line.truncate message room Line.defaultEllipsis) room .left ++ " " ++ position

end Screen

end TableBrowser
