import TableBrowser.Proofs.Screen.Filling
import TableBrowser.Terminal.Drawing
/-!
# Texts over texts

The columns of a frame start where the texts of its lines do, since each text is
as wide as its column. A terminal writes the lines of a screen and then the marked
cells once more, each from the offset of its column on. Main statement: a marked
cell is written over its own text; it is exactly what the line shows of it, when
as many characters as cells are before it or both have room for all of it. A
terminal counts characters where a frame counts cells, so marks that combine with
the character before them can push a text out of the line that is still written
over it.
-/

namespace TableBrowser

open Window (separatorWidth)

/-! ## Columns side by side -/

/-- Where the column at a place starts, when columns of some widths stand side by side. -/
def offsetAt (widths : List Nat) (place : Nat) : Nat := cellsOf (widths.take place)

@[simp] theorem offsetAt_zero (widths : List Nat) : offsetAt widths 0 = 0 := rfl

@[simp] theorem offsetAt_nil (place : Nat) : offsetAt [] place = 0 := by
  rw [offsetAt, List.take_nil, cellsOf]

theorem offsetAt_cons_succ (width : Nat) (widths : List Nat) (place : Nat) :
    offsetAt (width :: widths) (place + 1) = separatorWidth + width + offsetAt widths place := rfl

theorem offsetAt_succ {widths : List Nat} {place width : Nat} (isWidth : widths[place]? = some width) :
    offsetAt widths (place + 1) = offsetAt widths place + width + separatorWidth := by
  rw [offsetAt, List.take_add_one, isWidth, Option.toList_some, cellsOf_append, ← offsetAt, cellsOf,
    cellsOf]
  omega

theorem offsetAt_add_le_spanOf {widths : List Nat} {place width : Nat}
    (isWidth : widths[place]? = some width) : offsetAt widths place + width ≤ spanOf widths := by
  induction widths generalizing place with
  | nil => cases isWidth
  | cons first widths induction =>
      cases place with
      | zero =>
          cases isWidth
          simp [spanOf]
      | succ place =>
          rw [List.getElem?_cons_succ] at isWidth
          have others := induction isWidth
          cases widths with
          | nil => cases isWidth
          | cons second widths =>
              rw [spanOf_cons_cons, offsetAt_cons_succ]
              omega

/-- Columns that are placed side by side start where their widths leave off. -/
theorem offset_placeColumns {widths indices : List Nat} {total start place : Nat} {shown : ShownColumn}
    (isShown : (placeColumns widths total start indices)[place]? = some shown) :
    shown.offset =
      start + offsetAt ((placeColumns widths total start indices).map (·.width)) place := by
  induction indices generalizing start place with
  | nil => cases isShown
  | cons index indices induction =>
      rw [placeColumns] at isShown ⊢
      cases place with
      | zero =>
          cases isShown
          simp
      | succ place =>
          rw [List.getElem?_cons_succ] at isShown
          have later := induction isShown
          simp only [List.map_cons, offsetAt_cons_succ]
          omega

/-! ## Texts side by side -/

theorem Line.length_le_width {chars : List Char} (noMarks : ∀ char ∈ chars, charWidth char ≠ 0) :
    chars.length ≤ width chars := by
  induction chars with
  | nil => exact Nat.le_refl 0
  | cons char chars induction =>
      rw [List.forall_mem_cons] at noMarks
      have others := induction noMarks.2
      have first := Nat.pos_of_ne_zero noMarks.1
      rw [List.length_cons, width_cons]
      omega

namespace Frame

/-- The characters of a line that stand before the text at a place. -/
def charsBefore (texts : List String) (place : Nat) : List Char :=
  (texts.take place).flatMap fun text => text.toList ++ List.replicate separatorWidth ' '

theorem width_charsBefore (texts : List String) (place : Nat) :
    Line.width (charsBefore texts place) = offsetAt (texts.map Line.textWidth) place := by
  induction texts generalizing place with
  | nil => simp [charsBefore]
  | cons first texts induction =>
      cases place with
      | zero => rfl
      | succ place =>
          have start : charsBefore (first :: texts) (place + 1) =
              first.toList ++ List.replicate separatorWidth ' ' ++ charsBefore texts place := rfl
          have firstWidth : Line.width first.toList = Line.textWidth first := rfl
          rw [start, List.map_cons, offsetAt_cons_succ, Line.width_append, Line.width_append,
            Line.width_blanks, induction, firstWidth, Nat.add_comm separatorWidth]

/-- A text stands in the line of its cells after those before it. -/
theorem exists_toList_joinCells {texts : List String} {place : Nat} {text : String}
    (isText : texts[place]? = some text) :
    ∃ after, (joinCells texts).toList = charsBefore texts place ++ text.toList ++ after := by
  induction texts generalizing place with
  | nil => cases isText
  | cons first texts induction =>
      have joined : ∃ rest, (joinCells (first :: texts)).toList = first.toList ++ rest ∧
          (texts ≠ [] → rest = List.replicate separatorWidth ' ' ++ (joinCells texts).toList) := by
        cases texts with
        | nil => exact ⟨[], by simp [joinCells], by simp⟩
        | cons second texts =>
            refine ⟨_, ?_, fun _ => rfl⟩
            simp [joinCells]
      rcases joined with ⟨rest, isJoined, isRest⟩
      cases place with
      | zero =>
          cases isText
          exact ⟨rest, by rw [isJoined]; rfl⟩
      | succ place =>
          rw [List.getElem?_cons_succ] at isText
          rcases induction isText with ⟨after, later⟩
          refine ⟨after, ?_⟩
          rw [isJoined, isRest (by rintro rfl; cases isText), later]
          simp [charsBefore]

/-- The texts side by side in the lines of a frame, the header first. -/
def lineTexts (frame : Frame) : List (List String) :=
  frame.header :: frame.cells.map fun row => row.map (·.text)

theorem lines_eq_map_lineTexts (frame : Frame) : frame.lines = frame.lineTexts.map joinCells := by
  simp [lines, lineTexts]

/-- The texts of each line stand at the offsets and take the widths, side by side within the total. -/
structure Aligned (frame : Frame) (total : Nat) : Prop where
  widths : ∀ texts ∈ frame.lineTexts, texts.map Line.textWidth = frame.widths
  counted : frame.offsets.length = frame.widths.length
  starts : ∀ texts ∈ frame.lineTexts, ∀ (place offset : Nat) text, texts[place]? = some text →
    frame.offsets[place]? = some offset →
    (∃ after, (joinCells texts).toList = charsBefore texts place ++ text.toList ++ after) ∧
      Line.width (charsBefore texts place) = offset
  apart : ∀ place offset width next : Nat, frame.offsets[place]? = some offset →
    frame.widths[place]? = some width → frame.offsets[place + 1]? = some next →
    next = offset + width + separatorWidth
  within : ∀ place offset width : Nat, frame.offsets[place]? = some offset →
    frame.widths[place]? = some width → offset + width ≤ total

end Frame

section Layout

variable {appearance : Appearance} (narrow : ∀ char ∈ appearance.ellipsis.toList, Line.IsNarrow char)
  (view : Table) (request : LayoutRequest)

theorem offsets_layout {place offset : Nat}
    (isOffset : (layout appearance view request).offsets[place]? = some offset) :
    offset = offsetAt (layout appearance view request).widths place := by
  have placed : ∃ shown, (placeColumns (request.widthsFor appearance view) request.size.width 0
      (Window.fittingColumns (request.widthsFor appearance view)
        (layout appearance view request).scroll.left request.size.width))[place]? = some shown ∧
      shown.offset = offset := by
    rwa [← Option.map_eq_some_iff, ← List.getElem?_map]
  rcases placed with ⟨shown, isShown, rfl⟩
  exact (offset_placeColumns isShown).trans (Nat.zero_add _)

include narrow

theorem map_textWidth_lineTexts : ∀ texts ∈ (layout appearance view request).lineTexts,
    texts.map Line.textWidth = (layout appearance view request).widths := by
  rcases map_textWidth_layout narrow view request with ⟨header, cells⟩
  intro texts member
  rcases List.mem_cons.mp member with rfl | inBody
  · exact header
  · rcases List.mem_map.mp inBody with ⟨row, isRow, rfl⟩
    rw [List.map_map]
    exact cells row isRow

theorem aligned_layout : (layout appearance view request).Aligned request.size.width where
  widths := map_textWidth_lineTexts narrow view request
  counted := by simp [layout]
  starts texts member place offset text isText isOffset := by
    refine ⟨Frame.exists_toList_joinCells isText, ?_⟩
    rw [Frame.width_charsBefore, map_textWidth_lineTexts narrow view request texts member,
      offsets_layout view request isOffset]
  apart place offset width next isOffset isWidth isNext := by
    rw [offsets_layout view request isOffset, offsets_layout view request isNext,
      offsetAt_succ isWidth]
  within place offset width isOffset isWidth := by
    rw [offsets_layout view request isOffset]
    exact Nat.le_trans (offsetAt_add_le_spanOf isWidth) (spanOf_placeColumns_le _ _ _)

end Layout

/-! ## Cells over lines -/

namespace Terminal

/-- The characters that are written. -/
def Draw.characters : Draw → List Char
  | .put _ _ text room _ => text.toList.take room
  | _ => []

/-- A marked cell of a frame on a screen, in a row that is written again over its line. -/
structure Overlay (screen : Screen) (frame : Frame) where
  index : Nat
  row : List FrameCell
  place : Nat
  cell : FrameCell
  column : Nat
  isRow : frame.cells[index]? = some row
  isCell : row[place]? = some cell
  isColumn : frame.offsets[place]? = some column
  isMarked : cell.selected ∨ cell.highlighted
  /-- The row stands above the last one, and the cell starts on the screen. -/
  isOnScreen : Screen.surroundingLines + index + 1 < screen.size.height ∧ column < screen.size.width

namespace Overlay

variable {screen : Screen} {frame : Frame} (overlay : Overlay screen frame)

def screenRow : Nat := Screen.surroundingLines + overlay.index

def texts : List String := overlay.row.map (·.text)

/-- The line of the screen that shows the row. -/
def line : String := Line.pad (Frame.joinCells overlay.texts) screen.size.width .left

/-- The characters of the line before the cell. -/
def before : List Char := Frame.charsBefore overlay.texts overlay.place

/-- What writes the line. -/
def under : Draw := .put overlay.screenRow 0 overlay.line screen.size.width []

def attributes : List Attribute := if overlay.cell.selected then [.reverse] else marked

/-- What writes the cell once more. -/
def onTop : Draw :=
  .put overlay.screenRow overlay.column overlay.cell.text (screen.size.width - overlay.column)
    overlay.attributes

/-- What the line shows of the cell. -/
def shown : List Char :=
  (overlay.under.characters.drop overlay.before.length).take overlay.cell.text.toList.length

/-- The cell is written over all that the line shows of it, and over nothing else. -/
def Exact : Prop := overlay.onTop.characters = overlay.shown

theorem isText : overlay.texts[overlay.place]? = some overlay.cell.text := by
  rw [texts, List.getElem?_map, overlay.isCell, Option.map_some]

theorem exists_toList_line : ∃ after,
    overlay.line.toList = overlay.before ++ overlay.cell.text.toList ++ after := by
  rcases Frame.exists_toList_joinCells overlay.isText with ⟨after, joined⟩
  have padded : overlay.line.toList = (Frame.joinCells overlay.texts).toList ++
      List.replicate ((screen.size.width : Int) - Line.textWidth (Frame.joinCells overlay.texts)).toNat
        ' ' := by
    rw [line, Line.pad, String.toList_ofList]
  exact ⟨_, by rw [padded, joined, List.append_assoc, before]⟩

/-- The line and the cell are both cut to what is left of the screen, in characters. -/
theorem shown_eq_take : overlay.shown =
    overlay.cell.text.toList.take (screen.size.width - overlay.before.length) := by
  rcases overlay.exists_toList_line with ⟨after, isLine⟩
  have characters : overlay.under.characters = overlay.line.toList.take screen.size.width := rfl
  rw [shown, characters, isLine, List.append_assoc, List.drop_take, List.drop_left, List.take_take,
    Nat.min_comm, ← List.take_take, List.take_left]

theorem exact_iff : overlay.Exact ↔
    min overlay.cell.text.toList.length (screen.size.width - overlay.before.length) =
      min overlay.cell.text.toList.length (screen.size.width - overlay.column) := by
  have characters : overlay.onTop.characters =
      overlay.cell.text.toList.take (screen.size.width - overlay.column) := rfl
  rw [Exact, shown_eq_take, characters, List.take_eq_take_iff, Nat.min_comm, eq_comm, Nat.min_comm]

theorem mem_lineTexts : overlay.texts ∈ frame.lineTexts :=
  List.mem_cons_of_mem _ (List.mem_map_of_mem (List.mem_of_getElem? overlay.isRow))

section Aligned

variable {total : Nat} (aligned : frame.Aligned total)

include aligned

theorem width_before : Line.width overlay.before = overlay.column :=
  (aligned.starts _ overlay.mem_lineTexts _ _ _ overlay.isText overlay.isColumn).2

theorem column_add_textWidth_le : overlay.column + Line.textWidth overlay.cell.text ≤ total := by
  refine aligned.within overlay.place _ _ overlay.isColumn ?_
  rw [← aligned.widths _ overlay.mem_lineTexts, List.getElem?_map, overlay.isText, Option.map_some]

/-- Where every character takes a cell there is room in the line for all of the cell. -/
theorem exact_of_noMarks (atMost : total ≤ screen.size.width)
    (noMarks : ∀ text ∈ overlay.texts, ∀ char ∈ text.toList, Line.charWidth char ≠ 0) :
    overlay.Exact := by
  have cell := Line.length_le_width (noMarks _ (List.mem_of_getElem? overlay.isText))
  have cellWidth : Line.width overlay.cell.text.toList = Line.textWidth overlay.cell.text := rfl
  have noMarksBefore : ∀ char ∈ overlay.before, Line.charWidth char ≠ 0 := by
    intro char member
    rcases List.mem_flatMap.mp member with ⟨text, isText, inText⟩
    rcases List.mem_append.mp inText with inCell | inBlanks
    · exact noMarks text (List.mem_of_mem_take isText) char inCell
    · rw [List.eq_of_mem_replicate inBlanks]
      decide
  have before := Line.length_le_width noMarksBefore
  have ends := overlay.column_add_textWidth_le aligned
  rw [overlay.width_before aligned] at before
  rw [exact_iff]
  omega

end Aligned

end Overlay

/-! ## What a terminal writes over a screen -/

/-- Above the last row a text is written when it starts on the screen. -/
theorem mem_put {size : Size} {row : Nat} (above : row + 1 < size.height) {column : Nat} {text : String}
    {attributes : List Attribute} {draw : Draw} :
    draw ∈ put size row column text attributes ↔
      column < size.width ∧ draw = .put row column text (size.width - column) attributes := by
  have notLast : ¬ row + 1 = size.height := by omega
  unfold put
  simp only [notLast, if_false, Nat.sub_zero]
  by_cases inside : column < size.width
  · have room : ¬ (size.height ≤ row || size.width ≤ column || size.width - column = 0) := by
      simp only [Bool.or_eq_true, decide_eq_true_iff]
      omega
    rw [if_neg room, List.mem_singleton, and_iff_right inside]
  · have noRoom : size.height ≤ row || size.width ≤ column || size.width - column = 0 := by
      simp only [Bool.or_eq_true, decide_eq_true_iff]
      omega
    rw [if_pos noRoom]
    exact iff_of_false List.not_mem_nil fun written => inside written.1

variable {screen : Screen} {frame : Frame}

/-- The lines of a frame stand below the first line of a screen, filled up to its width. -/
theorem getElem?_lines (shows : screen.frame = some frame) {index : Nat}
    (within : index + Screen.surroundingLines < screen.size.height) {line : String}
    (isLine : frame.lines[index]? = some line) :
    screen.lines[index + 1]? = some (Line.pad line screen.size.width .left) := by
  have inGrid : index < (Screen.gridSize screen.size).height := Nat.lt_sub_of_add_lt within
  have given : ((screen.frame.map Frame.lines).getD []).getD index "" = line := by
    rw [shows, Option.map_some, Option.getD_some, List.getD_eq_getElem?_getD, isLine, Option.getD_some]
  have reached : index + 1 < screen.size.height := by
    rw [Screen.surroundingLines] at within
    omega
  rw [Screen.lines, List.getElem?_take_of_lt reached, List.cons_append, List.getElem?_cons_succ,
    List.getElem?_append_left (by simpa using inGrid), List.getElem?_map, List.getElem?_range inGrid,
    Option.map_some, given]

theorem Overlay.getElem?_lines (shows : screen.frame = some frame) (overlay : Overlay screen frame) :
    screen.lines[overlay.screenRow]? = some overlay.line := by
  have isLine : frame.lines[overlay.index + 1]? = some (Frame.joinCells overlay.texts) := by
    rw [Frame.lines, List.getElem?_cons_succ, List.getElem?_map, overlay.isRow, Option.map_some, texts]
  have within := overlay.isOnScreen.1
  have found := Terminal.getElem?_lines shows (by omega) isLine
  rwa [show overlay.index + 1 + 1 = overlay.screenRow from Nat.add_comm overlay.index 2] at found

/-- The line under a marked cell has been written before. -/
theorem Overlay.under_mem_putLines (shows : screen.frame = some frame) (overlay : Overlay screen frame) :
    overlay.under ∈ putLines screen.size screen.lines := by
  refine List.mem_flatMap.mpr ⟨(overlay.line, overlay.screenRow), ?_, ?_⟩
  · exact List.mem_zipIdx_iff_getElem?.mpr (overlay.getElem?_lines shows)
  · have notFirst : overlay.screenRow ≠ 0 := by
      rw [screenRow, Screen.surroundingLines]
      omega
    simp only [notFirst, if_false]
    exact (mem_put overlay.isOnScreen.1).mpr ⟨Nat.zero_lt_of_lt overlay.isOnScreen.2, rfl⟩

/-- The marked cells of a row are written once more. -/
theorem mem_putCells {row : List FrameCell} {screenRow : Nat} {draw : Draw} :
    draw ∈ putCells screen.size screenRow frame.offsets row ↔
      ∃ (place column : Nat) (cell : FrameCell), frame.offsets[place]? = some column ∧
        row[place]? = some cell ∧ (cell.selected ∨ cell.highlighted) ∧
        draw ∈ put screen.size screenRow column cell.text
          (if cell.selected then [.reverse] else marked) := by
  have ofCell (column : Nat) (cell : FrameCell) : (draw ∈
      if cell.selected then put screen.size screenRow column cell.text [.reverse]
      else if cell.highlighted then put screen.size screenRow column cell.text marked
      else []) ↔ (cell.selected ∨ cell.highlighted) ∧
        draw ∈ put screen.size screenRow column cell.text
          (if cell.selected then [.reverse] else marked) := by
    cases selected : cell.selected <;> cases highlighted : cell.highlighted <;> simp
  rw [putCells, List.mem_flatMap]
  constructor
  · rintro ⟨⟨column, cell⟩, isShown, written⟩
    rcases List.mem_iff_getElem?.mp isShown with ⟨place, isPlace⟩
    rcases List.getElem?_zip_eq_some.mp isPlace with ⟨isColumn, isCell⟩
    exact ⟨place, column, cell, isColumn, isCell, (ofCell column cell).mp written⟩
  · rintro ⟨place, column, cell, isColumn, isCell, written⟩
    have isPlace := List.getElem?_zip_eq_some (z := (column, cell)).mpr ⟨isColumn, isCell⟩
    exact ⟨(column, cell), List.mem_of_getElem? isPlace, (ofCell column cell).mpr written⟩

/-- What is written after the lines is the header once more, and the marked cells. -/
theorem mem_putFrame {draw : Draw} : draw ∈ putFrame screen.size screen.lines frame ↔
    Screen.surroundingLines < screen.size.height ∧
        draw ∈ put screen.size 1 0 (screen.lines.getD 1 "") marked ∨
      ∃ overlay : Overlay screen frame, draw = overlay.onTop := by
  have count := screen.length_lines
  unfold putFrame
  split
  next low =>
    refine iff_of_false List.not_mem_nil ?_
    rintro (⟨high, -⟩ | ⟨overlay, -⟩)
    · omega
    · have above := overlay.isOnScreen.1
      omega
  next high =>
    rw [List.mem_append, and_iff_right (by omega)]
    refine or_congr_right ?_
    rw [List.mem_flatMap]
    constructor
    · rintro ⟨⟨row, index⟩, isPlaced, inRow⟩
      rw [List.mem_zipIdx_iff_getElem?, List.getElem?_take] at isPlaced
      rcases Option.ite_none_right_eq_some.mp isPlaced with ⟨within, isRow⟩
      rcases mem_putCells.mp inRow with ⟨place, column, cell, isColumn, isCell, isMarked, written⟩
      have above : Screen.surroundingLines + index + 1 < screen.size.height := by omega
      rcases (mem_put above).mp written with ⟨inside, isDraw⟩
      exact ⟨⟨index, row, place, cell, column, isRow, isCell, isColumn, isMarked, above, inside⟩, isDraw⟩
    · rintro ⟨overlay, rfl⟩
      rcases overlay.isOnScreen with ⟨above, inside⟩
      refine ⟨(overlay.row, overlay.index), ?_, ?_⟩
      · rw [List.mem_zipIdx_iff_getElem?, List.getElem?_take_of_lt (by omega)]
        exact overlay.isRow
      · exact mem_putCells.mpr ⟨overlay.place, overlay.column, overlay.cell, overlay.isColumn,
          overlay.isCell, overlay.isMarked, (mem_put above).mpr ⟨inside, rfl⟩⟩

/-! ## What frames promise to a terminal -/

/-- A marked cell is written over the line that has its text at the same place. -/
structure Overlay.Covers (overlay : Overlay screen frame) : Prop where
  written : overlay.under ∈ putLines screen.size screen.lines
  stands : ∃ after, overlay.line.toList = overlay.before ++ overlay.cell.text.toList ++ after
  starts : Line.width overlay.before = overlay.column
  exactly : overlay.Exact ↔
    min overlay.cell.text.toList.length (screen.size.width - overlay.before.length) =
      min overlay.cell.text.toList.length (screen.size.width - overlay.column)
  plain : (∀ text ∈ overlay.texts, ∀ char ∈ text.toList, Line.charWidth char ≠ 0) → overlay.Exact

theorem Overlay.covers {total : Nat} (aligned : frame.Aligned total) (shows : screen.frame = some frame)
    (atMost : total ≤ screen.size.width) (overlay : Overlay screen frame) : overlay.Covers where
  written := overlay.under_mem_putLines shows
  stands := overlay.exists_toList_line
  starts := overlay.width_before aligned
  exactly := overlay.exact_iff
  plain := overlay.exact_of_noMarks aligned atMost

/--
The texts of a frame take the widths of its columns, stand at the offsets in every
line, do not overlap and end within the frame, if the mark of a cut has no wide
characters. What a terminal then writes over the lines is the header, and cells at
the place of their own text; such a cell is exactly what the line shows of it as
long as both have room for as many of its characters.
-/
theorem offsets_match_text {appearance : Appearance}
    (narrow : ∀ char ∈ appearance.ellipsis.toList, Line.IsNarrow char) (view : Table)
    (request : LayoutRequest) :
    let frame := layout appearance view request
    frame.lines = frame.lineTexts.map Frame.joinCells ∧
    frame.Aligned request.size.width ∧
    ∀ screen : Screen, screen.frame = some frame → Screen.gridSize screen.size = request.size →
      (∀ draw, draw ∈ putFrame screen.size screen.lines frame ↔
        Screen.surroundingLines < screen.size.height ∧
            draw ∈ put screen.size 1 0 (screen.lines.getD 1 "") marked ∨
          ∃ overlay : Overlay screen frame, draw = overlay.onTop) ∧
      ∀ overlay : Overlay screen frame, overlay.Covers := by
  intro frame
  have aligned := aligned_layout narrow view request
  refine ⟨frame.lines_eq_map_lineTexts, aligned, fun screen shows sized => ⟨fun _ => mem_putFrame, ?_⟩⟩
  have atMost : request.size.width ≤ screen.size.width := by
    rw [← sized]
    exact Nat.le_refl _
  exact Overlay.covers aligned shows atMost

/-- A view with marks in its first column and the cursor in its second one. -/
def markedFrame (width : Nat) : Frame :=
  layout {} ⟨[⟨"a", .string, [.text "e\u0301e\u0301e\u0301"]⟩, ⟨"b", .string, [.text "xyz"]⟩],
    by decide, by decide⟩ { row := 0, column := 1, size := ⟨width, 3⟩ }

def markedScreen (width : Nat) : Screen := ⟨⟨width, 5⟩, "", some (markedFrame width), "", none⟩

/-- With room for the marks in the line the cell of the cursor is written over its own text. -/
theorem offsets_match_text_roomy :
    ∃ overlay : Overlay (markedScreen 10) (markedFrame 10),
      overlay.onTop = .put 2 4 "xyz" 6 [.reverse] ∧
        overlay.under ∈ putLines ⟨10, 5⟩ (markedScreen 10).lines ∧ overlay.Exact := by
  let overlay : Overlay (markedScreen 10) (markedFrame 10) :=
    ⟨0, [⟨"e\u0301e\u0301e\u0301", false, false⟩, ⟨"xyz", false, true⟩], 1, ⟨"xyz", false, true⟩, 4,
      by decide +kernel, rfl, by decide +kernel, .inl rfl, by decide⟩
  have narrow : ∀ char ∈ ({} : Appearance).ellipsis.toList, Line.IsNarrow char := by
    intro char member
    have isMark : char = '…' := List.mem_singleton.mp member
    rw [isMark]
    decide +kernel
  have covers := ((offsets_match_text narrow _ _).2.2 (markedScreen 10) rfl rfl).2 overlay
  exact ⟨overlay, rfl, covers.written, covers.exactly.mpr (by decide +kernel)⟩

/-- Without room for the marks the cell of the cursor is written where the line shows nothing. -/
theorem overlay_beside_marks :
    Draw.put 2 0 "e\u0301e\u0301e\u0301 xyz" 7 [] ∈ draw ⟨7, 5⟩ (markedScreen 7) ∧
      Draw.put 2 4 "xyz" 3 [.reverse] ∈ draw ⟨7, 5⟩ (markedScreen 7) ∧
        ∃ overlay : Overlay (markedScreen 7) (markedFrame 7),
          overlay.onTop = .put 2 4 "xyz" 3 [.reverse] ∧ overlay.shown = [] ∧ ¬ overlay.Exact := by
  let overlay : Overlay (markedScreen 7) (markedFrame 7) :=
    ⟨0, [⟨"e\u0301e\u0301e\u0301", false, false⟩, ⟨"xyz", false, true⟩], 1, ⟨"xyz", false, true⟩, 4,
      by decide +kernel, rfl, by decide +kernel, .inl rfl, by decide⟩
  refine ⟨by decide +kernel, by decide +kernel, overlay, rfl, ?_, ?_⟩
  · rw [Overlay.shown_eq_take]
    decide +kernel
  · rw [Overlay.exact_iff]
    decide +kernel

end Terminal

end TableBrowser
