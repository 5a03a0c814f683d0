import Mathlib.Data.List.Basic
import TableBrowser.Proofs.Screen.Filling
import TableBrowser.Proofs.Workspace.Fitted
/-!
# Windows on a view

A window shows the rows from its top on as far as they fit and the longest run of
columns from its left on that fits, or one column that does not. It is moved only
when it does not show the cursor, or lies outside of the view. Main statement: a
frame shows such a window with the cursor in it, as far as the view has rows and
columns, and laying it out again where it stands changes nothing.
-/

namespace TableBrowser

namespace Window

/-! ## Runs of columns -/

/-- How many columns from `left` on a window shows: as many as fit, or one that does not. -/
def IsRun (widths : List Nat) (width left count : Nat) : Prop :=
  if width < widths.getD left 0 then count = 1
  else IsGreatest {number | number ≤ widths.length - left ∧
    spanOf ((widths.drop left).take number) ≤ width} count

/-- Every further column takes a separator at least. -/
theorem le_cellsOf_take {number : Nat} {widths : List Nat} (within : number ≤ widths.length) :
    number ≤ cellsOf (widths.take number) := by
  induction widths generalizing number with
  | nil => exact Nat.le_trans within (Nat.zero_le _)
  | cons width widths induction =>
      cases number with
      | zero => exact Nat.zero_le _
      | succ number =>
          have others := induction (Nat.le_of_succ_le_succ within)
          rw [List.take_succ_cons, cellsOf, separatorWidth]
          omega

/-- The numbers of further columns that fit after those that take some cells of the width. -/
def fits (width used : Nat) (rest : List Nat) : Set Nat :=
  {number | number ≤ rest.length ∧ used + cellsOf (rest.take number) ≤ width}

section Fits

variable {width used need count : Nat} {rest : List Nat}

theorem mem_fits {number : Nat} : number ∈ fits width used rest ↔
    number ≤ rest.length ∧ used + cellsOf (rest.take number) ≤ width := Iff.rfl

/-- When all of the width is used no further column fits. -/
theorem isGreatest_fits_self (width : Nat) (rest : List Nat) : IsGreatest (fits width width rest) 0 := by
  refine ⟨⟨Nat.zero_le _, Nat.le_refl width⟩, fun number fitting => ?_⟩
  have atMost := le_cellsOf_take fitting.1
  have within := fitting.2
  omega

theorem isGreatest_fits_nil (within : used ≤ width) : IsGreatest (fits width used []) 0 :=
  ⟨⟨Nat.le_refl 0, within⟩, fun _ fitting => fitting.1⟩

theorem succ_mem_fits_cons {number : Nat} : number + 1 ∈ fits width used (need :: rest) ↔
    number ∈ fits width (used + separatorWidth + need) rest := by
  have taken : used + cellsOf ((need :: rest).take (number + 1)) =
      used + separatorWidth + need + cellsOf (rest.take number) := by
    rw [List.take_succ_cons, cellsOf]
    omega
  rw [mem_fits, mem_fits, taken, List.length_cons, Nat.succ_le_succ_iff]

theorem isGreatest_fits_of_lt (within : used ≤ width) (exceeds : width < used + separatorWidth + need) :
    IsGreatest (fits width used (need :: rest)) 0 := by
  refine ⟨⟨Nat.zero_le _, within⟩, fun number fitting => ?_⟩
  cases number with
  | zero => exact Nat.le_refl 0
  | succ number =>
      have exceeded := (succ_mem_fits_cons.mp fitting).2
      omega

theorem isGreatest_fits_cons
    (greatest : IsGreatest (fits width (used + separatorWidth + need) rest) count) :
    IsGreatest (fits width used (need :: rest)) (count + 1) := by
  refine ⟨succ_mem_fits_cons.mpr greatest.1, fun number fitting => ?_⟩
  cases number with
  | zero => exact Nat.zero_le _
  | succ number => exact Nat.succ_le_succ (greatest.2 (succ_mem_fits_cons.mp fitting))

end Fits

/-- Columns after others are shown from the first one on, as long as they fit. -/
theorem exists_fittingAfter {width : Nat} (index used : Nat) (rest : List Nat) (within : used ≤ width) :
    ∃ count, fittingAfter width index used rest = List.range' index count ∧
      IsGreatest (fits width used rest) count := by
  induction rest generalizing index used with
  | nil => exact ⟨0, rfl, isGreatest_fits_nil within⟩
  | cons need rest induction =>
      rw [fittingAfter]
      split
      · next exceeds => exact ⟨0, rfl, isGreatest_fits_of_lt within (by omega)⟩
      split
      · next atMost exact =>
        have none := isGreatest_fits_self (used + separatorWidth + need) rest
        have isAll : used + separatorWidth + need = width := by omega
        refine ⟨1, rfl, isGreatest_fits_cons ?_⟩
        rwa [isAll] at none ⊢
      · next atMost short =>
        rcases induction (index + 1) (used + separatorWidth + need) (by omega) with
          ⟨count, shown, greatest⟩
        exact ⟨count + 1, by rw [shown]; rfl, isGreatest_fits_cons greatest⟩

/-- A run has one column more than fit after its first one. -/
theorem isRun_of_isGreatest {widths rest : List Nat} {left width first count : Nat}
    (isRest : widths.drop left = first :: rest) (within : first ≤ width)
    (greatest : IsGreatest (fits width first rest) count) : IsRun widths width left (count + 1) := by
  rcases of_drop_eq_cons isRest with ⟨isFirst, _⟩
  have length : widths.length - left = rest.length + 1 := by
    rw [← List.length_drop, isRest, List.length_cons]
  rw [IsRun, isFirst, isRest, length, if_neg (by omega)]
  refine ⟨⟨Nat.succ_le_succ greatest.1.1, ?_⟩, fun number fitting => ?_⟩
  · rw [List.take_succ_cons, spanOf]
    exact greatest.1.2
  · cases number with
    | zero => exact Nat.zero_le _
    | succ number =>
        have fitsAll := fitting.2
        rw [List.take_succ_cons, spanOf] at fitsAll
        exact Nat.succ_le_succ (greatest.2 ⟨Nat.le_of_succ_le_succ fitting.1, fitsAll⟩)

theorem isRun_of_drop_eq_nil {widths : List Nat} {left : Nat} (isRest : widths.drop left = [])
    (width : Nat) : IsRun widths width left 0 := by
  have outside : widths.length ≤ left := List.drop_eq_nil_iff.mp isRest
  rw [IsRun, List.getD_eq_getElem?_getD, List.getElem?_eq_none outside, Option.getD_none,
    if_neg (Nat.not_lt_zero width)]
  exact ⟨⟨Nat.zero_le _, Nat.zero_le _⟩, fun number fitting => by have := fitting.1; omega⟩

/-- The columns that are shown from one on are a run. -/
theorem exists_isRun (widths : List Nat) (left width : Nat) :
    ∃ count, fittingColumns widths left width = List.range' left count ∧
      IsRun widths width left count := by
  unfold fittingColumns
  split
  · next isRest => exact ⟨0, rfl, isRun_of_drop_eq_nil isRest width⟩
  · next first rest isRest =>
    split
    · next tight =>
      refine ⟨1, rfl, ?_⟩
      rcases Nat.lt_or_eq_of_le (Int.ofNat_le.mp tight) with exceeds | rfl
      · rcases of_drop_eq_cons isRest with ⟨isFirst, _⟩
        rw [IsRun, isFirst, if_pos exceeds]
      · exact isRun_of_isGreatest isRest (Nat.le_refl width) (isGreatest_fits_self width rest)
    · next roomy =>
      have within : first ≤ width := by omega
      rcases exists_fittingAfter (left + 1) first rest within with ⟨others, shown, greatest⟩
      exact ⟨others + 1, by rw [shown]; rfl, isRun_of_isGreatest isRest within greatest⟩

theorem IsRun.unique {widths : List Nat} {width left first second : Nat}
    (isFirst : IsRun widths width left first) (isSecond : IsRun widths width left second) :
    first = second := by
  unfold IsRun at isFirst isSecond
  split at isFirst
  · next tight =>
    rw [if_pos tight] at isSecond
    rw [isFirst, isSecond]
  · next roomy =>
    rw [if_neg roomy] at isSecond
    exact isFirst.unique isSecond

/-- A window from `left` on shows the column. -/
def ShownFrom (widths : List Nat) (width left column : Nat) : Prop :=
  ∃ count, IsRun widths width left count ∧ left ≤ column ∧ column < left + count

theorem mem_fittingColumns_iff {widths : List Nat} {width left column : Nat} :
    column ∈ fittingColumns widths left width ↔ ShownFrom widths width left column := by
  rcases exists_isRun widths left width with ⟨count, shown, isRun⟩
  rw [shown, List.mem_range'_1]
  constructor
  · exact fun within => ⟨count, isRun, within⟩
  · rintro ⟨other, isOther, within⟩
    rwa [isRun.unique isOther]

/-! ## Windows that stay -/

@[simp] theorem clamp_clamp (value : Int) (limit : Nat) :
    clamp (clamp value limit) limit = clamp value limit := by
  unfold clamp
  omega

/-- A top that shows a row and leaves no room below the last one stays. -/
theorem topFor_of_shows {top row visible count : Nat} (reached : top ≤ row)
    (shown : row < top + visible) (filled : top ≤ count - visible) :
    topFor top row visible count = top := by
  rw [topFor, if_neg (by omega)]
  simp only [Int.toNat_natCast]
  rw [if_neg (by omega), if_neg (by omega), clamp]
  omega

theorem topFor_topFor (top : Int) {row visible count : Nat} (isRow : row ≤ count - 1) :
    topFor (topFor top row visible count) row visible count = topFor top row visible count := by
  rcases Nat.eq_zero_or_pos visible with rfl | roomy
  · rfl
  rcases Nat.eq_zero_or_pos count with rfl | some
  · -- Without rows every window starts at the top.
    have nothing (top : Int) : topFor top row visible 0 = 0 := by
      rw [topFor, if_neg (by omega), clamp]
      omega
    rw [nothing, nothing]
  · rcases topFor_shows top roomy (by omega : row < count) with ⟨reached, shown, filled⟩
    exact topFor_of_shows reached shown filled

variable {column : Nat} {widths : List Nat}

theorem ShownFrom.le {left width : Nat} (shown : ShownFrom widths width left column) :
    left ≤ column := by
  rcases shown with ⟨_, _, reached, _⟩
  exact reached

theorem ShownFrom.lt {left width : Nat} (shown : ShownFrom widths width left column) :
    column < widths.length := by
  rcases shown with ⟨count, isRun, reached, within⟩
  unfold IsRun at isRun
  split at isRun
  · next tight =>
    have inside : left < widths.length := by
      by_contra outside
      rw [List.getD_eq_getElem?_getD, List.getElem?_eq_none (Nat.le_of_not_lt outside)] at tight
      exact Nat.not_lt_zero _ tight
    omega
  · have atMost := isRun.1.1
    omega

/-- Whatever window was asked for, it comes to show a column of its view. -/
theorem shownFrom_leftFor (left : Int) (width : Nat) (inView : column < widths.length) :
    ShownFrom widths width (leftFor left column widths width) column :=
  mem_fittingColumns_iff.mp (leftFor_shows left inView width)

/-- A window that shows the column is left where it is. -/
theorem leftFor_of_shownFrom {left : Int} {width : Nat} (inView : column < widths.length)
    (shown : ShownFrom widths width (clamp left (widths.length - 1)) column) :
    leftFor left column widths width = clamp left (widths.length - 1) := by
  have least := isLeast_leftFor inView shown.le (width : Int)
  exact Nat.le_antisymm (least.2 ⟨Nat.le_refl _, mem_fittingColumns_iff.mpr shown⟩) least.1.1

/-- A window that does not show a column to its right moves on to the first place that does. -/
theorem isLeast_leftFor_of_not_shownFrom {left : Int} {width : Nat} (inView : column < widths.length)
    (ahead : clamp left (widths.length - 1) ≤ column)
    (hidden : ¬ ShownFrom widths width (clamp left (widths.length - 1)) column) :
    IsLeast {place | clamp left (widths.length - 1) < place ∧ ShownFrom widths width place column}
      (leftFor left column widths width) := by
  have least := isLeast_leftFor inView ahead (width : Int)
  have shown := shownFrom_leftFor left width inView
  refine ⟨⟨Nat.lt_of_le_of_ne least.1.1 fun same => hidden (same ▸ shown), shown⟩, ?_⟩
  exact fun place further => least.2 ⟨Nat.le_of_lt further.1, mem_fittingColumns_iff.mpr further.2⟩

theorem leftFor_leftFor (left : Int) {width : Nat} (isColumn : column ≤ widths.length - 1) :
    leftFor (leftFor left column widths width) column widths width =
      leftFor left column widths width := by
  cases widths with
  | nil => rfl
  | cons first rest =>
      have inView : column < (first :: rest).length := by
        rw [List.length_cons] at isColumn ⊢
        omega
      have shown := shownFrom_leftFor left width inView
      have reached := shown.le
      have isClamped : clamp (leftFor left column (first :: rest) width) ((first :: rest).length - 1) =
          leftFor left column (first :: rest) width := by
        unfold clamp
        omega
      rw [← isClamped] at shown
      rw [leftFor_of_shownFrom inView shown, isClamped]

end Window

/-! ## Frames -/

theorem map_index_placeColumns (widths : List Nat) (total offset : Nat) (indices : List Nat) :
    (placeColumns widths total offset indices).map (·.index) = indices := by
  induction indices generalizing offset with
  | nil => rfl
  | cons index rest induction => rw [placeColumns, List.map_cons, induction]

theorem flatMap_ite_eq_of_nodup {α : Type} {items : List Nat} (nodup : items.Nodup) {item : Nat}
    (member : item ∈ items) (found : List α) :
    (items.flatMap fun other => if other = item then found else []) = found := by
  induction items with
  | nil => cases member
  | cons first items induction =>
      rcases List.nodup_cons.mp nodup with ⟨fresh, others⟩
      rw [List.flatMap_cons]
      rcases List.mem_cons.mp member with rfl | later
      · have none : (items.flatMap fun other => if other = item then found else []) = [] := by
          refine List.flatMap_eq_nil_iff.mpr fun other isOther => if_neg ?_
          rintro rfl
          exact fresh isOther
        rw [if_pos rfl, none, List.append_nil]
      · have different : first ≠ item := by
          rintro rfl
          exact fresh later
        rw [if_neg different, List.nil_append, induction others later]

/--
What a frame shows of a view whose columns have some widths: the rows that fit from
its top on and the run of columns from its left on, with the cursor in them. The
top and the left are those asked for when they lie in the view and show the cursor.
-/
structure Frame.ShowsWindow (frame : Frame) (view : Table) (widths : List Nat)
    (request : LayoutRequest) : Prop where
  cursor : frame.cursor = view.clampCursor request.row request.column
  rows : ∀ row, row ∈ frame.rowIndices ↔ row < view.rowCount ∧
    frame.scroll.top ≤ row ∧ row < frame.scroll.top + visibleRows request.size.height
  rowsOrdered : frame.rowIndices.Pairwise (· < ·)
  rowShown : 0 < visibleRows request.size.height → 0 < view.rowCount →
    frame.cursor.row ∈ frame.rowIndices
  topKept : ∀ top : Nat, request.top = top →
    top ≤ view.rowCount - visibleRows request.size.height → top ≤ frame.cursor.row →
    frame.cursor.row < top + visibleRows request.size.height → frame.scroll.top = top
  columns : ∃ count, frame.columnIndices = List.range' frame.scroll.left count ∧
    Window.IsRun widths request.size.width frame.scroll.left count
  columnShown : 0 < view.columnCount → frame.cursor.column ∈ frame.columnIndices
  leftKept :
    let left := Window.clamp request.left (view.columnCount - 1)
    Window.ShownFrom widths request.size.width left frame.cursor.column → frame.scroll.left = left
  leftBack : frame.cursor.column < Window.clamp request.left (view.columnCount - 1) →
    frame.scroll.left = frame.cursor.column
  leftOn : 0 < view.columnCount →
    let left := Window.clamp request.left (view.columnCount - 1)
    left ≤ frame.cursor.column →
    ¬ Window.ShownFrom widths request.size.width left frame.cursor.column →
    IsLeast {place | left < place ∧
      Window.ShownFrom widths request.size.width place frame.cursor.column} frame.scroll.left
  leftNone : view.columnCount = 0 → frame.scroll.left = 0
  selected : frame.rowIndices ≠ [] → frame.columnIndices ≠ [] →
    frame.places (·.selected) = [frame.cursor]

section Layout

variable (appearance : Appearance) (view : Table) (request : LayoutRequest)

/-- The cell of the cursor is the only one that is marked as selected, if it is shown. -/
theorem places_selected (frame : Frame) (isFrame : frame = layout appearance view request)
    (isRow : frame.cursor.row ∈ frame.rowIndices) (isColumn : frame.cursor.column ∈ frame.columnIndices)
    (nodup : frame.columnIndices.Nodup) : frame.places (·.selected) = [frame.cursor] := by
  have cells : frame.places (·.selected) = frame.rowIndices.flatMap fun row =>
      if row = frame.cursor.row then
        frame.columnIndices.flatMap fun column =>
          if column = frame.cursor.column then [frame.cursor] else []
      else [] := by
    simp only [isFrame, layout, Frame.places, ← List.map_prod_left_eq_zip, List.flatMap_map,
      List.zip_map', List.filterMap_eq_flatMap_toList]
    refine congrArg (List.flatMap · _) (funext fun row => ?_)
    split
    · next here =>
      refine congrArg (List.flatMap · _) (funext fun place => ?_)
      by_cases sameColumn : place.index = (view.clampCursor request.row request.column).column
      · simp [here, sameColumn]
      · simp [sameColumn]
    · next elsewhere => simp [elsewhere]
  have rowsNodup : frame.rowIndices.Nodup := by
    rw [isFrame]
    exact List.nodup_range'
  rw [cells, flatMap_ite_eq_of_nodup nodup isColumn, flatMap_ite_eq_of_nodup rowsNodup isRow]

theorem length_widthsFor : (request.widthsFor appearance view).length = view.columnCount := by
  unfold LayoutRequest.widthsFor
  split
  · next widths given =>
    rw [Option.filter_eq_some_iff, decide_eq_true_iff] at given
    exact given.2
  · exact List.length_map ..

theorem cursor_layout :
    (layout appearance view request).cursor = view.clampCursor request.row request.column := rfl

theorem scroll_layout :
    let widths := request.widthsFor appearance view
    let cursor := view.clampCursor request.row request.column
    (layout appearance view request).scroll =
      ⟨Window.topFor request.top cursor.row (visibleRows request.size.height) view.rowCount,
        Window.leftFor request.left cursor.column widths request.size.width⟩ := rfl

theorem columnIndices_layout :
    (layout appearance view request).columnIndices =
      Window.fittingColumns (request.widthsFor appearance view)
        (layout appearance view request).scroll.left request.size.width :=
  map_index_placeColumns ..

theorem mem_rowIndices_layout {row : Nat} :
    let frame := layout appearance view request
    row ∈ frame.rowIndices ↔ row < view.rowCount ∧
      frame.scroll.top ≤ row ∧ row < frame.scroll.top + visibleRows request.size.height := by
  simp only [layout, List.mem_range'_1]
  omega

theorem row_mem_rowIndices_layout (roomy : 0 < visibleRows request.size.height)
    (some : 0 < view.rowCount) :
    (layout appearance view request).cursor.row ∈ (layout appearance view request).rowIndices := by
  have isRow : (layout appearance view request).cursor.row < view.rowCount :=
    Nat.lt_of_le_pred some (Window.clamp_le _ _)
  have shows := Window.topFor_shows request.top roomy isRow
  exact (mem_rowIndices_layout appearance view request).mpr ⟨isRow, shows.1, shows.2.1⟩

theorem column_lt_length_widthsFor (some : 0 < view.columnCount) :
    (layout appearance view request).cursor.column < (request.widthsFor appearance view).length := by
  rw [length_widthsFor]
  exact Nat.lt_of_le_pred some (Window.clamp_le _ _)

theorem column_mem_columnIndices_layout (some : 0 < view.columnCount) :
    (layout appearance view request).cursor.column ∈
      (layout appearance view request).columnIndices := by
  rw [columnIndices_layout, Window.mem_fittingColumns_iff]
  exact Window.shownFrom_leftFor request.left _ (column_lt_length_widthsFor appearance view request some)

theorem showsWindow_layout : (layout appearance view request).ShowsWindow view
    (request.widthsFor appearance view) request := by
  let frame := layout appearance view request
  have count := length_widthsFor appearance view request
  have inView : 0 < view.columnCount → _ := column_lt_length_widthsFor appearance view request
  rcases Window.exists_isRun (request.widthsFor appearance view) frame.scroll.left request.size.width with
    ⟨shown, isShown, isRun⟩
  rw [← columnIndices_layout] at isShown
  change frame.ShowsWindow view (request.widthsFor appearance view) request
  constructor
  case cursor => rfl
  case rows => exact fun row => mem_rowIndices_layout appearance view request
  case rowsOrdered => exact List.pairwise_lt_range'
  case rowShown => exact row_mem_rowIndices_layout appearance view request
  case topKept =>
    intro top isTop filled reached within
    have kept := Window.topFor_of_shows reached within filled
    rwa [← isTop] at kept
  case columns => exact ⟨shown, isShown, isRun⟩
  case columnShown => exact column_mem_columnIndices_layout appearance view request
  case leftKept =>
    intro left isKept
    have kept : Window.ShownFrom _ _ (Window.clamp request.left _) _ → frame.scroll.left = _ :=
      Window.leftFor_of_shownFrom isKept.lt
    rw [count] at kept
    exact kept isKept
  case leftBack =>
    intro behind
    have bounded := Window.clamp_le request.left (view.columnCount - 1)
    have some : 0 < view.columnCount := by omega
    rw [← count] at behind
    exact Window.leftFor_of_lt (inView some) behind _
  case leftOn =>
    intro some left ahead hidden
    have least : _ ≤ _ → ¬ Window.ShownFrom _ _ (Window.clamp request.left _) _ →
        IsLeast _ frame.scroll.left := Window.isLeast_leftFor_of_not_shownFrom (inView some)
    rw [count] at least
    exact least ahead hidden
  case leftNone =>
    intro none
    have noWidths : request.widthsFor appearance view = [] := List.length_eq_zero_iff.mp (count.trans none)
    change Window.leftFor _ _ (request.widthsFor appearance view) _ = 0
    rw [noWidths]
    rfl
  case selected =>
    intro someRows someColumns
    rcases List.exists_mem_of_ne_nil _ someRows with ⟨row, isShownRow⟩
    have rowInView := (mem_rowIndices_layout appearance view request).mp isShownRow
    have someOfView : 0 < view.columnCount := by
      rcases List.exists_mem_of_ne_nil _ someColumns with ⟨column, isShownColumn⟩
      rw [columnIndices_layout, Window.mem_fittingColumns_iff] at isShownColumn
      have inside := isShownColumn.lt
      omega
    refine places_selected appearance view request frame rfl
      (row_mem_rowIndices_layout appearance view request (by omega) (by omega))
      (column_mem_columnIndices_layout appearance view request someOfView) ?_
    rw [isShown]
    exact List.nodup_range'

/-- Where a frame stands, laying it out again changes nothing. -/
theorem layout_layout :
    let frame := layout appearance view request
    layout appearance view { request with
      row := frame.cursor.row
      column := frame.cursor.column
      top := frame.scroll.top
      left := frame.scroll.left } = frame := by
  intro frame
  have sameCursor : view.clampCursor frame.cursor.row frame.cursor.column = frame.cursor := by
    simp [frame, layout, Table.clampCursor]
  have sameTop : Window.topFor frame.scroll.top frame.cursor.row
      (visibleRows request.size.height) view.rowCount = frame.scroll.top :=
    Window.topFor_topFor request.top (Window.clamp_le ..)
  have sameLeft : Window.leftFor frame.scroll.left frame.cursor.column
      (request.widthsFor appearance view) request.size.width = frame.scroll.left := by
    refine Window.leftFor_leftFor request.left ?_
    rw [length_widthsFor]
    exact Window.clamp_le ..
  have sameWidths : LayoutRequest.widthsFor { request with
      row := frame.cursor.row, column := frame.cursor.column,
      top := frame.scroll.top, left := frame.scroll.left } appearance view =
        request.widthsFor appearance view := rfl
  rw [layout]
  simp only [sameWidths, sameCursor, sameTop, sameLeft]
  rfl

theorem widthsFor_of_given {widths : List Nat} (given : request.widths = some widths)
    (count : widths.length = view.columnCount) : request.widthsFor appearance view = widths := by
  rw [LayoutRequest.widthsFor, given, Option.filter_some, if_pos (decide_eq_true count)]

/--
A frame shows a window on the view, in the widths that were given for the columns
of the view, or else measured. The window holds the cursor where the view has rows
and columns for it and has moved no more than that takes, and a frame that is laid
out again where it stands is the same.
-/
theorem layout_shows_window :
    let frame := layout appearance view request
    frame.ShowsWindow view (request.widthsFor appearance view) request ∧
    (∀ widths, request.widths = some widths → widths.length = view.columnCount →
      request.widthsFor appearance view = widths) ∧
    layout appearance view { request with
      row := frame.cursor.row
      column := frame.cursor.column
      top := frame.scroll.top
      left := frame.scroll.left } = frame :=
  ⟨showsWindow_layout appearance view request,
    fun _ => widthsFor_of_given appearance view request, layout_layout appearance view request⟩

end Layout

/-- A view without columns has none to show, wherever the window is. -/
theorem layout_shows_no_column :
    let frame := layout {} .empty { row := 0, column := 0, size := ⟨10, 5⟩, widths := some [] }
    frame.cursor.column = 0 ∧ frame.columnIndices = [] ∧
      ∀ left, ¬ Window.ShownFrom [] 10 left frame.cursor.column :=
  ⟨rfl, rfl, fun _ shown => absurd shown.lt (Nat.not_lt_zero _)⟩

end TableBrowser
