import Mathlib.Order.Bounds.Basic
import TableBrowser.Screen.Frame
import TableBrowser.Workspace.Basic
/-!
# Tabs fitted to their views

A fitted tab has a width for each column of its view, its cursor is on a cell, or
in the corner of a view without cells, and its window shows that cell. Main
statements: a tab that is measured is fitted whatever it was, and it stays so
when the cursor moves and when the grid gets another size.
-/

namespace TableBrowser

/-! ## Windows that show a cell

A window that was moved to a row of its view shows this row, and no room below
the last one that rows above could fill. To the right a window moves column by
column until the wanted one fits. Main statement: this ends, at the first place
from which the column is shown.
-/

namespace Window

theorem clamp_le (value : Int) (limit : Nat) : clamp value limit ≤ limit := by
  unfold clamp
  omega

/-! ## Rows -/

theorem topFor_shows (top : Int) {row visible count : Nat} (roomy : 0 < visible)
    (inView : row < count) :
    topFor top row visible count ≤ row ∧ row < topFor top row visible count + visible ∧
      topFor top row visible count ≤ count - visible := by
  have positive : ¬ (visible : Int) ≤ 0 := by omega
  simp only [topFor, if_neg positive, Int.toNat_natCast]
  split
  · unfold clamp
    omega
  · split <;> unfold clamp <;> omega

/-! ## Columns -/

variable {column : Nat} {widths : List Nat}

/-- A window that starts at a column shows it, however wide it is. -/
theorem mem_fittingColumns_self (inView : column < widths.length) (width : Int) :
    column ∈ fittingColumns widths column width := by
  rw [fittingColumns, List.drop_eq_getElem_cons inView]
  simp only
  split <;> simp

theorem leftFor_of_lt {left : Int} (inView : column < widths.length)
    (behind : column < clamp left (widths.length - 1)) (width : Int) :
    leftFor left column widths width = column := by
  have given : widths.isEmpty = false := by
    rw [List.isEmpty_eq_false_iff]
    rintro rfl
    cases inView
  simp [leftFor, given, behind]

/-- The search for a place from which the column is shown ends at the first one. -/
theorem isLeast_leftFor {left : Int} (inView : column < widths.length)
    (ahead : clamp left (widths.length - 1) ≤ column) (width : Int) :
    IsLeast {place | clamp left (widths.length - 1) ≤ place ∧
      column ∈ fittingColumns widths place width} (leftFor left column widths width) := by
  generalize isStart : clamp left (widths.length - 1) = start at ahead ⊢
  have given : widths.isEmpty = false := by
    rw [List.isEmpty_eq_false_iff]
    rintro rfl
    cases inView
  have searched : leftFor left column widths width =
      ((List.range' start (column - start + 1)).find? fun place =>
        (fittingColumns widths place width).contains column).getD column := by
    simp [leftFor, given, isStart, Nat.not_lt.mpr ahead]
  rw [searched]
  cases found : (List.range' start (column - start + 1)).find? fun place =>
      (fittingColumns widths place width).contains column with
  | none =>
      -- The column itself is among the places.
      have absent := List.find?_eq_none.mp found column (by
        rw [List.mem_range'_1]
        omega)
      simp [mem_fittingColumns_self inView width] at absent
  | some place =>
      rw [List.find?_range'_eq_some] at found
      rcases found with ⟨fits, within, earlier⟩
      rw [List.mem_range'_1] at within
      refine ⟨⟨within.1, by simpa using fits⟩, ?_⟩
      rintro other ⟨reached, otherFits⟩
      by_contra before
      have notFits := earlier other reached (Nat.not_le.mp before)
      simp [otherFits] at notFits

/-- However far the window was, it comes to show a column of its view. -/
theorem leftFor_shows (left : Int) (inView : column < widths.length) (width : Int) :
    column ∈ fittingColumns widths (leftFor left column widths width) width := by
  by_cases behind : column < clamp left (widths.length - 1)
  · rw [leftFor_of_lt inView behind]
    exact mem_fittingColumns_self inView width
  · exact (isLeast_leftFor inView (Nat.not_lt.mp behind) width).1.2

end Window

namespace Tab

/-- The widths are those of the view, and the window shows the cell under the cursor. -/
structure Fitted (grid : Size) (tab : Tab) : Prop where
  widths : tab.widths.length = tab.view.columnCount
  row : tab.cursor.row < max tab.view.rowCount 1
  column : tab.cursor.column < max tab.view.columnCount 1
  rowShown : 0 < visibleRows grid.height → 0 < tab.view.rowCount →
    tab.scroll.top ≤ tab.cursor.row ∧
      tab.cursor.row < tab.scroll.top + visibleRows grid.height ∧
      tab.scroll.top ≤ tab.view.rowCount - visibleRows grid.height
  columnShown : 0 < tab.view.columnCount →
    tab.cursor.column ∈ Window.fittingColumns tab.widths tab.scroll.left grid.width

/-- Fitted, or without widths, where a tab may be left so. -/
def Shown (unfitted : Prop) (grid : Size) (tab : Tab) : Prop :=
  tab.Fitted grid ∨ (unfitted ∧ tab.widths = [])

variable {tab : Tab} {grid : Size} {unfitted : Prop}

/-! ## Moving the window -/

/-- A window that follows the cursor shows it. -/
theorem fitted_following (tab : Tab) (widths : tab.widths.length = tab.view.columnCount)
    (row : tab.cursor.row < max tab.view.rowCount 1)
    (column : tab.cursor.column < max tab.view.columnCount 1) (grid : Size) :
    (tab.following grid).Fitted grid where
  widths := widths
  row := row
  column := column
  rowShown roomy some := by
    have positive : 0 < tab.view.rowCount := some
    have inView : tab.cursor.row < tab.view.rowCount := by omega
    exact Window.topFor_shows _ roomy inView
  columnShown some := by
    have positive : 0 < tab.view.columnCount := some
    have inView : tab.cursor.column < tab.widths.length := by omega
    exact Window.leftFor_shows _ inView _

theorem fitted_movedTo (tab : Tab) (widths : tab.widths.length = tab.view.columnCount)
    (grid : Size) (row column : Int) : (tab.movedTo grid row column).Fitted grid := by
  let moved : Tab := { tab with cursor := tab.view.clampCursor row column }
  refine moved.fitted_following widths ?_ ?_ grid
  · have bound := Window.clamp_le row (tab.view.rowCount - 1)
    change Window.clamp row (tab.view.rowCount - 1) < max tab.view.rowCount 1
    omega
  · have bound := Window.clamp_le column (tab.view.columnCount - 1)
    change Window.clamp column (tab.view.columnCount - 1) < max tab.view.columnCount 1
    omega

/-- A tab that is measured anew is fitted, whatever it was. -/
theorem fitted_measured (tab : Tab) (appearance : Appearance) (grid : Size) :
    (tab.measured appearance grid).Fitted grid := by
  let widened : Tab := { tab with widths := tab.view.columnWidths appearance }
  exact widened.fitted_movedTo (List.length_map ..) grid _ _

theorem Shown.movedTo (shown : tab.Shown unfitted grid) (row column : Int) :
    (tab.movedTo grid row column).Shown unfitted grid := by
  rcases shown with fitted | blank
  · exact .inl (tab.fitted_movedTo fitted.widths grid row column)
  · exact .inr blank

theorem Shown.following (shown : tab.Shown unfitted grid) (other : Size) :
    (tab.following other).Shown unfitted other := by
  rcases shown with fitted | blank
  · exact .inl (tab.fitted_following fitted.widths fitted.row fitted.column other)
  · exact .inr blank

/-- What shows the same view in the same way is fitted as well. -/
theorem Shown.of_same (shown : tab.Shown unfitted grid) {other : Tab}
    (view : other.view = tab.view) (cursor : other.cursor = tab.cursor)
    (scroll : other.scroll = tab.scroll) (widths : other.widths = tab.widths) :
    other.Shown unfitted grid := by
  rcases shown with fitted | ⟨allowed, blank⟩
  · left
    constructor
    · rw [widths, view, fitted.widths]
    · rw [cursor, view]
      exact fitted.row
    · rw [cursor, view]
      exact fitted.column
    · rw [cursor, scroll, view]
      exact fitted.rowShown
    · rw [cursor, scroll, view, widths]
      exact fitted.columnShown
  · exact .inr ⟨allowed, widths.trans blank⟩

end Tab

end TableBrowser
