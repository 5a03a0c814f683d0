import TableBrowser.Proofs.Number.Digits
import TableBrowser.Proofs.Screen.Cuts
import TableBrowser.Proofs.Workspace.Fitted
/-!
# Lines without breaks

What is shown in one line of the screen must not end the line. Line feeds, tabs
and pairs of line ends are replaced by spaces in the cells of a grid, but a
carriage return alone is not, and the names of tabs, the status and the name of
the column of the cursor are shown as they are. Main statement: with what is
typed in one line, no line of a screen of any size has breaks exactly when what
the session shows has none.
-/

namespace TableBrowser

/-! ## Single texts -/

namespace Line

/-- A character that would end the line on a screen, or move on within it. -/
def IsBreak (char : Char) : Prop := char = '\n' ∨ char = '\r' ∨ char = '\t'

instance (char : Char) : Decidable (IsBreak char) := inferInstanceAs (Decidable (_ ∨ _))

def IsSingle (text : String) : Prop := ∀ char ∈ text.toList, ¬ IsBreak char

instance (text : String) : Decidable (IsSingle text) :=
  List.decidableBAll (fun char => ¬ IsBreak char) text.toList

theorem isSingle_ofList {chars : List Char} :
    IsSingle (String.ofList chars) ↔ ∀ char ∈ chars, ¬ IsBreak char := by
  rw [IsSingle, String.toList_ofList]

@[simp] theorem isSingle_append {left right : String} :
    IsSingle (left ++ right) ↔ IsSingle left ∧ IsSingle right := by
  simp only [IsSingle, String.toList_append, List.forall_mem_append]

theorem isSingle_empty : IsSingle "" := by decide

theorem IsSingle.of_subset {text other : String} (single : IsSingle text)
    (within : other.toList ⊆ text.toList) : IsSingle other :=
  fun char member => single char (within member)

theorem isSingle_intercalate {separator : String} (single : IsSingle separator)
    {texts : List String} :
    IsSingle (separator.intercalate texts) ↔ ∀ text ∈ texts, IsSingle text := by
  induction texts with
  | nil => simp [isSingle_empty]
  | cons first texts induction =>
      cases texts with
      | nil => simp
      | cons second texts =>
          have joined : (separator.intercalate (first :: second :: texts)) =
              first ++ separator ++ separator.intercalate (second :: texts) := by
            rw [← String.toList_inj]
            simp [String.toList_intercalate]
          rw [joined, isSingle_append, isSingle_append, induction, List.forall_mem_cons]
          simp [single]

theorem isSingle_join {texts : List String} :
    IsSingle (String.join texts) ↔ ∀ text ∈ texts, IsSingle text := by
  simp only [IsSingle, String.toList_join, List.mem_flatMap]
  constructor
  · exact fun each text member char inText => each char ⟨text, member, inText⟩
  · rintro each char ⟨text, member, inText⟩
    exact each text member char inText

theorem isSingle_pad {text : String} {cells : Int} {side : Side} :
    IsSingle (pad text cells side) ↔ IsSingle text := by
  have gap (count : Nat) : ∀ char ∈ List.replicate count ' ', ¬ IsBreak char := by
    intro char member
    rw [List.eq_of_mem_replicate member]
    decide
  cases side with
  | left =>
      rw [pad, isSingle_ofList, List.forall_mem_append]
      exact and_iff_left (gap _)
  | right =>
      rw [pad, isSingle_ofList, List.forall_mem_append]
      exact and_iff_right (gap _)

/-! ## Cuts -/

/-- Every carriage return stands before a line feed. -/
def ReturnsPaired : List Char → Prop
  | [] => True
  | char :: rest => (char = '\r' → rest.head? = some '\n') ∧ ReturnsPaired rest

/-- What is to be shown in one line has a break left where a carriage return stands alone. -/
theorem isSingle_singleLine {text : String} :
    IsSingle (singleLine text) ↔ ReturnsPaired text.toList := by
  rw [singleLine, isSingle_ofList]
  -- A pair of line ends is read as one, so the cases are those of the recursion that reads it.
  induction text.toList using flatten.induct with
  | case1 rest induction =>
      rw [flatten, List.forall_mem_cons, induction]
      simp [ReturnsPaired, IsBreak]
  | case2 char rest alone induction =>
      have unpaired (isReturn : char = '\r') : rest.head? ≠ some '\n' := by
        intro isFeed
        rcases List.head?_eq_some_iff.mp isFeed with ⟨others, isRest⟩
        exact alone others isReturn isRest
      rw [flatten, List.forall_mem_cons, induction, ReturnsPaired]
      · refine and_congr_left fun _ => ?_
        by_cases isReturn : char = '\r'
        · simp [isReturn, IsBreak, unpaired isReturn]
        · simp only [isReturn, false_implies, iff_true]
          split
          · decide
          · next kept =>
            rintro (isFeed | isReturn | isTab)
            · exact kept (.inl isFeed)
            · contradiction
            · exact kept (.inr isTab)
      · exact alone
  | case3 => simp [flatten, ReturnsPaired]

/-- What a cut shows is of the text or of the mark. -/
theorem IsSingle.truncate {text ellipsis : String} (single : IsSingle text)
    (singleMark : IsSingle ellipsis) (cells : Int) : IsSingle (truncate text cells ellipsis) := by
  unfold Line.truncate
  split
  · exact isSingle_empty
  simp only
  split
  · exact single
  split
  · rw [isSingle_ofList]
    exact fun char member => singleMark char (List.mem_of_mem_take member)
  · rw [isSingle_ofList, List.forall_mem_append]
    exact ⟨fun char member => single char ((isPrefix_fitting _ _).subset member), singleMark⟩

/-- A cut to fewer cells shows no more of the text. -/
theorem isSingle_truncate_of_le {text ellipsis : String} (singleMark : IsSingle ellipsis)
    {small large : Nat} (le : small ≤ large) (single : IsSingle (Line.truncate text large ellipsis)) :
    IsSingle (Line.truncate text small ellipsis) := by
  -- The larger cut may leave the text whole, and then the smaller one can cut it all the same.
  by_cases fits : textWidth text ≤ large
  · by_cases nothing : small = 0
    · rw [nothing]
      exact isSingle_empty
    · rw [truncate_of_le (by omega) fits] at single
      exact single.truncate singleMark _
  · unfold Line.truncate at single ⊢
    simp only [Int.toNat_natCast] at single ⊢
    split
    · exact isSingle_empty
    rw [if_neg (by omega), if_neg fits] at single
    rw [if_neg (by omega)]
    split
    · rw [isSingle_ofList]
      exact fun char member => singleMark char (List.mem_of_mem_take member)
    · rw [if_neg (by omega), isSingle_ofList, List.forall_mem_append] at single
      rw [isSingle_ofList, List.forall_mem_append]
      refine ⟨fun char member => single.1 char ?_, singleMark⟩
      exact (fitting_mono (by omega) _).subset member

end Line

open Line (IsSingle)

theorem Decimal.isSingle_natText (value : Nat) : IsSingle (natText value) := by
  rw [natText, Line.isSingle_ofList]
  intro char member isBreak
  have isDigit := isDigit_of_mem_digits member
  rcases isBreak with rfl | rfl | rfl <;> exact absurd isDigit (by decide)

/-! ## Lines of a screen -/

theorem Frame.isSingle_joinCells {texts : List String} :
    IsSingle (joinCells texts) ↔ ∀ text ∈ texts, IsSingle text :=
  Line.isSingle_intercalate (by decide)

namespace Screen

theorem isSingle_barLine {text : String} (single : IsSingle text) (width : Nat) :
    IsSingle (barLine width text) :=
  Line.isSingle_pad.mpr (single.truncate Line.isSingle_empty _)

theorem isSingle_of_barLine {text : String} {width : Nat} (roomy : 0 < width)
    (fits : Line.textWidth text ≤ width) (single : IsSingle (barLine width text)) : IsSingle text := by
  rw [barLine, Line.isSingle_pad, Line.truncate_of_le roomy fits] at single
  exact single

theorem isSingle_tabBarOf {tabs : List (String × Bool)} {active : Nat} :
    IsSingle (tabBarOf tabs active) ↔ ∀ tab ∈ tabs, IsSingle tab.1 := by
  have star (busy : Bool) : IsSingle (if busy then "*" else "") := by cases busy <;> decide
  have brackets : IsSingle "[" ∧ IsSingle "]" ∧ IsSingle " " ∧ IsSingle ":" := by decide
  have labelled (index : Nat) (tab : String × Bool) :
      IsSingle (
        let label := Decimal.natText (index + 1) ++ ":" ++ tab.1 ++ (if tab.2 then "*" else "")
        if index = active then "[" ++ label ++ "]" else " " ++ label ++ " ") ↔ IsSingle tab.1 := by
    simp only
    split <;> simp [Decimal.isSingle_natText, star, brackets]
  rw [tabBarOf, Line.isSingle_join]
  constructor
  · intro each tab member
    rcases List.getElem_of_mem member with ⟨index, within, rfl⟩
    exact (labelled index _).mp (each _ (List.mem_mapIdx.mpr ⟨index, within, rfl⟩))
  · intro each text member
    rcases List.mem_mapIdx.mp member with ⟨index, within, rfl⟩
    exact (labelled index _).mpr (each _ (List.getElem_mem within))

theorem isSingle_statusLine {message position : String} (isMessage : IsSingle message)
    (isPosition : IsSingle position) (width : Int) :
    IsSingle (statusLine message position width) := by
  have mark : IsSingle Line.defaultEllipsis := by decide
  unfold statusLine
  simp only
  split
  · exact isPosition.truncate mark _
  · rw [Line.isSingle_append, Line.isSingle_append, Line.isSingle_pad]
    exact ⟨⟨isMessage.truncate mark _, by decide⟩, isPosition⟩

/-- With room for both, message and position stand in the line as they are. -/
theorem statusLine_of_lt {message position : String} {width : Nat}
    (roomy : Line.textWidth message + Line.textWidth position + 1 < width) :
    statusLine message position width =
      Line.pad message (width - Line.textWidth position - 1 : Nat) .left ++ " " ++ position := by
  have room : (width : Int) - Line.textWidth position - 1 =
      (width - Line.textWidth position - 1 : Nat) := by omega
  rw [statusLine, room]
  rw [if_neg (by omega), Line.truncate_of_le (by omega) (by omega)]

theorem single_of_single_statusLine {message position : String} {width : Nat}
    (roomy : Line.textWidth message + Line.textWidth position + 1 < width)
    (single : IsSingle (barLine width (statusLine message position width))) :
    IsSingle message ∧ IsSingle position := by
  rw [statusLine_of_lt roomy] at single
  have fits : Line.textWidth (Line.pad message (width - Line.textWidth position - 1 : Nat) .left
      ++ " " ++ position) ≤ width := by
    rw [Line.textWidth_append, Line.textWidth_append, Line.textWidth_pad_of_le (by omega),
      show Line.textWidth " " = 1 from rfl]
    omega
  have whole := isSingle_of_barLine (by omega) fits single
  rw [Line.isSingle_append, Line.isSingle_append, Line.isSingle_pad] at whole
  exact ⟨whole.1.1, whole.2⟩

variable {screen : Screen}

theorem isSingle_of_mem_lines (tabBar : IsSingle screen.tabBar) (bottom : IsSingle screen.bottom)
    (grid : ∀ frame, screen.frame = some frame → ∀ line ∈ frame.lines, IsSingle line) :
    ∀ line ∈ screen.lines, IsSingle line := by
  intro line member
  have inAll := List.mem_of_mem_take member
  rcases List.mem_append.mp inAll with inUpper | inBottom
  · rcases List.mem_cons.mp inUpper with rfl | inBody
    · exact isSingle_barLine tabBar _
    · rcases List.mem_map.mp inBody with ⟨index, _, rfl⟩
      rw [Line.isSingle_pad]
      cases shown : screen.frame with
      | none => exact Line.isSingle_empty
      | some frame =>
          rw [Option.map_some, Option.getD_some, List.getD_eq_getElem?_getD]
          cases isLine : frame.lines[index]? with
          | none => exact Line.isSingle_empty
          | some line => exact grid frame shown line (List.mem_of_getElem? isLine)
  · split at inBottom
    · rw [List.mem_singleton.mp inBottom]
      exact isSingle_barLine bottom _
    · cases inBottom

/-- A screen with room for its surroundings and its frame shows all of them. -/
theorem single_of_single_lines (tall : surroundingLines ≤ screen.size.height)
    (single : ∀ line ∈ screen.lines, IsSingle line) :
    IsSingle (barLine screen.size.width screen.tabBar) ∧
      IsSingle (barLine screen.size.width screen.bottom) ∧
      ∀ frame, screen.frame = some frame →
        frame.lines.length + surroundingLines ≤ screen.size.height →
          ∀ line ∈ frame.lines, IsSingle line := by
  have all : ∀ line ∈ barLine screen.size.width screen.tabBar ::
      ((List.range (gridSize screen.size).height).map fun index =>
        Line.pad (((screen.frame.map Frame.lines).getD []).getD index "") screen.size.width .left) ++
      [barLine screen.size.width screen.bottom], IsSingle line := by
    intro line member
    apply single
    rw [lines, if_pos tall, List.take_of_length_le]
    · exact member
    · simp [gridSize, surroundingLines] at tall ⊢
      omega
  refine ⟨all _ (by simp), all _ (by simp), fun frame shown fits line member => ?_⟩
  rcases List.getElem_of_mem member with ⟨index, within, rfl⟩
  have padded := all (Line.pad (((screen.frame.map Frame.lines).getD []).getD index "")
    screen.size.width .left) (by
      refine List.mem_append_left _ (List.mem_cons_of_mem _ (List.mem_map_of_mem ?_))
      rw [List.mem_range]
      exact Nat.lt_of_lt_of_le within (Nat.le_sub_of_add_le fits))
  rw [Line.isSingle_pad, shown, Option.map_some, Option.getD_some, List.getD_eq_getElem?_getD,
    List.getElem?_eq_getElem within] at padded
  exact padded

end Screen

/-! ## Columns that are shown -/

namespace Window

theorem mem_fittingAfter {width : Int} {widths : List Nat} {index used shown : Nat}
    (member : shown ∈ fittingAfter width index used widths) :
    index ≤ shown ∧ shown < index + widths.length := by
  induction widths generalizing index used with
  | nil => cases member
  | cons need rest induction =>
      rw [fittingAfter] at member
      rw [List.length_cons]
      split at member
      · cases member
      split at member
      · rw [List.mem_singleton] at member
        omega
      · rcases List.mem_cons.mp member with rfl | later
        · omega
        · have within := induction later
          omega

theorem mem_fittingColumns {width : Int} {widths : List Nat} {left shown : Nat}
    (member : shown ∈ fittingColumns widths left width) : left ≤ shown ∧ shown < widths.length := by
  unfold fittingColumns at member
  split at member
  next => cases member
  next first rest isRest =>
    have count : widths.length - left = rest.length + 1 := by
      rw [← List.length_drop, isRest, List.length_cons]
    split at member
    · rw [List.mem_singleton] at member
      omega
    · rcases List.mem_cons.mp member with rfl | later
      · omega
      · have within := mem_fittingAfter later
        omega

end Window

theorem mem_placeColumns {widths indices : List Nat} {total offset : Nat} {place : ShownColumn}
    (member : place ∈ placeColumns widths total offset indices) :
    place.index ∈ indices ∧ place.width ≤ widths.getD place.index 0 := by
  induction indices generalizing offset with
  | nil => cases member
  | cons index rest induction =>
      rcases List.mem_cons.mp member with rfl | later
      · exact ⟨List.mem_cons_self, Nat.min_le_left _ _⟩
      · have found := induction later
        exact ⟨List.mem_cons_of_mem _ found.1, found.2⟩

/-- Where there is room for all columns, each of them is shown in its own width. -/
theorem exists_place_fittingAfter {widths rest : List Nat} {total index used shown : Nat}
    (roomy : used + cellsOf rest < total) (isRest : widths.drop index = rest)
    (reached : index ≤ shown) (within : shown < widths.length) :
    ∃ place ∈ placeColumns widths total (used + Window.separatorWidth)
        (Window.fittingAfter total index used rest),
      place.index = shown ∧ place.width = widths.getD shown 0 := by
  induction rest generalizing index used with
  | nil =>
      have : widths.length ≤ index := List.drop_eq_nil_iff.mp isRest
      omega
  | cons need rest induction =>
      rcases of_drop_eq_cons isRest with ⟨isNeed, isNext⟩
      rw [cellsOf] at roomy
      rw [Window.fittingAfter, if_neg (by omega), if_neg (by omega)]
      have taken : min need (total - (used + Window.separatorWidth)) = need := by omega
      simp only [placeColumns, isNeed, taken, List.mem_cons, exists_eq_or_imp]
      rcases Nat.eq_or_lt_of_le reached with rfl | later
      · exact .inl ⟨rfl, isNeed.symm⟩
      · exact .inr (induction (by omega) isNext later)

theorem exists_place {widths : List Nat} {total left shown : Nat} (roomy : cellsOf widths < total)
    (reached : left ≤ shown) (within : shown < widths.length) :
    ∃ place ∈ placeColumns widths total 0 (Window.fittingColumns widths left total),
      place.index = shown ∧ place.width = widths.getD shown 0 := by
  have parts := cellsOf_append (widths.take left) (widths.drop left)
  rw [List.take_append_drop] at parts
  rcases List.exists_cons_of_length_pos (l := widths.drop left)
    (by rw [List.length_drop]; omega) with ⟨first, rest, isRest⟩
  rw [isRest, cellsOf] at parts
  rcases of_drop_eq_cons isRest with ⟨isFirst, isNext⟩
  unfold Window.fittingColumns
  simp only [isRest]
  rw [if_neg (by omega)]
  have taken : min first (total - 0) = first := by omega
  simp only [placeColumns, isFirst, taken, List.mem_cons, exists_eq_or_imp, Nat.zero_add]
  rcases Nat.eq_or_lt_of_le reached with rfl | later
  · exact .inl ⟨rfl, isFirst.symm⟩
  · exact .inr (exists_place_fittingAfter (by omega) isNext later within)

/-! ## What a session shows -/

/-- The widths of the columns of a tab, measured when there are not as many as columns. -/
def Tab.shownWidths (appearance : Appearance) (tab : Tab) : List Nat :=
  if tab.widths.length = tab.view.columnCount then tab.widths else tab.view.columnWidths appearance

/-- The cell of the cursor, in the view. -/
def Tab.place (tab : Tab) : Coordinate := tab.view.clampCursor tab.cursor.row tab.cursor.column

/-- The first column that can be shown: that of the window, or of the cursor when it is before. -/
def Tab.firstShown (appearance : Appearance) (tab : Tab) : Nat :=
  min (Window.clamp tab.scroll.left ((tab.shownWidths appearance).length - 1)) tab.place.column

/-- The columns that are shown in some width. -/
def Tab.columnsShown (appearance : Appearance) (tab : Tab) (width : Nat) : List ShownColumn :=
  let widths := tab.shownWidths appearance
  placeColumns widths width 0 (Window.fittingColumns widths
    (Window.leftFor tab.scroll.left tab.place.column widths width) width)

/-- The rows of the view that are shown in a grid of some height. -/
def Tab.rowsShown (tab : Tab) (height : Nat) : List Nat :=
  let top := Window.topFor tab.scroll.top tab.place.row (visibleRows height) tab.view.rowCount
  List.range' top (min (top + visibleRows height) tab.view.rowCount - top)

/-- Header and cells of the columns that can be shown have no breaks where they are not cut off. -/
def Tab.GridSingle (appearance : Appearance) (tab : Tab) : Prop :=
  ∀ index column, tab.view.columns[index]? = some column → tab.firstShown appearance ≤ index →
    ∀ text ∈ column.name :: column.values.map Datum.cellText,
      IsSingle (Line.truncate (Line.singleLine text) ((tab.shownWidths appearance).getD index 0 : Nat)
        appearance.ellipsis)

section Grid

variable {appearance : Appearance} {tab : Tab}

theorem Tab.length_shownWidths (appearance : Appearance) (tab : Tab) :
    (tab.shownWidths appearance).length = tab.view.columnCount := by
  unfold shownWidths
  split
  next given => exact given
  next => rw [Table.columnWidths, List.length_map, Table.columnCount]

theorem Tab.column_place_lt (shown : 0 < tab.view.columnCount) :
    tab.place.column < (tab.shownWidths appearance).length := by
  have bounded : tab.place.column ≤ tab.view.columnCount - 1 := Window.clamp_le _ _
  rw [tab.length_shownWidths appearance]
  omega

theorem Tab.firstShown_le_leftFor (appearance : Appearance) (tab : Tab) (width : Int) :
    tab.firstShown appearance ≤
      Window.leftFor tab.scroll.left tab.place.column (tab.shownWidths appearance) width := by
  rcases Nat.eq_zero_or_pos tab.view.columnCount with none | some
  · have bounded := Window.clamp_le tab.scroll.left ((tab.shownWidths appearance).length - 1)
    rw [tab.length_shownWidths appearance, none] at bounded
    rw [firstShown, tab.length_shownWidths appearance, none]
    omega
  · have inView : tab.place.column < (tab.shownWidths appearance).length := column_place_lt some
    by_cases behind : tab.place.column <
        Window.clamp tab.scroll.left ((tab.shownWidths appearance).length - 1)
    · rw [Window.leftFor_of_lt inView behind]
      exact Nat.min_le_right _ _
    · exact Nat.le_trans (Nat.min_le_left _ _)
        (Window.isLeast_leftFor inView (Nat.not_lt.mp behind) width).1.1

/-- With room for all columns the window is not moved more than to show the cursor. -/
theorem Tab.leftFor_eq_firstShown {width : Nat} (roomy : cellsOf (tab.shownWidths appearance) < width)
    (some : 0 < tab.view.columnCount) :
    Window.leftFor tab.scroll.left tab.place.column (tab.shownWidths appearance) width =
      tab.firstShown appearance := by
  have inView : tab.place.column < (tab.shownWidths appearance).length := column_place_lt some
  by_cases behind : tab.place.column <
      Window.clamp tab.scroll.left ((tab.shownWidths appearance).length - 1)
  · rw [Window.leftFor_of_lt inView behind, firstShown, Nat.min_eq_right (Nat.le_of_lt behind)]
  · refine Nat.le_antisymm ?_ (tab.firstShown_le_leftFor appearance width)
    have ahead := Nat.not_lt.mp behind
    rw [firstShown, Nat.min_eq_left ahead]
    refine (Window.isLeast_leftFor inView ahead width).2 ⟨Nat.le_refl _, ?_⟩
    rcases exists_place roomy ahead inView with ⟨place, member, isIndex, _⟩
    exact isIndex ▸ (mem_placeColumns member).1

theorem Tab.lt_rowCount_of_shown (tab : Tab) {row height : Nat} (shown : row ∈ tab.rowsShown height) :
    row < tab.view.rowCount := by
  rw [rowsShown, List.mem_range'_1] at shown
  omega

/-- A grid with room for all rows and the header shows all of them. -/
theorem Tab.mem_rowsShown_of_lt (tab : Tab) {row height : Nat} (tall : tab.view.rowCount < height)
    (inView : row < tab.view.rowCount) : row ∈ tab.rowsShown height := by
  have visible : tab.view.rowCount ≤ visibleRows height := by
    rw [visibleRows]
    omega
  have isCursor : tab.place.row < tab.view.rowCount := by
    have bounded : tab.place.row ≤ tab.view.rowCount - 1 := Window.clamp_le _ _
    omega
  have roomy : 0 < visibleRows height := by omega
  have shows := Window.topFor_shows tab.scroll.top roomy isCursor
  rw [rowsShown, List.mem_range'_1]
  omega

theorem isSingle_fitted {ellipsis text : String} {width : Nat} (side : Line.Side) :
    IsSingle (fitted ellipsis width side text) ↔
      IsSingle (Line.truncate (Line.singleLine text) width ellipsis) := Line.isSingle_pad

/-- Where carriage returns stand before line feeds, a grid shows no breaks. -/
theorem Tab.gridSingle_of_paired (mark : IsSingle appearance.ellipsis)
    (paired : ∀ column ∈ tab.view.columns, ∀ text ∈ column.name :: column.values.map Datum.cellText,
      Line.ReturnsPaired text.toList) : tab.GridSingle appearance := by
  intro index column isColumn _ text member
  have single := Line.isSingle_singleLine.mpr (paired column (List.mem_of_getElem? isColumn) text member)
  exact single.truncate mark _

end Grid

namespace Session

variable (session : Session)

/-- What has no breaks in it when no line of a screen has. -/
structure ShowsSingle : Prop where
  names : ∀ tab ∈ session.workspace.tabs, IsSingle tab.name
  status : session.mode = .navigation → IsSingle session.workspace.status
  position : session.mode = .navigation → ∀ tab, session.workspace.activeTab? = some tab →
    tab.isLoading = false → IsSingle (tab.view.header.getD tab.place.column "")
  grid : ∀ tab, session.workspace.activeTab? = some tab →
    tab.GridSingle session.workspace.settings.appearance

variable {session} {tab : Tab}

theorem widthsFor_tab (appearance : Appearance) (tab : Tab) (row column top left : Int) (size : Size)
    (highlights : List Coordinate) :
    LayoutRequest.widthsFor { row, column, top, left, size, widths := some tab.widths, highlights }
      appearance tab.view = tab.shownWidths appearance := by
  unfold LayoutRequest.widthsFor Tab.shownWidths
  rw [Option.filter_some]
  by_cases same : tab.widths.length = tab.view.columnCount
  · rw [if_pos same, if_pos (decide_eq_true same)]
  · rw [if_neg same, if_neg (by simpa using same)]

theorem lines_frameOf (session : Session) (size : Size) (tab : Tab) :
    let appearance := session.workspace.settings.appearance
    let shown := tab.columnsShown appearance size.width
    (session.frameOf size tab).lines =
      Frame.joinCells (shown.map fun place => fitted appearance.ellipsis place.width .left
        (tab.view.columns.getD place.index .blank).name) ::
      (tab.rowsShown (Screen.gridSize size).height).map fun row =>
        Frame.joinCells (shown.map fun place =>
          let column := tab.view.columns.getD place.index .blank
          fitted appearance.ellipsis place.width column.type.side
            (column.values.getD row .null).cellText) := by
  simp only [frameOf, layout, Frame.lines, List.map_map, Function.comp_def, widthsFor_tab]
  rfl

theorem isSingle_of_mem_frameOf (mark : IsSingle session.workspace.settings.ellipsis)
    (grid : tab.GridSingle session.workspace.settings.appearance) (size : Size) :
    ∀ line ∈ (session.frameOf size tab).lines, IsSingle line := by
  rw [lines_frameOf]
  generalize isAppearance : session.workspace.settings.appearance = appearance at grid
  have markShown : IsSingle appearance.ellipsis := isAppearance ▸ mark
  -- Each shown text is one of its column, cut to the width of the column or to less.
  have shows {place : ShownColumn} (shown : place ∈ tab.columnsShown appearance size.width) :
      ∃ column, tab.view.columns.getD place.index .blank = column ∧ column ∈ tab.view.columns ∧
        ∀ text ∈ column.name :: column.values.map Datum.cellText, ∀ side,
          IsSingle (fitted appearance.ellipsis place.width side text) := by
    rcases mem_placeColumns shown with ⟨isShown, narrower⟩
    rcases Window.mem_fittingColumns isShown with ⟨after, within⟩
    rw [tab.length_shownWidths appearance] at within
    have found := List.getElem?_eq_getElem (l := tab.view.columns) within
    refine ⟨_, by rw [List.getD_eq_getElem?_getD, found]; rfl, List.getElem_mem within, ?_⟩
    intro text member side
    rw [isSingle_fitted]
    exact Line.isSingle_truncate_of_le markShown narrower
      (grid _ _ found (Nat.le_trans (tab.firstShown_le_leftFor appearance _) after) text member)
  simp only [List.forall_mem_cons, List.forall_mem_map, Frame.isSingle_joinCells]
  constructor
  · intro place shown
    rcases shows shown with ⟨column, isColumn, _, single⟩
    rw [isColumn]
    exact single _ List.mem_cons_self _
  · intro row isRow place shown
    rcases shows shown with ⟨column, isColumn, isOfView, single⟩
    rw [isColumn]
    refine single _ (List.mem_cons_of_mem _ (List.mem_map_of_mem ?_)) _
    have within : row < column.values.length := by
      rw [tab.view.aligned column isOfView, ← Table.rowCount]
      exact tab.lt_rowCount_of_shown isRow
    rw [List.getD_eq_getElem?_getD, List.getElem?_eq_getElem within]
    exact List.getElem_mem within

theorem gridSingle_of_frameOf {size : Size}
    (roomy : cellsOf (tab.shownWidths session.workspace.settings.appearance) < size.width)
    (tall : tab.view.rowCount + 3 < size.height)
    (single : ∀ line ∈ (session.frameOf size tab).lines, IsSingle line) :
    tab.GridSingle session.workspace.settings.appearance := by
  rw [lines_frameOf] at single
  simp only [List.forall_mem_cons, List.forall_mem_map, Frame.isSingle_joinCells] at single
  intro index column isColumn reached text member
  have within : index < tab.view.columnCount := (List.getElem?_eq_some_iff.mp isColumn).1
  have shown : ∃ place ∈ tab.columnsShown session.workspace.settings.appearance size.width,
      place.index = index ∧
        place.width = (tab.shownWidths session.workspace.settings.appearance).getD index 0 := by
    refine exists_place roomy ?_ (by rwa [Tab.length_shownWidths])
    rwa [Tab.leftFor_eq_firstShown roomy (by omega)]
  rcases shown with ⟨place, isShown, rfl, isWidth⟩
  have found : tab.view.columns.getD place.index .blank = column := by
    rw [List.getD_eq_getElem?_getD, isColumn]
    rfl
  rw [← isWidth, ← isSingle_fitted .left]
  rcases List.mem_cons.mp member with rfl | inCells
  · have header := single.1 place isShown
    rwa [found] at header
  · rcases List.mem_map.mp inCells with ⟨cell, isCell, rfl⟩
    rcases List.getElem_of_mem isCell with ⟨row, inColumn, rfl⟩
    have isRow : row ∈ tab.rowsShown (Screen.gridSize size).height := by
      refine tab.mem_rowsShown_of_lt ?_ ?_
      · change _ < size.height - 2
        omega
      · rw [Table.rowCount, ← tab.view.aligned column (List.mem_of_getElem? isColumn)]
        exact inColumn
    have shownCell := single.2 row isRow place isShown
    rw [found, List.getD_eq_getElem?_getD, List.getElem?_eq_getElem inColumn] at shownCell
    rw [isSingle_fitted] at shownCell ⊢
    exact shownCell

/-! ## All lines -/

theorem isSingle_prompt (session : Session) : IsSingle session.prompt := by
  have mode (mode : Search.Mode) : IsSingle mode.name := by cases mode <;> decide
  unfold prompt
  split
  · decide
  · simp only [Line.isSingle_append, mode]
    decide
  · decide

/-- Of what is told of the place in a tab only the name of the column can have breaks. -/
theorem isSingle_positionText (tab : Tab) (frame : Frame) :
    IsSingle (positionText tab frame) ↔ (tab.isLoading = false → frame.columnCount ≠ 0 →
      IsSingle (tab.view.header.getD frame.cursor.column "")) := by
  have rows : ∀ text ∈ (if frame.rowCount = 0 then []
      else [Decimal.natText (frame.cursor.row + 1) ++ "/" ++ Decimal.natText frame.rowCount]),
      IsSingle text := by
    split <;> simp [Decimal.isSingle_natText]
    decide
  have steps (count : Nat) : IsSingle ("steps:" ++ Decimal.natText count) := by
    simp only [Line.isSingle_append, Decimal.isSingle_natText, and_true]
    decide
  have busy : IsSingle "[busy]" := by decide
  unfold positionText
  cases tab.isLoading with
  | true => simp; decide
  | false =>
      simp only [Bool.false_eq_true, if_false, forall_const]
      rw [Line.isSingle_intercalate (by decide)]
      simp only [List.forall_mem_append]
      constructor
      · rintro ⟨⟨⟨_, column⟩, _⟩, _⟩ some
        rw [if_neg some] at column
        exact column _ (List.mem_singleton_self _)
      · intro column
        refine ⟨⟨⟨rows, ?_⟩, ?_⟩, ?_⟩
        · split
          next => simp
          next some => simpa using column some
        · split <;> simp [steps]
        · split <;> simp [busy]

section ScreenWith

variable (session : Session) (size : Size) (frame : Option Frame) (position : String)

theorem tabBar_screenWith : (session.screenWith size frame position).tabBar =
    Screen.tabBarOf (session.workspace.tabs.map fun tab => (tab.name, tab.isBusy))
      session.workspace.active := by
  unfold screenWith
  split <;> rfl

theorem isSingle_tabBar_iff : IsSingle (session.screenWith size frame position).tabBar ↔
    ∀ tab ∈ session.workspace.tabs, IsSingle tab.name := by
  rw [tabBar_screenWith, Screen.isSingle_tabBarOf, List.forall_mem_map]

theorem bottom_screenWith_of_navigation (navigates : session.mode = .navigation) :
    (session.screenWith size frame position).bottom =
      Screen.statusLine session.workspace.status position size.width := by
  unfold screenWith
  rw [navigates]

theorem bottom_screenWith_of_line (editing : session.mode ≠ .navigation) :
    (session.screenWith size frame position).bottom = session.prompt ++ session.line.content := by
  unfold screenWith
  split
  next navigates => exact absurd navigates editing
  next => rfl

variable {session size frame position}

theorem isSingle_of_mem_screenWith (typed : IsSingle session.line.content)
    (names : ∀ tab ∈ session.workspace.tabs, IsSingle tab.name)
    (status : session.mode = .navigation → IsSingle session.workspace.status ∧ IsSingle position)
    (grid : ∀ shown, frame = some shown → ∀ line ∈ shown.lines, IsSingle line) :
    ∀ line ∈ (session.screenWith size frame position).lines, IsSingle line := by
  apply Screen.isSingle_of_mem_lines
  · exact (isSingle_tabBar_iff ..).mpr names
  · by_cases navigates : session.mode = .navigation
    · rw [bottom_screenWith_of_navigation _ _ _ _ navigates]
      exact Screen.isSingle_statusLine (status navigates).1 (status navigates).2 _
    · rw [bottom_screenWith_of_line _ _ _ _ navigates, Line.isSingle_append]
      exact ⟨session.isSingle_prompt, typed⟩
  · rw [frame_screenWith]
    exact grid

/-- A screen that is large enough shows everything. -/
theorem single_of_single_screenWith (tall : 2 ≤ size.height)
    (bar : Line.textWidth (session.screenWith size frame position).tabBar < size.width)
    (wide : Line.textWidth session.workspace.status + Line.textWidth position + 1 < size.width)
    (single : ∀ line ∈ (session.screenWith size frame position).lines, IsSingle line) :
    (∀ tab ∈ session.workspace.tabs, IsSingle tab.name) ∧
      (session.mode = .navigation → IsSingle session.workspace.status ∧ IsSingle position) ∧
      ∀ shown, frame = some shown → shown.lines.length + 2 ≤ size.height →
        ∀ line ∈ shown.lines, IsSingle line := by
  have shown := Screen.single_of_single_lines (by rwa [size_screenWith]) single
  rw [size_screenWith, frame_screenWith] at shown
  rcases shown with ⟨tabBar, bottom, grid⟩
  refine ⟨?_, fun navigates => ?_, grid⟩
  · rw [← isSingle_tabBar_iff session size frame position]
    exact Screen.isSingle_of_barLine (by omega) (Nat.le_of_lt bar) tabBar
  · rw [bottom_screenWith_of_navigation _ _ _ _ navigates] at bottom
    exact Screen.single_of_single_statusLine wide bottom

end ScreenWith

/-- What is told of the place does not depend on the size of the screen. -/
theorem isSingle_positionText_frameOf (size : Size) :
    IsSingle (positionText tab (session.frameOf size tab)) ↔
      (tab.isLoading = false → IsSingle (tab.view.header.getD tab.place.column "")) := by
  rw [isSingle_positionText]
  refine imp_congr_right fun _ => ⟨fun single => ?_, fun single _ => single⟩
  by_cases none : tab.view.columnCount = 0
  · have noNames : tab.view.header = [] := by
      rw [Table.header, List.map_eq_nil_iff]
      exact List.length_eq_zero_iff.mp none
    rw [noNames]
    exact Line.isSingle_empty
  · exact single none

theorem length_lines_frameOf_le (size : Size) :
    (session.frameOf size tab).lines.length ≤ tab.view.rowCount + 1 := by
  rw [lines_frameOf, List.length_cons, List.length_map, Tab.rowsShown, List.length_range']
  omega

/-- A size in which a session shows everything, some rows and columns included. -/
def ampleSize (session : Session) (position : String) (rows : Nat) (widths : List Nat) : Size where
  width := Line.textWidth (session.screenWith ⟨0, 0⟩ none "").tabBar +
    Line.textWidth session.workspace.status + Line.textWidth position + cellsOf widths + 2
  height := rows + 4

theorem single_of_single_ample {frame : Option Frame} {position : String} {rows : Nat}
    {widths : List Nat} (single : ∀ line ∈
      (session.screenWith (session.ampleSize position rows widths) frame position).lines,
        IsSingle line) :
    (∀ tab ∈ session.workspace.tabs, IsSingle tab.name) ∧
      (session.mode = .navigation → IsSingle session.workspace.status ∧ IsSingle position) ∧
      ∀ shown, frame = some shown → shown.lines.length + 2 ≤ rows + 4 →
        ∀ line ∈ shown.lines, IsSingle line := by
  refine single_of_single_screenWith ?_ ?_ ?_ single
  · change 2 ≤ rows + 4
    omega
  · rw [tabBar_screenWith, ← tabBar_screenWith session ⟨0, 0⟩ none ""]
    simp only [ampleSize]
    omega
  · simp only [ampleSize]
    omega

variable (session)

/--
While what is typed has no breaks, and the mark of cuts has none, no line of a
screen has any, however large the screen is, exactly when there are none in the
names of tabs, the status, the column of the cursor and what can be seen of cells.
-/
theorem lines_single_iff (mark : IsSingle session.workspace.settings.ellipsis)
    (typed : IsSingle session.line.content) :
    (∀ size, ∀ line ∈ (session.draw size).1.lines, IsSingle line) ↔ session.ShowsSingle := by
  unfold draw
  cases isActive : session.workspace.activeTab? with
  | none =>
      constructor
      · intro single
        have shown := single_of_single_ample (single (session.ampleSize "" 0 []))
        exact {
          names := shown.1
          status := fun navigates => (shown.2.1 navigates).1
          position := by simp [isActive]
          grid := by simp [isActive] }
      · intro shows size
        exact isSingle_of_mem_screenWith typed shows.names
          (fun navigates => ⟨shows.status navigates, Line.isSingle_empty⟩) nofun
  | some tab =>
      constructor
      · intro single
        -- One size suffices: the one in which nothing is cut off and no row is out of sight.
        have shown := single_of_single_ample (single (session.ampleSize
          (positionText tab (session.frameOf ⟨0, 0⟩ tab)) tab.view.rowCount
          (tab.shownWidths session.workspace.settings.appearance)))
        rcases shown with ⟨names, bottom, grid⟩
        refine ⟨names, fun navigates => (bottom navigates).1, fun navigates other isOther => ?_,
          fun other isOther => ?_⟩
        · cases isActive.symm.trans isOther
          exact (isSingle_positionText_frameOf _).mp (bottom navigates).2
        · cases isActive.symm.trans isOther
          refine gridSingle_of_frameOf ?_ ?_ (grid _ rfl ?_)
          · simp only [ampleSize]
            omega
          · simp only [ampleSize]
            omega
          · exact Nat.add_le_add_right (length_lines_frameOf_le _) 2 |>.trans (by omega)
      · intro shows size
        refine isSingle_of_mem_screenWith typed shows.names (fun navigates =>
          ⟨shows.status navigates, (isSingle_positionText_frameOf size).mpr ?_⟩) ?_
        · exact shows.position navigates tab isActive
        · rintro shown ⟨⟩
          exact isSingle_of_mem_frameOf mark (shows.grid tab isActive) size

end Session

end TableBrowser
