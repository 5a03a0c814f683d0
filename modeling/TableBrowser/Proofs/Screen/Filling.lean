import TableBrowser.Screen.Frame
import TableBrowser.Session.Basic
/-!
# Screens without gaps

A text that is cut takes no more cells than it was cut to, and one that is filled
up takes as many as it was filled up to, unless it took more before. The columns
that are shown take, with the cells between them, no more than the width of the
screen. Main statement: a screen has as many lines as it is high, and each of
them takes as many cells as it is wide.
-/

namespace TableBrowser

namespace Line

/-! ## Cells of characters -/

theorem charWidth_le_two (char : Char) : charWidth char ≤ 2 := by
  unfold charWidth
  split
  · exact Nat.le_succ 1
  split
  · exact Nat.zero_le 2
  split
  · exact Nat.le_refl 2
  · exact Nat.le_succ 1

/-- A character that takes one cell or none. -/
def IsNarrow (char : Char) : Prop := charWidth char ≠ 2

instance (char : Char) : Decidable (IsNarrow char) := inferInstanceAs (Decidable (_ ≠ _))

theorem charWidth_of_narrow {char : Char} (narrow : IsNarrow char) : charWidth char ≤ 1 := by
  have atMost := charWidth_le_two char
  have : charWidth char ≠ 2 := narrow
  omega

@[simp] theorem width_nil : width [] = 0 := rfl

@[simp] theorem width_cons (char : Char) (chars : List Char) :
    width (char :: chars) = charWidth char + width chars := rfl

@[simp] theorem width_append (left right : List Char) :
    width (left ++ right) = width left + width right := by
  induction left with
  | nil => simp
  | cons char chars induction => rw [List.cons_append, width_cons, width_cons, induction, Nat.add_assoc]

@[simp] theorem width_blanks (count : Nat) : width (List.replicate count ' ') = count := by
  induction count with
  | zero => rfl
  | succ count induction =>
      rw [List.replicate_succ, width_cons, induction, show charWidth ' ' = 1 from rfl, Nat.add_comm]

theorem width_take_of_narrow {chars : List Char} (narrow : ∀ char ∈ chars, IsNarrow char)
    (count : Nat) : width (chars.take count) ≤ count := by
  induction chars generalizing count with
  | nil => simp
  | cons char chars induction =>
      cases count with
      | zero => exact Nat.le_refl 0
      | succ count =>
          rw [List.take_succ_cons, width_cons]
          have first := charWidth_of_narrow (narrow char List.mem_cons_self)
          have others := induction (fun other member => narrow other (List.mem_cons_of_mem char member))
            count
          omega

/-! ## Cells of texts -/

@[simp] theorem textWidth_empty : textWidth "" = 0 := rfl

@[simp] theorem textWidth_ofList (chars : List Char) :
    textWidth (String.ofList chars) = width chars := by
  rw [textWidth, String.toList_ofList]

@[simp] theorem textWidth_append (left right : String) :
    textWidth (left ++ right) = textWidth left + textWidth right := by
  rw [textWidth, String.toList_append, width_append]
  rfl

theorem width_fitting (room : Nat) (chars : List Char) : width (fitting room chars) ≤ room := by
  induction chars generalizing room with
  | nil => exact Nat.zero_le room
  | cons char rest induction =>
      rw [fitting]
      split
      · have later := induction (room - charWidth char)
        rw [width_cons]
        omega
      · exact Nat.zero_le room

/-- A text that is cut fits, whatever its characters are, if those of the mark are narrow. -/
theorem textWidth_truncate {ellipsis : String} (narrow : ∀ char ∈ ellipsis.toList, IsNarrow char)
    (text : String) (cells : Nat) : textWidth (truncate text cells ellipsis) ≤ cells := by
  unfold truncate
  rw [Int.toNat_natCast]
  split
  · exact Nat.zero_le cells
  simp only
  split
  next fits => exact fits
  split
  next =>
    rw [textWidth_ofList]
    exact width_take_of_narrow narrow cells
  next wide =>
    have start := width_fitting (cells - textWidth ellipsis) text.toList
    rw [textWidth_ofList, width_append, show width ellipsis.toList = textWidth ellipsis from rfl]
    omega

theorem textWidth_pad (text : String) (cells : Nat) (side : Side) :
    textWidth (pad text cells side) = max (textWidth text) cells := by
  have gap : ((cells : Int) - textWidth text).toNat = cells - textWidth text := by omega
  cases side with
  | left =>
      rw [pad, gap, textWidth_ofList, width_append, width_blanks,
        show width text.toList = textWidth text from rfl]
      omega
  | right =>
      rw [pad, gap, textWidth_ofList, width_append, width_blanks,
        show width text.toList = textWidth text from rfl]
      omega

theorem textWidth_pad_of_le {text : String} {cells : Nat} (fits : textWidth text ≤ cells)
    (side : Side) : textWidth (pad text cells side) = cells := by
  rw [textWidth_pad, Nat.max_eq_right fits]

end Line

/-! ## Cells side by side -/

/-- The cells that columns take with a separator before each of them. -/
def cellsOf : List Nat → Nat
  | [] => 0
  | width :: widths => Window.separatorWidth + width + cellsOf widths

/-- The cells that columns take side by side, with separators between them. -/
def spanOf : List Nat → Nat
  | [] => 0
  | width :: widths => width + cellsOf widths

theorem cellsOf_append (left right : List Nat) :
    cellsOf (left ++ right) = cellsOf left + cellsOf right := by
  induction left with
  | nil => rw [List.nil_append, cellsOf, Nat.zero_add]
  | cons width left induction =>
      rw [List.cons_append, cellsOf, cellsOf, induction]
      omega

theorem spanOf_cons_cons (first second : Nat) (widths : List Nat) :
    spanOf (first :: second :: widths) = first + Window.separatorWidth + spanOf (second :: widths) := by
  simp only [spanOf, cellsOf]
  omega

theorem Frame.textWidth_joinCells (texts : List String) :
    Line.textWidth (joinCells texts) = spanOf (texts.map Line.textWidth) := by
  have separator : Line.width (List.replicate Window.separatorWidth ' ') = Window.separatorWidth :=
    Line.width_blanks _
  induction texts with
  | nil => rfl
  | cons first texts induction =>
      cases texts with
      | nil => simp [joinCells, spanOf, cellsOf]
      | cons second texts =>
          rw [List.map_cons, List.map_cons, spanOf_cons_cons, ← List.map_cons, ← induction]
          simp only [joinCells, Line.textWidth, String.toList_intercalate, String.toList_ofList,
            List.map_cons, List.intercalate_cons_cons, Line.width_append, separator]

theorem of_drop_eq_cons {widths rest : List Nat} {index need : Nat}
    (isRest : widths.drop index = need :: rest) :
    widths.getD index 0 = need ∧ widths.drop (index + 1) = rest := by
  constructor
  · rw [List.getD_eq_getElem?_getD, ← List.head?_drop, isRest]
    rfl
  · rw [← List.tail_drop, isRest]
    rfl

/-- The columns after the first one are shown only when they fit. -/
theorem cellsOf_placeColumns_le {widths rest : List Nat} {total index used : Nat}
    (within : used ≤ total) (isRest : widths.drop index = rest) :
    used + cellsOf ((placeColumns widths total (used + Window.separatorWidth)
      (Window.fittingAfter total index used rest)).map (·.width)) ≤ total := by
  -- What is used so far is generalized; a column that is cut is the last one, so no more follow.
  induction rest generalizing index used with
  | nil => simpa [Window.fittingAfter, placeColumns, cellsOf] using within
  | cons need rest induction =>
      rcases of_drop_eq_cons isRest with ⟨isNeed, isNext⟩
      rw [Window.fittingAfter]
      split
      · simpa [placeColumns, cellsOf] using within
      split
      · simp only [placeColumns, isNeed, List.map_cons, List.map_nil, cellsOf]
        omega
      · have taken : min need (total - (used + Window.separatorWidth)) = need := by omega
        have bounded : used + Window.separatorWidth + need ≤ total := by omega
        have others := induction bounded isNext
        simp only [placeColumns, isNeed, taken, List.map_cons, cellsOf]
        omega

/-- The columns that are shown take no more than the width, the first one being cut to it. -/
theorem spanOf_placeColumns_le (widths : List Nat) (left total : Nat) :
    spanOf ((placeColumns widths total 0 (Window.fittingColumns widths left total)).map (·.width)) ≤
      total := by
  unfold Window.fittingColumns
  split
  next => exact Nat.zero_le total
  next first rest isRest =>
    rcases of_drop_eq_cons isRest with ⟨isFirst, isNext⟩
    split
    · simp only [placeColumns, isFirst, List.map_cons, List.map_nil, spanOf, cellsOf]
      omega
    · have taken : min first (total - 0) = first := by omega
      have bounded : first ≤ total := by omega
      have others := cellsOf_placeColumns_le bounded isNext
      simpa only [placeColumns, isFirst, taken, List.map_cons, spanOf, Nat.zero_add] using others

/-! ## Lines of a frame -/

theorem textWidth_fitted {ellipsis : String} (narrow : ∀ char ∈ ellipsis.toList, Line.IsNarrow char)
    (width : Nat) (side : Line.Side) (text : String) :
    Line.textWidth (fitted ellipsis width side text) = width :=
  Line.textWidth_pad_of_le (Line.textWidth_truncate narrow _ width) side

section Layout

variable {appearance : Appearance} (narrow : ∀ char ∈ appearance.ellipsis.toList, Line.IsNarrow char)
  (view : Table) (request : LayoutRequest)

include narrow

/-- Every line of a frame has a text for each column that takes the width of the column. -/
theorem map_textWidth_layout :
    (layout appearance view request).header.map Line.textWidth =
        (layout appearance view request).widths ∧
      ∀ row ∈ (layout appearance view request).cells,
        row.map (fun cell => Line.textWidth cell.text) = (layout appearance view request).widths := by
  constructor
  · simp [layout, textWidth_fitted narrow, Function.comp_def]
  · intro row member
    rcases List.mem_map.mp member with ⟨index, _, rfl⟩
    simp [layout, textWidth_fitted narrow, Function.comp_def]

theorem textWidth_line_le {line : String} (member : line ∈ (layout appearance view request).lines) :
    Line.textWidth line ≤ request.size.width := by
  have within : spanOf (layout appearance view request).widths ≤ request.size.width :=
    spanOf_placeColumns_le _ _ _
  rcases map_textWidth_layout narrow view request with ⟨header, cells⟩
  rcases List.mem_cons.mp member with rfl | inBody
  · rwa [Frame.textWidth_joinCells, header]
  · rcases List.mem_map.mp inBody with ⟨row, isRow, rfl⟩
    rw [Frame.textWidth_joinCells, List.map_map]
    rwa [← cells row isRow] at within

end Layout

/-! ## Lines of a screen -/

theorem Screen.textWidth_barLine (width : Nat) (text : String) :
    Line.textWidth (barLine width text) = width :=
  Line.textWidth_pad_of_le (Line.textWidth_truncate (by simp) text width) .left

theorem Screen.length_lines (screen : Screen) : screen.lines.length = screen.size.height := by
  simp only [lines, List.length_take, List.length_append, List.length_cons, List.length_map,
    List.length_range, gridSize]
  split <;> simp [surroundingLines] at * <;> omega

/-- The lines of a screen are as wide as it is when those of its frame are not wider. -/
theorem Screen.textWidth_of_mem_lines {screen : Screen}
    (fits : ∀ frame, screen.frame = some frame → ∀ line ∈ frame.lines,
      Line.textWidth line ≤ screen.size.width) {line : String} (member : line ∈ screen.lines) :
    Line.textWidth line = screen.size.width := by
  have inAll := List.mem_of_mem_take member
  rcases List.mem_append.mp inAll with inUpper | inBottom
  · rcases List.mem_cons.mp inUpper with rfl | inBody
    · exact textWidth_barLine _ _
    · rcases List.mem_map.mp inBody with ⟨index, _, rfl⟩
      refine Line.textWidth_pad_of_le ?_ .left
      cases shown : screen.frame with
      | none => simp
      | some frame =>
          rw [Option.map_some, Option.getD_some, List.getD_eq_getElem?_getD]
          cases isLine : frame.lines[index]? with
          | none => simp
          | some line => exact fits frame shown line (List.mem_of_getElem? isLine)
  · split at inBottom
    · rw [List.mem_singleton.mp inBottom]
      exact textWidth_barLine _ _
    · cases inBottom

namespace Session

variable (session : Session) (size : Size)

@[simp] theorem size_screenWith (frame : Option Frame) (position : String) :
    (session.screenWith size frame position).size = size := by
  unfold screenWith
  split <;> rfl

@[simp] theorem frame_screenWith (frame : Option Frame) (position : String) :
    (session.screenWith size frame position).frame = frame := by
  unfold screenWith
  split <;> rfl

/-- A screen of a session shows no frame, or the one of its active tab. -/
theorem draw_cases : ∃ frame position, (session.draw size).1 = session.screenWith size frame position ∧
    ∀ shown, frame = some shown → ∃ tab, session.workspace.activeTab? = some tab ∧
      shown = session.frameOf size tab := by
  unfold draw
  cases session.workspace.activeTab? with
  | none => exact ⟨none, _, rfl, nofun⟩
  | some tab =>
      refine ⟨_, _, rfl, fun shown isShown => ⟨tab, rfl, ?_⟩⟩
      cases isShown
      rfl

/--
The screen of a session has as many lines as it is high, each of them as wide as
it is, whatever is open, shown and typed, unless cuts are marked by characters
that take two cells.
-/
theorem lines_fill_screen
    (narrow : ∀ char ∈ session.workspace.settings.ellipsis.toList, Line.charWidth char ≠ 2) :
    (session.draw size).1.lines.length = size.height ∧
      ∀ line ∈ (session.draw size).1.lines, Line.textWidth line = size.width := by
  rcases session.draw_cases size with ⟨frame, position, drawn, shows⟩
  rw [drawn]
  refine ⟨by rw [Screen.length_lines, size_screenWith], fun line member => ?_⟩
  rw [Screen.textWidth_of_mem_lines (fun shown isShown => ?_) member, size_screenWith]
  rw [frame_screenWith] at isShown
  rcases shows shown isShown with ⟨tab, _, rfl⟩
  rw [size_screenWith]
  exact fun line => textWidth_line_le narrow tab.view _

/-- Characters that take two cells, and an accent that takes none. -/
def capitals : Table where
  columns := [⟨"首都", .string, [.text "東京", .text "Que\u0301bec"]⟩,
    ⟨"id", .integer, [.integer 1, .integer 2]⟩]
  aligned := by decide
  distinct := by decide

def showingCapitals : Session :=
  start (Act.openTable capitals "世界" [] (Workspace.start {} { surroundings := ⟨[], []⟩ } .immediate)).2
    ⟨9, 5⟩

theorem lines_fill_screen_capitals :
    (∀ char ∈ showingCapitals.workspace.settings.ellipsis.toList, Line.charWidth char ≠ 2) ∧
      (showingCapitals.draw ⟨9, 5⟩).1.lines.length = 5 ∧
      ∀ line ∈ (showingCapitals.draw ⟨9, 5⟩).1.lines, Line.textWidth line = 9 := by
  have narrow : ∀ char ∈ showingCapitals.workspace.settings.ellipsis.toList,
      Line.charWidth char ≠ 2 := by
    have isMark : showingCapitals.workspace.settings.ellipsis = "…" := by decide +kernel
    rw [isMark]
    exact List.forall_mem_singleton.mpr (by decide +kernel)
  exact ⟨narrow, lines_fill_screen showingCapitals ⟨9, 5⟩ narrow⟩

example : (showingCapitals.draw ⟨9, 5⟩).1.lines =
    ["[1:世界] ", "首都     ", "東京     ", "Que\u0301bec   ", "1/2  首都"] := by decide +kernel

end Session

end TableBrowser
