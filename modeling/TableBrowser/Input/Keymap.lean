import TableBrowser.Text.Unprintable
/-!
# Keys and keymaps

Keys have a meaning in each mode of input: moving through a table, typing a
command, and typing a search.
-/

namespace TableBrowser

/-! ## Keys

A key that stands for a character is that character; other keys have names such
as `Up` and `Enter`.
-/

structure KeyPress where
  key : String
  /-- The names of the keys held down with it. -/
  modifiers : List String := []
deriving DecidableEq, Repr

namespace KeyPress

def control : String := "ctrl"

/-- The modifiers in alphabetical order, each once, and the key, joined by plus signs. -/
def chord (press : KeyPress) : String :=
  "+".intercalate ((press.modifiers.eraseDups.mergeSort (· ≤ ·)) ++ [press.key])

/-- The key enters a character into a line. -/
def isPrintable (press : KeyPress) : Bool :=
  press.modifiers.isEmpty &&
    match press.key.toList with
    | [char] => Text.isPrintable char
    | _ => false

end KeyPress

/-! ## What keys do -/

inductive InputMode where
  | navigation
  | command
  | search
deriving DecidableEq, Repr

namespace InputMode

def name : InputMode → String
  | .navigation => "navigation"
  | .command => "command"
  | .search => "search"

def all : List InputMode := [.navigation, .command, .search]

end InputMode

inductive Action where
  | quit
  | moveDown | moveUp | moveLeft | moveRight
  | top | bottom
  | halfPageUp | halfPageDown | pageUp | pageDown
  | firstColumn | lastColumn
  | commandLine | searchLine
  | findNext | findPrevious
  | previousTab | nextTab
  | undo | closeTab | record
  /-- The key is the first digit of a row to go to. -/
  | rowDigit
  | submit | cancel | backspace
  | cursorLeft | cursorRight | lineStart | lineEnd
  | historyPrevious | historyNext
  | cycleSearchMode | toggleCase
deriving DecidableEq, Repr

namespace Action

def name : Action → String
  | .quit => "quit"
  | .moveDown => "move_down"
  | .moveUp => "move_up"
  | .moveLeft => "move_left"
  | .moveRight => "move_right"
  | .top => "top"
  | .bottom => "bottom"
  | .halfPageUp => "half_page_up"
  | .halfPageDown => "half_page_down"
  | .pageUp => "page_up"
  | .pageDown => "page_down"
  | .firstColumn => "first_col"
  | .lastColumn => "last_col"
  | .commandLine => "command_line"
  | .searchLine => "search_line"
  | .findNext => "find_next"
  | .findPrevious => "find_prev"
  | .previousTab => "prev_tab"
  | .nextTab => "next_tab"
  | .undo => "undo"
  | .closeTab => "close_tab"
  | .record => "record"
  | .rowDigit => "goto_prefix"
  | .submit => "submit"
  | .cancel => "cancel"
  | .backspace => "backspace"
  | .cursorLeft => "cursor_left"
  | .cursorRight => "cursor_right"
  | .lineStart => "line_start"
  | .lineEnd => "line_end"
  | .historyPrevious => "history_prev"
  | .historyNext => "history_next"
  | .cycleSearchMode => "cycle_search_mode"
  | .toggleCase => "toggle_case"

end Action

/-- Chords with their actions; the first binding of a chord counts. -/
abbrev Keymap := List (String × Action)

namespace Keymap

def bind (action : Action) (chords : List String) : Keymap := chords.map (·, action)

/-- What holds in every mode. -/
def always : Keymap := bind .quit ["ctrl+c"]

def navigation : Keymap :=
  bind .moveDown ["j", "Down"] ++
  bind .moveUp ["k", "Up"] ++
  bind .moveLeft ["h", "Left"] ++
  bind .moveRight ["l", "Right"] ++
  bind .top ["g", "Home"] ++
  bind .bottom ["G", "End"] ++
  bind .halfPageUp ["ctrl+u"] ++
  bind .halfPageDown ["ctrl+d"] ++
  bind .pageUp ["PageUp", "ctrl+b"] ++
  bind .pageDown ["PageDown", "ctrl+f"] ++
  bind .firstColumn ["0"] ++
  bind .lastColumn ["$"] ++
  bind .commandLine [":"] ++
  bind .searchLine ["/"] ++
  bind .findNext ["n"] ++
  bind .findPrevious ["N"] ++
  bind .previousTab ["H"] ++
  bind .nextTab ["L"] ++
  bind .undo ["u"] ++
  bind .closeTab ["q"] ++
  bind .record ["Enter"] ++
  bind .rowDigit ["1", "2", "3", "4", "5", "6", "7", "8", "9"] ++
  always

def line : Keymap :=
  bind .submit ["Enter"] ++
  bind .cancel ["Esc"] ++
  bind .backspace ["Backspace"] ++
  bind .cursorLeft ["Left"] ++
  bind .cursorRight ["Right"] ++
  bind .lineStart ["Home", "ctrl+a"] ++
  bind .lineEnd ["End", "ctrl+e"] ++
  always

def command : Keymap := bind .historyPrevious ["Up"] ++ bind .historyNext ["Down"] ++ line

def search : Keymap := bind .cycleSearchMode ["Tab"] ++ bind .toggleCase ["ctrl+t"] ++ line

def ofMode : InputMode → Keymap
  | .navigation => navigation
  | .command => command
  | .search => search

def action? (keymap : Keymap) (press : KeyPress) : Option Action := keymap.lookup press.chord

end Keymap

/-! ## Editing a line

A line of text with an insertion point. Earlier lines can be recalled in its
place; what was typed before is kept as a draft and comes back after the last of
them.
-/

structure LineBuffer where
  text : List Char := []
  /-- The number of characters before the insertion point. -/
  position : Nat := 0
  /-- Lines that can be recalled, the newest one last. -/
  history : List String := []
  /-- The place in the history of the line that is shown, when one is recalled. -/
  recalled : Option Nat := none
  draft : List Char := []
deriving DecidableEq, Repr

namespace LineBuffer

/-- A line without a history, with the insertion point at its end. -/
def ofText (text : String) : LineBuffer :=
  { text := text.toList, position := text.toList.length }

def content (line : LineBuffer) : String := String.ofList line.text

/-- Another text, with the insertion point at its end. -/
def withText (line : LineBuffer) (text : List Char) : LineBuffer :=
  { line with text, position := text.length }

/-- A new line that starts with a text and can recall lines of a history. -/
def start (text : String) (history : List String) : LineBuffer :=
  { text := text.toList, position := text.toList.length, history, draft := text.toList }

def insert (line : LineBuffer) (text : List Char) : LineBuffer :=
  { line with
    text := line.text.take line.position ++ text ++ line.text.drop line.position
    position := line.position + text.length }

/-- Takes away the character before the insertion point, if there is one. -/
def backspace (line : LineBuffer) : LineBuffer :=
  { line with
    text := line.text.take (line.position - 1) ++ line.text.drop line.position
    position := line.position - 1 }

def left (line : LineBuffer) : LineBuffer := { line with position := line.position - 1 }

def right (line : LineBuffer) : LineBuffer :=
  { line with position := min (line.position + 1) line.text.length }

def home (line : LineBuffer) : LineBuffer := { line with position := 0 }

def toEnd (line : LineBuffer) : LineBuffer := { line with position := line.text.length }

def recalling (line : LineBuffer) (index : Nat) : LineBuffer :=
  { line.withText (line.history.getD index "").toList with recalled := some index }

/-- The next older line; the draft is what was typed before the first of them. -/
def older (line : LineBuffer) : LineBuffer :=
  if line.history.isEmpty then line
  else
    match line.recalled with
    | none => { line with draft := line.text }.recalling (line.history.length - 1)
    | some index => line.recalling (index - 1)

/-- The next newer line, and the draft after the newest one. -/
def newer (line : LineBuffer) : LineBuffer :=
  match line.recalled with
  | none => line
  | some index =>
      if index + 1 < line.history.length then line.recalling (index + 1)
      else { line.withText line.draft with recalled := none }

end LineBuffer

end TableBrowser
