import TableBrowser.Input.Keymap
import TableBrowser.Screen.Frame
/-!
# Drawing on a terminal

A screen is drawn by writing its lines, and then the header and the marked cells
once more with other attributes. The last cell of the last row is left out,
since writing there would scroll the terminal.
-/

namespace TableBrowser.Terminal

inductive Attribute where
  | bold
  | reverse
  | underline
deriving DecidableEq, Repr

def Attribute.name : Attribute → String
  | .bold => "bold"
  | .reverse => "reverse"
  | .underline => "underline"

/-- One of the things that are done to draw a screen. -/
inductive Draw where
  /-- Writes at most a number of characters of a text. -/
  | put (row column : Nat) (text : String) (room : Nat) (attributes : List Attribute)
  | showCursor (visible : Bool)
  | moveCursor (row : Nat) (column : Int)
deriving DecidableEq, Repr

/-- Writes a text where there is room for it. -/
def put (size : Size) (row column : Nat) (text : String) (attributes : List Attribute) :
    List Draw :=
  let room := size.width - column - (if row + 1 = size.height then 1 else 0)
  if size.height ≤ row || size.width ≤ column || room = 0 then []
  else [.put row column text room attributes]

def marked : List Attribute := [.bold, .underline]

/-- The lines of a screen; the first one is reversed. -/
def putLines (size : Size) (lines : List String) : List Draw :=
  lines.zipIdx.flatMap fun (line, row) => put size row 0 line (if row = 0 then [.reverse] else [])

/-- The cell under the cursor and the highlighted cells. -/
def putCells (size : Size) (row : Nat) (offsets : List Nat) (cells : List FrameCell) : List Draw :=
  (offsets.zip cells).flatMap fun (column, cell) =>
    if cell.selected then put size row column cell.text [.reverse]
    else if cell.highlighted then put size row column cell.text marked
    else []

/-- The header and the marked cells, when there is a line for them. -/
def putFrame (size : Size) (lines : List String) (frame : Frame) : List Draw :=
  if lines.length ≤ Screen.surroundingLines then []
  else
    put size 1 0 (lines.getD 1 "") marked ++
      ((frame.cells.take (lines.length - 1 - Screen.surroundingLines)).zipIdx.flatMap
        fun (cells, index) => putCells size (Screen.surroundingLines + index) frame.offsets cells)

/-- The text cursor, which stands in the prompt when there is one. -/
def putCursor (screen : Screen) (lines : List String) : List Draw :=
  match screen.promptCursor, lines.getLast? with
  | some position, some bottom =>
      let column : Int := Line.textWidth (String.ofList (bottom.toList.take position))
      [.showCursor true, .moveCursor (lines.length - 1) (min column ((screen.size.width : Int) - 1))]
  | _, _ => [.showCursor false]

/-- All that is done to draw a screen on a terminal of a size. -/
def draw (size : Size) (screen : Screen) : List Draw :=
  let lines := screen.lines
  putLines size lines ++ ((screen.frame.map (putFrame size lines)).getD []) ++
    putCursor screen lines

end TableBrowser.Terminal

/-! ## Keys and escape sequences

A terminal is drawn on by writing escape sequences to it, and keys without a
character come from it as escape sequences.
-/

namespace TableBrowser

/-! ## Codes of keys

A terminal delivers characters, and numbers for the keys that have none. Some
characters stand for keys with names, and the others below the blank for letters
held down with the control key.
-/

inductive KeyCode where
  | character (char : Char)
  | special (number : Nat)
deriving DecidableEq, Repr

namespace KeyCode

def resizeNumber : Nat := 410

def specialNames : List (Nat × String) := [
  (258, "Down"), (259, "Up"), (260, "Left"), (261, "Right"), (262, "Home"), (263, "Backspace"),
  (338, "PageDown"), (339, "PageUp"), (343, "Enter"), (360, "End")]

def characterNames : List (Char × String) := [
  ('\n', "Enter"), ('\r', "Enter"), ('\t', "Tab"), ('\x1b', "Esc"), ('\x7f', "Backspace"),
  ('\x08', "Backspace")]

def ofCharacter (char : Char) : KeyPress :=
  match characterNames.lookup char with
  | some key => { key }
  | none =>
      if 1 ≤ char.toNat && char.toNat ≤ 26 then
        { key := String.singleton (Char.ofNat (char.toNat + 96)), modifiers := [KeyPress.control] }
      else { key := String.singleton char }

/-- The key that a code stands for; other codes stand for none. -/
def press? : KeyCode → Option KeyPress
  | .character char => some (ofCharacter char)
  | .special number => (specialNames.lookup number).map ({ key := · })

example : press? (.character '\x01') = some ⟨"a", ["ctrl"]⟩ := by decide
example : press? (.special resizeNumber) = none := by decide

end KeyCode

end TableBrowser

namespace TableBrowser.Terminal

/-! ## Writing -/

def escape (rest : String) : String := "\x1b[" ++ rest

def Attribute.number : Attribute → Nat
  | .bold => 1
  | .underline => 4
  | .reverse => 7

/-- Places count from one on. -/
def moveTo (row column : Nat) : String :=
  escape (Decimal.natText (row + 1) ++ ";" ++ Decimal.natText (column + 1) ++ "H")

def attributesOn (attributes : List Attribute) : String :=
  String.join (attributes.map fun style => escape (Decimal.natText style.number ++ "m"))

def Draw.written : Draw → String
  | .put row column text room attributes =>
      moveTo row column ++ attributesOn attributes ++ String.ofList (text.toList.take room) ++
        escape "0m"
  | .showCursor visible => escape (if visible then "?25h" else "?25l")
  | .moveCursor row column => moveTo row column.toNat

/-- What is written to draw a whole screen on an empty terminal. -/
def written (draws : List Draw) : String := escape "2J" ++ String.join (draws.map Draw.written)

/-! ## Reading -/

/-- The numbers of keys by the end of their escape sequence. -/
def sequenceNumbers : List (List Char × Nat) := [
  (['A'], 259), (['B'], 258), (['C'], 261), (['D'], 260), (['H'], 262), (['F'], 360),
  (['1', '~'], 262), (['4', '~'], 360), (['5', '~'], 339), (['6', '~'], 338),
  (['7', '~'], 262), (['8', '~'], 360)]

/-- What to do with characters that have come. -/
inductive Arrival where
  /-- More characters may belong to them. -/
  | held
  | codes (codes : List KeyCode)
deriving DecidableEq, Repr

/-- The keys that characters stand for: an escape sequence is one key. -/
def Arrival.of (chars : List Char) : Arrival :=
  match chars with
  | ['\x1b'] | ['\x1b', '['] => .held
  | '\x1b' :: '[' :: rest =>
      match sequenceNumbers.lookup rest with
      | some number => .codes [.special number]
      | none =>
          if sequenceNumbers.any fun (ending, _) => rest.isPrefixOf ending then .held
          else .codes (chars.map .character)
  | ['\x1b', '\x1b'] => .codes [.character '\x1b']
  | _ => .codes (chars.map .character)

example : Arrival.of ['\x1b', '[', '5'] = .held := by decide
example : Arrival.of ['\x1b', '[', '5', '~'] = .codes [.special 339] := by decide
example : Arrival.of ['j'] = .codes [.character 'j'] := by decide

end TableBrowser.Terminal
