import TableBrowser.Failure.Fault
/-!
# Places in a document

A cursor stands between two characters of a document and knows its line and its
column, since indentation and the length of keys decide how the text is read.
-/

namespace TableBrowser.Yaml

/-- Why a document has no value: its text is malformed, or a scalar has no value. -/
inductive Problem where
  | malformed
  | fault (fault : Fault)
deriving DecidableEq

abbrev Attempt (α : Type) := Except Problem α

def fails {α : Type} : Attempt α := .error .malformed

/-- Goes on only when a condition holds. -/
def expect (condition : Bool) : Attempt Unit := if condition then .ok () else fails

/-! ## Characters -/

def isBreak (char : Char) : Bool :=
  char = '\n' || char = '\u0085' || char = '\u2028' || char = '\u2029'

def isSpaceOrTab (char : Char) : Bool := char = ' ' || char = '\t'

/-- The character is missing or a line break. -/
def endsLine : Option Char → Bool
  | none => true
  | some char => isBreak char

/-- The character is missing, a line break or a space. -/
def endsField : Option Char → Bool
  | none => true
  | some char => isBreak char || char = ' '

/-- The character is missing, a line break, a space or a tab. -/
def endsWord : Option Char → Bool
  | none => true
  | some char => isBreak char || isSpaceOrTab char

/-- Characters of the names of anchors, directives and tag handles. -/
def isNameChar (char : Char) : Bool := char.isAlphanum || char = '-' || char = '_'

def isAllowed (char : Char) : Bool :=
  let code := char.toNat
  char = '\t' || char = '\n' || char = '\r' || char = '\u0085' ||
    (0x20 ≤ code && code ≤ 0x7E) || (0xA0 ≤ code && code ≤ 0xD7FF) ||
    (0xE000 ≤ code && code ≤ 0xFFFD) || 0x10000 ≤ code

/-! ## The cursor -/

structure Cursor where
  rest : List Char
  index : Nat := 0
  line : Nat := 0
  column : Nat := 0

namespace Cursor

def peek? (cursor : Cursor) : Option Char := cursor.rest.head?

def ahead? (cursor : Cursor) (count : Nat) : Option Char := cursor.rest[count]?

def startsWith (cursor : Cursor) (text : String) : Bool := text.toList.isPrefixOf cursor.rest

/-- A byte order mark takes no column. -/
def next (cursor : Cursor) : Cursor :=
  match cursor.rest with
  | [] => cursor
  | char :: rest =>
      if isBreak char then ⟨rest, cursor.index + 1, cursor.line + 1, 0⟩
      else ⟨rest, cursor.index + 1, cursor.line,
        if char = '\uFEFF' then cursor.column else cursor.column + 1⟩

def advance (cursor : Cursor) : Nat → Cursor
  | 0 => cursor
  | count + 1 => cursor.next.advance count

/-- The characters before the first that fails a test, and the cursor there. -/
def span (test : Char → Bool) (cursor : Cursor) : List Char × Cursor :=
  let taken := cursor.rest.takeWhile test
  (taken, cursor.advance taken.length)

def skip (test : Char → Bool) (cursor : Cursor) : Cursor := (cursor.span test).2

def skipSpaces (cursor : Cursor) : Cursor := cursor.skip (· = ' ')

def skipComment (cursor : Cursor) : Cursor :=
  if cursor.peek? = some '#' then cursor.skip fun char => !isBreak char else cursor

def past (char : Char) (cursor : Cursor) : Attempt Cursor := do
  expect (cursor.peek? = some char)
  return cursor.next

/-- The break of a line as it counts in a scalar, when the line ends here. -/
def lineBreak? (cursor : Cursor) : Option (Char × Cursor) :=
  match cursor.peek? with
  | some char =>
      if isBreak char then some (if char = '\u0085' then '\n' else char, cursor.next) else none
  | none => none

def skipBreak (cursor : Cursor) : Cursor :=
  match cursor.lineBreak? with
  | some (_, after) => after
  | none => cursor

/-- Past the rest of a line that may hold only a comment. -/
def restOfLine (cursor : Cursor) : Attempt Cursor := do
  let cursor := cursor.skipSpaces.skipComment
  expect (endsLine cursor.peek?)
  return cursor.skipBreak

/-- A line that separates documents starts here. -/
def atMarker (cursor : Cursor) (marker : String) : Bool :=
  cursor.startsWith marker && endsWord (cursor.ahead? 3)

def atDocumentMarker (cursor : Cursor) : Bool := cursor.atMarker "---" || cursor.atMarker "..."

/-- Enough steps for any walk that passes a character in each. -/
def fuel (cursor : Cursor) : Nat := cursor.rest.length + 1

end Cursor

end TableBrowser.Yaml
