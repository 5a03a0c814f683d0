import TableBrowser.Yaml.Scalar
/-!
# The row of tokens

Reading keeps a stack of the columns at which block collections are set, and
per level of brackets the place at which a key may turn out to have started: a
colon later puts the mark of a key in front of that place. Such a key ends on
its line, after at most 1024 characters.
-/

namespace TableBrowser.Yaml

/-- A place at which a key may have started. -/
structure PendingKey where
  /-- How many tokens stand before it. -/
  place : Nat
  /-- Nothing but a key can stand here. -/
  isRequired : Bool
  start : Cursor

structure TokenRow where
  cursor : Cursor
  /-- The tokens read, the last one first. -/
  tokens : List Token := []
  count : Nat := 0
  /-- The columns of the open block collections, innermost first. -/
  columns : List Nat := []
  /-- The pending key of the innermost level of brackets, and of those around it. -/
  pending : Option PendingKey := none
  outer : List (Option PendingKey) := []
  keyAllowed : Bool := true

def longestKey : Nat := 1024

namespace TokenRow

def inFlow (row : TokenRow) : Bool := !row.outer.isEmpty

/-- The column of the innermost block collection, one left of the first when there is none. -/
def indent (row : TokenRow) : Int :=
  match row.columns with
  | [] => -1
  | column :: _ => column

def add (row : TokenRow) (token : Token) : TokenRow :=
  { row with tokens := token :: row.tokens, count := row.count + 1 }

def insert (row : TokenRow) (place : Nat) (tokens : List Token) : TokenRow :=
  let (later, earlier) := row.tokens.splitAt (row.count - place)
  { row with
    tokens := later ++ tokens.reverse ++ earlier
    count := row.count + tokens.length }

/-! ## Indentation -/

/-- Closes the block collections set to the right of a column. -/
def closeTo (column : Int) (row : TokenRow) : TokenRow :=
  let (closed, kept) := row.columns.span fun (set : Nat) => decide (column < (set : Int))
  { row with
    tokens := List.replicate closed.length .blockEnd ++ row.tokens
    count := row.count + closed.length
    columns := kept }

/-- Opens a block collection at a column, when none is set there. -/
def openAt (column : Nat) (row : TokenRow) : Bool × TokenRow :=
  if row.indent < column then (true, { row with columns := column :: row.columns }) else (false, row)

/-- Opens a block collection at the cursor, when none is set there. -/
def openHere (token : Token) (row : TokenRow) : TokenRow :=
  match row.openAt row.cursor.column with
  | (true, row) => row.add token
  | (false, row) => row

/-! ## Pending keys -/

/-- A pending key that the cursor has left behind is none. -/
def freshKey (cursor : Cursor) : Option PendingKey → Attempt (Option PendingKey)
  | none => return none
  | some key =>
      if key.start.line = cursor.line && cursor.index ≤ key.start.index + longestKey then
        return some key
      else do
        expect (!key.isRequired)
        return none

def dropStale (row : TokenRow) : Attempt TokenRow := do
  return { row with
    pending := ← freshKey row.cursor row.pending
    outer := ← row.outer.mapM (freshKey row.cursor) }

def dropPending (row : TokenRow) : Attempt TokenRow := do
  expect (!(row.pending.map (·.isRequired)).getD false)
  return { row with pending := none }

/-- Notes that a key may start at the cursor. -/
def savePending (row : TokenRow) : Attempt TokenRow := do
  if !row.keyAllowed then return row
  let row ← row.dropPending
  return { row with
    pending := some {
      place := row.count
      isRequired := !row.inFlow && row.indent = row.cursor.column
      start := row.cursor } }

/-! ## Single tokens -/

def sign (token : Token) (row : TokenRow) : TokenRow :=
  { row with cursor := row.cursor.next }.add token

/-- A token that was read from the cursor on and may start a key. -/
def node (row : TokenRow) (read : Attempt (Token × Cursor)) : Attempt TokenRow := do
  let row ← row.savePending
  let (token, cursor) ← read
  return { row with cursor, keyAllowed := false }.add token

def openFlow (token : Token) (row : TokenRow) : Attempt TokenRow := do
  let row ← row.savePending
  return { row with pending := none, outer := row.pending :: row.outer, keyAllowed := true }.sign token

def closeFlow (token : Token) (row : TokenRow) : Attempt TokenRow := do
  let row ← row.dropPending
  match row.outer with
  | [] => fails
  | pending :: outer => return { row with pending, outer, keyAllowed := false }.sign token

def separator (row : TokenRow) : Attempt TokenRow := do
  let row ← row.dropPending
  return { row with keyAllowed := true }.sign .separator

/-- A token that a block collection is opened for, where a key could start. -/
def blockSign (opening token : Token) (row : TokenRow) : Attempt TokenRow := do
  expect (row.inFlow || row.keyAllowed)
  let row := if row.inFlow then row else row.openHere opening
  let row ← row.dropPending
  return row.sign token

def item (row : TokenRow) : Attempt TokenRow := do
  let row ← row.blockSign .blockSequence .item
  return { row with keyAllowed := true }

def key (row : TokenRow) : Attempt TokenRow := do
  let row ← row.blockSign .blockMapping .key
  return { row with keyAllowed := !row.inFlow }

/-- A colon; what was pending before it has been a key. -/
def value (row : TokenRow) : Attempt TokenRow := do
  match row.pending with
  | some pending =>
      let row := { row with pending := none, keyAllowed := false }
      let (opened, row) :=
        if row.inFlow then (false, row) else row.openAt pending.start.column
      let row := row.insert pending.place (if opened then [.blockMapping, .key] else [.key])
      return row.sign .value
  | none =>
      let row ← row.blockSign .blockMapping .value
      return { row with keyAllowed := !row.inFlow }

def plain (row : TokenRow) : Attempt TokenRow := do
  let row ← row.savePending
  let (text, broken, cursor) := row.cursor.plainScalar row.inFlow row.indent
  return { row with cursor, keyAllowed := broken }.add (.scalar text true)

def block (fold : Bool) (row : TokenRow) : Attempt TokenRow := do
  let row ← row.dropPending
  let (text, cursor) ← row.cursor.blockScalar fold row.indent
  return { row with cursor, keyAllowed := true }.add (.scalar text false)

/-- A line between documents; it closes all collections. -/
def outside (row : TokenRow) (read : Attempt (Token × Cursor)) : Attempt TokenRow := do
  let row ← (row.closeTo (-1)).dropPending
  let (token, cursor) ← read
  return { row with cursor, keyAllowed := false }.add token

/-! ## The next token -/

/-- Past spaces, comments and breaks; after a break outside of brackets a key may start. -/
def skipBlank (row : TokenRow) : Nat → TokenRow
  | 0 => row
  | fuel + 1 =>
      let row := { row with cursor := row.cursor.skipSpaces.skipComment }
      match row.cursor.lineBreak? with
      | some (_, after) =>
          skipBlank { row with cursor := after, keyAllowed := row.keyAllowed || !row.inFlow } fuel
      | none => row

/-- Signs that a plain scalar cannot start with. -/
def isSign (char : Char) : Bool := "-?:,[]{}#&*!|>'\"%@\x60".toList.contains char

def startsPlain (row : TokenRow) (char : Char) : Bool :=
  !(endsWord (some char) || isSign char) ||
    (!endsWord (row.cursor.ahead? 1) &&
      (char = '-' || (!row.inFlow && (char = '?' || char = ':'))))

def token (row : TokenRow) (char : Char) : Attempt TokenRow :=
  let cursor := row.cursor
  let next := cursor.ahead? 1
  let isAlone := row.inFlow || endsWord next
  if char = '%' && cursor.column = 0 then row.outside cursor.directive
  else if cursor.column = 0 && cursor.atMarker "---" then
    row.outside (.ok (.documentStart, cursor.advance 3))
  else if cursor.column = 0 && cursor.atMarker "..." then
    row.outside (.ok (.documentEnd, cursor.advance 3))
  else if char = '[' then row.openFlow .flowSequence
  else if char = '{' then row.openFlow .flowMapping
  else if char = ']' then row.closeFlow .flowSequenceEnd
  else if char = '}' then row.closeFlow .flowMappingEnd
  else if char = ',' then row.separator
  else if char = '-' && endsWord next then row.item
  else if char = '?' && isAlone then row.key
  else if char = ':' && isAlone then row.value
  else if char = '*' then
    row.node (cursor.next.nodeName.map fun (name, after) => (.reference name, after))
  else if char = '&' then
    row.node (cursor.next.nodeName.map fun (name, after) => (.anchor name, after))
  else if char = '!' then row.node cursor.tag
  else if char = '|' && !row.inFlow then row.block false
  else if char = '>' && !row.inFlow then row.block true
  else if char = '\'' || char = '"' then
    row.node ((cursor.quotedScalar (char = '"')).map fun (text, after) => (.scalar text false, after))
  else if row.startsPlain char then row.plain
  else fails

/-- All tokens; each step reads one. -/
def readAll (row : TokenRow) : Nat → Attempt TokenRow
  | 0 => fails
  | fuel + 1 => do
      let row ← (row.skipBlank row.cursor.fuel).dropStale
      let row := if row.inFlow then row else row.closeTo row.cursor.column
      match row.cursor.peek? with
      | some char => (← row.token char).readAll fuel
      | none => (if row.inFlow then row else row.closeTo (-1)).dropPending

end TokenRow

/-- The tokens of a document; a byte order mark in front of it is skipped. -/
def tokens (text : String) : Attempt (List Token) := do
  expect (text.toList.all isAllowed)
  let start : Cursor := ⟨text.toList, 0, 0, 0⟩
  let start := if start.peek? = some '\uFEFF' then start.next else start
  let row ← TokenRow.readAll ⟨start, [], 0, [], none, [], true⟩ start.fuel
  return row.tokens.reverse

end TableBrowser.Yaml
