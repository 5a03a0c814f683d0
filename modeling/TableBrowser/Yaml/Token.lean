import TableBrowser.Json.Reading
import TableBrowser.Yaml.Cursor
/-!
# Tokens

The text of a document is a row of tokens. Indentation has become tokens that
open and close collections, and each key has a token in front of it.
-/

namespace TableBrowser.Yaml

/-- A line before a document. -/
inductive Directive where
  | version (major : Nat)
  /-- What a handle of tags stands for. -/
  | tagHandle (handle expansion : String)
  | unknown
deriving DecidableEq, Repr

inductive Token where
  | directive (directive : Directive)
  | documentStart
  | documentEnd
  | blockSequence
  | blockMapping
  | blockEnd
  | flowSequence
  | flowSequenceEnd
  | flowMapping
  | flowMappingEnd
  /-- A dash in front of an item. -/
  | item
  /-- A comma between items. -/
  | separator
  | key
  | value
  | reference (name : String)
  | anchor (name : String)
  | tag (handle : Option String) (suffix : String)
  /-- A scalar, and whether it is written without quotes. -/
  | scalar (text : String) (plain : Bool)
deriving DecidableEq, Repr

namespace Cursor

/-! ## Names -/

/-- The name of an anchor or of a reference, after its mark. -/
def nodeName (cursor : Cursor) : Attempt (String × Cursor) := do
  let (name, cursor) := cursor.span isNameChar
  expect (!name.isEmpty)
  let follows := match cursor.peek? with
    | some char => endsWord (some char) || ['?', ':', ',', ']', '}', '%', '@', '\x60'].contains char
    | none => true
  expect follows
  return (String.ofList name, cursor)

/-! ## Tags -/

/-- A handle with its exclamation marks; a space may follow a lone mark. -/
def tagHandle (cursor : Cursor) : Attempt (String × Cursor) := do
  let cursor ← cursor.past '!'
  if cursor.peek? = some ' ' then return ("!", cursor)
  let (name, cursor) := cursor.span isNameChar
  let cursor ← cursor.past '!'
  return ("!" ++ String.ofList name ++ "!", cursor)

def isTagChar (char : Char) : Bool :=
  isNameChar char || ";/?:@&=+$,.!~*'()[]%".toList.contains char

/-- The bytes that escapes with a percent sign stand for. -/
def escapedBytes (cursor : Cursor) : Nat → Attempt (List UInt8 × Cursor)
  | 0 => return ([], cursor)
  | fuel + 1 =>
      match cursor.rest with
      | '%' :: first :: second :: _ =>
          match Json.hexNumber? [first, second] with
          | some code => do
              let (codes, after) ← escapedBytes (cursor.advance 3) fuel
              return (UInt8.ofNat code :: codes, after)
          | none => fails
      | '%' :: _ => fails
      | _ => return ([], cursor)

def tagText (cursor : Cursor) (done : String) : Nat → Attempt (String × Cursor)
  | 0 => fails
  | fuel + 1 => do
      let (chars, after) := cursor.span fun char => isTagChar char && char != '%'
      let done := done ++ String.ofList chars
      if after.peek? = some '%' then
        let (codes, after) ← after.escapedBytes after.fuel
        match String.fromUTF8? ⟨codes.toArray⟩ with
        | some text => tagText after (done ++ text) fuel
        | none => fails
      else
        expect (!done.isEmpty)
        return (done, after)

def tagSuffix (cursor : Cursor) : Attempt (String × Cursor) := cursor.tagText "" cursor.fuel

def hasHandle (cursor : Cursor) : Bool :=
  ((cursor.next.span fun char => !endsField (some char)).1).contains '!'

/-- A tag: in brackets, a lone mark, or a suffix after a handle. -/
def tag (cursor : Cursor) : Attempt (Token × Cursor) := do
  let (token, cursor) ←
    if cursor.ahead? 1 = some '<' then do
      let (suffix, after) ← (cursor.advance 2).tagSuffix
      pure (Token.tag none suffix, ← after.past '>')
    else if endsWord (cursor.ahead? 1) then pure (Token.tag none "!", cursor.next)
    else do
      let (handle, after) ← if cursor.hasHandle then cursor.tagHandle else pure ("!", cursor.next)
      let (suffix, after) ← after.tagSuffix
      pure (Token.tag (some handle) suffix, after)
  expect (endsField cursor.peek?)
  return (token, cursor)

/-! ## Directives -/

def versionNumber (cursor : Cursor) : Attempt (Nat × Cursor) := do
  let (digits, cursor) := cursor.span Decimal.isDigit
  match Decimal.value? digits with
  | some value =>
      if Numeral.digitLimit < digits.length then .error (.fault (.longNumeral digits.length))
      else return (value, cursor)
  | none => fails

def directiveValue (name : String) (cursor : Cursor) : Attempt (Directive × Cursor) := do
  if name = "YAML" then
    let (major, cursor) ← cursor.skipSpaces.versionNumber
    let (_, cursor) ← (← cursor.past '.').versionNumber
    expect (endsField cursor.peek?)
    return (.version major, cursor)
  else if name = "TAG" then
    let (handle, cursor) ← cursor.skipSpaces.tagHandle
    expect (cursor.peek? = some ' ')
    let (expansion, cursor) ← cursor.skipSpaces.tagSuffix
    expect (endsField cursor.peek?)
    return (.tagHandle handle expansion, cursor)
  else return (.unknown, cursor.skip fun char => !isBreak char)

/-- A directive with its line, from its percent sign. -/
def directive (cursor : Cursor) : Attempt (Token × Cursor) := do
  let (name, cursor) := cursor.next.span isNameChar
  expect (!name.isEmpty && endsField cursor.peek?)
  let (directive, cursor) ← cursor.directiveValue (String.ofList name)
  return (.directive directive, ← cursor.restOfLine)

end Cursor

end TableBrowser.Yaml
