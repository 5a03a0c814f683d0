import TableBrowser.Number.Decimal
import TableBrowser.Text.Unprintable
/-!
# Quoted text in messages

Text is shown between single quotes, or between double ones when it holds a
single quote and no double one. Backslashes, the enclosing quote and characters
without a printed form are escaped.
-/

namespace TableBrowser.Text.Quoted

def hexDigit (value : Nat) : Char :=
  if value % 16 < 10 then Char.ofNat ('0'.toNat + value % 16)
  else Char.ofNat ('a'.toNat + (value % 16 - 10))

/-- The last `width` hexadecimal digits of a number. -/
def hex : (width : Nat) → Nat → List Char
  | 0, _ => []
  | width + 1, value => hex width (value / 16) ++ [hexDigit value]

/-- The quote that encloses some characters. -/
def enclosing (chars : List Char) : Char :=
  if chars.contains '\'' && !chars.contains '"' then '"' else '\''

def escapeCommon? (quote char : Char) : Option (List Char) :=
  if char = quote ∨ char = '\\' then some ['\\', char]
  else if char = '\t' then some ['\\', 't']
  else if char = '\n' then some ['\\', 'n']
  else if char = '\r' then some ['\\', 'r']
  else none

def escapeCode (code : Nat) : List Char :=
  if code ≤ 0xFF then '\\' :: 'x' :: hex 2 code
  else if code ≤ 0xFFFF then '\\' :: 'u' :: hex 4 code
  else '\\' :: 'U' :: hex 8 code

def escape (quote char : Char) : List Char :=
  match escapeCommon? quote char with
  | some escaped => escaped
  | none =>
      if char.toNat < 0x7F then
        if char.toNat < 0x20 then escapeCode char.toNat else [char]
      else if isPrintable char then [char]
      else escapeCode char.toNat

def encodeChars (chars : List Char) : List Char :=
  let quote := enclosing chars
  quote :: chars.flatMap (escape quote) ++ [quote]

def encode (text : String) : String := String.ofList (encodeChars text.toList)

def byteChar (byte : UInt8) : Char := Char.ofNat byte.toNat

def escapeByte (quote : Char) (byte : UInt8) : List Char :=
  match escapeCommon? quote (byteChar byte) with
  | some escaped => escaped
  | none =>
      if byte.toNat < 0x20 ∨ 0x7F ≤ byte.toNat then escapeCode byte.toNat
      else [byteChar byte]

/-- Bytes in quotes, after a letter that tells them from text. -/
def encodeBytes (bytes : List UInt8) : String :=
  let quote := enclosing (bytes.map byteChar)
  String.ofList ('b' :: quote :: bytes.flatMap (escapeByte quote) ++ [quote])

example : encodeChars ['i', 't', '\'', 's'] = ['"', 'i', 't', '\'', 's', '"'] := by decide

end TableBrowser.Text.Quoted
