/-!
# Characters and texts

Sets of characters are given by ranges of code points, among them the blanks
between words and the digits of all scripts.
-/

namespace TableBrowser.Text

/-! ## Sets of characters -/

/-- The first and the last code point of a range. -/
abbrev CharacterRange := Nat × Nat

namespace CharacterRange

def contains (range : CharacterRange) (char : Char) : Bool :=
  range.1 ≤ char.toNat && char.toNat ≤ range.2

def covers (ranges : List CharacterRange) (char : Char) : Bool :=
  ranges.any (·.contains char)

end CharacterRange

/-! ## Blank characters

Spaces, tabs, line ends and separators. Words are what stands between them.
-/

def blankRanges : List CharacterRange := [
  (0x09, 0x0D), (0x1C, 0x20), (0x85, 0x85), (0xA0, 0xA0), (0x1680, 0x1680), (0x2000, 0x200A),
  (0x2028, 0x2029), (0x202F, 0x202F), (0x205F, 0x205F), (0x3000, 0x3000)]

def isBlank (char : Char) : Bool := CharacterRange.covers blankRanges char

/-- Characters without the blanks before and after them. -/
def trimChars (chars : List Char) : List Char :=
  ((chars.dropWhile isBlank).reverse.dropWhile isBlank).reverse

def trim (text : String) : String := String.ofList (trimChars text.toList)

def isAllBlank (text : String) : Bool := text.toList.all isBlank

/-- The first word of characters and what follows the blanks after it. -/
def splitFirstWord (chars : List Char) : List Char × List Char :=
  let fromWord := chars.dropWhile isBlank
  let word := fromWord.takeWhile (!isBlank ·)
  (word, (fromWord.drop word.length).dropWhile isBlank)

example : trim "  a b\t" = "a b" := by decide
example : splitFirstWord " go to".toList = ("go".toList, "to".toList) := by decide

/-! ## Digits

A decimal digit has a place value; a few other characters, superscripts among
them, are digits without one.
-/

/-- The zeros of the decimal scripts; each is followed by its nine other digits. -/
def decimalZeros : List Nat := [
  0x30, 0x660, 0x6F0, 0x7C0, 0x966, 0x9E6, 0xA66, 0xAE6, 0xB66, 0xBE6, 0xC66, 0xCE6, 0xD66, 0xDE6,
  0xE50, 0xED0, 0xF20, 0x1040, 0x1090, 0x17E0, 0x1810, 0x1946, 0x19D0, 0x1A80, 0x1A90, 0x1B50,
  0x1BB0, 0x1C40, 0x1C50, 0xA620, 0xA8D0, 0xA900, 0xA9D0, 0xA9F0, 0xAA50, 0xABF0, 0xFF10, 0x104A0,
  0x10D30, 0x11066, 0x110F0, 0x11136, 0x111D0, 0x112F0, 0x11450, 0x114D0, 0x11650, 0x116C0,
  0x11730, 0x118E0, 0x11950, 0x11C50, 0x11D50, 0x11DA0, 0x16A60, 0x16AC0, 0x16B50, 0x1D7CE,
  0x1D7D8, 0x1D7E2, 0x1D7EC, 0x1D7F6, 0x1E140, 0x1E2F0, 0x1E950, 0x1FBF0]

/-- Digits that are not part of a decimal script. -/
def otherDigitRanges : List CharacterRange := [
  (0xB2, 0xB3), (0xB9, 0xB9), (0x1369, 0x1371), (0x19DA, 0x19DA), (0x2070, 0x2070),
  (0x2074, 0x2079), (0x2080, 0x2089), (0x2460, 0x2468), (0x2474, 0x247C), (0x2488, 0x2490),
  (0x24EA, 0x24EA), (0x24F5, 0x24FD), (0x24FF, 0x24FF), (0x2776, 0x277E), (0x2780, 0x2788),
  (0x278A, 0x2792), (0x10A40, 0x10A43), (0x10E60, 0x10E68), (0x11052, 0x1105A), (0x1F100, 0x1F10A)]

/-- The value of a decimal digit of any script. -/
def decimalDigit? (char : Char) : Option Nat :=
  (decimalZeros.find? fun start => start ≤ char.toNat && char.toNat < start + 10).map
    (char.toNat - ·)

def isDecimalDigit (char : Char) : Bool := (decimalDigit? char).isSome

def isDigit (char : Char) : Bool :=
  isDecimalDigit char || CharacterRange.covers otherDigitRanges char

/-! ## Parts of texts -/

/-- Whether a part starts at some place of the characters, their end included. -/
def occursIn (part : List Char) : List Char → Bool
  | [] => part.isEmpty
  | char :: chars => part.isPrefixOf (char :: chars) || occursIn part chars

example : occursIn ['b', 'c'] ['a', 'b', 'c'] = true := by decide
example : occursIn [] [] = true := by decide

end TableBrowser.Text
