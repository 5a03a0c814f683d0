import TableBrowser.Text.LetterCaseTable
/-!
# Lower and upper case

Case is mapped character by character, with two exceptions of position and
size: a capital sigma that ends a word becomes a final sigma, and some
characters map to several.
-/

namespace TableBrowser.Text

def lowerChar (char : Char) : Char :=
  if char.toNat < 0x80 then char.toLower
  else Char.ofNat (CaseShift.apply lowerShifts char.toNat)

def upperChar (char : Char) : Char :=
  if char.toNat < 0x80 then char.toUpper
  else Char.ofNat (CaseShift.apply upperShifts char.toNat)

private def isCaseIgnorable (char : Char) : Bool := CharacterRange.covers caseIgnorableRanges char

private def isCased (char : Char) : Bool := CharacterRange.covers casedRanges char

/-- Whether the first character that case does not look through has case. -/
private def meetsCased (chars : List Char) : Bool :=
  ((chars.dropWhile isCaseIgnorable).head?.map isCased).getD false

private def capitalSigma : Char := 'Σ'

/-- Lower case of one character between those before it, nearest first, and those after it. -/
def lowerAt (before : List Char) (char : Char) (after : List Char) : List Char :=
  if char = capitalSigma then
    if meetsCased before && !meetsCased after then ['ς'] else ['σ']
  else if char = 'İ' then ['i', '\u0307']
  else [lowerChar char]

def lowerFrom (before : List Char) : List Char → List Char
  | [] => []
  | char :: after => lowerAt before char after ++ lowerFrom (char :: before) after

def lower (text : String) : String := String.ofList (lowerFrom [] text.toList)

/-- Upper case of one character, one or several. -/
def upperExpanded (char : Char) : List Char :=
  match upperExpansions.find? (·.1 = char.toNat) with
  | some (_, codes) => codes.map Char.ofNat
  | none => [upperChar char]

def upper (text : String) : String := String.ofList (text.toList.flatMap upperExpanded)

/-! ## Forms of a letter

Characters that differ in case only are forms of one letter. A few letters have
further forms that no case mapping leads to, such as the long s.
-/

/-- Small letters and the other small letters that count as the same. -/
def furtherForms : List (Nat × List Nat) := [
  (0x69, [0x131]), (0x73, [0x17F]), (0xB5, [0x3BC]), (0x131, [0x69]), (0x17F, [0x73]),
  (0x345, [0x3B9, 0x1FBE]), (0x390, [0x1FD3]), (0x3B0, [0x1FE3]), (0x3B2, [0x3D0]),
  (0x3B5, [0x3F5]), (0x3B8, [0x3D1]), (0x3B9, [0x345, 0x1FBE]), (0x3BA, [0x3F0]), (0x3BC, [0xB5]),
  (0x3C0, [0x3D6]), (0x3C1, [0x3F1]), (0x3C2, [0x3C3]), (0x3C3, [0x3C2]), (0x3C6, [0x3D5]),
  (0x3D0, [0x3B2]), (0x3D1, [0x3B8]), (0x3D5, [0x3C6]), (0x3D6, [0x3C0]), (0x3F0, [0x3BA]),
  (0x3F1, [0x3C1]), (0x3F5, [0x3B5]), (0x432, [0x1C80]), (0x434, [0x1C81]), (0x43E, [0x1C82]),
  (0x441, [0x1C83]), (0x442, [0x1C84, 0x1C85]), (0x44A, [0x1C86]), (0x463, [0x1C87]),
  (0x1C80, [0x432]), (0x1C81, [0x434]), (0x1C82, [0x43E]), (0x1C83, [0x441]),
  (0x1C84, [0x442, 0x1C85]), (0x1C85, [0x442, 0x1C84]), (0x1C86, [0x44A]), (0x1C87, [0x463]),
  (0x1C88, [0xA64B]), (0x1E61, [0x1E9B]), (0x1E9B, [0x1E61]), (0x1FBE, [0x345, 0x3B9]),
  (0x1FD3, [0x390]), (0x1FE3, [0x3B0]), (0xA64B, [0x1C88]), (0xFB05, [0xFB06]), (0xFB06, [0xFB05])]

/-- The code points whose small letter is the given one, by the entries of the case table. -/
def capitalsOf (small : Nat) : List Nat :=
  lowerShifts.filterMap fun entry =>
    let code := ((small : Int) - entry.shift).toNat
    if entry.first ≤ code && code ≤ entry.last && (code - entry.first) % entry.step == 0 then
      some code
    else none

/-- All characters that are the same letter as the given one. -/
def caseForms (char : Char) : List Char :=
  let small := (lowerChar char).toNat
  let smalls := small :: ((furtherForms.find? (·.1 = small)).map (·.2)).getD []
  (smalls.flatMap fun code => code :: capitalsOf code).map Char.ofNat

/-- The forms of a letter of which only the ASCII ones count. -/
def asciiCaseForms (char : Char) : List Char :=
  if char.isLower then [char, char.toUpper]
  else if char.isUpper then [char, char.toLower]
  else [char]

end TableBrowser.Text
