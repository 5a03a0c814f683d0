import TableBrowser.Calendar.Moment
import TableBrowser.Yaml.Cursor
/-!
# Kinds of nodes

A tag names the kind of a node. A plain scalar without a tag has the kind that
its text shows, and is a text when it shows none.
-/

namespace TableBrowser.Yaml

inductive Kind where
  | null
  | boolean
  | integer
  | number
  | bytes
  | moment
  | text
  | sequence
  | mapping
  /-- A sequence of mappings with one entry each. -/
  | pairs
  /-- A key whose value is a mapping to take entries from. -/
  | merge
  /-- A key for the value that stands for its mapping. -/
  | default
  | other
deriving DecidableEq, Repr

namespace Kind

def tagNames : List (String × Kind) := [
  ("null", .null), ("bool", .boolean), ("int", .integer), ("float", .number), ("binary", .bytes),
  ("timestamp", .moment), ("str", .text), ("seq", .sequence), ("map", .mapping), ("omap", .pairs),
  ("pairs", .pairs), ("merge", .merge), ("value", .default)]

/-- What the tags of the standard kinds start with. -/
def standardTags : String := "tag:yaml.org,2002:"

def ofTag (tag : String) : Kind :=
  match tagNames.find? fun (name, _) => standardTags ++ name = tag with
  | some (_, kind) => kind
  | none => .other

/-! ## Numbers -/

def dropSign : List Char → List Char
  | '-' :: rest => rest
  | '+' :: rest => rest
  | chars => chars

def isDigit (char : Char) : Bool := '0' ≤ char && char ≤ '9'

def isGrouped (digit : Char → Bool) (chars : List Char) : Bool :=
  chars.all fun char => digit char || char = '_'

/-- One of the parts after a colon: minutes or seconds. -/
def isSixtieth : List Char → Bool
  | [char] => isDigit char
  | [first, second] => '0' ≤ first && first ≤ '5' && isDigit second
  | _ => false

def splitAtChar (mark : Char) : List Char → List (List Char)
  | [] => [[]]
  | char :: rest =>
      match splitAtChar mark rest with
      | [] => [[char]]
      | part :: parts => if char = mark then [] :: part :: parts else (char :: part) :: parts

/-- Decimal digits that start with one, in groups. -/
def isWhole (chars : List Char) : Bool :=
  (chars.head?.map isDigit).getD false && isGrouped isDigit chars

def isInteger (chars : List Char) : Bool :=
  match dropSign chars with
  | '0' :: 'b' :: rest => !rest.isEmpty && isGrouped (fun char => char = '0' || char = '1') rest
  | '0' :: 'x' :: rest =>
      !rest.isEmpty && isGrouped
        (fun char => isDigit char || 'a' ≤ char && char ≤ 'f' || 'A' ≤ char && char ≤ 'F') rest
  | '0' :: rest => isGrouped (fun char => '0' ≤ char && char ≤ '7') rest
  | chars =>
      match splitAtChar ':' chars with
      | [] => false
      | whole :: sixtieths => isWhole whole && sixtieths.all isSixtieth

/-- Nothing, or an exponent with its sign. -/
def isExponent : List Char → Bool
  | [] => true
  | letter :: sign :: digits =>
      (letter = 'e' || letter = 'E') && (sign = '-' || sign = '+') && !digits.isEmpty &&
        digits.all isDigit
  | _ => false

/-- Digits in groups, and an exponent. -/
def isFraction (chars : List Char) : Bool :=
  isExponent (chars.dropWhile fun char => isDigit char || char = '_')

def isNumber (chars : List Char) : Bool :=
  let body := dropSign chars
  let whole := body.takeWhile fun char => char != '.'
  match body.drop whole.length, splitAtChar ':' whole with
  | '.' :: fraction, [] :: [] =>
      ["inf", "Inf", "INF"].contains (String.ofList fraction) ||
        body.length = chars.length &&
          (["nan", "NaN", "NAN"].contains (String.ofList fraction) ||
            (fraction.head?.map isDigit).getD false && isFraction fraction)
  | '.' :: fraction, [whole] => isWhole whole && isFraction fraction
  | '.' :: fraction, whole :: sixtieths =>
      isWhole whole && sixtieths.all isSixtieth && isGrouped isDigit fraction
  | _, _ => false

end Kind

/-! ## Dates and moments -/

/-- The distance of a moment from universal time: sign, hours and minutes. -/
structure WrittenOffset where
  behind : Bool
  hours : Nat
  minutes : Nat

structure WrittenTime where
  hour : Nat
  minute : Nat
  second : Nat
  fraction : List Char
  offset : Option WrittenOffset

/-- A date as it is written, with a time or without. -/
structure WrittenMoment where
  year : Nat
  month : List Char
  day : List Char
  time : Option WrittenTime

namespace WrittenMoment

/-- Digits, as many as there are from a least count to a greatest. -/
def digits? (least most : Nat) (chars : List Char) : Option (List Char × List Char) :=
  let taken := (chars.take most).takeWhile Kind.isDigit
  if least ≤ taken.length then some (taken, chars.drop taken.length) else none

def number (digits : List Char) : Nat := (Decimal.value? digits).getD 0

def past? (mark : Char) : List Char → Option (List Char)
  | char :: rest => if char = mark then some rest else none
  | [] => none

def offset? (chars : List Char) : Option (Option WrittenOffset) :=
  match chars.dropWhile isSpaceOrTab with
  | [] => if chars.isEmpty then some none else none
  | ['Z'] => some (some ⟨false, 0, 0⟩)
  | sign :: rest => do
      if sign != '-' && sign != '+' then none
      let (hours, rest) ← digits? 1 2 rest
      let (minutes, rest) ← match rest with
        | ':' :: rest => digits? 2 2 rest
        | rest => some ([], rest)
      if !rest.isEmpty then none
      some (some ⟨sign = '-', number hours, number minutes⟩)

def time? (chars : List Char) : Option WrittenTime := do
  let chars ← match chars with
    | 'T' :: rest | 't' :: rest => some rest
    | first :: _ => if isSpaceOrTab first then some (chars.dropWhile isSpaceOrTab) else none
    | [] => none
  let (hour, chars) ← digits? 1 2 chars
  let (minute, chars) ← digits? 2 2 (← past? ':' chars)
  let (second, chars) ← digits? 2 2 (← past? ':' chars)
  let (fraction, chars) := match chars with
    | '.' :: rest => (rest.takeWhile Kind.isDigit, rest.dropWhile Kind.isDigit)
    | chars => ([], chars)
  let offset ← offset? chars
  some ⟨number hour, number minute, number second, fraction, offset⟩

def ofChars? (chars : List Char) : Option WrittenMoment := do
  let (year, chars) ← digits? 4 4 chars
  let (month, chars) ← digits? 1 2 (← past? '-' chars)
  let (day, chars) ← digits? 1 2 (← past? '-' chars)
  let time ← if chars.isEmpty then some none else (time? chars).map some
  some ⟨number year, month, day, time⟩

/-- A lone date has two digits for month and day. -/
def isClear (moment : WrittenMoment) : Bool :=
  moment.time.isSome || (moment.month.length = 2 && moment.day.length = 2)

end WrittenMoment

namespace Kind

def nullWords : List String := ["~", "null", "Null", "NULL", ""]

def trueWords : List String := ["yes", "Yes", "YES", "true", "True", "TRUE", "on", "On", "ON"]

def falseWords : List String := ["no", "No", "NO", "false", "False", "FALSE", "off", "Off", "OFF"]

def ofPlain (text : String) : Kind :=
  let chars := text.toList
  if nullWords.contains text then .null
  else if trueWords.contains text || falseWords.contains text then .boolean
  else if isNumber chars then .number
  else if isInteger chars then .integer
  else if text = "<<" then .merge
  else if text = "=" then .default
  else if ((WrittenMoment.ofChars? chars).map (·.isClear)).getD false then .moment
  else .text

example : ofPlain "0o7" = .text := by decide
example : ofPlain "1e5" = .text := by decide
example : ofPlain "1.5e+3" = .number := by decide
example : ofPlain "190:20:30" = .integer := by decide
example : ofPlain "-0x_1F" = .integer := by decide
example : ofPlain "2024-1-2" = .text := by decide
example : ofPlain "2024-1-2 3:04:05" = .moment := by decide

end Kind

end TableBrowser.Yaml
