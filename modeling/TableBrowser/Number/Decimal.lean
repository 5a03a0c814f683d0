import TableBrowser.Number.Binary64
import TableBrowser.Text.Basic
/-!
# Decimal text of numbers

Whole numbers are written with their digits and no more. A number of the 64-bit
format is written with the fewest digits that read back as the same number, and
of those the nearest. `NumberLayout` holds what a written form decides beyond
the digits.
-/

namespace TableBrowser.Decimal

/-! ## Digits -/

def digitChar (value : Nat) : Char := Char.ofNat ('0'.toNat + value % 10)

def digits (value : Nat) : List Char :=
  if value < 10 then [digitChar value]
  else digits (value / 10) ++ [digitChar value]

def digitValue? (char : Char) : Option Nat :=
  if '0' ≤ char ∧ char ≤ '9' then some (char.toNat - '0'.toNat) else none

def isDigit (char : Char) : Bool := (digitValue? char).isSome

/-- The number that a run of digits continues to, digit by digit. -/
def valueFrom (value : Nat) : List Char → Option Nat
  | [] => some value
  | char :: rest => do valueFrom (10 * value + (← digitValue? char)) rest

/-- The number that a non-empty run of ASCII digits writes. -/
def value? : List Char → Option Nat
  | [] => none
  | chars => valueFrom 0 chars

example : digits 2024 = ['2', '0', '2', '4'] := by simp [digits, digitChar]
example : value? ['0', '4', '2'] = some 42 := by decide

def natText (value : Nat) : String := String.ofList (digits value)

def intText (value : Int) : String :=
  if value < 0 then "-" ++ natText value.natAbs else natText value.natAbs

def padded (width value : Nat) : String :=
  let written := digits value
  String.ofList (List.replicate (width - written.length) '0' ++ written)

/-! ## The fewest digits that read back -/

/-- Digits and the power of ten they are scaled by. -/
structure Scaled where
  digits : Nat
  exponent : Int
deriving DecidableEq, Repr

/-- A power of ten as a fraction of two whole numbers. -/
def powerOfTen (exponent : Int) : Nat × Nat :=
  if 0 ≤ exponent then (Nat.pow 10 exponent.toNat, 1) else (1, Nat.pow 10 (-exponent).toNat)

/--
The interval of quarter units whose members read back as a magnitude. Its ends
belong to it when the last kept bit is even, because ties go to even numbers.
-/
structure ReadBack where
  value : Nat
  low : Nat
  high : Nat
  closed : Bool

def ReadBack.of (units : Nat) : ReadBack :=
  let step := Binary64.spacing units
  let narrow := 1 < step && units / step == Nat.pow 2 52
  { value := 4 * units
    low := 4 * units - (if narrow then step else 2 * step)
    high := 4 * units + 2 * step
    closed := units / step % 2 == 0 }

/-- Whether a fraction of quarter units lies in the interval. -/
def ReadBack.contains (interval : ReadBack) (numerator denominator : Nat) : Bool :=
  let low := interval.low * denominator
  let high := interval.high * denominator
  if interval.closed then low ≤ numerator && numerator ≤ high
  else low < numerator && numerator < high

/--
The neighbour of the value on the grid of multiples of a power of ten that
reads back, the nearer one when both do, the even one when they are as near.
-/
def ReadBack.onGrid? (interval : ReadBack) (exponent : Int) : Option Scaled :=
  let (power, divisor) := powerOfTen exponent
  let grid := 4 * Binary64.unitsPerOne * power
  let scaledValue := interval.value * divisor
  let below := scaledValue / grid
  let belowFits := 0 < below && interval.contains (below * grid) divisor
  let aboveFits := interval.contains ((below + 1) * grid) divisor
  let toBelow := scaledValue - below * grid
  let toAbove := (below + 1) * grid - scaledValue
  if belowFits && aboveFits then
    if toBelow < toAbove then some ⟨below, exponent⟩
    else if toAbove < toBelow then some ⟨below + 1, exponent⟩
    else if below % 2 = 0 then some ⟨below, exponent⟩
    else some ⟨below + 1, exponent⟩
  else if belowFits then some ⟨below, exponent⟩
  else if aboveFits then some ⟨below + 1, exponent⟩
  else none

/-- Grids from a coarse one to ever finer ones; the first hit has the fewest digits. -/
def ReadBack.firstOnGrids (interval : ReadBack) (exponent : Int) : Nat → Option Scaled
  | 0 => none
  | finer + 1 =>
      match interval.onGrid? exponent with
      | some scaled => some scaled
      | none => interval.firstOnGrids (exponent - 1) finer

/-- A power of ten above a positive magnitude, and at most a hundred times it. -/
def magnitudeExponent (units : Nat) : Int :=
  Int.fdiv ((units.log2 - 1074 : Int) * 30103) 100000 + 2

/--
The shortest decimal of a positive magnitude. Twenty grids reach past the
seventeen digits that tell any two numbers of the format apart; the exact
decimal stands behind them for a total answer.
-/
def shortest (units : Nat) : Scaled :=
  (ReadBack.of units).firstOnGrids (magnitudeExponent units) 20 |>.getD
    ⟨units * Nat.pow 5 1074, -1074⟩

/-! ## Layout -/

/-- What a written form of a number decides beyond its digits. -/
structure NumberLayout where
  /-- Least power of ten of the first digit that is written positionally. -/
  positionalFrom : Int
  /-- First power of ten that is not. -/
  positionalBelow : Int
  exponentDigits : Nat
  notANumber : String
  infinity : String
  /-- Whether a mantissa of one digit gets a fraction before its exponent. -/
  mantissaFraction : Bool

/-- Digits with a point after the first `whole` of them, zeros filled in on both sides. -/
def positional (written : List Char) (whole : Int) : String :=
  if whole ≤ 0 then
    "0." ++ String.ofList (List.replicate (-whole).toNat '0' ++ written)
  else if written.length ≤ whole.toNat then
    String.ofList (written ++ List.replicate (whole.toNat - written.length) '0') ++ ".0"
  else
    String.ofList (written.take whole.toNat) ++ "." ++ String.ofList (written.drop whole.toNat)

def exponential (layout : NumberLayout) (written : List Char) (exponent : Int) : String :=
  let mantissa := match written with
    | first :: second :: rest => String.ofList (first :: '.' :: second :: rest)
    | short => String.ofList short ++ (if layout.mantissaFraction then ".0" else "")
  let sign := if exponent < 0 then "-" else "+"
  mantissa ++ "e" ++ sign ++ padded layout.exponentDigits exponent.natAbs

def scaledText (layout : NumberLayout) (scaled : Scaled) : String :=
  let written := digits scaled.digits
  let first := scaled.exponent + written.length - 1
  if layout.positionalFrom ≤ first ∧ first < layout.positionalBelow then
    positional written (first + 1)
  else exponential layout written first

def numberText (layout : NumberLayout) : Binary64 → String
  | .nan => layout.notANumber
  | .infinite negative => (if negative then "-" else "") ++ layout.infinity
  | .finite negative units _ =>
      let sign := if negative then "-" else ""
      if units = 0 then sign ++ "0.0" else sign ++ scaledText layout (shortest units)

end TableBrowser.Decimal

/-! ## Reading numerals

Numerals may use the digits of any script, underscores between two digits, and
blanks around them. A whole number is a sign and digits; a decimal may have a
fraction and an exponent, or be one of the words for infinity and for no number.
-/

namespace TableBrowser.Numeral

/-- More digits than this are refused in a whole number. -/
def digitLimit : Nat := 4300

/-- A character with the digits and blanks of other scripts replaced by plain ones. -/
def plain (char : Char) : Char :=
  if char.toNat < 0x80 then char
  else match Text.decimalDigit? char with
    | some value => Decimal.digitChar value
    | none => if Text.isBlank char then ' ' else char

def isSpace (char : Char) : Bool :=
  char = ' ' || (0x09 ≤ char.toNat && char.toNat ≤ 0x0D)

/-- Underscores dropped; nothing when one does not stand between two digits. -/
def joinGroups (afterDigit : Bool) : List Char → Option (List Char)
  | [] => some []
  | '_' :: rest =>
      if afterDigit && (rest.head?.map Decimal.isDigit).getD false then joinGroups false rest
      else none
  | char :: rest => (joinGroups (Decimal.isDigit char) rest).map (char :: ·)

/-- The characters of a numeral in plain digits, without blanks around and underscores inside. -/
def normalize? (text : String) : Option (List Char) :=
  let chars := (text.toList.map plain).dropWhile isSpace
  joinGroups false (chars.reverse.dropWhile isSpace).reverse

def splitSign : List Char → Bool × List Char
  | '-' :: rest => (true, rest)
  | '+' :: rest => (false, rest)
  | chars => (false, chars)

def int? (text : String) : Option Int := do
  let (negative, chars) := splitSign (← normalize? text)
  let value ← Decimal.value? chars
  if digitLimit < chars.length then none
  else some (if negative then -(value : Int) else value)

/-- A whole number of ASCII digits after an optional sign; an absent one is nothing. -/
def exponent? (chars : List Char) : Option Int := do
  let (negative, digits) := splitSign chars
  let value ← Decimal.value? digits
  some (if negative then -(value : Int) else value)

/-- Digits with an optional point and an optional exponent. -/
def decimal? (negative : Bool) (chars : List Char) : Option Binary64 := do
  let whole := chars.takeWhile Decimal.isDigit
  let afterWhole := chars.drop whole.length
  let (fraction, afterFraction) := match afterWhole with
    | '.' :: rest => (rest.takeWhile Decimal.isDigit, rest.dropWhile Decimal.isDigit)
    | rest => ([], rest)
  let value ← Decimal.value? (whole ++ fraction)
  let exponent ← match afterFraction with
    | [] => some 0
    | 'e' :: rest => exponent? rest
    | 'E' :: rest => exponent? rest
    | _ => none
  some (Binary64.ofDecimal negative value (exponent - fraction.length))

def number? (text : String) : Option Binary64 := do
  let (negative, chars) := splitSign (← normalize? text)
  let word := String.ofList (chars.map Char.toLower)
  if word = "inf" ∨ word = "infinity" then some (.infinite negative)
  else if word = "nan" then some .nan
  else decimal? negative chars

example : int? " -1_000 " = some (-1000) := by decide
example : int? "1__0" = none := by decide
example : int? "0x10" = none := by decide

end TableBrowser.Numeral
