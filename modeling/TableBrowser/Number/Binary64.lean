/-!
# Numbers of the 64-bit binary interchange format

A finite number is a sign and a whole number of *units*, a unit being the least
positive number of the format, `2 ^ -1074`. Every operation below is exact
arithmetic on units followed by one rounding to the nearest number of the
format, a tie going to the even neighbour. `ofUnits` is the only place where
something is rounded.
-/

namespace TableBrowser

/-- The nearest whole number to `numerator / denominator`; a half goes to the even neighbour. -/
def roundHalfEven (numerator denominator : Nat) : Nat :=
  let quotient := numerator / denominator
  let remainder := numerator % denominator
  if 2 * remainder < denominator then quotient
  else if denominator < 2 * remainder then quotient + 1
  else if quotient % 2 = 0 then quotient
  else quotient + 1

namespace Binary64

def fractionBits : Nat := 1074

/-- How many units make one. -/
def unitsPerOne : Nat := Nat.pow 2 fractionBits

/-- Binary digits of the largest finite magnitude in units. -/
def magnitudeBits : Nat := 2098

/-- The least number of units that is too large to be finite. -/
@[irreducible] def unitsBound : Nat := Nat.pow 2 magnitudeBits

/-- The distance between neighbouring numbers at a magnitude: 53 significant bits are kept. -/
def spacing (units : Nat) : Nat := Nat.pow 2 (units.log2 + 1 - 53)

/-- A magnitude of the format: a multiple of the spacing there, and below the bound. -/
def Representable (units : Nat) : Prop :=
  units % spacing units = 0 ∧ units < unitsBound

instance (units : Nat) : Decidable (Representable units) :=
  inferInstanceAs (Decidable (_ ∧ _))

theorem unitsBound_pos : 0 < unitsBound := by
  have positive (bits : Nat) : 0 < Nat.pow 2 bits := Nat.two_pow_pos bits
  unfold unitsBound
  exact positive magnitudeBits

theorem representable_zero : Representable 0 :=
  ⟨Nat.zero_mod _, unitsBound_pos⟩

end Binary64

/-- A number of the 64-bit format. All patterns that are not a number are one value. -/
inductive Binary64 where
  | nan
  | infinite (negative : Bool)
  | finite (negative : Bool) (units : Nat) (representable : Binary64.Representable units)
deriving DecidableEq

namespace Binary64

instance : Inhabited Binary64 := ⟨.nan⟩

def zero : Binary64 := .finite false 0 representable_zero

def negativeZero : Binary64 := .finite true 0 representable_zero

/-- A magnitude of the format, or the infinity that a larger one overflows to. -/
def ofMagnitude (negative : Bool) (units : Nat) : Binary64 :=
  if representable : Representable units then .finite negative units representable
  else .infinite negative

/-- The number nearest to a fraction of a unit count. -/
def ofUnits (negative : Bool) (numerator denominator : Nat) : Binary64 :=
  let step := spacing (numerator / denominator)
  ofMagnitude negative (roundHalfEven numerator (denominator * step) * step)

/-- The number nearest to a ratio of whole numbers. -/
def ofRatio (negative : Bool) (numerator denominator : Nat) : Binary64 :=
  ofUnits negative (numerator * unitsPerOne) denominator

/-- The number nearest to a whole number, infinite when there is none near. -/
def ofInt (value : Int) : Binary64 :=
  ofRatio (value < 0) value.natAbs 1

/--
The number nearest to `digits * 10 ^ exponent`. Exponents far outside the range
of the format are answered without computing the power.
-/
def ofDecimal (negative : Bool) (digits : Nat) (exponent : Int) : Binary64 :=
  let size : Int := digits.log2
  if digits = 0 then .finite negative 0 representable_zero
  else if 400 < exponent then .infinite negative
  else if size + 3 * exponent < -1200 then .finite negative 0 representable_zero
  else if 0 ≤ exponent then ofRatio negative (digits * Nat.pow 10 exponent.toNat) 1
  else ofRatio negative digits (Nat.pow 10 (-exponent).toNat)

/-! ## Sign, class and order -/

def isNaN : Binary64 → Bool
  | .nan => true
  | _ => false

def isFinite : Binary64 → Bool
  | .finite .. => true
  | _ => false

def isNegative : Binary64 → Bool
  | .nan => false
  | .infinite negative => negative
  | .finite negative _ _ => negative

def isZero : Binary64 → Bool
  | .finite _ units _ => units = 0
  | _ => false

def neg : Binary64 → Binary64
  | .nan => .nan
  | .infinite negative => .infinite (!negative)
  | .finite negative units representable => .finite (!negative) units representable

def isIntegral : Binary64 → Bool
  | .finite _ units _ => units % unitsPerOne = 0
  | _ => false

/-- Drops the fraction, toward zero. -/
def truncate : Binary64 → Option Int
  | .finite negative units _ =>
      let whole : Int := (units / unitsPerOne : Nat)
      some (if negative then -whole else whole)
  | _ => none

def signed (negative : Bool) (units : Nat) : Int :=
  if negative then -(units : Int) else units

/-! Where a number stands on the line that ends in the two infinities. -/

inductive Place where
  | below
  | at (units : Int)
  | above
deriving DecidableEq

namespace Place

def lt : Place → Place → Bool
  | .below, .below => false
  | .below, _ => true
  | .at left, .at right => left < right
  | .at _, .above => true
  | _, _ => false

/-- The place of a whole number. -/
def ofInt (value : Int) : Place := .at (value * unitsPerOne)

end Place

/-- Nothing for the value that is not a number: it has no place, and compares with nothing. -/
def place? : Binary64 → Option Place
  | .nan => none
  | .infinite negative => some (if negative then .below else .above)
  | .finite negative units _ => some (.at (signed negative units))

def less (left right : Binary64) : Bool :=
  match left.place?, right.place? with
  | some leftPlace, some rightPlace => leftPlace.lt rightPlace
  | _, _ => false

def lessEq (left right : Binary64) : Bool :=
  match left.place?, right.place? with
  | some leftPlace, some rightPlace => !rightPlace.lt leftPlace
  | _, _ => false

/-! ## Arithmetic -/

/-- The number nearest to a signed fraction of a unit count; an exact zero is positive. -/
def ofSignedUnits (numerator : Int) (denominator : Nat) : Binary64 :=
  ofUnits (numerator < 0) numerator.natAbs denominator

def add : Binary64 → Binary64 → Binary64
  | .nan, _ => .nan
  | _, .nan => .nan
  | .infinite left, .infinite right => if left = right then .infinite left else .nan
  | .infinite left, _ => .infinite left
  | _, .infinite right => .infinite right
  | .finite leftNegative left _, .finite rightNegative right _ =>
      if leftNegative && rightNegative && left == 0 && right == 0 then negativeZero
      else ofSignedUnits (signed leftNegative left + signed rightNegative right) 1

def sub (left right : Binary64) : Binary64 := left.add right.neg

def mul : Binary64 → Binary64 → Binary64
  | .nan, _ => .nan
  | _, .nan => .nan
  | .finite leftNegative left _, .finite rightNegative right _ =>
      ofUnits (leftNegative != rightNegative) (left * right) unitsPerOne
  | left, right =>
      if left.isZero || right.isZero then .nan
      else .infinite (left.isNegative != right.isNegative)

/-- Division by anything but zero. -/
def div : Binary64 → Binary64 → Binary64
  | .nan, _ => .nan
  | _, .nan => .nan
  | .infinite _, .infinite _ => .nan
  | .infinite left, right => .infinite (left != right.isNegative)
  | .finite leftNegative _ _, .infinite right =>
      .finite (leftNegative != right) 0 representable_zero
  | .finite leftNegative left _, .finite rightNegative right _ =>
      ofUnits (leftNegative != rightNegative) (left * unitsPerOne) right

end Binary64

end TableBrowser
