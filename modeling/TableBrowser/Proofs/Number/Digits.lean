import Mathlib.Tactic.Ring
import TableBrowser.Number.Decimal
/-!
# Numerals made of digits

A run of decimal digits, of any script, is a whole number. The digits of a whole number
are read as this number, with zeros before them or without. Main statements: a run of
digits is read unless it has more digits than the limit, and a whole number of not too
many digits is read from its text.
-/

namespace TableBrowser

/-! ## Single digits -/

namespace Decimal

variable {char : Char}

theorem isDigit_iff : isDigit char = true ↔ 48 ≤ char.toNat ∧ char.toNat ≤ 57 := by
  unfold isDigit digitValue?
  split
  · next between => exact iff_of_true rfl between
  · next outside => exact iff_of_false Bool.false_ne_true outside

theorem isDigit_digitChar (value : Nat) : isDigit (digitChar value) = true := by
  have each : ∀ unit < 10, isDigit (Char.ofNat ('0'.toNat + unit)) = true := by decide
  exact each (value % 10) (Nat.mod_lt _ (by decide))

theorem ne_of_isDigit {other : Char} (isDigit : isDigit char = true)
    (outside : other.toNat < 48 ∨ 57 < other.toNat) : char ≠ other := by
  rintro rfl
  have between := isDigit_iff.mp isDigit
  omega

end Decimal

namespace Numeral

open Decimal (isDigit isDigit_iff ne_of_isDigit)

theorem isDigit_plain {char : Char} (decimal : Text.isDecimalDigit char = true) :
    isDigit (plain char) = true := by
  rcases Option.isSome_iff_exists.mp decimal with ⟨value, isValue⟩
  unfold plain
  split
  · next ascii =>
    rcases Option.map_eq_some_iff.mp isValue with ⟨start, isStart, _⟩
    have between := List.find?_some isStart
    rw [Bool.and_eq_true, decide_eq_true_eq, decide_eq_true_eq] at between
    -- The other scripts have their digits beyond the plain characters.
    have only : ∀ start ∈ Text.decimalZeros, start < 0x80 → start = 48 := by decide
    have isPlain := only start (List.mem_of_find?_eq_some isStart) (by omega)
    exact isDigit_iff.mpr (by omega)
  · rw [isValue]
    exact Decimal.isDigit_digitChar value

/-! ## Characters that are read as they are -/

/-- A plain character that is no blank, and no mark between groups of digits. -/
def IsClear (char : Char) : Prop := 0x20 < char.toNat ∧ char.toNat < 0x80 ∧ char ≠ '_'

instance : DecidablePred IsClear := fun _ => inferInstanceAs (Decidable (_ ∧ _ ∧ _))

theorem isClear_of_all {chars : List Char}
    (all : chars.all (fun char => decide (IsClear char)) = true) : ∀ char ∈ chars, IsClear char :=
  fun char member => of_decide_eq_true (List.all_eq_true.mp all char member)

theorem isClear_of_isDigit {char : Char} (digit : isDigit char = true) : IsClear char := by
  have between := Decimal.isDigit_iff.mp digit
  exact ⟨by omega, by omega, Decimal.ne_of_isDigit digit (.inr (by decide))⟩

theorem isSpace_of_isClear {char : Char} (clear : IsClear char) : isSpace char = false := by
  rcases clear with ⟨above, _, _⟩
  have notBlank : char ≠ ' ' := by
    rintro rfl
    exact absurd above (by decide)
  simp [isSpace, notBlank]
  omega

variable {chars : List Char} (clear : ∀ char ∈ chars, IsClear char)

include clear

theorem joinGroups_of_clear (afterDigit : Bool) : joinGroups afterDigit chars = some chars := by
  induction chars generalizing afterDigit with
  | nil => rfl
  | cons char chars induction =>
      have notMark := (clear char List.mem_cons_self).2.2
      have others := induction fun other member => clear other (List.mem_cons_of_mem char member)
      unfold joinGroups
      split
      · next empty => cases empty
      · next isMark => exact absurd (List.cons.inj isMark).1 notMark
      · next same =>
        cases same
        rw [others]
        rfl

theorem dropWhile_isSpace_of_clear : chars.dropWhile isSpace = chars := by
  cases chars with
  | nil => rfl
  | cons char chars =>
      have first := isSpace_of_isClear (clear char List.mem_cons_self)
      rw [List.dropWhile_cons_of_neg (by rw [first]; exact Bool.false_ne_true)]

omit clear

theorem normalize?_of_clear {text : String} (clear : ∀ char ∈ text.toList.map plain, IsClear char) :
    normalize? text = some (text.toList.map plain) := by
  have fromBehind : ∀ char ∈ (text.toList.map plain).reverse, IsClear char :=
    fun char member => clear char (List.mem_reverse.mp member)
  rw [normalize?, dropWhile_isSpace_of_clear clear, dropWhile_isSpace_of_clear fromBehind,
    List.reverse_reverse, joinGroups_of_clear clear]

/-! ## Runs of digits -/

theorem isDigit_of_mem_plain {chars : List Char}
    (decimal : ∀ char ∈ chars, Text.isDecimalDigit char = true) :
    ∀ char ∈ chars.map plain, isDigit char = true := by
  intro char member
  rcases List.mem_map.mp member with ⟨given, givenMember, rfl⟩
  exact isDigit_plain (decimal given givenMember)

theorem splitSign_of_head {chars : List Char} (digit : ∃ first ∈ chars.head?, isDigit first = true) :
    splitSign chars = (false, chars) := by
  rcases digit with ⟨first, isFirst, digit⟩
  unfold splitSign
  split
  · cases isFirst
    exact absurd digit (by decide)
  · cases isFirst
    exact absurd digit (by decide)
  · rfl

theorem exists_valueFrom {digits : List Char} (areDigits : ∀ char ∈ digits, isDigit char = true)
    (value : Nat) : ∃ whole, Decimal.valueFrom value digits = some whole := by
  induction digits generalizing value with
  | nil => exact ⟨value, rfl⟩
  | cons char digits induction =>
      rcases Option.isSome_iff_exists.mp (areDigits char List.mem_cons_self) with ⟨unit, isUnit⟩
      rw [Decimal.valueFrom, isUnit]
      exact induction (fun other member => areDigits other (List.mem_cons_of_mem char member)) _

/-- A run of decimal digits that is not too long is a whole number. -/
theorem exists_int?_of_digits {text : String}
    (decimal : ∀ char ∈ text.toList, Text.isDecimalDigit char = true) (notEmpty : text.toList ≠ [])
    (short : text.toList.length ≤ digitLimit) : ∃ value, int? text = some value := by
  have areDigits := isDigit_of_mem_plain decimal
  have normalized : normalize? text = some (text.toList.map plain) :=
    normalize?_of_clear fun char member => isClear_of_isDigit (areDigits char member)
  have signless : splitSign (text.toList.map plain) = (false, text.toList.map plain) := by
    refine splitSign_of_head ?_
    rcases List.exists_cons_of_ne_nil notEmpty with ⟨first, rest, isText⟩
    exact ⟨plain first, by rw [isText]; rfl, areDigits _ (by simp [isText])⟩
  rcases exists_valueFrom areDigits 0 with ⟨whole, isWhole⟩
  have isValue : Decimal.value? (text.toList.map plain) = some whole := by
    unfold Decimal.value?
    split
    · next empty => exact absurd (List.map_eq_nil_iff.mp empty) notEmpty
    · exact isWhole
  refine ⟨whole, ?_⟩
  simp [int?, normalized, signless, isValue, Nat.not_lt.mpr short]

end Numeral

/-! ## Digits -/

namespace Decimal

theorem digitValue?_digitChar (value : Nat) : digitValue? (digitChar value) = some (value % 10) := by
  have each : ∀ unit < 10, digitValue? (Char.ofNat ('0'.toNat + unit)) = some unit := by decide
  exact each (value % 10) (Nat.mod_lt _ (by decide))

theorem isDigit_of_mem_digits {value : Nat} {char : Char} (member : char ∈ digits value) :
    isDigit char = true := by
  induction value using digits.induct with
  | case1 value small =>
      rw [digits, if_pos small, List.mem_singleton] at member
      rw [member]
      exact isDigit_digitChar value
  | case2 value large induction =>
      rw [digits, if_neg large, List.mem_append, List.mem_singleton] at member
      rcases member with earlier | rfl
      · exact induction earlier
      · exact isDigit_digitChar value

theorem digits_ne_nil (value : Nat) : digits value ≠ [] := by
  rw [digits]
  split <;> simp

theorem head?_digits_ne_zero {value : Nat} (positive : 0 < value) :
    (digits value).head? ≠ some '0' := by
  induction value using digits.induct with
  | case1 value small =>
      rw [digits, if_pos small]
      intro isZero
      have isUnit := digitValue?_digitChar value
      rw [Option.some.inj isZero] at isUnit
      have zero : 0 = value % 10 := Option.some.inj isUnit
      omega
  | case2 value large induction =>
      have isFirst := List.head?_eq_some_head (digits_ne_nil (value / 10))
      rw [digits, if_neg large, List.head?_append, isFirst, Option.some_or, ← isFirst]
      exact induction (by omega)

theorem valueFrom_append (start : Nat) (left right : List Char) :
    valueFrom start (left ++ right) = (valueFrom start left).bind (valueFrom · right) := by
  induction left generalizing start with
  | nil => rfl
  | cons char chars induction =>
      rw [List.cons_append, valueFrom, valueFrom]
      cases digitValue? char with
      | none => rfl
      | some unit => exact induction _

theorem valueFrom_digits (start value : Nat) :
    valueFrom start (digits value) = some (start * 10 ^ (digits value).length + value) := by
  induction value using digits.induct generalizing start with
  | case1 value small =>
      rw [digits, if_pos small, valueFrom, digitValue?_digitChar, Nat.mod_eq_of_lt small]
      exact congrArg some (by rw [List.length_singleton]; omega)
  | case2 value large induction =>
      rw [digits, if_neg large, valueFrom_append, induction, Option.bind_some, valueFrom,
        digitValue?_digitChar, List.length_append, List.length_singleton, Nat.pow_succ]
      refine congrArg some ?_
      have parts := Nat.div_add_mod value 10
      rw [← Nat.mul_assoc]
      omega

theorem valueFrom_zeros (start count : Nat) :
    valueFrom start (List.replicate count '0') = some (start * 10 ^ count) := by
  induction count generalizing start with
  | zero => exact congrArg some (Nat.mul_one start).symm
  | succ count induction =>
      rw [List.replicate_succ, valueFrom]
      change valueFrom (10 * start + 0) _ = _
      rw [induction, Nat.pow_succ]
      exact congrArg some (by ring)

theorem length_digits_le {value count : Nat} (small : value < 10 ^ count) (positive : 0 < count) :
    (digits value).length ≤ count := by
  induction value using digits.induct generalizing count with
  | case1 value few =>
      rw [digits, if_pos few]
      exact positive
  | case2 value large induction =>
      rw [digits, if_neg large, List.length_append, List.length_singleton]
      cases count with
      | zero => omega
      | succ count =>
          rw [Nat.pow_succ] at small
          cases count with
          | zero => omega
          | succ count =>
              have fewer : (digits (value / 10)).length ≤ count + 1 :=
                induction (by omega) (by omega)
              omega

theorem value?_of_ne_nil {chars : List Char} (notEmpty : chars ≠ []) :
    value? chars = valueFrom 0 chars := by
  unfold value?
  split
  · exact absurd rfl notEmpty
  · rfl

theorem value?_digits (value : Nat) : value? (digits value) = some value := by
  rw [value?_of_ne_nil (digits_ne_nil value), valueFrom_digits, Nat.zero_mul, Nat.zero_add]

theorem valueFrom_lt {chars : List Char} {start value : Nat}
    (isValue : valueFrom start chars = some value) :
    value < (start + 1) * 10 ^ chars.length := by
  induction chars generalizing start with
  | nil =>
      cases isValue
      simp
  | cons char chars induction =>
      rcases Option.bind_eq_some_iff.mp isValue with ⟨unit, isUnit, later⟩
      have few : unit ≤ 9 := by
        unfold digitValue? at isUnit
        split at isUnit
        · next between =>
          cases isUnit
          have high : char.toNat ≤ '9'.toNat := between.2
          change char.toNat - 48 ≤ 9
          change char.toNat ≤ 57 at high
          omega
        · cases isUnit
      calc value < (10 * start + unit + 1) * 10 ^ chars.length := induction later
        _ ≤ ((start + 1) * 10) * 10 ^ chars.length := Nat.mul_le_mul_right _ (by omega)
        _ = (start + 1) * 10 ^ (char :: chars).length := by
            rw [List.length_cons, Nat.pow_succ]
            ring

theorem length_digits_of_value? {chars : List Char} {value count : Nat}
    (isValue : value? chars = some value) (short : chars.length ≤ count) (positive : 0 < count) :
    (digits value).length ≤ count := by
  have few : value < (0 + 1) * 10 ^ chars.length := by
    cases chars with
    | nil => cases isValue
    | cons char rest => exact valueFrom_lt isValue
  rw [Nat.zero_add, Nat.one_mul] at few
  exact length_digits_le (Nat.lt_of_lt_of_le few (Nat.pow_le_pow_right (by decide) short)) positive

/-- Zeros before and after digits. -/
theorem value?_zeros_digits_zeros (before value after : Nat) :
    value? (List.replicate before '0' ++ digits value ++ List.replicate after '0') =
      some (value * 10 ^ after) := by
  have notEmpty : List.replicate before '0' ++ digits value ++ List.replicate after '0' ≠ [] :=
    fun none => digits_ne_nil value
      (List.append_eq_nil_iff.mp (List.append_eq_nil_iff.mp none).1).2
  rw [value?_of_ne_nil notEmpty, valueFrom_append, valueFrom_append, valueFrom_zeros,
    Option.bind_some, valueFrom_digits, Option.bind_some, valueFrom_zeros]
  simp

theorem toList_padded (width value : Nat) : (padded width value).toList =
    List.replicate (width - (digits value).length) '0' ++ digits value := by
  rw [padded, String.toList_ofList]

theorem padded_ne_nil (width value : Nat) : (padded width value).toList ≠ [] := by
  rw [toList_padded]
  exact fun none => digits_ne_nil value (List.append_eq_nil_iff.mp none).2

theorem isDigit_of_mem_padded {width value : Nat} {char : Char}
    (member : char ∈ (padded width value).toList) : isDigit char = true := by
  rw [toList_padded] at member
  rcases List.mem_append.mp member with isZero | isLater
  · rw [List.eq_of_mem_replicate isZero]
    rfl
  · exact isDigit_of_mem_digits isLater

theorem value?_padded (width value : Nat) : value? (padded width value).toList = some value := by
  have padded := value?_zeros_digits_zeros (width - (digits value).length) value 0
  rw [toList_padded]
  simpa using padded

theorem length_padded {width value : Nat} (small : value < 10 ^ width) (positive : 0 < width) :
    (padded width value).toList.length = width := by
  have few := length_digits_le small positive
  rw [toList_padded, List.length_append, List.length_replicate]
  omega

end Decimal

/-! ## Whole numbers -/

namespace Numeral

open Decimal (isDigit)

theorem normalize?_ofList {chars : List Char} (clear : ∀ char ∈ chars, IsClear char) :
    normalize? (String.ofList chars) = some chars := by
  have stays : chars.map plain = chars.map id :=
    List.map_congr_left fun char member => if_pos (clear char member).2.1
  have isMapped : (String.ofList chars).toList.map plain = chars := by
    rw [String.toList_ofList, stays, List.map_id]
  have stillClear : ∀ char ∈ (String.ofList chars).toList.map plain, IsClear char := by
    rw [isMapped]
    exact clear
  rw [normalize?_of_clear stillClear, isMapped]

theorem head?_digits (value : Nat) : ∃ first ∈ (Decimal.digits value).head?, isDigit first = true := by
  cases written : Decimal.digits value with
  | nil => exact absurd written (Decimal.digits_ne_nil value)
  | cons first rest =>
      have member : first ∈ Decimal.digits value := by simp [written]
      exact ⟨first, rfl, Decimal.isDigit_of_mem_digits member⟩

theorem toList_intText (value : Int) : (Decimal.intText value).toList =
    (if value < 0 then ['-'] else []) ++ Decimal.digits value.natAbs := by
  rw [Decimal.intText]
  split
  · rw [String.toList_append, Decimal.natText]
    exact congrArg ('-' :: ·) String.toList_ofList
  · exact String.toList_ofList

theorem isClear_of_mem_intText {value : Int} {char : Char}
    (member : char ∈ (Decimal.intText value).toList) : IsClear char := by
  rw [toList_intText] at member
  rcases List.mem_append.mp member with isSign | isLater
  · split at isSign
    · rw [List.mem_singleton.mp isSign]
      decide
    · cases isSign
  · exact isClear_of_isDigit (Decimal.isDigit_of_mem_digits isLater)

theorem int?_intText {value : Int}
    (short : (Decimal.digits value.natAbs).length ≤ digitLimit) :
    int? (Decimal.intText value) = some value := by
  have normal : normalize? (Decimal.intText value) = some (Decimal.intText value).toList := by
    have clear := @normalize?_ofList (Decimal.intText value).toList
      fun char => isClear_of_mem_intText
    rwa [String.ofList_toList] at clear
  rw [int?, normal, toList_intText]
  by_cases negative : value < 0
  · rw [if_pos negative]
    change ((Decimal.value? (Decimal.digits value.natAbs)) >>= _) = _
    rw [Decimal.value?_digits]
    change (if digitLimit < (Decimal.digits value.natAbs).length then none
      else some (-(value.natAbs : Int))) = _
    rw [if_neg (by omega)]
    exact congrArg some (by omega)
  · rw [if_neg negative, List.nil_append, Option.bind_eq_bind, Option.bind_some,
      splitSign_of_head (head?_digits _)]
    change ((Decimal.value? (Decimal.digits value.natAbs)) >>= _) = _
    rw [Decimal.value?_digits]
    change (if digitLimit < (Decimal.digits value.natAbs).length then none
      else some (value.natAbs : Int)) = _
    rw [if_neg (by omega)]
    exact congrArg some (by omega)

end Numeral

end TableBrowser
