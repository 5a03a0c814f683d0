import TableBrowser.Datum.Display
import TableBrowser.Proofs.Number.Digits
import TableBrowser.Proofs.Number.Rounding
/-!
# How long the text of a number is

The fewest digits that read back are not many, and neither are the zeros that a
layout adds to them. Main statement: `length_numberText_le`.
-/

namespace TableBrowser.Decimal

open Binary64 (Representable)

variable {units : Nat}

/-! ## The fewest digits -/

theorem exponent_of_onGrid? {interval : ReadBack} {exponent : Int} {scaled : Scaled}
    (found : interval.onGrid? exponent = some scaled) : scaled.exponent = exponent := by
  unfold ReadBack.onGrid? at found
  simp only at found
  split_ifs at found <;> cases found <;> rfl

theorem magnitudeExponent_bounds (representable : Representable units) :
    -1000 ≤ magnitudeExponent units ∧ magnitudeExponent units ≤ 1000 := by
  have few : units.log2 < Binary64.magnitudeBits := by
    by_cases zero : units = 0
    · rw [zero]
      decide
    · have below := representable.2
      rw [Binary64.unitsBound_eq] at below
      exact (Nat.log2_lt zero).mpr below
  have isBits : Binary64.magnitudeBits = 2098 := rfl
  unfold magnitudeExponent
  rw [Int.fdiv_eq_ediv_of_nonneg _ (by decide)]
  omega

theorem exponent_shortest (representable : Representable units) :
    -1074 ≤ (shortest units).exponent ∧ (shortest units).exponent ≤ 1000 := by
  have bounds := magnitudeExponent_bounds representable
  unfold shortest
  cases found : (ReadBack.of units).firstOnGrids (magnitudeExponent units) 20 with
  | none => exact ⟨Int.le_refl _, (by decide : (-1074 : Int) ≤ 1000)⟩
  | some scaled =>
      rcases exists_onGrid?_of_firstOnGrids found with ⟨grid, isScaled, low, high⟩
      rw [Option.getD_some, exponent_of_onGrid? isScaled]
      omega

theorem powerOfTen_snd_le {exponent : Int} {places : Nat} (low : -(places : Int) ≤ exponent) :
    (powerOfTen exponent).2 ≤ 10 ^ places := by
  unfold powerOfTen
  split
  · exact Nat.one_le_pow _ _ (by decide)
  · exact Nat.pow_le_pow_right (by decide) (by omega)

theorem digits_lt_of_readsAs {digits places : Nat} {exponent : Int}
    (representable : Representable units) (positive : 0 < units)
    (reads : ReadsAs units digits exponent) (low : -(places : Int) ≤ exponent) :
    digits < 10 ^ (1 + Binary64.magnitudeBits + places) := by
  have high := (bounds_of_contains reads).2.1
  have isLeast := spacing_le representable positive
  have bounded := representable.2
  have unit : 0 < Binary64.unitsPerOne := by
    rw [Binary64.unitsPerOne_eq]
    exact Nat.two_pow_pos _
  have power : 0 < (powerOfTen exponent).1 := by
    unfold powerOfTen
    split
    · exact Nat.pow_pos (by decide)
    · exact Nat.one_pos
  rw [Binary64.unitsBound_eq] at bounded
  generalize Binary64.magnitudeBits = bits at bounded ⊢
  calc digits ≤ digits * (4 * Binary64.unitsPerOne * (powerOfTen exponent).1) :=
        Nat.le_mul_of_pos_right _ (Nat.mul_pos (Nat.mul_pos (by decide) unit) power)
    _ = 4 * (digits * Binary64.unitsPerOne * (powerOfTen exponent).1) := by ring
    _ ≤ (4 * units + 2 * Binary64.spacing units) * (powerOfTen exponent).2 := high
    _ ≤ (10 * units) * 10 ^ places := Nat.mul_le_mul (by omega) (powerOfTen_snd_le low)
    _ < (10 * 10 ^ bits) * 10 ^ places := by
        have few : units < 10 ^ bits :=
          Nat.lt_of_lt_of_le bounded (Nat.pow_le_pow_left (by decide) bits)
        exact Nat.mul_lt_mul_of_pos_right (by omega) (Nat.pow_pos (by decide))
    _ = 10 ^ (1 + bits + places) := by ring

theorem length_digits_shortest (representable : Representable units) (positive : 0 < units) :
    (digits (shortest units).digits).length ≤ 4000 := by
  have low : -((1074 : Nat) : Int) ≤ (shortest units).exponent := (exponent_shortest representable).1
  generalize isPlaces : (1074 : Nat) = places at low
  have few := digits_lt_of_readsAs representable positive (readsAs_shortest representable positive) low
  have short := length_digits_le few (by omega)
  have isBits : Binary64.magnitudeBits = 2098 := rfl
  omega

/-! ## Layouts -/

theorem length_positional_le (written : List Char) (whole : Int) :
    (positional written whole).toList.length ≤ written.length + whole.natAbs + 2 := by
  unfold positional
  split
  · simp only [String.toList_append, String.toList_ofList, List.length_append, List.length_replicate]
    have two : "0.".toList.length = 2 := by decide
    omega
  · split
    · simp only [String.toList_append, String.toList_ofList, List.length_append,
        List.length_replicate]
      have two : ".0".toList.length = 2 := by decide
      omega
    · simp only [String.toList_append, String.toList_ofList, List.length_append, List.length_take,
        List.length_drop]
      have one : ".".toList.length = 1 := by decide
      omega

theorem length_padded_le (width : Nat) {value count : Nat} (small : value < 10 ^ count)
    (positive : 0 < count) : (padded width value).toList.length ≤ width + count := by
  have few := length_digits_le small positive
  rw [toList_padded, List.length_append, List.length_replicate]
  omega

theorem length_exponential_le (layout : NumberLayout) (written : List Char) {exponent : Int}
    {count : Nat} (small : exponent.natAbs < 10 ^ count) (positive : 0 < count) :
    (exponential layout written exponent).toList.length ≤
      written.length + layout.exponentDigits + count + 4 := by
  have power := length_padded_le layout.exponentDigits small positive
  have sign : (if exponent < 0 then "-" else "+").toList.length = 1 := by
    split <;> decide
  have letter : "e".toList.length = 1 := by decide
  unfold exponential
  simp only [String.toList_append, List.length_append, sign, letter]
  split
  · simp only [String.toList_ofList, List.length_cons]
    omega
  · simp only [String.toList_append, List.length_append, String.toList_ofList]
    have fraction : (if layout.mantissaFraction then ".0" else "").toList.length ≤ 2 := by
      split <;> decide
    omega

theorem length_scaledText_le (representable : Representable units) (positive : 0 < units) :
    (scaledText cellNumberLayout (shortest units)).toList.length ≤ 10000 := by
  have few := length_digits_shortest representable positive
  have bounds := exponent_shortest representable
  unfold scaledText
  simp only
  split
  · refine Nat.le_trans (length_positional_le _ _) ?_
    omega
  · have small : ((shortest units).exponent + (digits (shortest units).digits).length - 1).natAbs <
        10 ^ 4 := by omega
    refine Nat.le_trans (length_exponential_le _ _ small (by decide)) ?_
    have two : cellNumberLayout.exponentDigits = 2 := rfl
    omega

/-- The text of a number in a cell is much shorter than a field may be. -/
theorem length_numberText_le (value : Binary64) :
    (numberText cellNumberLayout value).toList.length ≤ 10001 := by
  cases value with
  | nan => decide
  | infinite negative => cases negative <;> decide
  | finite negative units representable =>
      have sign : (if negative then "-" else "").toList.length ≤ 1 := by
        cases negative <;> decide
      have zero : "0.0".toList.length = 3 := by decide
      by_cases isZero : units = 0
      · rw [numberText, if_pos isZero, String.toList_append, List.length_append]
        omega
      · have short := length_scaledText_le representable (Nat.pos_of_ne_zero isZero)
        rw [numberText, if_neg isZero, String.toList_append, List.length_append]
        omega

end TableBrowser.Decimal
