import Mathlib.Tactic.IntervalCases
import TableBrowser.Number.Decimal
import TableBrowser.Proofs.Text.Nesting
/-!
# Numbers in nested text

What a number is written with opens and closes nothing, so that a reader of text
passes it as one part.
-/

namespace TableBrowser.Nesting

/-- Text without quotes, brackets and commas. -/
def Unmarked (text : String) : Prop := ∀ char ∈ text.toList, IsOrdinary char

instance (text : String) : Decidable (Unmarked text) := List.decidableBAll IsOrdinary text.toList

theorem Unmarked.whole {text : String} (unmarked : Unmarked text) : Whole text.toList :=
  whole_of_ordinary unmarked

theorem Unmarked.append {left right : String} (leftUnmarked : Unmarked left)
    (rightUnmarked : Unmarked right) : Unmarked (left ++ right) := by
  intro char member
  rw [String.toList_append, List.mem_append] at member
  rcases member with inLeft | inRight
  · exact leftUnmarked char inLeft
  · exact rightUnmarked char inRight

theorem unmarked_ofList {chars : List Char} (ordinary : ∀ char ∈ chars, IsOrdinary char) :
    Unmarked (String.ofList chars) := by
  intro char member
  rw [String.toList_ofList] at member
  exact ordinary char member

theorem ordinary_digitChar (value : Nat) : IsOrdinary (Decimal.digitChar value) := by
  have small : value % 10 < 10 := Nat.mod_lt _ (by decide)
  unfold Decimal.digitChar
  generalize value % 10 = digit at small
  interval_cases digit <;> decide

theorem ordinary_digits (value : Nat) : ∀ char ∈ Decimal.digits value, IsOrdinary char := by
  fun_induction Decimal.digits value with
  | case1 value small =>
      intro char member
      rw [List.mem_singleton.mp member]
      exact ordinary_digitChar value
  | case2 value large induction =>
      intro char member
      rcases List.mem_append.mp member with earlier | last
      · exact induction char earlier
      · rw [List.mem_singleton.mp last]
        exact ordinary_digitChar value

theorem ordinary_zeros (count : Nat) : ∀ char ∈ List.replicate count '0', IsOrdinary char := by
  intro char member
  rw [List.eq_of_mem_replicate member]
  decide

theorem unmarked_natText (value : Nat) : Unmarked (Decimal.natText value) :=
  unmarked_ofList (ordinary_digits value)

theorem unmarked_intText (value : Int) : Unmarked (Decimal.intText value) := by
  unfold Decimal.intText
  split
  · exact Unmarked.append (by decide) (unmarked_natText _)
  · exact unmarked_natText _

theorem unmarked_padded (width value : Nat) : Unmarked (Decimal.padded width value) := by
  apply unmarked_ofList
  intro char member
  rcases List.mem_append.mp member with zero | digit
  · exact ordinary_zeros _ char zero
  · exact ordinary_digits value char digit

theorem unmarked_positional {written : List Char} (ordinary : ∀ char ∈ written, IsOrdinary char)
    (whole : Int) : Unmarked (Decimal.positional written whole) := by
  unfold Decimal.positional
  split
  · apply Unmarked.append (by decide)
    apply unmarked_ofList
    intro char member
    rcases List.mem_append.mp member with zero | digit
    · exact ordinary_zeros _ char zero
    · exact ordinary char digit
  split
  · refine Unmarked.append (unmarked_ofList ?_) (by decide)
    intro char member
    rcases List.mem_append.mp member with digit | zero
    · exact ordinary char digit
    · exact ordinary_zeros _ char zero
  · refine Unmarked.append (Unmarked.append (unmarked_ofList ?_) (by decide)) (unmarked_ofList ?_)
    · exact fun char member => ordinary char (List.mem_of_mem_take member)
    · exact fun char member => ordinary char (List.mem_of_mem_drop member)

/-- The digits of a number in exponential form, with a point after the first one. -/
theorem unmarked_mantissa {fraction : String} (fractionUnmarked : Unmarked fraction)
    (written : List Char) : (∀ char ∈ written, IsOrdinary char) →
      Unmarked (match written with
        | first :: second :: rest => String.ofList (first :: '.' :: second :: rest)
        | short => String.ofList short ++ fraction) := by
  intro ordinary
  rcases written with _ | ⟨first, _ | ⟨second, rest⟩⟩
  · exact (unmarked_ofList ordinary).append fractionUnmarked
  · exact (unmarked_ofList ordinary).append fractionUnmarked
  · apply unmarked_ofList
    intro char member
    rcases List.mem_cons.mp member with isFirst | later
    · exact isFirst ▸ ordinary first (by simp)
    rcases List.mem_cons.mp later with isPoint | digit
    · rw [isPoint]
      decide
    · exact ordinary char (List.mem_cons_of_mem _ digit)

theorem unmarked_exponential {written : List Char} (ordinary : ∀ char ∈ written, IsOrdinary char)
    (layout : Decimal.NumberLayout) (exponent : Int) :
    Unmarked (Decimal.exponential layout written exponent) := by
  have fraction : Unmarked (if layout.mantissaFraction then ".0" else "") := by
    cases layout.mantissaFraction <;> decide
  have sign : Unmarked (if exponent < 0 then "-" else "+") := by
    split <;> decide
  have mantissa := unmarked_mantissa fraction written ordinary
  have mark : Unmarked "e" := by decide
  exact ((mantissa.append mark).append sign).append (unmarked_padded _ _)

theorem unmarked_numberText {layout : Decimal.NumberLayout} (wordUnmarked : Unmarked layout.notANumber)
    (infinityUnmarked : Unmarked layout.infinity) (value : Binary64) :
    Unmarked (Decimal.numberText layout value) := by
  have sign (negative : Bool) : Unmarked (if negative then "-" else "") := by
    cases negative <;> decide
  cases value with
  | nan => exact wordUnmarked
  | infinite negative => exact (sign negative).append infinityUnmarked
  | finite negative units representable =>
      unfold Decimal.numberText
      simp only
      split
      · exact (sign negative).append (by decide)
      · refine (sign negative).append ?_
        unfold Decimal.scaledText
        simp only
        split
        · exact unmarked_positional (ordinary_digits _) _
        · exact unmarked_exponential (ordinary_digits _) _ _

theorem Unmarked.null_notMem {text : String} (unmarked : Unmarked text) :
    '\x00' ∉ text.toList := by
  intro member
  exact unmarked _ member (by decide)

end TableBrowser.Nesting
