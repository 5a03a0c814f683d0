import TableBrowser.Json.Reading
import TableBrowser.Json.Writing
import TableBrowser.Proofs.Number.NumberText
/-!
# Numbers in JSON

A number is read from its text up to what cannot continue it. Main statements:
`number?_intText` and `number?_numberText`.
-/

namespace TableBrowser.Json

open Decimal (isDigit)
open Numeral (IsExponent Spells)

/-- No number goes on with the characters. -/
def Stops (rest : List Char) : Prop :=
  ∀ char ∈ rest.head?, isDigit char = false ∧ char ≠ '.' ∧ char ≠ 'e' ∧ char ≠ 'E'

variable {whole fraction powerChars rest : List Char} {power : Int}

/-! ## Parts of numbers -/

theorem wholeDigits_append (notEmpty : whole ≠ []) (areDigits : ∀ char ∈ whole, isDigit char = true)
    (leading : whole = ['0'] ∨ whole.head? ≠ some '0')
    (ends : ∀ char ∈ rest.head?, isDigit char = false) : wholeDigits (whole ++ rest) = whole := by
  rcases leading with rfl | notZero
  · rfl
  · rcases List.exists_cons_of_ne_nil notEmpty with ⟨first, others, rfl⟩
    have isFirst : first ≠ '0' := fun isZero => notZero (congrArg some isZero)
    rw [List.cons_append, wholeDigits, ← List.cons_append,
      Numeral.takeWhile_isDigit areDigits ends]
    exact fun _ isZero => absurd (List.cons.inj isZero).1 isFirst

theorem fractionDigits_of_stops (stops : Stops rest) : fractionDigits rest = [] := by
  cases rest with
  | nil => rfl
  | cons char rest =>
      have notPoint := (stops char rfl).2.1
      rw [fractionDigits]
      exact fun _ isPoint => notPoint (List.cons.inj isPoint).1

theorem exponentChars_of_stops (stops : Stops rest) : exponentChars rest = [] := by
  cases rest with
  | nil => rfl
  | cons char rest =>
      have notLetter := (stops char rfl).2.2
      exact if_neg (not_or.mpr notLetter)

theorem exponentChars_append (isPower : IsExponent powerChars power) (stops : Stops rest) :
    exponentChars (powerChars ++ rest) = powerChars := by
  rcases isPower with ⟨rfl, _⟩ | ⟨sign, digits, rfl, isSign, notEmpty, areDigits, _⟩
  · exact exponentChars_of_stops stops
  · have taken := Numeral.takeWhile_isDigit areDigits fun char member => (stops char member).1
    have signOnly : ((sign :: (digits ++ rest)).takeWhile fun char =>
        char = '+' || char = '-').take 1 = [sign] := by
      rcases isSign with rfl | rfl <;> rfl
    rw [List.cons_append, List.cons_append]
    rw [exponentChars, if_pos (.inl rfl)]
    simp only [signOnly, List.length_singleton, List.drop_succ_cons, List.drop_zero, taken]
    rw [if_neg (by simpa using notEmpty)]
    rfl

theorem exponent?_powerChars (isPower : IsExponent powerChars power) :
    (Numeral.exponent? (powerChars.drop 1)).getD 0 = power := by
  rcases isPower with ⟨rfl, rfl⟩ | ⟨sign, digits, rfl, _, _, _, isPower⟩
  · rfl
  · rw [List.drop_succ_cons, List.drop_zero, isPower]
    rfl

theorem stops_powerChars (isPower : IsExponent powerChars power) (stops : Stops rest) :
    ∀ char ∈ (powerChars ++ rest).head?, isDigit char = false ∧ char ≠ '.' := by
  rcases isPower with ⟨rfl, _⟩ | ⟨sign, digits, rfl, _⟩
  · exact fun char member => ⟨(stops char member).1, (stops char member).2.1⟩
  · intro char member
    cases member
    exact ⟨rfl, by simp⟩

/-! ## Numbers -/

/-- A number by its sign, its parts and what follows each of them. -/
theorem number?_of_parts {unsigned afterWhole afterFraction : List Char} (negative : Bool)
    (digit : ∃ first ∈ unsigned.head?, isDigit first = true)
    (isWhole : wholeDigits unsigned = whole) (notEmpty : whole ≠ [])
    (isAfterWhole : unsigned.drop whole.length = afterWhole)
    (isFraction : fractionDigits afterWhole = fraction)
    (isAfterFraction :
      (if fraction = [] then afterWhole else afterWhole.drop (fraction.length + 1)) = afterFraction)
    (isPower : exponentChars afterFraction = powerChars)
    (isRest : afterFraction.drop powerChars.length = rest) :
    number? ((if negative then ['-'] else []) ++ unsigned) =
      if fraction = [] ∧ powerChars = [] then
        if Numeral.digitLimit < whole.length then some (.error (.longInteger whole.length))
        else
          let value : Int := ((Decimal.value? whole).getD 0 : Nat)
          some (.ok (.integer (if negative then -value else value), rest))
      else
        some (.ok (.number (Binary64.ofDecimal negative ((Decimal.value? (whole ++ fraction)).getD 0)
          ((Numeral.exponent? (powerChars.drop 1)).getD 0 - fraction.length)), rest)) := by
  rcases digit with ⟨first, isFirst, digit⟩
  have notMinus : first ≠ '-' := Decimal.ne_of_isDigit digit (.inl (by decide))
  rcases List.head?_eq_some_iff.mp isFirst with ⟨others, rfl⟩
  cases negative with
  | true => simp [number?, isWhole, notEmpty, isAfterWhole, isFraction, isAfterFraction, isPower, isRest]
  | false =>
      simp [number?, notMinus, isWhole, notEmpty, isAfterWhole, isFraction, isAfterFraction, isPower,
        isRest]

theorem head?_whole (notEmpty : whole ≠ []) (areDigits : ∀ char ∈ whole, isDigit char = true)
    (later : List Char) : ∃ first ∈ (whole ++ later).head?, isDigit first = true := by
  rcases List.exists_cons_of_ne_nil notEmpty with ⟨first, others, rfl⟩
  exact ⟨first, rfl, areDigits first List.mem_cons_self⟩

theorem number?_spelled {chars : List Char} {digits : Nat} {exponent : Int}
    (spells : Spells chars digits exponent) (negative : Bool) (stops : Stops rest) :
    number? ((if negative then ['-'] else []) ++ (chars ++ rest)) =
      some (.ok (.number (Binary64.ofDecimal negative (digits * 10 ^ spells.places)
        (exponent - spells.places)), rest)) := by
  have ends := stops_powerChars spells.isPower stops
  have isPower := exponentChars_append spells.isPower stops
  have starts := head?_whole spells.notEmpty spells.wholeDigits
  rw [← spells.scale]
  rcases spells.form with ⟨hasPoint, hasFraction⟩ | ⟨noPoint, noFraction, hasPower⟩
  · have isText : chars ++ rest =
        spells.whole ++ '.' :: (spells.fraction ++ (spells.powerChars ++ rest)) := by
      simp [hasPoint]
    have isWhole : wholeDigits (chars ++ rest) = spells.whole := by
      rw [isText]
      refine wholeDigits_append spells.notEmpty spells.wholeDigits spells.leading ?_
      intro char member
      cases member
      rfl
    have isAfterWhole : (chars ++ rest).drop spells.whole.length =
        '.' :: (spells.fraction ++ (spells.powerChars ++ rest)) := by
      rw [isText, List.drop_left]
    have isFraction := Numeral.takeWhile_isDigit spells.fractionDigits fun char member =>
      (ends char member).1
    have isAfterFraction : ('.' :: (spells.fraction ++ (spells.powerChars ++ rest))).drop
        (spells.fraction.length + 1) = spells.powerChars ++ rest := by
      rw [List.drop_succ_cons, List.drop_left]
    rw [number?_of_parts negative (isText ▸ starts _) isWhole spells.notEmpty isAfterWhole isFraction
      ((if_neg hasFraction).trans isAfterFraction) isPower List.drop_left,
      if_neg fun none => hasFraction none.1, spells.value, exponent?_powerChars spells.isPower]
    rfl
  · have isText : chars ++ rest = spells.whole ++ (spells.powerChars ++ rest) := by
      rw [← List.append_assoc]
      exact congrArg (· ++ rest) noPoint
    have isWhole : wholeDigits (chars ++ rest) = spells.whole := by
      rw [isText]
      exact wholeDigits_append spells.notEmpty spells.wholeDigits spells.leading fun char member =>
        (ends char member).1
    have isAfterWhole : (chars ++ rest).drop spells.whole.length = spells.powerChars ++ rest := by
      rw [isText, List.drop_left]
    have isFraction : fractionDigits (spells.powerChars ++ rest) = [] := by
      unfold fractionDigits
      split
      · next _ isPoint => exact absurd rfl (ends '.' (by rw [isPoint]; rfl)).2
      · rfl
    rw [number?_of_parts negative (isText ▸ starts _) isWhole spells.notEmpty isAfterWhole isFraction
      (if_pos rfl) isPower List.drop_left, if_neg fun none => hasPower none.2,
      exponent?_powerChars spells.isPower]
    have isValue := spells.value
    rw [noFraction] at isValue ⊢
    rw [isValue]
    rfl

/-- A whole number that is short enough is read from its text. -/
theorem number?_intText {value : Int}
    (short : (Decimal.digits value.natAbs).length ≤ Numeral.digitLimit) (stops : Stops rest) :
    number? ((Decimal.intText value).toList ++ rest) = some (.ok (.integer value, rest)) := by
  have areDigits (char : Char) (member : char ∈ Decimal.digits value.natAbs) : isDigit char = true :=
    Decimal.isDigit_of_mem_digits member
  have notEmpty := Decimal.digits_ne_nil value.natAbs
  have leading : Decimal.digits value.natAbs = ['0'] ∨
      (Decimal.digits value.natAbs).head? ≠ some '0' := by
    by_cases zero : value.natAbs = 0
    · rw [zero]
      exact .inl (by simp [Decimal.digits, Decimal.digitChar])
    · exact .inr (Decimal.head?_digits_ne_zero (Nat.pos_of_ne_zero zero))
  have sign : (if value < 0 then ['-'] else []) = if decide (value < 0) then ['-'] else [] := by
    simp
  have isWhole := wholeDigits_append notEmpty areDigits leading fun char member =>
    (stops char member).1
  rw [Numeral.toList_intText, sign, List.append_assoc, number?_of_parts _
    (head?_whole notEmpty areDigits rest) isWhole notEmpty List.drop_left
    (fractionDigits_of_stops stops) (if_pos rfl) (exponentChars_of_stops stops) (List.drop_zero),
    if_pos ⟨rfl, rfl⟩, if_neg (Nat.not_lt.mpr short), Decimal.value?_digits]
  simp only [Option.getD_some, decide_eq_true_eq]
  congr 4
  omega

/-- A finite number is read from its text. -/
theorem number?_numberText {layout : Decimal.NumberLayout} {negative : Bool} {units : Nat}
    (representable : Binary64.Representable units) (stops : Stops rest) :
    number? ((Decimal.numberText layout (.finite negative units representable)).toList ++ rest) =
      some (.ok (.number (.finite negative units representable), rest)) := by
  rcases Numeral.exists_spells layout negative representable with
    ⟨chars, digits, exponent, isText, ⟨spells⟩, isRead⟩
  rw [isText, List.append_assoc, number?_spelled spells negative stops]
  rw [spells.decimal?] at isRead
  rw [Option.some.inj isRead]

end TableBrowser.Json
