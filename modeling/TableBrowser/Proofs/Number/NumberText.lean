import TableBrowser.Datum.Display
import TableBrowser.Proofs.Number.Digits
import TableBrowser.Proofs.Number.Rounding
/-!
# Text of numbers that is read again

Digits with a point or an exponent are read as the decimal that they write.
Main statement: every number of the 64-bit format is read from its text.
-/

namespace TableBrowser.Numeral

open Decimal (isDigit)

/-! ## Decimals -/

theorem takeWhile_isDigit {digits rest : List Char} (areDigits : ∀ char ∈ digits, isDigit char = true)
    (ends : ∀ char ∈ rest.head?, isDigit char = false) :
    (digits ++ rest).takeWhile isDigit = digits := by
  rw [List.takeWhile_append_of_pos areDigits]
  cases rest with
  | nil => rw [List.takeWhile_nil, List.append_nil]
  | cons char rest =>
      rw [List.takeWhile_cons_of_neg (by simp [ends char rfl]), List.append_nil]

theorem dropWhile_isDigit {digits rest : List Char} (areDigits : ∀ char ∈ digits, isDigit char = true)
    (ends : ∀ char ∈ rest.head?, isDigit char = false) :
    (digits ++ rest).dropWhile isDigit = rest := by
  rw [List.dropWhile_append_of_pos areDigits]
  cases rest with
  | nil => rfl
  | cons char rest => rw [List.dropWhile_cons_of_neg (by simp [ends char rfl])]

/-- The characters are the letter of an exponent with its sign and digits, or nothing. -/
def IsExponent (chars : List Char) (exponent : Int) : Prop :=
  chars = [] ∧ exponent = 0 ∨ ∃ sign digits, chars = 'e' :: sign :: digits ∧
    (sign = '-' ∨ sign = '+') ∧ digits ≠ [] ∧ (∀ char ∈ digits, isDigit char = true) ∧
    exponent? (sign :: digits) = some exponent

theorem IsExponent.head?_ne_digit {chars : List Char} {exponent : Int}
    (isExponent : IsExponent chars exponent) : ∀ char ∈ chars.head?, isDigit char = false := by
  rcases isExponent with ⟨rfl, _⟩ | ⟨sign, digits, rfl, _⟩
  · nofun
  · intro char member
    cases member
    rfl

theorem IsExponent.isClear {chars : List Char} {exponent : Int}
    (isExponent : IsExponent chars exponent) : ∀ char ∈ chars, IsClear char := by
  rcases isExponent with ⟨rfl, _⟩ | ⟨sign, digits, rfl, isSign, _, areDigits, _⟩
  · nofun
  · intro char member
    rcases List.mem_cons.mp member with rfl | member
    · decide
    · rcases List.mem_cons.mp member with rfl | member
      · rcases isSign with rfl | rfl <;> decide
      · exact isClear_of_isDigit (areDigits char member)

/-- Digits, a point with more digits, and an exponent. -/
theorem decimal?_point {whole fraction powerChars : List Char} {value : Nat} {exponent : Int}
    (negative : Bool) (wholeDigits : ∀ char ∈ whole, isDigit char = true)
    (fractionDigits : ∀ char ∈ fraction, isDigit char = true)
    (isExponent : IsExponent powerChars exponent)
    (isValue : Decimal.value? (whole ++ fraction) = some value) :
    decimal? negative (whole ++ '.' :: (fraction ++ powerChars)) =
      some (Binary64.ofDecimal negative value (exponent - fraction.length)) := by
  have notDigit : ∀ char ∈ ('.' :: (fraction ++ powerChars)).head?, isDigit char = false := by
    intro char member
    cases member
    rfl
  have first := takeWhile_isDigit wholeDigits notDigit
  have second := takeWhile_isDigit fractionDigits isExponent.head?_ne_digit
  have after := dropWhile_isDigit fractionDigits isExponent.head?_ne_digit
  unfold decimal?
  simp only [first, List.drop_left, second, after, isValue]
  rcases isExponent with ⟨rfl, rfl⟩ | ⟨sign, digits, rfl, _, _, _, isPower⟩
  · rfl
  · simp only [isPower]
    rfl

/-- Digits and an exponent. -/
theorem decimal?_whole {whole powerChars : List Char} {value : Nat} {exponent : Int}
    (negative : Bool) (wholeDigits : ∀ char ∈ whole, isDigit char = true)
    (isExponent : IsExponent powerChars exponent) (isValue : Decimal.value? whole = some value) :
    decimal? negative (whole ++ powerChars) = some (Binary64.ofDecimal negative value exponent) := by
  have first := takeWhile_isDigit wholeDigits isExponent.head?_ne_digit
  have isWhole : Decimal.value? (whole ++ []) = some value := by rw [List.append_nil, isValue]
  unfold decimal?
  simp only [first, List.drop_left]
  rcases isExponent with ⟨rfl, rfl⟩ | ⟨sign, digits, rfl, _, _, _, isPower⟩
  · change (Decimal.value? (whole ++ []) >>= _) = _
    rw [isWhole]
    rfl
  · change (Decimal.value? (whole ++ []) >>= fun value => exponent? (sign :: digits) >>= _) = _
    rw [isWhole, isPower]
    exact congrArg (fun exponent => some (Binary64.ofDecimal negative value exponent))
      (Int.sub_zero exponent)

/-! ## Scaled digits -/

/--
The characters are digits with a point or an exponent after them, which write the
scaled digits; zeros at their end take as many places of the exponent. A zero
before the point stands alone.
-/
structure Spells (chars : List Char) (digits : Nat) (exponent : Int) where
  whole : List Char
  fraction : List Char
  powerChars : List Char
  power : Int
  places : Nat
  notEmpty : whole ≠ []
  wholeDigits : ∀ char ∈ whole, isDigit char = true
  fractionDigits : ∀ char ∈ fraction, isDigit char = true
  leading : whole = ['0'] ∨ whole.head? ≠ some '0'
  isPower : IsExponent powerChars power
  value : Decimal.value? (whole ++ fraction) = some (digits * 10 ^ places)
  scale : power - fraction.length = exponent - places
  form : chars = whole ++ '.' :: (fraction ++ powerChars) ∧ fraction ≠ [] ∨
    chars = whole ++ powerChars ∧ fraction = [] ∧ powerChars ≠ []

namespace Spells

variable {chars : List Char} {digits : Nat} {exponent : Int} (spells : Spells chars digits exponent)

include spells

theorem decimal? (negative : Bool) : Numeral.decimal? negative chars = some
    (Binary64.ofDecimal negative (digits * 10 ^ spells.places) (exponent - spells.places)) := by
  rw [← spells.scale]
  rcases spells.form with ⟨hasPoint, _⟩ | ⟨noPoint, none, _⟩
  · exact (congrArg (Numeral.decimal? negative) hasPoint).trans
      (decimal?_point negative spells.wholeDigits spells.fractionDigits spells.isPower spells.value)
  · have isValue := spells.value
    rw [none, List.append_nil] at isValue
    have isRead := (congrArg (Numeral.decimal? negative) noPoint).trans
      (decimal?_whole negative spells.wholeDigits spells.isPower isValue)
    rw [isRead, none, List.length_nil, Int.natCast_zero, Int.sub_zero]

theorem isClear : ∀ char ∈ chars, IsClear char := by
  intro char member
  have cases : char ∈ spells.whole ∨ char = '.' ∨ char ∈ spells.fraction ∨
      char ∈ spells.powerChars := by
    rcases spells.form with ⟨hasPoint, _⟩ | ⟨noPoint, _, _⟩
    · rw [hasPoint] at member
      simpa using member
    · rw [noPoint] at member
      rcases List.mem_append.mp member with isWhole | isPower
      · exact .inl isWhole
      · exact .inr (.inr (.inr isPower))
  rcases cases with isWhole | rfl | isFraction | isPower
  · exact isClear_of_isDigit (spells.wholeDigits char isWhole)
  · decide
  · exact isClear_of_isDigit (spells.fractionDigits char isFraction)
  · exact spells.isPower.isClear char isPower

theorem head? : ∃ first ∈ chars.head?, isDigit first = true := by
  have starts : ∃ rest, chars = spells.whole ++ rest := by
    rcases spells.form with ⟨hasPoint, _⟩ | ⟨noPoint, _, _⟩
    · exact ⟨_, hasPoint⟩
    · exact ⟨_, noPoint⟩
  rcases starts with ⟨rest, starts⟩
  cases whole : spells.whole with
  | nil => exact absurd whole spells.notEmpty
  | cons first others =>
      refine ⟨first, ?_, spells.wholeDigits first (whole ▸ List.mem_cons_self)⟩
      rw [starts, whole]
      rfl

/-- The characters are not those of a whole number. -/
theorem point_or_letter : '.' ∈ chars ∨ 'e' ∈ chars := by
  rcases spells.form with ⟨hasPoint, _⟩ | ⟨noPoint, _, notEmpty⟩
  · rw [hasPoint]
    exact .inl (List.mem_append_right _ List.mem_cons_self)
  · rcases spells.isPower with ⟨none, _⟩ | ⟨sign, digits, isPower, _⟩
    · exact absurd none notEmpty
    · rw [noPoint, isPower]
      exact .inr (List.mem_append_right _ List.mem_cons_self)

end Spells

theorem nonempty_spells_positional {digits : Nat} (positive : 0 < digits) {exponent whole : Int}
    (isWhole : whole = exponent + (Decimal.digits digits).length) :
    Nonempty (Spells (Decimal.positional (Decimal.digits digits) whole).toList digits exponent) := by
  have areDigits (char : Char) (member : char ∈ Decimal.digits digits) : isDigit char = true :=
    Decimal.isDigit_of_mem_digits member
  have zeros {count : Nat} {char : Char} (member : char ∈ List.replicate count '0') :
      isDigit char = true := by
    rw [List.eq_of_mem_replicate member]
    rfl
  unfold Decimal.positional
  split
  · next below =>
    exact ⟨{
      whole := ['0']
      fraction := List.replicate (-whole).toNat '0' ++ Decimal.digits digits
      powerChars := []
      power := 0
      places := 0
      notEmpty := by simp
      wholeDigits := by simp [isDigit, Decimal.digitValue?]
      fractionDigits := fun char member => (List.mem_append.mp member).elim zeros (areDigits char)
      leading := .inl rfl
      isPower := .inl ⟨rfl, rfl⟩
      value := by
        have value := Decimal.value?_zeros_digits_zeros ((-whole).toNat + 1) digits 0
        simpa [List.replicate_succ] using value
      scale := by
        rw [List.length_append, List.length_replicate]
        omega
      form := .inl ⟨by simp, by simp [Decimal.digits_ne_nil]⟩ }⟩
  · split
    · next above =>
      exact ⟨{
        whole := Decimal.digits digits ++
          List.replicate (whole.toNat - (Decimal.digits digits).length) '0'
        fraction := ['0']
        powerChars := []
        power := 0
        places := whole.toNat - (Decimal.digits digits).length + 1
        notEmpty := by simp [Decimal.digits_ne_nil]
        wholeDigits := fun char member => (List.mem_append.mp member).elim (areDigits char) zeros
        fractionDigits := by simp [isDigit, Decimal.digitValue?]
        leading := by
          have isFirst := List.head?_eq_some_head (Decimal.digits_ne_nil digits)
          rw [List.head?_append, isFirst, Option.some_or, ← isFirst]
          exact .inr (Decimal.head?_digits_ne_zero positive)
        isPower := .inl ⟨rfl, rfl⟩
        value := by
          have value := Decimal.value?_zeros_digits_zeros 0 digits
            (whole.toNat - (Decimal.digits digits).length + 1)
          rw [List.append_assoc, ← List.replicate_succ']
          simpa using value
        scale := by
          rw [List.length_singleton]
          omega
        form := .inl ⟨by simp, by simp⟩ }⟩
    · next between =>
      exact ⟨{
        whole := (Decimal.digits digits).take whole.toNat
        fraction := (Decimal.digits digits).drop whole.toNat
        powerChars := []
        power := 0
        places := 0
        notEmpty := by
          simp only [ne_eq, List.take_eq_nil_iff, Decimal.digits_ne_nil, or_false]
          omega
        wholeDigits := fun char member => areDigits char (List.mem_of_mem_take member)
        fractionDigits := fun char member => areDigits char (List.mem_of_mem_drop member)
        leading := by
          rw [List.head?_take, if_neg (by omega)]
          exact .inr (Decimal.head?_digits_ne_zero positive)
        isPower := .inl ⟨rfl, rfl⟩
        value := by
          rw [List.take_append_drop, Decimal.value?_digits, Nat.pow_zero, Nat.mul_one]
        scale := by
          rw [List.length_drop]
          omega
        form := .inl ⟨by simp, by simpa using between⟩ }⟩

/-- The letter of an exponent, its sign and its digits. -/
theorem isExponent_padded (width : Nat) (power : Int) :
    IsExponent ('e' :: (if power < 0 then '-' else '+') :: (Decimal.padded width power.natAbs).toList)
      power := by
  refine .inr ⟨_, _, rfl, ?_, Decimal.padded_ne_nil _ _, fun char => Decimal.isDigit_of_mem_padded,
    ?_⟩
  · split
    · exact .inl rfl
    · exact .inr rfl
  unfold exponent?
  split_ifs with negative
  · have size : -(power.natAbs : Int) = power := by omega
    simp only [splitSign, Decimal.value?_padded]
    exact congrArg some ((if_pos trivial).trans size)
  · have size : (power.natAbs : Int) = power := by omega
    simp only [splitSign, Decimal.value?_padded]
    exact congrArg some ((if_neg Bool.false_ne_true).trans size)

theorem nonempty_spells_exponential (layout : Decimal.NumberLayout) {digits : Nat}
    (positive : 0 < digits) {exponent first : Int}
    (isFirst : first = exponent + (Decimal.digits digits).length - 1) :
    Nonempty (Spells (Decimal.exponential layout (Decimal.digits digits) first).toList digits
      exponent) := by
  let powerChars := 'e' :: (if first < 0 then '-' else '+') ::
    (Decimal.padded layout.exponentDigits first.natAbs).toList
  have isPower : IsExponent powerChars first := isExponent_padded layout.exponentDigits first
  have areDigits (char : Char) (member : char ∈ Decimal.digits digits) : isDigit char = true :=
    Decimal.isDigit_of_mem_digits member
  have value := Decimal.value?_digits digits
  have leading := Decimal.head?_digits_ne_zero positive
  have form (mantissa : String) : (mantissa ++ "e" ++ (if first < 0 then "-" else "+") ++
      Decimal.padded layout.exponentDigits first.natAbs).toList = mantissa.toList ++ powerChars := by
    simp only [String.toList_append, powerChars]
    split <;> simp
  unfold Decimal.exponential
  simp only [form]
  cases written : Decimal.digits digits with
  | nil => exact absurd written (Decimal.digits_ne_nil digits)
  | cons head rest =>
      rw [written] at areDigits value isFirst leading
      cases rest with
      | cons second rest =>
          exact ⟨{
            whole := [head]
            fraction := second :: rest
            powerChars
            power := first
            places := 0
            notEmpty := by simp
            wholeDigits := fun char member =>
              areDigits char (List.mem_singleton.mp member ▸ List.mem_cons_self)
            fractionDigits := fun char member => areDigits char (List.mem_cons_of_mem head member)
            leading := .inr leading
            isPower
            value := by simpa using value
            scale := by
              simp only [List.length_cons] at isFirst ⊢
              omega
            form := .inl ⟨by simp, by simp⟩ }⟩
      | nil =>
          by_cases hasFraction : layout.mantissaFraction = true
          · exact ⟨{
              whole := [head]
              fraction := ['0']
              powerChars
              power := first
              places := 1
              notEmpty := by simp
              wholeDigits := areDigits
              fractionDigits := by simp [isDigit, Decimal.digitValue?]
              leading := .inr leading
              isPower
              value := by
                have zero := Decimal.value?_zeros_digits_zeros 0 digits 1
                rw [written] at zero
                exact zero
              scale := by
                simp only [List.length_singleton] at isFirst ⊢
                omega
              form := .inl ⟨by simp [hasFraction], by simp⟩ }⟩
          · exact ⟨{
              whole := [head]
              fraction := []
              powerChars
              power := first
              places := 0
              notEmpty := by simp
              wholeDigits := areDigits
              fractionDigits := nofun
              leading := .inr leading
              isPower
              value := by simpa using value
              scale := by
                simp only [List.length_singleton, List.length_nil] at isFirst ⊢
                omega
              form := .inr (by simp [hasFraction, powerChars]) }⟩

/-- The text of scaled digits writes them, in every layout. -/
theorem nonempty_spells_scaledText (layout : Decimal.NumberLayout) {scaled : Decimal.Scaled}
    (positive : 0 < scaled.digits) :
    Nonempty (Spells (Decimal.scaledText layout scaled).toList scaled.digits scaled.exponent) := by
  unfold Decimal.scaledText
  simp only
  split
  · exact nonempty_spells_positional positive (by omega)
  · exact nonempty_spells_exponential layout positive (by omega)

/-! ## Numbers -/

theorem toLower_of_isDigit {char : Char} (digit : isDigit char = true) : char.toLower = char := by
  have between := Decimal.isDigit_iff.mp digit
  have each : ∀ unit < 10, (Char.ofNat (48 + unit)).toLower = Char.ofNat (48 + unit) := by decide
  have isUnit : char = Char.ofNat (48 + (char.toNat - 48)) := by
    rw [Nat.add_sub_cancel' between.1, Char.ofNat_toNat]
  rw [isUnit]
  exact each _ (by omega)

/-- What starts with a digit is none of the words for numbers. -/
theorem ne_of_head? {chars : List Char} (word : String)
    (digit : ∃ first ∈ chars.head?, isDigit first = true)
    (isWord : word.toList.head?.map isDigit = some false) :
    String.ofList (chars.map Char.toLower) ≠ word := by
  rcases digit with ⟨first, isFirst, digit⟩
  intro same
  rw [← same, String.toList_ofList, List.head?_map, isFirst, Option.map_some,
    toLower_of_isDigit digit, Option.map_some, digit] at isWord
  cases isWord

variable {layout : Decimal.NumberLayout} {negative : Bool} {units : Nat}

/-- The characters of a finite number after its sign, read as its magnitude. -/
theorem exists_spells (layout : Decimal.NumberLayout) (negative : Bool)
    (representable : Binary64.Representable units) :
    ∃ chars digits exponent, (Decimal.numberText layout (.finite negative units representable)).toList =
        (if negative then ['-'] else []) ++ chars ∧ Nonempty (Spells chars digits exponent) ∧
      decimal? negative chars = some (.finite negative units representable) := by
  have sign (rest : String) : ((if negative then "-" else "") ++ rest).toList =
      (if negative then ['-'] else []) ++ rest.toList := by
    cases negative <;> simp
  by_cases zero : units = 0
  · subst zero
    refine ⟨"0.0".toList, 0, 0, sign "0.0", ⟨{
      whole := ['0']
      fraction := ['0']
      powerChars := []
      power := 0
      places := 1
      notEmpty := by simp
      wholeDigits := by simp [isDigit, Decimal.digitValue?]
      fractionDigits := by simp [isDigit, Decimal.digitValue?]
      leading := .inl rfl
      isPower := .inl ⟨rfl, rfl⟩
      value := by decide
      scale := by decide
      form := .inl ⟨by decide, by simp⟩ }⟩, ?_⟩
    cases negative <;> rfl
  · have positive : 0 < units := Nat.pos_of_ne_zero zero
    rcases nonempty_spells_scaledText layout (Decimal.digits_shortest_pos representable positive)
      with ⟨spells⟩
    refine ⟨_, _, _, ?_, ⟨spells⟩, ?_⟩
    · rw [← sign]
      exact congrArg String.toList (if_neg zero)
    · have reads := (Decimal.readsAs_shortest representable positive).shift spells.places
      rw [spells.decimal? negative,
        Decimal.ofDecimal_of_readsAs negative representable positive reads]

theorem isClear_of_signed {chars : List Char} (clear : ∀ char ∈ chars, IsClear char) :
    ∀ char ∈ (if negative then ['-'] else []) ++ chars, IsClear char := by
  intro char member
  rcases List.mem_append.mp member with isSign | isLater
  · split at isSign
    · rw [List.mem_singleton.mp isSign]
      decide
    · cases isSign
  · exact clear char isLater

/-- A number is read from its text, in every layout with one of the words for infinity. -/
theorem number?_numberText (words : layout.infinity = "inf" ∨ layout.infinity = "Infinity")
    {value : Binary64} (isNumber : value ≠ .nan) :
    number? (Decimal.numberText layout value) = some value := by
  cases value with
  | nan => exact absurd rfl isNumber
  | infinite negative =>
      change number? ((if negative then "-" else "") ++ layout.infinity) = _
      rcases words with word | word <;> rw [word] <;> cases negative <;> decide
  | finite negative units representable =>
      rcases exists_spells layout negative representable with
        ⟨chars, digits, exponent, isText, ⟨spells⟩, isRead⟩
      have normal : normalize? (Decimal.numberText layout (.finite negative units representable)) =
          some ((if negative then ['-'] else []) ++ chars) := by
        rw [← String.ofList_toList (s := Decimal.numberText _ _), isText]
        exact normalize?_ofList (isClear_of_signed spells.isClear)
      have signed : splitSign ((if negative then ['-'] else []) ++ chars) = (negative, chars) := by
        cases negative with
        | false => exact splitSign_of_head spells.head?
        | true => rfl
      have notInf := ne_of_head? "inf" spells.head? (by decide)
      have notInfinity := ne_of_head? "infinity" spells.head? (by decide)
      have notNaN := ne_of_head? "nan" spells.head? (by decide)
      rw [number?, normal, Option.bind_eq_bind, Option.bind_some, signed]
      simp only
      rw [if_neg (not_or.mpr ⟨notInf, notInfinity⟩), if_neg notNaN, isRead]

end TableBrowser.Numeral

namespace TableBrowser

/-! ## Numbers without a sign

What starts with no sign is read as a number that has none. Main statement: a
whole number that is read of digits can be written in as many as may be read.
-/

open Decimal (isDigit)

/-- A number that is written without a sign: a whole one of not too many digits, or a finite one. -/
def Datum.IsNumeral : Datum → Prop
  | .integer value => 0 ≤ value ∧ (Decimal.digits value.natAbs).length ≤ Numeral.digitLimit
  | .number (.finite negative _ _) => negative = false
  | _ => False

theorem Binary64.isNegative_ofMagnitude (negative : Bool) (units : Nat) :
    (ofMagnitude negative units).isNegative = negative := by
  unfold ofMagnitude
  split <;> rfl

theorem Binary64.isNegative_ofDecimal (negative : Bool) (digits : Nat) (exponent : Int) :
    (ofDecimal negative digits exponent).isNegative = negative := by
  unfold ofDecimal
  simp only
  split_ifs
  · rfl
  · rfl
  · rfl
  · exact isNegative_ofMagnitude ..
  · exact isNegative_ofMagnitude ..

namespace Numeral

/-- Digits are read as a whole number that is not negative. -/
theorem int?_of_decimal {text : String} {value : Int}
    (decimal : ∀ char ∈ text.toList, Text.isDecimalDigit char = true)
    (isValue : int? text = some value) : (Datum.integer value).IsNumeral := by
  have areDigits := isDigit_of_mem_plain decimal
  have normal := normalize?_of_clear fun char member => isClear_of_isDigit (areDigits char member)
  cases isDigits : text.toList.map plain with
  | nil =>
      rw [int?, normal, isDigits] at isValue
      cases isValue
  | cons first rest =>
      rw [isDigits] at normal areDigits
      have digit := areDigits first List.mem_cons_self
      rw [int?, normal, Option.bind_eq_bind, Option.bind_some,
        splitSign_of_head ⟨first, rfl, digit⟩] at isValue
      rcases Option.bind_eq_some_iff.mp isValue with ⟨whole, isWhole, made⟩
      simp only [Bool.false_eq_true, if_false, Option.ite_none_left_eq_some] at made
      rcases made with ⟨short, made⟩
      cases made
      exact ⟨Int.natCast_nonneg whole,
        Decimal.length_digits_of_value? isWhole (Nat.not_lt.mp short) (by decide)⟩

theorem isNegative_of_decimal? {negative : Bool} {chars : List Char} {value : Binary64}
    (isValue : decimal? negative chars = some value) : value.isNegative = negative := by
  unfold decimal? at isValue
  rcases Option.bind_eq_some_iff.mp isValue with ⟨digits, _, later⟩
  have ofExponent {exponent : Option Int} {scale : Int → Int}
      (made : (exponent.bind fun power => some (Binary64.ofDecimal negative digits (scale power))) =
        some value) : value.isNegative = negative := by
    rcases Option.bind_eq_some_iff.mp made with ⟨power, _, made⟩
    cases made
    exact Binary64.isNegative_ofDecimal ..
  simp only at later
  split at later
  all_goals exact ofExponent later

/-- Without a sign no number is negative. -/
theorem isNegative_of_number? {text : String} {value : Binary64}
    (clear : ∀ char ∈ text.toList.map plain, IsClear char)
    (unsigned : (text.toList.map plain).head? ≠ some '-') (isValue : number? text = some value) :
    value.isNegative = false := by
  have signless : (splitSign (text.toList.map plain)).1 = false := by
    unfold splitSign
    split
    · next isText => exact absurd (congrArg List.head? isText) unsigned
    · rfl
    · rfl
  rw [number?, normalize?_of_clear clear, Option.bind_eq_bind, Option.bind_some] at isValue
  simp only [signless] at isValue
  split_ifs at isValue
  · cases isValue
    rfl
  · cases isValue
    rfl
  · exact isNegative_of_decimal? isValue

end Numeral

end TableBrowser
