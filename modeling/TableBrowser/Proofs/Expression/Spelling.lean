import TableBrowser.Proofs.Expression.Lexemes
import TableBrowser.Proofs.Number.NumberText
import TableBrowser.Proofs.Table.CellText
/-!
# Tokens that are written

Every token has a text of its own, numbers the shortest one. Main statements: the
texts of tokens with blanks between them are read as these tokens, and each
number that is read has such a text if it is finite.
-/

namespace TableBrowser

open Decimal (isDigit isDigit_iff)

namespace Expression

/-! ## Texts -/

/-- Quotes and backslashes have a backslash before them. -/
def escaped (quote : Char) (chars : List Char) : List Char :=
  chars.flatMap fun char => if char = quote ∨ char = '\\' then ['\\', char] else [char]

def enquoted (quote : Char) (text : String) : String :=
  String.ofList (quote :: escaped quote text.toList ++ [quote])

/-- The text of a token; names stand in backticks. -/
def Token.spelled (quote : Char) : Token → String
  | .name spelling => enquoted '\x60' spelling
  | .text value => enquoted quote value
  | token => token.shown

theorem encloses_escaped (quote : Char) (chars rest : List Char) :
    Encloses quote (escaped quote chars ++ quote :: rest) chars rest := by
  induction chars with
  | nil => exact .closed rest
  | cons char chars induction =>
      rw [escaped, List.flatMap_cons, ← escaped]
      split_ifs with isMark
      · exact .escaped char induction
      · rw [not_or] at isMark
        exact .plain isMark.1 isMark.2 induction

/-! ## Numbers -/

theorem takeWhile_append_of_stops {holds : Char → Bool} {chars rest : List Char}
    (all : ∀ char ∈ chars, holds char = true) (stops : ∀ char ∈ rest.head?, holds char = false) :
    (chars ++ rest).takeWhile holds = chars := by
  rw [List.takeWhile_append_of_pos all]
  cases rest with
  | nil => rw [List.takeWhile_nil, List.append_nil]
  | cons char rest =>
      rw [List.takeWhile_cons_of_neg (by simp [stops char rfl]), List.append_nil]

theorem isDecimalDigit_of_isDigit {char : Char} (digit : isDigit char = true) :
    Text.isDecimalDigit char = true := by
  have between := isDigit_iff.mp digit
  rw [Text.isDecimalDigit, Text.decimalDigit?, Option.isSome_map, List.find?_isSome]
  exact ⟨0x30, by decide, by simp only [Bool.and_eq_true, decide_eq_true_eq]; omega⟩

theorem exponentChars_of_isExponent {chars : List Char} {exponent : Int}
    (isExponent : Numeral.IsExponent chars exponent) : exponentChars chars = chars := by
  rcases isExponent with ⟨rfl, _⟩ | ⟨sign, digits, rfl, isSign, some, areDigits, _⟩
  · rfl
  · have areDecimal : digits.takeWhile Text.isDecimalDigit = digits :=
      List.takeWhile_eq_self_iff.mpr fun char member =>
        isDecimalDigit_of_isDigit (areDigits char member)
    have isSign : IsSign [sign] digits := by
      rcases isSign with rfl | rfl
      · exact .inr (.inl rfl)
      · exact .inl rfl
    have read := exponentChars_of_isSign (.inl rfl) isSign
    rw [areDecimal, if_neg (by simpa using some)] at read
    exact read

theorem stops_of_isExponent {chars : List Char} {exponent : Int}
    (isExponent : Numeral.IsExponent chars exponent) :
    ∀ char ∈ chars.head?, Text.isDecimalDigit char = false ∧ char ≠ '.' := by
  rcases isExponent with ⟨rfl, _⟩ | ⟨sign, digits, rfl, _⟩
  · nofun
  · rintro _ ⟨⟩
    decide

section Mantissa

variable {whole fraction rest : List Char} (areWhole : ∀ char ∈ whole, isDigit char = true)

include areWhole

theorem mantissaChars_whole
    (stops : ∀ char ∈ rest.head?, Text.isDecimalDigit char = false ∧ char ≠ '.') :
    mantissaChars (whole ++ rest) = whole := by
  have isWhole : (whole ++ rest).takeWhile Text.isDecimalDigit = whole :=
    takeWhile_append_of_stops (fun char member => isDecimalDigit_of_isDigit (areWhole char member))
      fun char isFirst => (stops char isFirst).1
  simp only [mantissaChars, isWhole, List.drop_left]
  split
  · exact absurd rfl (stops _ rfl).2
  · rfl

theorem mantissaChars_point (some : whole ≠ []) (areFraction : ∀ char ∈ fraction, isDigit char = true)
    (stops : ∀ char ∈ rest.head?, Text.isDecimalDigit char = false) :
    mantissaChars (whole ++ '.' :: (fraction ++ rest)) = whole ++ '.' :: fraction := by
  have isWhole : (whole ++ '.' :: (fraction ++ rest)).takeWhile Text.isDecimalDigit = whole :=
    takeWhile_append_of_stops (fun char member => isDecimalDigit_of_isDigit (areWhole char member))
      fun char isFirst => by cases isFirst; rfl
  have isFraction : (fraction ++ rest).takeWhile Text.isDecimalDigit = fraction :=
    takeWhile_append_of_stops
      (fun char member => isDecimalDigit_of_isDigit (areFraction char member)) stops
  simp [mantissaChars, isWhole, isFraction, some]

end Mantissa

theorem numberChars_of_mantissa {mantissa power : List Char}
    (isMantissa : mantissaChars (mantissa ++ power) = mantissa) (some : mantissa ≠ [])
    (isPower : exponentChars power = power) : numberChars (mantissa ++ power) = mantissa ++ power := by
  simp [numberChars, isMantissa, isPower, some]

/-- Digits of a written number are all taken. -/
theorem numberChars_of_spells {chars : List Char} {digits : Nat} {exponent : Int}
    (spells : Numeral.Spells chars digits exponent) : numberChars chars = chars := by
  have isPower := exponentChars_of_isExponent spells.isPower
  have stops := stops_of_isExponent spells.isPower
  rcases spells.form with ⟨hasPoint, _⟩ | ⟨noPoint, _, _⟩
  · have isMantissa := mantissaChars_point spells.wholeDigits spells.notEmpty spells.fractionDigits
      fun char isFirst => (stops char isFirst).1
    rw [← List.cons_append, ← List.append_assoc] at isMantissa
    have parts : chars = (spells.whole ++ '.' :: spells.fraction) ++ spells.powerChars :=
      hasPoint.trans (by rw [List.append_assoc, List.cons_append])
    have taken := numberChars_of_mantissa isMantissa (by simp) isPower
    exact (congrArg numberChars parts).trans (taken.trans parts.symm)
  · have isMantissa := mantissaChars_whole spells.wholeDigits stops
    have taken := numberChars_of_mantissa isMantissa spells.notEmpty isPower
    exact (congrArg numberChars noPoint).trans (taken.trans noPoint.symm)

theorem numberChars_digits (value : Nat) :
    numberChars (Decimal.digits value) = Decimal.digits value := by
  have isMantissa : mantissaChars (Decimal.digits value ++ []) = Decimal.digits value :=
    mantissaChars_whole (fun _ => Decimal.isDigit_of_mem_digits) nofun
  have read := numberChars_of_mantissa isMantissa (Decimal.digits_ne_nil value) rfl
  rwa [List.append_nil] at read

/-! ## Written tokens -/

/-- The text is one token with nothing around it. -/
def Spells (text : String) (token : Token) : Prop :=
  ∃ first rest, text.toList = first :: rest ∧ Text.isBlank first = false ∧
    lexeme first rest = .token token []

theorem Spells.spelled {text : String} {token : Token} (spells : Spells text token) :
    Spelled text.toList [token] := by
  rcases spells with ⟨first, rest, isText, visible, isToken⟩
  rw [isText]
  exact .token visible isToken .nil

/-- A token can be written: it is no number, or one without a sign. -/
def Token.IsWritable : Token → Prop
  | .number value => value.IsNumeral
  | _ => True

theorem spells_of_numberChars {text : String} {value : Datum}
    (digit : ∃ first ∈ text.toList.head?, isDigit first = true)
    (taken : numberChars text.toList = text.toList) (isValue : numberValue text.toList = .ok value) :
    Spells text (.number value) := by
  rcases digit with ⟨first, isFirst, digit⟩
  rcases List.head?_eq_some_iff.mp isFirst with ⟨rest, isText⟩
  have different {other : Char} (outside : other.toNat < 48 ∨ 57 < other.toNat) : first ≠ other :=
    Decimal.ne_of_isDigit digit outside
  have noSymbol : first ∉ symbolStarts := by
    intro member
    have outside : symbolStarts.all (!isDigit ·) = true := by decide
    simpa [digit] using List.all_eq_true.mp outside first member
  rw [isText] at taken isValue
  refine ⟨first, rest, isText, Text.isBlank_of_isClear (Numeral.isClear_of_isDigit digit), ?_⟩
  rw [lexeme, if_neg (different (by decide)), if_neg (different (by decide)),
    if_neg (different (by decide)), plainLexeme]
  simp only [symbol?_eq_none noSymbol, taken]
  simp [numberLexeme, isValue]

theorem spells_integer {value : Int} (isNumeral : (Datum.integer value).IsNumeral) :
    Spells (Decimal.intText value) (.number (.integer value)) := by
  have isText : (Decimal.intText value).toList = Decimal.digits value.natAbs := by
    rw [Numeral.toList_intText, if_neg (Int.not_lt.mpr isNumeral.1), List.nil_append]
  have whole : (Decimal.intText value).toList.any isFractionMark = false := by
    rw [isText, List.any_eq_false]
    intro char member
    have unlike (other : Char) (outside : other.toNat < 48 ∨ 57 < other.toNat) : char ≠ other :=
      Decimal.ne_of_isDigit (Decimal.isDigit_of_mem_digits member) outside
    simp [isFractionMark, unlike '.' (by decide), unlike 'e' (by decide), unlike 'E' (by decide)]
  apply spells_of_numberChars
  · rw [isText]
    exact Numeral.head?_digits _
  · rw [isText, numberChars_digits]
  · simp only [numberValue, whole, Bool.false_eq_true, if_false]
    rw [String.ofList_toList, Numeral.int?_intText isNumeral.2]

theorem spells_number {units : Nat} (representable : Binary64.Representable units) :
    Spells (Binary64.finite false units representable).text
      (.number (.number (.finite false units representable))) := by
  rcases Numeral.exists_spells numberLayout false representable with
    ⟨chars, digits, exponent, isText, ⟨spells⟩, _⟩
  change (Binary64.finite false units representable).text.toList = chars at isText
  have marked : chars.any isFractionMark = true := by
    rcases spells.point_or_letter with point | letter
    · exact List.any_eq_true.mpr ⟨_, point, rfl⟩
    · exact List.any_eq_true.mpr ⟨_, letter, rfl⟩
  apply spells_of_numberChars
  · rw [isText]
    exact spells.head?
  · rw [isText, numberChars_of_spells spells]
  · have read : Numeral.number? (Decimal.numberText numberLayout (.finite false units representable)) =
        some (.finite false units representable) := Numeral.number?_numberText (.inl rfl) nofun
    rw [← Binary64.text] at read
    rw [numberValue, isText, if_pos marked, ← isText, String.ofList_toList, read]
    rfl

theorem spells_enquoted {quote : Char} {text : String} {token : Token} 
    (isQuote : quote = '\'' ∧ token = .text text ∨ quote = '"' ∧ token = .text text ∨
      quote = '\x60' ∧ token = .name text) : Spells (enquoted quote text) token := by
  refine ⟨quote, escaped quote text.toList ++ [quote], by rw [enquoted, String.toList_ofList]; rfl, ?_⟩
  have read := (encloses_escaped quote text.toList []).quoted?
  rcases isQuote with ⟨rfl, rfl⟩ | ⟨rfl, rfl⟩ | ⟨rfl, rfl⟩
  all_goals
    refine ⟨by decide, ?_⟩
    simp [lexeme, quotedLexeme, read]

theorem spells_keyword (keyword : Keyword) : Spells keyword.word (.keyword keyword) := by
  cases keyword
  case text operator => cases operator <;> exact ⟨_, _, rfl, rfl, rfl⟩
  all_goals exact ⟨_, _, rfl, rfl, rfl⟩

theorem spells_symbol (symbol : Symbol) : Spells symbol.written (.symbol symbol) := by
  cases symbol
  case comparison operator => cases operator <;> exact ⟨_, _, rfl, rfl, rfl⟩
  case arithmetic operator => cases operator <;> exact ⟨_, _, rfl, rfl, rfl⟩
  all_goals exact ⟨_, _, rfl, rfl, rfl⟩

/-- The text of a token is this token. -/
theorem spells_spelled {quote : Char} (isQuote : quote = '\'' ∨ quote = '"') {token : Token}
    (writable : token.IsWritable) : Spells (token.spelled quote) token := by
  cases token with
  | name name => exact spells_enquoted (by simp)
  | text value => exact spells_enquoted (by simpa using isQuote)
  | keyword keyword => exact spells_keyword keyword
  | symbol symbol => exact spells_symbol symbol
  | number value =>
      cases value with
      | integer value => exact spells_integer writable
      | number value =>
          cases value with
          | finite negative units representable =>
              cases writable
              exact spells_number representable
          | nan => cases writable
          | infinite negative => cases writable
      | _ => cases writable

/-- Texts of tokens with blanks between them are the tokens. -/
theorem spelled_intercalate {quote : Char} (isQuote : quote = '\'' ∨ quote = '"')
    {tokens : List Token} (writable : ∀ token ∈ tokens, token.IsWritable) :
    Spelled (" ".intercalate (tokens.map (Token.spelled quote))).toList tokens := by
  rw [String.toList_intercalate]
  induction tokens with
  | nil => exact .nil
  | cons token tokens induction =>
      rw [List.forall_mem_cons] at writable
      have first := (spells_spelled isQuote writable.1).spelled
      have later := induction writable.2
      cases tokens with
      | nil => simpa using first
      | cons second tokens =>
          simp only [List.map_cons, List.intercalate_cons_cons, List.append_assoc] at later ⊢
          exact first.append (endsTokens_blank _) (.blank rfl later)

/-! ## Numbers that are read -/

theorem isClear_of_isNumeralChar {char : Char} (isNumeral : IsNumeralChar char) :
    Numeral.IsClear (Numeral.plain char) := by
  rcases isNumeral with digit | mark
  · exact Numeral.isClear_of_isDigit (Numeral.isDigit_plain digit)
  · have each : (['.', 'e', 'E', '+', '-'].map Numeral.plain).all
        (fun mark => decide (Numeral.IsClear mark)) = true := by decide
    exact Numeral.isClear_of_all each _ (List.mem_map_of_mem mark)

theorem head_numberChars (chars : List Char) :
    ∀ first ∈ (numberChars chars).head?, Text.isDecimalDigit first = true ∨ first = '.' := by
  have digits {chars : List Char} {first : Char}
      (isFirst : (chars.takeWhile Text.isDecimalDigit).head? = some first) :
      Text.isDecimalDigit first = true :=
    List.mem_takeWhile_imp (List.mem_of_head? isFirst)
  have mantissa : ∀ first ∈ (mantissaChars chars).head?,
      Text.isDecimalDigit first = true ∨ first = '.' := by
    intro first isFirst
    unfold mantissaChars at isFirst
    simp only at isFirst
    split at isFirst
    · split at isFirst
      · cases isFirst
      · rw [List.head?_append, Option.mem_def, Option.or_eq_some_iff] at isFirst
        rcases isFirst with isDigit | ⟨_, isPoint⟩
        · exact .inl (digits isDigit)
        · cases isPoint
          exact .inr rfl
    · exact .inl (digits isFirst)
  intro first isFirst
  unfold numberChars at isFirst
  simp only at isFirst
  split at isFirst
  · cases isFirst
  · next some =>
    rw [List.head?_append_of_ne_nil _ (by simpa using some)] at isFirst
    exact mantissa first isFirst

/-- A number that is read is written without a sign. -/
theorem isNumeral_of_numberValue {chars : List Char} {value : Datum}
    (isValue : numberValue (numberChars chars) = .ok value)
    (finite : ∀ number, value = .number number → number.isFinite = true) : value.IsNumeral := by
  unfold numberValue at isValue
  simp only at isValue
  split at isValue
  · cases isValue
    have isFinite := finite _ rfl
    cases isRead : Numeral.number? (String.ofList (numberChars chars)) with
    | none =>
        rw [isRead] at isFinite
        cases isFinite
    | some number =>
        have unsigned : number.isNegative = false := by
          refine Numeral.isNegative_of_number? ?_ ?_ isRead
          · rw [String.toList_ofList]
            intro char member
            rcases List.mem_map.mp member with ⟨given, isGiven, rfl⟩
            exact isClear_of_isNumeralChar ((StartsNumeral.numberChars chars).2 given isGiven)
          · rw [String.toList_ofList, List.head?_map]
            intro isSign
            rcases Option.map_eq_some_iff.mp isSign with ⟨first, isFirst, isSign⟩
            rcases head_numberChars chars first isFirst with digit | rfl
            · have plainDigit := Numeral.isDigit_plain digit
              rw [isSign] at plainDigit
              exact absurd plainDigit (by decide)
            · exact absurd isSign (by decide)
        rw [isRead] at isFinite
        cases number with
        | finite negative units representable => exact unsigned
        | nan => cases isFinite
        | infinite negative => cases isFinite
  · next isWhole =>
    split at isValue
    · next isRead =>
      cases isValue
      refine Numeral.int?_of_decimal ?_ isRead
      rw [String.toList_ofList, numberChars_of_whole (Bool.not_eq_true _ ▸ isWhole)]
      exact fun _ => List.mem_takeWhile_imp
    · cases isValue

theorem wordToken_ne_number (word : List Char) (value : Datum) : wordToken word ≠ .number value := by
  unfold wordToken
  split <;> nofun

theorem numberValue_of_lexeme {first : Char} {rest after : List Char} {value : Datum}
    (isToken : lexeme first rest = .token (.number value) after) :
    numberValue (numberChars (first :: rest)) = .ok value := by
  have notQuoted {quote : Char} {make : String → Token} (other : ∀ text, make text ≠ .number value) :
      quotedLexeme quote make rest ≠ .token (.number value) after := by
    unfold quotedLexeme
    split
    · exact fun same => other _ (Lexeme.token.inj same).1
    · nofun
  unfold lexeme at isToken
  split at isToken
  · exact absurd isToken (notQuoted nofun)
  split at isToken
  · exact absurd isToken (notQuoted nofun)
  split at isToken
  · exact absurd isToken (notQuoted nofun)
  unfold plainLexeme at isToken
  simp only at isToken
  split at isToken
  · cases isToken
  · split at isToken
    · unfold numberLexeme at isToken
      split at isToken
      · next isValue =>
        cases isToken
        exact isValue
      · cases isToken
    · split at isToken
      · exact absurd (Lexeme.token.inj isToken).1 (wordToken_ne_number _ value)
      · cases isToken

/-- A number among the tokens of a source can be written if it is finite. -/
theorem Spelled.isNumeral {chars : List Char} {tokens : List Token} (spelled : Spelled chars tokens)
    {value : Datum} (member : .number value ∈ tokens)
    (finite : ∀ number, value = .number number → number.isFinite = true) : value.IsNumeral := by
  induction spelled with
  | nil => cases member
  | blank _ _ induction => exact induction member
  | token _ isToken _ induction =>
      rcases List.mem_cons.mp member with rfl | later
      · exact isNumeral_of_numberValue (numberValue_of_lexeme isToken) finite
      · exact induction later

end Expression

end TableBrowser
