import TableBrowser.Expression.Parser
import TableBrowser.Proofs.Number.Digits
import TableBrowser.Proofs.Outcome
/-!
# Expressions that cannot be read

What is wrong with an expression is reported, with one exception. Main
statement: a fault comes from a whole number with more digits than are read.
-/

namespace TableBrowser.Expression

/-- Somewhere more decimal digits follow one another than a whole number may have. -/
def LongNumeralIn (chars : List Char) : Prop :=
  ∃ digits, digits <:+: chars ∧ Numeral.digitLimit < digits.length ∧
    ∀ char ∈ digits, Text.isDecimalDigit char = true

theorem LongNumeralIn.of_suffix {later chars : List Char} (long : LongNumeralIn later)
    (isSuffix : later <:+ chars) : LongNumeralIn chars := by
  rcases long with ⟨digits, within, rest⟩
  exact ⟨digits, within.trans isSuffix.isInfix, rest⟩

/-! ## Single tokens -/

/-- Digits with a point are marked by it. -/
theorem mantissaChars_cases (chars : List Char) :
    mantissaChars chars = chars.takeWhile Text.isDecimalDigit ∨
      (mantissaChars chars).any isFractionMark = true := by
  unfold mantissaChars
  simp only
  split
  · split
    · next none =>
      rw [Bool.and_eq_true] at none
      exact .inl (List.isEmpty_iff.mp none.1).symm
    · exact .inr (by simp [isFractionMark])
  · exact .inl rfl

/-- An exponent starts with its mark. -/
theorem exponentChars_cases (chars : List Char) :
    exponentChars chars = [] ∨ (exponentChars chars).any isFractionMark = true := by
  cases chars with
  | nil => exact .inl rfl
  | cons letter rest =>
      by_cases isLetter : letter = 'e' ∨ letter = 'E'
      · have isMark : isFractionMark letter = true := by
          rcases isLetter with rfl | rfl <;> rfl
        have marked (digits : List Char) : (letter :: digits).any isFractionMark = true := by
          rw [List.any_cons, isMark, Bool.true_or]
        simp only [exponentChars, if_pos isLetter]
        -- the optional sign first, then whether digits follow
        split
        all_goals
          split
          · exact .inl rfl
          · exact .inr (marked _)
      · exact .inl (if_neg isLetter)

/-- Without a point and an exponent a number is the digits that stand at its start. -/
theorem numberChars_of_whole {chars : List Char}
    (isWhole : (numberChars chars).any isFractionMark = false) :
    numberChars chars = chars.takeWhile Text.isDecimalDigit := by
  unfold numberChars at isWhole ⊢
  simp only at isWhole ⊢
  have mantissa := mantissaChars_cases chars
  split
  · next empty =>
    rw [List.isEmpty_iff.mp empty] at mantissa
    simpa using mantissa
  · next some =>
    rw [if_neg some, List.any_append, Bool.or_eq_false_iff] at isWhole
    rcases exponentChars_cases (chars.drop (mantissaChars chars).length) with noExponent | marked
    · rw [noExponent, List.append_nil]
      exact mantissa.resolve_right (by simp [isWhole.1])
    · rw [isWhole.2] at marked
      cases marked

theorem long_of_numberValue {chars : List Char} {fault : Fault}
    (some : (numberChars chars).isEmpty = false)
    (failed : numberValue (numberChars chars) = .error fault) : LongNumeralIn chars := by
  unfold numberValue at failed
  simp only at failed
  split at failed
  · cases failed
  · next isWhole =>
    have isDigits := numberChars_of_whole (Bool.not_eq_true _ ▸ isWhole)
    have decimal : ∀ char ∈ numberChars chars, Text.isDecimalDigit char = true := by
      rw [isDigits]
      exact fun char member => List.all_eq_true.mp (List.all_takeWhile ..) char member
    refine ⟨numberChars chars, ?_, ?_, decimal⟩
    · rw [isDigits]
      exact (List.takeWhile_prefix _).isInfix
    · by_contra short
      have read : ∃ value, Numeral.int? (String.ofList (numberChars chars)) = Option.some value :=
        Numeral.exists_int?_of_digits (by simpa using decimal) (by simpa using some)
          (by simpa using short)
      rcases read with ⟨value, isValue⟩
      rw [isValue] at failed
      cases failed

/--
Characters up to a closing quote, what they stand for, and what follows the quote. A
backslash takes the character after it, also when this is a quote.
-/
inductive Encloses (quote : Char) : (chars value after : List Char) → Prop
  | closed (after : List Char) : Encloses quote (quote :: after) [] after
  | escaped {chars value after : List Char} (char : Char)
      (inside : Encloses quote chars value after) :
      Encloses quote ('\\' :: char :: chars) (char :: value) after
  | plain {char : Char} {chars value after : List Char} (notQuote : char ≠ quote)
      (notEscape : char ≠ '\\') (inside : Encloses quote chars value after) :
      Encloses quote (char :: chars) (char :: value) after

section Quotes

variable {quote : Char} {chars value after : List Char}

theorem encloses_of_quoted? (found : quoted? quote chars = some (value, after)) :
    Encloses quote chars value after := by
  fun_induction quoted? quote chars generalizing value with
  | case1 => cases found
  | case2 char rest induction =>
      rcases Option.map_eq_some_iff.mp found with ⟨⟨inner, left⟩, isInner, same⟩
      cases same
      exact .escaped char (induction isInner)
  | case3 rest =>
      cases found
      exact .closed _
  | case4 char rest alone notQuote induction =>
      rcases Option.map_eq_some_iff.mp found with ⟨⟨inner, left⟩, isInner, same⟩
      cases same
      refine .plain notQuote ?_ (induction isInner)
      -- A backslash that takes no character is the last one, and then nothing closes the quotes.
      rintro rfl
      cases rest with
      | nil => cases isInner
      | cons next others => exact alone next others rfl rfl

theorem Encloses.quoted? (encloses : Encloses quote chars value after) (noEscape : quote ≠ '\\') :
    Expression.quoted? quote chars = some (value, after) := by
  induction encloses with
  | closed after =>
      rw [Expression.quoted?, if_pos rfl]
      exact fun _ _ isEscape => absurd isEscape noEscape
  | escaped char _ induction =>
      rw [Expression.quoted?, induction]
      rfl
  | plain notQuote notEscape _ induction =>
      rw [Expression.quoted?, if_neg notQuote, induction]
      · rfl
      · exact fun _ _ isEscape => absurd isEscape notEscape

theorem Encloses.suffix (encloses : Encloses quote chars value after) : after <:+ chars := by
  induction encloses with
  | closed after => exact List.suffix_cons ..
  | escaped char _ induction =>
      exact induction.trans ((List.suffix_cons ..).trans (List.suffix_cons ..))
  | plain _ _ _ induction => exact induction.trans (List.suffix_cons ..)

theorem Encloses.append (encloses : Encloses quote chars value after) (more : List Char) :
    Encloses quote (chars ++ more) value (after ++ more) := by
  induction encloses with
  | closed after => exact .closed (after ++ more)
  | escaped char _ induction => exact .escaped char induction
  | plain notQuote notEscape _ induction => exact .plain notQuote notEscape induction

theorem quotedLexeme_eq_token (noEscape : quote ≠ '\\') {make : String → Token} {token : Token} :
    quotedLexeme quote make chars = .token token after ↔
      ∃ value, Encloses quote chars value after ∧ make (String.ofList value) = token := by
  constructor
  · intro isToken
    unfold quotedLexeme at isToken
    split at isToken
    · next value left found =>
      cases isToken
      exact ⟨value, encloses_of_quoted? found, rfl⟩
    · cases isToken
  · rintro ⟨value, encloses, rfl⟩
    rw [quotedLexeme, encloses.quoted? noEscape]

end Quotes

theorem suffix_of_symbol? {first : Char} {rest after : List Char} {symbol : Symbol}
    (found : symbol? (first :: rest) = some (symbol, after)) : after <:+ rest := by
  generalize isChars : first :: rest = chars at found
  unfold symbol? at found
  split at found
  all_goals cases found
  all_goals cases isChars
  all_goals simp

/-- Some characters of those that are there are left out. -/
theorem drop_suffix_of_some (first : Char) (rest : List Char) {taken : List Char}
    (some : taken ≠ []) : (first :: rest).drop taken.length <:+ rest := by
  cases taken with
  | nil => exact absurd rfl some
  | cons char chars =>
      rw [List.length_cons, List.drop_succ_cons]
      exact List.drop_suffix ..

theorem isNamePart_of_isNameStart {char : Char} (starts : isNameStart char) : isNamePart char := by
  simp only [isNameStart, Bool.or_eq_true, decide_eq_true_iff] at starts
  simp only [isNamePart, Char.isAlphanum, Bool.or_eq_true, decide_eq_true_iff]
  exact .inl (starts.imp_left .inl)

/-- A token ends before the characters that are left, or it is a number that is too long. -/
theorem lexeme_cases (first : Char) (rest : List Char) :
    (∀ token after, lexeme first rest = .token token after → after <:+ rest) ∧
      ∀ fault, lexeme first rest = .fault fault → LongNumeralIn (first :: rest) := by
  have quoted {quote : Char} (noEscape : quote ≠ '\\') (make : String → Token) :
      (∀ token after, quotedLexeme quote make rest = .token token after → after <:+ rest) ∧
        ∀ fault, quotedLexeme quote make rest = .fault fault → LongNumeralIn (first :: rest) := by
    constructor
    · intro token after isToken
      rcases (quotedLexeme_eq_token noEscape).mp isToken with ⟨_, encloses, _⟩
      exact encloses.suffix
    · intro fault failed
      unfold quotedLexeme at failed
      split at failed <;> cases failed
  unfold lexeme
  split
  · exact quoted (by decide) _
  split
  · exact quoted (by decide) _
  split
  · exact quoted (by decide) _
  unfold plainLexeme
  simp only
  split
  · next symbol after found =>
    refine ⟨?_, fun _ failed => nomatch failed⟩
    rintro _ _ ⟨⟩
    exact suffix_of_symbol? found
  · split
    · next some =>
      rw [Bool.not_eq_true'] at some
      unfold numberLexeme
      split
      · refine ⟨?_, fun _ failed => nomatch failed⟩
        rintro _ _ ⟨⟩
        exact drop_suffix_of_some first rest (List.isEmpty_eq_false_iff.mp some)
      · next failed =>
        exact ⟨fun _ _ isToken => (nomatch isToken), fun _ _ => long_of_numberValue some failed⟩
    · split
      · next starts =>
        refine ⟨?_, fun _ failed => nomatch failed⟩
        rintro _ _ ⟨⟩
        apply drop_suffix_of_some
        rw [List.takeWhile_cons_of_pos (isNamePart_of_isNameStart starts)]
        exact List.cons_ne_nil _ _
      · constructor <;> intros <;> contradiction

/-! ## Expressions -/

theorem faults_tokensFrom (source : String) (steps position : Nat) (chars : List Char) :
    (tokensFrom source steps position chars).FaultsOnly (LongNumeralIn chars) := by
  induction steps generalizing position chars with
  | zero => exact Raises.pure _
  | succ steps induction =>
      cases chars with
      | nil => exact Raises.pure _
      | cons first rest =>
          rcases lexeme_cases first rest with ⟨left, long⟩
          have later {after : List Char} (isSuffix : after <:+ first :: rest) (position : Nat) :
              (tokensFrom source steps position after).FaultsOnly (LongNumeralIn (first :: rest)) :=
            Outcome.FaultsOnly.weaken (induction position after) fun long => long.of_suffix isSuffix
          unfold tokensFrom
          split
          · exact later (List.suffix_cons ..) _
          · split
            · next isToken =>
              have isSuffix := (left _ _ isToken).trans (List.suffix_cons first rest)
              exact Raises.bind (later isSuffix _) fun _ => Raises.pure _
            · exact Outcome.faultsOnly_fail _
            · next failed => exact Raises.error (long _ failed)

/-- Only a whole number that is too long keeps an expression from being read or reported. -/
theorem faults_parse (source : String) : (parse source).FaultsOnly (LongNumeralIn source.toList) := by
  refine Raises.bind (faults_tokensFrom source _ _ _) fun tokens => ?_
  split
  · exact Raises.pure _
  · exact Outcome.faultsOnly_fail _

end TableBrowser.Expression
