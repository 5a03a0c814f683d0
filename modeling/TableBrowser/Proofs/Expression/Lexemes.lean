import Mathlib.Data.List.TakeWhile
import TableBrowser.Proofs.Expression.Reading
/-!
# Texts of tokens

A source is blanks and tokens. A token ends where a blank or a closing parenthesis
follows it, so that texts of tokens can be put together. Main statement: which
tokens a source has does not depend on where in the source they are looked for.
-/

namespace TableBrowser.Expression

/-- No token goes on with the characters. -/
def EndsTokens (chars : List Char) : Prop := ∀ char ∈ chars.head?, char = ' ' ∨ char = ')'

theorem endsTokens_blank (chars : List Char) : EndsTokens (' ' :: chars) := by
  rintro _ ⟨⟩
  exact .inl rfl

theorem endsTokens_closing (chars : List Char) : EndsTokens (')' :: chars) := by
  rintro _ ⟨⟩
  exact .inr rfl

/-! ## Symbols -/

/-- The characters that symbols start with. -/
def symbolStarts : List Char := ['=', '!', '<', '>', '(', ')', '+', '-', '*', '/']

theorem symbol?_eq_none {first : Char} (other : first ∉ symbolStarts) (rest : List Char) :
    symbol? (first :: rest) = none := by
  unfold symbol?
  split
  case h_15 => rfl
  all_goals
    next same =>
      cases same
      exact absurd (by decide) other

theorem symbol?_of_lone_exclamation {rest : List Char} (alone : ∀ others, rest ≠ '=' :: others) :
    symbol? ('!' :: rest) = none := by
  unfold symbol?
  split
  case h_15 => rfl
  case h_2 others same => exact absurd (List.cons.inj same).2 (alone others)
  all_goals next same => cases same

/-! ## Numbers -/

/-- Numbers are written in digits, points, and the letters and signs of exponents. -/
def IsNumeralChar (char : Char) : Prop :=
  Text.isDecimalDigit char = true ∨ char ∈ ['.', 'e', 'E', '+', '-']

/-- The characters start with a part that may be one of a number. -/
def StartsNumeral (part chars : List Char) : Prop :=
  part <+: chars ∧ ∀ char ∈ part, IsNumeralChar char

namespace StartsNumeral

variable {part more chars : List Char}

theorem nil : StartsNumeral [] chars := ⟨List.nil_prefix, nofun⟩

theorem cons {char : Char} (isNumeral : IsNumeralChar char) (starts : StartsNumeral part chars) :
    StartsNumeral (char :: part) (char :: chars) := by
  refine ⟨(List.prefix_cons_inj char).mpr starts.1, ?_⟩
  rw [List.forall_mem_cons]
  exact ⟨isNumeral, starts.2⟩

theorem append (starts : StartsNumeral part chars)
    (goesOn : StartsNumeral more (chars.drop part.length)) : StartsNumeral (part ++ more) chars := by
  rcases starts with ⟨⟨rest, rfl⟩, areNumeral⟩
  rw [List.drop_left] at goesOn
  refine ⟨(List.prefix_append_right_inj part).mpr goesOn.1, ?_⟩
  rw [List.forall_mem_append]
  exact ⟨areNumeral, goesOn.2⟩

theorem digits (chars : List Char) : StartsNumeral (chars.takeWhile Text.isDecimalDigit) chars :=
  ⟨List.takeWhile_prefix _, fun _ member => .inl (List.mem_takeWhile_imp member)⟩

theorem mantissaChars (chars : List Char) : StartsNumeral (mantissaChars chars) chars := by
  unfold Expression.mantissaChars
  simp only
  split
  · next rest isRest =>
    split
    · exact nil
    · refine (digits chars).append ?_
      rw [isRest]
      exact (digits rest).cons (.inr (by decide))
  · exact digits chars

theorem exponentChars (chars : List Char) : StartsNumeral (exponentChars chars) chars := by
  fun_cases Expression.exponentChars chars
  case case1 => exact nil
  case case2 letter rest isLetter sign digits some =>
    have starts : StartsNumeral sign rest := by
      unfold sign
      split
      · exact nil.cons (.inr (by decide))
      · exact nil.cons (.inr (by decide))
      · exact nil
    refine (starts.append (.digits _)).cons (.inr ?_)
    rcases isLetter with rfl | rfl <;> decide
  case case3 => exact nil
  case case4 => exact nil

theorem numberChars (chars : List Char) : StartsNumeral (numberChars chars) chars := by
  unfold Expression.numberChars
  simp only
  split
  · exact nil
  · exact (mantissaChars chars).append (exponentChars _)

end StartsNumeral

/-- The characters are the sign of an exponent whose digits follow. -/
def IsSign (sign rest : List Char) : Prop :=
  sign = ['+'] ∨ sign = ['-'] ∨ sign = [] ∧ (∀ others, rest ≠ '+' :: others) ∧ ∀ others, rest ≠ '-' :: others

theorem exists_isSign (chars : List Char) : ∃ sign rest, chars = sign ++ rest ∧ IsSign sign rest := by
  by_cases plus : ∃ others, chars = '+' :: others
  · rcases plus with ⟨others, rfl⟩
    exact ⟨['+'], others, rfl, .inl rfl⟩
  by_cases minus : ∃ others, chars = '-' :: others
  · rcases minus with ⟨others, rfl⟩
    exact ⟨['-'], others, rfl, .inr (.inl rfl)⟩
  · exact ⟨[], chars, rfl, .inr (.inr ⟨rfl, not_exists.mp plus, not_exists.mp minus⟩)⟩

theorem exponentChars_of_isSign {letter : Char} (isLetter : letter = 'e' ∨ letter = 'E') {sign rest : List Char}
    (isSign : IsSign sign rest) : exponentChars (letter :: (sign ++ rest)) =
      if (rest.takeWhile Text.isDecimalDigit).isEmpty then []
      else letter :: sign ++ rest.takeWhile Text.isDecimalDigit := by
  simp only [exponentChars, if_pos isLetter]
  rcases isSign with rfl | rfl | ⟨rfl, plus, minus⟩
  · rfl
  · rfl
  · rw [List.nil_append]
    split
    · next isPlus => exact absurd rfl (plus _)
    · next isMinus => exact absurd rfl (minus _)
    · rfl

/-! ## Tokens with other characters after them -/

section Append

variable {more : List Char} (ends : EndsTokens more)

include ends

theorem takeWhile_append_of_ends {holds : Char → Bool} (blank : holds ' ' = false)
    (closing : holds ')' = false) (chars : List Char) :
    (chars ++ more).takeWhile holds = chars.takeWhile holds := by
  induction chars with
  | nil =>
      cases more with
      | nil => rfl
      | cons char more =>
          have stops : holds char = false := by rcases ends char rfl with rfl | rfl <;> assumption
          exact List.takeWhile_cons_of_neg (by simp [stops])
  | cons char chars induction =>
      rw [List.cons_append, List.takeWhile_cons, List.takeWhile_cons, induction]

theorem ne_append_of_ends {first : Char} (other : first ≠ ' ' ∧ first ≠ ')')
    {chars : List Char} (different : ∀ rest, chars ≠ first :: rest) (rest : List Char) :
    chars ++ more ≠ first :: rest := by
  intro same
  cases chars with
  | nil =>
      subst same
      exact absurd (ends first rfl) (by simp [other])
  | cons char chars =>
      cases same
      exact different chars rfl

theorem symbol?_append {chars : List Char} (some : chars ≠ []) :
    symbol? (chars ++ more) =
      (symbol? chars).map fun (symbol, after) => (symbol, after ++ more) := by
  fun_cases symbol? chars
  case case6 rest single =>
    rw [List.cons_append, symbol?]
    · rfl
    · exact ne_append_of_ends ends (by decide) single
  case case7 rest single =>
    rw [List.cons_append, symbol?]
    · rfl
    · exact ne_append_of_ends ends (by decide) single
  case case8 rest single other =>
    rw [List.cons_append, symbol?]
    · rfl
    · exact ne_append_of_ends ends (by decide) single
    · exact ne_append_of_ends ends (by decide) other
  case case15 => 
    rcases List.exists_cons_of_ne_nil some with ⟨first, rest, rfl⟩
    by_cases isMark : first = '!'
    · subst isMark
      have single : ∀ others, rest ≠ '=' :: others := by
        rintro others rfl
        simp_all
      exact symbol?_of_lone_exclamation (ne_append_of_ends ends (by decide) single)
    · exact symbol?_eq_none (by simp_all [symbolStarts]) _
  all_goals rfl
theorem mantissaChars_append (chars : List Char) :
    mantissaChars (chars ++ more) = mantissaChars chars := by
  have digits (chars : List Char) : (chars ++ more).takeWhile Text.isDecimalDigit =
      chars.takeWhile Text.isDecimalDigit := takeWhile_append_of_ends ends rfl rfl chars
  have within : (chars.takeWhile Text.isDecimalDigit).length ≤ chars.length :=
    (List.takeWhile_prefix _).length_le
  unfold mantissaChars
  simp only [digits, List.drop_append_of_le_length within]
  cases chars.drop (chars.takeWhile Text.isDecimalDigit).length with
  | nil =>
      cases more with
      | nil => rfl
      | cons char more => rcases ends char rfl with rfl | rfl <;> rfl
  | cons char rest =>
      by_cases isPoint : char = '.'
      · subst isPoint
        simp only [List.cons_append, digits]
      · simp [isPoint]

theorem exponentChars_append (chars : List Char) :
    exponentChars (chars ++ more) = exponentChars chars := by
  have digits (chars : List Char) : (chars ++ more).takeWhile Text.isDecimalDigit =
      chars.takeWhile Text.isDecimalDigit := takeWhile_append_of_ends ends rfl rfl chars
  cases chars with
  | nil =>
      cases more with
      | nil => rfl
      | cons char more => rcases ends char rfl with rfl | rfl <;> rfl
  | cons letter chars =>
      by_cases isLetter : letter = 'e' ∨ letter = 'E'
      · rcases exists_isSign chars with ⟨sign, rest, rfl, isSign⟩
        have stillSign : IsSign sign (rest ++ more) := by
          refine isSign.imp_right (Or.imp_right fun ⟨empty, plus, minus⟩ => ⟨empty, ?_, ?_⟩)
          · exact ne_append_of_ends ends (by decide) plus
          · exact ne_append_of_ends ends (by decide) minus
        rw [List.cons_append, List.append_assoc, exponentChars_of_isSign isLetter stillSign,
          exponentChars_of_isSign isLetter isSign, digits]
      · simp only [List.cons_append, exponentChars, if_neg isLetter]

theorem numberChars_append (chars : List Char) : numberChars (chars ++ more) = numberChars chars := by
  have within := (StartsNumeral.mantissaChars chars).1.length_le
  simp only [numberChars, mantissaChars_append ends, List.drop_append_of_le_length within,
    exponentChars_append ends]

theorem plainLexeme_append {first : Char} {rest after : List Char} {token : Token}
    (isToken : plainLexeme first rest = .token token after) :
    plainLexeme first (rest ++ more) = .token token (after ++ more) := by
  have sameSymbol := symbol?_append ends (List.cons_ne_nil first rest)
  have sameNumber := numberChars_append ends (first :: rest)
  have sameWord : (first :: rest ++ more).takeWhile isNamePart = (first :: rest).takeWhile isNamePart :=
    takeWhile_append_of_ends ends rfl rfl _
  have numberWithin := (StartsNumeral.numberChars (first :: rest)).1.length_le
  have wordWithin := (List.takeWhile_prefix (l := first :: rest) isNamePart).length_le
  rw [List.cons_append] at sameSymbol sameNumber sameWord
  unfold plainLexeme at isToken ⊢
  simp only [sameSymbol, sameNumber, sameWord] at isToken ⊢
  rw [← List.cons_append, List.drop_append_of_le_length numberWithin,
    List.drop_append_of_le_length wordWithin]
  cases found : symbol? (first :: rest) with
  | some pair =>
      rw [found] at isToken
      cases isToken
      rfl
  | none =>
      simp only [found, Option.map_none] at isToken ⊢
      split at isToken
      · next isNumber =>
        rw [if_pos isNumber]
        unfold numberLexeme at isToken ⊢
        split at isToken
        · cases isToken
          rfl
        · cases isToken
      · next notNumber =>
        rw [if_neg notNumber]
        split at isToken
        · next starts =>
          cases isToken
          rw [if_pos starts]
        · cases isToken

/-- A token stays the same where no token goes on. -/
theorem lexeme_append {first : Char} {rest after : List Char} {token : Token}
    (isToken : lexeme first rest = .token token after) :
    lexeme first (rest ++ more) = .token token (after ++ more) := by
  have quoted {quote : Char} (noEscape : quote ≠ '\\') {make : String → Token}
      (isQuoted : quotedLexeme quote make rest = .token token after) :
      quotedLexeme quote make (rest ++ more) = .token token (after ++ more) := by
    rcases (quotedLexeme_eq_token noEscape).mp isQuoted with ⟨value, encloses, made⟩
    exact (quotedLexeme_eq_token noEscape).mpr ⟨value, encloses.append more, made⟩
  unfold lexeme at isToken ⊢
  split_ifs at isToken ⊢
  · exact quoted (by decide) isToken
  · exact quoted (by decide) isToken
  · exact quoted (by decide) isToken
  · exact plainLexeme_append ends isToken

end Append

/-! ## Sources -/

/-- The characters are blanks and the tokens. -/
inductive Spelled : List Char → List Token → Prop
  | nil : Spelled [] []
  | blank {char : Char} {chars : List Char} {tokens : List Token}
      (isBlank : Text.isBlank char = true) (spelled : Spelled chars tokens) :
      Spelled (char :: chars) tokens
  | token {first : Char} {rest after : List Char} {token : Token} {tokens : List Token}
      (visible : Text.isBlank first = false) (isToken : lexeme first rest = .token token after)
      (spelled : Spelled after tokens) : Spelled (first :: rest) (token :: tokens)

theorem Spelled.append {chars more : List Char} {tokens others : List Token}
    (spelled : Spelled chars tokens) (ends : EndsTokens more) (moreSpelled : Spelled more others) :
    Spelled (chars ++ more) (tokens ++ others) := by
  induction spelled with
  | nil => exact moreSpelled
  | blank isBlank _ induction => exact .blank isBlank induction
  | token visible isToken _ induction => exact .token visible (lexeme_append ends isToken) induction

/-- Where there is a token, not all is blank. -/
theorem Spelled.exists_visible {chars : List Char} {tokens : List Token}
    (spelled : Spelled chars tokens) (some : tokens ≠ []) :
    ∃ char ∈ chars, Text.isBlank char = false := by
  induction spelled with
  | nil => exact absurd rfl some
  | blank _ _ induction =>
      rcases induction some with ⟨char, member, visible⟩
      exact ⟨char, List.mem_cons_of_mem _ member, visible⟩
  | token visible => exact ⟨_, List.mem_cons_self, visible⟩

theorem spelled_nil_iff {tokens : List Token} : Spelled [] tokens ↔ tokens = [] := by
  constructor
  · rintro ⟨⟩
    rfl
  · rintro rfl
    exact .nil

theorem spelled_blank_iff {char : Char} (isBlank : Text.isBlank char = true) {chars : List Char}
    {tokens : List Token} : Spelled (char :: chars) tokens ↔ Spelled chars tokens := by
  constructor
  · rintro (_ | ⟨_, spelled⟩ | ⟨visible, _, _⟩)
    · exact spelled
    · simp [isBlank] at visible
  · exact .blank isBlank

theorem spelled_visible_iff {first : Char} (visible : Text.isBlank first = false) {rest : List Char}
    {tokens : List Token} : Spelled (first :: rest) tokens ↔ ∃ token after others,
      lexeme first rest = .token token after ∧ tokens = token :: others ∧ Spelled after others := by
  constructor
  · rintro (_ | ⟨isBlank, _⟩ | ⟨_, isToken, later⟩)
    · simp [isBlank] at visible
    · exact ⟨_, _, _, isToken, rfl, later⟩
  · rintro ⟨token, after, others, isToken, rfl, later⟩
    exact .token visible isToken later

/-- Every token takes a character, so that as many steps as characters find all of them. -/
theorem tokensFrom_iff (source : String) {steps position : Nat} {chars : List Char}
    (enough : chars.length ≤ steps) {spelled : List Token} :
    (∃ placed, tokensFrom source steps position chars = .ok placed ∧ placed.map (·.token) = spelled) ↔
      Spelled chars spelled := by
  induction steps generalizing position chars spelled with
  | zero =>
      rw [List.length_eq_zero_iff.mp (Nat.le_zero.mp enough), spelled_nil_iff]
      simp [tokensFrom, eq_comm]
  | succ steps induction =>
      cases chars with
      | nil =>
          rw [spelled_nil_iff]
          simp [tokensFrom, eq_comm]
      | cons first rest =>
          have within : rest.length ≤ steps := Nat.le_of_succ_le_succ enough
          unfold tokensFrom
          split
          · next isBlank => rw [induction within, spelled_blank_iff isBlank]
          · next visible =>
            rw [spelled_visible_iff (Bool.not_eq_true _ ▸ visible)]
            split
            · next token after isToken =>
              have shorter := ((lexeme_cases first rest).1 _ _ isToken).length_le
              have laterIff {position : Nat} {others : List Token} :
                  (∃ placed, tokensFrom source steps position after = .ok placed ∧
                    placed.map (·.token) = others) ↔ Spelled after others :=
                induction (Nat.le_trans shorter within)
              constructor
              · rintro ⟨placed, isPlaced, rfl⟩
                rcases bind_eq_ok.mp isPlaced with ⟨later, isLater, made⟩
                cases made
                exact ⟨token, after, _, isToken, rfl, laterIff.mp ⟨later, isLater, rfl⟩⟩
              · rintro ⟨_, _, others, same, rfl, spelled⟩
                cases isToken.symm.trans same
                rcases laterIff.mpr spelled with ⟨later, isLater, rfl⟩
                exact ⟨_, bind_eq_ok.mpr ⟨later, isLater, rfl⟩, rfl⟩
            · next isProblem => simp [isProblem, Outcome.fail]
            · next isFault => simp [isFault, Outcome.fault]

theorem exists_tokens_iff {source : String} {spelled : List Token} :
    (∃ placed, tokens source = .ok placed ∧ placed.map (·.token) = spelled) ↔
      Spelled source.toList spelled :=
  tokensFrom_iff source (Nat.le_succ _)

end TableBrowser.Expression
