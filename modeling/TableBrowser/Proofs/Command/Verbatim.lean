import TableBrowser.Proofs.Command.Words
import TableBrowser.Proofs.Expression.Lexemes
import TableBrowser.Proofs.Workspace.Execution
/-!
# Conditions on a command line

A condition is read twice: as the rest of a line that is split into words, and
as an expression. In double quotes both take what follows a backslash as it is,
but in single quotes only the expression does, and backticks mean nothing to the
line. Main statement: a filter takes a condition as it is written exactly when
the condition can be split and is not quoted as a whole; it can be split when
what stands between its single quotes and backticks does not open or close
quotes itself.
-/

namespace TableBrowser

open Words (IsMark IsWord Splits StartsPlain isQuote wordsFrom)

/-! ## The rest of a line -/

namespace Text

theorem rdropWhile_append {holds : Char → Bool} (first second : List Char) :
    (first ++ second).rdropWhile holds =
      if second.rdropWhile holds = [] then first.rdropWhile holds
      else first ++ second.rdropWhile holds := by
  simp only [List.rdropWhile, List.reverse_append, List.dropWhile_append, List.isEmpty_iff,
    List.reverse_eq_nil_iff]
  split
  · rfl
  · rw [List.reverse_append, List.reverse_reverse]

/-- Blanks at the end of what is trimmed do not count. -/
theorem trimChars_rdropWhile (chars : List Char) :
    trimChars (chars.rdropWhile isBlank) = trimChars chars := by
  have split := List.rdropWhile_append_rtakeWhile (p := isBlank) (l := chars)
  have blank : ∀ char ∈ chars.rtakeWhile isBlank, isBlank char :=
    fun _ member => List.mem_rtakeWhile_imp member
  have trimmed (rest : List Char) : trimChars rest = (rest.dropWhile isBlank).rdropWhile isBlank := rfl
  rw [trimmed, trimmed]
  conv_rhs => rw [← split]
  rw [List.dropWhile_append]
  split
  · next isNil =>
    rw [List.isEmpty_iff.mp isNil, List.dropWhile_eq_nil_iff.mpr blank]
  · rw [rdropWhile_append, if_pos (List.rdropWhile_eq_nil_iff.mpr blank)]

theorem trimChars_dropWhile (chars : List Char) :
    trimChars (chars.dropWhile isBlank) = trimChars chars := by
  change List.rdropWhile isBlank (List.dropWhile isBlank (chars.dropWhile isBlank)) = _
  rw [List.dropWhile_idempotent]
  rfl

end Text

namespace Command

variable {name rest : String}

theorem trimChars_toList (trimmed : Text.trim rest = rest) :
    Text.trimChars rest.toList = rest.toList := by
  rw [← String.toList_inj, Text.trim, String.toList_ofList] at trimmed
  exact trimmed

theorem toList_cons (name rest : String) :
    (name ++ " " ++ rest).toList = name.toList ++ ' ' :: rest.toList := by simp

theorem dropWhile_isBlank_cons (isWord : IsWord name) (chars : List Char) :
    (name.toList ++ chars).dropWhile Text.isBlank = name.toList ++ chars := by
  cases isName : name.toList with
  | nil => exact absurd isName isWord.some
  | cons first others =>
      have visible := isWord.visible
      rw [isName, List.forall_mem_cons] at visible
      rw [List.cons_append, List.dropWhile_cons_of_neg (by simp [visible.1])]

theorem rdropWhile_isBlank_self (isWord : IsWord name) :
    name.toList.rdropWhile Text.isBlank = name.toList := by
  rw [List.rdropWhile_eq_self_iff]
  intro some
  rw [isWord.visible _ (List.getLast_mem some)]
  exact Bool.false_ne_true

theorem rdropWhile_isBlank_name (isWord : IsWord name) :
    (name.toList ++ [' ']).rdropWhile Text.isBlank = name.toList := by
  rw [List.rdropWhile_concat_pos _ _ _ (by decide), rdropWhile_isBlank_self isWord]

theorem trim_name (isWord : IsWord name) : Text.trim name = name := by
  have start := dropWhile_isBlank_cons isWord []
  rw [List.append_nil] at start
  change String.ofList (List.rdropWhile Text.isBlank (List.dropWhile _ _)) = _
  rw [start, rdropWhile_isBlank_self isWord, String.ofList_toList]

/-- A line without the blanks around it: those at its end may stand after its only word. -/
theorem trimChars_cons (isWord : IsWord name) (chars : List Char) :
    Text.trimChars (name.toList ++ ' ' :: chars) =
      if chars.rdropWhile Text.isBlank = [] then name.toList
      else name.toList ++ ' ' :: chars.rdropWhile Text.isBlank := by
  have line : name.toList ++ ' ' :: chars = (name.toList ++ [' ']) ++ chars := by simp
  change List.rdropWhile Text.isBlank (List.dropWhile _ _) = _
  rw [dropWhile_isBlank_cons isWord, line, Text.rdropWhile_append, rdropWhile_isBlank_name isWord]
  split
  · rfl
  · rw [List.append_assoc, List.singleton_append]

theorem trim_cons (isWord : IsWord name) (trimmed : Text.trim rest = rest) (nonempty : rest ≠ "") :
    Text.trim (name ++ " " ++ rest) = name ++ " " ++ rest := by
  have visible := Text.rdropWhile_of_trimmed (trimChars_toList trimmed)
  rw [Text.trim, toList_cons, trimChars_cons isWord, visible, if_neg (by simpa using nonempty),
    ← toList_cons, String.ofList_toList]

theorem splitFirstWord_cons (isWord : IsWord name) (chars : List Char) :
    Text.splitFirstWord (name.toList ++ ' ' :: chars) =
      (name.toList, chars.dropWhile Text.isBlank) := by
  have word : (name.toList ++ ' ' :: chars).takeWhile (!Text.isBlank ·) = name.toList := by
    rw [List.takeWhile_append_of_pos fun char member => by simp [isWord.visible char member],
      List.takeWhile_cons_of_neg (by decide), List.append_nil]
  rw [Text.splitFirstWord, dropWhile_isBlank_cons isWord, word, List.drop_left,
    List.dropWhile_cons_of_pos rfl]

theorem splitFirstWord_name (isWord : IsWord name) :
    Text.splitFirstWord name.toList = (name.toList, []) := by
  have line := dropWhile_isBlank_cons isWord []
  have word : name.toList.takeWhile (!Text.isBlank ·) = name.toList :=
    List.takeWhile_eq_self_iff.mpr fun char member => by simp [isWord.visible char member]
  rw [List.append_nil] at line
  rw [Text.splitFirstWord, line, word, List.drop_length, List.dropWhile_nil]

/-- What follows the verb of a line is its rest. -/
theorem restOfLine_cons (isWord : IsWord name) (rest : String) :
    restOfLine (name ++ " " ++ rest) = Text.trim rest := by
  have chars : (Text.splitFirstWord (Text.trimChars (name ++ " " ++ rest).toList)).2 =
      (rest.toList.rdropWhile Text.isBlank).dropWhile Text.isBlank := by
    rw [toList_cons, trimChars_cons isWord]
    split
    · next isNil => rw [splitFirstWord_name isWord, isNil, List.dropWhile_nil]
    · rw [splitFirstWord_cons isWord]
  rw [restOfLine, Text.trim, Text.trim, String.toList_ofList, String.toList_ofList, chars,
    Text.trimChars_dropWhile, Text.trimChars_rdropWhile, Text.trim]

/-- The rest of a line that starts with a verb gives the arguments, and is the text for the verb. -/
theorem parse_cons (suggestion : Suggestion) {verb : Verb} (isVerb : Verb.ofName? name = some verb)
    (isWord : IsWord name) (rest : String) :
    parse suggestion (name ++ " " ++ rest) = (do
      let arguments ← Words.split rest
      let raw ← if verb.takesExpression then Words.unquote (Text.trim rest) else pure (Text.trim rest)
      return { verb, arguments, raw }) := by
  unfold parse
  rw [Words.split_cons isWord rest, restOfLine_cons isWord]
  cases Words.split rest with
  | error problem => rfl
  | ok words =>
      simp only [Except.map, bind, Except.bind, lookUp, isVerb]
      rfl

end Command

/-! ## Tokens without quotes -/

namespace Expression

theorem IsNumeralChar.plain {char : Char} (isNumeral : IsNumeralChar char) : ¬ IsMark char := by
  rcases isNumeral with digit | other
  · exact Words.not_isMark_of (by decide) digit
  · simp only [List.mem_cons, List.not_mem_nil, or_false] at other
    rcases other with rfl | rfl | rfl | rfl | rfl <;> decide

theorem startsPlain_numberChars (chars : List Char) : StartsPlain (numberChars chars) chars := by
  have starts := StartsNumeral.numberChars chars
  exact ⟨starts.1, fun char member => (starts.2 char member).plain⟩

theorem splits_of_symbol? {chars after : List Char} {symbol : Symbol}
    (found : symbol? chars = some (symbol, after)) (splits : Splits after) : Splits chars := by
  have one {char : Char} (plain : ¬ IsMark char) : Splits (char :: after) := splits.cons plain
  unfold symbol? at found
  split at found
  all_goals cases found
  all_goals
    first
    | exact (one (by decide)).cons (by decide)
    | exact one (by decide)

/-- What is not quoted neither escapes nor opens quotes. -/
theorem splits_of_plainLexeme {first : Char} {rest after : List Char} {token : Token}
    (found : plainLexeme first rest = .token token after) (splits : Splits after) :
    Splits (first :: rest) := by
  unfold plainLexeme at found
  simp only at found
  split at found
  · next isSymbol =>
    cases found
    exact splits_of_symbol? isSymbol splits
  split at found
  · unfold numberLexeme at found
    split at found
    · cases found
      exact (startsPlain_numberChars _).splits splits
    · cases found
  split at found
  · cases found
    exact (Words.startsPlain_takeWhile (fun _ => Words.not_isMark_of (by decide)) _).splits splits
  · cases found

/-! ## Quotes -/

/-- In single quotes only an expression takes what follows a backslash as it is. -/
theorem splits_of_single {chars value after : List Char}
    (encloses : Encloses '\'' chars value after) (bare : '\'' ∉ value) (splits : Splits after) :
    Splits ('\'' :: chars) := by
  have inside {char : Char} (other : char ≠ '\'') (word rest : List Char) :
      wordsFrom (.inQuotes .single) word (char :: rest) =
        wordsFrom (.inQuotes .single) (word ++ [char]) rest := by
    rw [wordsFrom, Words.Quote.char, if_neg other, if_neg (by simp)]
  refine @Words.splits_cons_quote .single chars ?_
  -- By the expression's quotes, whatever the line has of its word by then.
  induction encloses with
  | closed after => exact splits.2
  | escaped char _ induction =>
      rw [List.mem_cons, not_or] at bare
      intro word
      rw [inside (by decide), inside (Ne.symm bare.1)]
      exact induction bare.2 splits _
  | plain notQuote _ _ induction =>
      intro word
      rw [inside notQuote]
      exact induction (fun member => bare (List.mem_cons_of_mem _ member)) splits _

theorem splits_of_double {chars value after : List Char}
    (encloses : Encloses '"' chars value after) (splits : Splits after) :
    Splits ('"' :: chars) := by
  refine @Words.splits_cons_quote .double chars ?_
  induction encloses with
  | closed after => exact splits.2
  | escaped char _ induction =>
      intro word
      rw [wordsFrom, if_neg (by decide), if_pos ⟨rfl, rfl⟩, wordsFrom]
      exact induction splits _
  | plain notQuote notEscape _ induction =>
      intro word
      rw [wordsFrom, Words.Quote.char, if_neg notQuote, if_neg fun escapes => notEscape escapes.1]
      exact induction splits _

/-- To a line backticks are characters like any other. -/
theorem splits_of_backticks {chars value after : List Char}
    (encloses : Encloses '\x60' chars value after) (bare : ∀ char ∈ value, ¬ isQuote char)
    (splits : Splits after) : Splits ('\x60' :: chars) := by
  refine Splits.cons (by decide) ?_
  induction encloses with
  | closed after => exact splits.cons (by decide)
  | escaped char _ induction =>
      rw [List.forall_mem_cons] at bare
      exact (induction bare.2 splits).cons_escaped char
  | plain _ notEscape _ induction =>
      rw [List.forall_mem_cons] at bare
      refine (induction bare.2 splits).cons ?_
      rintro (escapes | opens)
      · exact notEscape escapes
      · exact bare.1 opens

/-! ## Tokens -/

/-- What a token encloses does not open or close quotes in a line; the character starts the token. -/
structure Token.Bare (first : Char) (token : Token) : Prop where
  text : first = '\'' → '\'' ∉ token.shown.toList
  name : first = '\x60' → ∀ char ∈ token.shown.toList, ¬ isQuote char

theorem splits_of_lexeme {first : Char} {rest after : List Char} {token : Token}
    (found : lexeme first rest = .token token after) (bare : token.Bare first)
    (splits : Splits after) : Splits (first :: rest) := by
  unfold lexeme at found
  split at found
  · next isFirst =>
    rcases (quotedLexeme_eq_token (by decide)).mp found with ⟨value, encloses, rfl⟩
    have inside := bare.text isFirst
    rw [Token.shown, String.toList_ofList] at inside
    rw [isFirst]
    exact splits_of_single encloses inside splits
  split at found
  · next isFirst =>
    rcases (quotedLexeme_eq_token (by decide)).mp found with ⟨value, encloses, rfl⟩
    rw [isFirst]
    exact splits_of_double encloses splits
  split at found
  · next isFirst =>
    rcases (quotedLexeme_eq_token (by decide)).mp found with ⟨value, encloses, rfl⟩
    have inside := bare.name isFirst
    rw [Token.shown, String.toList_ofList] at inside
    rw [isFirst]
    exact splits_of_backticks encloses inside splits
  · exact splits_of_plainLexeme found splits

/-- The tokens of a source are bare where they stand in it. -/
def BareIn (source : String) (tokens : List PlacedToken) : Prop :=
  ∀ placed ∈ tokens, ∀ first, source.toList[placed.position]? = some first → placed.token.Bare first

/-- The words of a line are found along the tokens of the expression in it. -/
theorem splits_of_tokensFrom {source : String} {steps position : Nat} {chars : List Char}
    {tokens : List PlacedToken} (isRest : source.toList.drop position = chars)
    (enough : chars.length < steps) (made : tokensFrom source steps position chars = .ok tokens)
    (bare : BareIn source tokens) : Splits chars := by
  induction steps generalizing position chars tokens with
  | zero => exact absurd enough (Nat.not_lt_zero _)
  | succ steps induction =>
      cases chars with
      | nil => exact .nil
      | cons first rest =>
          have later : source.toList.drop (position + 1) = rest := by
            rw [← List.drop_drop, isRest, List.drop_one, List.tail_cons]
          rw [List.length_cons] at enough
          unfold tokensFrom at made
          split at made
          · next blank =>
            refine (induction later (by omega) made bare).cons ?_
            exact Words.not_isMark_of (by decide) blank
          · split at made
            · next token after isLexeme =>
              rcases bind_eq_ok.mp made with ⟨others, areOthers, isTokens⟩
              cases isTokens
              have isSuffix := (lexeme_cases first rest).1 token after isLexeme
              have fewer := isSuffix.length_le
              have isAfter :
                  source.toList.drop (position + (rest.length + 1 - after.length)) = after := by
                rw [← List.drop_drop, isRest, Nat.sub_add_comm fewer, List.drop_succ_cons]
                exact (List.suffix_iff_eq_drop.mp isSuffix).symm
              have starts : source.toList[position]? = some first := by
                rw [← List.head?_drop, isRest, List.head?_cons]
              unfold BareIn at bare
              rw [List.forall_mem_cons] at bare
              -- Where a token ends the line is not in quotes, so it can be split from there on.
              refine splits_of_lexeme isLexeme (bare.1 first starts) ?_
              exact induction isAfter (by omega) areOthers bare.2
            · cases made
            · cases made

theorem splits_of_tokens {source : String} {placed : List PlacedToken}
    (made : tokens source = .ok placed) (bare : BareIn source placed) : Splits source.toList :=
  splits_of_tokensFrom rfl (Nat.lt_succ_self _) made bare

theorem ne_empty_of_parse {source : String} {expression : Expression}
    (accepted : parse source = .ok expression) : source ≠ "" := by
  rintro rfl
  cases accepted

end Expression

/-! ## Filters -/

namespace Command

theorem isWord_filter : IsWord "filter" := Words.isWord_of_all (by decide) (by decide)

/-- A filter takes its condition as it is written when taking off quotes does not change it. -/
theorem filter_eq_ok_iff (suggestion : Suggestion) {source : String}
    (trimmed : Text.trim source = source) :
    (∃ arguments, parse suggestion ("filter " ++ source) = .ok ⟨.filter, arguments, source⟩) ↔
      ∃ words, Words.split source = .ok words ∧ Words.unquote source = .ok source := by
  have line : "filter " ++ source = "filter" ++ " " ++ source := rfl
  have isVerb : Verb.ofName? "filter" = some .filter := by decide
  rw [line, parse_cons suggestion isVerb isWord_filter, trimmed]
  constructor
  · rintro ⟨arguments, parsed⟩
    rcases bind_eq_ok.mp parsed with ⟨words, split, later⟩
    rcases bind_eq_ok.mp later with ⟨raw, isRaw, made⟩
    cases made
    exact ⟨arguments, split, isRaw⟩
  · rintro ⟨words, split, isRaw⟩
    exact ⟨words, bind_eq_ok.mpr ⟨words, split, bind_eq_ok.mpr ⟨source, isRaw, rfl⟩⟩⟩

end Command

namespace Execution

/-- The line of a filter that is taken as it is written pushes a step with this condition. -/
theorem run_execute_filter {workspace : Workspace} {source : String} {arguments : List String}
    (nonempty : source ≠ "") (isCommand :
      workspace.commandOf ("filter " ++ source) = .ok ⟨.filter, arguments, source⟩)
    (isRecorded : Bool) :
    Act.execute ("filter " ++ source) isRecorded workspace =
      (tryCatch (Act.pushStep (.ofParams "filter" [("where", .text source)]) >>= fun _ =>
        pure { message := "filter " ++ source }) failed : Act Reply)
          (workspace.noting ("filter " ++ source) isRecorded) := by
  have some : source.isEmpty = false := by simpa using nonempty
  have performed : perform ⟨.filter, arguments, source⟩ =
      (Act.pushStep (.ofParams "filter" [("where", .text source)]) >>= fun _ =>
        pure { message := "filter " ++ source }) := by
    change (requireRaw ⟨.filter, arguments, source⟩ "an expression" >>= _) = _
    rw [requireRaw, some]
    rfl
  rw [Act.run_execute, isCommand, ← performed]
  rfl

end Execution

namespace Command

/--
A condition that is an expression, without blanks around it, is taken as it is
written exactly when it can be split into words and is not quoted as a whole. It
can be split when its tokens are bare. What is taken as it is written is the
condition of the step that is pushed.
-/
theorem filter_verbatim_iff (suggestion : Suggestion) {source : String}
    (trimmed : Text.trim source = source)
    (accepted : ∃ expression, Expression.parse source = .ok expression) :
    ((∃ arguments, parse suggestion ("filter " ++ source) = .ok ⟨.filter, arguments, source⟩) ↔
      ∃ words, Words.split source = .ok words ∧ (Words.IsEnclosed source → words.length ≠ 1)) ∧
    (∀ placed, Expression.tokens source = .ok placed → Expression.BareIn source placed →
      ∃ words, Words.split source = .ok words) ∧
    ∀ (workspace : Workspace) (arguments : List String) (isRecorded : Bool),
      workspace.commandOf ("filter " ++ source) = .ok ⟨.filter, arguments, source⟩ →
      Act.execute ("filter " ++ source) isRecorded workspace =
        (tryCatch (Act.pushStep (.ofParams "filter" [("where", .text source)]) >>= fun _ =>
          pure { message := "filter " ++ source }) Execution.failed : Act Reply)
            (workspace.noting ("filter " ++ source) isRecorded) := by
  rcases accepted with ⟨expression, accepted⟩
  have nonempty := Expression.ne_empty_of_parse accepted
  refine ⟨?_, fun placed made bare => (Expression.splits_of_tokens made bare).split,
    fun workspace arguments isRecorded isCommand =>
      Execution.run_execute_filter nonempty isCommand isRecorded⟩
  rw [filter_eq_ok_iff suggestion trimmed]
  refine exists_congr fun words => and_congr_right fun split => ?_
  exact Words.unquote_eq_self_iff split

theorem filter_verbatim_name : ∃ arguments, parse ⟨.ofRatio false 3 5, 3⟩ "filter name == 'it'" =
    .ok ⟨.filter, arguments, "name == 'it'"⟩ := by
  have verbatim := filter_verbatim_iff ⟨.ofRatio false 3 5, 3⟩
    (rfl : Text.trim "name == 'it'" = "name == 'it'")
    ⟨.comparison .equal (.column "name" 0) (.literal (.text "it")), rfl⟩
  exact verbatim.1.mpr ⟨["name", "==", "it"], rfl, fun _ => by decide⟩

/-- An escaped quote closes single quotes in a line, and what is one word loses its outer quotes. -/
theorem filter_not_verbatim :
    Text.trim "name == 'it\\'s'" = "name == 'it\\'s'" ∧
    Expression.parse "name == 'it\\'s'" =
      .ok (.comparison .equal (.column "name" 0) (.literal (.text "it's"))) ∧
    (∀ suggestion, parse suggestion "filter name == 'it\\'s'" =
      Outcome.fail (.command (.words .noClosingQuote))) ∧
    Text.trim "'a'=='a'" = "'a'=='a'" ∧
    Expression.parse "'a'=='a'" =
      .ok (.comparison .equal (.literal (.text "a")) (.literal (.text "a"))) ∧
    ∀ suggestion, parse suggestion "filter 'a'=='a'" = .ok ⟨.filter, ["a==a"], "a==a"⟩ :=
  ⟨rfl, rfl, fun _ => rfl, rfl, rfl, fun _ => rfl⟩

end Command

end TableBrowser
