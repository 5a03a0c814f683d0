import TableBrowser.Proofs.Command.Verbatim
import TableBrowser.Proofs.Workspace.Visits
/-!
# Texts that are searched for

After its options a search takes off the quotes around its text. But quotes around all
that follows the verb have been taken off before, and so what they enclose is read again
for blanks, options and quotes. Main statement: a text in quotes is searched for as it is
exactly when it has no blanks around it, starts with no option and is not quoted itself;
after the mark that ends the options it always is. Without quotes around it, the text must
be one that can be split into words, too.
-/

namespace TableBrowser

/-! ## Quotes around a text -/

namespace Words

variable {text : String}

/-- A character between single quotes; a single quote stands between double quotes. -/
def quotedChar (char : Char) : List Char :=
  if char = '\'' then ['\'', '"', '\'', '"', '\''] else [char]

/-- A text in single quotes, which makes it one word. -/
def quoted (text : String) : String :=
  String.ofList ('\'' :: (text.toList.flatMap quotedChar ++ ['\'']))

theorem wordsFrom_quotedChar (char : Char) (word rest : List Char) :
    wordsFrom (.inQuotes .single) word (quotedChar char ++ rest) =
      wordsFrom (.inQuotes .single) (word ++ [char]) rest := by
  unfold quotedChar
  split
  · next isQuote =>
    -- The quotes are left, the character is read between double quotes, and quotes open again.
    subst isQuote
    simp [wordsFrom, isSeparator, placeAfter, contribution, Quote.char]
  · next other =>
    rw [List.singleton_append, wordsFrom, Quote.char, if_neg other, if_neg (by simp)]

theorem wordsFrom_quotedChars (chars word rest : List Char) :
    wordsFrom (.inQuotes .single) word (chars.flatMap quotedChar ++ rest) =
      wordsFrom (.inQuotes .single) (word ++ chars) rest := by
  induction chars generalizing word with
  | nil => rw [List.flatMap_nil, List.nil_append, List.append_nil]
  | cons char chars induction =>
      rw [List.flatMap_cons, List.append_assoc, wordsFrom_quotedChar, induction, List.append_assoc,
        List.singleton_append]

theorem split_quoted (text : String) : split (quoted text) = .ok [text] := by
  rw [split_eq_ok, quoted, String.toList_ofList]
  change wordsFrom (.inQuotes .single) [] _ = _
  rw [wordsFrom_quotedChars, List.nil_append, wordsFrom, if_pos (by rfl), wordsFrom,
    String.ofList_toList]

theorem isEnclosed_quoted (text : String) : IsEnclosed (quoted text) := by
  rw [IsEnclosed, quoted, String.toList_ofList]
  refine ⟨?_, '\'', by decide, rfl, ?_⟩
  · simp
  · rw [← List.cons_append, List.getLast?_concat]

theorem unquote_quoted (text : String) : unquote (quoted text) = .ok text :=
  unquote_of_enclosed (isEnclosed_quoted text) (split_quoted text)

theorem trim_quoted (text : String) : Text.trim (quoted text) = quoted text := by
  rw [Text.trim, quoted, String.toList_ofList]
  congr 1
  change List.rdropWhile Text.isBlank (List.dropWhile _ _) = _
  rw [List.dropWhile_cons_of_neg (by decide), ← List.cons_append,
    List.rdropWhile_concat_neg _ _ _ (by decide)]

theorem quoted_ne_empty (text : String) : quoted text ≠ "" := by
  intro isEmpty
  have chars := congrArg String.toList isEmpty
  rw [quoted, String.toList_ofList] at chars
  cases chars

/-- A text keeps the quotes around it when it can be split, and not into one word. -/
theorem unquote_self_iff : unquote text = .ok text ↔
    (IsEnclosed text → ∃ words, split text = .ok words ∧ words.length ≠ 1) := by
  by_cases enclosed : IsEnclosed text
  · rw [forall_prop_of_true enclosed]
    cases found : split text with
    | error problem => simp [unquote_of_failed enclosed found]
    | ok words => simp [unquote_eq_self_iff found, enclosed]
  · simp [unquote_of_not_enclosed enclosed, enclosed]

end Words

/-! ## Options -/

namespace Command

variable {text : String} {chars rest : List Char} {request after : FindRequest} {steps : Nat}

/-- No option of a search is read at the start of the characters. -/
def NoOption (chars : List Char) : Prop :=
  ∀ flag rest, leadingFlag? chars = some (flag, rest) →
    FindOption.ofFlag? flag = none ∧ ['-', '-'].isPrefixOf flag.toList = false

theorem findOptions_of_noOption (noOption : NoOption chars) (steps : Nat) (request : FindRequest) :
    findOptions steps request chars = .ok (request, chars) := by
  cases steps with
  | zero => rfl
  | succ steps =>
      unfold findOptions
      split
      · rfl
      · next flag rest isFlag =>
        rcases noOption flag rest isFlag with ⟨noName, noPrefix⟩
        have other : flag ≠ "--" := by
          rintro rfl
          cases noPrefix
        rw [if_neg other, noName]
        simp only [noPrefix, Bool.false_eq_true, if_false]
        rfl

/-- What follows a flag is shorter than what starts with it. -/
theorem length_lt_of_leadingFlag? {flag : String} (isFlag : leadingFlag? chars = some (flag, rest)) :
    rest.length < chars.length := by
  unfold leadingFlag? at isFlag
  split at isFlag
  · next others =>
    cases isFlag
    have visible : (!Text.isBlank '-') = true := by decide
    rw [List.takeWhile_cons_of_pos (by simpa using visible), List.length_cons, List.drop_succ_cons,
      List.length_cons]
    have shorter := (List.dropWhile_sublist Text.isBlank (l := others.drop
      (others.takeWhile (!Text.isBlank ·)).length)).length_le
    rw [List.length_drop] at shorter
    omega
  · cases isFlag

/-- No option is taken off the start, or what is left is shorter. -/
theorem findOptions_cases (taken : findOptions steps request chars = .ok (after, rest)) :
    after = request ∧ rest = chars ∧ (steps ≠ 0 → NoOption chars) ∨ rest.length < chars.length := by
  induction steps generalizing request chars with
  | zero =>
      cases taken
      exact .inl ⟨rfl, rfl, fun some => absurd rfl some⟩
  | succ steps induction =>
      unfold findOptions at taken
      split at taken
      · next noFlag =>
        cases taken
        refine .inl ⟨rfl, rfl, fun _ flag rest isFlag => ?_⟩
        rw [noFlag] at isFlag
        cases isFlag
      · next flag left isFlag =>
        have shorter := length_lt_of_leadingFlag? isFlag
        split at taken
        · cases taken
          exact .inr shorter
        · split at taken
          · rcases induction taken with ⟨_, rfl, _⟩ | evenShorter
            · exact .inr shorter
            · exact .inr (evenShorter.trans shorter)
          · next noName =>
            split at taken
            · cases taken
            · next noPrefix =>
              cases taken
              refine .inl ⟨rfl, rfl, fun _ other others isOther => ?_⟩
              cases isFlag.symm.trans isOther
              exact ⟨noName, Bool.not_eq_true _ ▸ noPrefix⟩

/-- A search takes the text as it is. -/
structure Verbatim (text : String) : Prop where
  trimmed : Text.trim text = text
  noOption : NoOption text.toList
  notQuoted : Words.IsEnclosed text →
    ∃ words, Words.split text = .ok words ∧ words.length ≠ 1

theorem Verbatim.findRequest (verbatim : Verbatim text) :
    findRequest text = .ok ⟨text, none, none⟩ := by
  rw [Command.findRequest]
  simp only [findOptions_of_noOption verbatim.noOption, bind, Except.bind, String.ofList_toList,
    verbatim.trimmed, Words.unquote_self_iff.mpr verbatim.notQuoted]
  rfl

/-- Blanks, options and quotes that are taken off a text make it shorter. -/
theorem findRequest_cases (requested : findRequest text = .ok request) :
    request.text = text ∧ Verbatim text ∨ request.text.toList.length < text.toList.length := by
  rw [findRequest] at requested
  rcases bind_eq_ok.mp requested with ⟨⟨options, rest⟩, taken, later⟩
  rcases bind_eq_ok.mp later with ⟨found, unquoted, made⟩
  cases made
  have trimmedLength := Text.length_trim_le (String.ofList rest)
  rw [String.toList_ofList] at trimmedLength
  have foundLength : found.toList.length ≤ (Text.trim (String.ofList rest)).toList.length := by
    rcases Words.unquote_cases unquoted with same | shorter
    · rw [same]
    · exact shorter.le
  rcases findOptions_cases taken with ⟨_, rfl, noOption⟩ | shorter
  · rw [String.ofList_toList] at unquoted foundLength
    rcases Text.trim_cases text with trimmed | shorter
    · rw [trimmed] at unquoted
      rcases Words.unquote_cases unquoted with rfl | shorter
      · exact .inl ⟨rfl, trimmed, noOption (Nat.succ_ne_zero _), Words.unquote_self_iff.mp unquoted⟩
      · exact .inr shorter
    · exact .inr (foundLength.trans_lt shorter)
  · exact .inr (foundLength.trans_lt (trimmedLength.trans_lt shorter))

theorem findRequest_eq_iff : (∃ request, findRequest text = .ok request ∧ request.text = text) ↔
    Verbatim text := by
  constructor
  · rintro ⟨request, requested, same⟩
    rcases findRequest_cases requested with ⟨_, verbatim⟩ | shorter
    · exact verbatim
    · rw [same] at shorter
      exact absurd shorter (Nat.lt_irrefl _)
  · exact fun verbatim => ⟨_, verbatim.findRequest, rfl⟩

/-- Quotes that are still there when options are read protect every text. -/
theorem findRequest_quoted (text : String) : findRequest (Words.quoted text) = .ok ⟨text, none, none⟩ := by
  have noOption : NoOption (Words.quoted text).toList := by
    intro flag rest isFlag
    rw [Words.quoted, String.toList_ofList] at isFlag
    cases isFlag
  rw [findRequest]
  simp only [findOptions_of_noOption noOption, bind, Except.bind, String.ofList_toList,
    Words.trim_quoted, Words.unquote_quoted]
  rfl

theorem findRequest_marked (text : String) :
    findRequest ("-- " ++ Words.quoted text) = .ok ⟨text, none, none⟩ := by
  have chars : ("-- " ++ Words.quoted text).toList =
      '-' :: '-' :: ' ' :: (Words.quoted text).toList := by simp
  have taken (steps : Nat) (request : FindRequest) :
      findOptions (steps + 1) request ('-' :: '-' :: ' ' :: (Words.quoted text).toList) =
        .ok (request, (Words.quoted text).toList) := by
    rw [Words.quoted, String.toList_ofList]
    rfl
  rw [findRequest, chars]
  simp only [taken, bind, Except.bind, String.ofList_toList, Words.trim_quoted, Words.unquote_quoted]
  rfl

end Command

/-! ## Lines -/

namespace Workspace

variable {workspace : Workspace} {line : String} {isRecorded : Bool} {holds : Workspace → Prop}

/-- Executing a line succeeds and leaves a workspace of which something holds. -/
def Executes (workspace : Workspace) (line : String) (isRecorded : Bool)
    (holds : Workspace → Prop) : Prop :=
  ∃ reply after, Act.execute line isRecorded workspace = (.ok reply, after) ∧ reply.error = none ∧
    holds after

/-- A line succeeds when it is a command whose performance does. -/
theorem executes_iff : workspace.Executes line isRecorded holds ↔
    ∃ command reply after, workspace.commandOf line = .ok command ∧
      Execution.perform command (workspace.noting line isRecorded) = (.ok reply, after) ∧
        reply.error = none ∧ holds after := by
  have never {problem : Problem} {other after : Workspace} {reply : Reply}
      (told : Execution.failed problem other = (.ok reply, after)) : reply.error ≠ none := by
    cases problem with
    | failure cause stepIndex =>
        cases told
        exact nofun
    | fault fault => cases told
  unfold Executes
  rw [Act.run_execute, Act.run_tryCatch, Act.run_bind, Act.run_ofOutcome]
  cases workspace.commandOf line with
  | error problem =>
      constructor
      · rintro ⟨reply, after, told, noError, _⟩
        exact absurd noError (never told)
      · rintro ⟨_, _, _, isCommand, _⟩
        cases isCommand
  | ok command =>
      simp only
      rcases ran : Execution.perform command (workspace.noting line isRecorded) with
        ⟨problem | reply, left⟩
      · constructor
        · rintro ⟨reply, after, told, noError, _⟩
          exact absurd noError (never told)
        · rintro ⟨_, _, _, isCommand, performed, _⟩
          cases isCommand
          cases ran.symm.trans performed
      · constructor
        · rintro ⟨_, _, same, noError, isHeld⟩
          cases same
          exact ⟨command, reply, left, rfl, ran, noError, isHeld⟩
        · rintro ⟨_, _, _, isCommand, performed, noError, isHeld⟩
          cases isCommand
          cases ran.symm.trans performed
          exact ⟨reply, left, rfl, noError, isHeld⟩

section Finding

variable {tab : Tab} {request : Command.FindRequest} {found : List Coordinate} {command : Command}

theorem exists_run_showMatch_search (isActive : workspace.activeTab? = some tab)
    (result : Search × Option Coordinate) :
    ∃ shown after, Act.showMatch result workspace = (.ok shown, after) ∧ after.search = result.1 := by
  rcases result with ⟨search, target⟩
  have still : (workspace.withSearch search).activeTab? = some tab := isActive
  cases target with
  | none => exact ⟨_, _, rfl, rfl⟩
  | some cell =>
      simp only [Act.showMatch, Act.run_bind, run_setSearch, run_moveToCell still, run_setStatus,
        Act.run_pure]
      exact ⟨_, _, rfl, rfl⟩

/-- A request for a text that can be searched for is answered. -/
theorem exists_run_findText (isActive : workspace.activeTab? = some tab)
    (requested : Command.findRequest command.raw = .ok request) (given : request.text ≠ "")
    (finds : Search.find workspace.search.threshold (workspace.search.asked request) tab.view =
      .ok found) :
    ∃ reply after, Execution.findText command workspace = (.ok reply, after) ∧ reply.error = none ∧
      after.search = ((workspace.search.answered request found).firstFrom tab.cursor).1 := by
  let answered := workspace.search.answered request found
  have rawGiven : command.raw.isEmpty = false := by
    rw [Bool.eq_false_iff]
    intro isEmpty
    rw [String.isEmpty_iff.mp isEmpty, findRequest_empty] at requested
    cases requested
    exact given rfl
  have textGiven : request.text.isEmpty = false := by simpa using given
  have made := Search.setQuery_eq_ok.mpr ⟨found, finds, rfl⟩
  have still : (workspace.withSearch answered).activeTab? = some tab := isActive
  rcases exists_run_showMatch_search still (answered.firstFrom tab.cursor) with
    ⟨shown, after, ran, isSearch⟩
  have sought : Act.find request.text request.mode request.caseSensitive workspace =
      (.ok shown, after) := by
    simp only [Act.find, Act.requireTab, Act.run_bind, Act.run_get, isActive, Act.run_pure,
      Act.run_ofOutcome, made, run_setSearch]
    exact ran
  refine ⟨{ message := after.status }, after, ?_, rfl, isSearch⟩
  simp only [Execution.findText, Execution.requireRaw, rawGiven, Bool.false_eq_true, if_false,
    Act.run_bind, Act.run_pure, requested, Act.run_ofOutcome, textGiven, Act.run_discard, sought,
    Act.run_get]

/-- A search that succeeds answers a request for a text that can be searched for. -/
theorem exists_request_of_run_findText (isActive : workspace.activeTab? = some tab) {reply : Reply}
    {after : Workspace} (ran : Execution.findText command workspace = (.ok reply, after)) :
    ∃ request found, Command.findRequest command.raw = .ok request ∧ request.text ≠ "" ∧
      Search.find workspace.search.threshold (workspace.search.asked request) tab.view = .ok found := by
  rw [Execution.findText, Act.run_bind] at ran
  by_cases rawGiven : command.raw.isEmpty
  · rw [Execution.requireRaw, if_pos rawGiven] at ran
    cases ran
  rw [Execution.requireRaw, if_neg rawGiven, Act.run_pure] at ran
  simp only [Act.run_bind, Act.run_ofOutcome] at ran
  cases requested : Command.findRequest command.raw with
  | error problem =>
      rw [requested] at ran
      cases ran
  | ok request =>
      rw [requested] at ran
      simp only at ran
      by_cases given : request.text.isEmpty
      · rw [if_pos given] at ran
        cases ran
      rw [if_neg given] at ran
      simp only [Act.run_bind, Act.run_discard, Act.find, Act.requireTab, Act.run_get, isActive,
        Act.run_pure, Act.run_ofOutcome] at ran
      cases made : workspace.search.setQuery tab.view request.text request.mode request.caseSensitive with
      | error problem =>
          rw [made] at ran
          cases ran
      | ok search =>
          rcases Search.setQuery_eq_ok.mp made with ⟨found, finds, _⟩
          exact ⟨request, found, rfl, by simpa using given, finds⟩

theorem executes_find_iff (isActive : workspace.activeTab? = some tab) {arguments : List String}
    {raw : String} (isCommand : workspace.commandOf line = .ok ⟨.find, arguments, raw⟩)
    (isRecorded : Bool) {query : Search.Query} :
    workspace.Executes line isRecorded
        (fun after => after.search.query = query ∧ after.search.found = found) ↔
      ∃ request, Command.findRequest raw = .ok request ∧ request.text ≠ "" ∧
        workspace.search.asked request = query ∧
        Search.find workspace.search.threshold query tab.view = .ok found := by
  rcases workspace.exists_noting line isRecorded with ⟨history, made⟩
  have noted := (workspace.activeTab?_noting line isRecorded).trans isActive
  have sameSearch : (workspace.noting line isRecorded).search = workspace.search := by rw [made]
  rw [executes_iff]
  constructor
  · rintro ⟨command, reply, after, isOther, performed, _, rfl, rfl⟩
    cases isCommand.symm.trans isOther
    rcases exists_request_of_run_findText noted performed with ⟨request, found, requested, given, finds⟩
    rcases exists_run_findText noted requested given finds with ⟨_, _, ran, _, isSearch⟩
    cases performed.symm.trans ran
    rw [isSearch, Search.query_firstFrom, Search.found_firstFrom, ← sameSearch]
    exact ⟨request, requested, given, rfl, finds⟩
  · rintro ⟨request, requested, given, rfl, finds⟩
    rw [← sameSearch] at finds
    let command : Command := ⟨.find, arguments, raw⟩
    have isRequest : Command.findRequest command.raw = .ok request := requested
    rcases exists_run_findText noted isRequest given finds with ⟨reply, after, ran, noError, isSearch⟩
    refine ⟨command, reply, after, isCommand, ran, noError, ?_, ?_⟩
    · rw [isSearch, Search.query_firstFrom, sameSearch]
      rfl
    · rw [isSearch, Search.found_firstFrom]
      rfl

end Finding

end Workspace

/-! ## Quoted texts -/

namespace Command

theorem isWord_find : Words.IsWord "find" := Words.isWord_of_all (by decide) (by decide)

/-- The command of a line that searches: quotes around all that follows the verb are taken off. -/
theorem parse_find (suggestion : Suggestion) (rest : String) :
    parse suggestion ("find " ++ rest) = (do
      let arguments ← Words.split rest
      return { verb := .find, arguments, raw := ← Words.unquote (Text.trim rest) }) := by
  have line : "find " ++ rest = "find" ++ " " ++ rest := rfl
  have isVerb : Verb.ofName? "find" = some .find := by decide
  rw [line, parse_cons suggestion isVerb isWord_find]
  rfl

theorem parse_find_quoted (suggestion : Suggestion) (text : String) :
    parse suggestion ("find " ++ Words.quoted text) = .ok ⟨.find, [text], text⟩ := by
  rw [parse_find, Words.split_quoted, Words.trim_quoted, Words.unquote_quoted]
  rfl

theorem parse_find_marked (suggestion : Suggestion) (text : String) :
    parse suggestion ("find -- " ++ Words.quoted text) =
      .ok ⟨.find, ["--", text], "-- " ++ Words.quoted text⟩ := by
  have isWord : Words.IsWord "--" := Words.isWord_of_all (by decide) (by decide)
  have line : "find -- " ++ Words.quoted text = "find " ++ ("--" ++ " " ++ Words.quoted text) := by
    rw [← String.append_assoc]
    rfl
  have bare : ¬ Words.IsEnclosed ("--" ++ " " ++ Words.quoted text) := by
    rintro ⟨_, quote, isQuote, isFirst, _⟩
    rw [toList_cons] at isFirst
    cases isFirst
    cases isQuote
  rw [line, parse_find, Words.split_cons isWord, Words.split_quoted,
    trim_cons isWord (Words.trim_quoted text) (Words.quoted_ne_empty text),
    Words.unquote_of_not_enclosed bare]
  rfl

/-- A text in quotes that is searched for as it is has nothing that is taken off. -/
theorem verbatim_of_executes {workspace : Workspace} {tab : Tab} {text : String} {isRecorded : Bool}
    (isActive : workspace.activeTab? = some tab)
    (executes : workspace.Executes ("find " ++ Words.quoted text) isRecorded
      (·.search.query = { workspace.search.query with text })) : Verbatim text := by
  rcases executes with ⟨reply, after, ran, noError, isQuery⟩
  rcases (Workspace.executes_find_iff isActive (parse_find_quoted _ text) isRecorded).mp
    ⟨reply, after, ran, noError, isQuery, rfl⟩ with ⟨request, requested, _, isAsked, _⟩
  have same : request.text = text := congrArg Search.Query.text isAsked
  exact findRequest_eq_iff.mp ⟨request, requested, same⟩

/--
In quotes a text is searched for as it is, with the options that there were, exactly when it
has no blanks around it, starts with no option and is not quoted itself. After the mark that
ends the options it always is.
-/
theorem find_quoted_iff (workspace : Workspace) {tab : Tab}
    (isActive : workspace.activeTab? = some tab) (isLiteral : workspace.search.query.mode = .literal)
    {text : String} (nonempty : text ≠ "") (isRecorded : Bool) :
    (workspace.Executes ("find " ++ Words.quoted text) isRecorded
        (·.search.query = { workspace.search.query with text }) ↔ Verbatim text) ∧
      workspace.Executes ("find -- " ++ Words.quoted text) isRecorded
        (·.search.query = { workspace.search.query with text }) := by
  have asked : workspace.search.asked ⟨text, none, none⟩ = { workspace.search.query with text } := rfl
  have finds : ∃ found, Search.find workspace.search.threshold
      { workspace.search.query with text } tab.view = .ok found := by
    have usable : Search.Usable { workspace.search with query := { workspace.search.query with text } } :=
      .inr (.inl (by simp [isLiteral]))
    exact usable.exists_found tab.view
  -- A text that is requested as it is, is searched for whatever the view.
  have succeeds {line raw : String} {arguments : List String}
      (isCommand : workspace.commandOf line = .ok ⟨.find, arguments, raw⟩)
      (requested : findRequest raw = .ok ⟨text, none, none⟩) :
      workspace.Executes line isRecorded (·.search.query = { workspace.search.query with text }) := by
    rcases finds with ⟨found, finds⟩
    rcases (Workspace.executes_find_iff isActive isCommand isRecorded).mpr
      ⟨_, requested, nonempty, asked, finds⟩ with ⟨reply, after, ran, noError, isQuery, _⟩
    exact ⟨reply, after, ran, noError, isQuery⟩
  exact ⟨⟨verbatim_of_executes isActive,
    fun verbatim => succeeds (parse_find_quoted _ text) verbatim.findRequest⟩,
    succeeds (parse_find_marked _ text) (findRequest_marked text)⟩

/-- A workspace that shows a table. -/
def showing : Workspace :=
  (Workspace.start {} { surroundings := ⟨[], []⟩ } .deferred).step (.openTable .idAndName "t" [])

/-- A quote and a blank within a text are searched for. -/
theorem find_quoted_words :
    showing.Executes "find 'it'\"'\"'s a'" true (·.search.query = ⟨"it's a", .literal, false⟩) := by
  have active : ∃ tab, showing.activeTab? = some tab := ⟨_, rfl⟩
  rcases active with ⟨tab, isActive⟩
  have verbatim : Verbatim "it's a" := by
    refine ⟨by decide, fun flag rest isFlag => ?_, fun enclosed => ?_⟩
    · cases isFlag
    · rcases enclosed with ⟨_, quote, isQuote, isFirst, _⟩
      cases isFirst
      exact absurd isQuote (by decide)
  have isLiteral : showing.search.query.mode = .literal := rfl
  have executes := (find_quoted_iff showing isActive isLiteral (by decide) true).1.mpr verbatim
  have line : "find " ++ Words.quoted "it's a" = "find 'it'\"'\"'s a'" := by decide
  have query : { showing.search.query with text := "it's a" } =
      (⟨"it's a", .literal, false⟩ : Search.Query) := rfl
  rwa [line, query] at executes

/-- Quotes, blanks and an option at the ends of a text are taken off although it is quoted. -/
theorem find_quoted_not_verbatim :
    showing.activeTab?.isSome ∧ showing.search.query = ⟨"", .literal, false⟩ ∧
    Words.quoted "'a'" = "''\"'\"'a'\"'\"''" ∧
    ∀ text ∈ ["'a'", " a ", "-r x"], ¬ showing.Executes ("find " ++ Words.quoted text) true
      (·.search.query = { showing.search.query with text }) := by
  refine ⟨rfl, rfl, by decide, fun text member executes => ?_⟩
  have active : ∃ tab, showing.activeTab? = some tab := ⟨_, rfl⟩
  rcases active with ⟨tab, isActive⟩
  have verbatim := verbatim_of_executes isActive executes
  simp only [List.mem_cons, List.not_mem_nil, or_false] at member
  rcases member with rfl | rfl | rfl
  · rcases verbatim.notQuoted ⟨by decide, '\'', by decide, rfl, rfl⟩ with ⟨words, split, many⟩
    cases split
    exact many rfl
  · exact absurd verbatim.trimmed (by decide)
  · cases (verbatim.noOption "-r" ['x'] rfl).1

/-! ## Recorded texts -/

theorem trim_find_of_trimmed {text : String} (trimmed : Text.trim text = text)
    (nonempty : text ≠ "") : Text.trim ("find " ++ text) = "find " ++ text := by
  have line : "find " ++ text = "find" ++ " " ++ text := rfl
  rw [line, trim_cons isWord_find trimmed nonempty]

/-- A line is recorded without the blanks around it, which may leave its verb alone. -/
theorem trim_find (text : String) :
    Text.trim ("find " ++ text) = "find" ∨
      ∃ rest, Text.trim ("find " ++ text) = "find " ++ rest ∧ Text.trim rest = Text.trim text := by
  have chars : ("find " ++ text).toList = "find".toList ++ ' ' :: text.toList := by
    rw [String.toList_append]
    rfl
  rw [Text.trim, chars, trimChars_cons isWord_find]
  split
  · exact .inl rfl
  · refine .inr ⟨String.ofList (text.toList.rdropWhile Text.isBlank), ?_, ?_⟩
    · rw [← String.toList_inj]
      simp only [String.toList_append, String.toList_ofList]
      rfl
    · rw [Text.trim, String.toList_ofList, Text.trimChars_rdropWhile, Text.trim]

theorem trim_find_ne_empty (text : String) : Text.trim ("find " ++ text) ≠ "" := by
  rcases trim_find text with alone | ⟨rest, isLine, _⟩
  · rw [alone]
    decide
  · rw [isLine]
    simp

/-- Where a text comes back after blanks and quotes have been taken off, there were none. -/
theorem verbatim_of_findRequest {text raw : String} {request : FindRequest}
    (unquoted : Words.unquote (Text.trim text) = .ok raw)
    (requested : findRequest raw = .ok request) (same : request.text = text) :
    Text.trim text = text ∧ raw = text ∧ Verbatim text := by
  have trimmedLength := Text.length_trim_le text
  rcases Words.unquote_cases unquoted with rfl | unquotedShorter
  · rcases findRequest_cases requested with ⟨isText, verbatim⟩ | shorter
    · have trimmed : Text.trim text = text := isText.symm.trans same
      rw [trimmed] at verbatim
      exact ⟨trimmed, trimmed, verbatim⟩
    · rw [same] at shorter
      omega
  · have requestLength : request.text.toList.length ≤ raw.toList.length := by
      rcases findRequest_cases requested with ⟨isText, _⟩ | shorter
      · rw [isText]
      · exact shorter.le
    rw [same] at requestLength
    omega

theorem commandOf_recorded (workspace : Workspace) {text : String} (verbatim : Verbatim text)
    (nonempty : text ≠ "") {words : List String} (split : Words.split text = .ok words) :
    workspace.commandOf (Text.trim ("find " ++ text)) = .ok ⟨.find, words, text⟩ := by
  rw [trim_find_of_trimmed verbatim.trimmed nonempty, Workspace.commandOf, parse_find, split,
    verbatim.trimmed]
  simp only [bind, Except.bind, Words.unquote_self_iff.mpr verbatim.notQuoted]
  rfl

/-- The verb alone is recorded for a text of blanks, and else what can be split and unquoted. -/
theorem commandOf_recorded_cases {workspace : Workspace} {text : String} {command : Command}
    (isCommand : workspace.commandOf (Text.trim ("find " ++ text)) = .ok command) :
    command = ⟨.find, [], ""⟩ ∨
      ∃ rest words raw, Text.trim ("find " ++ text) = "find " ++ rest ∧ Words.split rest = .ok words ∧
        Words.unquote (Text.trim text) = .ok raw ∧ command = ⟨.find, words, raw⟩ := by
  rcases trim_find text with alone | ⟨rest, isLine, sameTrim⟩
  · rw [alone] at isCommand
    cases isCommand
    exact .inl rfl
  · rw [isLine, Workspace.commandOf, parse_find, sameTrim] at isCommand
    rcases bind_eq_ok.mp isCommand with ⟨words, split, unquotes⟩
    rcases bind_eq_ok.mp unquotes with ⟨raw, unquoted, made⟩
    cases made
    exact .inr ⟨rest, words, raw, isLine, split, unquoted, rfl⟩

/--
The line that is recorded for a text searches for it as it is exactly when the text is one that
can be split into words and is taken as it is, and it is searched for in the way that there is.
-/
theorem executes_recorded_iff {later : Workspace} {tab : Tab} (isActive : later.activeTab? = some tab)
    {query : Search.Query} {found : List Coordinate} (nonempty : query.text ≠ "")
    (finds : Search.find later.search.threshold query tab.view = .ok found) (isRecorded : Bool) :
    later.Executes (Text.trim ("find " ++ query.text)) isRecorded
        (fun after => after.search.query = query ∧ after.search.found = found) ↔
      Verbatim query.text ∧ (∃ words, Words.split query.text = .ok words) ∧
        later.search.query.mode = query.mode ∧
        later.search.query.caseSensitive = query.caseSensitive := by
  constructor
  · intro executes
    rcases Workspace.executes_iff.mp executes with ⟨command, _, _, isCommand, _⟩
    rcases commandOf_recorded_cases isCommand with rfl | ⟨rest, words, raw, isLine, split, unquoted, rfl⟩
    · rcases (Workspace.executes_find_iff isActive isCommand isRecorded).mp executes with
        ⟨request, requested, given, _⟩
      rw [Workspace.findRequest_empty] at requested
      cases requested
      exact absurd rfl given
    · rcases (Workspace.executes_find_iff isActive isCommand isRecorded).mp executes with
        ⟨request, requested, _, isAsked, _⟩
      have sameText : request.text = query.text := congrArg Search.Query.text isAsked
      rcases verbatim_of_findRequest unquoted requested sameText with ⟨trimmed, rfl, verbatim⟩
      rw [verbatim.findRequest] at requested
      cases requested
      have isRest : "find " ++ query.text = "find " ++ rest :=
        (trim_find_of_trimmed trimmed nonempty).symm.trans isLine
      rw [← String.toList_inj, String.toList_append, String.toList_append] at isRest
      rw [← String.toList_inj.mp (List.append_cancel_left isRest)] at split
      have sameMode := congrArg Search.Query.mode isAsked
      have sameCase := congrArg Search.Query.caseSensitive isAsked
      exact ⟨verbatim, ⟨words, split⟩, sameMode, sameCase⟩
  · rintro ⟨verbatim, ⟨words, split⟩, sameMode, sameCase⟩
    have isCommand := commandOf_recorded later verbatim nonempty split
    refine (Workspace.executes_find_iff isActive isCommand isRecorded).mpr
      ⟨⟨query.text, none, none⟩, verbatim.findRequest, nonempty, ?_, finds⟩
    rw [Search.asked, Option.getD_none, Option.getD_none, sameMode, sameCase]

end Command

end TableBrowser
