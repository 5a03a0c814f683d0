import TableBrowser.Proofs.Command.Searches
import TableBrowser.Proofs.Pipeline.Faults
import TableBrowser.Proofs.Step.Filtering
import TableBrowser.Proofs.Workspace.Undo
/-!
# Steps that are read back

The line in which a selection or a sort is told is a command. Names without
blanks, commas, quotes and backslashes are one word when commas stand between
them, and of the colons in a sort key only the last one counts. Main statement:
on a tab whose steps leave the columns, that line pushes a step with the same
columns or keys, which is the step itself unless it has further parameters.
-/

namespace TableBrowser

namespace Command

open Words (IsMark IsWord)

/-- The name of a column that is written in a command as it is. -/
structure Plain (name : String) : Prop where
  isWord : IsWord name
  noComma : ',' ∉ name.toList

variable {names : List String} {name : String}

/-! ## Names between commas -/

theorem splitAtCommas_eq_splitOn (chars : List Char) : splitAtCommas chars = chars.splitOn ',' := by
  induction chars with
  | nil => rfl
  | cons char chars induction =>
      rw [splitAtCommas, induction, List.splitOn, List.splitOn, List.splitOnP_cons_eq_if_modifyHead]
      cases parts : chars.splitOnP (· == ',') with
      | nil => exact absurd parts (List.splitOnP_ne_nil _ _)
      | cons part parts => simp

theorem toList_intercalate (names : List String) :
    (",".intercalate names).toList = [','].intercalate (names.map String.toList) := by
  rw [String.toList_intercalate]
  rfl

/-- Columns that are listed with commas between them are those that are read. -/
theorem columns_intercalate (plain : ∀ name ∈ names, Plain name) :
    columns [",".intercalate names] = names := by
  have trimmed : (names.map fun name => Text.trim (String.ofList name.toList)) = names := by
    conv_rhs => rw [← List.map_id names]
    refine List.map_congr_left fun name member => ?_
    rw [String.ofList_toList, trim_name (plain name member).isWord, id]
  have given : names.filter (!·.isEmpty) = names := by
    refine List.filter_eq_self.mpr fun name member => ?_
    have some := (plain name member).isWord.some
    simpa using some
  rcases names with _ | ⟨first, others⟩
  · rfl
  have split : splitAtCommas (",".intercalate (first :: others)).toList =
      (first :: others).map String.toList := by
    rw [splitAtCommas_eq_splitOn, toList_intercalate]
    refine List.splitOn_intercalate ',' ?_ (by simp)
    intro part member
    rcases List.mem_map.mp member with ⟨name, isName, rfl⟩
    exact (plain name isName).noComma
  rw [columns, List.flatMap_singleton, split, List.map_map]
  exact (congrArg _ trimmed).trans given

/-- Plain names with commas between them are one word. -/
theorem isWord_intercalate (some : names ≠ []) (plain : ∀ name ∈ names, Plain name) :
    IsWord (",".intercalate names) := by
  induction names with
  | nil => exact absurd rfl some
  | cons first others induction =>
      rw [List.forall_mem_cons] at plain
      cases others with
      | nil =>
          rw [String.intercalate_singleton]
          exact plain.1.isWord
      | cons second others =>
          have comma : IsWord "," := Words.isWord_of_all (by decide) (by decide)
          rw [String.intercalate_cons_cons]
          exact (plain.1.isWord.append comma).append (induction (List.cons_ne_nil _ _) plain.2)

/-! ## Sort keys -/

/-- A sort key as it is told and read, its column first. -/
def keyText (key : SortKey) : String := key.column ++ ":" ++ key.direction.word

/-- What takes no part in cases stays when a text is put in lower case. -/
theorem colon_mem_lower {word : String} (member : ':' ∈ word.toList) : ':' ∈ (Text.lower word).toList := by
  have kept (before chars : List Char) (inChars : ':' ∈ chars) : ':' ∈ Text.lowerFrom before chars := by
    induction chars generalizing before with
    | nil => cases inChars
    | cons char chars induction =>
        rw [Text.lowerFrom, List.mem_append]
        rcases List.mem_cons.mp inChars with rfl | later
        · exact .inl (List.mem_singleton_self ':')
        · exact .inr (induction _ later)
  rw [Text.lower, String.toList_ofList]
  exact kept [] _ member

/-- What has a colon is no direction of the key before it. -/
theorem ofWord?_lower_of_colon {word : String} (member : ':' ∈ word.toList) :
    Direction.ofWord? (Text.lower word) = none := by
  have colon := colon_mem_lower member
  rw [Direction.ofWord?, if_neg, if_neg]
  all_goals
    intro isWord
    rw [isWord] at colon
    revert colon
    decide

theorem addSortKey_of_colon {word : String} (member : ':' ∈ word.toList) (keys : List SortKey) :
    addSortKey keys word = keys ++ [sortKeyOf word] := by
  rw [addSortKey, ofWord?_lower_of_colon member]

/-- The last colon stands before the direction, whatever is in the name. -/
theorem splitAtLastColon_append (name : String) {ending : String} (noColon : ':' ∉ ending.toList) :
    splitAtLastColon (name ++ ":" ++ ending) = some (name, ending) := by
  have reversed : (name ++ ":" ++ ending).toList.reverse =
      ending.toList.reverse ++ ':' :: name.toList.reverse := by simp
  have after : (ending.toList.reverse ++ ':' :: name.toList.reverse).takeWhile (· ≠ ':') =
      ending.toList.reverse := by
    rw [List.takeWhile_append_of_pos, List.takeWhile_cons_of_neg (by decide), List.append_nil]
    intro char member
    rw [decide_eq_true_iff]
    rintro rfl
    exact noColon (List.mem_reverse.mp member)
  rw [splitAtLastColon, reversed]
  simp only [after, List.drop_left]
  rw [List.reverse_reverse, List.reverse_reverse, String.ofList_toList, String.ofList_toList]

theorem sortKeyOf_keyText (key : SortKey) : sortKeyOf (keyText key) = key := by
  rcases key with ⟨column, direction⟩
  have noColon : ':' ∉ direction.word.toList := by cases direction <;> decide
  have isDirection : Direction.ofWord? (Text.lower direction.word) = some direction := by
    cases direction <;> decide
  rw [sortKeyOf, keyText, splitAtLastColon_append column noColon]
  simp only [isDirection]

theorem Plain.keyText {key : SortKey} (plain : Plain key.column) : Plain (keyText key) := by
  have colon : IsWord ":" := Words.isWord_of_all (by decide) (by decide)
  have direction : IsWord key.direction.word := by
    cases key.direction <;> exact Words.isWord_of_all (by decide) (by decide)
  have noComma : ',' ∉ key.direction.word.toList := by cases key.direction <;> decide
  refine ⟨(plain.isWord.append colon).append direction, ?_⟩
  simp [Command.keyText, plain.noComma, noComma]

theorem foldl_addSortKey (keys known : List SortKey) :
    (keys.map keyText).foldl addSortKey known = known ++ keys := by
  induction keys generalizing known with
  | nil => rw [List.map_nil, List.foldl_nil, List.append_nil]
  | cons key keys induction =>
      have colon : ':' ∈ (keyText key).toList := by simp [keyText]
      rw [List.map_cons, List.foldl_cons, addSortKey_of_colon colon, sortKeyOf_keyText, induction,
        List.append_assoc, List.singleton_append]

/-- Sort keys that are listed with their directions are those that are read. -/
theorem sortKeys_intercalate {keys : List SortKey} (plain : ∀ key ∈ keys, Plain key.column) :
    sortKeys [",".intercalate (keys.map keyText)] = keys := by
  have texts : ∀ text ∈ keys.map keyText, Plain text := by
    intro text member
    rcases List.mem_map.mp member with ⟨key, isKey, rfl⟩
    exact (plain key isKey).keyText
  rw [sortKeys, columns_intercalate texts, foldl_addSortKey, List.nil_append]

/-! ## Lines -/

/-- A verb and a word are a command with that word as its one argument. -/
theorem parse_word (suggestion : Suggestion) {verb : Verb} {word : String}
    (isVerb : Verb.ofName? name = some verb) (isName : IsWord name)
    (isBare : verb.takesExpression = false) (isWord : IsWord word) :
    parse suggestion (name ++ " " ++ word) = .ok ⟨verb, [word], word⟩ := by
  rw [parse_cons suggestion isVerb isName, isWord.split, isBare, trim_name isWord]
  rfl

theorem parse_select (suggestion : Suggestion) {word : String} (isWord : IsWord word) :
    parse suggestion ("select " ++ word) = .ok ⟨.select, [word], word⟩ := by
  have line : "select " ++ word = "select" ++ " " ++ word := rfl
  have isVerb : Verb.ofName? "select" = some .select := by decide
  have isName : IsWord "select" := Words.isWord_of_all (by decide) (by decide)
  rw [line, parse_word suggestion isVerb isName rfl isWord]

theorem parse_order (suggestion : Suggestion) {word : String} (isWord : IsWord word) :
    parse suggestion ("order " ++ word) = .ok ⟨.order, [word], word⟩ := by
  have line : "order " ++ word = "order" ++ " " ++ word := rfl
  have isVerb : Verb.ofName? "order" = some .order := by decide
  have isName : IsWord "order" := Words.isWord_of_all (by decide) (by decide)
  rw [line, parse_word suggestion isVerb isName rfl isWord]

end Command

/-! ## Steps that are told -/

theorem Direction.eq_word_of_ofWord? {word : String} {direction : Direction}
    (isDirection : ofWord? word = some direction) : word = direction.word := by
  rw [ofWord?] at isDirection
  split at isDirection
  · next isWord =>
    cases isDirection
    exact isWord
  split at isDirection
  · next isWord =>
    cases isDirection
    exact isWord
  · cases isDirection

namespace Operation

variable {step : Step}

/-- A sort key among the parameters of a step. -/
def keyDatum (key : SortKey) : Datum := .list [.text key.column, .text key.direction.word]

theorem eq_keyDatum_of_sortKey {datum : Datum} {key : SortKey} (isKey : sortKey datum = .ok key) :
    datum = keyDatum key := by
  rcases pair_of_sortKey isKey with ⟨column, word, rfl⟩
  rw [sortKey] at isKey
  cases isDirection : Direction.ofWord? word with
  | none =>
      rw [isDirection] at isKey
      cases isKey
  | some direction =>
      rw [isDirection] at isKey
      cases isKey
      rw [keyDatum, Direction.eq_word_of_ofWord? isDirection]

theorem eq_map_keyDatum {data : List Datum} {keys : List SortKey}
    (areKeys : List.Forall₂ (fun datum key => sortKey datum = .ok key) data keys) :
    data = keys.map keyDatum := by
  induction areKeys with
  | nil => rfl
  | cons isKey _ induction => rw [List.map_cons, ← eq_keyDatum_of_sortKey isKey, ← induction]

/-- The parameter of a selection lists its columns. -/
theorem listed_of_select {names : List String} (isStep : ofStep step = .ok (.select names)) :
    step.operation = "select" ∧ step.param "columns" = .list (names.map .text) ∧ names ≠ [] := by
  rcases ofStep_cases isStep with ⟨_, _, _, other⟩ | ⟨isSelect, columns, same, given, _⟩ |
    ⟨_, _, other⟩ | ⟨_, _, other⟩
  · cases other
  · cases same
    refine ⟨isSelect, given, ?_⟩
    rintro rfl
    simp [ofStep, isSelect, ofSelect, given, columnNames?, stepFails, Outcome.fail] at isStep
  · cases other
  · cases other

/-- The parameter of a sort lists its keys. -/
theorem listed_of_order {keys : List SortKey} (isStep : ofStep step = .ok (.order keys)) :
    step.operation = "order" ∧ step.param "keys" = .list (keys.map keyDatum) ∧ keys ≠ [] := by
  have isOrder : step.operation = "order" := by
    rcases ofStep_cases isStep with ⟨_, _, _, other⟩ | ⟨_, _, other, _⟩ | ⟨isOrder, _⟩ | ⟨_, _, other⟩
    · cases other
    · cases other
    · exact isOrder
    · cases other
  rw [ofStep_of_order isOrder, ofOrder] at isStep
  split at isStep
  · next first rest given =>
    rcases bind_eq_ok.mp isStep with ⟨read, areRead, made⟩
    cases made
    have listed : first :: rest = keys.map keyDatum := eq_map_keyDatum (mapM_eq_ok.mp areRead)
    refine ⟨isOrder, given.trans (congrArg Datum.list listed), ?_⟩
    rintro rfl
    cases listed
  · cases isStep

end Operation

namespace Step

open Operation (mainParam keyDatum)

variable {step : Step}

theorem describe_of_select {names : List String} (isSelect : step.operation = "select")
    (given : step.param "columns" = .list (names.map .text)) :
    step.describe = .ok ("select " ++ ",".intercalate names) := by
  have told : ((names.map Datum.text).mapIdx fun index column => (index, column)).mapM
      (fun numbered => describedColumn numbered.1 numbered.2) = .ok names := by
    rw [mapM_eq_ok, List.forall₂_iff_get]
    refine ⟨by simp, fun place _ _ => ?_⟩
    simp [describedColumn]
  simp only [describe, isSelect, given, elementsIfAny_list, bind, Except.bind, told]
  rfl

theorem describe_of_order {keys : List SortKey} (isOrder : step.operation = "order")
    (given : step.param "keys" = .list (keys.map keyDatum)) :
    step.describe = .ok ("order " ++ ",".intercalate (keys.map Command.keyText)) := by
  have told : (keys.map keyDatum).mapM describedKey = .ok (keys.map Command.keyText) := by
    rw [mapM_eq_ok, List.forall₂_map_left_iff, List.forall₂_map_right_iff, List.forall₂_same]
    exact fun _ _ => rfl
  simp only [describe, isOrder, given, elementsIfAny_list, bind, Except.bind, told]
  rfl

/-- What the line of a step tells of it: its operation with the parameter that it needs. -/
def told (step : Step) : Step :=
  .ofParams step.operation [(mainParam step.operation, step.param (mainParam step.operation))]

theorem param_told : step.told.param (mainParam step.operation) = step.param (mainParam step.operation) := by
  simp [told, ofParams, param, param?, Datum.valueAt?]

/-- A selection or a sort does the same without further parameters. -/
theorem ofStep_told (noFilter : step.operation ≠ "filter") :
    Operation.ofStep step.told = Operation.ofStep step :=
  Operation.ofStep_congr rfl param_told fun isFilter => absurd isFilter noFilter

/-- The line tells all of a step that has no further parameters. -/
theorem told_eq_self (valid : step.Valid) (alone : step.params.length = 1) : step.told = step := by
  have given := mainParam_given valid
  rcases step with ⟨operation, params⟩
  rcases List.length_eq_one_iff.mp alone with ⟨⟨key, value⟩, rfl⟩
  by_cases isKey : key = .text (mainParam operation)
  · subst isKey
    simp [told, ofParams, param, param?, Datum.valueAt?]
  · simp [param?, Datum.valueAt?, isKey] at given

/-- What is told of a step has a content key. -/
theorem exists_contentKey_told (valid : step.Valid) : ∃ key, step.told.contentKey = .ok key := by
  rcases valid with ⟨operation, isStep⟩
  exact exists_contentKey_ofParams _ _ (Operation.textual_mainParam isStep)

end Step

/-! ## Columns that are offered -/

/-- A step with valid parameters is valid when it names columns that are there, if these are known. -/
theorem Step.validate_succeeds_iff {step : Step} {operation : Operation}
    (isStep : Operation.ofStep step = .ok operation) {known : Option (List String)} :
    (step.validate known).map (fun _ => ()) = .ok () ↔
      ∀ columns, known = some columns → ∀ name ∈ operation.namedColumns.2, name ∈ columns := by
  cases known with
  | none =>
      rw [validate, isStep]
      refine iff_of_true rfl fun columns none => ?_
      cases none
  | some columns =>
      constructor
      · rintro valid _ ⟨⟩
        cases checked : step.validate (some columns) with
        | error problem =>
            rw [checked] at valid
            cases valid
        | ok other =>
            rcases validate_eq_ok.mp checked with ⟨isOther, within⟩
            cases isStep.symm.trans isOther
            exact within
      · intro within
        rw [validate_eq_ok.mpr ⟨isStep, within columns rfl⟩]
        rfl

namespace Pipeline

variable {pipeline : Pipeline}

/-- What is known of the columns that the steps leave can be told, and lacks none of some names. -/
def Offers (pipeline : Pipeline) (names : List String) : Prop :=
  ∃ schema, pipeline.schema = .ok schema ∧
    ∀ columns, Schema.names? schema = some columns → ∀ name ∈ names, name ∈ columns

/-- A valid step is admitted when its columns are offered. -/
theorem admits_iff_offers {step : Step} {operation : Operation}
    (isStep : Operation.ofStep step = .ok operation) :
    pipeline.admits step = .ok () ↔ pipeline.Offers operation.namedColumns.2 := by
  cases isSchema : pipeline.schema with
  | error fault =>
      refine iff_of_false ?_ ?_
      · rw [admits, isSchema]
        intro admitted
        cases admitted
      · rintro ⟨schema, told, _⟩
        cases isSchema.symm.trans told
  | ok schema =>
      rw [admits_of_schema isSchema, Step.validate_succeeds_iff isStep]
      constructor
      · exact fun known => ⟨schema, isSchema, known⟩
      · rintro ⟨other, isOther, known⟩
        cases isSchema.symm.trans isOther
        exact known

/-- A settled pipeline offers the columns of its view. -/
theorem Settled.offers_iff (settled : pipeline.Settled) (names : List String) :
    pipeline.Offers names ↔ ∀ name ∈ names, name ∈ pipeline.view.header := by
  have lengths := (Step.sameAll_eq_true_iff.mp settled.committed).length_eq
  have isSchema : pipeline.schema = .ok (Schema.ofTable pipeline.view) := by
    simp only [schema, ← lengths, List.take_length, List.drop_length, settled.committed, bind,
      Except.bind]
    rfl
  constructor
  · rintro ⟨schema, isOther, known⟩
    cases isSchema.symm.trans isOther
    exact known _ (Schema.names?_ofTable _)
  · intro known
    refine ⟨_, isSchema, fun columns areColumns => ?_⟩
    rw [Schema.names?_ofTable] at areColumns
    cases areColumns
    exact known

/-- Steps with keys take what is told of a valid step exactly when they offer its columns. -/
theorem push_told_iff_offers {step : Step} {operation : Operation}
    (isStep : Operation.ofStep step = .ok operation) (noFilter : step.operation ≠ "filter")
    (keyed : Keyed pipeline.steps) :
    (∃ answer, (pipeline.push step.told).2 = .ok answer) ↔ pipeline.Offers operation.namedColumns.2 := by
  rw [← admits_iff_offers ((Step.ofStep_told noFilter).trans isStep), push]
  cases pipeline.admits step.told with
  | error problem =>
      refine iff_of_false ?_ fun admitted => by cases admitted
      rintro ⟨answer, accepted⟩
      cases accepted
  | ok _ =>
      have toldKeyed : Keyed [step.told] := by
        intro other member
        rw [List.mem_singleton.mp member]
        exact Step.exists_contentKey_told ⟨operation, isStep⟩
      exact iff_of_true (request_ok (keyed.append toldKeyed)) rfl

end Pipeline

/-! ## Lines of steps -/

namespace Execution

open Command (Plain)

variable {raw : String}

theorem perform_select {names : List String} (some : names ≠ []) (plain : ∀ name ∈ names, Plain name) :
    perform ⟨.select, [",".intercalate names], raw⟩ =
      (Act.pushStep (.ofParams "select" [("columns", .list (names.map .text))]) >>= fun _ =>
        pure { message := "select " ++ ",".intercalate names }) := by
  change select _ = _
  rw [select]
  simp only [Command.columns_intercalate plain, List.isEmpty_eq_false_iff.mpr some]
  rfl

theorem perform_order {keys : List SortKey} (some : keys ≠ [])
    (plain : ∀ key ∈ keys, Plain key.column) :
    perform ⟨.order, [",".intercalate (keys.map Command.keyText)], raw⟩ =
      (Act.pushStep (.ofParams "order" [("keys", .list (keys.map Operation.keyDatum))]) >>= fun _ =>
        pure { message := "order " ++ ",".intercalate (keys.map Command.keyText) }) := by
  change order _ = _
  rw [order]
  simp only [Command.sortKeys_intercalate plain, List.isEmpty_eq_false_iff.mpr some]
  rfl

/-- The line of a selection or a sort is a command that pushes what it tells. -/
theorem exists_command_of_line {step : Step} {operation : Operation}
    (isStep : Operation.ofStep step = .ok operation)
    (listed : step.operation = "select" ∨ step.operation = "order")
    (plain : ∀ name ∈ operation.namedColumns.2, Plain name) :
    ∃ line command reply, step.describe = .ok line ∧
      (∀ suggestion, Command.parse suggestion line = .ok command) ∧
      perform command = (Act.pushStep step.told >>= fun _ => pure reply) ∧ reply.error = none := by
  rcases Operation.ofStep_cases isStep with ⟨isFilter, _⟩ | ⟨isSelect, names, rfl, _⟩ |
    ⟨isOrder, keys, rfl⟩ | ⟨isSql, _⟩
  · simp [isFilter] at listed
  · rcases Operation.listed_of_select isStep with ⟨_, given, nonempty⟩
    have told : step.told = .ofParams "select" [("columns", .list (names.map .text))] := by
      rw [← given, Step.told, isSelect]
      rfl
    rw [told]
    exact ⟨_, _, _, Step.describe_of_select isSelect given,
      fun suggestion => Command.parse_select suggestion (Command.isWord_intercalate nonempty plain),
      perform_select nonempty plain, rfl⟩
  · rcases Operation.listed_of_order isStep with ⟨_, given, nonempty⟩
    have plainKeys : ∀ key ∈ keys, Plain key.column := List.forall_mem_map.mp plain
    have texts : ∀ text ∈ keys.map Command.keyText, Plain text :=
      List.forall_mem_map.mpr fun key isKey => (plainKeys key isKey).keyText
    have textsNonempty : keys.map Command.keyText ≠ [] := by simpa using nonempty
    have told : step.told = .ofParams "order" [("keys", .list (keys.map Operation.keyDatum))] := by
      rw [← given, Step.told, isOrder]
      rfl
    rw [told]
    exact ⟨_, _, _, Step.describe_of_order isOrder given,
      fun suggestion => Command.parse_order suggestion (Command.isWord_intercalate textsNonempty texts),
      perform_order nonempty plainKeys, rfl⟩
  · simp [isSql] at listed

end Execution

namespace Workspace

variable {workspace : Workspace} {tab : Tab}

/-- A step is pushed exactly when the pipeline of the active tab takes it. -/
theorem Sound.exists_run_pushStep_iff (sound : workspace.Sound)
    (isActive : workspace.activeTab? = some tab) (isLoaded : tab.isLoading = false) {step : Step} :
    (∃ after, Act.pushStep step workspace = (.ok (), after)) ↔
      ∃ answer, (tab.pipeline.push step).2 = .ok answer := by
  have edited : (Act.pushStep step workspace).1 = (tab.pipeline.push step).2.map fun _ => () :=
    (activeTab?_edit sound.search isActive isLoaded (·.push step)).1
  cases accepted : (tab.pipeline.push step).2 with
  | ok answer =>
      rw [accepted] at edited
      exact iff_of_true ⟨_, Prod.ext edited rfl⟩ ⟨answer, rfl⟩
  | error problem =>
      rw [accepted] at edited
      refine iff_of_false ?_ ?_
      · rintro ⟨after, ran⟩
        rw [ran] at edited
        cases edited
      · rintro ⟨answer, other⟩
        cases other

section Pushing

variable {line : String} {command : Command} {reply : Reply} {step : Step}
  (isCommand : workspace.commandOf line = .ok command)
  (performs : Execution.perform command = (Act.pushStep step >>= fun _ => pure reply))

include isCommand performs

/-- A line whose command pushes a step does nothing else, apart from being recorded. -/
theorem run_of_executes_push {isRecorded : Bool} {holds : Workspace → Prop}
    (executes : workspace.Executes line isRecorded holds) :
    ∃ after, Act.pushStep step (workspace.noting line isRecorded) = (.ok (), after) ∧ holds after := by
  rcases executes_iff.mp executes with ⟨other, given, after, isOther, performed, _, isHeld⟩
  cases isCommand.symm.trans isOther
  rw [performs, Act.run_bind] at performed
  rcases ran : Act.pushStep step (workspace.noting line isRecorded) with ⟨problem | _, next⟩
  · rw [ran] at performed
    cases performed
  · rw [ran] at performed
    cases performed
    exact ⟨_, rfl, isHeld⟩

/-- A line whose command pushes a step succeeds exactly when the step is taken. -/
theorem Sound.executes_push_iff (sound : workspace.Sound) (isActive : workspace.activeTab? = some tab)
    (isLoaded : tab.isLoading = false) (noError : reply.error = none) (isRecorded : Bool) :
    (workspace.Executes line isRecorded fun after => ∃ pushed, after.activeTab? = some pushed ∧
      pushed.id = tab.id ∧ pushed.Pushed tab.pipeline step) ↔
      ∃ answer, (tab.pipeline.push step).2 = .ok answer := by
  have noted := (activeTab?_noting workspace line isRecorded).trans isActive
  have notedSound := sound.noting line isRecorded
  rw [← notedSound.exists_run_pushStep_iff noted isLoaded]
  constructor
  · intro executes
    rcases run_of_executes_push isCommand performs executes with ⟨after, ran, _⟩
    exact ⟨after, ran⟩
  · rintro ⟨after, ran⟩
    rcases notedSound.pushed noted isLoaded ran with ⟨_, _, pushed, nowActive, sameId, _, isPushed⟩
    refine executes_iff.mpr ⟨command, reply, after, isCommand, ?_, noError, pushed, nowActive, sameId,
      isPushed⟩
    rw [performs, Act.run_bind, ran]
    rfl

end Pushing

/--
On the active tab of a run, whose table is there and whose steps have content
keys, the line of a valid selection or sort of plain names pushes what it tells,
exactly when the steps offer the columns. That is the step itself if it has no
further parameters, and a tab that awaits nothing offers the columns of its view.
-/
theorem line_reads_back_after (settings : Settings) (files : FileTree) (scheduling : Scheduling)
    (events : List Event) :
    let before := (start settings files scheduling).after events
    ∀ tab, before.activeTab? = some tab → tab.isLoading = false → Keyed tab.pipeline.steps →
      (tab.isBusy = false → ∀ names,
        tab.pipeline.Offers names ↔ ∀ name ∈ names, name ∈ tab.view.header) ∧
      ∀ step operation, Operation.ofStep step = .ok operation →
        step.operation = "select" ∨ step.operation = "order" →
        (∀ name ∈ operation.namedColumns.2, Command.Plain name) →
        Operation.ofStep step.told = .ok operation ∧
        (step.params.length = 1 → step.told = step) ∧
        ∃ line, step.describe = .ok line ∧ ∀ isRecorded,
          ((before.Executes line isRecorded fun after => ∃ pushed, after.activeTab? = some pushed ∧
            pushed.id = tab.id ∧ pushed.Pushed tab.pipeline step.told) ↔
              tab.pipeline.Offers operation.namedColumns.2) := by
  intro before tab isActive isLoaded keyed
  have sound : before.Sound := (sound_start settings files scheduling).after events
  have ready := (sound.tabs tab (List.mem_of_getElem? isActive)).ready isLoaded
  constructor
  · intro idle
    have isIdle : tab.pipeline.pending = none := by
      simpa [Tab.isBusy, isLoaded, Pipeline.isBusy] using idle
    have unawaited : tab.pipeline.pending ≠ some tab.pipeline.generation := by simp [isIdle]
    have settled := ready.settled unawaited keyed
    exact settled.offers_iff
  · intro step operation isStep listed plain
    have noFilter : step.operation ≠ "filter" := by
      rcases listed with isSelect | isOrder
      · simp [isSelect]
      · simp [isOrder]
    rcases Execution.exists_command_of_line isStep listed plain with
      ⟨line, command, reply, isLine, isCommand, performs, noError⟩
    refine ⟨(Step.ofStep_told noFilter).trans isStep, Step.told_eq_self ⟨operation, isStep⟩, line,
      isLine, fun isRecorded => ?_⟩
    rw [sound.executes_push_iff (isCommand _) performs isActive isLoaded noError isRecorded,
      Pipeline.push_told_iff_offers isStep noFilter keyed]

/-- A table whose columns have the names of directions. -/
def directions : Table :=
  ⟨[⟨"asc", .integer, [.integer 1]⟩, ⟨"desc:asc", .integer, [.integer 2]⟩], by decide, by decide⟩

/-- Names that look like directions are read as names. -/
theorem line_reads_back_directions :
    let before := (start {} { surroundings := ⟨[], []⟩ } .deferred).after [.openTable directions "t" []]
    before.Executes "order asc:desc,desc:asc:asc" true fun after => ∃ pushed,
      after.activeTab? = some pushed ∧ pushed.pipeline.steps = [.ofParams "order"
        [("keys", .list [.list [.text "asc", .text "desc"], .list [.text "desc:asc", .text "asc"]])]] := by
  intro before
  rcases activeTab?_openTable_nil {} { surroundings := ⟨[], []⟩ } .deferred directions "t" with
    ⟨tab, isActive, isLoaded, isPipeline⟩
  let keys : List SortKey := [⟨"asc", .descending⟩, ⟨"desc:asc", .ascending⟩]
  let step : Step := .ofParams "order" [("keys", .list (keys.map Operation.keyDatum))]
  have steps : tab.pipeline.steps = [] := by rw [isPipeline]; rfl
  have keyed : Keyed tab.pipeline.steps := by rw [steps]; exact Keyed.nil
  have idle : tab.isBusy = false := by
    rw [Tab.isBusy, isLoaded, isPipeline]
    rfl
  have header : tab.view.header = ["asc", "desc:asc"] := by
    rw [Tab.view, isPipeline]
    rfl
  have isStep : Operation.ofStep step = .ok (.order keys) := by rfl
  have plain : ∀ name ∈ ["asc", "desc:asc"], Command.Plain name := by
    intro name member
    simp only [List.mem_cons, List.not_mem_nil, or_false] at member
    rcases member with rfl | rfl
    · exact ⟨Words.isWord_of_all (by decide) (by decide), by decide⟩
    · exact ⟨Words.isWord_of_all (by decide) (by decide), by decide⟩
  rcases line_reads_back_after {} { surroundings := ⟨[], []⟩ } .deferred
    [.openTable directions "t" []] tab isActive isLoaded keyed with ⟨offers, reads⟩
  rcases reads step (.order keys) isStep (.inr rfl) plain with ⟨_, same, line, isLine, pushes⟩
  have isSame : line = "order asc:desc,desc:asc:asc" := Except.ok.inj (isLine.symm.trans rfl)
  have executes := (pushes true).mpr ((offers idle _).mpr fun name member => by rwa [header])
  rcases executes with ⟨reply, after, ran, noError, pushed, nowActive, _, isPushed⟩
  rw [isSame] at ran
  refine ⟨reply, after, ran, noError, pushed, nowActive, ?_⟩
  rw [isPushed.steps, steps, same rfl]
  rfl

/-- A selection with a note, of which its line does not tell. -/
def notedSelection : Step :=
  .ofParams "select" [("columns", .list [.text "id"]), ("note", .text "x")]

def nameSelection : Step := .ofParams "select" [("columns", .list [.text "name"])]

theorem keyed_nameSelection : Keyed [nameSelection] := by
  intro step member
  rw [List.mem_singleton.mp member]
  exact Step.exists_contentKey_ofParams "select" "columns" (.list (by
    intro item member
    rw [List.mem_singleton.mp member]
    exact .text "name"))

/-- A workspace with a table that was opened with steps, which are not evaluated yet. -/
def opened (steps : List Step) : Workspace :=
  (start {} { surroundings := ⟨[], []⟩ } .deferred).step (.openTable .idAndName "t" steps)

/-- A note is lost, and a column is missing after steps that the view does not show yet. -/
theorem line_not_read_back :
    (Operation.ofStep notedSelection = .ok (.select ["id"]) ∧
      notedSelection.describe = .ok "select id" ∧
      (opened []).activeTab?.map (·.view.header) = some ["id", "name"] ∧
      ¬ (opened []).Executes "select id" true fun after => ∃ pushed last,
        after.activeTab? = some pushed ∧ pushed.pipeline.steps.getLast? = some last ∧
          notedSelection.sameAs last = .ok true) ∧
    (Step.selection.describe = .ok "select id" ∧
      (opened [nameSelection]).activeTab?.map (·.view.header) = some ["id", "name"] ∧
      ¬ (opened [nameSelection]).Executes "select id" true fun _ => True) := by
  have plain : ∀ name ∈ ["id"], Command.Plain name := by
    intro name member
    rw [List.mem_singleton.mp member]
    exact ⟨Words.isWord_of_all (by decide) (by decide), by decide⟩
  have isCommand (workspace : Workspace) :
      workspace.commandOf "select id" = .ok ⟨.select, ["id"], "id"⟩ :=
    Command.parse_select _ (plain "id" List.mem_cons_self).isWord
  have performs : Execution.perform ⟨.select, ["id"], "id"⟩ =
      (Act.pushStep .selection >>= fun _ => pure { message := "select id" }) :=
    Execution.perform_select (List.cons_ne_nil _ _) plain
  have sound (steps : List Step) : (opened steps).Sound := (sound_start ..).step _
  have isNoted : Operation.ofStep notedSelection = .ok (.select ["id"]) := by
    apply ofStep_of_idColumn rfl
    simp [notedSelection, Step.ofParams, Step.param, Step.param?, Datum.valueAt?]
  refine ⟨⟨isNoted, rfl, rfl, ?_⟩, rfl, ?_⟩
  · intro executes
    rcases activeTab?_openTable_nil {} { surroundings := ⟨[], []⟩ } .deferred .idAndName "t" with
      ⟨tab, isActive, isLoaded, isPipeline⟩
    have noted := (activeTab?_noting (opened []) "select id" true).trans isActive
    rcases run_of_executes_push (isCommand _) performs executes with
      ⟨after, ran, other, last, otherActive, isLast, same⟩
    rcases ((sound []).noting _ _).pushed noted isLoaded ran with
      ⟨_, _, pushed, nowActive, _, _, isPushed⟩
    cases nowActive.symm.trans otherActive
    rw [isPushed.steps, List.getLast?_concat] at isLast
    cases isLast
    rcases Step.sameAs_eq_true_iff.mp same with ⟨key, left, right⟩
    have notes := Json.filter_entryForms_of_form_eq (Step.parts_of_contentKey left right).2 "note"
    simp [Step.selection, notedSelection, Step.ofParams, Json.entryForms, Json.nameForm] at notes
  · rcases activeTab?_openTable {} { surroundings := ⟨[], []⟩ } .deferred .idAndName "t" nameSelection with
      ⟨tab, isActive, _, isLoaded, isPipeline⟩
    rcases Pipeline.start_request .idAndName "df" 16 keyed_nameSelection (List.cons_ne_nil _ _) with
      ⟨generation, pending, made⟩
    have isUnshown : tab.pipeline = { Pipeline.start .idAndName [nameSelection] "df" 16 with
      generation, pending } := isPipeline.trans made
    refine ⟨?_, fun executes => ?_⟩
    · have header : tab.view.header = ["id", "name"] := by
        rw [Tab.view, isUnshown]
        rfl
      have active : (opened [nameSelection]).activeTab? = some tab := isActive
      rw [active, Option.map_some, header]
    · have noted := (activeTab?_noting (opened [nameSelection]) "select id" true).trans isActive
      rcases run_of_executes_push (isCommand _) performs executes with ⟨after, ran, _⟩
      rcases (((sound _).noting _ _).exists_run_pushStep_iff noted isLoaded).mp ⟨after, ran⟩ with
        ⟨answer, accepted⟩
      have admitted : tab.pipeline.admits .selection = .ok () := by
        rw [Pipeline.push] at accepted
        split at accepted
        · assumption
        · cases accepted
      rcases (Pipeline.admits_iff_offers ofStep_selection).mp admitted with ⟨schema, isSchema, known⟩
      have isNames : tab.pipeline.schema = .ok (Schema.ofTypes [("name", .string)]) := by
        rw [isUnshown]
        rfl
      cases isSchema.symm.trans isNames
      exact absurd (known ["name"] rfl "id" List.mem_cons_self) (by decide)

end Workspace

end TableBrowser
