import TableBrowser.Proofs.Pipeline.Documents
import TableBrowser.Proofs.Pipeline.Faults
import TableBrowser.Proofs.Storage.Writing
import TableBrowser.Proofs.Workspace.Orderly
import TableBrowser.Proofs.Workspace.Refusal
/-!
# Lines without a reply

A line is answered, if need be with an error, but for a few commands that a fault
stops. Main statement: in every run that no fault has stopped yet, a line that is
not one of them has a reply.
-/

namespace TableBrowser

namespace Execution

open Workspace (Sound Orderly)

/-- The commands that a fault may stop. -/
inductive Unexpected (workspace : Workspace) (command : Command) : Prop
  /-- A whole number in a condition has too many digits. -/
  | numeral (isFilter : command.verb = .filter)
      (long : Expression.LongNumeralIn command.raw.toList)
  | unkeyed (isEdit : command.verb ∈ [.filter, .select, .order, .sql, .undo, .duplicateTab])
      (unkeyed : Unkeyed workspace)
  | pattern {request : Command.FindRequest} {fault : Fault} (isFind : command.verb = .find)
      (isRequest : Command.findRequest command.raw = .ok request)
      (isRegex : request.mode.getD workspace.search.query.mode = .regex)
      (failed : PatternText.parse
        (!request.caseSensitive.getD workspace.search.query.caseSensitive) request.text =
          .error (.fault fault))
  | column (isGoTo : command.verb = .goto) (faults : GoToFaults workspace command)
  | home (isName : command.verb ∈ [.newTab, .export])
      (homeless : workspace.files.surroundings.Homeless (argument command 0))
  | save {tab : Tab} (isSave : command.verb = .savePipeline)
      (isActive : workspace.activeTab? = some tab)
      (unwritable : Document.Unwritable (argument command 0) tab.pipeline.steps tab.source)
  | load (isLoad : command.verb = .loadPipeline)
      (unreadable : Document.Unreadable workspace.files (argument command 0))
  /-- The steps of a document hold a number that is too long, or cannot be told from others. -/
  | steps {steps : List Step} {source : Option Datum} (isLoad : command.verb = .loadPipeline)
      (loaded : Document.load workspace.files (argument command 0) = .ok (steps, source))
      (faulty : (∃ step ∈ steps, step.Overlong) ∨ ¬ Keyed steps)

variable {workspace : Workspace} {command : Command}

/-! ## Edits -/

section Orderly

variable (sound : workspace.Sound) (orderly : workspace.Orderly)

include sound orderly

/-- A step that is made of texts is taken or refused where the steps before it have keys. -/
theorem long_or_unkeyed {operation name : String} {value : Datum} (textual : Json.Textual value)
    (faults : workspace.EditFaults (·.push (.ofParams operation [(name, value)]))) :
    (name = "where" ∧ ∃ source, value = .text source ∧ Expression.LongNumeralIn source.toList) ∨
      Unkeyed workspace := by
  rcases faults with ⟨tab, fault, isActive, isLoaded, failed⟩
  have member := List.mem_of_getElem? isActive
  have consistent := ((sound.tabs tab member).ready isLoaded).pipeline.toConsistent
  rcases Step.exists_contentKey_ofParams operation name textual with ⟨key, isKey⟩
  have known := consistent.faults_push (orderly tab member).valid isKey
  rcases known.of_fault failed with long | unkeyed
  · exact .inl (Step.long_of_overlong textual long)
  · exact .inr ⟨tab, isActive, isLoaded, unkeyed⟩

/-- A step that is no condition cannot be too long. -/
theorem unkeyed_of_push {operation name : String} {value : Datum} (textual : Json.Textual value)
    (noCondition : name ≠ "where")
    (faults : workspace.EditFaults (·.push (.ofParams operation [(name, value)]))) :
    Unkeyed workspace :=
  (long_or_unkeyed sound orderly textual faults).resolve_left fun long => noCondition long.1

omit sound orderly in
theorem unkeyed_of_undo (faults : workspace.EditFaults (·.undo)) : Unkeyed workspace := by
  rcases faults with ⟨tab, fault, isActive, isLoaded, failed⟩
  exact ⟨tab, isActive, isLoaded, Outcome.FaultsOnly.of_fault tab.pipeline.faults_undo failed⟩

omit sound orderly in
theorem not_faults_reset : ¬ workspace.EditFaults (·.reset) := by
  rintro ⟨tab, fault, _, _, failed⟩
  exact tab.pipeline.faultless_reset.ne_fault fault failed

/-! ## The cell under the cursor -/

omit sound in
theorem not_recordFaults : ¬ RecordFaults workspace := by
  rintro ⟨tab, fault, isActive, notEmpty, failed⟩
  have inView : tab.cursor.row < tab.view.rowCount := by
    have row := (orderly tab (List.mem_of_getElem? isActive)).row
    omega
  have fields : ∃ fields, Act.fieldsOf tab.view tab.cursor.row = .ok fields := by
    refine mapM_succeeds fun column member => ?_
    have inColumn : tab.cursor.row < column.values.length := by
      rwa [tab.view.aligned column member]
    simp [List.getElem?_eq_getElem inColumn]
  rcases fields with ⟨fields, areFields⟩
  cases areFields.symm.trans failed

omit sound in
theorem not_cellFaults : ¬ CellFaults workspace := by
  rintro ⟨tab, isActive, hasRows, hasColumns, outside⟩
  have isOrderly := orderly tab (List.mem_of_getElem? isActive)
  have row : tab.cursor.row < tab.view.rowCount := by
    have least := isOrderly.row
    omega
  have column : tab.cursor.column < tab.view.columnCount := by
    have least := isOrderly.column
    omega
  rcases outside with noName | ⟨fault, failed⟩
  · rw [List.getElem?_eq_none_iff, Table.header, List.length_map] at noName
    exact absurd column (Nat.not_lt.mpr noName)
  · have inRows : Table.resolveIndex tab.view.rowCount tab.cursor.row = some tab.cursor.row := by
      simp [Table.resolveIndex, row]
    have inColumns : Table.resolveIndex tab.view.columnCount tab.cursor.column =
        some tab.cursor.column := by
      simp [Table.resolveIndex, column]
    rw [Table.cell, inColumns, inRows] at failed
    cases failed

omit sound in
theorem not_descriptionFaults : ¬ DescriptionFaults workspace := by
  rintro ⟨tab, step, fault, isActive, member, failed⟩
  rcases Step.exists_describe ((orderly tab (List.mem_of_getElem? isActive)).valid step member) with
    ⟨text, isText⟩
  cases isText.symm.trans failed

end Orderly

/-! ## Other commands -/

theorem pattern_of_findFaults (isFind : command.verb = .find)
    (faults : FindFaults workspace command) : Unexpected workspace command := by
  rcases faults with ⟨tab, request, fault, _, isRequest, failed⟩
  rcases Outcome.FaultsOnly.of_fault (Search.faults_setQuery _ _ _ _ _) failed with
    ⟨isRegex, fault, noPattern⟩
  exact .pattern isFind isRequest isRegex noPattern

theorem home_of_exportFaults (isExport : command.verb = .export)
    (faults : ExportFaults workspace command) : Unexpected workspace command := by
  rcases faults with ⟨tab, fault, _, unnamed | ⟨destination, isDestination, failed⟩⟩
  · exact .home (by simp [isExport])
      (Outcome.FaultsOnly.of_fault (Destination.faults_ofName _ _ _ _) unnamed)
  · have noOptions := Destination.options_ofName isDestination
    exact absurd failed ((Destination.faultless_write noOptions _ _).ne_fault fault)

theorem save_of_saveFaults (isSave : command.verb = .savePipeline)
    (faults : SaveFaults workspace command) : Unexpected workspace command := by
  rcases faults with ⟨tab, fault, isActive, failed⟩
  refine .save isSave isActive ?_
  cases isSource : tab.source with
  | none =>
      rw [isSource] at failed
      have kept : ∃ document, Document.ofSteps tab.pipeline.steps none = .ok document := ⟨_, rfl⟩
      rcases kept with ⟨document, isKept⟩
      exact Outcome.FaultsOnly.of_fault (Document.faults_save _ _ isKept isKept) failed
  | some source =>
      rw [isSource] at failed
      rcases failed with noDocument | ⟨given, isGiven, unsaved⟩
      · rcases Document.options_of_document noDocument with ⟨fault, noEntries⟩
        exact .options rfl noEntries
      · rcases Document.exists_ofSteps isGiven tab.pipeline.steps with ⟨document, isKept⟩
        exact Outcome.FaultsOnly.of_fault
          (Document.faults_save _ _ isKept ⟨given, isGiven, isKept⟩) unsaved

theorem load_of_loadFaults (isLoad : command.verb = .loadPipeline)
    (faults : LoadFaults workspace command) : Unexpected workspace command := by
  rcases faults with ⟨fault, failed⟩ | ⟨steps, document, loaded, faults⟩
  · exact .load isLoad (Outcome.FaultsOnly.of_fault (Document.faults_load _ _) failed)
  · rcases faults with ⟨tab, fault, _, _, failed⟩ | ⟨source, fault, isSource, _, failed⟩
    · exact .steps isLoad loaded ((tab.pipeline.faults_replace steps).of_fault failed)
    · rw [isSource] at loaded
      exact absurd failed ((Document.faultless_sourceOf_load loaded).ne_fault fault)

/-- A fault stops no other command. -/
theorem unexpected_of_faults (sound : workspace.Sound) (orderly : workspace.Orderly)
    (faults : Faults workspace command) : Unexpected workspace command := by
  have texts (items : List String) : Json.Textual (.list (items.map .text)) :=
    .list fun datum member => by
      rcases List.mem_map.mp member with ⟨text, _, rfl⟩
      exact .text text
  unfold Faults at faults
  cases isVerb : command.verb <;> rw [isVerb] at faults
  case filter =>
    rcases long_or_unkeyed sound orderly (.text command.raw) faults with
      ⟨_, source, isSource, long⟩ | unkeyed
    · cases isSource
      exact .numeral isVerb long
    · exact .unkeyed (by simp [isVerb]) unkeyed
  case select =>
    exact .unkeyed (by simp [isVerb]) (unkeyed_of_push sound orderly (texts _) (by decide) faults)
  case order =>
    refine .unkeyed (by simp [isVerb]) (unkeyed_of_push sound orderly ?_ (by decide) faults)
    refine .list fun datum member => ?_
    rcases List.mem_map.mp member with ⟨key, _, rfl⟩
    exact texts [key.column, key.direction.word]
  case sql =>
    exact .unkeyed (by simp [isVerb]) (unkeyed_of_push sound orderly (.text _) (by decide) faults)
  case undo => exact .unkeyed (by simp [isVerb]) (unkeyed_of_undo faults)
  case reset => exact absurd faults not_faults_reset
  case find => exact pattern_of_findFaults isVerb faults
  case goto => exact .column isVerb faults
  case newTab =>
    rcases faults with ⟨fault, failed⟩
    refine .home (by simp [isVerb]) (Outcome.FaultsOnly.of_fault ?_ failed)
    exact Source.faults_ofName (fun _ => Surroundings.homeless_of_normalize) _ _
  case duplicateTab => exact .unkeyed (by simp [isVerb]) faults
  case «export» => exact home_of_exportFaults isVerb faults
  case savePipeline => exact save_of_saveFaults isVerb faults
  case loadPipeline => exact load_of_loadFaults isVerb faults
  case pipeline => exact absurd faults (not_descriptionFaults orderly)
  case cell => exact absurd faults (not_cellFaults orderly)
  case record => exact absurd faults (not_recordFaults orderly)
  all_goals exact absurd faults not_false

/-- What has been typed before does not matter. -/
theorem Unexpected.of_history {history : List String}
    (unexpected : Unexpected { workspace with history } command) : Unexpected workspace command := by
  cases unexpected with
  | numeral isFilter long => exact .numeral isFilter long
  | unkeyed isEdit unkeyed => exact .unkeyed isEdit unkeyed
  | pattern isFind isRequest isRegex failed => exact .pattern isFind isRequest isRegex failed
  | column isGoTo faults => exact .column isGoTo faults
  | home isName homeless => exact .home isName homeless
  | save isSave isActive unwritable => exact .save isSave isActive unwritable
  | load isLoad unreadable => exact .load isLoad unreadable
  | steps isLoad loaded faulty => exact .steps isLoad loaded faulty

end Execution

namespace Workspace

/-- A line is answered, with an error or without, unless its command is one that a fault may stop. -/
theorem exists_reply {workspace : Workspace} (sound : workspace.Sound) (orderly : workspace.Orderly)
    (line : String) (isRecorded : Bool) (expected : ∀ command,
      workspace.commandOf line = .ok command → ¬ Execution.Unexpected workspace command) :
    ∃ reply after, Act.execute line isRecorded workspace = (.ok reply, after) := by
  have ends := Act.ends_execute sound line isRecorded
  rw [Act.Ends] at ends
  rcases ran : Act.execute line isRecorded workspace with ⟨problem | reply, after⟩
  · rw [ran] at ends
    rcases ends with ⟨fault, command, _, isCommand, faults⟩
    have unexpected := Execution.unexpected_of_faults (sound.noting line isRecorded)
      (Orderly.noting orderly line isRecorded) faults
    rcases workspace.exists_noting line isRecorded with ⟨history, made⟩
    rw [made] at unexpected
    exact absurd unexpected.of_history (expected command isCommand)
  · exact ⟨reply, after, rfl⟩

/--
In every run that no fault has stopped, every line has a reply, unless its
command is one that a fault may stop.
-/
theorem exists_reply_after (settings : Settings) (files : FileTree) (scheduling : Scheduling)
    (events : List Event) (calm : (start settings files scheduling).Calm events) (line : String)
    (isRecorded : Bool) :
    let workspace := (start settings files scheduling).after events
    (∀ command, workspace.commandOf line = .ok command →
      ¬ Execution.Unexpected workspace command) →
    ∃ reply after, Act.execute line isRecorded workspace = (.ok reply, after) := by
  intro workspace expected
  have sound := sound_start settings files scheduling
  have orderly := orderly_start settings files scheduling
  exact exists_reply (sound.after events) (calm.orderly sound orderly) line isRecorded expected

theorem exists_reply_goto :
    let opened := (start {} { surroundings := ⟨[], []⟩ } .deferred).after
      [.openTable .onlyId "t" []]
    ∃ reply after, Act.execute "goto 1 id" true opened = (.ok reply, after) := by
  intro opened
  have calm : (start {} { surroundings := ⟨[], []⟩ } .deferred).Calm
      [.openTable .onlyId "t" []] := by
    refine ⟨?_, fun fault => ?_, trivial⟩
    · exact fun step member => nomatch member
    · exact nofun
  refine exists_reply_after {} { surroundings := ⟨[], []⟩ } .deferred [.openTable .onlyId "t" []]
    calm "goto 1 id" true fun command isCommand unexpected => ?_
  have isGoTo : opened.commandOf "goto 1 id" = .ok ⟨.goto, ["1", "id"], "1 id"⟩ := rfl
  cases isGoTo.symm.trans isCommand
  cases unexpected with
  | numeral isFilter => cases isFilter
  | unkeyed isEdit => simp at isEdit
  | pattern isFind => cases isFind
  | home isName => simp at isName
  | save isSave => cases isSave
  | load isLoad => cases isLoad
  | steps isLoad => cases isLoad
  | column _ faults =>
      rcases faults with ⟨tab, _, name, isActive, _, isName, unnamed, _⟩
      cases isName
      have named : opened.activeTab?.map (·.view.indexOf? "id") = some (some 0) := rfl
      rw [isActive, Option.map_some, unnamed] at named
      cases named

/-- A superscript is a digit to the check of a column, but no number can be made of it. -/
theorem stopped_goto : ∃ after, Act.execute "goto 1 ²" true
    ((start {} { surroundings := ⟨[], []⟩ } .deferred).after [.openTable .onlyId "t" []]) =
      (.error (.fault (.notDecimal "²")), after) := ⟨_, rfl⟩

end Workspace

end TableBrowser
