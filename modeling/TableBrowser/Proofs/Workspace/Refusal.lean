import TableBrowser.Proofs.Workspace.Endings
import TableBrowser.Proofs.Workspace.Run
/-!
# Commands that fail

A command reads what it needs and checks it before it changes anything. Main
statement: a line whose reply is an error leaves the workspace of every run as it
was, but for the history; the one file that it may have changed is that of an
export that broke off. What a fault may stop is told beside each command.
-/

namespace TableBrowser

/-! ## Reading a line -/

namespace Words

theorem faultless_split (line : String) : (split line).Faultless := by
  unfold split
  split
  · exact Raises.pure _
  · exact Outcome.faultsOnly_fail _

theorem faultless_unquote (text : String) : (unquote text).Faultless := by
  unfold unquote
  split
  · split
    · refine Raises.bind (faultless_split text) fun words => ?_
      split
      · exact Raises.pure _
      · exact Raises.pure _
    · exact Raises.pure _
  · exact Raises.pure _

end Words

namespace Command

theorem faultless_lookUp (suggestion : Suggestion) (name : String) :
    (lookUp suggestion name).Faultless := by
  unfold lookUp
  split
  · exact Raises.pure _
  · exact Outcome.faultsOnly_fail _

/-- Whatever is typed, it is a command or there is a reason why it is none. -/
theorem faultless_parse (suggestion : Suggestion) (line : String) :
    (parse suggestion line).Faultless := by
  refine Raises.bind (Words.faultless_split line) fun words => ?_
  cases words with
  | nil => exact Outcome.faultsOnly_fail _
  | cons first arguments =>
      refine Raises.bind (faultless_lookUp suggestion first) fun verb => ?_
      simp only
      split
      · exact Raises.bind (Words.faultless_unquote _) fun _ => Raises.pure _
      · exact Raises.pure _

theorem faultless_findOptions (steps : Nat) (request : FindRequest) (chars : List Char) :
    (findOptions steps request chars).Faultless := by
  induction steps generalizing request chars with
  | zero => exact Raises.pure _
  | succ steps induction =>
      unfold findOptions
      split
      · exact Raises.pure _
      · next flag rest _ =>
        split
        · exact Raises.pure _
        · split
          · exact induction _ rest
          · split
            · exact Outcome.faultsOnly_fail _
            · exact Raises.pure _

theorem faultless_findRequest (raw : String) : (findRequest raw).Faultless := by
  refine Raises.bind (faultless_findOptions _ _ _) fun taken => ?_
  exact Raises.bind (Words.faultless_unquote _) fun _ => Raises.pure _

end Command

/-! ## Commands -/

namespace Execution

open Act

/-- A command that goes well answers without an error; where it fails, everything is as it was. -/
abbrev Answers (act : Act Reply) (workspace : Workspace) (faulty : Prop) : Prop :=
  act.Ends workspace (fun reply _ => reply.error = none) (Refused workspace faulty)

variable {α : Type} {workspace : Workspace} {faulty : Prop}

theorem ends_missing {returns : α → Workspace → Prop} (command : Command) (what : String) :
    (missing command what : Act α).Ends workspace returns (Refused workspace faulty) :=
  Ends.fail _

theorem ends_requireRaw (command : Command) (what : String) :
    (requireRaw command what).Ends workspace
      (fun raw after => after = workspace ∧ raw = command.raw) (Refused workspace faulty) :=
  Ends.ite (fun _ => ends_missing command what) fun _ => Ends.pure ⟨rfl, rfl⟩

theorem ends_checkArity (command : Command) (least most : Nat) :
    (checkArity command least most).Ends workspace (fun _ after => after = workspace ∧ True)
      (Refused workspace faulty) :=
  Ends.ite (fun _ => Ends.fail _) fun _ => Ends.pure ⟨rfl, trivial⟩

/-- A command whose last step is to tell what it has done. -/
theorem answers_telling {act : Act α} {message : Workspace → String} {quits : Workspace → Bool}
    (spares : act.Spares workspace faulty) :
    Answers (act >>= fun _ => (get : Act Workspace) >>= fun after =>
      pure { message := message after, quit := quits after }) workspace faulty :=
  Ends.concluded spares fun _ _ _ => Ends.bind_get (Ends.pure rfl)

/-! ### Steps -/

section Sound

variable (sound : workspace.Sound) (command : Command)

include sound

/-- A command that edits the steps and tells of it. -/
theorem answers_edit {change : Pipeline → Pipeline.Edited} (isEdit : Pipeline.IsEdit change)
    {message : String} :
    Answers (edit change >>= fun _ => pure { message }) workspace (workspace.EditFaults change) :=
  Ends.concluded (ends_edit sound isEdit) fun _ _ _ => Ends.pure rfl

theorem answers_filter : Answers (filter command) workspace
    (workspace.EditFaults (·.push (.ofParams "filter" [("where", .text command.raw)]))) := by
  refine Ends.reading (ends_requireRaw command _) fun raw isRaw => ?_
  rw [isRaw]
  exact answers_edit sound (Pipeline.isEdit_push _)

theorem answers_select : Answers (select command) workspace
    (workspace.EditFaults (·.push (.ofParams "select"
      [("columns", .list ((Command.columns command.arguments).map .text))]))) := by
  unfold select
  simp only
  refine Ends.check (ends_missing command _) fun _ => ?_
  exact answers_edit sound (Pipeline.isEdit_push _)

theorem answers_order : Answers (order command) workspace
    (workspace.EditFaults (·.push (.ofParams "order"
      [("keys", .list ((Command.sortKeys command.arguments).map fun key =>
        .list [.text key.column, .text key.direction.word]))]))) := by
  unfold order
  simp only
  refine Ends.check (ends_missing command _) fun _ => ?_
  exact answers_edit sound (Pipeline.isEdit_push _)

theorem answers_sql : Answers (sql command) workspace
    (workspace.EditFaults (·.push (.ofParams "sql" [("statement", .text command.raw)]))) := by
  refine Ends.reading (ends_requireRaw command _) fun raw isRaw => ?_
  rw [isRaw]
  exact answers_edit sound (Pipeline.isEdit_push _)

theorem answers_undoStep :
    Answers (undoStep command) workspace (workspace.EditFaults (·.undo)) := by
  refine Ends.reading (ends_checkArity command 0 0) fun _ _ => ?_
  refine Ends.concluded (ends_edit sound Pipeline.isEdit_undo) fun _ after isActive => ?_
  exact Ends.bind ((ends_requireTab_of_active isActive).returning fun _ _ _ => Ends.pure rfl)

theorem answers_resetSteps :
    Answers (resetSteps command) workspace (workspace.EditFaults (·.reset)) :=
  Ends.reading (ends_checkArity command 0 0) fun _ _ => answers_edit sound Pipeline.isEdit_reset

end Sound

/-! ### Searching and moving -/

/-- What is to be found cannot be searched for, and it is a fault that says so. -/
def FindFaults (workspace : Workspace) (command : Command) : Prop :=
  ∃ tab request fault, workspace.activeTab? = some tab ∧
    Command.findRequest command.raw = .ok request ∧
    workspace.search.setQuery tab.view request.text request.mode request.caseSensitive =
      .error (.fault fault)

theorem answers_findText (command : Command) :
    Answers (findText command) workspace (FindFaults workspace command) := by
  refine Ends.reading (ends_requireRaw command _) fun raw isRaw => ?_
  rw [isRaw]
  refine Ends.reading (ends_ofOutcome fun fault failed => ?_) fun request isRequest => ?_
  · exact absurd failed ((Command.faultless_findRequest command.raw).ne_fault fault)
  · refine Ends.check (ends_missing command _) fun _ => answers_telling (Ends.discard ?_)
    refine (ends_find _ _ _).faulting ?_
    rintro ⟨tab, fault, isActive, failed⟩
    exact ⟨tab, request, fault, isActive, isRequest, failed⟩

theorem answers_findAgain (backwards : Bool) : Answers (findAgain backwards) workspace faulty :=
  answers_telling (Ends.discard (ends_findNext backwards))

/-- A column is called by digits that do not make a number. -/
def NamesNoNumber (view : Table) (text : String) : Prop :=
  view.indexOf? text = none ∧ text.isEmpty = false ∧ text.toList.all Text.isDigit = true ∧
    Numeral.int? text = none

theorem ends_columnPlace (text : String) :
    (columnPlace text).Ends workspace (fun _ after => after = workspace ∧ True)
      (Refused workspace (∃ tab, workspace.activeTab? = some tab ∧ NamesNoNumber tab.view text)) := by
  refine Ends.reading (ends_requireTab fun _ => rfl) fun tab isActive => ?_
  simp only
  split
  · exact Ends.pure ⟨rfl, trivial⟩
  · next unnamed =>
    split
    · next digits =>
      rw [Bool.and_eq_true, Bool.not_eq_true'] at digits
      split
      · exact Ends.ite (fun _ => Ends.pure ⟨rfl, trivial⟩) fun _ => Ends.fail _
      · next noNumber =>
        exact Ends.fault ⟨tab, isActive, unnamed, digits.1, digits.2, noNumber⟩
    · exact Ends.fail _

/-- The column to go to is called by digits that do not make a number. -/
def GoToFaults (workspace : Workspace) (command : Command) : Prop :=
  ∃ tab row name, workspace.activeTab? = some tab ∧
    Numeral.int? (argument command 0) = some row ∧ command.arguments[1]? = some name ∧
    NamesNoNumber tab.view name

theorem answers_goTo (command : Command) :
    Answers (goTo command) workspace (GoToFaults workspace command) := by
  refine Ends.reading (ends_checkArity command 1 2) fun _ _ => ?_
  simp only
  split
  · next row isRow =>
    have moved (column : Option Int) {message : Tab → String} :
        Answers (moveTo (row - 1) column >>= fun _ => requireTab >>= fun tab =>
          pure { message := message tab }) workspace (GoToFaults workspace command) := by
      refine Ends.concluded (ends_moveTo (row - 1) column) fun _ after isActive => ?_
      exact Ends.bind ((ends_requireTab_of_active isActive).returning fun _ _ _ => Ends.pure rfl)
    split
    · next name isNamed =>
      refine Ends.reading ((ends_columnPlace name).faulting ?_) fun _ _ => moved _
      rintro ⟨tab, isActive, noNumber⟩
      exact ⟨tab, row, name, isActive, isRow, isNamed, noNumber⟩
    · exact moved _
  · exact Ends.fail _

theorem answers_motion (command : Command) {move : Act Unit} (moves : move.Spares workspace faulty) :
    Answers (motion command move) workspace faulty := by
  refine Ends.reading (ends_checkArity command 0 0) fun _ _ => ?_
  exact Ends.concluded moves fun _ _ _ => Ends.pure rfl

/-- A move to a place that depends on the tab. -/
theorem spares_moveFor {row : Tab → Int} {column : Tab → Option Int} :
    (requireTab >>= fun tab => moveTo (row tab) (column tab)).Spares workspace faulty :=
  Ends.reading (ends_requireTab fun _ => rfl) fun _ _ => (ends_moveTo _ _).returning fun _ _ _ => trivial

/-! ### Tabs -/

section Usable

variable (usable : workspace.search.Usable)

include usable

theorem answers_switch (places : Int) : Answers (switch places) workspace faulty :=
  answers_telling (ends_switchTab usable places).certain

/-- The name of a source cannot be read. -/
def OpenFaults (workspace : Workspace) (command : Command) : Prop :=
  ∃ fault, Source.ofName workspace.files.surroundings (argument command 0)
    (formatArgument command) (.mapping []) = .error (.fault fault)

theorem answers_newTab (command : Command) :
    Answers (newTab command) workspace (OpenFaults workspace command) := by
  refine Ends.reading (ends_checkArity command 1 2) fun _ _ => Ends.bind_get ?_
  refine Ends.reading (ends_ofOutcome fun fault failed => ⟨fault, failed⟩) fun source _ => ?_
  exact Ends.concluded (ends_openSource usable source []).certain fun _ _ _ => Ends.pure rfl

theorem answers_close : Answers close workspace faulty := answers_telling (ends_closeTab usable)

/-- The steps of the active tab cannot be told from others. -/
def Unkeyed (workspace : Workspace) : Prop :=
  ∃ tab, workspace.activeTab? = some tab ∧ tab.isLoading = false ∧ ¬ Keyed tab.pipeline.steps

theorem answers_duplicate : Answers duplicate workspace (Unkeyed workspace) := by
  refine Ends.reading (ends_requireTab fun _ => rfl) fun tab _ => ?_
  exact Ends.concluded (ends_duplicateTab usable) fun _ _ _ => Ends.pure rfl

/-- The row under the cursor is not there. -/
def RecordFaults (workspace : Workspace) : Prop :=
  ∃ tab fault, workspace.activeTab? = some tab ∧ tab.view.rowCount ≠ 0 ∧
    fieldsOf tab.view tab.cursor.row = .error fault

theorem answers_record (command : Command) :
    Answers (record command) workspace (RecordFaults workspace) := by
  refine Ends.reading (ends_checkArity command 0 0) fun _ _ => ?_
  exact answers_telling (ends_openRecord usable)

end Usable

/-! ### Files -/

/-- The destination cannot be named, or writing to it meets a fault that no failure tells of. -/
def ExportFaults (workspace : Workspace) (command : Command) : Prop :=
  ∃ tab fault, workspace.activeTab? = some tab ∧
    (Destination.ofName workspace.files (argument command 0) (formatArgument command)
        (.mapping []) = .error (.fault fault) ∨
      ∃ destination, Destination.ofName workspace.files (argument command 0)
          (formatArgument command) (.mapping []) = .ok destination ∧
        (destination.write workspace.files tab.view).2 = .error (.fault fault))

theorem Refused.withFiles {problem : Problem} {after : Workspace}
    (refused : Refused workspace faulty problem after) :
    Refused { workspace with files := after.files } faulty problem after := by
  cases problem with
  | fault fault => exact refused
  | failure cause stepIndex =>
      have same : after = workspace := refused
      rw [same]
      rfl

/-- An export that breaks off may have written a part of its file. -/
theorem ends_exportView (command : Command) : (exportView command).Ends workspace
    (fun reply _ => reply.error = none) fun problem after =>
      Refused { workspace with files := after.files } (ExportFaults workspace command) problem after := by
  refine Ends.reading ((ends_checkArity command 1 2).mono (fun _ _ holds => holds)
    fun _ _ => Refused.withFiles) fun _ _ => ?_
  refine Ends.reading (ends_requireTab fun _ => rfl) fun tab isActive => Ends.bind_get ?_
  refine Ends.reading ((ends_ofOutcome fun fault failed => ?_).mono (fun _ _ holds => holds)
    fun _ _ => Refused.withFiles) fun destination isDestination => Ends.bind_get ?_
  · exact ⟨tab, fault, isActive, .inl failed⟩
  · rcases written : destination.write workspace.files tab.view with ⟨files, outcome⟩
    refine Ends.bind (Ends.modify (Ends.bind ?_))
    rw [Ends, run_ofOutcome]
    rcases outcome with (_ | fault) | value
    · rfl
    · exact ⟨tab, fault, isActive, .inr ⟨destination, isDestination, by rw [written]⟩⟩
    · exact Ends.pure rfl

/-- The source of a tab has no document, or the document cannot be saved. -/
def SaveFaults (workspace : Workspace) (command : Command) : Prop :=
  ∃ tab fault, workspace.activeTab? = some tab ∧
    match tab.source with
    | none => Document.save workspace.files (argument command 0) tab.pipeline.steps none =
        .error (.fault fault)
    | some source => source.document = .error fault ∨ ∃ document, source.document = .ok document ∧
        Document.save workspace.files (argument command 0) tab.pipeline.steps (some document) =
          .error (.fault fault)

theorem answers_savePipeline (command : Command) :
    Answers (savePipeline command) workspace (SaveFaults workspace command) := by
  refine Ends.reading (ends_checkArity command 1 1) fun _ _ => ?_
  refine Ends.reading (ends_requireTab fun _ => rfl) fun tab isActive => ?_
  have saved {document : Option Datum} {message : String} (known : ∀ fault,
      Document.save workspace.files (argument command 0) tab.pipeline.steps document =
        .error (.fault fault) → SaveFaults workspace command) :
      Answers ((get : Act Workspace) >>= fun workspace =>
        ofOutcome (Document.save workspace.files (argument command 0) tab.pipeline.steps document) >>=
          fun files => (modify fun workspace => { workspace with files } : Act Unit) >>= fun _ =>
            pure { message }) workspace (SaveFaults workspace command) := by
    refine Ends.bind_get (Ends.reading (ends_ofOutcome known) fun files _ => ?_)
    exact Ends.bind (Ends.modify (Ends.pure rfl))
  split
  · next source isSource =>
    refine Ends.reading (ends_ofFaulty fun fault failed => ?_) fun document isDocument => ?_
    · exact ⟨tab, fault, isActive, by rw [isSource]; exact .inl failed⟩
    · apply Ends.bind_pure
      refine saved fun fault failed => ⟨tab, fault, isActive, ?_⟩
      rw [isSource]
      exact .inr ⟨document, isDocument, failed⟩
  · next noSource =>
    apply Ends.bind_pure
    exact saved fun fault failed => ⟨tab, fault, isActive, by rw [noSource]; exact failed⟩

/-- A document cannot be read, its steps cannot be taken, or its source cannot be named. -/
def LoadFaults (workspace : Workspace) (command : Command) : Prop :=
  (∃ fault, Document.load workspace.files (argument command 0) = .error (.fault fault)) ∨
    ∃ steps document, Document.load workspace.files (argument command 0) = .ok (steps, document) ∧
      (workspace.EditFaults (·.replace steps) ∨
        ∃ source fault, document = some source ∧ workspace.activeTab? = none ∧
          sourceOf workspace.files.surroundings source = .error (.fault fault))

theorem answers_loadPipeline (sound : workspace.Sound) (command : Command) :
    Answers (loadPipeline command) workspace (LoadFaults workspace command) := by
  refine Ends.reading (ends_checkArity command 1 1) fun _ _ => Ends.bind_get ?_
  refine Ends.reading (ends_ofOutcome fun fault failed => .inl ⟨fault, failed⟩) ?_
  rintro ⟨steps, document⟩ loaded
  refine Ends.bind_get ?_
  split
  · refine (answers_edit sound (Pipeline.isEdit_replace steps)).faulting fun faults => ?_
    exact .inr ⟨steps, _, loaded, .inl faults⟩
  · exact Ends.fail _
  · next source noTab =>
    refine Ends.bind_get (Ends.reading (ends_ofOutcome fun fault failed => ?_) fun made _ => ?_)
    · exact .inr ⟨steps, _, loaded, .inr ⟨source, fault, rfl, noTab, failed⟩⟩
    · exact Ends.concluded (ends_openSource sound.search made steps).certain fun _ _ _ => Ends.pure rfl

/-! ### Information -/

theorem answers_schema : Answers schema workspace faulty :=
  Ends.reading (ends_requireTab fun _ => rfl) fun _ _ => Ends.pure rfl

/-- A step cannot be described. -/
def DescriptionFaults (workspace : Workspace) : Prop :=
  ∃ tab step fault, workspace.activeTab? = some tab ∧ step ∈ tab.pipeline.steps ∧
    step.describe = .error fault

theorem answers_pipeline : Answers pipeline workspace (DescriptionFaults workspace) := by
  refine Ends.reading (ends_requireTab fun _ => rfl) fun tab isActive =>
    Ends.ite (fun _ => Ends.pure rfl) fun _ => ?_
  refine Ends.reading (ends_mapM fun numbered member => ?_) fun _ _ => Ends.pure rfl
  refine Ends.reading (ends_ofFaulty fun fault failed => ?_) fun _ _ => Ends.pure ⟨rfl, trivial⟩
  exact ⟨tab, numbered.1, fault, isActive, List.fst_mem_of_mem_zipIdx member, failed⟩

theorem answers_history : Answers history workspace faulty := Ends.bind_get (Ends.pure rfl)

/-- There are cells, but none is under the cursor. -/
def CellFaults (workspace : Workspace) : Prop :=
  ∃ tab, workspace.activeTab? = some tab ∧ tab.view.rowCount ≠ 0 ∧ tab.view.columnCount ≠ 0 ∧
    (tab.view.header[tab.cursor.column]? = none ∨
      ∃ fault, tab.view.cell tab.cursor.row tab.cursor.column = .error fault)

theorem answers_cell : Answers cell workspace (CellFaults workspace) := by
  refine Ends.reading (ends_requireTab fun _ => rfl) fun tab isActive => ?_
  simp only
  split
  · exact Ends.pure rfl
  · next notEmpty =>
    rw [Bool.or_eq_true, not_or, decide_eq_true_eq, decide_eq_true_eq] at notEmpty
    split
    · refine Ends.reading (ends_ofFaulty fun fault failed => ?_) fun _ _ => Ends.pure rfl
      exact ⟨tab, isActive, notEmpty.1, notEmpty.2, .inr ⟨fault, failed⟩⟩
    · next noName =>
      refine Ends.fault ⟨tab, isActive, notEmpty.1, notEmpty.2, .inl ?_⟩
      exact Option.eq_none_iff_forall_ne_some.mpr noName

theorem answers_help (command : Command) : Answers (help command) workspace faulty := by
  refine Ends.reading (ends_checkArity command 0 1) fun _ _ => ?_
  split
  · exact Ends.pure rfl
  · refine Ends.reading (ends_ofOutcome fun fault failed => ?_) fun _ _ => Ends.pure rfl
    exact absurd failed ((Command.faultless_lookUp _ _).ne_fault fault)

/-! ### All commands -/

/-- Where a command may meet a fault. -/
def Faults (workspace : Workspace) (command : Command) : Prop :=
  match command.verb with
  | .filter =>
      workspace.EditFaults (·.push (.ofParams "filter" [("where", .text command.raw)]))
  | .select => workspace.EditFaults (·.push (.ofParams "select"
      [("columns", .list ((Command.columns command.arguments).map .text))]))
  | .order => workspace.EditFaults (·.push (.ofParams "order"
      [("keys", .list ((Command.sortKeys command.arguments).map fun key =>
        .list [.text key.column, .text key.direction.word]))]))
  | .sql => workspace.EditFaults (·.push (.ofParams "sql" [("statement", .text command.raw)]))
  | .undo => workspace.EditFaults (·.undo)
  | .reset => workspace.EditFaults (·.reset)
  | .find => FindFaults workspace command
  | .goto => GoToFaults workspace command
  | .newTab => OpenFaults workspace command
  | .duplicateTab => Unkeyed workspace
  | .export => ExportFaults workspace command
  | .savePipeline => SaveFaults workspace command
  | .loadPipeline => LoadFaults workspace command
  | .pipeline => DescriptionFaults workspace
  | .cell => CellFaults workspace
  | .record => RecordFaults workspace
  | _ => False

theorem answers_perform (sound : workspace.Sound) (command : Command)
    (noExport : command.verb ≠ .export) :
    Answers (perform command) workspace (Faults workspace command) := by
  unfold perform Faults
  cases isVerb : command.verb with
  | filter => exact answers_filter sound command
  | select => exact answers_select sound command
  | order => exact answers_order sound command
  | sql => exact answers_sql sound command
  | undo => exact answers_undoStep sound command
  | reset => exact answers_resetSteps sound command
  | find => exact answers_findText command
  | findNext => exact answers_findAgain false
  | findPrevious => exact answers_findAgain true
  | goto => exact answers_goTo command
  | top => exact answers_motion command ((ends_moveTo _ _).returning fun _ _ _ => trivial)
  | bottom => exact answers_motion command spares_moveFor
  | firstColumn => exact answers_motion command spares_moveFor
  | lastColumn => exact answers_motion command spares_moveFor
  | nextTab => exact answers_switch sound.search 1
  | previousTab => exact answers_switch sound.search (-1)
  | newTab => exact answers_newTab sound.search command
  | closeTab => exact answers_close sound.search
  | duplicateTab => exact answers_duplicate sound.search
  | «export» => exact absurd isVerb noExport
  | savePipeline => exact answers_savePipeline command
  | loadPipeline => exact answers_loadPipeline sound command
  | schema => exact answers_schema
  | pipeline => exact answers_pipeline
  | history => exact answers_history
  | cell => exact answers_cell
  | record => exact answers_record sound.search command
  | quit => exact Ends.bind (Ends.modify (Ends.pure rfl))
  | help => exact answers_help command

theorem ends_perform (sound : workspace.Sound) (command : Command) :
    (perform command).Ends workspace (fun reply _ => reply.error = none) fun problem after =>
      Refused { workspace with files := after.files } (Faults workspace command) problem after := by
  by_cases isExport : command.verb = .export
  · unfold perform Faults
    rw [isExport]
    exact ends_exportView command
  · exact (answers_perform sound command isExport).mono (fun _ _ holds => holds)
      fun _ _ => Refused.withFiles

end Execution

/-! ## Executing a line -/

namespace Act

open Workspace (Sound)

variable {workspace : Workspace}

/-- What a line that cannot be executed leaves behind, and which command a fault comes from. -/
theorem ends_execute (sound : workspace.Sound) (line : String) (isRecorded : Bool) :
    (execute line isRecorded).Ends workspace
      (fun reply after => reply.error.isSome = true →
        after = { workspace.noting line isRecorded with files := after.files } ∧
          (after.files ≠ workspace.files →
            ∃ command, workspace.commandOf line = .ok command ∧ command.verb = .export))
      (fun problem _ => ∃ fault command, problem = .fault fault ∧
        workspace.commandOf line = .ok command ∧
          Execution.Faults (workspace.noting line isRecorded) command) := by
  have sameFiles : (workspace.noting line isRecorded).files = workspace.files := by
    rcases workspace.exists_noting line isRecorded with ⟨history, made⟩
    rw [made]
  have noted := sound.noting line isRecorded
  refine Ends.of_run (run_execute line isRecorded) (Ends.tryCatch (Ends.bind ?_))
  generalize workspace.noting line isRecorded = before at sameFiles noted
  rw [Ends, run_ofOutcome]
  rcases isCommand : workspace.commandOf line with (_ | fault) | command
  · exact Ends.pure fun _ => ⟨rfl, fun written => absurd sameFiles written⟩
  · exact absurd isCommand ((Command.faultless_parse _ line).ne_fault fault)
  · by_cases isExport : command.verb = .export
    · refine (Execution.ends_perform noted command).mono ?_ ?_
      · intro reply after answered refused
        rw [answered] at refused
        cases refused
      · rintro (_ | fault) after refused
        · exact Ends.pure fun _ => ⟨refused, fun _ => ⟨command, rfl, isExport⟩⟩
        · exact Ends.of_error rfl ⟨fault, command, rfl, rfl, refused⟩
    · refine (Execution.answers_perform noted command isExport).mono ?_ ?_
      · intro reply after answered refused
        rw [answered] at refused
        cases refused
      · rintro (_ | fault) after refused
        · have same : after = before := refused
          rw [same]
          exact Ends.pure fun _ => ⟨rfl, fun written => absurd sameFiles written⟩
        · exact Ends.of_error rfl ⟨fault, command, rfl, rfl, refused⟩

end Act

namespace Workspace

/--
In every run, a line whose reply is an error changes nothing but the history: the
tabs with all that they hold, the search, and what is outstanding are as before.
Only an export may leave another file behind.
-/
theorem unchanged_of_refused (settings : Settings) (files : FileTree) (scheduling : Scheduling)
    (events : List Event) (line : String) (isRecorded : Bool) :
    let workspace := (start settings files scheduling).after events
    ∀ reply after, Act.execute line isRecorded workspace = (.ok reply, after) →
      reply.error.isSome = true →
      after = { workspace with history := after.history, files := after.files } ∧
        (after.files ≠ workspace.files →
          ∃ command, workspace.commandOf line = .ok command ∧ command.verb = .export) := by
  intro workspace reply after ran refused
  have sound : workspace.Sound := (sound_start settings files scheduling).after events
  have ends := Act.ends_execute sound line isRecorded
  rw [Act.Ends, ran] at ends
  rcases ends refused with ⟨same, exported⟩
  refine ⟨?_, exported⟩
  rcases workspace.exists_noting line isRecorded with ⟨history, made⟩
  rw [made] at same
  rw [same]

/-- A row has no letters for its number; the load that is under way goes on. -/
theorem unchanged_of_refused_goto :
    let workspace := (start {} { surroundings := ⟨[], []⟩ } .deferred).after
      [.openSource ⟨"t.csv", .csv, .mapping []⟩ []]
    ∃ reply after, Act.execute "goto x" true workspace = (.ok reply, after) ∧
      reply.error.isSome = true ∧ workspace.jobs.length = 1 ∧
      after = { workspace with history := after.history, files := after.files } := by
  intro workspace
  refine ⟨_, _, rfl, rfl, rfl, ?_⟩
  exact (unchanged_of_refused {} { surroundings := ⟨[], []⟩ } .deferred
    [.openSource ⟨"t.csv", .csv, .mapping []⟩ []] "goto x" true _ _ rfl rfl).1

end Workspace

end TableBrowser
