import TableBrowser.Proofs.Workspace.Commands
/-!
# What command lines keep

Every command is made of a few acts on tabs, the search and the files. Main
statement: executing a line keeps each invariant that these acts keep, whatever
the line says and also when it fails.
-/

namespace TableBrowser

open Act

/-- The acts that commands are made of keep the invariant, copies of tabs apart. -/
structure Invariant.Steady (invariant : Invariant) : Prop where
  quit : Keeps invariant (modify fun workspace => { workspace with quitRequested := true })
  files : ∀ files, Keeps invariant (modify fun workspace => { workspace with files })
  openSource : ∀ source steps, Keeps invariant (openSource source steps)
  openTable : ∀ table name, Keeps invariant (openTable table name [])
  closeTab : Keeps invariant closeTab
  switchTab : ∀ places, Keeps invariant (switchTab places)
  edit : ∀ {change}, Pipeline.IsEdit change → Keeps invariant (edit change)
  moveTo : ∀ row column, Keeps invariant (moveTo row column)
  find : ∀ text mode caseSensitive, Keeps invariant (find text mode caseSensitive)
  findNext : ∀ backwards, Keeps invariant (findNext backwards)

/-- The same, and lines that are recorded keep it too. -/
structure Invariant.Lasting (invariant : Invariant) : Prop extends Invariant.Steady invariant where
  record : ∀ line, Keeps invariant (modify (·.record line))

/-- The acts that commands are made of keep the invariant. -/
structure Invariant.Durable (invariant : Invariant) : Prop extends Invariant.Lasting invariant where
  duplicateTab : Keeps invariant duplicateTab

variable {invariant : Invariant}

/-! ## Acts made of others -/

namespace Invariant.Steady

variable (steady : invariant.Steady)

include steady

theorem moveFor (row : Tab → Int) (column : Tab → Option Int) :
    Keeps invariant (requireTab >>= fun tab => Act.moveTo (row tab) (column tab)) :=
  Keeps.bind Keeps.requireTab fun _ => steady.moveTo _ _

theorem move (rows columns : Int) : Keeps invariant (Act.move rows columns) := steady.moveFor _ _

theorem page (fraction : Binary64) : Keeps invariant (Act.page fraction) := by
  refine Keeps.bind Keeps.get fun workspace => ?_
  simp only
  split
  · exact steady.move _ _
  · exact steady.move _ _
  · exact Keeps.throw _

theorem openRecord : Keeps invariant Act.openRecord := by
  refine Keeps.bind Keeps.requireTab fun tab => Keeps.check (Keeps.fail _) ?_
  refine Keeps.bind (Keeps.ofFaulty _) fun fields => ?_
  simp only
  split
  · exact steady.openTable _ _
  · exact Keeps.fail _

end Invariant.Steady

namespace Execution

variable {α : Type}

/-! ## Arguments -/

theorem keeps_commandFails (problem : CommandProblem) :
    Keeps invariant (commandFails problem : Act α) := Keeps.fail _

theorem keeps_requireRaw (command : Command) (what : String) :
    Keeps invariant (requireRaw command what) :=
  Keeps.ite (fun _ => keeps_commandFails _) fun _ => Keeps.pure _

theorem keeps_checkArity (command : Command) (least most : Nat) :
    Keeps invariant (checkArity command least most) :=
  Keeps.ite (fun _ => keeps_commandFails _) fun _ => Keeps.pure _

/-- A command that reads the workspace at its end. -/
theorem keeps_reading {act : Act α} {answer : Workspace → Reply} (kept : Keeps invariant act) :
    Keeps invariant (act >>= fun _ => (get : Act Workspace) >>= fun workspace => pure (answer workspace)) :=
  Keeps.bind kept fun _ => Keeps.bind Keeps.get fun _ => Keeps.pure _

section Steady

variable (steady : invariant.Steady) (command : Command)

include steady

/-! ## Steps -/

/-- A command that adds a step and tells of it. -/
theorem keeps_adding (step : Step) {reply : Reply} :
    Keeps invariant (pushStep step >>= fun _ => pure reply) :=
  Keeps.bind (steady.edit (Pipeline.isEdit_push step)) fun _ => Keeps.pure _

theorem keeps_filter : Keeps invariant (filter command) :=
  Keeps.bind (keeps_requireRaw _ _) fun _ => keeps_adding steady _

theorem keeps_select : Keeps invariant (select command) := by
  unfold select
  exact Keeps.check (keeps_commandFails _) (keeps_adding steady _)

theorem keeps_order : Keeps invariant (order command) := by
  unfold order
  exact Keeps.check (keeps_commandFails _) (keeps_adding steady _)

theorem keeps_sql : Keeps invariant (sql command) :=
  Keeps.bind (keeps_requireRaw _ _) fun _ => keeps_adding steady _

theorem keeps_undoStep : Keeps invariant (undoStep command) :=
  Keeps.bind (keeps_checkArity _ _ _) fun _ =>
    Keeps.bind (steady.edit Pipeline.isEdit_undo) fun _ =>
      Keeps.bind Keeps.requireTab fun _ => Keeps.pure _

theorem keeps_resetSteps : Keeps invariant (resetSteps command) :=
  Keeps.bind (keeps_checkArity _ _ _) fun _ =>
    Keeps.bind (steady.edit Pipeline.isEdit_reset) fun _ => Keeps.pure _

/-! ## Searching and moving -/

theorem keeps_findText : Keeps invariant (findText command) := by
  refine Keeps.bind (keeps_requireRaw _ _) fun raw => ?_
  refine Keeps.bind (Keeps.ofOutcome _) fun request => ?_
  refine Keeps.check (keeps_commandFails _) ?_
  exact keeps_reading (Keeps.discard (steady.find _ _ _))

theorem keeps_findAgain (backwards : Bool) : Keeps invariant (findAgain backwards) :=
  keeps_reading (Keeps.discard (steady.findNext backwards))

omit steady in
theorem keeps_columnPlace (text : String) : Keeps invariant (columnPlace text) := by
  refine Keeps.bind Keeps.requireTab fun tab => ?_
  simp only
  split
  · exact Keeps.pure _
  · split
    · split
      · exact Keeps.ite (fun _ => Keeps.pure _) fun _ => keeps_commandFails _
      · exact Keeps.throw _
    · exact keeps_commandFails _

theorem keeps_goTo : Keeps invariant (goTo command) := by
  refine Keeps.bind (keeps_checkArity _ _ _) fun _ => ?_
  simp only
  split
  · next row _ =>
    have moved (column : Option Int) :=
      Keeps.bind (steady.moveTo (row - 1) column) fun _ =>
        Keeps.bind Keeps.requireTab fun tab => Keeps.pure ({
          message := "row " ++ Decimal.natText (tab.cursor.row + 1) ++ "/" ++
            Decimal.natText tab.view.rowCount } : Reply)
    split
    · exact Keeps.bind (keeps_columnPlace _) fun _ => moved _
    · exact moved _
  · exact keeps_commandFails _

omit steady in
theorem keeps_motion {move : Act Unit} (kept : Keeps invariant move) :
    Keeps invariant (motion command move) :=
  Keeps.bind (keeps_checkArity _ _ _) fun _ => Keeps.bind kept fun _ => Keeps.pure _

/-! ## Tabs -/

theorem keeps_switch (places : Int) : Keeps invariant (switch places) :=
  keeps_reading (steady.switchTab places)

theorem keeps_newTab : Keeps invariant (newTab command) :=
  Keeps.bind (keeps_checkArity _ _ _) fun _ => Keeps.bind Keeps.get fun _ =>
    Keeps.bind (Keeps.ofOutcome _) fun _ => Keeps.bind (steady.openSource _ _) fun _ => Keeps.pure _

theorem keeps_close : Keeps invariant close := keeps_reading steady.closeTab

omit steady in
theorem leaves_duplicate {workspace : Workspace} (holds : invariant.holds workspace)
    (copied : duplicateTab.Leaves invariant workspace) : duplicate.Leaves invariant workspace :=
  Ends.reading (ends_requireTab fun _ => .inl holds) fun _ _ => copied.bind fun _ => Keeps.pure _

theorem keeps_record : Keeps invariant (record command) :=
  Keeps.bind (keeps_checkArity _ _ _) fun _ => keeps_reading steady.openRecord

/-! ## Files -/

theorem keeps_exportView : Keeps invariant (exportView command) := by
  refine Keeps.bind (keeps_checkArity _ _ _) fun _ => ?_
  refine Keeps.bind Keeps.requireTab fun tab => ?_
  refine Keeps.bind Keeps.get fun reading => ?_
  refine Keeps.bind (Keeps.ofOutcome _) fun destination => ?_
  refine Keeps.bind Keeps.get fun writing => ?_
  exact Keeps.bind (steady.files _) fun _ => Keeps.bind (Keeps.ofOutcome _) fun _ => Keeps.pure _

theorem keeps_savePipeline : Keeps invariant (savePipeline command) := by
  refine Keeps.bind (keeps_checkArity _ _ _) fun _ => ?_
  refine Keeps.bind Keeps.requireTab fun tab => ?_
  have saved (source : Option Datum) :=
    Keeps.bind Keeps.get fun workspace : Workspace =>
      Keeps.bind (Keeps.ofOutcome (Document.save workspace.files (argument command 0)
        tab.pipeline.steps source)) fun files =>
        Keeps.bind (steady.files files) fun _ => Keeps.pure ({
          message := "saved " ++ countText tab.pipeline.steps.length "step(s) to " ++
            argument command 0 } : Reply)
  split
  · exact Keeps.bind (Keeps.ofFaulty _) fun document =>
      Keeps.bind (Keeps.pure (some document)) saved
  · exact Keeps.bind (Keeps.pure none) saved

theorem keeps_loadPipeline : Keeps invariant (loadPipeline command) := by
  refine Keeps.bind (keeps_checkArity _ _ _) fun _ => ?_
  refine Keeps.bind Keeps.get fun reading => ?_
  refine Keeps.bind (Keeps.ofOutcome _) fun loaded => ?_
  refine Keeps.bind Keeps.get fun workspace => ?_
  split
  · exact Keeps.bind (steady.edit (Pipeline.isEdit_replace _)) fun _ => Keeps.pure _
  · exact keeps_commandFails _
  · exact Keeps.bind Keeps.get fun _ => Keeps.bind (Keeps.ofOutcome _) fun _ =>
      Keeps.bind (steady.openSource _ _) fun _ => Keeps.pure _

/-! ## Information -/

omit steady in
theorem keeps_schema : Keeps invariant schema := Keeps.bind Keeps.requireTab fun _ => Keeps.pure _

omit steady in
theorem keeps_pipeline : Keeps invariant pipeline := by
  refine Keeps.bind Keeps.requireTab fun tab => ?_
  apply Keeps.ite
  · exact fun _ => Keeps.pure _
  · intro _
    refine Keeps.bind (Keeps.mapM _ fun numbered => ?_) fun _ => Keeps.pure _
    exact Keeps.bind (Keeps.ofFaulty _) fun _ => Keeps.pure _

omit steady in
theorem keeps_history : Keeps invariant history := Keeps.bind Keeps.get fun _ => Keeps.pure _

omit steady in
theorem keeps_cell : Keeps invariant cell := by
  refine Keeps.bind Keeps.requireTab fun tab => ?_
  simp only
  split
  · exact Keeps.pure _
  · split
    · exact Keeps.bind (Keeps.ofFaulty _) fun _ => Keeps.pure _
    · exact Keeps.throw _

/-! ## The session -/

theorem keeps_quit : Keeps invariant quit := Keeps.bind steady.quit fun _ => Keeps.pure _

omit steady in
theorem keeps_help : Keeps invariant (help command) := by
  refine Keeps.bind (keeps_checkArity _ _ _) fun _ => ?_
  split
  · exact Keeps.pure _
  · exact Keeps.bind (Keeps.ofOutcome _) fun _ => Keeps.pure _

/-! ## Commands -/

theorem keeps_perform (isNoCopy : command.verb ≠ .duplicateTab) :
    Keeps invariant (perform command) := by
  unfold perform
  cases isVerb : command.verb with
  | filter => exact keeps_filter steady command
  | select => exact keeps_select steady command
  | order => exact keeps_order steady command
  | sql => exact keeps_sql steady command
  | undo => exact keeps_undoStep steady command
  | reset => exact keeps_resetSteps steady command
  | find => exact keeps_findText steady command
  | findNext => exact keeps_findAgain steady false
  | findPrevious => exact keeps_findAgain steady true
  | goto => exact keeps_goTo steady command
  | top => exact keeps_motion command (steady.moveTo _ _)
  | bottom => exact keeps_motion command (steady.moveFor _ _)
  | firstColumn => exact keeps_motion command (steady.moveFor _ _)
  | lastColumn => exact keeps_motion command (steady.moveFor _ _)
  | nextTab => exact keeps_switch steady 1
  | previousTab => exact keeps_switch steady (-1)
  | newTab => exact keeps_newTab steady command
  | closeTab => exact keeps_close steady
  | duplicateTab => exact absurd isVerb isNoCopy
  | «export» => exact keeps_exportView steady command
  | savePipeline => exact keeps_savePipeline steady command
  | loadPipeline => exact keeps_loadPipeline steady command
  | schema => exact keeps_schema
  | pipeline => exact keeps_pipeline
  | history => exact keeps_history
  | cell => exact keeps_cell
  | record => exact keeps_record steady command
  | quit => exact keeps_quit steady
  | help => exact keeps_help command

/-- A command may copy a tab where that leaves the invariant. -/
theorem leaves_perform {workspace : Workspace} (holds : invariant.holds workspace)
    (copied : command.verb = .duplicateTab → duplicateTab.Leaves invariant workspace) :
    (perform command).Leaves invariant workspace := by
  by_cases isCopy : command.verb = .duplicateTab
  · unfold perform
    rw [isCopy]
    exact leaves_duplicate holds (copied isCopy)
  · exact keeps_perform steady command isCopy workspace holds

end Steady

end Execution

/-! ## Lines -/

/-- The command of a line, and the suggestions for a verb that is none. -/
def Workspace.commandOf (workspace : Workspace) (line : String) : Outcome Command :=
  Command.parse (Execution.suggestion workspace.settings) line

namespace Workspace

/-- The workspace after a line has been recorded, if that is wanted. -/
def noting (workspace : Workspace) (line : String) (isRecorded : Bool) : Workspace :=
  if isRecorded then workspace.record line else workspace

theorem noting_true (workspace : Workspace) (line : String) :
    workspace.noting line true = workspace.record line := if_pos rfl

/-- A line is recorded without the blanks around it, and old lines may be dropped. -/
theorem record_cases (workspace : Workspace) (line : String) :
    workspace.record line = workspace ∨ ∃ count, workspace.record line =
      { workspace with history := (workspace.history ++ [Text.trim line]).drop count } := by
  unfold record
  simp only
  split
  · exact .inl rfl
  · exact .inr ⟨_, rfl⟩

theorem exists_record (workspace : Workspace) (line : String) :
    ∃ history, workspace.record line = { workspace with history } := by
  rcases workspace.record_cases line with same | ⟨count, made⟩
  · exact ⟨_, same⟩
  · exact ⟨_, made⟩

theorem exists_noting (workspace : Workspace) (line : String) (isRecorded : Bool) :
    ∃ history, workspace.noting line isRecorded = { workspace with history } := by
  cases isRecorded with
  | true =>
      rw [noting_true]
      exact workspace.exists_record line
  | false => exact ⟨_, rfl⟩

theorem activeTab?_noting (workspace : Workspace) (line : String) (isRecorded : Bool) :
    (workspace.noting line isRecorded).activeTab? = workspace.activeTab? := by
  rcases workspace.exists_noting line isRecorded with ⟨history, made⟩
  rw [made]
  rfl

end Workspace

/-- A line is recorded before its command is performed. -/
theorem Act.run_execute {workspace : Workspace} (line : String) (isRecorded : Bool) :
    execute line isRecorded workspace =
      (tryCatch (ofOutcome (workspace.commandOf line) >>= Execution.perform) Execution.failed : Act Reply)
        (workspace.noting line isRecorded) := by
  cases isRecorded with
  | true =>
      rcases workspace.exists_record line with ⟨history, recorded⟩
      simp only [execute, if_true, run_bind, run_modify, run_get, Workspace.noting_true, recorded]
      rfl
  | false => rfl

theorem Invariant.Lasting.noting (lasting : invariant.Lasting) {workspace : Workspace}
    (holds : invariant.holds workspace) (line : String) (isRecorded : Bool) :
    invariant.holds (workspace.noting line isRecorded) := by
  cases isRecorded with
  | true =>
      have recorded := (lasting.record line workspace holds).unfaulted fun fault => by simp
      simp only [run_modify] at recorded
      rwa [Workspace.noting_true]
  | false => exact holds

/-- A line may be recorded, and copy a tab, where that leaves the invariant. -/
theorem Invariant.Steady.leaves_execute (steady : invariant.Steady) {workspace : Workspace}
    (line : String) (isRecorded : Bool) (noted : invariant.holds (workspace.noting line isRecorded))
    (copied : ∀ command, workspace.commandOf line = .ok command → command.verb = .duplicateTab →
      duplicateTab.Leaves invariant (workspace.noting line isRecorded)) :
    (Act.execute line isRecorded).Leaves invariant workspace := by
  refine Ends.of_run (run_execute line isRecorded) ?_
  refine Leaves.tryCatch (Ends.bind ?_) (fun _ _ => Keeps.pure _) fun _ => rfl
  rw [Ends, run_ofOutcome]
  cases isCommand : workspace.commandOf line with
  | error problem => exact .inl noted
  | ok command => exact Execution.leaves_perform steady command noted (copied command isCommand)

/-- What survives the acts that commands are made of survives every line. -/
theorem Invariant.Durable.execute (durable : invariant.Durable) (line : String)
    (isRecorded : Bool) : Keeps invariant (Act.execute line isRecorded) :=
  fun _ holds => durable.leaves_execute line isRecorded (durable.noting holds line isRecorded)
    fun _ _ _ => durable.duplicateTab _ (durable.noting holds line isRecorded)

/-! ## Sound workspaces -/

namespace Workspace

theorem Sound.record {workspace : Workspace} (sound : workspace.Sound) (line : String) :
    (workspace.record line).Sound := by
  rcases workspace.exists_record line with ⟨history, made⟩
  rw [made]
  exact { sound with }

theorem Sound.noting {workspace : Workspace} (sound : workspace.Sound) (line : String)
    (isRecorded : Bool) : (workspace.noting line isRecorded).Sound := by
  cases isRecorded with
  | true =>
      rw [noting_true]
      exact sound.record line
  | false => exact sound

theorem durable_soundness : soundness.Durable where
  record line := Keeps.modify fun _ sound => Sound.record sound line
  quit := Keeps.modify fun _ sound => { sound with }
  files files := Keeps.modify fun _ sound => Workspace.Sound.withFiles sound files
  openSource := keeps_openSource
  openTable table name := keeps_openTable table name []
  duplicateTab := keeps_duplicateTab
  closeTab := keeps_closeTab
  switchTab := keeps_switchTab
  edit := keeps_edit
  moveTo := keeps_moveTo
  find := keeps_find
  findNext := keeps_findNext

/-- Another invariant of workspaces that are sound. -/
def soundly (invariant : Invariant) : Invariant where
  holds workspace := workspace.Sound ∧ invariant.holds workspace
  fragile := invariant.fragile

end Workspace

namespace Act

open Workspace (Sound soundness soundly)

variable {α : Type}

theorem Leaves.soundly {act : Act α} {workspace : Workspace} (sound : act.Leaves soundness workspace)
    (left : act.Leaves invariant workspace) : act.Leaves (soundly invariant) workspace := by
  refine Ends.mono (Ends.and sound left) ?_ ?_
  · exact fun _ _ both => both
  · rintro problem after ⟨isSound | lost, isLeft | isLost⟩
    · exact .inl ⟨isSound, isLeft⟩
    · exact .inr isLost
    · exact lost.1.elim
    · exact lost.1.elim

theorem keeps_soundly {act : Act α} (sound : Keeps soundness act)
    (kept : ∀ workspace, workspace.Sound → invariant.holds workspace →
      act.Leaves invariant workspace) : Keeps (soundly invariant) act :=
  fun workspace holds => (sound workspace holds.1).soundly (kept workspace holds.1 holds.2)

end Act

end TableBrowser
