import TableBrowser.Proofs.Workspace.Fitted
import TableBrowser.Proofs.Step.Faults
import TableBrowser.Proofs.Workspace.Run
/-!
# Orderly workspaces

A tab is in order when its steps are valid and its cursor is on a cell of the
view, or in the corner of a view without cells. Only a copy of a tab can get out
of order, when a fault stops the work on it. Main statement: tabs stay in order
in every run that no fault stops.
-/

namespace TableBrowser

/-! ## Tabs in order -/

structure Tab.Orderly (tab : Tab) : Prop where
  valid : ∀ step ∈ tab.pipeline.steps, step.Valid
  row : tab.cursor.row ≤ tab.view.rowCount - 1
  column : tab.cursor.column ≤ tab.view.columnCount - 1

namespace Tab

variable {tab : Tab}

theorem orderly_movedTo (valid : ∀ step ∈ tab.pipeline.steps, step.Valid) (grid : Size)
    (row column : Int) : (tab.movedTo grid row column).Orderly where
  valid := valid
  row := Window.clamp_le _ _
  column := Window.clamp_le _ _

theorem orderly_measured (valid : ∀ step ∈ tab.pipeline.steps, step.Valid) (appearance : Appearance)
    (grid : Size) : (tab.measured appearance grid).Orderly where
  valid := valid
  row := Window.clamp_le _ _
  column := Window.clamp_le _ _

/-- A start of a generation that shows nothing new leaves the view. -/
theorem Orderly.request (orderly : tab.Orderly) {prepared : Pipeline}
    (prepares : tab.pipeline.Prepares prepared) (appearance : Appearance) (grid : Size) :
    (tab.edited appearance grid prepared.request).Orderly := by
  have valid : ∀ step ∈ prepared.request.1.steps, step.Valid := by
    rw [Pipeline.steps_request]
    exact prepares.valid orderly.valid
  have sameView : prepared.view = tab.view := by
    rw [prepares.rest]
    rfl
  rcases prepared.request_cases with
    ⟨fault, _, made⟩ | ⟨_, _, _, _, _, made⟩ | ⟨_, _, _, made⟩ <;> rw [made] at valid ⊢
  · exact ⟨valid, sameView ▸ orderly.row, sameView ▸ orderly.column⟩
  · exact orderly_measured valid appearance grid
  · exact ⟨valid, sameView ▸ orderly.row, sameView ▸ orderly.column⟩

theorem Orderly.edit (orderly : tab.Orderly) {change : Pipeline → Pipeline.Edited}
    (isEdit : Pipeline.IsEdit change) (appearance : Appearance) (grid : Size) :
    (tab.edited appearance grid (change tab.pipeline)).Orderly := by
  rcases isEdit tab.pipeline with ⟨problem, refused⟩ | ⟨prepared, prepares, made⟩
  · rw [refused]
    exact orderly
  · rw [made]
    exact orderly.request prepares appearance grid

theorem Orderly.take (orderly : tab.Orderly) (count : Nat) :
    ({ tab with
      pipeline := { tab.pipeline with
        steps := tab.pipeline.steps.take count, pending := none } } : Tab).Orderly where
  valid step member := orderly.valid step (List.mem_of_mem_take member)
  row := orderly.row
  column := orderly.column

/-- What a message makes of a tab in order is in order. -/
theorem Orderly.answer (orderly : tab.Orderly) (settings : Settings) (grid : Size)
    {message : Message} {after : Tab} {request : Option EvaluationRequest}
    (answered : tab.answer settings grid message = .becomes after request) : after.Orderly := by
  unfold Tab.answer at answered
  split at answered
  · next table =>
    have filled : (tab.filled settings grid table).Orderly := orderly_measured (by simp [Pipeline.start]) _ _
    unfold answerTable at answered
    split at answered
    · cases answered
      exact filled
    · cases answered
      exact filled.edit (Pipeline.isEdit_replace tab.queuedSteps) _ _
  · cases answered
  · split at answered
    · next pipeline installed =>
      rcases Pipeline.install?_eq_some installed with ⟨_, rfl⟩
      cases answered
      exact orderly_measured (by exact orderly.valid) _ _
    · cases answered
  · split at answered
    · next rejected isRejected =>
      rcases Pipeline.reject?_eq_some isRejected with ⟨_, rfl⟩
      unfold answerRejected at answered
      split at answered
      · cases answered
        exact (orderly.take _).request (Pipeline.Prepares.refl _) _ _
      · cases answered
        exact orderly.take _
    · cases answered

end Tab

/-! ## Workspaces in order -/

namespace Workspace

def Orderly (workspace : Workspace) : Prop := ∀ tab ∈ workspace.tabs, tab.Orderly

variable {workspace : Workspace}

theorem Orderly.of_tabs (orderly : workspace.Orderly) {after : Workspace}
    (within : ∀ tab ∈ after.tabs, tab ∈ workspace.tabs) : after.Orderly :=
  fun tab member => orderly tab (within tab member)

/-- One tab is changed, and the others are in order. -/
theorem orderly_updateTab {id : Nat} {change : Tab → Tab}
    (rest : ∀ tab ∈ workspace.tabs, tab.id ≠ id → tab.Orderly)
    (changed : ∀ tab ∈ workspace.tabs, tab.id = id → (change tab).Orderly) :
    (workspace.updateTab id change).Orderly := by
  intro tab member
  rcases List.mem_map.mp member with ⟨old, oldMember, rfl⟩
  split
  · next same => exact changed old oldMember same
  · next different => exact rest old oldMember different

theorem Orderly.updateTab (orderly : workspace.Orderly) (id : Nat) {change : Tab → Tab}
    (changed : ∀ tab, tab.Orderly → (change tab).Orderly) : (workspace.updateTab id change).Orderly :=
  orderly_updateTab (fun tab member _ => orderly tab member)
    fun tab member _ => changed tab (orderly tab member)

theorem Orderly.handOut (orderly : workspace.Orderly) (id : Nat)
    (request : Option EvaluationRequest) : (workspace.handOut id request).Orderly :=
  orderly.of_tabs fun tab member => by rwa [tabs_handOut] at member

theorem Orderly.taking (orderly : workspace.Orderly) (message : Message) :
    (workspace.taking message).Orderly :=
  forall_taking orderly fun tab member _ _ answered => (orderly tab member).answer _ _ answered

theorem Orderly.arriving (orderly : workspace.Orderly) (sound : workspace.Sound)
    (arrival : Arrival) : (workspace.arriving arrival).Orderly := by
  cases arrival with
  | finish place =>
      rcases workspace.finished_cases place with same | ⟨job, _, made⟩
      · exact orderly.of_tabs fun tab member => same ▸ member
      · exact orderly.of_tabs fun tab member => by
          change tab ∈ (workspace.finished place).tabs at member
          rwa [made] at member
  | deliver place =>
      change (workspace.delivered place).Orderly
      cases found : workspace.messages[place]? with
      | none =>
          rw [delivered_of_none found]
          exact orderly
      | some message =>
          rcases sound.delivered_eq found with ⟨search, status, _, made⟩
          have taken : (workspace.without place).Orderly := orderly
          rw [made]
          exact taken.taking message

/-- In order, but for the cursor of one tab. -/
def OrderlyBut (workspace : Workspace) (id : Nat) : Prop :=
  ∀ tab ∈ workspace.tabs, (∀ step ∈ tab.pipeline.steps, step.Valid) ∧ (tab.id ≠ id → tab.Orderly)

/-- The new tab may have its cursor anywhere. -/
theorem Orderly.addTab (orderly : workspace.Orderly) {tab : Nat → Tab}
    (isNamed : (tab workspace.nextId).id = workspace.nextId)
    (valid : ∀ step ∈ (tab workspace.nextId).pipeline.steps, step.Valid) :
    (workspace.addTab tab).OrderlyBut workspace.nextId := by
  intro other member
  rcases List.mem_append.mp member with old | isNew
  · exact ⟨(orderly other old).valid, fun _ => orderly other old⟩
  · rw [List.mem_singleton.mp isNew]
    exact ⟨valid, fun different => absurd isNamed different⟩

theorem OrderlyBut.measured {id : Nat} (orderly : workspace.OrderlyBut id) :
    (workspace.updateTab id
      (Tab.measured workspace.settings.appearance workspace.grid)).Orderly :=
  orderly_updateTab (fun tab member different => (orderly tab member).2 different)
    fun tab member _ => Tab.orderly_measured (orderly tab member).1 _ _

theorem OrderlyBut.edited {id : Nat} (orderly : workspace.OrderlyBut id)
    {result : Pipeline.Edited} (valid : ∀ step ∈ result.1.steps, step.Valid)
    (appearance : Appearance) (grid : Size) :
    (workspace.updateTab id (Tab.edited appearance grid result)).OrderlyBut id := by
  intro tab member
  rcases List.mem_map.mp member with ⟨old, oldMember, rfl⟩
  split
  · next same =>
    have work := old.work_edited appearance grid result
    have samePipeline : (old.edited appearance grid result).pipeline = result.1 := congrArg (·.2.1) work
    have sameId : (old.edited appearance grid result).id = old.id := congrArg (·.1) work
    exact ⟨samePipeline ▸ valid, fun different => absurd (sameId.trans same) different⟩
  · exact orderly old oldMember

/-- All tabs are in order. -/
def orderliness : Invariant where
  holds := Orderly
  fragile := True

/-- Soundness with all tabs in order. -/
def soundOrderliness : Invariant where
  holds workspace := workspace.Sound ∧ workspace.Orderly
  fragile := True

end Workspace

/-! ## Acts -/

namespace Act

open Workspace (Sound Orderly OrderlyBut soundly soundness orderliness soundOrderliness)

variable {α : Type} {workspace : Workspace}

/-- On sound workspaces an act leaves the tabs in order. -/
theorem keeps_soundOrderliness {act : Act α} (sound : Keeps soundness act)
    (orderly : ∀ workspace, workspace.Sound → workspace.Orderly → act.Leaves orderliness workspace) :
    Keeps soundOrderliness act := by
  change Keeps (soundly orderliness) act
  exact keeps_soundly sound orderly

theorem leaves_viewChanged {id : Nat} (orderly : workspace.OrderlyBut id)
    (usable : workspace.search.Usable) : (viewChanged id).Leaves orderliness workspace := by
  rcases run_viewChanged usable id with ⟨search, _, made⟩
  refine Leaves.always ?_
  rw [made]
  exact orderly.measured

theorem leaves_activated (orderly : workspace.Orderly) (usable : workspace.search.Usable) :
    activated.Leaves orderliness workspace := by
  rcases run_activated usable with ⟨search, _, made⟩
  refine Leaves.always ?_
  rw [made]
  exact orderly

/-- A new tab is asked for its steps; only a fault may leave it out of order. -/
theorem leaves_requested {id : Nat} (orderly : workspace.OrderlyBut id)
    (usable : workspace.search.Usable) {pipeline : Pipeline}
    (valid : ∀ step ∈ pipeline.steps, step.Valid) :
    (edited id pipeline.request >>= fun _ => viewChanged id).Leaves orderliness workspace := by
  rcases run_edited usable id pipeline.request with ⟨search, searchUsable, made⟩
  have requested : ∀ step ∈ pipeline.request.1.steps, step.Valid := by
    rwa [Pipeline.steps_request]
  have fitted := orderly.edited requested workspace.settings.appearance workspace.grid
  cases answer : pipeline.request.2 with
  | error problem =>
      rw [answer] at made
      rcases pipeline.request_cases with
        ⟨fault, _, request⟩ | ⟨_, _, _, _, _, request⟩ | ⟨_, _, _, request⟩
      all_goals
        rw [request] at answer
        cases answer
      exact Ends.bind (Ends.of_error made (.inr ⟨trivial, fault, rfl⟩))
  | ok asked =>
      rw [answer] at made
      refine Ends.bind (Ends.of_ok made (leaves_viewChanged ?_ searchUsable))
      rcases Workspace.exists_handOut _ id (Pipeline.asked pipeline.request) with
        ⟨jobs, messages, handed⟩
      rw [handed]
      exact fitted

/-! ### Acts that commands are made of -/

theorem orders_openSource (source : Source) (steps : List Step) :
    Keeps soundOrderliness (openSource source steps) := by
  refine keeps_soundOrderliness (keeps_openSource source steps) fun workspace sound orderly => ?_
  refine Ends.bind_get (Ends.bind (Ends.of_ok rfl (Ends.bind (Ends.modify ?_))))
  have added : (workspace.addTab (workspace.sourceTab source steps)).OrderlyBut workspace.nextId :=
    orderly.addTab rfl fun step member => by cases member
  rcases (workspace.addTab (workspace.sourceTab source steps)).exists_submit
    (.load workspace.nextId source) with ⟨jobs, messages, made⟩
  refine leaves_viewChanged ?_ ?_
  · exact made ▸ added
  · exact made ▸ sound.search

/-- A table may come with steps when they are valid. -/
theorem orders_openTable (table : Table) (name : String) {steps : List Step}
    (valid : ∀ step ∈ steps, step.Valid) : Keeps soundOrderliness (openTable table name steps) := by
  refine keeps_soundOrderliness (keeps_openTable table name steps) fun workspace sound orderly => ?_
  refine Ends.bind_get (Ends.bind (Ends.of_ok rfl ?_))
  have added : (workspace.addTab (workspace.tableTab table name steps)).OrderlyBut
      workspace.nextId := orderly.addTab rfl valid
  cases steps with
  | nil => exact leaves_viewChanged added sound.search
  | cons step steps => exact leaves_requested added sound.search valid

theorem orders_duplicateTab : Keeps soundOrderliness duplicateTab := by
  refine keeps_soundOrderliness keeps_duplicateTab fun workspace sound orderly => ?_
  refine Ends.reading (ends_requireLoaded fun _ => .inl orderly) fun tab found => ?_
  have valid := (orderly tab (List.mem_of_getElem? found.1)).valid
  have added : (workspace.addTab (workspace.copyTab tab)).OrderlyBut workspace.nextId :=
    orderly.addTab rfl valid
  exact Ends.bind_get (Ends.bind (Ends.of_ok rfl (leaves_requested added sound.search valid)))

theorem orders_closeTab : Keeps soundOrderliness closeTab := by
  refine Keeps.bind (Keeps.discard Keeps.requireTab) fun _ => ?_
  refine Keeps.bind (Keeps.modify fun workspace holds => ?_) fun _ => ?_
  · exact ⟨holds.1.removeTab _, holds.2.of_tabs fun tab => List.mem_of_mem_eraseIdx⟩
  · exact keeps_soundOrderliness keeps_activated fun _ sound orderly =>
      leaves_activated orderly sound.search

theorem orders_switchTab (places : Int) : Keeps soundOrderliness (switchTab places) := by
  refine keeps_soundOrderliness (keeps_switchTab places) fun workspace sound orderly => ?_
  refine Ends.bind_get (Ends.ite (fun _ => Ends.pure orderly) fun _ => ?_)
  refine Ends.bind (Ends.modify (leaves_activated ?_ ?_))
  · exact orderly
  · exact sound.search

theorem orders_edit {change : Pipeline → Pipeline.Edited} (isEdit : Pipeline.IsEdit change) :
    Keeps soundOrderliness (edit change) := by
  refine keeps_soundOrderliness (keeps_edit isEdit) fun workspace sound orderly => ?_
  refine Ends.reading (ends_requireLoaded fun _ => .inl orderly) fun tab found => Leaves.always ?_
  have member := List.mem_of_getElem? found.1
  rcases run_edited sound.search tab.id (change tab.pipeline) with ⟨search, _, made⟩
  rw [made]
  apply Orderly.handOut
  refine Workspace.orderly_updateTab (fun other otherMember _ => orderly other otherMember) ?_
  intro other otherMember same
  rw [sound.eq_of_id otherMember member same]
  exact (orderly tab member).edit isEdit _ _

theorem orders_moveTo (row : Int) (column : Option Int) : Keeps orderliness (moveTo row column) :=
  Keeps.bind Keeps.requireTab fun tab => Keeps.modify fun _ orderly =>
    orderly.updateTab tab.id fun _ isOrderly => Tab.orderly_movedTo isOrderly.valid _ _ _

theorem orders_showMatch (result : Search × Option Coordinate) :
    Keeps orderliness (showMatch result) := by
  refine Keeps.bind (Keeps.modify fun _ orderly => orderly) fun _ => ?_
  have told (found : Bool) : Keeps orderliness
      (setStatus result.1.summary >>= fun _ => pure found : Act Bool) :=
    Keeps.bind (Keeps.modify fun _ orderly => orderly) fun _ => Keeps.pure _
  cases result.2 with
  | none => exact told _
  | some cell => exact Keeps.bind (orders_moveTo _ _) fun _ => told _

theorem orders_find (text : String) (mode : Option Search.Mode) (caseSensitive : Option Bool) :
    Keeps orderliness (find text mode caseSensitive) :=
  Keeps.bind Keeps.requireTab fun _ => Keeps.bind Keeps.get fun _ =>
    Keeps.bind (Keeps.ofOutcome _) fun _ =>
      Keeps.bind (Keeps.modify fun _ orderly => orderly) fun _ => orders_showMatch _

theorem orders_findNext (backwards : Bool) : Keeps orderliness (findNext backwards) :=
  Keeps.bind Keeps.requireTab fun _ => Keeps.bind Keeps.get fun _ =>
    Keeps.check (Keeps.fail _) (orders_showMatch _)

end Act

namespace Workspace

open Act

theorem Orderly.record {workspace : Workspace} (orderly : workspace.Orderly) (line : String) :
    (workspace.record line).Orderly := by
  rcases workspace.exists_record line with ⟨history, made⟩
  rw [made]
  exact orderly

theorem Orderly.noting {workspace : Workspace} (orderly : workspace.Orderly) (line : String)
    (isRecorded : Bool) : (workspace.noting line isRecorded).Orderly := by
  cases isRecorded with
  | true =>
      rw [noting_true]
      exact orderly.record line
  | false => exact orderly

/-- What keeps workspaces sound and keeps them in order keeps both. -/
theorem keeps_both {α : Type} {act : Act α} (sound : Keeps soundness act)
    (orderly : Keeps orderliness act) : Keeps soundOrderliness act :=
  keeps_soundOrderliness sound fun workspace _ isOrderly => orderly workspace isOrderly

theorem durable_soundOrderliness : soundOrderliness.Durable where
  record line := keeps_both (durable_soundness.record line) <|
    Keeps.modify fun _ orderly => Orderly.record orderly line
  quit := keeps_both durable_soundness.quit (Keeps.modify fun _ orderly => orderly)
  files files := keeps_both (durable_soundness.files files) (Keeps.modify fun _ orderly => orderly)
  openSource := orders_openSource
  openTable table name := orders_openTable table name fun _ member => by cases member
  duplicateTab := orders_duplicateTab
  closeTab := orders_closeTab
  switchTab := orders_switchTab
  edit := orders_edit
  moveTo row column := keeps_both (keeps_moveTo row column) (orders_moveTo row column)
  find text mode caseSensitive :=
    keeps_both (keeps_find text mode caseSensitive) (orders_find text mode caseSensitive)
  findNext backwards := keeps_both (keeps_findNext backwards) (orders_findNext backwards)

/-! ## Runs -/

variable {workspace : Workspace}

theorem Orderly.resized (orderly : workspace.Orderly) (grid : Size) :
    (workspace.resized grid).Orderly := by
  intro tab member
  rcases List.mem_map.mp member with ⟨old, oldMember, rfl⟩
  have isOrderly := orderly old oldMember
  exact ⟨isOrderly.valid, isOrderly.row, isOrderly.column⟩

/-- A table that is opened comes with steps that are valid, if with any. -/
def Event.Admissible : Event → Prop
  | .openTable _ _ steps => ∀ step ∈ steps, step.Valid
  | _ => True

/-- No fault stops what happens. -/
def Calm : Workspace → List Event → Prop
  | _, [] => True
  | workspace, event :: events =>
      event.Admissible ∧ (∀ fault, (event.act workspace).1 ≠ .error (.fault fault)) ∧
        (workspace.step event).Calm events

theorem Event.orders_act (event : Event) (admissible : event.Admissible) :
    Keeps soundOrderliness event.act := by
  refine event.keeps_act durable_soundOrderliness ?_ ?_ ?_
  · rintro table name steps rfl
    exact orders_openTable table name admissible
  · exact fun _ grid holds => ⟨holds.1.resized grid, holds.2.resized grid⟩
  · exact fun _ arrival holds => ⟨holds.1.arriving arrival, holds.2.arriving holds.1 arrival⟩

/-- In a run that no fault stops all tabs stay in order. -/
theorem Calm.orderly {events : List Event} (calm : workspace.Calm events)
    (sound : workspace.Sound) (orderly : workspace.Orderly) : (workspace.after events).Orderly := by
  induction events generalizing workspace with
  | nil => exact orderly
  | cons event events induction =>
      rcases calm with ⟨admissible, faultless, calm⟩
      have left := event.orders_act admissible workspace ⟨sound, orderly⟩
      exact induction calm (sound.step event) (left.unfaulted faultless).2

theorem orderly_start (settings : Settings) (files : FileTree) (scheduling : Scheduling) :
    (start settings files scheduling).Orderly := fun _ member => by cases member

end Workspace

end TableBrowser
