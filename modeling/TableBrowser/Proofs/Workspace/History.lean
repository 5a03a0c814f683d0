import TableBrowser.Proofs.Workspace.Run
/-!
# What acts leave alone

No act changes the settings, none but the execution of a line that is to be
recorded changes the history, and each tab keeps an id that no other tab has.
Main statements: after an event the settings are the same and the history is too,
but for such a line; handling messages leaves both.
-/

namespace TableBrowser

open Act

/-- What depends only on settings, history and ids, and remains as tabs are opened and taken away. -/
structure Invariant.Coarse (invariant : Invariant) : Prop where
  lasting : ¬ invariant.fragile
  same : ∀ {workspace after : Workspace}, invariant.holds workspace →
    after.settings = workspace.settings → after.history = workspace.history →
      after.tabs.map (·.id) = workspace.tabs.map (·.id) → after.nextId = workspace.nextId →
        invariant.holds after
  added : ∀ {workspace : Workspace} {tab : Nat → Tab}, invariant.holds workspace →
    (∀ id, (tab id).id = id) → invariant.holds (workspace.addTab tab)
  removed : ∀ {workspace : Workspace} (place : Nat),
    invariant.holds workspace → invariant.holds (workspace.removeTab place)

namespace Invariant.Coarse

variable {invariant : Invariant} (coarse : invariant.Coarse)

include coarse

/-! ## Acts -/

theorem setStatus (status : String) : Keeps invariant (Act.setStatus status) :=
  Keeps.modify fun _ holds => coarse.same holds rfl rfl rfl rfl

theorem setSearch (search : Search) : Keeps invariant (Act.setSearch search) :=
  Keeps.modify fun _ holds => coarse.same holds rfl rfl rfl rfl

theorem updateTab (id : Nat) {change : Workspace → Tab → Tab}
    (keepsId : ∀ workspace tab, (change workspace tab).id = tab.id) :
    Keeps invariant (modify fun workspace => workspace.updateTab id (change workspace)) := by
  refine Keeps.modify fun workspace holds => coarse.same holds rfl rfl ?_ rfl
  exact Workspace.ids_updateTab (change workspace) (keepsId workspace)

theorem submit (job : Job) : Keeps invariant (modify (·.submit job)) := by
  refine Keeps.modify fun workspace holds => ?_
  unfold Workspace.submit
  split
  · exact coarse.same holds rfl rfl rfl rfl
  · exact coarse.same holds rfl rfl rfl rfl

theorem searchAgain (view : Table) : Keeps invariant (Act.searchAgain view) :=
  Keeps.bind Keeps.get fun _ => Keeps.bind (Keeps.ofOutcome _) fun _ => coarse.setSearch _

theorem activated : Keeps invariant Act.activated := by
  refine Keeps.bind Keeps.get fun workspace => ?_
  split
  · exact coarse.searchAgain _
  · exact Keeps.pure _

theorem viewChanged (id : Nat) : Keeps invariant (Act.viewChanged id) := by
  refine Keeps.bind (coarse.updateTab id fun _ _ => rfl) fun _ => Keeps.bind Keeps.get fun workspace => ?_
  split
  · exact Keeps.ite (fun _ => coarse.searchAgain _) fun _ => Keeps.pure _
  · exact Keeps.pure _

theorem edited (id : Nat) (result : Pipeline.Edited) : Keeps invariant (Act.edited id result) := by
  refine Keeps.bind (coarse.updateTab id fun _ _ => rfl) fun _ =>
    Keeps.bind (Keeps.ofOutcome _) fun asked => ?_
  cases asked with
  | none => exact coarse.viewChanged id
  | some request => exact coarse.submit _

theorem addTab {tab : Nat → Tab} (named : ∀ id, (tab id).id = id) :
    Keeps invariant (Act.addTab tab) :=
  Keeps.bind Keeps.get fun _ =>
    Keeps.bind (Keeps.modify fun _ holds => coarse.added holds named) fun _ => Keeps.pure _

theorem openTable (table : Table) (name : String) (steps : List Step) :
    Keeps invariant (Act.openTable table name steps) := by
  refine Keeps.bind Keeps.get fun _ => Keeps.bind (coarse.addTab fun _ => rfl) fun id => ?_
  exact Keeps.ite
    (fun _ => Keeps.bind (coarse.edited _ _) fun _ => coarse.viewChanged _)
    fun _ => coarse.viewChanged _

theorem duplicateTab : Keeps invariant Act.duplicateTab := by
  refine Keeps.bind_requireLoaded fun workspace tab holds _ _ => ?_
  refine Keeps.bind Keeps.get (fun _ => Keeps.bind (coarse.addTab fun _ => rfl) fun id => ?_)
    workspace holds
  exact Keeps.bind (coarse.edited _ _) fun _ => coarse.viewChanged _

theorem moveTo (row : Int) (column : Option Int) : Keeps invariant (Act.moveTo row column) :=
  Keeps.bind Keeps.requireTab fun _ => coarse.updateTab _ fun _ _ => rfl

theorem showMatch (result : Search × Option Coordinate) : Keeps invariant (Act.showMatch result) := by
  have told (found : Bool) : Keeps invariant
      (Act.setStatus result.1.summary >>= fun _ => pure found : Act Bool) :=
    Keeps.bind (coarse.setStatus _) fun _ => Keeps.pure _
  refine Keeps.bind (coarse.setSearch _) fun _ => ?_
  cases result.2 with
  | none => exact told _
  | some cell => exact Keeps.bind (coarse.moveTo _ _) fun _ => told _

theorem steady : invariant.Steady where
  quit := Keeps.modify fun _ holds => coarse.same holds rfl rfl rfl rfl
  files _ := Keeps.modify fun _ holds => coarse.same holds rfl rfl rfl rfl
  openSource _ _ := Keeps.bind Keeps.get fun _ => Keeps.bind (coarse.addTab fun _ => rfl) fun _ =>
    Keeps.bind (coarse.submit _) fun _ => coarse.viewChanged _
  openTable table name := coarse.openTable table name []
  closeTab := Keeps.bind (Keeps.discard Keeps.requireTab) fun _ =>
    Keeps.bind (Keeps.modify fun _ holds => coarse.removed _ holds) fun _ => coarse.activated
  switchTab _ := Keeps.bind Keeps.get fun _ => Keeps.ite (fun _ => Keeps.pure _) fun _ =>
    Keeps.bind (Keeps.modify fun _ holds => coarse.same holds rfl rfl rfl rfl) fun _ =>
      coarse.activated
  edit _ := Keeps.bind_requireLoaded fun workspace _ holds _ _ => coarse.edited _ _ workspace holds
  moveTo := coarse.moveTo
  find _ _ _ := Keeps.bind Keeps.requireTab fun _ => Keeps.bind Keeps.get fun _ =>
    Keeps.bind (Keeps.ofOutcome _) fun _ => Keeps.bind (coarse.setSearch _) fun _ =>
      coarse.showMatch _
  findNext _ := Keeps.bind Keeps.requireTab fun _ => Keeps.bind Keeps.get fun _ =>
    Keeps.check (Keeps.fail _) (coarse.showMatch _)

/-! ## Messages -/

theorem loadFailed (id : Nat) (failure : Failure) : Keeps invariant (Act.loadFailed id failure) := by
  refine Keeps.bind (coarse.setStatus _) fun _ => Keeps.bind (Keeps.modify ?_) fun _ =>
    coarse.activated
  intro workspace holds
  split
  · exact coarse.removed _ holds
  · exact holds

theorem applyQueued (id : Nat) (steps : List Step) : Keeps invariant (Act.applyQueued id steps) := by
  refine Keeps.bind Keeps.get fun workspace => ?_
  split
  · next tab _ =>
    exact fun other holds => Leaves.tryCatch (coarse.edited _ _ other holds)
      (fun _ _ => coarse.setStatus _) fun _ => rfl
  · exact Keeps.pure _

theorem loaded (id : Nat) (result : JobResult) : Keeps invariant (Act.loaded id result) := by
  refine Keeps.bind Keeps.get fun workspace => ?_
  split
  · refine Keeps.bind (coarse.updateTab id fun _ _ => rfl) fun _ => ?_
    split
    · refine Keeps.bind (coarse.updateTab id fun _ _ => rfl) fun _ =>
        Keeps.bind (coarse.viewChanged _) fun _ => ?_
      exact Keeps.ite (fun _ => Keeps.bind (coarse.applyQueued _ _) fun _ => Keeps.pure _)
        fun _ => Keeps.pure _
    · exact Keeps.bind (coarse.loadFailed _ _) fun _ => Keeps.pure _
  · exact Keeps.pure _

theorem evaluationFailed (id : Nat) (rejected : Pipeline) (failure : Failure) :
    Keeps invariant (Act.evaluationFailed id rejected failure) := by
  refine Keeps.bind (coarse.updateTab id fun _ _ => rfl) fun _ =>
    Keeps.bind (coarse.setStatus _) fun _ => ?_
  exact Keeps.bind (Keeps.ofFaulty _) fun _ =>
    Keeps.ite (fun _ => coarse.edited _ _) fun _ => Keeps.pure _

theorem evaluated (id generation : Nat) (steps : List Step) (result : JobResult) :
    Keeps invariant (Act.evaluated id generation steps result) := by
  refine Keeps.bind Keeps.get fun workspace => ?_
  split
  · split
    · split
      · exact Keeps.bind (coarse.updateTab id fun _ _ => rfl) fun _ =>
          Keeps.bind (coarse.viewChanged _) fun _ => Keeps.pure _
      · exact Keeps.pure _
    · simp only
      split
      · exact Keeps.bind (coarse.evaluationFailed _ _ _) fun _ => Keeps.pure _
      · exact Keeps.pure _
  · exact Keeps.pure _

theorem receive (message : Message) : Keeps invariant (Act.receive message) := by
  cases message with
  | loaded id result => exact coarse.loaded id result
  | evaluated id generation steps result => exact coarse.evaluated id generation steps result

theorem receiveAll (messages : List Message) : Keeps invariant (Act.receiveAll messages) := by
  induction messages with
  | nil => exact Keeps.pure _
  | cons message messages induction =>
      exact Keeps.bind (coarse.receive message) fun _ => Keeps.bind induction fun _ => Keeps.pure _

theorem receiveBatches (batches : Nat) : Keeps invariant (Act.receiveBatches batches) := by
  have batch : Keeps invariant receiveBatch := Keeps.bind Keeps.get fun _ =>
    Keeps.bind (Keeps.modify fun _ holds => coarse.same holds rfl rfl rfl rfl) fun _ =>
      coarse.receiveAll _
  induction batches with
  | zero => exact Keeps.pure _
  | succ batches induction =>
      refine Keeps.bind Keeps.get fun _ => Keeps.ite (fun _ => Keeps.pure _) fun _ => ?_
      exact Keeps.bind batch fun _ => Keeps.bind induction fun _ => Keeps.pure _

theorem drain : Keeps invariant Act.drain :=
  Keeps.bind Keeps.get fun _ => coarse.receiveBatches _

theorem deliver (place : Nat) : Keeps invariant (Act.deliver place) := by
  refine Keeps.bind Keeps.get fun workspace => ?_
  split
  · exact Keeps.bind (Keeps.modify fun _ holds => coarse.same holds rfl rfl rfl rfl) fun _ =>
      coarse.receive _
  · exact Keeps.pure _

/-! ## Runs -/

theorem resized {workspace : Workspace} (holds : invariant.holds workspace) (grid : Size) :
    invariant.holds (workspace.resized grid) :=
  coarse.same holds rfl rfl (by rw [Workspace.resized, List.map_map]; rfl) rfl

theorem arriving {workspace : Workspace} (holds : invariant.holds workspace) (arrival : Arrival) :
    invariant.holds (workspace.arriving arrival) := by
  cases arrival with
  | finish place =>
      rcases workspace.finished_cases place with same | ⟨job, _, made⟩
      · rwa [Workspace.arriving, same]
      · rw [Workspace.arriving, made]
        exact coarse.same holds rfl rfl rfl rfl
  | deliver place => exact (coarse.deliver place workspace holds).holds coarse.lasting

theorem execute {workspace : Workspace} {line : String} {isRecorded : Bool}
    (noted : invariant.holds (workspace.noting line isRecorded)) :
    (Act.execute line isRecorded).Leaves invariant workspace :=
  coarse.steady.leaves_execute line isRecorded noted fun _ _ _ => coarse.duplicateTab _ noted

/-- Whatever happens keeps the invariant, if recording a line that is executed does. -/
theorem step {workspace : Workspace} (holds : invariant.holds workspace) (event : Workspace.Event)
    (noted : ∀ line isRecorded, event = .execute line isRecorded →
      invariant.holds (workspace.noting line isRecorded)) :
    invariant.holds (workspace.step event) := by
  have left : event.act.Leaves invariant workspace :=
    event.leaves_act coarse.steady holds noted (fun _ history kept => coarse.duplicateTab _ kept)
      (fun table name steps _ => coarse.openTable table name steps workspace holds)
      (coarse.resized holds) (coarse.arriving holds)
  exact left.holds coarse.lasting

end Invariant.Coarse

namespace Workspace

variable {remembered : List String → Prop} {settings : Settings} {workspace : Workspace}

/-! ## The history -/

/-- The settings are the given ones, and the history of commands is as it should be. -/
def memory (remembered : List String → Prop) (settings : Settings) : Invariant where
  holds workspace := remembered workspace.history ∧ workspace.settings = settings
  fragile := False

theorem coarse_memory : (memory remembered settings).Coarse where
  lasting := id
  same holds sameSettings sameHistory _ _ :=
    ⟨sameHistory ▸ holds.1, sameSettings.trans holds.2⟩
  added holds _ := holds
  removed _ holds := holds

theorem memory_noting (holds : (memory remembered settings).holds workspace) {line : String}
    {isRecorded : Bool} (noted : remembered (workspace.noting line isRecorded).history) :
    (memory remembered settings).holds (workspace.noting line isRecorded) := by
  refine ⟨noted, ?_⟩
  rcases workspace.exists_noting line isRecorded with ⟨history, made⟩
  rw [made]
  exact holds.2

/-- The history is that of a workspace, or that with the line that an event executes. -/
def recalls (workspace : Workspace) (event : Event) (history : List String) : Prop :=
  history = workspace.history ∨
    ∃ line, event = .execute line true ∧ history = (workspace.record line).history

/-- After an event the history is the one before it, or that with the line that was executed. -/
theorem history_step (workspace : Workspace) (event : Event) :
    (workspace.step event).settings = workspace.settings ∧
      ((workspace.step event).history = workspace.history ∨
        ∃ line, event = .execute line true ∧
          (workspace.step event).history = (workspace.record line).history) := by
  -- The invariant speaks of the history from before the event, so it holds at first.
  have holds : (memory (workspace.recalls event) workspace.settings).holds workspace :=
    ⟨.inl rfl, rfl⟩
  have noted (line : String) (isRecorded : Bool) (isLine : event = .execute line isRecorded) :
      workspace.recalls event (workspace.noting line isRecorded).history := by
    cases isRecorded with
    | true => exact .inr ⟨line, isLine, congrArg history (noting_true workspace line)⟩
    | false => exact .inl rfl
  have kept := coarse_memory.step holds event fun line isRecorded isLine =>
    memory_noting holds (noted line isRecorded isLine)
  exact kept.symm

/-! ## The ids of tabs -/

/-- Tabs have different ids, all of them below the next one. -/
def numbered : Invariant where
  holds workspace := (workspace.tabs.map (·.id)).Nodup ∧
    ∀ id ∈ workspace.tabs.map (·.id), id < workspace.nextId
  fragile := False

theorem coarse_numbered : numbered.Coarse where
  lasting := id
  same holds _ _ sameIds sameNext :=
    ⟨sameIds ▸ holds.1, fun id member => sameNext ▸ holds.2 id (sameIds ▸ member)⟩
  added := by
    intro workspace tab ⟨distinct, below⟩ named
    have ids : (workspace.addTab tab).tabs.map (·.id) =
        workspace.tabs.map (·.id) ++ [workspace.nextId] := by
      rw [Workspace.addTab, List.map_append, List.map_singleton, named]
    unfold numbered
    simp only [ids]
    refine ⟨List.nodup_append.mpr ⟨distinct, List.nodup_singleton _, ?_⟩, ?_⟩
    · intro id member other isNext
      rw [List.mem_singleton.mp isNext]
      exact (below id member).ne
    · intro id member
      rcases List.mem_append.mp member with old | isNext
      · exact Nat.lt_succ_of_lt (below id old)
      · rw [List.mem_singleton.mp isNext]
        exact Nat.lt_succ_self _
  removed := by
    intro workspace place ⟨distinct, below⟩
    have within := (List.eraseIdx_sublist workspace.tabs place).map (·.id)
    exact ⟨distinct.sublist within, fun id member => below id (within.subset member)⟩

end Workspace

end TableBrowser
