import TableBrowser.Proofs.Workspace.Delivery
import TableBrowser.Proofs.Workspace.Execution
/-!
# Runs of a workspace

A run mixes what the user does with what arrives, in any order. Main statement:
after every run a tab whose table is there awaits the one outstanding evaluation
of its steps, or shows their result, exactly when its steps have content keys;
and when nothing is outstanding, no evaluation has been lost.
-/

namespace TableBrowser

namespace Workspace

/-- What happens to a workspace: what the user does, and what arrives. -/
inductive Event where
  /-- A command line is executed. -/
  | execute (line : String) (isRecorded : Bool)
  | openTable (table : Table) (name : String) (steps : List Step)
  | openSource (source : Source) (steps : List Step)
  | openRecord
  | duplicate
  | close
  | switch (places : Int)
  | push (step : Step)
  | undo
  | reset
  | replace (steps : List Step)
  | move (rows columns : Int)
  | page (fraction : Binary64)
  | find (text : String) (mode : Option Search.Mode) (caseSensitive : Option Bool)
  | findNext (backwards : Bool)
  | resize (grid : Size)
  | arrive (arrival : Arrival)

def Event.act : Event → Act Unit
  | .execute line isRecorded => discard (Act.execute line isRecorded)
  | .openTable table name steps => Act.openTable table name steps
  | .openSource source steps => Act.openSource source steps
  | .openRecord => Act.openRecord
  | .duplicate => Act.duplicateTab
  | .close => Act.closeTab
  | .switch places => Act.switchTab places
  | .push step => Act.pushStep step
  | .undo => Act.undo
  | .reset => Act.reset
  | .replace steps => Act.replaceSteps steps
  | .move rows columns => Act.move rows columns
  | .page fraction => Act.page fraction
  | .find text mode caseSensitive => discard (Act.find text mode caseSensitive)
  | .findNext backwards => discard (Act.findNext backwards)
  | .resize grid => modify (·.resized grid)
  | .arrive arrival => modify (·.arriving arrival)

/-- What an event leaves behind, also when it fails. -/
def step (workspace : Workspace) (event : Event) : Workspace := (event.act workspace).2

def after (workspace : Workspace) (events : List Event) : Workspace := events.foldl step workspace

theorem sound_start (settings : Settings) (files : FileTree) (scheduling : Scheduling) :
    (start settings files scheduling).Sound where
  ids := List.nodup_nil
  below _ member := by cases member
  known message member := absurd member (Multiset.notMem_zero message)
  place := Nat.le_refl _
  search := .inl rfl
  tabs _ member := by cases member

variable {workspace : Workspace}

/-- Whether an event copies the active tab. -/
def Event.Copies (workspace : Workspace) : Event → Prop
  | .duplicate => True
  | .execute line _ =>
      ∃ command, workspace.commandOf line = .ok command ∧ command.verb = .duplicateTab
  | _ => False

open Act in
/-- An event may record a line, and copy a tab after that, where this leaves the invariant. -/
theorem Event.leaves_act {invariant : Invariant} (steady : invariant.Steady)
    (holds : invariant.holds workspace) (event : Event)
    (noted : ∀ line isRecorded, event = .execute line isRecorded →
      invariant.holds (workspace.noting line isRecorded))
    (copied : event.Copies workspace → ∀ history, invariant.holds { workspace with history } →
      Act.duplicateTab.Leaves invariant { workspace with history })
    (opened : ∀ table name steps, event = .openTable table name steps →
      (Act.openTable table name steps).Leaves invariant workspace)
    (resized : ∀ grid, invariant.holds (workspace.resized grid))
    (arrived : ∀ arrival, invariant.holds (workspace.arriving arrival)) :
    event.act.Leaves invariant workspace := by
  unfold act
  cases event with
  | execute line isRecorded =>
      have notes := noted line isRecorded rfl
      refine Ends.discard (steady.leaves_execute line isRecorded notes ?_)
      intro command isCommand isCopy
      rcases workspace.exists_noting line isRecorded with ⟨history, made⟩
      rw [made] at notes ⊢
      exact copied ⟨command, isCommand, isCopy⟩ history notes
  | openTable table name steps => exact opened table name steps rfl
  | openSource source steps => exact steady.openSource source steps workspace holds
  | openRecord => exact steady.openRecord workspace holds
  | duplicate => exact copied trivial workspace.history holds
  | close => exact steady.closeTab workspace holds
  | switch places => exact steady.switchTab places workspace holds
  | push step => exact steady.edit (Pipeline.isEdit_push step) workspace holds
  | undo => exact steady.edit Pipeline.isEdit_undo workspace holds
  | reset => exact steady.edit Pipeline.isEdit_reset workspace holds
  | replace steps => exact steady.edit (Pipeline.isEdit_replace steps) workspace holds
  | move rows columns => exact steady.move rows columns workspace holds
  | page fraction => exact steady.page fraction workspace holds
  | find text mode caseSensitive =>
      exact Keeps.discard (steady.find text mode caseSensitive) workspace holds
  | findNext backwards => exact Keeps.discard (steady.findNext backwards) workspace holds
  | resize grid => exact Ends.modify (resized grid)
  | arrive arrival => exact Ends.modify (arrived arrival)

open Act in
/-- What commands keep is kept by whatever happens, if tables that come and other sizes keep it too. -/
theorem Event.keeps_act {invariant : Invariant} (durable : invariant.Durable) (event : Event)
    (opened : ∀ table name steps, event = .openTable table name steps →
      Keeps invariant (Act.openTable table name steps))
    (resized : ∀ workspace grid, invariant.holds workspace → invariant.holds (workspace.resized grid))
    (arrived : ∀ workspace arrival, invariant.holds workspace →
      invariant.holds (workspace.arriving arrival)) :
    Keeps invariant event.act :=
  fun workspace holds => event.leaves_act durable.toSteady holds
    (fun line isRecorded _ => durable.noting holds line isRecorded)
    (fun _ _ holds => durable.duplicateTab _ holds)
    (fun table name steps same => opened table name steps same workspace holds)
    (fun grid => resized workspace grid holds) fun arrival => arrived workspace arrival holds

theorem Sound.step (sound : workspace.Sound) (event : Event) : (workspace.step event).Sound := by
  have kept : Act.Keeps soundness event.act :=
    event.keeps_act durable_soundness (fun _ _ _ _ => Act.keeps_openTable _ _ _)
      (fun _ grid sound => Sound.resized sound grid)
      fun _ arrival sound => Sound.arriving sound arrival
  exact (kept workspace sound).holds id

theorem Sound.after (sound : workspace.Sound) (events : List Event) :
    (workspace.after events).Sound := by
  induction events generalizing workspace with
  | nil => exact sound
  | cons event events induction => exact induction (sound.step event)

end Workspace

/-! ## What tabs await and show -/

namespace Tab

/-- The latest generation is awaited, and the evaluation of the steps is outstanding, once. -/
def Awaits (tab : Tab) (messages : Multiset Message) : Prop :=
  tab.pipeline.pending = some tab.pipeline.generation ∧
    evaluationsOf messages tab.id tab.pipeline.generation = {tab.pipeline.latest.message tab.id}

variable {tab : Tab} {messages : Multiset Message}

theorem Ready.awaits_or_settled_iff (ready : tab.Ready messages) :
    tab.Awaits messages ∨ tab.pipeline.Settled ↔ Keyed tab.pipeline.steps := by
  constructor
  · rintro (⟨isAwaited, _⟩ | settled)
    · exact (ready.pipeline.current _ isAwaited).mp rfl
    · exact Step.keyed_of_sameAll settled.committed
  · intro keyed
    by_cases isAwaited : tab.pipeline.pending = some tab.pipeline.generation
    · exact .inl ⟨isAwaited, ready.awaiting isAwaited⟩
    · exact .inr (ready.settled isAwaited keyed)

theorem Sound.isLoaded_of_nothing (sound : tab.Sound 0) : tab.isLoading = false := by
  cases isLoading : tab.isLoading with
  | false => rfl
  | true => exact absurd (sound.loading isLoading).load Nat.zero_ne_one

theorem not_awaits_nothing : ¬ tab.Awaits 0 := by
  rintro ⟨_, outstanding⟩
  exact absurd outstanding.symm (Multiset.singleton_ne_zero _)

end Tab

namespace Workspace

variable {workspace : Workspace}

theorem outstanding_of_nothing (noJobs : workspace.jobs = [])
    (noMessages : workspace.messages = []) : workspace.outstanding = 0 := by
  rw [outstanding, noJobs, noMessages]
  rfl

/--
After every run a tab whose table is there awaits the one outstanding evaluation
of its steps or shows their result, unless a step has no content key. Once
nothing is outstanding all tables are there, and what is listed is shown.
-/
theorem awaits_or_settled_after (settings : Settings) (files : FileTree) (scheduling : Scheduling)
    (events : List Event) :
    let workspace := (start settings files scheduling).after events
    (∀ tab ∈ workspace.tabs, tab.isLoading = false →
      (tab.Awaits workspace.outstanding ∨ tab.pipeline.Settled ↔ Keyed tab.pipeline.steps)) ∧
    (workspace.jobs = [] → workspace.messages = [] → ∀ tab ∈ workspace.tabs,
      tab.isLoading = false ∧
        (tab.isBusy = false ∧ tab.pipeline.Settled ↔ Keyed tab.pipeline.steps)) := by
  intro workspace
  have sound : workspace.Sound := (sound_start settings files scheduling).after events
  constructor
  · intro tab member isLoaded
    exact ((sound.tabs tab member).ready isLoaded).awaits_or_settled_iff
  · intro noJobs noMessages tab member
    have soundTab := sound.tabs tab member
    rw [outstanding_of_nothing noJobs noMessages] at soundTab
    have isLoaded := soundTab.isLoaded_of_nothing
    refine ⟨isLoaded, ?_⟩
    rw [← (soundTab.ready isLoaded).awaits_or_settled_iff, or_iff_right Tab.not_awaits_nothing]
    constructor
    · exact fun both => both.2
    · intro settled
      refine ⟨?_, settled⟩
      rw [Tab.isBusy, isLoaded, Pipeline.isBusy, settled.idle]
      rfl

/-! ## Steps without a key -/

/-- An edit leaves the same tabs open, and the one that was edited has the new pipeline. -/
theorem works_edited (usable : workspace.search.Usable) (id : Nat) (result : Pipeline.Edited) :
    (Act.edited id result workspace).2.tabs.map Tab.work = workspace.tabs.map (fun tab =>
        if tab.id = id then (id, result.1, tab.isLoading) else tab.work) ∧
      (Act.edited id result workspace).2.active = workspace.active := by
  rcases Act.run_edited usable id result with ⟨search, _, made⟩
  rw [made]
  constructor
  · change (handOut _ _ _).tabs.map Tab.work = _
    rw [tabs_handOut, updateTab, List.map_map]
    apply List.map_congr_left
    intro tab _
    rw [Function.comp_apply]
    split
    · next same => rw [Tab.work_edited, same]
    · rfl
  · rcases exists_handOut _ id (Pipeline.asked result) with ⟨jobs, messages, handed⟩
    rw [handed]
    rfl

theorem works_viewChanged (usable : workspace.search.Usable) (id : Nat) :
    (Act.viewChanged id workspace).2.tabs.map Tab.work = workspace.tabs.map Tab.work ∧
      (Act.viewChanged id workspace).2.active = workspace.active := by
  rcases Act.run_viewChanged usable id with ⟨search, _, made⟩
  rw [made]
  refine ⟨?_, rfl⟩
  change (updateTab _ _ _).tabs.map Tab.work = _
  rw [updateTab, List.map_map]
  apply List.map_congr_left
  intro tab _
  rw [Function.comp_apply]
  split
  · rfl
  · rfl

/-- The only tab, with the evaluation of its steps under way. -/
theorem works_openTable (settings : Settings) (files : FileTree) (scheduling : Scheduling)
    (table : Table) (name : String) (step : Step) :
    let opened := (start settings files scheduling).step (.openTable table name [step])
    opened.tabs.map Tab.work =
      [(1, (Pipeline.start table [step] settings.sqlTableName settings.cacheSize.toNat).request.1,
        false)] ∧ opened.active = 0 := by
  intro opened
  let pipeline := (start settings files scheduling).newPipeline table [step]
  let added := (start settings files scheduling).addTab fun id => { id, name, pipeline }
  have usable : added.search.Usable := .inl rfl
  have edited := works_edited usable 1 pipeline.request
  rcases Act.run_edited usable 1 pipeline.request with ⟨search, searchUsable, made⟩
  have ran : opened = ((Act.edited 1 pipeline.request >>= fun _ => Act.viewChanged 1) added).2 := rfl
  rw [ran, Act.run_bind]
  rw [made] at edited ⊢
  cases pipeline.request.2 with
  | error problem => exact edited
  | ok request =>
      simp only [Except.map] at edited ⊢
      generalize isAfter : Workspace.withSearch _ search = after at edited ⊢
      have afterUsable : after.search.Usable := isAfter ▸ searchUsable
      have fitted := works_viewChanged afterUsable 1
      exact ⟨fitted.1.trans edited.1, fitted.2.trans edited.2⟩

/-- A tab that was opened without steps is active, and shows its table. -/
theorem activeTab?_openTable_nil (settings : Settings) (files : FileTree) (scheduling : Scheduling)
    (table : Table) (name : String) :
    ∃ tab, ((start settings files scheduling).step (.openTable table name [])).activeTab? = some tab ∧
      tab.isLoading = false ∧ tab.pipeline = (start settings files scheduling).newPipeline table [] :=
  ⟨_, rfl, rfl, rfl⟩

/-- A tab that was opened with steps is active, and its table is there. -/
theorem activeTab?_openTable (settings : Settings) (files : FileTree) (scheduling : Scheduling)
    (table : Table) (name : String) (step : Step) :
    let opened := (start settings files scheduling).step (.openTable table name [step])
    ∃ tab, opened.activeTab? = some tab ∧ tab.id = 1 ∧ tab.isLoading = false ∧
      tab.pipeline = ((start settings files scheduling).newPipeline table [step]).request.1 := by
  intro opened
  rcases works_openTable settings files scheduling table name step with ⟨works, active⟩
  rcases List.map_eq_singleton_iff.mp works with ⟨tab, tabs, work⟩
  simp only [Tab.work, Prod.mk.injEq] at work
  refine ⟨tab, ?_, work.1, work.2.2, work.2.1⟩
  rw [activeTab?, active, tabs]
  rfl

/-- The evaluation of the first steps is done at once where jobs are, and its message is there. -/
theorem messages_openTable (settings : Settings) (files : FileTree) (table : Table) (name : String)
    {step : Step} (keyed : Keyed [step]) :
    ((start settings files .immediate).step (.openTable table name [step])).messages =
      [((start settings files .immediate).newPipeline table [step]).request.1.latest.message 1] := by
  let pipeline := (start settings files .immediate).newPipeline table [step]
  let added := (start settings files .immediate).addTab fun id => { id, name, pipeline }
  have usable : added.search.Usable := .inl rfl
  have asked : Pipeline.asked pipeline.request = some pipeline.request.1.latest :=
    Pipeline.asked_start_request table _ _ keyed (by simp)
  have ran : (start settings files .immediate).step (.openTable table name [step]) =
      ((Act.edited 1 pipeline.request >>= fun _ => Act.viewChanged 1) added).2 := rfl
  rcases Act.run_edited usable 1 pipeline.request with ⟨search, searchUsable, made⟩
  rw [ran, Act.run_bind, made, asked]
  cases pipeline.request.2 with
  | error problem => rfl
  | ok request =>
      simp only [Except.map]
      generalize isEdited : Workspace.withSearch _ search = edited
      have editedUsable : edited.search.Usable := isEdited ▸ searchUsable
      rcases Act.run_viewChanged editedUsable 1 with ⟨again, _, shown⟩
      rw [shown, ← isEdited]
      rfl

/-- Steps without a key can replace steps that are being evaluated; then nothing is awaited rightly. -/
theorem lost_after_replace :
    ∃ tab ∈ ((start {} { surroundings := ⟨[], []⟩ } .deferred).after
        [.openTable .empty "t" [.selection], .replace [.mixedNote]]).tabs,
      tab.isLoading = false ∧ tab.pipeline.pending = some 1 ∧ tab.pipeline.generation = 2 ∧
        ∀ messages, ¬ (tab.Awaits messages ∨ tab.pipeline.Settled) := by
  let opened := (start {} { surroundings := ⟨[], []⟩ } .deferred).step
    (.openTable .empty "t" [.selection])
  have sound : opened.Sound := (sound_start ..).step _
  rcases works_openTable {} { surroundings := ⟨[], []⟩ } .deferred .empty "t" .selection with
    ⟨works, active⟩
  rcases List.map_eq_singleton_iff.mp works with ⟨tab, tabs, work⟩
  simp only [Tab.work, Prod.mk.injEq] at work
  rcases work with ⟨id, isPipeline, isLoaded⟩
  have found : opened.activeTab? = some tab := by
    rw [activeTab?, active, tabs]
    rfl
  have ran : (opened.step (.replace [.mixedNote])) =
      (Act.edited tab.id (tab.pipeline.replace [.mixedNote]) opened).2 := by
    have isEdit : Event.act (.replace [.mixedNote]) =
        Act.edit fun pipeline => pipeline.replace [.mixedNote] := rfl
    rw [Workspace.step, isEdit, Act.run_edit found isLoaded]
  have replaced := (works_edited sound.search tab.id (tab.pipeline.replace [.mixedNote])).1
  rw [tabs, List.map_singleton, if_pos rfl, ← ran] at replaced
  rcases List.map_eq_singleton_iff.mp replaced with ⟨after, afterTabs, afterWork⟩
  simp only [Tab.work, Prod.mk.injEq] at afterWork
  rcases afterWork with ⟨_, afterPipeline, afterLoaded⟩
  rw [Pipeline.replace_of_not_keyed Pipeline.admitsAll_mixedNote not_keyed_mixedNote,
    isPipeline] at afterPipeline
  have awaited : after.pipeline.pending = some 1 := by
    rw [afterPipeline]
    exact Pipeline.pending_start_request .empty _ _ keyed_selection (by simp)
  have generation : after.pipeline.generation = 2 := by
    rw [afterPipeline, Pipeline.generation_request]
    rfl
  refine ⟨after, ?_, afterLoaded.trans isLoaded, awaited, generation, ?_⟩
  · change after ∈ (opened.step (.replace [.mixedNote])).tabs
    rw [afterTabs]
    exact List.mem_singleton_self after
  · rintro messages (⟨isLatest, _⟩ | settled)
    · rw [awaited, generation] at isLatest
      cases isLatest
    · rw [settled.idle] at awaited
      cases awaited

end Workspace

end TableBrowser
