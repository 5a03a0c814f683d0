import TableBrowser.Proofs.Pipeline.Schema
import TableBrowser.Proofs.Workspace.Isolation
import TableBrowser.Proofs.Workspace.Recovery
/-!
# Taking a step back

A step that was added to settled steps can be undone before or after its outcome
has come. The undone generation is then an older one, its result is forgotten,
and the evaluation that the undo may need succeeds, as the steps did before. Main
statement: in whatever order the outcomes come, the tab ends with the steps and
the view that it had before the step was added.
-/

namespace TableBrowser

/-! ## Tabs with a step more and without it -/

namespace Tab

/-- A tab to whose settled steps one was added. -/
structure Pushed (tab : Tab) (settled : Pipeline) (step : Step) : Prop where
  sameRelation : tab.pipeline.relation = settled.relation
  sameBase : tab.pipeline.base = settled.base
  steps : tab.pipeline.steps = settled.steps ++ [step]
  generation : tab.pipeline.generation = settled.generation + 1

/-- A tab from which the added step was taken away, after some outcomes have been accepted. -/
structure Undone (tab : Tab) (settled : Pipeline) (key : String) (accepted : Nat) : Prop where
  sameRelation : tab.pipeline.relation = settled.relation
  sameBase : tab.pipeline.base = settled.base
  steps : tab.pipeline.steps = settled.steps
  generation : tab.pipeline.generation = settled.generation + 2
  forgotten : tab.pipeline.cache.Lacks key
  progress : (tab.pipeline.pending = some tab.pipeline.generation ∧ accepted = 0) ∨
    (tab.pipeline.Settled ∧ tab.pipeline.committed = settled.steps)

variable {tab : Tab} {settled : Pipeline} {step : Step} {key : String}

/-- What steps are evaluated to does not depend on how the pipeline came to them. -/
theorem run_latest (sameRelation : tab.pipeline.relation = settled.relation)
    (sameBase : tab.pipeline.base = settled.base) {steps : List Step}
    (isSteps : tab.pipeline.steps = steps) {table : Table}
    (applied : applySteps settled.relation settled.base steps = .ok table) :
    tab.pipeline.latest.run = .ok table := by
  rw [EvaluationRequest.run, Pipeline.latest, sameRelation, sameBase, isSteps, applied]

/-- The result of the added step is taken. -/
theorem Pushed.answer (pushed : tab.Pushed settled step)
    (applies : Applies settled.relation settled.base (settled.steps ++ [step]))
    (settings : Settings) (grid : Size) :
    ∃ after request, tab.answer settings grid (tab.pipeline.latest.message tab.id) =
      .becomes after request ∧ after.Pushed settled step := by
  rcases applies with ⟨table, applied⟩
  have made := run_latest pushed.sameRelation pushed.sameBase pushed.steps applied
  exact ⟨_, none, answer_latest_ok settings grid made, { pushed with }⟩

/-- The steps from before succeed again, and their result is shown. -/
theorem Undone.answer {accepted : Nat} (undone : tab.Undone settled key accepted)
    (isSettled : settled.Settled) (isKey : stepsKey (settled.steps ++ [step]) = .ok key)
    {messages : Multiset Message} (answering : tab.Answering messages) (settings : Settings)
    (grid : Size) :
    ∃ after request, tab.answer settings grid (tab.pipeline.latest.message tab.id) =
      .becomes after request ∧ after.Undone settled key (accepted + 1) := by
  have made := run_latest undone.sameRelation undone.sameBase undone.steps isSettled.shows
  refine ⟨_, none, answer_latest_ok settings grid made, ?_⟩
  have others : stepsKey tab.pipeline.steps ≠ .ok key := by
    rw [undone.steps]
    exact stepsKey_append_singleton_ne isKey
  exact { undone with
    forgotten := undone.forgotten.remember others settled.view
    progress := .inr ⟨(answering.installed made).1, undone.steps⟩ }

/-- What the undo leaves awaits the evaluation of the steps from before, or shows a kept result. -/
theorem Pushed.undone (pushed : tab.Pushed settled step) (consistent : tab.pipeline.Consistent)
    (keyed : Keyed settled.steps) (isKey : stepsKey (settled.steps ++ [step]) = .ok key)
    (appearance : Appearance) (grid : Size) :
    (∃ answer, tab.pipeline.undo.2 = .ok answer) ∧
      (tab.edited appearance grid tab.pipeline.undo).Undone settled key 0 := by
  let prepared : Pipeline := { tab.pipeline with
    cache := tab.pipeline.cache.erase key, steps := settled.steps }
  have within : settled.steps ⊆ tab.pipeline.steps := by
    rw [pushed.steps]
    exact List.subset_append_left _ _
  have preparedConsistent : prepared.Consistent :=
    consistent.prepared (Pipeline.prepares_erase within key)
  have preparedKeyed : Keyed prepared.steps := keyed
  have isUndo : tab.pipeline.undo = prepared.request := Pipeline.undo_eq_request pushed.steps isKey
  rw [isUndo]
  refine ⟨Pipeline.request_ok preparedKeyed, ?_⟩
  have pipeline := tab.pipeline_edited grid appearance prepared.request
  constructor
  · rw [pipeline, Pipeline.relation_request]
    exact pushed.sameRelation
  · rw [pipeline, Pipeline.base_request]
    exact pushed.sameBase
  · rw [pipeline, Pipeline.steps_request]
  · rw [pipeline, Pipeline.generation_request]
    exact congrArg (· + 1) pushed.generation
  · rw [pipeline]
    exact Pipeline.lacks_request (tab.pipeline.cache.lacks_erase key)
  · rw [pipeline]
    exact (preparedConsistent.request_keyed preparedKeyed).imp_left fun awaited => ⟨awaited, rfl⟩

/-- A settled tab shows what it showed before the step was added. -/
theorem Undone.view_eq {accepted : Nat} (undone : tab.Undone settled key accepted)
    (isSettled : settled.Settled) (shown : tab.pipeline.Settled) : tab.view = settled.view := by
  have shows := shown.shows
  rw [undone.sameRelation, undone.sameBase, undone.steps, isSettled.shows] at shows
  exact (Except.ok.inj shows).symm

end Tab

/-! ## Tabs among others -/

namespace Workspace

variable {workspace : Workspace} {tab : Tab}

/-- What arrives leaves the active tab active when its table is there. -/
theorem Sound.activeId_arriving (sound : workspace.Sound)
    (isActive : workspace.activeTab? = some tab) (isLoaded : tab.isLoading = false)
    (arrival : Arrival) : (workspace.arriving arrival).activeTab?.map (·.id) = some tab.id := by
  have activeId : workspace.activeTab?.map (·.id) = some tab.id := by rw [isActive, Option.map_some]
  rw [← activeId]
  cases arrival with
  | finish place =>
      simp only [Workspace.arriving]
      rcases workspace.finished_cases place with same | ⟨job, _, made⟩
      · rw [same]
      · rw [made]
        rfl
  | deliver place =>
      simp only [Workspace.arriving]
      cases found : workspace.messages[place]? with
      | none => rw [delivered_of_none found]
      | some message =>
          have without := sound.without found
          rcases sound.delivered_eq found with ⟨search, status, _, made⟩
          rw [made]
          refine activeId_taking without.toFramed fun fails names => ?_
          have isTab : message.tab = tab.id := Option.some.inj (names.symm.trans activeId)
          cases message with
          | loaded id result =>
              cases isTab
              have loading := (without.tabs tab (List.mem_of_getElem? isActive)).isLoading_of_loaded
              rw [isLoaded] at loading
              cases loading.1
          | evaluated id generation steps result => cases fails

/-- A tab whose table is there stays, and keeps its table. -/
theorem Sound.loaded_arriving (sound : workspace.Sound) (member : tab ∈ workspace.tabs)
    (isLoaded : tab.isLoading = false) (arrival : Arrival) :
    ∃ next ∈ (workspace.arriving arrival).tabs, next.id = tab.id ∧ next.isLoading = false := by
  rcases sound.accepts_cases member isLoaded arrival with
    ⟨_, stays⟩ | ⟨_, messages, answering, becomes⟩
  · exact ⟨tab, stays, rfl, isLoaded⟩
  · rcases answering.answer workspace.settings workspace.grid with
      ⟨next, request, answer, sameId, nextLoaded, _⟩
    exact ⟨next, becomes next request answer, sameId, nextLoaded⟩

/-- Whatever arrives, the active tab stays active when its table is there. -/
theorem Sound.activeId_arrived (sound : workspace.Sound)
    (isActive : workspace.activeTab? = some tab) (isLoaded : tab.isLoading = false)
    (arrivals : List Arrival) :
    (workspace.arrived arrivals).activeTab?.map (·.id) = some tab.id := by
  induction arrivals generalizing workspace tab with
  | nil =>
      rw [Workspace.arrived, List.foldl_nil, isActive]
      rfl
  | cons arrival arrivals induction =>
      have activeId := sound.activeId_arriving isActive isLoaded arrival
      rcases Option.map_eq_some_iff.mp activeId with ⟨next, nextActive, sameId⟩
      rcases sound.loaded_arriving (List.mem_of_getElem? isActive) isLoaded arrival with
        ⟨same, member, alsoSameId, nextLoaded⟩
      have isNext := (sound.arriving arrival).eq_of_id member (List.mem_of_getElem? nextActive)
        (alsoSameId.trans sameId.symm)
      rw [isNext] at nextLoaded
      rw [← sameId]
      exact induction (sound.arriving arrival) nextActive nextLoaded

/-- A step that is accepted is added to the active tab, and then all steps have a key. -/
theorem Sound.pushed (sound : workspace.Sound) (isActive : workspace.activeTab? = some tab)
    (isLoaded : tab.isLoading = false) {step : Step} {after : Workspace}
    (ran : Act.pushStep step workspace = (.ok (), after)) :
    after.Sound ∧ (∃ key, stepsKey (tab.pipeline.steps ++ [step]) = .ok key) ∧
      ∃ pushed, after.activeTab? = some pushed ∧ pushed.id = tab.id ∧ pushed.isLoading = false ∧
        pushed.Pushed tab.pipeline step := by
  have afterSound := sound.step (.push step)
  change (Act.pushStep step workspace).2.Sound at afterSound
  rw [ran] at afterSound
  rcases activeTab?_edit sound.search isActive isLoaded (·.push step) with ⟨answer, active⟩
  change (Act.pushStep step workspace).1 = _ at answer
  change (Act.pushStep step workspace).2.activeTab? = _ at active
  rw [ran] at answer active
  cases accepted : (tab.pipeline.push step).2 with
  | error problem =>
      rw [accepted] at answer
      cases answer
  | ok request =>
      rcases Pipeline.push_eq_request accepted with ⟨isPush, isKeyed⟩
      refine ⟨afterSound, isKeyed, _, active, Tab.id_edited _ _, ?_, ?_⟩
      · rw [Tab.isLoading_edited, isLoaded]
      · have pipeline := tab.pipeline_edited workspace.grid workspace.settings.appearance
          (tab.pipeline.push step)
        rw [isPush] at pipeline ⊢
        constructor <;> rw [pipeline] <;> simp

/-- The added step can be taken back. -/
theorem Sound.undone (sound : workspace.Sound) (isActive : workspace.activeTab? = some tab)
    (isLoaded : tab.isLoading = false) {settled : Pipeline} {step : Step}
    (pushed : tab.Pushed settled step) (keyed : Keyed settled.steps) {key : String}
    (isKey : stepsKey (settled.steps ++ [step]) = .ok key) :
    ∃ after, Act.undo workspace = (.ok (), after) ∧ after.Sound ∧
      ∃ undone ∈ after.tabs, undone.id = tab.id ∧ undone.isLoading = false ∧
        undone.Undone settled key 0 := by
  have ready := (sound.tabs tab (List.mem_of_getElem? isActive)).ready isLoaded
  rcases pushed.undone ready.pipeline.toConsistent keyed isKey workspace.settings.appearance
    workspace.grid with ⟨⟨request, accepted⟩, isUndone⟩
  rcases activeTab?_edit sound.search isActive isLoaded (·.undo) with ⟨answer, active⟩
  have afterSound : (Act.undo workspace).2.Sound := sound.step .undo
  rw [accepted] at answer
  refine ⟨(Act.undo workspace).2, Prod.ext answer rfl, afterSound, _, List.mem_of_getElem? active,
    Tab.id_edited _ _, ?_, isUndone⟩
  rw [Tab.isLoading_edited, isLoaded]

/-- A step that was added is still the last one when the undo comes, unless it was given up. -/
theorem Sound.pushed_arrived (sound : workspace.Sound) (isActive : workspace.activeTab? = some tab)
    (isLoaded : tab.isLoading = false) {settled : Pipeline} {step : Step}
    (pushed : tab.Pushed settled step) {arrivals : List Arrival}
    (kept : workspace.acceptedCount tab.id arrivals = 0 ∨
      Applies settled.relation settled.base (settled.steps ++ [step])) :
    ∃ after, (workspace.arrived arrivals).activeTab? = some after ∧ after.id = tab.id ∧
      after.isLoading = false ∧ after.Pushed settled step := by
  have member := List.mem_of_getElem? isActive
  have present : ∃ after ∈ (workspace.arrived arrivals).tabs, after.id = tab.id ∧
      after.isLoading = false ∧ after.Pushed settled step := by
    rcases kept with unaccepted | applies
    · exact ⟨tab, sound.mem_arrived_of_unaccepted member isLoaded unaccepted, rfl, isLoaded, pushed⟩
    · have passedOn : PassedOn fun _ other => other.Pushed settled step :=
        fun _ _ _ settings grid _ pushed => pushed.answer applies settings grid
      exact sound.counted_arrived passedOn member isLoaded 0 pushed arrivals
  rcases present with ⟨after, afterMember, sameId, afterLoaded, afterPushed⟩
  rcases Option.map_eq_some_iff.mp (sound.activeId_arrived isActive isLoaded arrivals) with
    ⟨active, nowActive, activeId⟩
  have isAfter := (sound.arrived arrivals).eq_of_id afterMember (List.mem_of_getElem? nowActive)
    (sameId.trans activeId.symm)
  rw [← isAfter] at nowActive
  exact ⟨after, nowActive, sameId, afterLoaded, afterPushed⟩

/-- Whatever arrives after the undo, the tab stays as the undo left it or shows the steps from before. -/
theorem Sound.undone_arrived (sound : workspace.Sound) (member : tab ∈ workspace.tabs)
    (isLoaded : tab.isLoading = false) {settled : Pipeline} (isSettled : settled.Settled)
    {step : Step} {key : String} (isKey : stepsKey (settled.steps ++ [step]) = .ok key)
    (undone : tab.Undone settled key 0) (arrivals : List Arrival) :
    ∃ after ∈ (workspace.arrived arrivals).tabs, after.id = tab.id ∧ after.isLoading = false ∧
      after.Undone settled key (workspace.acceptedCount tab.id arrivals) := by
  have passedOn : PassedOn fun accepted other => other.Undone settled key accepted :=
    fun _ _ _ settings grid answering undone =>
      undone.answer isSettled isKey answering settings grid
  rcases sound.counted_arrived passedOn member isLoaded 0 undone arrivals with
    ⟨after, afterMember, sameId, afterLoaded, afterUndone⟩
  rw [Nat.zero_add] at afterUndone
  exact ⟨after, afterMember, sameId, afterLoaded, afterUndone⟩

/--
A step is added to a settled tab and taken back. In between the outcome of the
added step may have come, if it succeeds; later anything may come, also the late
outcome of that step. The tab then has the steps from before and no result of
the others, and it awaits the one evaluation that the undo has asked for, or it
is settled again and shows what it showed. Outcomes of the undone generation
change nothing.
-/
theorem undo_push_after (settings : Settings) (files : FileTree) (scheduling : Scheduling)
    (events : List Event) :
    let before := (start settings files scheduling).after events
    ∀ tab, before.activeTab? = some tab → tab.isLoading = false → tab.pipeline.pending = none →
      Step.sameAll tab.pipeline.steps tab.pipeline.committed = .ok true →
    ∀ step pushed, Act.pushStep step before = (.ok (), pushed) →
    ∀ between, (pushed.acceptedCount tab.id between = 0 ∨
        Applies tab.pipeline.relation tab.pipeline.base (tab.pipeline.steps ++ [step])) →
    ∃ undone, Act.undo (pushed.arrived between) = (.ok (), undone) ∧
    ∀ later, ∃ after ∈ (undone.arrived later).tabs, after.id = tab.id ∧
      after.pipeline.steps = tab.pipeline.steps ∧
      after.pipeline.cached (tab.pipeline.steps ++ [step]) = .ok none ∧
      ((undone.acceptedCount tab.id later = 0 ∧
          after.Awaits (undone.arrived later).outstanding) ∨
        (after.pipeline.pending = none ∧
          Step.sameAll after.pipeline.committed tab.pipeline.committed = .ok true ∧
          after.view = tab.view)) ∧
      ∀ steps result, Act.receive
          (.evaluated tab.id (tab.pipeline.generation + 1) steps result) (undone.arrived later) =
        (.ok false, undone.arrived later) := by
  intro before tab isActive isLoaded idle same step pushed ranPush between kept
  have sound : before.Sound := (sound_start settings files scheduling).after events
  have ready := (sound.tabs tab (List.mem_of_getElem? isActive)).ready isLoaded
  have isSettled := ready.pipeline.toConsistent.settled idle same
  have keyed := Step.keyed_of_sameAll same
  rcases sound.pushed isActive isLoaded ranPush with
    ⟨pushedSound, ⟨key, isKey⟩, added, addedActive, addedId, addedLoaded, isPushed⟩
  rw [← addedId] at kept
  rcases pushedSound.pushed_arrived addedActive addedLoaded isPushed kept with
    ⟨waiting, waitingActive, waitingId, waitingLoaded, stillPushed⟩
  rcases (pushedSound.arrived between).undone waitingActive waitingLoaded stillPushed keyed isKey with
    ⟨undone, ranUndo, undoneSound, left, leftMember, leftId, leftLoaded, isUndone⟩
  have leftSame : left.id = tab.id := leftId.trans (waitingId.trans addedId)
  refine ⟨undone, ranUndo, fun later => ?_⟩
  rcases undoneSound.undone_arrived leftMember leftLoaded isSettled isKey isUndone later with
    ⟨after, afterMember, afterId, afterLoaded, stillUndone⟩
  have afterSame : after.id = tab.id := afterId.trans leftSame
  have afterSound := undoneSound.arrived later
  have afterReady := (afterSound.tabs after afterMember).ready afterLoaded
  rw [leftSame] at stillUndone
  refine ⟨after, afterMember, afterSame, stillUndone.steps, ?_, ?_, ?_⟩
  · rw [Pipeline.cached, isKey]
    exact congrArg Except.ok stillUndone.forgotten.find?
  · rcases stillUndone.progress with ⟨isAwaited, unaccepted⟩ | ⟨shown, committed⟩
    · exact .inl ⟨unaccepted, isAwaited, afterReady.awaiting isAwaited⟩
    · exact .inr ⟨shown.idle, by rwa [committed], stillUndone.view_eq isSettled shown⟩
  · intro steps result
    rw [← afterSame]
    apply Act.receive_stale (afterSound.tabOf?_eq afterMember)
    rw [stillUndone.generation]
    omega

/-- A selection is added to a table and taken back after its result has come. -/
theorem undo_push_selection :
    let before := (start {} { surroundings := ⟨[], []⟩ } .deferred).after
      [.openTable .onlyId "t" []]
    let pushed := (Act.pushStep .selection before).2
    ∃ tab undone, before.activeTab? = some tab ∧
      Act.undo (pushed.arrived [.finish 0, .deliver 0]) = (.ok (), undone) ∧
      ∃ after ∈ undone.tabs, after.id = tab.id ∧ after.pipeline.steps = [] ∧
        (after.pipeline.pending = none → after.view = tab.view) := by
  intro before pushed
  have sound : before.Sound := (sound_start ..).after _
  rcases activeTab?_openTable_nil {} { surroundings := ⟨[], []⟩ } .deferred .onlyId "t" with
    ⟨tab, isActive, isLoaded, isPipeline⟩
  have steps : tab.pipeline.steps = [] := by rw [isPipeline]; rfl
  have idle : tab.pipeline.pending = none := by rw [isPipeline]; rfl
  have applies : Applies tab.pipeline.relation tab.pipeline.base
      (tab.pipeline.steps ++ [.selection]) := by
    rw [isPipeline]
    exact applies_of_select ofStep_selection
  have ready := (sound.tabs tab (List.mem_of_getElem? isActive)).ready isLoaded
  have shows : applySteps tab.pipeline.relation tab.pipeline.base tab.pipeline.steps =
      .ok .onlyId := by
    rw [isPipeline]
    rfl
  have keyed : Keyed (tab.pipeline.steps ++ [.selection]) := by
    rw [steps]
    exact keyed_selection
  rcases (ready.pipeline.toConsistent.accepts_iff_keyed shows applies).mpr keyed with
    ⟨answer, accepted⟩
  have ran : Act.pushStep .selection before = (.ok (), pushed) := by
    refine Prod.ext ?_ rfl
    have answered := (activeTab?_edit sound.search isActive isLoaded (·.push .selection)).1
    rw [accepted] at answered
    exact answered
  have same : Step.sameAll tab.pipeline.steps tab.pipeline.committed = .ok true := by
    rw [isPipeline]
    rfl
  rcases undo_push_after {} { surroundings := ⟨[], []⟩ } .deferred [.openTable .onlyId "t" []] tab
    isActive isLoaded idle same .selection pushed ran [.finish 0, .deliver 0] (.inr applies) with
    ⟨undone, ranUndo, reverts⟩
  rcases reverts [] with ⟨after, member, sameId, sameSteps, _, reverted, _⟩
  refine ⟨tab, undone, isActive, ranUndo, after, member, sameId, sameSteps.trans steps, ?_⟩
  intro isIdle
  rcases reverted with ⟨_, awaited, _⟩ | ⟨_, _, sameView⟩
  · rw [isIdle] at awaited
    cases awaited
  · exact sameView

end Workspace

end TableBrowser
