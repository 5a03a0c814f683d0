import TableBrowser.Proofs.Workspace.Order
/-!
# Recovery from failing steps

When the evaluation of the steps of a tab fails, the steps before the position
to blame are left, and they are evaluated until some list of steps succeeds. No
step that still succeeds is dropped on the way, also when the failure names no
step. Main statement: a tab takes at most one outcome more than it has steps, and
then it shows the longest beginning of its steps that succeeds.
-/

namespace TableBrowser

/-- The longest beginning of steps that makes a table of the base. -/
structure LongestSuccess (relation : String) (base : Table) (steps kept : List Step) : Prop where
  isPrefix : kept <+: steps
  applies : Applies relation base kept
  longest : ∀ earlier, earlier <+: steps → Applies relation base earlier → earlier <+: kept

/-! ## Recovering tabs -/

namespace Tab

/-- A tab that has awaited some steps, after some outcomes have been accepted. -/
structure Recovering (tab : Tab) (relation : String) (base : Table) (steps : List Step)
    (accepted : Nat) : Prop where
  isLoaded : tab.isLoading = false
  sameRelation : tab.pipeline.relation = relation
  sameBase : tab.pipeline.base = base
  isPrefix : tab.pipeline.steps <+: steps
  longest : ∀ earlier, earlier <+: steps → Applies relation base earlier →
    earlier <+: tab.pipeline.steps
  progress : (tab.pipeline.pending = some tab.pipeline.generation ∧
      accepted + tab.pipeline.steps.length ≤ steps.length) ∨
    (tab.pipeline.Settled ∧ 0 < accepted ∧ accepted ≤ steps.length + 1)

variable {tab : Tab} {relation : String} {base : Table} {steps : List Step} {accepted : Nat}
  {messages : Multiset Message}

theorem recovering_start (isLoaded : tab.isLoading = false)
    (awaited : tab.pipeline.pending = some tab.pipeline.generation) :
    tab.Recovering tab.pipeline.relation tab.pipeline.base tab.pipeline.steps 0 where
  isLoaded
  sameRelation := rfl
  sameBase := rfl
  isPrefix := List.prefix_rfl
  longest _ within _ := within
  progress := .inl ⟨awaited, by omega⟩

theorem Recovering.of_work (recovering : tab.Recovering relation base steps accepted) {other : Tab}
    (same : other.work = tab.work) : other.Recovering relation base steps accepted := by
  simp only [work, Prod.mk.injEq] at same
  rcases same with ⟨_, pipeline, isLoading⟩
  exact {
    isLoaded := isLoading.trans recovering.isLoaded
    sameRelation := by rw [pipeline, recovering.sameRelation]
    sameBase := by rw [pipeline, recovering.sameBase]
    isPrefix := by rw [pipeline]; exact recovering.isPrefix
    longest := by rw [pipeline]; exact recovering.longest
    progress := by rw [pipeline]; exact recovering.progress }

/-- While an evaluation is awaited, no more outcomes were accepted than steps are dropped. -/
theorem Recovering.accepted_le (recovering : tab.Recovering relation base steps accepted)
    (awaited : tab.pipeline.pending = some tab.pipeline.generation) :
    accepted + tab.pipeline.steps.length ≤ steps.length := by
  rcases recovering.progress with ⟨_, bound⟩ | ⟨settled, _⟩
  · exact bound
  · rw [settled.idle] at awaited
    cases awaited

/-- The awaited result shows the steps that are left. -/
theorem Recovering.installed (recovering : tab.Recovering relation base steps accepted)
    (answering : tab.Answering messages) {table : Table}
    (made : tab.pipeline.latest.run = .ok table) :
    ({ tab with pipeline := tab.installed table } : Tab).Recovering relation base steps
      (accepted + 1) where
  isLoaded := recovering.isLoaded
  sameRelation := recovering.sameRelation
  sameBase := recovering.sameBase
  isPrefix := recovering.isPrefix
  longest := recovering.longest
  progress := by
    have bound := recovering.accepted_le answering.isAwaited
    exact .inr ⟨(answering.installed made).1, accepted.succ_pos, by omega⟩

theorem Recovering.prefix_rejected (recovering : tab.Recovering relation base steps accepted)
    {problem : Problem} (made : tab.pipeline.latest.run = .error problem) :
    (tab.rejected problem).steps <+: steps ∧
      ∀ earlier, earlier <+: steps → Applies relation base earlier →
        earlier <+: (tab.rejected problem).steps := by
  have failed : applySteps relation base tab.pipeline.steps = .error problem := by
    rw [← recovering.sameRelation, ← recovering.sameBase]
    exact made
  constructor
  · exact (List.take_prefix ..).trans recovering.isPrefix
  · intro earlier within applies
    exact prefix_of_failed failed applies (recovering.longest earlier within applies)

/-- After a failure fewer steps are left, among them all that still succeed. -/
theorem Recovering.rejected (recovering : tab.Recovering relation base steps accepted)
    (settings : Settings) (grid : Size) (answering : tab.Answering messages) {problem : Problem}
    (made : tab.pipeline.latest.run = .error problem) :
    ∃ after request, tab.answer settings grid (tab.pipeline.latest.message tab.id) =
        .becomes after request ∧ after.Recovering relation base steps (accepted + 1) := by
  have bound := recovering.accepted_le answering.isAwaited
  have fewer := length_rejected_lt made
  rcases recovering.prefix_rejected made with ⟨isPrefix, longest⟩
  rcases answering.rejected settings grid made with ⟨answer, settled, _⟩ | ⟨answer, isOpen⟩
  · exact ⟨_, none, answer, {
      isLoaded := recovering.isLoaded
      sameRelation := recovering.sameRelation
      sameBase := recovering.sameBase
      isPrefix, longest
      progress := .inr ⟨settled, accepted.succ_pos, by omega⟩ }⟩
  · refine ⟨_, _, answer, ?_⟩
    have pipeline := tab.pipeline_edited grid settings.appearance (tab.rejected problem).request
    have isLoading := tab.isLoading_edited grid settings.appearance (tab.rejected problem).request
    have keyed : Keyed (tab.rejected problem).steps :=
      answering.keyed.of_subset (List.take_subset _ _)
    constructor
    · rw [isLoading, recovering.isLoaded]
    · rw [pipeline, Pipeline.relation_request]
      exact recovering.sameRelation
    · rw [pipeline, Pipeline.base_request]
      exact recovering.sameBase
    · rw [pipeline, Pipeline.steps_request]
      exact isPrefix
    · rw [pipeline, Pipeline.steps_request]
      exact longest
    · rw [pipeline]
      rcases isOpen.consistent.request_answer with
        ⟨_, unkeyed⟩ | ⟨_, settled⟩ | ⟨_, _, awaited⟩
      · rw [Pipeline.steps_request] at unkeyed
        exact absurd keyed unkeyed
      · exact .inr ⟨settled, accepted.succ_pos, by omega⟩
      · refine .inl ⟨awaited, ?_⟩
        rw [Pipeline.steps_request]
        omega

theorem Recovering.answer (recovering : tab.Recovering relation base steps accepted)
    (settings : Settings) (grid : Size) (answering : tab.Answering messages) :
    ∃ after request, tab.answer settings grid (tab.pipeline.latest.message tab.id) =
        .becomes after request ∧ after.Recovering relation base steps (accepted + 1) := by
  cases made : tab.pipeline.latest.run with
  | error problem => exact recovering.rejected settings grid answering made
  | ok table =>
      exact ⟨_, none, answer_latest_ok settings grid made,
        (recovering.installed answering made).of_work rfl⟩

/-- A tab that has recovered shows the longest beginning of its steps that succeeds. -/
theorem Recovering.longestSuccess (recovering : tab.Recovering relation base steps accepted)
    (settled : tab.pipeline.Settled) :
    LongestSuccess relation base steps tab.pipeline.steps ∧
      applySteps relation base tab.pipeline.steps = .ok tab.view := by
  have shows := settled.shows
  rw [recovering.sameRelation, recovering.sameBase] at shows
  exact ⟨⟨recovering.isPrefix, ⟨_, shows⟩, recovering.longest⟩, shows⟩

end Tab

/-! ## Accepted outcomes -/

namespace Act

variable {workspace : Workspace} {id : Nat} {tab : Tab}

/-- An outcome of an older generation changes nothing. -/
theorem receive_stale (found : workspace.tabOf? id = some tab) {generation : Nat}
    (stale : generation ≠ tab.pipeline.generation) (steps : List Step) (result : JobResult) :
    receive (.evaluated id generation steps result) workspace = (.ok false, workspace) := by
  simp only [receive, evaluated, run_bind, run_get, found]
  cases result with
  | table table => simp [Pipeline.install?, stale]
  | failed cause stepIndex => simp [Pipeline.reject?, stale]
  | nothing => simp [Pipeline.reject?, stale]

/-- Dropping steps does not fail when the ones that are left have keys. -/
theorem run_evaluationFailed_ok (usable : workspace.search.Usable) (id : Nat) {rejected : Pipeline}
    (sound : rejected.Sound) (idle : rejected.pending = none) (keyed : Keyed rejected.steps)
    (failure : Failure) : (evaluationFailed id rejected failure workspace).1 = .ok () := by
  simp only [evaluationFailed, setStatus, run_bind, run_modify, run_ofFaulty]
  rcases sound.isDirty_cases idle keyed with ⟨clean, _⟩ | dirty
  · rw [clean]
    rfl
  · rw [dirty]
    rcases Pipeline.request_ok keyed with ⟨asked, isAsked⟩
    let dropped := (workspace.updateTab id fun tab => { tab with pipeline := rejected }).withStatus
      failure.statusText
    have droppedUsable : dropped.search.Usable := usable
    rcases run_edited droppedUsable id rejected.request with ⟨search, _, made⟩
    refine (congrArg (·.1) made).trans ?_
    rw [isAsked]
    rfl

/-- The evaluation that a tab awaits is accepted. -/
theorem receive_latest (usable : workspace.search.Usable) (found : workspace.tabOf? id = some tab)
    (sound : tab.pipeline.Sound) (keyed : Keyed tab.pipeline.steps) :
    (receive (tab.pipeline.latest.message id) workspace).1 = .ok true := by
  cases made : tab.pipeline.latest.run with
  | ok table =>
      have installed : tab.pipeline.install? tab.pipeline.latest.generation
          tab.pipeline.latest.steps table = some (tab.installed table) := if_pos rfl
      let shown := workspace.updateTab id fun tab' => { tab' with pipeline := tab.installed table }
      have shownUsable : shown.search.Usable := usable
      rcases run_viewChanged shownUsable id with ⟨search, _, fitted⟩
      simp only [EvaluationRequest.message, made, JobResult.of, receive, evaluated, run_bind, run_get,
        found, installed, run_modify]
      rw [fitted]
      rfl
  | error problem =>
      have rejected : tab.pipeline.reject? tab.pipeline.latest.generation problem.reported.2 =
          some (tab.rejected problem) := if_pos rfl
      have left : Keyed (tab.rejected problem).steps := keyed.of_subset (List.take_subset _ _)
      have handled := run_evaluationFailed_ok usable id (sound.rejected rejected) rfl left
        problem.reported.1
      simp only [EvaluationRequest.message, made, JobResult.of, receive, evaluated, run_bind, run_get,
        found, JobResult.failure, rejected]
      rcases run : evaluationFailed id (tab.rejected problem) problem.reported.1 workspace with
        ⟨outcome, after⟩
      rw [run] at handled
      have succeeded : outcome = .ok () := handled
      rw [succeeded]
      rfl

end Act

namespace Workspace

/-- Whether what arrives is an evaluation for the tab with an id, and changes anything. -/
def accepts (workspace : Workspace) (id : Nat) : Arrival → Bool
  | .finish _ => false
  | .deliver place =>
      (workspace.messages[place]?).any (·.isEvaluation id) &&
        match (Act.deliver place workspace).1 with
        | .ok changed => changed
        | .error _ => false

/-- How many of some arrivals are evaluations for the tab with an id that change something. -/
def acceptedCount (workspace : Workspace) (id : Nat) : List Arrival → Nat
  | [] => 0
  | arrival :: arrivals =>
      (workspace.accepts id arrival).toNat + (workspace.arriving arrival).acceptedCount id arrivals

variable {workspace : Workspace} {message : Message} {place : Nat}

theorem run_deliver (found : workspace.messages[place]? = some message) :
    (Act.deliver place workspace).1 = (Act.receive message (workspace.without place)).1 := by
  simp only [Act.deliver, Act.run_bind, Act.run_get, found, Act.run_modify]
  rfl

/-- What arrives is not accepted for a tab, which stays as it is, or is what the tab awaits. -/
theorem Sound.accepts_cases (sound : workspace.Sound) {tab : Tab} (member : tab ∈ workspace.tabs)
    (isLoaded : tab.isLoading = false) (arrival : Arrival) :
    (workspace.accepts tab.id arrival = false ∧ tab ∈ (workspace.arriving arrival).tabs) ∨
    (workspace.accepts tab.id arrival = true ∧ ∃ messages, tab.Answering messages ∧
      ∀ after request, tab.answer workspace.settings workspace.grid
          (tab.pipeline.latest.message tab.id) = .becomes after request →
        after ∈ (workspace.arriving arrival).tabs) := by
  cases arrival with
  | finish place =>
      refine .inl ⟨rfl, ?_⟩
      simp only [Workspace.arriving]
      rcases workspace.finished_cases place with same | ⟨job, _, made⟩
      · rwa [same]
      · rwa [made]
  | deliver place =>
      simp only [accepts, Workspace.arriving]
      cases found : workspace.messages[place]? with
      | none =>
          rw [delivered_of_none found]
          exact .inl ⟨rfl, member⟩
      | some message =>
          have without := sound.without found
          rcases sound.delivered_eq found with ⟨search, status, _, made⟩
          have tabs : (workspace.delivered place).tabs =
              ((workspace.without place).taking message).tabs := by
            rw [made]
            rfl
          have soundTab := without.tabs tab member
          rw [tabs, Option.any_some, run_deliver found]
          cases message with
          | loaded id result =>
              refine .inl ⟨rfl, mem_taking_of_ne without.ids member ?_⟩
              intro names
              have isTab : id = tab.id := names
              subst isTab
              rw [soundTab.isLoading_of_loaded.1] at isLoaded
              cases isLoaded
          | evaluated id generation steps result =>
              by_cases isTab : id = tab.id
              · subst isTab
                have present := without.tabOf?_eq member
                rcases soundTab.evaluated_cases with ⟨stale, _⟩ | ⟨isLatest, answering⟩
                · refine .inl ⟨?_, ?_⟩
                  · rw [Act.receive_stale present stale]
                    exact Bool.and_false _
                  · exact mem_taking_of_ignored without.toFramed member rfl
                      (Tab.answer_stale _ _ stale)
                · refine .inr ⟨?_, _, answering, ?_⟩
                  · rw [isLatest, Act.receive_latest without.search present answering.pipeline
                      answering.keyed]
                    simp [EvaluationRequest.message, Message.isEvaluation]
                  · intro after request answer
                    rw [isLatest]
                    exact mem_taking_of_becomes without.toFramed member rfl answer
              · refine .inl ⟨?_, mem_taking_of_ne without.ids member isTab⟩
                simp [Message.isEvaluation, isTab]

/-- Each outcome that a tab accepts passes the property on; the outcomes are counted. -/
def PassedOn (holds : Nat → Tab → Prop) : Prop :=
  ∀ (tab : Tab) (messages : Multiset Message) (accepted : Nat) (settings : Settings) (grid : Size),
    tab.Answering messages → holds accepted tab →
      ∃ after request, tab.answer settings grid (tab.pipeline.latest.message tab.id) =
        .becomes after request ∧ holds (accepted + 1) after

/-- Whatever arrives, a tab whose table is there stays, with what is passed on. -/
theorem Sound.counted_arrived (sound : workspace.Sound) {holds : Nat → Tab → Prop}
    (passedOn : PassedOn holds) {tab : Tab} (member : tab ∈ workspace.tabs)
    (isLoaded : tab.isLoading = false) (accepted : Nat) (first : holds accepted tab)
    (arrivals : List Arrival) :
    ∃ after ∈ (workspace.arrived arrivals).tabs, after.id = tab.id ∧ after.isLoading = false ∧
      holds (accepted + workspace.acceptedCount tab.id arrivals) after := by
  induction arrivals generalizing workspace tab accepted with
  | nil => exact ⟨tab, member, rfl, isLoaded, first⟩
  | cons arrival arrivals induction =>
      rw [acceptedCount, ← Nat.add_assoc]
      rcases sound.accepts_cases member isLoaded arrival with
        ⟨isRefused, stays⟩ | ⟨isAccepted, messages, answering, becomes⟩
      · rw [isRefused]
        exact induction (sound.arriving arrival) stays isLoaded accepted first
      · rcases passedOn tab messages accepted workspace.settings workspace.grid answering first with
          ⟨next, request, answer, goesOn⟩
        rcases answering.answer workspace.settings workspace.grid with
          ⟨same, _, sameAnswer, sameId, sameLoaded, _⟩
        cases answer.symm.trans sameAnswer
        rw [isAccepted, ← sameId]
        exact induction (sound.arriving arrival) (becomes next request answer) sameLoaded _ goesOn

/-- A tab that accepts nothing stays as it is. -/
theorem Sound.mem_arrived_of_unaccepted (sound : workspace.Sound) {tab : Tab}
    (member : tab ∈ workspace.tabs) (isLoaded : tab.isLoading = false) {arrivals : List Arrival}
    (unaccepted : workspace.acceptedCount tab.id arrivals = 0) :
    tab ∈ (workspace.arrived arrivals).tabs := by
  have passedOn : PassedOn fun accepted other => accepted = 0 → other = tab := by
    intro other messages accepted settings grid answering _
    rcases answering.answer settings grid with ⟨after, request, answer, _⟩
    exact ⟨after, request, answer, fun none => absurd none accepted.succ_ne_zero⟩
  rcases sound.counted_arrived passedOn member isLoaded 0 (fun _ => rfl) arrivals with
    ⟨after, afterMember, _, _, same⟩
  rw [Nat.zero_add] at same
  exact same unaccepted ▸ afterMember

/--
Whatever arrives at a tab that awaits the evaluation of some steps, it accepts at
most one outcome more than there are steps. While it is busy something is
outstanding, and it has accepted no more outcomes than steps were dropped; then
it shows the longest beginning of the steps that succeeds.
-/
theorem recovers_after (settings : Settings) (files : FileTree) (scheduling : Scheduling)
    (events : List Event) :
    let workspace := (start settings files scheduling).after events
    ∀ tab ∈ workspace.tabs, tab.isLoading = false →
      tab.pipeline.pending = some tab.pipeline.generation → ∀ arrivals,
        let accepted := workspace.acceptedCount tab.id arrivals
        ∃ after ∈ (workspace.arrived arrivals).tabs, after.id = tab.id ∧
          accepted ≤ tab.pipeline.steps.length + 1 ∧
          (after.isBusy = true → ¬ (workspace.arrived arrivals).IsIdle ∧
            accepted + after.pipeline.steps.length ≤ tab.pipeline.steps.length) ∧
          (after.isBusy = false → 0 < accepted ∧
            LongestSuccess tab.pipeline.relation tab.pipeline.base tab.pipeline.steps
              after.pipeline.steps ∧
            applySteps tab.pipeline.relation tab.pipeline.base after.pipeline.steps =
              .ok after.view) := by
  intro workspace tab member isLoaded awaited arrivals accepted
  have sound : workspace.Sound := (sound_start settings files scheduling).after events
  have passedOn : PassedOn fun accepted after => after.Recovering tab.pipeline.relation
      tab.pipeline.base tab.pipeline.steps accepted :=
    fun _ _ _ settings grid answering recovering => recovering.answer settings grid answering
  rcases sound.counted_arrived passedOn member isLoaded 0 (Tab.recovering_start isLoaded awaited)
    arrivals with ⟨after, afterMember, sameId, _, recovering⟩
  rw [Nat.zero_add] at recovering
  have busy : after.isBusy = after.pipeline.isBusy := by
    rw [Tab.isBusy, recovering.isLoaded, Bool.false_or]
  refine ⟨after, afterMember, sameId, ?_⟩
  rcases recovering.progress with ⟨isAwaited, bound⟩ | ⟨settled, some, bound⟩
  · have isBusy : after.isBusy = true := by
      rw [busy, Pipeline.isBusy, isAwaited]
      rfl
    refine ⟨by omega, fun _ => ⟨?_, bound⟩, fun idle => ?_⟩
    · intro isIdle
      have ready := (((sound.arrived arrivals).tabs after afterMember).ready recovering.isLoaded)
      have outstanding := ready.awaiting isAwaited
      rw [outstanding_of_nothing isIdle.1 isIdle.2] at outstanding
      exact absurd outstanding.symm (Multiset.singleton_ne_zero _)
    · rw [isBusy] at idle
      cases idle
  · have isIdle : after.isBusy = false := by
      rw [busy, Pipeline.isBusy, settled.idle]
      rfl
    refine ⟨bound, fun isBusy => ?_, fun _ => ⟨some, recovering.longestSuccess settled⟩⟩
    rw [isIdle] at isBusy
    cases isBusy

/-- A step that fails on the table with which a tab was opened is given up. -/
theorem recovers_opened :
    let workspace := (start {} { surroundings := ⟨[], []⟩ } .deferred).after
      [.openTable .empty "t" [.selection]]
    ∃ tab ∈ workspace.tabs, tab.isLoading = false ∧
      tab.pipeline.pending = some tab.pipeline.generation ∧
      ∃ after ∈ (workspace.arrived [.finish 0, .deliver 0]).tabs, after.id = tab.id ∧
        workspace.acceptedCount tab.id [.finish 0, .deliver 0] ≤ 2 ∧
        (after.isBusy = false → after.pipeline.steps = [] ∧ after.view = .empty) := by
  intro workspace
  rcases works_openTable {} { surroundings := ⟨[], []⟩ } .deferred .empty "t" .selection with
    ⟨works, _⟩
  rcases List.map_eq_singleton_iff.mp works with ⟨tab, tabs, work⟩
  simp only [Tab.work, Prod.mk.injEq] at work
  rcases work with ⟨_, isPipeline, isLoaded⟩
  have member : tab ∈ workspace.tabs := by
    change tab ∈ ((start {} { surroundings := ⟨[], []⟩ } .deferred).step
      (.openTable .empty "t" [.selection])).tabs
    rw [tabs]
    exact List.mem_singleton_self tab
  have awaited : tab.pipeline.pending = some tab.pipeline.generation := by
    rw [isPipeline, Pipeline.generation_request]
    exact Pipeline.pending_start_request .empty _ _ keyed_selection (by simp)
  have steps : tab.pipeline.steps = [.selection] := by
    rw [isPipeline, Pipeline.steps_request]
    rfl
  have base : tab.pipeline.base = .empty := by
    rw [isPipeline, Pipeline.base_request]
    rfl
  rcases recovers_after {} { surroundings := ⟨[], []⟩ } .deferred _ tab member isLoaded awaited
    [.finish 0, .deliver 0] with ⟨after, afterMember, sameId, bound, _, recovered⟩
  rw [steps] at bound
  refine ⟨tab, member, isLoaded, awaited, after, afterMember, sameId, bound, ?_⟩
  intro isIdle
  rcases recovered isIdle with ⟨_, longest, shows⟩
  rw [steps, base] at longest
  rw [base] at shows
  rcases List.prefix_cons_iff.mp longest.isPrefix with nothing | ⟨rest, all, noRest⟩
  · rw [nothing] at shows
    have isView : (.ok .empty : Outcome Table) = .ok after.view := shows
    exact ⟨nothing, (Except.ok.inj isView).symm⟩
  · rw [all, List.prefix_nil.mp noRest] at longest
    exact absurd longest.applies not_applies_selection

end Workspace

end TableBrowser
