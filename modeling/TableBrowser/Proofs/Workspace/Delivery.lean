import TableBrowser.Proofs.Workspace.Answers
/-!
# Delivery to sound tabs

A message to a sound tab is its load, or an older evaluation, which is ignored,
or the one evaluation that is awaited. Main statement: receiving any outstanding
message leaves a workspace sound, and so does whatever arrives without the user,
jobs that are done and messages in any order.
-/

namespace TableBrowser

namespace Tab

variable {tab : Tab} {message : Message} {messages : Multiset Message}

/-- A message of the load of a tab finds the tab loading. -/
theorem Sound.isLoading_of_loaded {result : JobResult}
    (sound : tab.Sound (.loaded tab.id result ::ₘ messages)) :
    tab.isLoading = true ∧ loadCount messages tab.id = 0 ∧
      evaluationsFor messages tab.id = 0 := by
  cases isLoading : tab.isLoading with
  | true =>
      have loading := sound.loading isLoading
      have load := loading.load
      rw [loadCount_loaded, if_pos rfl] at load
      have noEvaluation := loading.noEvaluation
      rw [evaluationsFor_loaded] at noEvaluation
      exact ⟨rfl, Nat.succ.inj load, noEvaluation⟩
  | false =>
      have noLoad := (sound.ready isLoading).noLoad
      rw [loadCount_loaded, if_pos rfl] at noLoad
      cases noLoad

/-- A message of an evaluation for a tab finds the table of the tab there. -/
theorem Sound.ready_of_evaluated {generation : Nat} {steps : List Step} {result : JobResult}
    (sound : tab.Sound (.evaluated tab.id generation steps result ::ₘ messages)) :
    tab.isLoading = false ∧ tab.Ready (.evaluated tab.id generation steps result ::ₘ messages) := by
  cases isLoading : tab.isLoading with
  | false => exact ⟨rfl, sound.ready isLoading⟩
  | true =>
      have noEvaluation := (sound.loading isLoading).noEvaluation
      rw [evaluationsFor, Multiset.filter_cons_of_pos _ (by simp [Message.isEvaluation])] at noEvaluation
      exact absurd noEvaluation Multiset.cons_ne_zero

/-- The evaluation that a tab awaited has come, and the others for the tab are outstanding. -/
structure Answering (tab : Tab) (messages : Multiset Message) : Prop where
  isLoaded : tab.isLoading = false
  noLoad : loadCount messages tab.id = 0
  pipeline : tab.pipeline.Sound
  issued : ∀ message ∈ evaluationsFor messages tab.id,
    ∃ request, tab.pipeline.Issued request ∧ message = request.message tab.id
  isAwaited : tab.pipeline.pending = some tab.pipeline.generation
  older : evaluationsOf messages tab.id tab.pipeline.generation = 0

theorem Answering.keyed (answering : tab.Answering messages) : Keyed tab.pipeline.steps :=
  (answering.pipeline.current _ answering.isAwaited).mp rfl

/-- An evaluation for a tab is of an older generation, or it is the one that is awaited. -/
theorem Ready.cons_cases {request : EvaluationRequest} (isLoaded : tab.isLoading = false)
    (isIssued : tab.pipeline.Issued request)
    (ready : tab.Ready (request.message tab.id ::ₘ messages)) :
    (request.generation ≠ tab.pipeline.generation ∧ tab.Ready messages) ∨
      (request = tab.pipeline.latest ∧ tab.Answering messages) := by
  have noLoad := ready.noLoad
  have issued := ready.issued
  have awaiting := ready.awaiting
  have idle := ready.idle
  rw [loadCount_message] at noLoad
  rw [evaluationsFor_message, if_pos rfl] at issued
  rw [evaluationsOf_message] at awaiting idle
  have others : ∀ message ∈ evaluationsFor messages tab.id,
      ∃ request, tab.pipeline.Issued request ∧ message = request.message tab.id :=
    fun message member => issued message (Multiset.mem_cons_of_mem member)
  by_cases isLatest : request.generation = tab.pipeline.generation
  · right
    rw [if_pos ⟨rfl, isLatest⟩] at awaiting idle
    have isAwaited : tab.pipeline.pending = some tab.pipeline.generation := by
      by_contra notAwaited
      exact absurd (idle notAwaited) Multiset.cons_ne_zero
    rcases (Multiset.singleton_eq_cons_iff _).mp (awaiting isAwaited).symm with ⟨same, older⟩
    refine ⟨?_, isLoaded, noLoad, ready.pipeline, others, isAwaited, older⟩
    have steps : request.steps = tab.pipeline.steps := by
      simp only [EvaluationRequest.message, Message.evaluated.injEq] at same
      exact same.2.2.1.symm
    rcases request with ⟨generation, base, requested, relation⟩
    simp only [Pipeline.latest, EvaluationRequest.mk.injEq]
    exact ⟨isLatest, isIssued.base, steps, isIssued.relation⟩
  · left
    rw [if_neg fun both => isLatest both.2] at awaiting idle
    exact ⟨isLatest, noLoad, ready.pipeline, others, awaiting, idle, ready.settled⟩

/-! ## Answers of sound tabs -/

variable (settings : Settings) (grid : Size)

/-- An answer leaves a sound tab behind, or none, with what is outstanding then. -/
def SoundAfter (tab : Tab) (messages : Multiset Message) : Answer → Prop
  | .ignored => tab.Sound messages
  | .removed => True
  | .becomes after request => after.id = tab.id ∧ after.Sound (askedFor tab.id request messages)

theorem Sound.answer_loaded {result : JobResult}
    (sound : tab.Sound (.loaded tab.id result ::ₘ messages)) :
    tab.SoundAfter messages (tab.answer settings grid (.loaded tab.id result)) := by
  rcases sound.isLoading_of_loaded with ⟨_, noLoad, noEvaluation⟩
  cases result with
  | failed cause stepIndex => trivial
  | nothing => trivial
  | table table =>
      have ready : (tab.filled settings grid table).Ready messages :=
        ready_start rfl noLoad noEvaluation
      simp only [answer, answerTable]
      split
      · exact ⟨rfl, ready.sound rfl⟩
      · refine ⟨congrArg (·.1) (work_edited _ _ _), ?_⟩
        exact ready.edit rfl (Pipeline.isEdit_replace tab.queuedSteps) settings.appearance grid

/-- The pipeline of a tab with the awaited result. -/
def installed (tab : Tab) (table : Table) : Pipeline :=
  { tab.pipeline with
    view := table
    committed := tab.pipeline.steps
    pending := none
    cache := tab.pipeline.cache.remember tab.pipeline.steps table }

/-- The pipeline of a tab without the failing step of its steps and those after it. -/
def rejected (tab : Tab) (problem : Problem) : Pipeline :=
  { tab.pipeline with
    steps := tab.pipeline.steps.take
      (Pipeline.failedPosition tab.pipeline.steps problem.reported.2)
    pending := none }

/-- The result of the latest generation is shown. -/
theorem answer_latest_ok {table : Table} (made : tab.pipeline.latest.run = .ok table) :
    tab.answer settings grid (tab.pipeline.latest.message tab.id) =
      .becomes ({ tab with pipeline := tab.installed table }.measured settings.appearance grid)
        none := by
  have told : tab.pipeline.latest.message tab.id =
      .evaluated tab.id tab.pipeline.generation tab.pipeline.steps (.table table) := by
    rw [EvaluationRequest.message, made]
    rfl
  have installed : tab.pipeline.install? tab.pipeline.generation tab.pipeline.steps table =
      some (tab.installed table) := if_pos rfl
  rw [told]
  simp only [Tab.answer, installed]

/-- When the latest generation has failed its steps are cut. -/
theorem answer_latest_error {problem : Problem} (made : tab.pipeline.latest.run = .error problem) :
    tab.answer settings grid (tab.pipeline.latest.message tab.id) =
      tab.answerRejected settings grid (tab.rejected problem) := by
  have told : tab.pipeline.latest.message tab.id =
      .evaluated tab.id tab.pipeline.generation tab.pipeline.steps
        (.failed problem.reported.1 problem.reported.2) := by
    rw [EvaluationRequest.message, made]
    rfl
  have rejected : tab.pipeline.reject? tab.pipeline.generation problem.reported.2 =
      some (tab.rejected problem) := if_pos rfl
  rw [told]
  simp only [Tab.answer, JobResult.failure, rejected]

/-- With the awaited result the tab is settled. -/
theorem Answering.installed (answering : tab.Answering messages) {table : Table}
    (made : tab.pipeline.latest.run = .ok table) :
    (tab.installed table).Settled ∧
      ({ tab with pipeline := tab.installed table } : Tab).Ready messages := by
  have installed : tab.pipeline.install? tab.pipeline.generation tab.pipeline.steps table =
      some (tab.installed table) := if_pos rfl
  rcases answering.pipeline.installed answering.keyed made installed with ⟨sound, settled⟩
  refine ⟨settled, ?_⟩
  exact {
    noLoad := answering.noLoad
    pipeline := sound
    issued := fun message member => by
      rcases answering.issued message member with ⟨request, issued, isMessage⟩
      exact ⟨request, { issued with }, isMessage⟩
    awaiting := fun isAwaited => by cases isAwaited
    idle := fun _ => answering.older
    settled := fun _ _ => settled }

/-- After a failure the steps before the failing one are shown or evaluated. -/
theorem Answering.rejected (answering : tab.Answering messages) {problem : Problem}
    (made : tab.pipeline.latest.run = .error problem) :
    (tab.answer settings grid (tab.pipeline.latest.message tab.id) =
        .becomes { tab with pipeline := tab.rejected problem } none ∧
      (tab.rejected problem).Settled ∧
      ({ tab with pipeline := tab.rejected problem } : Tab).Ready messages) ∨
    (tab.answer settings grid (tab.pipeline.latest.message tab.id) =
        .becomes (tab.edited settings.appearance grid (tab.rejected problem).request)
          (Pipeline.asked (tab.rejected problem).request) ∧
      tab.Open (tab.rejected problem) messages) := by
  have rejected : tab.pipeline.reject? tab.pipeline.generation problem.reported.2 =
      some (tab.rejected problem) := if_pos rfl
  have sound := answering.pipeline.rejected rejected
  have issued : ∀ message ∈ evaluationsFor messages tab.id,
      ∃ request, (tab.rejected problem).Issued request ∧ message = request.message tab.id := by
    intro message member
    rcases answering.issued message member with ⟨request, issued, isMessage⟩
    exact ⟨request, { issued with }, isMessage⟩
  have keyed : Keyed (tab.rejected problem).steps :=
    answering.keyed.of_subset (List.take_subset _ _)
  rw [answer_latest_error settings grid made, answerRejected]
  rcases sound.isDirty_cases rfl keyed with ⟨clean, settled⟩ | dirty
  · left
    rw [clean]
    exact ⟨rfl, settled, {
      noLoad := answering.noLoad
      pipeline := sound
      issued
      awaiting := fun isAwaited => by cases isAwaited
      idle := fun _ => answering.older
      settled := fun _ _ => settled }⟩
  · right
    rw [dirty]
    exact ⟨rfl, answering.isLoaded, answering.noLoad, sound.toConsistent, issued⟩

theorem Answering.answer (answering : tab.Answering messages) :
    ∃ after request, tab.answer settings grid (tab.pipeline.latest.message tab.id) =
        .becomes after request ∧
      after.id = tab.id ∧ after.isLoading = false ∧ after.Sound (askedFor tab.id request messages) := by
  have isLoaded := answering.isLoaded
  cases made : tab.pipeline.latest.run with
  | ok table =>
      have ready := (answering.installed made).2
      exact ⟨_, none, answer_latest_ok settings grid made, rfl, isLoaded,
        (ready.sound isLoaded).of_same rfl ⟨rfl, rfl⟩⟩
  | error problem =>
      rcases answering.rejected settings grid made with ⟨answer, _, ready⟩ | ⟨answer, isOpen⟩
      · exact ⟨_, none, answer, rfl, isLoaded, ready.sound isLoaded⟩
      · have work := tab.work_edited settings.appearance grid (tab.rejected problem).request
        exact ⟨_, _, answer, congrArg (·.1) work, (congrArg (·.2.2) work).trans isLoaded,
          isOpen.sound settings.appearance grid⟩

theorem answer_stale {generation : Nat} {steps : List Step} {result : JobResult}
    (stale : generation ≠ tab.pipeline.generation) :
    tab.answer settings grid (.evaluated tab.id generation steps result) = .ignored := by
  cases result <;> simp [Tab.answer, Pipeline.install?, Pipeline.reject?, stale]

/-- An evaluation for a tab is too late, or it is the one that is awaited. -/
theorem Sound.evaluated_cases {generation : Nat} {steps : List Step} {result : JobResult}
    (sound : tab.Sound (.evaluated tab.id generation steps result ::ₘ messages)) :
    (generation ≠ tab.pipeline.generation ∧ tab.isLoading = false ∧ tab.Ready messages) ∨
      (Message.evaluated tab.id generation steps result = tab.pipeline.latest.message tab.id ∧
        tab.Answering messages) := by
  rcases sound.ready_of_evaluated with ⟨isLoaded, ready⟩
  rcases ready.issued (.evaluated tab.id generation steps result) (by
    rw [evaluationsFor, Multiset.mem_filter]
    exact ⟨Multiset.mem_cons_self _ _, by simp [Message.isEvaluation]⟩) with
    ⟨request, issued, isMessage⟩
  have isGeneration : generation = request.generation := by
    simp only [EvaluationRequest.message, Message.evaluated.injEq] at isMessage
    exact isMessage.2.1
  rw [isMessage] at ready ⊢
  rcases ready.cons_cases isLoaded issued with ⟨stale, others⟩ | ⟨isLatest, answering⟩
  · exact .inl ⟨isGeneration ▸ stale, isLoaded, others⟩
  · exact .inr ⟨by rw [isLatest], answering⟩

/-- A sound tab answers every outstanding message soundly. -/
theorem Sound.answer (sound : tab.Sound (message ::ₘ messages)) (names : message.tab = tab.id) :
    tab.SoundAfter messages (tab.answer settings grid message) := by
  cases message with
  | loaded id result =>
      cases names
      exact sound.answer_loaded settings grid
  | evaluated id generation steps result =>
      cases names
      rcases sound.evaluated_cases with ⟨stale, isLoaded, others⟩ | ⟨isLatest, answering⟩
      · rw [answer_stale settings grid stale]
        exact others.sound isLoaded
      · rcases answering.answer settings grid with ⟨after, request, answer, id, _, afterSound⟩
        rw [isLatest, answer]
        exact ⟨id, afterSound⟩

end Tab

/-! ## Sound deliveries -/

namespace Workspace

variable {workspace : Workspace} {message : Message}

/-- Receiving an outstanding message leaves a sound workspace behind. -/
theorem SoundFor.taking (sound : workspace.SoundFor (message ::ₘ workspace.outstanding)) :
    (workspace.taking message).Sound := by
  have known : ∀ other ∈ workspace.outstanding, other.tab < workspace.nextId :=
    fun other member => sound.known other (Multiset.mem_cons_of_mem member)
  have rest : ∀ tab ∈ workspace.tabs, tab.id ≠ message.tab → tab.Sound workspace.outstanding :=
    fun tab member different =>
      (sound.tabs tab member).of_same rfl (sameFor_cons different.symm).symm
  unfold Workspace.taking
  cases found : workspace.tabOf? message.tab with
  | none =>
      have absent (tab : Tab) (member : tab ∈ workspace.tabs) : tab.id ≠ message.tab := by
        have missing := List.find?_eq_none.mp found tab member
        simpa using missing
      exact { sound with known, tabs := fun tab member => rest tab member (absent tab member) }
  | some tab =>
      rcases mem_of_tabOf? found with ⟨member, same⟩
      have after := (sound.tabs tab member).answer workspace.settings workspace.grid same.symm
      simp only
      cases answer : tab.answer workspace.settings workspace.grid message with
      | ignored =>
          rw [answer] at after
          refine { sound with known, tabs := fun other otherMember => ?_ }
          by_cases isTab : other.id = message.tab
          · rw [sound.eq_of_id otherMember member (isTab.trans same.symm)]
            exact after
          · exact rest other otherMember isTab
      | removed =>
          rcases findIdx?_of_tabOf? found with ⟨index, place⟩
          simp only [answered, place]
          refine sound.removeTab ?_ known
          intro other otherMember
          rw [eraseIdx_eq_filter sound.ids place, List.mem_filter] at otherMember
          exact rest other otherMember.1 (by simpa using otherMember.2)
      | becomes changed request =>
          rw [answer] at after
          rcases after with ⟨sameId, changedSound⟩
          rw [same] at sameId changedSound
          have handed : ∀ other ∈ askedFor message.tab request workspace.outstanding,
              other.tab < workspace.nextId := by
            intro other otherMember
            rcases mem_askedFor otherMember with isNew | old
            · rw [isNew]
              exact sound.known message (Multiset.mem_cons_self _ _)
            · exact known other old
          apply SoundFor.handOut
          refine sound.update (fun _ _ => sameId) ?_ handed (fun _ _ _ => changedSound)
          intro other otherMember different
          exact (rest other otherMember different).of_same rfl (sameFor_askedFor different _ _)

end Workspace

/-! ## Arrivals -/

/-- What happens to a workspace without the user. -/
inductive Arrival where
  /-- The job at a place of the queue is done. -/
  | finish (place : Nat)
  /-- The message at a place of those that have come is handled. -/
  | deliver (place : Nat)

/-- Handles the message at a place of those that have come, and tells whether anything changed. -/
def Act.deliver (place : Nat) : Act Bool := do
  let some message := (← get).messages[place]? | return false
  modify fun workspace => { workspace with messages := workspace.messages.eraseIdx place }
  receive message

namespace Workspace

def finished (workspace : Workspace) (place : Nat) : Workspace :=
  (workspace.finish? place).getD workspace

def delivered (workspace : Workspace) (place : Nat) : Workspace :=
  (Act.deliver place workspace).2

def arriving (workspace : Workspace) : Arrival → Workspace
  | .finish place => workspace.finished place
  | .deliver place => workspace.delivered place

def arrived (workspace : Workspace) (arrivals : List Arrival) : Workspace :=
  arrivals.foldl arriving workspace

/-- The workspace from which a message has been taken that is to be handled. -/
def without (workspace : Workspace) (place : Nat) : Workspace :=
  { workspace with messages := workspace.messages.eraseIdx place }

variable {workspace : Workspace}

theorem delivered_of_none {place : Nat} (nothing : workspace.messages[place]? = none) :
    workspace.delivered place = workspace := by
  simp only [delivered, Act.deliver, Act.run_bind, Act.run_get, nothing]
  rfl

theorem delivered_of_some {place : Nat} {message : Message}
    (found : workspace.messages[place]? = some message) :
    workspace.delivered place = (Act.receive message (workspace.without place)).2 := by
  simp only [delivered, Act.deliver, Act.run_bind, Act.run_get, found, Act.run_modify]
  rfl

theorem finished_cases (workspace : Workspace) (place : Nat) :
    workspace.finished place = workspace ∨ ∃ job, workspace.jobs[place]? = some job ∧
      workspace.finished place = { workspace with
        jobs := workspace.jobs.eraseIdx place
        messages := workspace.messages ++ [job.run workspace.files] } := by
  unfold finished finish?
  cases workspace.jobs[place]? with
  | none => exact .inl rfl
  | some job => exact .inr ⟨job, rfl, rfl⟩

theorem outstanding_finished (workspace : Workspace) (place : Nat) :
    (workspace.finished place).outstanding = workspace.outstanding := by
  unfold finished
  cases finished : workspace.finish? place with
  | none => rfl
  | some after => exact outstanding_finish? finished

/-- Doing a job changes nothing but where its message is. -/
theorem Sound.finished (sound : workspace.Sound) (place : Nat) :
    (workspace.finished place).Sound := by
  have outstanding := workspace.outstanding_finished place
  rcases workspace.finished_cases place with same | ⟨job, _, made⟩
  · rwa [same]
  · rw [made] at outstanding ⊢
    exact Sound.reshown sound rfl rfl sound.place sound.search outstanding

/-- The message that is taken is outstanding while it is handled. -/
theorem Sound.without (sound : workspace.Sound) {place : Nat} {message : Message}
    (found : workspace.messages[place]? = some message) :
    (workspace.without place).SoundFor (message ::ₘ (workspace.without place).outstanding) := by
  rw [Sound, outstanding_take found] at sound
  exact { sound with }

/-- Handling a message changes the tabs as its tab answers it. -/
theorem Sound.delivered_eq (sound : workspace.Sound) {place : Nat} {message : Message}
    (found : workspace.messages[place]? = some message) :
    ∃ search status, search.Usable ∧ workspace.delivered place =
      (((workspace.without place).taking message).withSearch search).withStatus status := by
  rw [delivered_of_some found]
  exact @Act.run_receive (workspace.without place) sound.ids sound.search message

theorem Sound.delivered (sound : workspace.Sound) (place : Nat) :
    (workspace.delivered place).Sound := by
  cases found : workspace.messages[place]? with
  | none => rwa [delivered_of_none found]
  | some message =>
      rcases sound.delivered_eq found with ⟨search, status, usable, made⟩
      rw [made]
      exact ((sound.without found).taking.withSearch usable).withStatus status

theorem Sound.arriving (sound : workspace.Sound) (arrival : Arrival) :
    (workspace.arriving arrival).Sound := by
  cases arrival with
  | finish place => exact sound.finished place
  | deliver place => exact sound.delivered place

theorem Sound.arrived (sound : workspace.Sound) (arrivals : List Arrival) :
    (workspace.arrived arrivals).Sound := by
  induction arrivals generalizing workspace with
  | nil => exact sound
  | cons arrival arrivals induction => exact induction (sound.arriving arrival)

end Workspace

end TableBrowser
