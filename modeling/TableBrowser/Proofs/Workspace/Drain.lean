import TableBrowser.Proofs.Pipeline.Faults
import TableBrowser.Proofs.Workspace.Endings
import TableBrowser.Proofs.Workspace.Recovery
/-!
# Handling all messages

Messages are handled in batches until none has come in the meantime. Main
statement: where the search can be made and queued steps can be taken, this
comes to an end without a problem and leaves no message behind.
-/

namespace TableBrowser

namespace Tab

/-- The steps that wait for the table of the tab can be taken. -/
structure Receptive (tab : Tab) : Prop where
  keyed : Keyed tab.queuedSteps
  short : ∀ step ∈ tab.queuedSteps, ¬ step.Overlong

variable (settings : Settings) (grid : Size) {tab after : Tab} {message : Message}
variable {request : Option EvaluationRequest}

theorem receptive_of_noSteps (noSteps : tab.queuedSteps = []) : tab.Receptive where
  keyed := noSteps ▸ Keyed.nil
  short := by simp [noSteps]

theorem queuedSteps_edited (appearance : Appearance) (result : Pipeline.Edited) :
    (tab.edited appearance grid result).queuedSteps = tab.queuedSteps := by
  unfold Tab.edited
  split <;> rfl

/-- Steps wait until the table comes, and no longer. -/
theorem queuedSteps_answer (answer : tab.answer settings grid message = .becomes after request) :
    after.queuedSteps = [] ∨ after.queuedSteps = tab.queuedSteps := by
  unfold Tab.answer at answer
  split at answer
  · unfold answerTable at answer
    split at answer
    · cases answer
      exact .inl rfl
    · cases answer
      exact .inl (queuedSteps_edited grid _ _)
  · cases answer
  · split at answer
    · cases answer
      exact .inr rfl
    · cases answer
  · split at answer
    · unfold answerRejected at answer
      split at answer
      · cases answer
        exact .inr (queuedSteps_edited grid _ _)
      · cases answer
        exact .inr rfl
    · cases answer

theorem Receptive.answer (receptive : tab.Receptive)
    (answered : tab.answer settings grid message = .becomes after request) : after.Receptive := by
  rcases queuedSteps_answer settings grid answered with noSteps | same
  · exact receptive_of_noSteps noSteps
  · exact ⟨same ▸ receptive.keyed, same ▸ receptive.short⟩

/-- A bound on the messages that the steps of a tab may still cause. -/
def stepsLeft (tab : Tab) : Nat := tab.pipeline.steps.length + 2 * tab.queuedSteps.length

/-- The message that a tab waits for costs it the steps that pay for what it hands out. -/
theorem stepsLeft_answer {load : JobResult} (isNext : tab.next? load = some message)
    (answer : tab.answer settings grid message = .becomes after request) :
    after.stepsLeft + request.toList.length ≤ tab.stepsLeft := by
  have atMost : request.toList.length ≤ 1 := by cases request <;> simp
  cases advances_of_answer settings grid isNext answer with
  | opened isLoading table => exact Nat.zero_le _
  | applied isLoading some table =>
      have short : ((tab.filled settings grid table).pipeline.replace tab.queuedSteps).1.steps.length ≤
          tab.queuedSteps.length := length_steps_replace_le rfl _
      have positive : 0 < tab.queuedSteps.length := List.length_pos_of_ne_nil some
      have noneQueued : (tab.filled settings grid table).queuedSteps = [] := rfl
      rw [stepsLeft, stepsLeft, queuedSteps_edited, pipeline_edited, noneQueued, List.length_nil]
      omega
  | installed isLoaded awaited table => exact Nat.le_refl _
  | retried isLoaded awaited problem failed =>
      have shorter := length_rejected_lt failed
      rw [stepsLeft, stepsLeft, queuedSteps_edited, pipeline_edited, Pipeline.steps_request]
      omega
  | cut isLoaded awaited problem failed =>
      have shorter := length_rejected_lt failed
      simp only [stepsLeft, Option.toList_none, List.length_nil]
      omega

end Tab

/-! ## Single messages -/

namespace Act

variable {workspace : Workspace}

/-- An edit that meets no fault is done, or its failure is told. -/
theorem ends_applyQueued (usable : workspace.search.Usable) (id : Nat) {steps : List Step}
    (faultless : ∀ pipeline : Pipeline, (pipeline.replace steps).2.Faultless) :
    (applyQueued id steps).Ends workspace (fun _ _ => True) Unstopped := by
  refine Ends.bind_get ?_
  cases workspace.tabOf? id with
  | none => exact Ends.pure trivial
  | some tab =>
      rcases run_edited usable id (tab.pipeline.replace steps) with ⟨search, _, made⟩
      refine Ends.tryCatch ?_
      cases outcome : (tab.pipeline.replace steps).2 with
      | ok asked =>
          rw [outcome] at made
          exact Ends.of_ok made trivial
      | error problem =>
          rw [outcome] at made
          refine Ends.of_error made ?_
          cases problem with
          | failure cause stepIndex => exact Ends.modify trivial
          | fault fault => exact absurd outcome ((faultless tab.pipeline).ne_fault fault)

theorem ends_loadFailed (usable : workspace.search.Usable) (id : Nat) (failure : Failure) :
    (loadFailed id failure).Ends workspace (fun _ _ => True) Unstopped := by
  refine Ends.bind (Ends.modify (Ends.bind (Ends.modify (ends_activated ?_))))
  simp only
  split
  · exact usable
  · exact usable

/-- A table that has been loaded is shown, and then the steps that wait for it are taken. -/
theorem ends_loaded (usable : workspace.search.Usable) (id : Nat) (result : JobResult)
    (receptive : ∀ tab ∈ workspace.tabs, tab.Receptive) :
    (loaded id result).Ends workspace (fun _ _ => True) Unstopped := by
  refine Ends.bind_get ?_
  cases found : workspace.tabOf? id with
  | none => exact Ends.pure trivial
  | some tab =>
      have isReceptive := receptive tab (Workspace.mem_of_tabOf? found).1
      refine Ends.bind (Ends.modify ?_)
      have failed (failure : Failure) :
          (loadFailed id failure >>= fun _ => pure true : Act Bool).Ends
            (workspace.updateTab id fun tab => { tab with isLoading := false }) (fun _ _ => True)
            Unstopped :=
        Ends.bind ((ends_loadFailed (by exact usable) id failure).returning fun _ _ _ =>
          Ends.pure trivial)
      cases result with
      | failed cause stepIndex => exact failed _
      | nothing => exact failed _
      | table table =>
          refine Ends.bind (Ends.modify ?_)
          let filled := (workspace.updateTab id fun tab => { tab with isLoading := false }).updateTab
            id fun tab => { tab with pipeline := workspace.newPipeline table [], queuedSteps := [] }
          have filledUsable : filled.search.Usable := usable
          rcases run_viewChanged filledUsable id with ⟨search, searchUsable, made⟩
          refine Ends.bind (Ends.of_ok made (Ends.ite (fun _ => Ends.bind ?_) fun _ => ?_))
          · refine (ends_applyQueued ?_ id fun pipeline => ?_).returning fun _ _ _ => Ends.pure trivial
            · exact searchUsable
            · refine Outcome.FaultsOnly.weaken (pipeline.faults_replace _) ?_
              rintro (⟨step, member, long⟩ | unkeyed)
              · exact isReceptive.short step member long
              · exact unkeyed isReceptive.keyed
          · exact Ends.pure trivial

/-- A message that is outstanding is handled without a problem. -/
theorem receive_returns {messages : Multiset Message} {message : Message}
    (sound : workspace.SoundFor (message ::ₘ messages))
    (receptive : ∀ tab ∈ workspace.tabs, tab.Receptive) :
    ∃ changed, (receive message workspace).1 = .ok changed := by
  cases message with
  | loaded id result =>
      rcases (ends_loaded sound.search id result receptive).exists_ok with ⟨changed, after, ran, _⟩
      exact ⟨changed, congrArg (·.1) ran⟩
  | evaluated id generation steps result =>
      cases found : workspace.tabOf? id with
      | none => exact ⟨false, congrArg (·.1) (receive_of_absent found)⟩
      | some tab =>
          rcases Workspace.mem_of_tabOf? found with ⟨member, rfl⟩
          rcases (sound.tabs tab member).evaluated_cases with ⟨stale, _, _⟩ | ⟨isLatest, answering⟩
          · exact ⟨false, congrArg (·.1) (receive_stale found stale steps result)⟩
          · rw [isLatest]
            exact ⟨true, receive_latest sound.search found answering.pipeline answering.keyed⟩

end Act

/-! ## Batches -/

namespace Workspace

/-- The workspace as it was before a batch of messages was taken from it. -/
def holding (workspace : Workspace) (batch : List Message) : Workspace :=
  { workspace with messages := batch ++ workspace.messages }

def Receptive (workspace : Workspace) : Prop := ∀ tab ∈ workspace.tabs, tab.Receptive

variable {workspace : Workspace} {message : Message} {batch : List Message}

theorem handOut_holding (id : Nat) (request : Option EvaluationRequest) :
    (workspace.holding batch).handOut id request = (workspace.handOut id request).holding batch := by
  cases request with
  | none => rfl
  | some request =>
      simp only [Workspace.handOut, submit, holding]
      cases workspace.scheduling with
      | immediate => simp only [List.append_assoc]
      | deferred => rfl

/-- An answer does not depend on the messages that are still to be handled. -/
theorem taking_holding : (workspace.holding batch).taking message =
    (workspace.taking message).holding batch := by
  have sameTab : (workspace.holding batch).tabOf? message.tab = workspace.tabOf? message.tab := rfl
  unfold Workspace.taking
  rw [sameTab]
  cases workspace.tabOf? message.tab with
  | none => rfl
  | some tab =>
      have sameAnswer : tab.answer (workspace.holding batch).settings (workspace.holding batch).grid
          message = tab.answer workspace.settings workspace.grid message := rfl
      simp only [sameAnswer]
      cases tab.answer workspace.settings workspace.grid message with
      | ignored => rfl
      | removed =>
          have samePlace : (workspace.holding batch).tabs = workspace.tabs := rfl
          simp only [answered, samePlace]
          split <;> rfl
      | becomes after request =>
          exact (workspace.updateTab message.tab fun _ => after).handOut_holding message.tab request

theorem Receptive.taking (receptive : workspace.Receptive) : (workspace.taking message).Receptive :=
  forall_taking receptive fun tab member _ _ answered => (receptive tab member).answer _ _ answered

theorem workLeft_eq (workspace : Workspace) : workspace.workLeft =
    workspace.messages.length + workspace.jobs.length + (workspace.tabs.map Tab.stepsLeft).sum := by
  unfold workLeft
  congr 1
  induction workspace.tabs with
  | nil => rfl
  | cons tab tabs induction =>
      rw [List.foldr_cons, induction, List.map_cons, List.sum_cons]
      rfl

theorem workLeft_holding_cons :
    (workspace.holding (message :: batch)).workLeft = (workspace.holding batch).workLeft + 1 := by
  simp only [workLeft, holding, List.cons_append, List.length_cons]
  omega

/-- A message that is handled leaves no more work than there was without it. -/
theorem SoundFor.workLeft_taking_le
    (sound : workspace.SoundFor (message ::ₘ workspace.outstanding)) :
    (workspace.taking message).workLeft ≤ workspace.workLeft := by
  have pays : ∀ tab ∈ workspace.tabs, message.tab = tab.id → ∀ after request,
      tab.answer workspace.settings workspace.grid message = .becomes after request →
        after.stepsLeft + request.toList.length ≤ tab.stepsLeft := by
    intro tab member same after request answer
    rcases sound.exists_next member same answer with ⟨load, isNext⟩
    exact Tab.stepsLeft_answer workspace.settings workspace.grid isNext answer
  rcases taking_pays sound.toFramed pays with ⟨handed, paid, _, _, both⟩
  rw [workLeft_eq, workLeft_eq]
  omega

end Workspace

namespace Act

open Workspace (Sound Receptive)

variable {workspace : Workspace}

theorem receiveAll_returns {batch : List Message} (sound : (workspace.holding batch).Sound)
    (receptive : workspace.Receptive) :
    ∃ changed after, receiveAll batch workspace = (.ok changed, after) ∧ after.Sound ∧
      after.Receptive ∧ after.workLeft + batch.length ≤ (workspace.holding batch).workLeft := by
  induction batch generalizing workspace with
  | nil => exact ⟨false, workspace, rfl, sound, receptive, Nat.le_refl _⟩
  | cons message batch induction =>
      have held : (workspace.holding batch).SoundFor
          (message ::ₘ (workspace.holding batch).outstanding) :=
        @Workspace.Sound.without (workspace.holding (message :: batch)) sound 0 message rfl
      have bare : workspace.SoundFor (message ::ₘ (workspace.holding batch).outstanding) :=
        { held with }
      rcases receive_returns bare receptive with ⟨first, returned⟩
      rcases run_receive bare.ids bare.search message with ⟨search, status, usable, made⟩
      let after := ((workspace.taking message).withSearch search).withStatus status
      have ran : receive message workspace = (.ok first, after) := Prod.ext returned made
      have afterSound : (after.holding batch).Sound := by
        have taken := held.taking
        rw [Workspace.taking_holding] at taken
        exact (taken.withSearch usable).withStatus status
      have fewer : (after.holding batch).workLeft + 1 ≤
          (workspace.holding (message :: batch)).workLeft := by
        have left := held.workLeft_taking_le
        rw [Workspace.taking_holding] at left
        rw [Workspace.workLeft_holding_cons]
        exact Nat.succ_le_succ left
      have afterReceptive : after.Receptive := receptive.taking
      rcases induction afterSound afterReceptive with
        ⟨others, last, returnedLast, lastSound, lastReceptive, lastLeft⟩
      refine ⟨first || others, last, ?_, lastSound, lastReceptive, ?_⟩
      · rw [receiveAll, run_bind, ran]
        simp only [run_bind, returnedLast]
        rfl
      · rw [List.length_cons]
        omega

theorem receiveBatches_returns {batches : Nat} (sound : workspace.Sound)
    (receptive : workspace.Receptive) (enough : workspace.workLeft < batches) :
    ∃ changed after, receiveBatches batches workspace = (.ok changed, after) ∧ after.Sound ∧
      after.Receptive ∧ after.messages = [] := by
  induction batches generalizing workspace with
  | zero => exact absurd enough (Nat.not_lt_zero _)
  | succ batches induction =>
      cases messages : workspace.messages with
      | nil =>
          refine ⟨false, workspace, ?_, sound, receptive, messages⟩
          simp only [receiveBatches, run_bind, run_get, messages]
          rfl
      | cons message batch =>
          let taken : Workspace := { workspace with messages := [] }
          have held : taken.holding workspace.messages = workspace := by
            simp only [taken, Workspace.holding, List.append_nil]
          have takenSound : (taken.holding workspace.messages).Sound := held.symm ▸ sound
          rcases receiveAll_returns takenSound receptive with
            ⟨first, after, ran, afterSound, afterReceptive, left⟩
          rw [held, messages, List.length_cons] at left
          rcases induction afterSound afterReceptive (by omega) with
            ⟨others, last, ranLast, lastSound, lastReceptive, noMessages⟩
          refine ⟨first || others, last, ?_, lastSound, lastReceptive, noMessages⟩
          have ranBatch : receiveBatch workspace = (.ok first, after) := by
            simp only [receiveBatch, run_bind, run_get, run_modify]
            exact ran
          have some : workspace.messages.isEmpty = false := by rw [messages]; rfl
          simp only [receiveBatches, run_bind, run_get, some, Bool.false_eq_true, if_false, ranBatch,
            ranLast]
          rfl

/-- All messages are handled, also those that come in the meantime. -/
theorem drain_returns (sound : workspace.Sound) (receptive : workspace.Receptive) :
    ∃ changed after, drain workspace = (.ok changed, after) ∧ after.Sound ∧ after.Receptive ∧
      after.messages = [] :=
  receiveBatches_returns sound receptive (Nat.lt_succ_self _)

end Act

end TableBrowser
