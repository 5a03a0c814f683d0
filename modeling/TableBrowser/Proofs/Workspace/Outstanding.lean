import Mathlib.Data.Multiset.Filter
import TableBrowser.Workspace.Delivery
/-!
# Outstanding work

What has been handed out and not been handled yet comes as messages in some
order, and so it is counted without one: messages that have come, and those that
the jobs will become. Doing a job changes nothing of this; handing out a job
adds a message, and taking a message removes it.
-/

namespace TableBrowser

namespace Message

/-- The message tells of the load of a tab. -/
def isLoad (id : Nat) : Message → Bool
  | .loaded tab _ => tab = id
  | .evaluated .. => false

/-- The message tells of an evaluation for a tab. -/
def isEvaluation (id : Nat) : Message → Bool
  | .loaded .. => false
  | .evaluated tab _ _ _ => tab = id

/-- The message tells of the evaluation of a generation for a tab. -/
def isEvaluationOf (id generation : Nat) : Message → Bool
  | .loaded .. => false
  | .evaluated tab made _ _ => tab = id && made = generation

end Message

/-- What the evaluation of a request for a tab will tell. -/
def EvaluationRequest.message (id : Nat) (request : EvaluationRequest) : Message :=
  .evaluated id request.generation request.steps (.of request.run)

/-- How many messages tell of the load of a tab. -/
def loadCount (messages : Multiset Message) (id : Nat) : Nat :=
  messages.countP fun message => message.isLoad id

/-- The messages that tell of evaluations for a tab. -/
def evaluationsFor (messages : Multiset Message) (id : Nat) : Multiset Message :=
  messages.filter fun message => message.isEvaluation id

/-- The messages that tell of the evaluation of one generation for a tab. -/
def evaluationsOf (messages : Multiset Message) (id generation : Nat) : Multiset Message :=
  messages.filter fun message => message.isEvaluationOf id generation

section

variable (messages : Multiset Message) (id generation tab : Nat)

theorem loadCount_loaded (result : JobResult) :
    loadCount (.loaded tab result ::ₘ messages) id =
      loadCount messages id + if tab = id then 1 else 0 := by
  have told : (Message.loaded tab result).isLoad id = decide (tab = id) := rfl
  simp [loadCount, Multiset.countP_cons, told]

@[simp] theorem loadCount_message (request : EvaluationRequest) :
    loadCount (request.message tab ::ₘ messages) id = loadCount messages id :=
  Multiset.countP_cons_of_neg messages (by simp [EvaluationRequest.message, Message.isLoad])

@[simp] theorem evaluationsFor_loaded (result : JobResult) :
    evaluationsFor (.loaded tab result ::ₘ messages) id = evaluationsFor messages id :=
  Multiset.filter_cons_of_neg messages Bool.false_ne_true

theorem evaluationsFor_message (request : EvaluationRequest) :
    evaluationsFor (request.message tab ::ₘ messages) id =
      if tab = id then request.message tab ::ₘ evaluationsFor messages id
      else evaluationsFor messages id := by
  have told : (request.message tab).isEvaluation id = decide (tab = id) := rfl
  split
  · next same => exact Multiset.filter_cons_of_pos messages (told.trans (decide_eq_true same))
  · next different =>
    exact Multiset.filter_cons_of_neg messages (by rw [told]; simpa using different)

theorem evaluationsOf_message (request : EvaluationRequest) :
    evaluationsOf (request.message tab ::ₘ messages) id generation =
      if tab = id ∧ request.generation = generation then
        request.message tab ::ₘ evaluationsOf messages id generation
      else evaluationsOf messages id generation := by
  have told : (request.message tab).isEvaluationOf id generation =
      (decide (tab = id) && decide (request.generation = generation)) := rfl
  split
  · next same => exact Multiset.filter_cons_of_pos messages (by rw [told]; simpa using same)
  · next different =>
    exact Multiset.filter_cons_of_neg messages (by rw [told]; simpa using different)

end

theorem evaluationsOf_eq_filter (messages : Multiset Message) (id generation : Nat) :
    evaluationsOf messages id generation =
      (evaluationsFor messages id).filter fun message => message.isEvaluationOf id generation := by
  rw [evaluationsOf, evaluationsFor, Multiset.filter_filter]
  apply Multiset.filter_congr
  intro message _
  cases message with
  | loaded tab result => simp [Message.isEvaluationOf]
  | evaluated tab made steps result =>
      simp only [Message.isEvaluationOf, Message.isEvaluation, Bool.and_eq_true, decide_eq_true_eq]
      tauto

theorem loadCount_eq_zero {messages : Multiset Message} {id : Nat}
    (others : ∀ message ∈ messages, message.tab ≠ id) : loadCount messages id = 0 := by
  rw [loadCount, Multiset.countP_eq_zero]
  intro message member
  have other := others message member
  cases message with
  | loaded tab result => simpa [Message.isLoad, Message.tab] using other
  | evaluated tab generation steps result => simp [Message.isLoad]

theorem evaluationsFor_eq_zero {messages : Multiset Message} {id : Nat}
    (others : ∀ message ∈ messages, message.tab ≠ id) : evaluationsFor messages id = 0 := by
  rw [evaluationsFor, Multiset.filter_eq_nil]
  intro message member
  have other := others message member
  cases message with
  | loaded tab result => simp [Message.isEvaluation]
  | evaluated tab generation steps result =>
      simpa [Message.isEvaluation, Message.tab] using other

theorem evaluationsOf_eq_zero {messages : Multiset Message} {id generation : Nat}
    (older : ∀ message ∈ evaluationsFor messages id,
      ∃ request : EvaluationRequest, message = request.message id ∧ request.generation < generation) :
    evaluationsOf messages id generation = 0 := by
  rw [evaluationsOf_eq_filter, Multiset.filter_eq_nil]
  intro message member
  rcases older message member with ⟨request, rfl, isOlder⟩
  simp [EvaluationRequest.message, Message.isEvaluationOf, isOlder.ne]

namespace Workspace

/-- The messages that have come, and those that the jobs will become. -/
def outstanding (workspace : Workspace) : Multiset Message :=
  ↑(workspace.messages ++ workspace.jobs.map (·.run workspace.files))

/-- Handing out a job changes nothing but what is outstanding. -/
theorem exists_submit (workspace : Workspace) (job : Job) :
    ∃ jobs messages, workspace.submit job = { workspace with jobs, messages } := by
  unfold submit
  cases workspace.scheduling with
  | immediate => exact ⟨_, _, rfl⟩
  | deferred => exact ⟨_, _, rfl⟩

theorem outstanding_submit (workspace : Workspace) (job : Job) :
    (workspace.submit job).outstanding = job.run workspace.files ::ₘ workspace.outstanding := by
  unfold submit outstanding
  cases workspace.scheduling with
  | immediate =>
      simp only [List.append_assoc, List.singleton_append]
      exact Multiset.coe_eq_coe.mpr List.perm_middle
  | deferred =>
      simp only [List.map_append, List.map_cons, List.map_nil, ← List.append_assoc]
      exact Multiset.coe_eq_coe.mpr (List.perm_append_singleton _ _)

theorem outstanding_finish? {workspace after : Workspace} {index : Nat}
    (finished : workspace.finish? index = some after) :
    after.outstanding = workspace.outstanding := by
  rcases Option.map_eq_some_iff.mp finished with ⟨job, found, rfl⟩
  rcases List.getElem?_eq_some_iff.mp found with ⟨inBounds, isJob⟩
  have jobs := (List.getElem_cons_eraseIdx_perm inBounds).map (·.run workspace.files)
  rw [isJob] at jobs
  apply Multiset.coe_eq_coe.mpr
  rw [List.append_assoc]
  exact jobs.append_left workspace.messages

/-- Taking a message leaves the others outstanding. -/
theorem outstanding_take {workspace : Workspace} {index : Nat} {message : Message}
    (found : workspace.messages[index]? = some message) :
    workspace.outstanding = message ::ₘ
      { workspace with messages := workspace.messages.eraseIdx index }.outstanding := by
  rcases List.getElem?_eq_some_iff.mp found with ⟨inBounds, isMessage⟩
  have messages := List.getElem_cons_eraseIdx_perm inBounds
  rw [isMessage] at messages
  exact Multiset.coe_eq_coe.mpr (messages.symm.append_right _)

/-! ## Other files -/

theorem loadCount_files (workspace : Workspace) (files : FileTree) (id : Nat) :
    loadCount { workspace with files }.outstanding id = loadCount workspace.outstanding id := by
  have told (job : Job) (other : FileTree) :
      (job.run files).isLoad id = (job.run other).isLoad id := by cases job <;> rfl
  simp only [loadCount, outstanding, Multiset.coe_countP, List.countP_append, List.countP_map]
  congr 2
  funext job
  simp only [Function.comp_apply, told job workspace.files]

theorem evaluationsFor_files (workspace : Workspace) (files : FileTree) (id : Nat) :
    evaluationsFor { workspace with files }.outstanding id =
      evaluationsFor workspace.outstanding id := by
  simp only [evaluationsFor, outstanding, Multiset.filter_coe, List.filter_append]
  congr 2
  induction workspace.jobs with
  | nil => rfl
  | cons job jobs induction =>
      cases job with
      | load tab source => simpa [Job.run, Message.isEvaluation] using induction
      | evaluate tab request =>
          simp only [List.map_cons, List.filter_cons, induction]
          rfl

theorem exists_tab_files {workspace : Workspace} {files : FileTree} {message : Message}
    (member : message ∈ { workspace with files }.outstanding) :
    ∃ other ∈ workspace.outstanding, other.tab = message.tab := by
  rcases List.mem_append.mp (Multiset.mem_coe.mp member) with come | isJob
  · exact ⟨message, Multiset.mem_coe.mpr (List.mem_append_left _ come), rfl⟩
  · rcases List.mem_map.mp isJob with ⟨job, jobMember, rfl⟩
    refine ⟨job.run workspace.files, Multiset.mem_coe.mpr (List.mem_append_right _ ?_), ?_⟩
    · exact List.mem_map_of_mem jobMember
    · cases job <;> rfl

end Workspace

end TableBrowser
