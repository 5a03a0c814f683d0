import TableBrowser.Proofs.Workspace.Delivery
/-!
# What becomes of tabs

A tab waits for one message at a time: the one of its load, and then those of
the evaluations of the steps that it has left. All others are ignored. So what
becomes of a tab once everything has arrived depends on nothing but the tab and
the result of its load, and it takes no more outcomes than it has steps.
-/

namespace TableBrowser

namespace Tab

/-- The message that the tab waits for, given the result of its load. -/
def next? (load : JobResult) (tab : Tab) : Option Message :=
  if tab.isLoading then some (.loaded tab.id load)
  else if tab.pipeline.pending = some tab.pipeline.generation then
    some (tab.pipeline.latest.message tab.id)
  else none

/-- A bound on the outcomes that the tab takes one after another. -/
def outcomesLeft (tab : Tab) : Nat :=
  if tab.isLoading then tab.queuedSteps.length + 2
  else if tab.pipeline.pending = some tab.pipeline.generation then tab.pipeline.steps.length + 1
  else 0

variable (settings : Settings) (grid : Size) {tab : Tab} {load : JobResult}

theorem next?_of_loading (isLoading : tab.isLoading = true) :
    tab.next? load = some (.loaded tab.id load) := if_pos isLoading

theorem next?_of_awaited (isLoaded : tab.isLoading = false)
    (awaited : tab.pipeline.pending = some tab.pipeline.generation) :
    tab.next? load = some (tab.pipeline.latest.message tab.id) := by
  rw [next?, if_neg (by simp [isLoaded]), if_pos awaited]

theorem next?_of_idle (isLoaded : tab.isLoading = false)
    (idle : tab.pipeline.pending ≠ some tab.pipeline.generation) : tab.next? load = none := by
  rw [next?, if_neg (by simp [isLoaded]), if_neg idle]

theorem outcomesLeft_of_awaited (isLoaded : tab.isLoading = false)
    (awaited : tab.pipeline.pending = some tab.pipeline.generation) :
    tab.outcomesLeft = tab.pipeline.steps.length + 1 := by
  rw [outcomesLeft, if_neg (by simp [isLoaded]), if_pos awaited]

theorem outcomesLeft_of_idle (isLoaded : tab.isLoading = false)
    (idle : tab.pipeline.pending = none) : tab.outcomesLeft = 0 := by
  simp [outcomesLeft, isLoaded, idle]

theorem outcomesLeft_le (isLoaded : tab.isLoading = false) :
    tab.outcomesLeft ≤ tab.pipeline.steps.length + 1 := by
  rw [outcomesLeft, if_neg (by simp [isLoaded])]
  split
  · exact Nat.le_refl _
  · exact Nat.zero_le _

theorem pipeline_edited (appearance : Appearance) (result : Pipeline.Edited) :
    (tab.edited appearance grid result).pipeline = result.1 :=
  congrArg (·.2.1) (tab.work_edited appearance grid result)

theorem isLoading_edited (appearance : Appearance) (result : Pipeline.Edited) :
    (tab.edited appearance grid result).isLoading = tab.isLoading :=
  congrArg (·.2.2) (tab.work_edited appearance grid result)

/-- After a failure fewer steps are left to evaluate. -/
theorem length_rejected_lt {problem : Problem}
    (made : tab.pipeline.latest.run = .error problem) :
    (tab.rejected problem).steps.length < tab.pipeline.steps.length := by
  have some := ne_nil_of_failed (made : applySteps _ _ tab.pipeline.steps = .error problem)
  have short := Pipeline.failedPosition_lt some problem.reported.2
  rw [rejected, List.length_take]
  exact (Nat.min_le_left _ _).trans_lt short

/-- Queued steps are all that is evaluated after a load. -/
theorem length_steps_replace_le {pipeline : Pipeline} (noSteps : pipeline.steps = [])
    (steps : List Step) : (pipeline.replace steps).1.steps.length ≤ steps.length := by
  unfold Pipeline.replace
  split
  · rw [Pipeline.steps_request]
  · simp [Pipeline.refused, noSteps]

/-- What a tab becomes with the message that it waits for, and which evaluation it asks for then. -/
inductive Advances (tab : Tab) : Tab → Option EvaluationRequest → Prop where
  | opened (isLoading : tab.isLoading = true) (table : Table) :
      Advances tab (tab.filled settings grid table) none
  | applied (isLoading : tab.isLoading = true) (some : tab.queuedSteps ≠ []) (table : Table) :
      Advances tab
        ((tab.filled settings grid table).edited settings.appearance grid
          ((tab.filled settings grid table).pipeline.replace tab.queuedSteps))
        (Pipeline.asked ((tab.filled settings grid table).pipeline.replace tab.queuedSteps))
  | installed (isLoaded : tab.isLoading = false)
      (awaited : tab.pipeline.pending = some tab.pipeline.generation) (table : Table) :
      Advances tab ({ tab with pipeline := tab.installed table }.measured settings.appearance grid) none
  | retried (isLoaded : tab.isLoading = false)
      (awaited : tab.pipeline.pending = some tab.pipeline.generation) (problem : Problem)
      (failed : tab.pipeline.latest.run = .error problem) :
      Advances tab (tab.edited settings.appearance grid (tab.rejected problem).request)
        (Pipeline.asked (tab.rejected problem).request)
  | cut (isLoaded : tab.isLoading = false)
      (awaited : tab.pipeline.pending = some tab.pipeline.generation) (problem : Problem)
      (failed : tab.pipeline.latest.run = .error problem) :
      Advances tab { tab with pipeline := tab.rejected problem } none

theorem advances_of_answer {message : Message} {after : Tab} {request : Option EvaluationRequest}
    (isNext : tab.next? load = some message)
    (answer : tab.answer settings grid message = .becomes after request) :
    tab.Advances settings grid after request := by
  unfold next? at isNext
  split at isNext
  · next isLoading =>
    cases isNext
    cases load with
    | failed cause stepIndex => cases answer
    | nothing => cases answer
    | table table =>
        simp only [Tab.answer, answerTable] at answer
        split at answer
        · cases answer
          exact .opened isLoading table
        · next some =>
          cases answer
          exact .applied isLoading (fun none => some (by simp [none])) table
  · next notLoading =>
    have isLoaded := Bool.eq_false_of_not_eq_true notLoading
    split at isNext
    · next awaited =>
      cases isNext
      cases made : tab.pipeline.latest.run with
      | ok table =>
          rw [answer_latest_ok settings grid made] at answer
          cases answer
          exact .installed isLoaded awaited table
      | error problem =>
          rw [answer_latest_error settings grid made, answerRejected] at answer
          split at answer
          · cases answer
            exact .retried isLoaded awaited problem made
          · cases answer
            exact .cut isLoaded awaited problem made
    · cases isNext

/-- When the message that the tab waits for has come, fewer outcomes are left. -/
theorem outcomesLeft_lt {message : Message} {after : Tab} {request : Option EvaluationRequest}
    (isNext : tab.next? load = some message)
    (answer : tab.answer settings grid message = .becomes after request) :
    after.outcomesLeft < tab.outcomesLeft := by
  have ofLoading (isLoading : tab.isLoading = true) :
      tab.outcomesLeft = tab.queuedSteps.length + 2 := if_pos isLoading
  cases advances_of_answer settings grid isNext answer with
  | opened isLoading table =>
      rw [ofLoading isLoading, outcomesLeft_of_idle rfl rfl]
      exact Nat.succ_pos _
  | applied isLoading some table =>
      let filled := tab.filled settings grid table
      let result := filled.pipeline.replace tab.queuedSteps
      have left := outcomesLeft_le (filled.isLoading_edited grid settings.appearance result)
      have short : result.1.steps.length ≤ tab.queuedSteps.length := length_steps_replace_le rfl _
      rw [pipeline_edited] at left
      rw [ofLoading isLoading]
      exact left.trans_lt (Nat.succ_lt_succ (Nat.lt_succ_of_le short))
  | installed isLoaded awaited table =>
      rw [outcomesLeft_of_awaited isLoaded awaited, outcomesLeft_of_idle (by exact isLoaded) rfl]
      exact Nat.succ_pos _
  | retried isLoaded awaited problem failed =>
      have shorter := length_rejected_lt failed
      have left := outcomesLeft_le ((tab.isLoading_edited grid settings.appearance
        (tab.rejected problem).request).trans isLoaded)
      rw [pipeline_edited, Pipeline.steps_request] at left
      rw [outcomesLeft_of_awaited isLoaded awaited]
      exact left.trans_lt (Nat.succ_lt_succ shorter)
  | cut isLoaded awaited problem failed =>
      rw [outcomesLeft_of_awaited isLoaded awaited, outcomesLeft_of_idle (by exact isLoaded) rfl]
      exact Nat.succ_pos _

/-- What becomes of a tab, given the result of its load. -/
def fate (load : JobResult) (tab : Tab) : Option Tab :=
  match _ : tab.next? load with
  | none => some tab
  | some message =>
      match _ : tab.answer settings grid message with
      | .ignored => some tab
      | .removed => none
      | .becomes after _ => fate load after
termination_by tab.outcomesLeft
decreasing_by exact outcomesLeft_lt settings grid ‹_› ‹_›

theorem fate_of_none (isDone : tab.next? load = none) : tab.fate settings grid load = some tab := by
  rw [fate]
  split
  · rfl
  · next isNext => cases isDone.symm.trans isNext

theorem fate_of_some {message : Message} (isNext : tab.next? load = some message) :
    tab.fate settings grid load =
      match tab.answer settings grid message with
      | .ignored => some tab
      | .removed => none
      | .becomes after _ => after.fate settings grid load := by
  rw [fate]
  split
  · next isDone => cases isNext.symm.trans isDone
  · next found =>
    cases isNext.symm.trans found
    split <;> next answer => rw [answer]

/-- A tab ignores an outstanding message, or it is the one that the tab waits for. -/
theorem Sound.next_cases {message : Message} {messages : Multiset Message}
    (sound : tab.Sound (message ::ₘ messages)) (names : message.tab = tab.id)
    (isLoad : ∀ result, message = .loaded tab.id result → result = load) :
    tab.answer settings grid message = .ignored ∨ tab.next? load = some message := by
  cases message with
  | loaded id result =>
      have isTab : id = tab.id := names
      subst isTab
      rw [isLoad result rfl]
      exact .inr (next?_of_loading sound.isLoading_of_loaded.1)
  | evaluated id generation steps result =>
      have isTab : id = tab.id := names
      subst isTab
      rcases sound.evaluated_cases with ⟨stale, _⟩ | ⟨isLatest, answering⟩
      · exact .inl (answer_stale settings grid stale)
      · rw [isLatest]
        exact .inr (next?_of_awaited answering.isLoaded answering.isAwaited)

/-- No answer of a tab to an outstanding message changes what becomes of it. -/
theorem Sound.fate_answer {message : Message} {messages : Multiset Message}
    (sound : tab.Sound (message ::ₘ messages)) (names : message.tab = tab.id)
    (isLoad : ∀ result, message = .loaded tab.id result → result = load) :
    match tab.answer settings grid message with
    | .ignored => True
    | .removed => tab.fate settings grid load = none
    | .becomes after _ => after.fate settings grid load = tab.fate settings grid load := by
  rcases sound.next_cases settings grid names isLoad with isIgnored | isNext
  · rw [isIgnored]
    trivial
  · rw [fate_of_some settings grid isNext]
    cases tab.answer settings grid message with
    | ignored => trivial
    | removed => rfl
    | becomes after request => rfl

/-- The load of a tab has one result. -/
theorem Sound.load_unique {messages : Multiset Message} {first second : JobResult}
    (sound : tab.Sound messages) (isFirst : .loaded tab.id first ∈ messages)
    (isSecond : .loaded tab.id second ∈ messages) : first = second := by
  let loads := messages.filter fun message => message.isLoad tab.id
  have among {result : JobResult} (member : .loaded tab.id result ∈ messages) :
      .loaded tab.id result ∈ loads :=
    Multiset.mem_filter.mpr ⟨member, by simp [Message.isLoad]⟩
  have count : loads.card = loadCount messages tab.id :=
    (Multiset.countP_eq_card_filter ..).symm
  cases isLoading : tab.isLoading with
  | true =>
      rw [(sound.loading isLoading).load] at count
      rcases Multiset.card_eq_one.mp count with ⟨only, isOnly⟩
      have same := (Multiset.mem_singleton.mp (isOnly ▸ among isFirst)).trans
        (Multiset.mem_singleton.mp (isOnly ▸ among isSecond)).symm
      cases same
      rfl
  | false =>
      rw [(sound.ready isLoading).noLoad, Multiset.card_eq_zero] at count
      exact absurd (count ▸ among isFirst) (Multiset.notMem_zero _)

/-- With nothing outstanding a sound tab waits for nothing. -/
theorem Sound.next?_of_nothing (sound : tab.Sound 0) : tab.next? load = none := by
  cases isLoading : tab.isLoading with
  | true => exact absurd (sound.loading isLoading).load Nat.zero_ne_one
  | false =>
      apply next?_of_idle isLoading
      intro awaited
      exact absurd ((sound.ready isLoading).awaiting awaited).symm (Multiset.singleton_ne_zero _)

end Tab

end TableBrowser
