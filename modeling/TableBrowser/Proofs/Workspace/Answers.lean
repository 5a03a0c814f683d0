import TableBrowser.Proofs.Workspace.Edits
/-!
# Answers of tabs to messages

What a message makes of the tab that it names depends on nothing but that tab,
the settings and the size of the grid. Main statement: receiving a message
changes a workspace, its search and what the user is told apart, by the answer
of that one tab.
-/

namespace TableBrowser

/-- What a message makes of the tab that it names. -/
inductive Answer where
  | ignored
  | removed
  | becomes (tab : Tab) (request : Option EvaluationRequest)

namespace Tab

variable (settings : Settings) (grid : Size)

/-- The tab with the table that was loaded. -/
def filled (table : Table) (tab : Tab) : Tab :=
  { tab with
    isLoading := false
    pipeline := .start table [] settings.sqlTableName settings.cacheSize.toNat
    queuedSteps := [] }.measured settings.appearance grid

/-- The answer to a loaded table: the steps that were queued for it are taken. -/
def answerTable (table : Table) (tab : Tab) : Answer :=
  if tab.queuedSteps.isEmpty then .becomes (tab.filled settings grid table) none
  else
    let result := (tab.filled settings grid table).pipeline.replace tab.queuedSteps
    .becomes ((tab.filled settings grid table).edited settings.appearance grid result)
      (Pipeline.asked result)

/-- The answer when steps were dropped: the others are evaluated if they are not shown. -/
def answerRejected (rejected : Pipeline) (tab : Tab) : Answer :=
  match rejected.isDirty with
  | .ok true =>
      .becomes (tab.edited settings.appearance grid rejected.request)
        (Pipeline.asked rejected.request)
  | _ => .becomes { tab with pipeline := rejected } none

def answer (tab : Tab) : Message → Answer
  | .loaded _ (.table table) => tab.answerTable settings grid table
  | .loaded _ _ => .removed
  | .evaluated _ generation steps (.table table) =>
      match tab.pipeline.install? generation steps table with
      | some pipeline => .becomes ({ tab with pipeline }.measured settings.appearance grid) none
      | none => .ignored
  | .evaluated _ generation _ result =>
      match tab.pipeline.reject? generation (result.failure .evaluation).2 with
      | some rejected => tab.answerRejected settings grid rejected
      | none => .ignored

end Tab

namespace Workspace

/-- The workspace after the tab with an id has answered. -/
def answered (workspace : Workspace) (id : Nat) : Answer → Workspace
  | .ignored => workspace
  | .removed =>
      match workspace.tabs.findIdx? (·.id = id) with
      | some index => workspace.removeTab index
      | none => workspace
  | .becomes tab request => (workspace.updateTab id fun _ => tab).handOut id request

/-- The workspace after the tab that a message names has answered it. -/
def taking (workspace : Workspace) (message : Message) : Workspace :=
  match workspace.tabOf? message.tab with
  | some tab => workspace.answered message.tab (tab.answer workspace.settings workspace.grid message)
  | none => workspace

variable {workspace : Workspace} {message : Message} {id : Nat}

theorem mem_of_tabOf? {tab : Tab} (found : workspace.tabOf? id = some tab) :
    tab ∈ workspace.tabs ∧ tab.id = id :=
  ⟨List.mem_of_find?_eq_some found, by simpa using List.find?_some found⟩

theorem tabOf?_updateTab (workspace : Workspace) (id : Nat) (change : Tab → Tab)
    (keepsId : ∀ tab, (change tab).id = tab.id) :
    (workspace.updateTab id change).tabOf? id = (workspace.tabOf? id).map change := by
  unfold tabOf? updateTab
  induction workspace.tabs with
  | nil => rfl
  | cons tab tabs induction =>
      by_cases same : tab.id = id
      · simp [same, keepsId]
      · simpa [same] using induction

/-- Where ids are unique it does not matter how the tab with an id is changed into another. -/
theorem updateTab_eq_const (ids : (workspace.tabs.map (·.id)).Nodup) {tab : Tab}
    (found : workspace.tabOf? id = some tab) (change : Tab → Tab) :
    workspace.updateTab id change = workspace.updateTab id fun _ => change tab := by
  rcases mem_of_tabOf? found with ⟨member, rfl⟩
  unfold updateTab
  congr 1
  apply List.map_congr_left
  intro other otherMember
  by_cases same : other.id = tab.id
  · rw [if_pos same, if_pos same, List.inj_on_of_nodup_map ids otherMember member same]
  · rw [if_neg same, if_neg same]

theorem findIdx?_of_tabOf? {tab : Tab} (found : workspace.tabOf? id = some tab) :
    ∃ index, workspace.tabs.findIdx? (·.id = id) = some index := by
  rcases mem_of_tabOf? found with ⟨member, same⟩
  cases place : workspace.tabs.findIdx? (·.id = id) with
  | some index => exact ⟨index, rfl⟩
  | none =>
      have absent := List.findIdx?_eq_none_iff.mp place tab member
      simp [same] at absent

theorem getElem?_of_place {id index : Nat} {tab : Tab} (ids : (workspace.tabs.map (·.id)).Nodup)
    (found : workspace.tabOf? id = some tab)
    (isPlace : workspace.tabs.findIdx? (·.id = id) = some index) :
    workspace.tabs[index]? = some tab := by
  rcases mem_of_tabOf? found with ⟨member, same⟩
  rcases List.findIdx?_eq_some_iff_getElem.mp isPlace with ⟨inBounds, isId, _⟩
  rw [List.getElem?_eq_getElem inBounds, Option.some.injEq]
  apply List.inj_on_of_nodup_map ids (List.getElem_mem inBounds) member
  rw [same]
  simpa using isId

theorem eraseIdx_eq_filter {tabs : List Tab} {index : Nat} (ids : (tabs.map (·.id)).Nodup)
    (found : tabs.findIdx? (·.id = id) = some index) :
    tabs.eraseIdx index = tabs.filter (·.id ≠ id) := by
  induction tabs generalizing index with
  | nil => simp at found
  | cons tab tabs induction =>
      rw [List.map_cons, List.nodup_cons] at ids
      rw [List.findIdx?_cons] at found
      by_cases same : tab.id = id
      · rw [if_pos (by simpa using same)] at found
        cases found
        have others : tabs.filter (·.id ≠ id) = tabs := by
          rw [List.filter_eq_self]
          intro other member
          rw [decide_eq_true_eq, ← same]
          exact fun sameId => ids.1 (sameId ▸ List.mem_map_of_mem member)
        rw [List.eraseIdx_cons_zero, List.filter_cons_of_neg (by simp [same]), others]
      · rw [if_neg (by simpa using same)] at found
        rcases Option.map_eq_some_iff.mp found with ⟨place, isPlace, rfl⟩
        simp [same, induction ids.2 isPlace]

/-- Whatever was done to a tab is gone when the tab is taken away. -/
theorem removeTab_updateTab {index : Nat} (ids : (workspace.tabs.map (·.id)).Nodup)
    (found : workspace.tabs.findIdx? (·.id = id) = some index) (change : Tab → Tab)
    (keepsId : ∀ tab, (change tab).id = tab.id) :
    (workspace.updateTab id change).tabs.findIdx? (·.id = id) = some index ∧
      (workspace.updateTab id change).removeTab index = workspace.removeTab index := by
  have sameId (tab : Tab) : (if tab.id = id then change tab else tab).id = tab.id := by
    split
    · exact keepsId tab
    · rfl
  have changedFound : (workspace.updateTab id change).tabs.findIdx? (·.id = id) = some index := by
    rw [updateTab, List.findIdx?_map]
    simpa only [Function.comp_def, sameId] using found
  have changedIds : ((workspace.updateTab id change).tabs.map (·.id)).Nodup := by
    simpa only [updateTab, List.map_map, Function.comp_def, sameId] using ids
  have erased : (workspace.updateTab id change).tabs.eraseIdx index =
      workspace.tabs.eraseIdx index := by
    rw [eraseIdx_eq_filter changedIds changedFound, eraseIdx_eq_filter ids found, updateTab,
      List.filter_map]
    simp only [Function.comp_def, sameId]
    refine (List.map_congr_left ?_).trans (List.map_id _)
    intro tab member
    have different : tab.id ≠ id := by simpa using (List.mem_filter.mp member).2
    rw [if_neg different]
    rfl
  refine ⟨changedFound, ?_⟩
  unfold removeTab
  rw [erased]
  rfl

theorem Framed.tabOf?_eq {messages : Multiset Message} (framed : workspace.Framed messages)
    {tab : Tab} (member : tab ∈ workspace.tabs) : workspace.tabOf? tab.id = some tab := by
  cases found : workspace.tabOf? tab.id with
  | none =>
      have absent := List.find?_eq_none.mp found tab member
      simp at absent
  | some other =>
      rcases mem_of_tabOf? found with ⟨otherMember, same⟩
      rw [framed.eq_of_id otherMember member same]

/-- A message for one tab leaves the others as they are. -/
theorem mem_taking_of_ne {tab : Tab} (ids : (workspace.tabs.map (·.id)).Nodup)
    (member : tab ∈ workspace.tabs) (other : message.tab ≠ tab.id) :
    tab ∈ (workspace.taking message).tabs := by
  unfold Workspace.taking
  cases found : workspace.tabOf? message.tab with
  | none => exact member
  | some named =>
      simp only
      cases named.answer workspace.settings workspace.grid message with
      | ignored => exact member
      | removed =>
          rcases findIdx?_of_tabOf? found with ⟨index, isPlace⟩
          simp only [answered, isPlace]
          change tab ∈ workspace.tabs.eraseIdx index
          rw [eraseIdx_eq_filter ids isPlace, List.mem_filter]
          exact ⟨member, by simpa using other.symm⟩
      | becomes after request =>
          rw [answered, tabs_handOut]
          exact List.mem_map.mpr ⟨tab, member, if_neg other.symm⟩

/-- The tab that a message names becomes its answer. -/
theorem mem_taking_of_becomes {messages : Multiset Message} (framed : workspace.Framed messages)
    {tab after : Tab} {request : Option EvaluationRequest} (member : tab ∈ workspace.tabs)
    (names : message.tab = tab.id)
    (answer : tab.answer workspace.settings workspace.grid message = .becomes after request) :
    after ∈ (workspace.taking message).tabs := by
  rw [Workspace.taking, names, framed.tabOf?_eq member]
  simp only [answer]
  rw [answered, tabs_handOut]
  exact List.mem_map.mpr ⟨tab, member, if_pos rfl⟩

theorem mem_taking_of_ignored {messages : Multiset Message} (framed : workspace.Framed messages)
    {tab : Tab} (member : tab ∈ workspace.tabs) (names : message.tab = tab.id)
    (answer : tab.answer workspace.settings workspace.grid message = .ignored) :
    tab ∈ (workspace.taking message).tabs := by
  rw [Workspace.taking, names, framed.tabOf?_eq member]
  simp only [answer]
  exact member

/-- What holds of all tabs and passes to what they become holds after an answer. -/
theorem forall_taking {holds : Tab → Prop} (all : ∀ tab ∈ workspace.tabs, holds tab)
    (passes : ∀ tab ∈ workspace.tabs, ∀ after request,
      tab.answer workspace.settings workspace.grid message = .becomes after request → holds after) :
    ∀ tab ∈ (workspace.taking message).tabs, holds tab := by
  unfold Workspace.taking
  cases found : workspace.tabOf? message.tab with
  | none => exact all
  | some tab =>
      rcases mem_of_tabOf? found with ⟨member, _⟩
      simp only
      cases answer : tab.answer workspace.settings workspace.grid message with
      | ignored => exact all
      | removed =>
          rcases findIdx?_of_tabOf? found with ⟨index, place⟩
          simp only [answered, place]
          exact fun other otherMember => all other (List.mem_of_mem_eraseIdx otherMember)
      | becomes after request =>
          simp only [answered, tabs_handOut]
          intro other otherMember
          rcases List.mem_map.mp otherMember with ⟨old, oldMember, rfl⟩
          split
          · exact passes tab member after request answer
          · exact all old oldMember

end Workspace

namespace Act

variable {workspace : Workspace}

/-- What was queued is taken; a failure is only told. -/
theorem run_applyQueued (usable : workspace.search.Usable) {id : Nat} {tab : Tab}
    (found : workspace.tabOf? id = some tab) (steps : List Step) :
    ∃ search status, search.Usable ∧ (applyQueued id steps workspace).2 =
      (((workspace.updateTab id (Tab.edited workspace.settings.appearance workspace.grid
        (tab.pipeline.replace steps))).handOut id
          (Pipeline.asked (tab.pipeline.replace steps))).withSearch search).withStatus status := by
  rcases run_edited usable id (tab.pipeline.replace steps) with ⟨search, searchUsable, made⟩
  have kept : (applyQueued id steps workspace).2 =
      match edited id (tab.pipeline.replace steps) workspace with
      | (.ok _, after) => after
      | (.error (.failure cause _), after) => after.withStatus cause.statusText
      | (.error (.fault _), after) => after := by
    simp only [applyQueued, run_bind, run_get, found, run_tryCatch]
    rcases edited id (tab.pipeline.replace steps) workspace with ⟨(_ | _) | _, after⟩ <;> rfl
  rw [kept, made]
  cases (tab.pipeline.replace steps).2 with
  | ok _ => exact ⟨search, _, searchUsable, rfl⟩
  | error problem =>
      cases problem with
      | failure cause stepIndex => exact ⟨search, _, searchUsable, rfl⟩
      | fault fault => exact ⟨search, _, searchUsable, rfl⟩

/-- A loaded table first fills its tab; then the steps that were queued for it are taken. -/
theorem run_filled (usable : workspace.search.Usable) {id : Nat} {tab : Tab}
    (found : workspace.tabOf? id = some tab) (table : Table) :
    ∃ search, search.Usable ∧ (loaded id (.table table) workspace).2 =
      ((if tab.queuedSteps.isEmpty then pure () else applyQueued id tab.queuedSteps)
        ((workspace.updateTab id
          (Tab.filled workspace.settings workspace.grid table)).withSearch search)).2 := by
  let first := fun tab : Tab => { tab with isLoading := false }
  let second := fun tab : Tab =>
    { tab with pipeline := workspace.newPipeline table [], queuedSteps := [] }
  let emptied := (workspace.updateTab id first).updateTab id second
  have emptiedUsable : emptied.search.Usable := usable
  rcases run_viewChanged emptiedUsable id with ⟨search, searchUsable, shown⟩
  have fits : emptied.updateTab id
      (Tab.measured workspace.settings.appearance workspace.grid) =
        workspace.updateTab id (Tab.filled workspace.settings workspace.grid table) := by
    simp only [emptied]
    rw [Workspace.updateTab_updateTab _ id first second fun _ => rfl,
      Workspace.updateTab_updateTab _ id (fun tab => second (first tab)) _ fun _ => rfl]
    rfl
  refine ⟨search, searchUsable, ?_⟩
  rw [← fits]
  have unfolded : loaded id (.table table) workspace = (viewChanged id >>= fun _ => do
      if !tab.queuedSteps.isEmpty then applyQueued id tab.queuedSteps
      return true) emptied := by
    simp only [loaded, run_bind, run_get, found, run_modify]
    rfl
  rw [unfolded, run_bind, shown]
  cases tab.queuedSteps.isEmpty with
  | true => rfl
  | false =>
      simp only [Bool.not_false, if_true, Bool.false_eq_true, if_false, run_bind]
      split
      · next ran => exact (congrArg (·.2) ran).symm
      · next ran => exact (congrArg (·.2) ran).symm

theorem run_loaded_table (ids : (workspace.tabs.map (·.id)).Nodup)
    (usable : workspace.search.Usable) {id : Nat} {tab : Tab}
    (found : workspace.tabOf? id = some tab) (table : Table) :
    ∃ search status, search.Usable ∧ (loaded id (.table table) workspace).2 =
      ((workspace.answered id
        (tab.answerTable workspace.settings workspace.grid table)).withSearch search).withStatus
          status := by
  rcases run_filled usable found table with ⟨search, searchUsable, made⟩
  rw [made]
  unfold Tab.answerTable
  cases noSteps : tab.queuedSteps.isEmpty with
  | true =>
      refine ⟨search, workspace.status, searchUsable, ?_⟩
      rw [Workspace.updateTab_eq_const ids found]
      rfl
  | false =>
      simp only [Bool.false_eq_true, if_false]
      let fill := Tab.filled workspace.settings workspace.grid table
      let filled := (workspace.updateTab id fill).withSearch search
      have filledUsable : filled.search.Usable := searchUsable
      have filledFound : filled.tabOf? id = some (fill tab) := by
        have changed := workspace.tabOf?_updateTab id fill fun _ => rfl
        rwa [found] at changed
      rcases run_applyQueued filledUsable filledFound tab.queuedSteps with
        ⟨after, status, afterUsable, taken⟩
      refine ⟨after, status, afterUsable, taken.trans ?_⟩
      let edit := Tab.edited workspace.settings.appearance workspace.grid
        ((fill tab).pipeline.replace tab.queuedSteps)
      have twice : (workspace.updateTab id fill).updateTab id edit =
          workspace.updateTab id fun _ => edit (fill tab) := by
        rw [Workspace.updateTab_updateTab _ id fill edit fun _ => rfl,
          Workspace.updateTab_eq_const ids found]
      let request := Pipeline.asked ((fill tab).pipeline.replace tab.queuedSteps)
      have told := handOut_withSearch ((workspace.updateTab id fill).updateTab id edit) id request
        search
      let hand (changed : Workspace) := (changed.handOut id request).withSearch search
      have handed := congrArg
        (fun changed : Workspace => (changed.withSearch after).withStatus status)
        (told.trans (congrArg hand twice))
      exact handed

/-- A tab whose load failed is taken away. -/
theorem run_loadFailed (ids : (workspace.tabs.map (·.id)).Nodup) (usable : workspace.search.Usable)
    {id : Nat} {tab : Tab} (found : workspace.tabOf? id = some tab) {result : JobResult}
    (noTable : ∀ table, result ≠ .table table) :
    ∃ search status, search.Usable ∧ (loaded id result workspace).2 =
      ((workspace.answered id .removed).withSearch search).withStatus status := by
  rcases Workspace.findIdx?_of_tabOf? found with ⟨index, place⟩
  let unloading := fun tab : Tab => { tab with isLoading := false }
  let status := (result.failure .loading).1.statusText
  rcases Workspace.removeTab_updateTab ids place unloading fun _ => rfl with ⟨changedPlace, removed⟩
  have unfolded : (loaded id result workspace).2 =
      (activated ((workspace.removeTab index).withStatus status)).2 := by
    have gone : (loadFailed id (result.failure .loading).1
        (workspace.updateTab id unloading)) =
          activated ((workspace.removeTab index).withStatus status) := by
      simp only [loadFailed, setStatus, run_bind, run_modify, changedPlace]
      exact congrArg (fun after : Workspace => activated (after.withStatus status)) removed
    have after : (loaded id result workspace).2 = ((loadFailed id (result.failure .loading).1
        (workspace.updateTab id unloading))).2 := by
      cases result with
      | table table => exact absurd rfl (noTable table)
      | _ =>
          simp only [loaded, run_bind, run_get, found, run_modify]
          split
          · next ran => exact (congrArg (·.2) ran).symm
          · next ran => exact (congrArg (·.2) ran).symm
    rw [after, gone]
  have removedUsable : ((workspace.removeTab index).withStatus status).search.Usable := usable
  rcases run_activated removedUsable with ⟨search, searchUsable, made⟩
  refine ⟨search, status, searchUsable, ?_⟩
  rw [unfolded, made]
  simp only [Workspace.answered, place]
  rfl

/-- The steps before the failing one are evaluated again if they are not shown. -/
theorem run_evaluationFailed (ids : (workspace.tabs.map (·.id)).Nodup)
    (usable : workspace.search.Usable) {id : Nat} {tab : Tab}
    (found : workspace.tabOf? id = some tab) (rejected : Pipeline) (failure : Failure) :
    ∃ search status, search.Usable ∧ (evaluationFailed id rejected failure workspace).2 =
      ((workspace.answered id
        (tab.answerRejected workspace.settings workspace.grid rejected)).withSearch
          search).withStatus status := by
  let drop := fun tab : Tab => { tab with pipeline := rejected }
  let dropped := (workspace.updateTab id drop).withStatus failure.statusText
  have unfolded : evaluationFailed id rejected failure workspace =
      (ofFaulty rejected.isDirty >>= fun isDirty =>
        if isDirty then edited id rejected.request else pure ()) dropped := by
    simp only [evaluationFailed, setStatus, run_bind, run_modify]
    rfl
  have kept : dropped = (workspace.updateTab id fun _ => drop tab).withStatus failure.statusText :=
    congrArg (·.withStatus failure.statusText) (Workspace.updateTab_eq_const ids found drop)
  rw [unfolded, run_bind, run_ofFaulty]
  unfold Tab.answerRejected
  cases rejected.isDirty with
  | error fault => exact ⟨workspace.search, failure.statusText, usable, kept⟩
  | ok isDirty =>
      cases isDirty with
      | false => exact ⟨workspace.search, failure.statusText, usable, kept⟩
      | true =>
          have droppedUsable : dropped.search.Usable := usable
          rcases run_edited droppedUsable id rejected.request with ⟨search, searchUsable, made⟩
          refine ⟨search, failure.statusText, searchUsable, ?_⟩
          let edit := Tab.edited workspace.settings.appearance workspace.grid rejected.request
          have twice : (workspace.updateTab id drop).updateTab id edit =
              workspace.updateTab id fun _ => edit tab := by
            rw [Workspace.updateTab_updateTab _ id drop edit fun _ => rfl]
            exact Workspace.updateTab_eq_const ids found edit
          have told := handOut_withStatus ((workspace.updateTab id drop).updateTab id edit) id
            (Pipeline.asked rejected.request) failure.statusText
          let hand (changed : Workspace) :=
            (changed.handOut id (Pipeline.asked rejected.request)).withStatus failure.statusText
          exact (congrArg (·.2) made).trans
            (congrArg (·.withSearch search) (told.trans (congrArg hand twice)))

/-- Whatever an evaluation without a table tells is handled in the same way. -/
theorem run_evaluated_failed (ids : (workspace.tabs.map (·.id)).Nodup)
    (usable : workspace.search.Usable) {id : Nat} {tab : Tab}
    (found : workspace.tabOf? id = some tab) {result : JobResult}
    (noTable : ∀ table, result ≠ .table table) (generation : Nat) (steps : List Step) :
    ∃ search status, search.Usable ∧ (evaluated id generation steps result workspace).2 =
      ((workspace.answered id (tab.answer workspace.settings workspace.grid
        (.evaluated id generation steps result))).withSearch search).withStatus status := by
  have answer : tab.answer workspace.settings workspace.grid
      (.evaluated id generation steps result) =
        match tab.pipeline.reject? generation (result.failure .evaluation).2 with
        | some rejected => tab.answerRejected workspace.settings workspace.grid rejected
        | none => .ignored := by
    cases result with
    | table table => exact absurd rfl (noTable table)
    | _ => rfl
  have unfolded : (evaluated id generation steps result workspace).2 =
      match tab.pipeline.reject? generation (result.failure .evaluation).2 with
      | some rejected =>
          (evaluationFailed id rejected (result.failure .evaluation).1 workspace).2
      | none => workspace := by
    cases result with
    | table table => exact absurd rfl (noTable table)
    | _ =>
        simp only [evaluated, run_bind, run_get, found]
        cases tab.pipeline.reject? generation _ with
        | none => rfl
        | some rejected =>
            simp only [run_bind]
            split
            · next ran => exact (congrArg (·.2) ran).symm
            · next ran => exact (congrArg (·.2) ran).symm
  rw [unfolded, answer]
  cases tab.pipeline.reject? generation (result.failure .evaluation).2 with
  | none => exact ⟨workspace.search, workspace.status, usable, rfl⟩
  | some rejected => exact run_evaluationFailed ids usable found rejected _

/-- A table that was evaluated is shown, if it is still asked for. -/
theorem run_evaluated_table (ids : (workspace.tabs.map (·.id)).Nodup)
    (usable : workspace.search.Usable) {id : Nat} {tab : Tab}
    (found : workspace.tabOf? id = some tab) (generation : Nat) (steps : List Step)
    (table : Table) :
    ∃ search status, search.Usable ∧ (evaluated id generation steps (.table table) workspace).2 =
      ((workspace.answered id (tab.answer workspace.settings workspace.grid
        (.evaluated id generation steps (.table table)))).withSearch search).withStatus status := by
  simp only [evaluated, run_bind, run_get, found, Tab.answer]
  cases installed : tab.pipeline.install? generation steps table with
  | none => exact ⟨workspace.search, workspace.status, usable, rfl⟩
  | some pipeline =>
      let install := fun tab : Tab => { tab with pipeline }
      have changedUsable : (workspace.updateTab id install).search.Usable := usable
      rcases run_viewChanged changedUsable id with ⟨search, searchUsable, made⟩
      have shown : (workspace.updateTab id install).updateTab id
          (Tab.measured workspace.settings.appearance workspace.grid) =
            workspace.updateTab id fun _ => (install tab).measured
              workspace.settings.appearance workspace.grid := by
        rw [Workspace.updateTab_updateTab _ id install _ fun _ => rfl,
          Workspace.updateTab_eq_const ids found]
      refine ⟨search, workspace.status, searchUsable, ?_⟩
      simp only [run_bind, run_modify]
      rw [show viewChanged id (workspace.updateTab id fun tab => { tab with pipeline }) = _
        from made]
      exact congrArg (·.withSearch search) shown

/-- A message for a tab that is not there changes nothing. -/
theorem receive_of_absent {message : Message} (absent : workspace.tabOf? message.tab = none) :
    receive message workspace = (.ok false, workspace) := by
  cases message with
  | loaded id result =>
      simp only [Message.tab] at absent
      simp only [receive, loaded, run_bind, run_get, absent]
      rfl
  | evaluated id generation steps result =>
      simp only [Message.tab] at absent
      simp only [receive, evaluated, run_bind, run_get, absent]
      rfl

/-- A message changes a workspace by the answer of the tab that it names. -/
theorem run_receive (ids : (workspace.tabs.map (·.id)).Nodup) (usable : workspace.search.Usable)
    (message : Message) :
    ∃ search status, search.Usable ∧ (receive message workspace).2 =
      ((workspace.taking message).withSearch search).withStatus status := by
  have unchanged : ∃ search status, search.Usable ∧
      workspace = (workspace.withSearch search).withStatus status :=
    ⟨workspace.search, workspace.status, usable, rfl⟩
  unfold Workspace.taking
  cases found : workspace.tabOf? message.tab with
  | none =>
      rw [receive_of_absent found]
      exact unchanged
  | some tab =>
      cases message with
      | loaded id result =>
          simp only [receive, Message.tab] at found ⊢
          cases result with
          | table table => exact run_loaded_table ids usable found table
          | failed cause stepIndex => exact run_loadFailed ids usable found (by simp)
          | nothing => exact run_loadFailed ids usable found (by simp)
      | evaluated id generation steps result =>
          simp only [receive, Message.tab] at found ⊢
          cases result with
          | table table => exact run_evaluated_table ids usable found generation steps table
          | failed cause stepIndex => exact run_evaluated_failed ids usable found (by simp) _ _
          | nothing => exact run_evaluated_failed ids usable found (by simp) _ _

end Act

end TableBrowser
