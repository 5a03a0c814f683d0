import TableBrowser.Proofs.Workspace.Acts
import TableBrowser.Proofs.Workspace.Soundness
/-!
# Edits of tabs

An edit changes one tab, makes the search again where the view has changed at
once, and may hand out one evaluation. Main statement: an edit leaves a
workspace sound when the pipeline was consistent before the new generation was
started.
-/

namespace TableBrowser

namespace Workspace

def withSearch (workspace : Workspace) (search : Search) : Workspace := { workspace with search }

/-- Another usable search changes nothing about soundness. -/
theorem Sound.withSearch {workspace : Workspace} (sound : workspace.Sound) {search : Search}
    (usable : search.Usable) : (workspace.withSearch search).Sound :=
  { sound with search := usable }

/-- What the user is told changes nothing about soundness either. -/
def withStatus (workspace : Workspace) (status : String) : Workspace := { workspace with status }

theorem Sound.withStatus {workspace : Workspace} (sound : workspace.Sound) (status : String) :
    (workspace.withStatus status).Sound := { sound with }

/-! ## What an edit does -/

/-- Hands out the evaluation of a request, if there is one. -/
def handOut (workspace : Workspace) (id : Nat) (request : Option EvaluationRequest) : Workspace :=
  match request with
  | some request => workspace.submit (.evaluate id request)
  | none => workspace

theorem exists_handOut (workspace : Workspace) (id : Nat) (request : Option EvaluationRequest) :
    ∃ jobs messages, workspace.handOut id request = { workspace with jobs, messages } := by
  cases request with
  | none => exact ⟨_, _, rfl⟩
  | some request => exact workspace.exists_submit (.evaluate id request)

theorem tabs_handOut (workspace : Workspace) (id : Nat) (request : Option EvaluationRequest) :
    (workspace.handOut id request).tabs = workspace.tabs := by
  rcases workspace.exists_handOut id request with ⟨jobs, messages, made⟩
  rw [made]

theorem updateTab_updateTab (workspace : Workspace) (id : Nat) (first second : Tab → Tab)
    (keepsId : ∀ tab, (first tab).id = tab.id) :
    (workspace.updateTab id first).updateTab id second =
      workspace.updateTab id fun tab => second (first tab) := by
  simp only [updateTab, List.map_map]
  congr 1
  apply List.map_congr_left
  intro tab _
  by_cases same : tab.id = id <;> simp [same, keepsId]

end Workspace

/-- The tab with what an edit makes of its pipeline, fitted to a view that is found at once. -/
def Tab.edited (appearance : Appearance) (grid : Size) (result : Pipeline.Edited) (tab : Tab) : Tab :=
  match result.2 with
  | .ok none => { tab with pipeline := result.1 }.measured appearance grid
  | _ => { tab with pipeline := result.1 }

namespace Act

variable {workspace : Workspace}

/-- A search is made again in a view. -/
theorem run_searchAgain_finds (usable : workspace.search.Usable) (view : Table) :
    ∃ search, search.Coherent workspace.search.threshold ∧ search.Finds view ∧
      searchAgain view workspace = (.ok (), workspace.withSearch search) := by
  rcases usable.finds_recompute view with ⟨again, recomputed, coherent, finds⟩
  refine ⟨again, coherent, finds, ?_⟩
  simp only [searchAgain, run_bind, run_get, run_ofOutcome, recomputed]
  rfl

theorem run_searchAgain (usable : workspace.search.Usable) (view : Table) :
    ∃ search, search.Usable ∧ searchAgain view workspace = (.ok (), workspace.withSearch search) := by
  rcases run_searchAgain_finds usable view with ⟨again, coherent, _, made⟩
  exact ⟨again, coherent.usable, made⟩

theorem run_activated (usable : workspace.search.Usable) :
    ∃ search, search.Usable ∧ activated workspace = (.ok (), workspace.withSearch search) := by
  simp only [activated, run_bind, run_get]
  cases workspace.activeTab? with
  | none => exact ⟨workspace.search, usable, rfl⟩
  | some tab => exact run_searchAgain usable tab.view

theorem run_viewChanged (usable : workspace.search.Usable) (id : Nat) :
    ∃ search, search.Usable ∧ viewChanged id workspace =
      (.ok (), (workspace.updateTab id
        (Tab.measured workspace.settings.appearance workspace.grid)).withSearch search) := by
  simp only [viewChanged, run_bind, run_modify, run_get]
  have changedUsable : (workspace.updateTab id
      (Tab.measured workspace.settings.appearance workspace.grid)).search.Usable := usable
  generalize workspace.updateTab id _ = changed at changedUsable ⊢
  cases changed.activeTab? with
  | none => exact ⟨changed.search, changedUsable, rfl⟩
  | some tab =>
      by_cases isActive : tab.id = id
      · simp only [isActive, if_true]
        exact run_searchAgain changedUsable tab.view
      · simp only [isActive, if_false]
        exact ⟨changed.search, changedUsable, rfl⟩

theorem handOut_withSearch (workspace : Workspace) (id : Nat) (request : Option EvaluationRequest)
    (search : Search) :
    (workspace.withSearch search).handOut id request =
      (workspace.handOut id request).withSearch search := by
  cases request with
  | none => rfl
  | some request =>
      simp only [Workspace.handOut, Workspace.submit, Workspace.withSearch]
      cases workspace.scheduling <;> rfl

theorem handOut_withStatus (workspace : Workspace) (id : Nat) (request : Option EvaluationRequest)
    (status : String) :
    (workspace.withStatus status).handOut id request =
      (workspace.handOut id request).withStatus status := by
  cases request with
  | none => rfl
  | some request =>
      simp only [Workspace.handOut, Workspace.submit, Workspace.withStatus]
      cases workspace.scheduling <;> rfl

/-- An edit changes its tab and hands out what it asks for. -/
theorem run_edited (usable : workspace.search.Usable) (id : Nat) (result : Pipeline.Edited) :
    ∃ search, search.Usable ∧ edited id result workspace =
      (result.2.map fun _ => (), ((workspace.updateTab id
        (Tab.edited workspace.settings.appearance workspace.grid result)).handOut id
          (Pipeline.asked result)).withSearch search) := by
  rcases result with ⟨pipeline, problem | _ | request⟩
  · exact ⟨workspace.search, usable, rfl⟩
  · simp only [edited, run_bind, run_modify, run_ofOutcome, schedule]
    let between := workspace.updateTab id fun tab => { tab with pipeline }
    have betweenUsable : between.search.Usable := usable
    rcases run_viewChanged betweenUsable id with ⟨search, searchUsable, made⟩
    have twice := workspace.updateTab_updateTab id (fun tab => { tab with pipeline })
      (Tab.measured workspace.settings.appearance workspace.grid) fun _ => rfl
    refine ⟨search, searchUsable, made.trans ?_⟩
    exact congrArg (fun after : Workspace => (Except.ok (), after.withSearch search)) twice
  · let between := workspace.updateTab id fun tab => { tab with pipeline }
    refine ⟨workspace.search, usable, ?_⟩
    exact congrArg (fun after : Workspace => (Except.ok (), after))
      (handOut_withSearch between id (some request) workspace.search)

end Act

/-! ## Sound edits -/

/-- The messages that are outstanding when a request is handed out for a tab. -/
def askedFor (id : Nat) (request : Option EvaluationRequest) (messages : Multiset Message) :
    Multiset Message :=
  match request with
  | some request => request.message id ::ₘ messages
  | none => messages

theorem Workspace.outstanding_handOut (workspace : Workspace) (id : Nat)
    (request : Option EvaluationRequest) :
    (workspace.handOut id request).outstanding = askedFor id request workspace.outstanding := by
  cases request with
  | none => rfl
  | some request => exact workspace.outstanding_submit (.evaluate id request)

theorem sameFor_askedFor {id other : Nat} (different : other ≠ id)
    (request : Option EvaluationRequest) (messages : Multiset Message) :
    SameFor other messages (askedFor id request messages) := by
  cases request with
  | none => exact ⟨rfl, rfl⟩
  | some request => exact sameFor_cons different.symm

theorem mem_askedFor {id : Nat} {request : Option EvaluationRequest} {messages : Multiset Message}
    {message : Message} (member : message ∈ askedFor id request messages) :
    message.tab = id ∨ message ∈ messages := by
  cases request with
  | none => exact .inr member
  | some request =>
      rcases Multiset.mem_cons.mp member with isNew | old
      · exact .inl (isNew ▸ rfl)
      · exact .inr old

namespace Tab

/-- What holds of a tab in the middle of an edit that has prepared its pipeline. -/
structure Open (tab : Tab) (prepared : Pipeline) (messages : Multiset Message) : Prop where
  isLoaded : tab.isLoading = false
  noLoad : loadCount messages tab.id = 0
  consistent : prepared.Consistent
  issued : ∀ message ∈ evaluationsFor messages tab.id,
    ∃ request, prepared.Issued request ∧ message = request.message tab.id

variable {tab : Tab} {prepared : Pipeline} {messages : Multiset Message}

theorem Ready.isOpen (ready : tab.Ready messages) (isLoaded : tab.isLoading = false)
    (prepares : tab.pipeline.Prepares prepared) : tab.Open prepared messages where
  isLoaded := isLoaded
  noLoad := ready.noLoad
  consistent := ready.pipeline.toConsistent.prepared prepares
  issued message member := by
    rcases ready.issued message member with ⟨request, issued, isMessage⟩
    exact ⟨request, issued.prepared prepares, isMessage⟩

theorem work_edited (appearance : Appearance) (grid : Size) (result : Pipeline.Edited) :
    (tab.edited appearance grid result).work = (tab.id, result.1, tab.isLoading) := by
  unfold Tab.edited
  split <;> rfl

/-- Once its new generation has started, the tab is ready. -/
theorem Open.sound (isOpen : tab.Open prepared messages) (appearance : Appearance) (grid : Size) :
    (tab.edited appearance grid prepared.request).Sound
      (askedFor tab.id (Pipeline.asked prepared.request) messages) := by
  have older : evaluationsOf messages tab.id prepared.request.1.generation = 0 := by
    apply evaluationsOf_eq_zero
    intro message member
    rcases isOpen.issued message member with ⟨request, issued, isMessage⟩
    refine ⟨request, isMessage, ?_⟩
    rw [Pipeline.generation_request]
    exact Nat.lt_succ_of_le issued.known
  have issued : ∀ message ∈ evaluationsFor messages tab.id,
      ∃ request, prepared.request.1.Issued request ∧ message = request.message tab.id := by
    intro message member
    rcases isOpen.issued message member with ⟨request, issued, isMessage⟩
    exact ⟨request, issued.request, isMessage⟩
  have pipeline := isOpen.consistent.request
  have ready : ({ tab with pipeline := prepared.request.1 } : Tab).Ready
      (askedFor tab.id (Pipeline.asked prepared.request) messages) := by
    rcases isOpen.consistent.request_answer with
      ⟨noRequest, unkeyed⟩ | ⟨noRequest, settled⟩ | ⟨isRequest, keyed, isAwaited⟩
    · rw [noRequest]
      exact {
        noLoad := isOpen.noLoad
        pipeline, issued
        awaiting := fun isAwaited => absurd ((pipeline.current _ isAwaited).mp rfl) unkeyed
        idle := fun _ => older
        settled := fun _ keyed => absurd keyed unkeyed }
    · rw [noRequest]
      exact {
        noLoad := isOpen.noLoad
        pipeline, issued
        awaiting := fun isAwaited => by
          rw [settled.idle] at isAwaited
          cases isAwaited
        idle := fun _ => older
        settled := fun _ _ => settled }
    · rw [isRequest]
      exact {
        noLoad := by
          rw [askedFor, loadCount_message]
          exact isOpen.noLoad
        pipeline
        issued := by
          intro message member
          rw [askedFor, evaluationsFor_message, if_pos rfl, Multiset.mem_cons] at member
          rcases member with isNew | old
          · exact ⟨_, Pipeline.issued_latest keyed, isNew⟩
          · exact issued message old
        awaiting := fun _ => by
          rw [askedFor, evaluationsOf_message, if_pos ⟨rfl, rfl⟩, older]
          rfl
        idle := fun notAwaited => absurd isAwaited notAwaited
        settled := fun notAwaited => absurd isAwaited notAwaited }
  exact (ready.sound isOpen.isLoaded).of_same (work_edited appearance grid _) ⟨rfl, rfl⟩

/-- A tab whose table is there is sound after an edit of its pipeline. -/
theorem Ready.edit (ready : tab.Ready messages) (isLoaded : tab.isLoading = false)
    {change : Pipeline → Pipeline.Edited} (isEdit : Pipeline.IsEdit change)
    (appearance : Appearance) (grid : Size) :
    (tab.edited appearance grid (change tab.pipeline)).Sound
      (askedFor tab.id (Pipeline.asked (change tab.pipeline)) messages) := by
  rcases isEdit tab.pipeline with ⟨problem, refused⟩ | ⟨prepared, prepares, made⟩
  · rw [refused]
    exact (ready.sound isLoaded).of_same rfl ⟨rfl, rfl⟩
  · rw [made]
    exact (ready.isOpen isLoaded prepares).sound appearance grid

end Tab

namespace Workspace

variable {workspace : Workspace} {id : Nat}

/-- Tabs are known by their ids. -/
theorem Framed.eq_of_id {messages : Multiset Message} (framed : workspace.Framed messages)
    {first second : Tab} (firstMember : first ∈ workspace.tabs)
    (secondMember : second ∈ workspace.tabs) (same : first.id = second.id) : first = second :=
  List.inj_on_of_nodup_map framed.ids firstMember secondMember same

/-- A job that is handed out is outstanding, whether it is done at once or later. -/
theorem SoundFor.submit {job : Job}
    (sound : workspace.SoundFor (job.run workspace.files ::ₘ workspace.outstanding)) :
    (workspace.submit job).Sound := by
  rw [Sound, outstanding_submit]
  rcases workspace.exists_submit job with ⟨jobs, messages, made⟩
  rw [made]
  exact { sound with }

theorem SoundFor.handOut {request : Option EvaluationRequest}
    (sound : workspace.SoundFor (askedFor id request workspace.outstanding)) :
    (workspace.handOut id request).Sound := by
  cases request with
  | none => exact sound
  | some request => exact SoundFor.submit sound

/-- An edit leaves a sound workspace behind when it leaves a sound tab behind. -/
theorem Framed.edited {result : Pipeline.Edited} (framed : workspace.Framed workspace.outstanding)
    (rest : ∀ tab ∈ workspace.tabs, tab.id ≠ id → tab.Sound workspace.outstanding)
    (changed : ∀ tab ∈ workspace.tabs, tab.id = id →
      (tab.edited workspace.settings.appearance workspace.grid result).Sound
        (askedFor id (Pipeline.asked result) workspace.outstanding))
    (isKnown : id < workspace.nextId) : (Act.edited id result workspace).2.Sound := by
  have known : ∀ message ∈ askedFor id (Pipeline.asked result) workspace.outstanding,
      message.tab < workspace.nextId := by
    intro message member
    rcases mem_askedFor member with isNew | old
    · rwa [isNew]
    · exact framed.known message old
  have sound : (workspace.updateTab id (Tab.edited workspace.settings.appearance workspace.grid
      result)).SoundFor (askedFor id (Pipeline.asked result) workspace.outstanding) := by
    refine framed.update ?_ ?_ known changed
    · intro tab same
      exact (congrArg (·.1) (Tab.work_edited _ _ _)).trans same
    · intro tab member different
      exact (rest tab member different).of_same rfl (sameFor_askedFor different _ _)
  rcases Act.run_edited framed.search id result with ⟨search, usable, made⟩
  rw [made]
  exact (SoundFor.handOut sound).withSearch usable

/-- An edit of a tab whose table is there leaves a sound workspace behind. -/
theorem Sound.edit (sound : workspace.Sound) {tab : Tab} (member : tab ∈ workspace.tabs)
    (isLoaded : tab.isLoading = false) {change : Pipeline → Pipeline.Edited}
    (isEdit : Pipeline.IsEdit change) :
    (Act.edited tab.id (change tab.pipeline) workspace).2.Sound := by
  apply sound.edited (fun other otherMember _ => sound.tabs other otherMember)
  · intro other otherMember same
    rw [sound.eq_of_id otherMember member same]
    exact ((sound.tabs tab member).ready isLoaded).edit isLoaded isEdit _ _
  · exact sound.below tab member

end Workspace

end TableBrowser
