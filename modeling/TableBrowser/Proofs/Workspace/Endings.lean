import TableBrowser.Proofs.Workspace.Commands
/-!
# How acts end

Most acts read before they write: a failure that stops them leaves everything as
it was. With each act stands where it may meet a fault. A search that cannot be
made in one view cannot be made in any: while the workspace has such a search, a
load of the active tab stops the handling of messages, whatever came of it, when
there is another tab.
-/

namespace TableBrowser

namespace Act

variable {α β : Type} {workspace : Workspace}

/-- A failure leaves everything as it was, and a fault comes only where one is expected. -/
def Refused (before : Workspace) (faulty : Prop) : Problem → Workspace → Prop
  | .failure _ _, after => after = before
  | .fault _, _ => faulty

/-- Where the act fails, everything is as it was, and it meets a fault only where one is expected. -/
abbrev Spares (act : Act α) (workspace : Workspace) (faulty : Prop) : Prop :=
  act.Ends workspace (fun _ _ => True) (Refused workspace faulty)

/-- Nothing stops an act that always returns. -/
def Unstopped (_ : Problem) (_ : Workspace) : Prop := False

variable {returns : α → Workspace → Prop} {answers : β → Workspace → Prop}
variable {stops : Problem → Workspace → Prop} {faulty : Prop}

/-! ## Rules -/

theorem Ends.fail (failure : Failure) :
    (fail failure : Act α).Ends workspace returns (Refused workspace faulty) :=
  Ends.of_error rfl rfl

theorem Ends.fault {fault : Fault} (expected : faulty) :
    (throw (.fault fault) : Act α).Ends workspace returns (Refused workspace faulty) :=
  Ends.of_error rfl expected

/-- An act that always returns meets whatever is said of what stops it. -/
theorem Ends.certain {act : Act α} (ends : act.Ends workspace returns Unstopped) :
    act.Ends workspace (fun _ _ => True) stops :=
  ends.mono (fun _ _ _ => trivial) fun _ _ never => never.elim

/-- An act that always returns has run to its end. -/
theorem Ends.exists_ok {act : Act α} (ends : act.Ends workspace returns Unstopped) :
    ∃ value after, act workspace = (.ok value, after) ∧ returns value after := by
  rw [Ends] at ends
  rcases ran : act workspace with ⟨problem | value, after⟩
  · rw [ran] at ends
    exact ends.elim
  · rw [ran] at ends
    exact ⟨value, after, rfl, ends⟩

/-- A fault that is known under one condition is known under a weaker one. -/
theorem Ends.faulting {act : Act α} {weaker : Prop}
    (ends : act.Ends workspace returns (Refused workspace faulty)) (weakened : faulty → weaker) :
    act.Ends workspace returns (Refused workspace weaker) := by
  refine ends.mono (fun _ _ holds => holds) fun problem after refused => ?_
  cases problem with
  | failure cause stepIndex => exact refused
  | fault fault => exact weakened refused

/-- The first act may stop; once it has returned, nothing stops the second one. -/
theorem Ends.concluded {act : Act α} {next : α → Act β}
    (first : act.Ends workspace returns stops)
    (second : ∀ value after, returns value after → (next value).Ends after answers Unstopped) :
    (act >>= next).Ends workspace answers stops :=
  Ends.bind (first.returning fun value after holds =>
    (second value after holds).mono (fun _ _ holds => holds) fun _ _ never => never.elim)

/-! ## Reading -/

theorem ends_mapM {act : α → Act β} {items : List α}
    (each : ∀ item ∈ items, (act item).Ends workspace (fun _ after => after = workspace ∧ True) stops) :
    (items.mapM act).Ends workspace (fun _ after => after = workspace ∧ True) stops := by
  induction items with
  | nil => exact Ends.pure ⟨rfl, trivial⟩
  | cons item items induction =>
      rw [List.mapM_cons]
      refine Ends.reading (each item List.mem_cons_self) fun _ _ => ?_
      refine Ends.reading (induction fun other member => ?_) fun _ _ => Ends.pure ⟨rfl, trivial⟩
      exact each other (List.mem_cons_of_mem item member)

theorem ends_ofOutcome {outcome : Outcome α}
    (known : ∀ fault, outcome = .error (.fault fault) → faulty) :
    (ofOutcome outcome).Ends workspace (fun value after => after = workspace ∧ outcome = .ok value)
      (Refused workspace faulty) := by
  rw [Ends, run_ofOutcome]
  rcases outcome with (_ | fault) | value
  · rfl
  · exact known fault rfl
  · exact ⟨rfl, rfl⟩

theorem ends_ofFaulty {result : Except Fault α} (known : ∀ fault, result = .error fault → faulty) :
    (ofFaulty result).Ends workspace (fun value after => after = workspace ∧ result = .ok value)
      (Refused workspace faulty) := by
  rw [Ends, run_ofFaulty]
  cases result with
  | error fault => exact known fault rfl
  | ok value => exact ⟨rfl, rfl⟩

theorem ends_requireTab_of_active (isActive : workspace.activeTab?.isSome = true) :
    requireTab.Ends workspace (fun _ after => after = workspace) Unstopped := by
  rcases Option.isSome_iff_exists.mp isActive with ⟨tab, found⟩
  refine Ends.bind_get ?_
  rw [found]
  exact Ends.pure rfl

end Act

/-! ## Tabs and searches -/

namespace Workspace

variable {workspace : Workspace}

theorem isSome_activeTab?_updateTab (workspace : Workspace) (id : Nat) (change : Tab → Tab) :
    (workspace.updateTab id change).activeTab?.isSome = workspace.activeTab?.isSome := by
  simp [updateTab, activeTab?]

theorem isSome_activeTab?_handOut (workspace : Workspace) (id : Nat)
    (request : Option EvaluationRequest) :
    (workspace.handOut id request).activeTab?.isSome = workspace.activeTab?.isSome := by
  rcases workspace.exists_handOut id request with ⟨jobs, messages, made⟩
  rw [made]
  rfl

/-- Where ids are unique, a change that leaves a tab what it is changes nothing. -/
theorem updateTab_same (ids : (workspace.tabs.map (·.id)).Nodup) {tab : Tab}
    (member : tab ∈ workspace.tabs) {change : Tab → Tab} (same : change tab = tab) :
    workspace.updateTab tab.id change = workspace := by
  have unchanged : ∀ other ∈ workspace.tabs,
      (if other.id = tab.id then change other else other) = other := by
    intro other otherMember
    split
    · next sameId => rw [List.inj_on_of_nodup_map ids otherMember member sameId, same]
    · rfl
  rw [Workspace.updateTab, List.map_congr_left unchanged, List.map_id']

/-- An edit of the active tab meets a fault. -/
def EditFaults (workspace : Workspace) (change : Pipeline → Pipeline.Edited) : Prop :=
  ∃ tab fault, workspace.activeTab? = some tab ∧ tab.isLoading = false ∧
    (change tab.pipeline).2 = .error (.fault fault)

end Workspace

namespace Act

open Workspace (Sound)

variable {workspace : Workspace} {faulty : Prop}

theorem ends_viewChanged (usable : workspace.search.Usable) (id : Nat) :
    (viewChanged id).Ends workspace
      (fun _ after => after.activeTab?.isSome = workspace.activeTab?.isSome) Unstopped := by
  rcases run_viewChanged usable id with ⟨search, _, made⟩
  exact Ends.of_ok made (workspace.isSome_activeTab?_updateTab id _)

theorem ends_activated (usable : workspace.search.Usable) :
    activated.Ends workspace (fun _ _ => True) Unstopped := by
  rcases run_activated usable with ⟨search, _, made⟩
  exact Ends.of_ok made trivial

/-- Once a new generation is to be started, only a fault can stop an edit. -/
theorem ends_edited_request (usable : workspace.search.Usable) (id : Nat) (pipeline : Pipeline) :
    (edited id pipeline.request).Ends workspace
      (fun _ after => after.activeTab?.isSome = workspace.activeTab?.isSome ∧ after.search.Usable)
      (fun problem _ => ∃ fault, problem = .fault fault ∧ pipeline.request.2 = .error problem) := by
  rcases run_edited usable id pipeline.request with ⟨search, searchUsable, made⟩
  rcases pipeline.request_cases with
    ⟨fault, _, request⟩ | ⟨_, _, _, _, _, request⟩ | ⟨_, _, _, request⟩
  · rw [request] at made ⊢
    exact Ends.of_error made ⟨fault, rfl, rfl⟩
  all_goals
    rw [request] at made ⊢
    refine Ends.of_ok made ⟨?_, searchUsable⟩
    change (Workspace.handOut _ _ _).activeTab?.isSome = _
    rw [Workspace.isSome_activeTab?_handOut, Workspace.isSome_activeTab?_updateTab]

theorem ends_edit (sound : workspace.Sound) {change : Pipeline → Pipeline.Edited}
    (isEdit : Pipeline.IsEdit change) :
    (edit change).Ends workspace (fun _ after => after.activeTab?.isSome = true)
      (Refused workspace (workspace.EditFaults change)) := by
  refine Ends.reading (ends_requireLoaded fun _ => rfl) fun tab found => ?_
  rcases found with ⟨isActive, isLoaded⟩
  rcases isEdit tab.pipeline with ⟨problem, refused⟩ | ⟨prepared, _, made⟩
  · have ran : edited tab.id (change tab.pipeline) workspace = (.error problem, workspace) := by
      rw [refused]
      exact congrArg (fun after : Workspace => (Except.error problem, after))
        (Workspace.updateTab_same sound.ids (List.mem_of_getElem? isActive) rfl)
    refine Ends.of_error ran ?_
    cases problem with
    | failure cause stepIndex => rfl
    | fault fault => exact ⟨tab, fault, isActive, isLoaded, by rw [refused]; rfl⟩
  · rw [made]
    refine (ends_edited_request sound.search tab.id prepared).mono ?_ ?_
    · rintro _ after ⟨sameTab, _⟩
      rw [sameTab, isActive]
      rfl
    · rintro problem after ⟨fault, rfl, failed⟩
      exact ⟨tab, fault, isActive, isLoaded, by rw [made, failed]⟩

theorem ends_openSource (usable : workspace.search.Usable) (source : Source) (steps : List Step) :
    (openSource source steps).Ends workspace (fun _ _ => True) Unstopped := by
  refine Ends.bind_get ?_
  refine Ends.bind (Ends.of_ok rfl (Ends.bind (Ends.modify ?_)))
  refine (ends_viewChanged ?_ _).certain
  rcases Workspace.exists_submit _ (.load workspace.nextId source) with ⟨jobs, messages, made⟩
  rw [made]
  exact usable

theorem ends_openTable (usable : workspace.search.Usable) (table : Table) (name : String) :
    (openTable table name []).Ends workspace (fun _ _ => True) Unstopped := by
  refine Ends.bind_get ?_
  refine Ends.bind (Ends.of_ok rfl ?_)
  exact (ends_viewChanged (by exact usable) _).certain

/-- The copy of a tab is evaluated at once, and so its steps must have keys. -/
theorem ends_duplicateTab (usable : workspace.search.Usable) :
    duplicateTab.Spares workspace (∃ tab, workspace.activeTab? = some tab ∧
      tab.isLoading = false ∧ ¬ Keyed tab.pipeline.steps) := by
  refine Ends.reading (ends_requireLoaded fun _ => rfl) fun tab found => ?_
  rcases found with ⟨isActive, isLoaded⟩
  refine Ends.bind_get (Ends.bind (Ends.of_ok rfl (Ends.bind ?_)))
  refine (ends_edited_request (by exact usable) _ _).mono ?_ ?_
  · rintro _ after ⟨_, afterUsable⟩
    exact (ends_viewChanged afterUsable _).certain
  · rintro problem after ⟨fault, rfl, failed⟩
    refine ⟨tab, isActive, isLoaded, fun keyed => ?_⟩
    have copyKeyed : Keyed
        (workspace.newPipeline tab.pipeline.base tab.pipeline.steps).steps := keyed
    rcases Pipeline.request_ok copyKeyed with ⟨asked, made⟩
    cases failed.symm.trans made

theorem ends_closeTab (usable : workspace.search.Usable) :
    closeTab.Spares workspace faulty := by
  refine Ends.bind (Ends.discard ((ends_requireTab fun _ => rfl).returning ?_))
  rintro tab after ⟨rfl, _⟩
  refine Ends.bind (Ends.modify ?_)
  exact (ends_activated (by exact usable)).certain

theorem ends_switchTab (usable : workspace.search.Usable) (places : Int) :
    (switchTab places).Ends workspace (fun _ _ => True) Unstopped := by
  refine Ends.bind_get (Ends.ite (fun _ => Ends.pure trivial) fun _ => ?_)
  exact Ends.bind (Ends.modify (ends_activated usable))

/-! ## The cursor and the search -/

theorem ends_moveTo (row : Int) (column : Option Int) :
    (moveTo row column).Ends workspace (fun _ after => after.activeTab?.isSome = true)
      (Refused workspace faulty) := by
  refine Ends.reading (ends_requireTab fun _ => rfl) fun tab isActive => Ends.modify ?_
  rw [Workspace.isSome_activeTab?_updateTab, isActive]
  rfl

/-- Going to a match cannot fail where a tab is active. -/
theorem ends_showMatch (result : Search × Option Coordinate)
    (isActive : workspace.activeTab?.isSome = true) :
    (showMatch result).Ends workspace (fun _ _ => True) Unstopped := by
  have told (after : Workspace) (found : Bool) :
      (setStatus result.1.summary >>= fun _ => pure found : Act Bool).Ends after (fun _ _ => True)
        Unstopped := Ends.bind (Ends.modify (Ends.pure trivial))
  refine Ends.bind (Ends.modify ?_)
  cases result.2 with
  | none => exact told _ _
  | some cell =>
      rcases Option.isSome_iff_exists.mp isActive with ⟨tab, found⟩
      have moved : ∃ after, moveTo cell.row (some cell.column)
          { workspace with search := result.1 } = (.ok (), after) := by
        have active : Workspace.activeTab? { workspace with search := result.1 } = some tab := found
        simp only [moveTo, requireTab, run_bind, run_get, active, run_pure, run_modify]
        exact ⟨_, rfl⟩
      rcases moved with ⟨after, ran⟩
      exact Ends.bind (Ends.of_ok ran (told _ _))

theorem ends_find (text : String) (mode : Option Search.Mode) (caseSensitive : Option Bool) :
    (find text mode caseSensitive).Spares workspace (∃ tab fault, workspace.activeTab? = some tab ∧
      workspace.search.setQuery tab.view text mode caseSensitive = .error (.fault fault)) := by
  refine Ends.reading (ends_requireTab fun _ => rfl) fun tab isActive => ?_
  refine Ends.bind_get (Ends.reading (ends_ofOutcome fun fault failed => ?_) fun search _ => ?_)
  · exact ⟨tab, fault, isActive, failed⟩
  · refine Ends.bind (Ends.modify (ends_showMatch _ ?_).certain)
    change workspace.activeTab?.isSome = true
    rw [isActive]
    rfl

theorem ends_findNext (backwards : Bool) :
    (findNext backwards).Spares workspace faulty := by
  refine Ends.reading (ends_requireTab fun _ => rfl) fun tab isActive =>
    Ends.bind_get (Ends.check (Ends.fail _) fun _ => ?_)
  refine (ends_showMatch _ ?_).certain
  rw [isActive]
  rfl

theorem ends_openRecord (usable : workspace.search.Usable) :
    openRecord.Spares workspace (∃ tab fault, workspace.activeTab? = some tab ∧
      tab.view.rowCount ≠ 0 ∧ fieldsOf tab.view tab.cursor.row = .error fault) := by
  refine Ends.reading (ends_requireTab fun _ => rfl) fun tab isActive =>
    Ends.check (Ends.fail _) fun notEmpty => ?_
  refine Ends.reading (ends_ofFaulty fun fault failed => ?_) fun fields _ => ?_
  · exact ⟨tab, fault, isActive, notEmpty, failed⟩
  · simp only
    split
    · exact (ends_openTable usable _ _).certain
    · exact Ends.fail _

end Act

/-! ## Searches that cannot be made -/

/-! ## The active tab -/

namespace Workspace

/-- The tab with an id is the active one. -/
def Shows (workspace : Workspace) (id : Nat) : Prop :=
  ∃ tab, workspace.activeTab? = some tab ∧ tab.id = id

variable {workspace : Workspace} {id : Nat}

theorem Shows.updateTab (shows : workspace.Shows id) (other : Nat) {change : Tab → Tab}
    (keepsId : ∀ tab, (change tab).id = tab.id) : (workspace.updateTab other change).Shows id := by
  rcases shows with ⟨tab, isActive, rfl⟩
  refine ⟨if tab.id = other then change tab else tab, ?_, ?_⟩
  · simp only [Workspace.updateTab, activeTab?, List.getElem?_map] at isActive ⊢
    rw [isActive, Option.map_some]
  · split
    · exact keepsId tab
    · rfl

theorem Shows.isSome (shows : workspace.Shows id) : workspace.activeTab?.isSome = true := by
  rcases shows with ⟨tab, isActive, _⟩
  rw [isActive]
  rfl

theorem Shows.exists_tabOf? (shows : workspace.Shows id) : ∃ tab, workspace.tabOf? id = some tab := by
  rcases shows with ⟨tab, isActive, rfl⟩
  cases found : workspace.tabOf? tab.id with
  | some other => exact ⟨other, rfl⟩
  | none =>
      have others := List.find?_eq_none.mp found tab (List.mem_of_getElem? isActive)
      simp at others

/-- Where there were more tabs, one is active after one has been taken away. -/
theorem isSome_activeTab?_removeTab (more : 2 ≤ workspace.tabs.length) (index : Nat) :
    (workspace.removeTab index).activeTab?.isSome = true := by
  have left : 1 ≤ (workspace.tabs.eraseIdx index).length := by
    rw [List.length_eraseIdx]
    split
    · omega
    · omega
  simp only [activeTab?, removeTab, isSome_getElem?]
  exact lt_of_le_of_lt (Nat.min_le_right _ _) (Nat.sub_lt left Nat.one_pos)

end Workspace

namespace Act

variable {workspace : Workspace} {id : Nat}

/-! ## Acts that are stopped -/

/-- A problem stops the act. -/
abbrev Stops {α : Type} (act : Act α) (workspace : Workspace) : Prop :=
  act.Ends workspace (fun _ _ => False) fun _ _ => True

theorem Stops.bind {α β : Type} {act : Act α} {next : α → Act β} (stops : act.Stops workspace) :
    (act >>= next).Stops workspace :=
  Ends.bind (stops.returning fun _ _ never => never.elim)

theorem Stops.exists_problem {α : Type} {act : Act α} (stops : act.Stops workspace) :
    ∃ problem after, act workspace = (.error problem, after) := by
  rw [Stops, Ends] at stops
  rcases ran : act workspace with ⟨problem | value, after⟩
  · exact ⟨problem, after, rfl⟩
  · rw [ran] at stops
    exact stops.elim

theorem stops_searchAgain (unusable : ¬ workspace.search.Usable) (view : Table) :
    (searchAgain view).Stops workspace := by
  rcases Search.exists_problem_recompute unusable view with ⟨problem, recomputed⟩
  refine Ends.bind_get (Stops.bind ?_)
  rw [recomputed]
  exact Ends.of_error rfl trivial

theorem stops_activated (unusable : ¬ workspace.search.Usable)
    (isOpen : workspace.activeTab?.isSome = true) : activated.Stops workspace := by
  refine Ends.bind_get ?_
  rcases Option.isSome_iff_exists.mp isOpen with ⟨tab, isActive⟩
  rw [isActive]
  exact stops_searchAgain unusable tab.view

theorem stops_viewChanged (unusable : ¬ workspace.search.Usable) (shows : workspace.Shows id) :
    (viewChanged id).Stops workspace := by
  refine Ends.bind (Ends.modify (Ends.bind_get ?_))
  have measured := shows.updateTab id fun tab => (rfl :
    (Tab.measured workspace.settings.appearance workspace.grid tab).id = tab.id)
  rcases measured with ⟨tab, isActive, isShown⟩
  simp only [isActive, isShown, if_true]
  exact stops_searchAgain (by exact unusable) tab.view

/-- The tab is taken away, and then another one is searched. -/
theorem stops_loadFailed (unusable : ¬ workspace.search.Usable) (shows : workspace.Shows id)
    (more : 2 ≤ workspace.tabs.length) (failure : Failure) :
    (loadFailed id failure).Stops workspace := by
  refine Ends.bind (Ends.modify (Ends.bind (Ends.modify ?_)))
  cases workspace.tabs.findIdx? (·.id = id) with
  | some index => exact stops_activated unusable (Workspace.isSome_activeTab?_removeTab more index)
  | none => exact stops_activated unusable shows.isSome

/-- Whatever came of a load of the active tab, the search is to be made again. -/
theorem stops_loaded (unusable : ¬ workspace.search.Usable) (shows : workspace.Shows id)
    (more : 2 ≤ workspace.tabs.length) (result : JobResult) :
    (loaded id result).Stops workspace := by
  refine Ends.bind_get ?_
  rcases shows.exists_tabOf? with ⟨tab, found⟩
  rw [found]
  refine Ends.bind (Ends.modify ?_)
  let arrived := workspace.updateTab id fun tab => { tab with isLoading := false }
  have arrivedShows : arrived.Shows id := shows.updateTab id fun _ => rfl
  have arrivedMore : 2 ≤ arrived.tabs.length := by
    rwa [Workspace.length_updateTab]
  have failed (failure : Failure) : (loadFailed id failure).Stops arrived :=
    stops_loadFailed (by exact unusable) arrivedShows arrivedMore failure
  cases result with
  | failed cause stepIndex => exact Stops.bind (failed _)
  | nothing => exact Stops.bind (failed _)
  | table table =>
      refine Ends.bind (Ends.modify (Stops.bind (stops_viewChanged (by exact unusable) ?_)))
      exact arrivedShows.updateTab id fun _ => rfl

/-- Messages are no longer handled when the first of them is a load of the active tab. -/
theorem stops_drain (unusable : ¬ workspace.search.Usable) (shows : workspace.Shows id)
    (more : 2 ≤ workspace.tabs.length) {result : JobResult} {messages : List Message}
    (first : workspace.messages = .loaded id result :: messages) : drain.Stops workspace := by
  refine Ends.bind_get (Ends.bind_get ?_)
  rw [first]
  refine Stops.bind (Ends.bind_get (Ends.bind (Ends.modify ?_)))
  rw [first]
  let taken : Workspace := { workspace with messages := [] }
  have takenShows : taken.Shows id := shows
  have takenMore : 2 ≤ taken.tabs.length := more
  exact Stops.bind (stops_loaded (by exact unusable) takenShows takenMore result)

end Act

end TableBrowser
