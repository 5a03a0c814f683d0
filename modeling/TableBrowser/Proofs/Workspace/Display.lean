import TableBrowser.Proofs.Workspace.Fitted
import TableBrowser.Proofs.Workspace.Isolation
import TableBrowser.Proofs.Workspace.Refusal
/-!
# What a workspace displays

Every tab is fitted to its view, and the matches of the search are those of the
active view. An act that changes a view or the active tab fits the tab and makes
the search again; in between one tab is exempt. Only a tab that a fault has
stopped from being opened is left without widths. Main statement: the acts that
commands are made of, and all that arrives, keep what is displayed up to date.
-/

namespace TableBrowser

namespace Workspace

/-- All tabs are fitted, but for the exempt one, and the search can be made again. -/
structure Arranged (unfitted : Prop) (exempt : Option Nat) (workspace : Workspace) : Prop where
  ids : (workspace.tabs.map (·.id)).Nodup
  tabs : ∀ tab ∈ workspace.tabs, exempt = some tab.id ∨ tab.Shown unfitted workspace.grid
  search : workspace.search.Coherent workspace.settings.fuzzyThreshold

/-- The matches are those of the active view, unless its tab is the exempt one. -/
structure UpToDate (unfitted : Prop) (exempt : Option Nat) (workspace : Workspace) : Prop
    extends Arranged unfitted exempt workspace where
  finds : ∀ tab, workspace.activeTab? = some tab → exempt = some tab.id ∨
    workspace.search.Finds tab.view ∨ (unfitted ∧ tab.widths = [])

variable {workspace : Workspace} {unfitted : Prop} {exempt : Option Nat} {id : Nat}

/-- When no tab is exempt all are fitted. -/
theorem Arranged.shown (arranged : workspace.Arranged unfitted none) {tab : Tab}
    (member : tab ∈ workspace.tabs) : tab.Shown unfitted workspace.grid := by
  rcases arranged.tabs tab member with isExempt | shown
  · cases isExempt
  · exact shown

theorem UpToDate.found (upToDate : workspace.UpToDate unfitted none) {tab : Tab}
    (isActive : workspace.activeTab? = some tab) :
    workspace.search.Finds tab.view ∨ (unfitted ∧ tab.widths = []) := by
  rcases upToDate.finds tab isActive with isExempt | found
  · cases isExempt
  · exact found

/-- What is displayed stays up to date, also at a fault. -/
def displayed (unfitted : Prop) : Invariant where
  holds := UpToDate unfitted none
  fragile := False

theorem upToDate_start (unfitted : Prop) (settings : Settings) (files : FileTree)
    (scheduling : Scheduling) : (start settings files scheduling).UpToDate unfitted none where
  ids := List.nodup_nil
  tabs _ member := by cases member
  search := Search.coherent_start _
  finds _ isActive := by cases isActive

/-! ## Changes of tabs -/

/-- Whoever was exempt is the tab that is exempt now. -/
theorem exempt_of_within (within : exempt = none ∨ exempt = some id) {other : Nat}
    (isExempt : exempt = some other) : some id = some other := by
  rcases within with none | same
  · cases none.symm.trans isExempt
  · exact same.symm.trans isExempt

/-- While a tab is changed in any way it is exempt. -/
theorem UpToDate.exempting (upToDate : workspace.UpToDate unfitted exempt)
    (within : exempt = none ∨ exempt = some id) {change : Tab → Tab}
    (keepsId : ∀ tab, (change tab).id = tab.id) :
    (workspace.updateTab id change).UpToDate unfitted (some id) where
  ids := by
    rw [ids_updateTab change keepsId]
    exact upToDate.ids
  tabs tab member := by
    rcases List.mem_map.mp member with ⟨old, oldMember, rfl⟩
    split
    · next same => exact .inl (by rw [keepsId, same])
    · exact (upToDate.tabs old oldMember).imp_left (exempt_of_within within)
  search := upToDate.search
  finds tab isActive := by
    rw [activeTab?_updateTab] at isActive
    rcases Option.map_eq_some_iff.mp isActive with ⟨old, wasActive, rfl⟩
    split
    · next same => exact .inl (by rw [keepsId, same])
    · exact (upToDate.finds old wasActive).imp_left (exempt_of_within within)

/-- A tab is changed and shows what it showed. -/
theorem UpToDate.updateTab (upToDate : workspace.UpToDate unfitted none) {change : Tab → Tab}
    (keepsId : ∀ tab, (change tab).id = tab.id)
    (shown : ∀ tab ∈ workspace.tabs, tab.id = id → tab.Shown unfitted workspace.grid →
      (change tab).Shown unfitted workspace.grid)
    (same : ∀ tab ∈ workspace.tabs, tab.id = id →
      (change tab).view = tab.view ∧ (change tab).widths = tab.widths) :
    (workspace.updateTab id change).UpToDate unfitted none where
  ids := by
    rw [ids_updateTab change keepsId]
    exact upToDate.ids
  tabs tab member := by
    rcases List.mem_map.mp member with ⟨old, oldMember, rfl⟩
    have oldShown := upToDate.shown oldMember
    right
    split
    · next isChanged => exact shown old oldMember isChanged oldShown
    · exact oldShown
  search := upToDate.search
  finds tab isActive := by
    rw [activeTab?_updateTab] at isActive
    rcases Option.map_eq_some_iff.mp isActive with ⟨old, wasActive, rfl⟩
    have found := upToDate.found wasActive
    right
    split
    · next isChanged =>
      rw [(same old (List.mem_of_getElem? wasActive) isChanged).1,
        (same old (List.mem_of_getElem? wasActive) isChanged).2]
      exact found
    · exact found

/-- A tab is known by its id, and a pipeline with the same view changes nothing that is shown. -/
theorem UpToDate.withPipeline (upToDate : workspace.UpToDate unfitted none) {tab : Tab}
    (member : tab ∈ workspace.tabs) {pipeline : Pipeline} (view : pipeline.view = tab.view) :
    (workspace.updateTab tab.id fun other => { other with pipeline }).UpToDate unfitted none := by
  have isTab : ∀ other ∈ workspace.tabs, other.id = tab.id → other = tab :=
    fun other otherMember same => List.inj_on_of_nodup_map upToDate.ids otherMember member same
  refine upToDate.updateTab (fun _ => rfl) ?_ ?_
  · intro other otherMember same shown
    rw [isTab other otherMember same] at shown ⊢
    exact shown.of_same view rfl rfl rfl
  · intro other otherMember same
    rw [isTab other otherMember same]
    exact ⟨view, rfl⟩

/-- A new tab is the active one, and still to be fitted. -/
theorem UpToDate.addTab (upToDate : workspace.UpToDate unfitted none) (sound : workspace.Sound)
    {tab : Nat → Tab} (isNamed : (tab workspace.nextId).id = workspace.nextId) :
    (workspace.addTab tab).UpToDate unfitted (some workspace.nextId) where
  ids := (sound.toFramed.addTab isNamed fun message member => (sound.known message member).le).ids
  tabs other member := by
    rcases List.mem_append.mp member with old | isNew
    · exact .inr (upToDate.shown old)
    · exact .inl (by rw [List.mem_singleton.mp isNew, isNamed])
  search := upToDate.search
  finds other isActive := by
    have isNew : (workspace.addTab tab).activeTab? = some (tab workspace.nextId) := by
      simp [Workspace.addTab, activeTab?]
    rw [isNew] at isActive
    exact .inl (by rw [← Option.some.inj isActive, isNamed])

theorem Sound.unmeasured_addTab (sound : workspace.Sound) {tab : Nat → Tab}
    (unmeasured : (tab workspace.nextId).widths = []) :
    ∀ other ∈ (workspace.addTab tab).tabs, other.id = workspace.nextId → other.widths = [] := by
  intro other member same
  rcases List.mem_append.mp member with old | isNew
  · exact absurd same (sound.below other old).ne
  · rwa [List.mem_singleton.mp isNew]

/-- Where tabs may be left without widths, so may the exempt one. -/
theorem UpToDate.unexempt (upToDate : workspace.UpToDate unfitted (some id)) (allowed : unfitted)
    (unmeasured : ∀ tab ∈ workspace.tabs, tab.id = id → tab.widths = []) :
    workspace.UpToDate unfitted none where
  ids := upToDate.ids
  tabs tab member := by
    right
    rcases upToDate.tabs tab member with isExempt | shown
    · exact .inr ⟨allowed, unmeasured tab member (Option.some.inj isExempt).symm⟩
    · exact shown
  search := upToDate.search
  finds tab isActive := by
    right
    rcases upToDate.finds tab isActive with isExempt | found
    · have member := List.mem_of_getElem? isActive
      exact .inr ⟨allowed, unmeasured tab member (Option.some.inj isExempt).symm⟩
    · exact found

/-- A tab that need not be exempt may be. -/
theorem UpToDate.weaken (upToDate : workspace.UpToDate unfitted none) (id : Nat) :
    workspace.UpToDate unfitted (some id) where
  ids := upToDate.ids
  tabs _ member := .inr (upToDate.shown member)
  search := upToDate.search
  finds _ isActive := .inr (upToDate.found isActive)

/-- The exempt tab is fitted whatever it was. -/
theorem UpToDate.measured (upToDate : workspace.UpToDate unfitted (some id)) :
    (workspace.updateTab id
      (Tab.measured workspace.settings.appearance workspace.grid)).Arranged unfitted none where
  ids := by
    rw [ids_updateTab (Tab.measured workspace.settings.appearance workspace.grid) fun _ => rfl]
    exact upToDate.ids
  tabs tab member := by
    rcases List.mem_map.mp member with ⟨old, oldMember, rfl⟩
    right
    split
    · exact .inl (old.fitted_measured _ _)
    · next different =>
      refine (upToDate.tabs old oldMember).resolve_left fun isExempt => ?_
      exact different (Option.some.inj isExempt).symm
  search := upToDate.search

theorem Arranged.removeTab (arranged : workspace.Arranged unfitted none) (index : Nat) :
    (workspace.removeTab index).Arranged unfitted none where
  ids := arranged.ids.sublist ((List.eraseIdx_sublist workspace.tabs index).map _)
  tabs tab member := arranged.tabs tab (List.mem_of_mem_eraseIdx member)
  search := arranged.search

theorem UpToDate.resized (upToDate : workspace.UpToDate unfitted none) (grid : Size) :
    (workspace.resized grid).UpToDate unfitted none where
  ids := by
    rw [Workspace.resized, List.map_map]
    exact upToDate.ids
  tabs tab member := by
    rcases List.mem_map.mp member with ⟨old, oldMember, rfl⟩
    exact .inr ((upToDate.shown oldMember).following grid)
  search := upToDate.search
  finds tab isActive := by
    have isOld : workspace.activeTab?.map (Tab.following grid) = some tab := by
      rw [← isActive]
      exact List.getElem?_map.symm
    rcases Option.map_eq_some_iff.mp isOld with ⟨old, wasActive, rfl⟩
    exact upToDate.finds old wasActive

end Workspace

/-! ## Acts -/

namespace Act

open Workspace (UpToDate Arranged displayed)

variable {α : Type} {workspace : Workspace} {unfitted : Prop} {id : Nat}

/-- The search is made again in the view of the active tab. -/
theorem displays_searchAgain (arranged : workspace.Arranged unfitted none) {tab : Tab}
    (isActive : workspace.activeTab? = some tab) :
    (searchAgain tab.view).Leaves (displayed unfitted) workspace := by
  rcases run_searchAgain_finds arranged.search.usable tab.view with ⟨search, coherent, finds, made⟩
  rw [arranged.search.threshold] at coherent
  refine Ends.of_ok made { arranged with search := coherent, finds := fun other otherActive => ?_ }
  cases isActive.symm.trans otherActive
  exact .inr (.inl finds)

theorem displays_activated (arranged : workspace.Arranged unfitted none) :
    activated.Leaves (displayed unfitted) workspace := by
  refine Ends.bind_get ?_
  cases isActive : workspace.activeTab? with
  | none =>
      refine Ends.pure { arranged with finds := fun _ otherActive => ?_ }
      cases isActive.symm.trans otherActive
  | some tab => exact displays_searchAgain arranged isActive

/-- The exempt tab is fitted, and the search is made again if it is the active one. -/
theorem displays_viewChanged (upToDate : workspace.UpToDate unfitted (some id)) :
    (viewChanged id).Leaves (displayed unfitted) workspace := by
  have arranged := upToDate.measured
  have changed : (workspace.updateTab id
      (Tab.measured workspace.settings.appearance workspace.grid)).UpToDate unfitted (some id) :=
    upToDate.exempting (.inr rfl) fun _ => rfl
  refine Ends.bind (Ends.modify (Ends.bind_get ?_))
  generalize workspace.updateTab id (Tab.measured workspace.settings.appearance workspace.grid) =
    measured at arranged changed ⊢
  cases isActive : measured.activeTab? with
  | none =>
      refine Ends.pure { arranged with finds := fun _ otherActive => ?_ }
      cases isActive.symm.trans otherActive
  | some tab =>
      refine Ends.ite (fun _ => displays_searchAgain arranged isActive) fun different => ?_
      refine Ends.pure { arranged with finds := fun other otherActive => ?_ }
      cases isActive.symm.trans otherActive
      refine .inr ((changed.finds tab isActive).resolve_left fun isExempt => ?_)
      exact different (Option.some.inj isExempt).symm

/-- Work that is handed out changes nothing that is displayed. -/
theorem displays_submit {exempt : Option Nat} (upToDate : workspace.UpToDate unfitted exempt)
    (job : Job) : (workspace.submit job).UpToDate unfitted exempt := by
  rcases workspace.exists_submit job with ⟨jobs, messages, made⟩
  rw [made]
  exact { upToDate with }

/-- An edit leaves a view, or shows another one and fits its tab to it. -/
theorem displays_edited (upToDate : workspace.UpToDate unfitted none) {tab : Tab}
    (member : tab ∈ workspace.tabs) {result : Pipeline.Edited}
    (view : result.1.view = tab.view ∨ result.2 = .ok none) :
    (edited tab.id result).Leaves (displayed unfitted) workspace := by
  refine Ends.bind (Ends.modify ?_)
  rcases result with ⟨pipeline, problem | _ | request⟩
  · exact Ends.of_error rfl (.inl (upToDate.withPipeline member (view.resolve_right (by simp))))
  · exact displays_viewChanged (upToDate.exempting (.inl rfl) fun _ => rfl)
  · have changed := upToDate.withPipeline member (view.resolve_right (by simp))
    exact Ends.modify (displays_submit changed _)

/-- A new tab is fitted after its steps were asked for, if no fault stops this. -/
theorem displays_opened (upToDate : workspace.UpToDate unfitted (some id))
    (unmeasured : ∀ tab ∈ workspace.tabs, tab.id = id → tab.widths = []) {pipeline : Pipeline}
    (allowed : unfitted ∨ Keyed pipeline.steps) :
    (edited id pipeline.request >>= fun _ => viewChanged id).Leaves (displayed unfitted)
      workspace := by
  have changed : (workspace.updateTab id fun tab =>
      { tab with pipeline := pipeline.request.1 }).UpToDate unfitted (some id) :=
    upToDate.exempting (.inr rfl) fun _ => rfl
  refine Ends.bind (Ends.bind (Ends.modify ?_))
  cases made : pipeline.request.2 with
  | error problem =>
      have isAllowed : unfitted := by
        rcases allowed with isAllowed | keyed
        · exact isAllowed
        · rcases Pipeline.request_ok keyed with ⟨answer, isAnswer⟩
          cases isAnswer.symm.trans made
      refine Ends.of_error rfl (.inl (changed.unexempt isAllowed ?_))
      intro tab member same
      rcases List.mem_map.mp member with ⟨old, oldMember, rfl⟩
      split at same
      · next isOld =>
        rw [if_pos isOld]
        exact unmeasured old oldMember isOld
      · next different => exact absurd same different
  | ok answer =>
      cases answer with
      | none =>
          refine Ends.bind_pure ((displays_viewChanged changed).returning fun _ after shown => ?_)
          exact displays_viewChanged (shown.weaken id)
      | some request =>
          exact Ends.bind_pure (Ends.modify (displays_viewChanged (displays_submit changed _)))

/-! ### Acts that commands are made of -/

theorem displays_openSource (sound : workspace.Sound)
    (upToDate : workspace.UpToDate unfitted none) (source : Source) (steps : List Step) :
    (openSource source steps).Leaves (displayed unfitted) workspace := by
  refine Ends.bind_get (Ends.bind (Ends.of_ok rfl (Ends.bind (Ends.modify ?_))))
  have added : (workspace.addTab (workspace.sourceTab source steps)).UpToDate unfitted
      (some workspace.nextId) := upToDate.addTab sound rfl
  exact displays_viewChanged (displays_submit added _)

theorem displays_openTable (sound : workspace.Sound)
    (upToDate : workspace.UpToDate unfitted none) (table : Table) (name : String)
    {steps : List Step} (allowed : unfitted ∨ Keyed steps) :
    (openTable table name steps).Leaves (displayed unfitted) workspace := by
  refine Ends.bind_get (Ends.bind (Ends.of_ok rfl ?_))
  have added : (workspace.addTab (workspace.tableTab table name steps)).UpToDate unfitted
      (some workspace.nextId) := upToDate.addTab sound rfl
  cases steps with
  | nil => exact displays_viewChanged added
  | cons step steps => exact displays_opened added (sound.unmeasured_addTab rfl) allowed

theorem displays_duplicateTab (sound : workspace.Sound)
    (upToDate : workspace.UpToDate unfitted none)
    (allowed : unfitted ∨ ¬ Execution.Unkeyed workspace) :
    duplicateTab.Leaves (displayed unfitted) workspace := by
  refine Ends.reading (ends_requireLoaded fun _ => .inl upToDate) fun tab found => ?_
  have added : (workspace.addTab (workspace.copyTab tab)).UpToDate unfitted
      (some workspace.nextId) := upToDate.addTab sound rfl
  have isAllowed : unfitted ∨ Keyed tab.pipeline.steps := by
    refine allowed.imp_right fun keyed => ?_
    by_contra unkeyed
    exact keyed ⟨tab, found.1, found.2, unkeyed⟩
  refine Ends.bind_get (Ends.bind (Ends.of_ok rfl ?_))
  exact displays_opened added (sound.unmeasured_addTab rfl) isAllowed

theorem displays_closeTab (upToDate : workspace.UpToDate unfitted none) :
    closeTab.Leaves (displayed unfitted) workspace := by
  refine Ends.bind (Ends.discard ((ends_requireTab fun _ => .inl upToDate).returning ?_))
  rintro tab after ⟨rfl, _⟩
  exact Ends.bind (Ends.modify (displays_activated (upToDate.removeTab _)))

theorem displays_switchTab (upToDate : workspace.UpToDate unfitted none) (places : Int) :
    (switchTab places).Leaves (displayed unfitted) workspace := by
  refine Ends.bind_get (Ends.ite (fun _ => Ends.pure upToDate) fun _ => ?_)
  exact Ends.bind (Ends.modify (displays_activated { upToDate with }))

theorem displays_edit (upToDate : workspace.UpToDate unfitted none)
    {change : Pipeline → Pipeline.Edited} (isEdit : Pipeline.IsEdit change) :
    (edit change).Leaves (displayed unfitted) workspace :=
  Ends.reading (ends_requireLoaded fun _ => .inl upToDate) fun tab found =>
    displays_edited upToDate (List.mem_of_getElem? found.1) (isEdit.view tab.pipeline)

theorem displays_moveTo (row : Int) (column : Option Int) :
    Keeps (displayed unfitted) (moveTo row column) :=
  Keeps.bind Keeps.requireTab fun _ => Keeps.modify fun _ upToDate =>
    upToDate.updateTab (fun _ => rfl) (fun _ _ _ shown => shown.movedTo _ _) fun _ _ _ => ⟨rfl, rfl⟩

theorem displays_setStatus (status : String) : Keeps (displayed unfitted) (setStatus status) :=
  Keeps.modify fun _ upToDate => { upToDate with }

/-- Going to a match changes nothing but the place in the matches and the cursor. -/
theorem displays_showMatch (upToDate : workspace.UpToDate unfitted none)
    {result : Search × Option Coordinate} (visits : workspace.search.Visits result.1) :
    (showMatch result).Leaves (displayed unfitted) workspace := by
  have visited : (workspace.withSearch result.1).UpToDate unfitted none := { upToDate with
    search := upToDate.search.visits visits
    finds := fun tab isActive => (upToDate.finds tab isActive).imp_right
      (Or.imp_left fun finds => finds.visits visits) }
  have told (found : Bool) : Keeps (displayed unfitted)
      (setStatus result.1.summary >>= fun _ => pure found : Act Bool) :=
    Keeps.bind (displays_setStatus _) fun _ => Keeps.pure _
  refine Ends.bind (Ends.modify ?_)
  cases result.2 with
  | none => exact told _ _ visited
  | some cell => exact Keeps.bind (displays_moveTo _ _) (fun _ => told _) _ visited

theorem displays_find (text : String) (mode : Option Search.Mode) (caseSensitive : Option Bool) :
    Keeps (displayed unfitted) (find text mode caseSensitive) := by
  refine Keeps.bind_requireTab fun workspace tab upToDate isActive => Ends.bind_get ?_
  cases made : workspace.search.setQuery tab.view text mode caseSensitive with
  | error problem => exact Ends.of_error rfl (.inl upToDate)
  | ok search =>
      rcases Search.finds_setQuery made with ⟨coherent, finds⟩
      rw [upToDate.search.threshold] at coherent
      have found : (workspace.withSearch search).UpToDate unfitted none := { upToDate with
        search := coherent
        finds := fun other otherActive => by
          cases isActive.symm.trans otherActive
          exact .inr (.inl finds) }
      refine Ends.bind_pure (Ends.bind (Ends.modify ?_))
      exact displays_showMatch found (coherent.firstFrom tab.cursor)

theorem displays_findNext (backwards : Bool) :
    Keeps (displayed unfitted) (findNext backwards) := by
  refine Keeps.bind_requireTab fun workspace tab upToDate isActive => Ends.bind_get ?_
  refine Ends.check (Ends.of_error rfl (.inl upToDate)) fun _ => ?_
  apply displays_showMatch upToDate
  split
  · exact upToDate.search.previousFrom tab.cursor
  · exact upToDate.search.nextFrom tab.cursor

/-! ### Messages -/

theorem displays_loadFailed (id : Nat) (failure : Failure) :
    Keeps (displayed unfitted) (loadFailed id failure) := by
  intro workspace upToDate
  refine Ends.bind (Ends.modify (Ends.bind (Ends.modify (displays_activated ?_))))
  have told : (workspace.withStatus failure.statusText).Arranged unfitted none := { upToDate with }
  split
  · exact told.removeTab _
  · exact told

theorem displays_applyQueued (id : Nat) (steps : List Step) :
    Keeps (displayed unfitted) (applyQueued id steps) := by
  refine Keeps.bind_get fun workspace upToDate => ?_
  cases found : workspace.tabOf? id with
  | none => exact Ends.pure upToDate
  | some tab =>
      rcases Workspace.mem_of_tabOf? found with ⟨member, rfl⟩
      have edited := displays_edited upToDate member
        ((Pipeline.isEdit_replace steps).view tab.pipeline)
      exact Leaves.tryCatch edited (fun cause _ => displays_setStatus cause.statusText) fun _ => rfl

theorem displays_loaded (id : Nat) (result : JobResult) :
    Keeps (displayed unfitted) (loaded id result) := by
  refine Keeps.bind_get fun workspace upToDate => ?_
  cases workspace.tabOf? id with
  | none => exact Ends.pure upToDate
  | some tab =>
      have arrived : (workspace.updateTab id fun tab =>
          { tab with isLoading := false }).UpToDate unfitted none :=
        upToDate.updateTab (fun _ => rfl) (fun _ _ _ shown => shown.of_same rfl rfl rfl rfl)
          fun _ _ _ => ⟨rfl, rfl⟩
      have failed (failure : Failure) : Keeps (displayed unfitted)
          (loadFailed id failure >>= fun _ => pure true : Act Bool) :=
        Keeps.bind (displays_loadFailed id failure) fun _ => Keeps.pure _
      refine Ends.bind (Ends.modify ?_)
      cases result with
      | failed cause stepIndex => exact failed _ _ arrived
      | nothing => exact failed _ _ arrived
      | table table =>
          refine Ends.bind (Ends.modify (Ends.bind ?_))
          refine Ends.returning (displays_viewChanged ?_) fun _ after shown => ?_
          · exact arrived.exempting (.inl rfl) fun _ => rfl
          refine Ends.ite (fun _ => ?_) fun _ => Ends.pure shown
          exact Keeps.bind (displays_applyQueued id _) (fun _ => Keeps.pure _) after shown

/-- Dropping steps leaves the view, or shows that of the others and fits the tab to it. -/
theorem displays_evaluationFailed {tab : Tab} (upToDate : workspace.UpToDate unfitted none)
    (member : tab ∈ workspace.tabs) {generation : Nat} {stepIndex : Option Nat}
    {rejected : Pipeline} (isRejected : tab.pipeline.reject? generation stepIndex = some rejected)
    (failure : Failure) :
    (evaluationFailed tab.id rejected failure).Leaves (displayed unfitted) workspace := by
  have view : rejected.view = tab.view := by
    rw [(Pipeline.reject?_eq_some isRejected).2]
    rfl
  have dropped := upToDate.withPipeline member view
  let cut : Tab := { tab with pipeline := rejected }
  have cutMember : cut ∈ (workspace.updateTab tab.id fun tab => { tab with pipeline := rejected }).tabs :=
    List.mem_map.mpr ⟨tab, member, if_pos rfl⟩
  refine Ends.bind (Ends.modify (Ends.bind (Ends.modify ?_)))
  generalize workspace.updateTab tab.id _ = changed at dropped cutMember ⊢
  have told : (changed.withStatus failure.statusText).UpToDate unfitted none := { dropped with }
  refine Ends.bind ?_
  rw [Ends, run_ofFaulty]
  cases rejected.isDirty with
  | error fault => exact .inl told
  | ok isDirty =>
      refine Ends.ite (fun _ => ?_) fun _ => Ends.pure told
      exact displays_edited told cutMember rejected.view_request

theorem displays_evaluated (id generation : Nat) (steps : List Step) (result : JobResult) :
    Keeps (displayed unfitted) (evaluated id generation steps result) := by
  refine Keeps.bind_get fun workspace upToDate => ?_
  cases found : workspace.tabOf? id with
  | none => exact Ends.pure upToDate
  | some tab =>
      rcases Workspace.mem_of_tabOf? found with ⟨member, rfl⟩
      simp only
      cases result with
      | table table =>
          simp only
          cases tab.pipeline.install? generation steps table with
          | none => exact Ends.pure upToDate
          | some pipeline =>
              refine Ends.bind (Ends.modify (Leaves.bind ?_ fun _ => Keeps.pure _))
              exact displays_viewChanged (upToDate.exempting (.inl rfl) fun _ => rfl)
      | _ =>
          simp only
          split
          · next isRejected =>
            exact (displays_evaluationFailed upToDate member isRejected _).bind fun _ => Keeps.pure _
          · exact Ends.pure upToDate

theorem displays_receive (message : Message) : Keeps (displayed unfitted) (receive message) := by
  cases message with
  | loaded id result => exact displays_loaded id result
  | evaluated id generation steps result => exact displays_evaluated id generation steps result

theorem displays_deliver (place : Nat) : Keeps (displayed unfitted) (deliver place) := by
  refine Keeps.bind_get fun workspace upToDate => ?_
  cases workspace.messages[place]? with
  | none => exact Ends.pure upToDate
  | some message => exact Ends.bind (Ends.modify (displays_receive message _ { upToDate with }))

end Act

namespace Workspace

open Act

variable {workspace : Workspace} {unfitted : Prop}

theorem UpToDate.arriving (upToDate : workspace.UpToDate unfitted none) (arrival : Arrival) :
    (workspace.arriving arrival).UpToDate unfitted none := by
  cases arrival with
  | finish place =>
      simp only [Workspace.arriving]
      rcases workspace.finished_cases place with same | ⟨job, _, made⟩
      · rwa [same]
      · rw [made]
        exact { upToDate with }
  | deliver place => exact (displays_deliver place workspace upToDate).holds id

/-! ## Runs -/

theorem UpToDate.record (upToDate : workspace.UpToDate unfitted none) (line : String) :
    (workspace.record line).UpToDate unfitted none := by
  rcases workspace.exists_record line with ⟨history, made⟩
  rw [made]
  exact { upToDate with }

/-- What commands are made of keeps what is displayed up to date, copies of tabs apart. -/
theorem lasting_displayed (unfitted : Prop) : (soundly (displayed unfitted)).Lasting where
  record line := keeps_soundly (durable_soundness.record line) fun _ _ upToDate =>
    Ends.modify (UpToDate.record upToDate line)
  quit := keeps_soundly durable_soundness.quit fun _ _ upToDate =>
    Ends.modify { upToDate with }
  files files := keeps_soundly (durable_soundness.files files) fun _ _ upToDate =>
    Ends.modify { upToDate with }
  openSource source steps := keeps_soundly (keeps_openSource source steps)
    fun _ sound upToDate => displays_openSource sound upToDate source steps
  openTable table name := keeps_soundly (keeps_openTable table name [])
    fun _ sound upToDate => displays_openTable sound upToDate table name (.inr Keyed.nil)
  closeTab := keeps_soundly keeps_closeTab fun _ _ upToDate => displays_closeTab upToDate
  switchTab places := keeps_soundly (keeps_switchTab places)
    fun _ _ upToDate => displays_switchTab upToDate places
  edit isEdit := keeps_soundly (keeps_edit isEdit) fun _ _ upToDate => displays_edit upToDate isEdit
  moveTo row column := keeps_soundly (keeps_moveTo row column)
    fun workspace _ upToDate => displays_moveTo row column workspace upToDate
  find text mode caseSensitive := keeps_soundly (keeps_find text mode caseSensitive)
    fun workspace _ upToDate => displays_find text mode caseSensitive workspace upToDate
  findNext backwards := keeps_soundly (keeps_findNext backwards)
    fun workspace _ upToDate => displays_findNext backwards workspace upToDate

end Workspace

end TableBrowser
