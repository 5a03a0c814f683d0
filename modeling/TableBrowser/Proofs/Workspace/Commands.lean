import TableBrowser.Proofs.Workspace.Edits
import TableBrowser.Workspace.Execution
/-!
# Acts and commands on sound workspaces

Whatever the user does leaves a sound workspace behind, also when it fails: tabs
are opened, edited and closed soundly, and nothing else touches the work of a
tab. Main statement: executing a command line keeps a workspace sound.
-/

namespace TableBrowser

namespace Workspace

variable {workspace : Workspace}

theorem Sound.updateTab (sound : workspace.Sound) (id : Nat) (change : Tab → Tab)
    (keepsWork : ∀ tab, (change tab).work = tab.work) : (workspace.updateTab id change).Sound := by
  have works : (workspace.updateTab id change).tabs.map Tab.work = workspace.tabs.map Tab.work := by
    simp only [Workspace.updateTab, List.map_map]
    apply List.map_congr_left
    intro tab _
    simp only [Function.comp_apply]
    split
    · exact keepsWork tab
    · rfl
  refine sound.reshown works rfl ?_ sound.search rfl
  rw [length_updateTab]
  exact sound.place

theorem Sound.resized (sound : workspace.Sound) (grid : Size) : (workspace.resized grid).Sound := by
  refine sound.reshown ?_ rfl ?_ sound.search rfl
  · simp only [Workspace.resized, List.map_map]
    rfl
  · simp only [Workspace.resized, List.length_map]
    exact sound.place

/-- Other files give loads other results, and nothing else. -/
theorem Sound.withFiles (sound : workspace.Sound) (files : FileTree) :
    Workspace.Sound { workspace with files } := by
  refine SoundFor.of_same sound rfl rfl sound.place sound.search ?_ ?_
  · exact fun id => ⟨workspace.loadCount_files files id, workspace.evaluationsFor_files files id⟩
  · intro message member
    rcases exists_tab_files member with ⟨other, otherMember, same⟩
    rw [← same]
    exact sound.known other otherMember

theorem Sound.removeTab (sound : workspace.Sound) (index : Nat) : (workspace.removeTab index).Sound :=
  Framed.removeTab sound.toFramed (fun tab member => sound.tabs tab (List.mem_of_mem_eraseIdx member))
    sound.known

/-- Soundness is not lost at a fault either. -/
def soundness : Invariant where
  holds := Sound
  fragile := False

/-! ## The tabs that are opened -/

variable (workspace)

/-- A tab that shows nothing yet and waits for its source, with the steps to apply then. -/
def sourceTab (source : Source) (steps : List Step) (id : Nat) : Tab := {
  id, name := source.name, pipeline := workspace.newPipeline .empty [], source := some source
  isLoading := true, queuedSteps := steps }

def tableTab (table : Table) (name : String) (steps : List Step) (id : Nat) : Tab :=
  { id, name, pipeline := workspace.newPipeline table steps }

/-- A copy keeps the place that is shown, and starts a pipeline of its own. -/
def copyTab (tab : Tab) (id : Nat) : Tab := {
  id, name := tab.name, pipeline := workspace.newPipeline tab.pipeline.base tab.pipeline.steps
  source := tab.source, cursor := tab.cursor, scroll := tab.scroll }

end Workspace

namespace Act

open Workspace (Sound soundness)

variable {α : Type}

/-! ## Views -/

theorem keeps_setStatus (status : String) : Keeps soundness (setStatus status) :=
  Keeps.modify fun _ sound => Sound.withStatus sound status

theorem keeps_activated : Keeps soundness activated := by
  refine Keeps.always fun workspace sound => ?_
  rcases run_activated sound.search with ⟨search, usable, made⟩
  rw [made]
  exact Sound.withSearch sound usable

theorem keeps_viewChanged (id : Nat) : Keeps soundness (viewChanged id) := by
  refine Keeps.always fun workspace sound => ?_
  rcases run_viewChanged sound.search id with ⟨search, usable, made⟩
  rw [made]
  have fitted := Sound.updateTab sound id
    (Tab.measured workspace.settings.appearance workspace.grid) fun _ => rfl
  exact fitted.withSearch usable

/-! ## Opening and closing tabs -/

theorem keeps_openSource (source : Source) (steps : List Step) :
    Keeps soundness (openSource source steps) := by
  apply Keeps.bind_get
  intro workspace sound
  rcases sound.fresh with ⟨noLoad, noEvaluation⟩
  have added : (workspace.addTab (workspace.sourceTab source steps)).SoundFor
      ((Job.load workspace.nextId source).run workspace.files ::ₘ workspace.outstanding) := by
    apply sound.addTab rfl
    · exact fun id different => sameFor_cons (fun same => different same.symm)
    · intro message member
      rcases Multiset.mem_cons.mp member with isNew | old
      · rw [isNew]
        exact Nat.le_refl _
      · exact (sound.known message old).le
    · exact {
        load := by simp [Job.run, Workspace.sourceTab, loadCount_loaded, noLoad]
        noEvaluation := by simp [Job.run, Workspace.sourceTab, noEvaluation] }
  refine Ends.bind (Ends.of_ok rfl (Ends.bind (Ends.modify ?_)))
  exact keeps_viewChanged workspace.nextId _ (Workspace.SoundFor.submit added)

/-- A tab that is opened with steps asks for their evaluation at once. -/
theorem sound_opened {workspace : Workspace} (sound : workspace.Sound) (tab : Nat → Tab)
    (isNamed : (tab workspace.nextId).id = workspace.nextId)
    (isLoaded : (tab workspace.nextId).isLoading = false) {pipeline : Pipeline}
    (consistent : pipeline.Consistent) :
    (edited workspace.nextId pipeline.request (workspace.addTab tab)).2.Sound := by
  rcases sound.fresh with ⟨noLoad, noEvaluation⟩
  have framed : (workspace.addTab tab).Framed (workspace.addTab tab).outstanding :=
    sound.toFramed.addTab isNamed fun message member => (sound.known message member).le
  have origin {other : Tab} (member : other ∈ (workspace.addTab tab).tabs) :
      (other ∈ workspace.tabs ∧ other.id ≠ workspace.nextId) ∨ other = tab workspace.nextId := by
    rcases List.mem_append.mp member with old | isNew
    · exact .inl ⟨old, (sound.below other old).ne⟩
    · exact .inr (List.mem_singleton.mp isNew)
  apply framed.edited
  · intro other member different
    rcases origin member with ⟨old, _⟩ | isNew
    · exact sound.tabs other old
    · rw [isNew, isNamed] at different
      exact absurd rfl different
  · intro other member same
    rcases origin member with ⟨_, different⟩ | isNew
    · exact absurd same different
    · have isOpen : (tab workspace.nextId).Open pipeline workspace.outstanding := {
        isLoaded
        noLoad := by rw [isNamed, noLoad]
        consistent
        issued := fun message messageMember => by
          rw [isNamed, noEvaluation] at messageMember
          cases messageMember }
      have opened := isOpen.sound workspace.settings.appearance workspace.grid
      rw [isNamed] at opened
      rw [isNew]
      exact opened
  · exact Nat.lt_succ_self _

theorem keeps_openTable (table : Table) (name : String) (steps : List Step) :
    Keeps soundness (openTable table name steps) := by
  apply Keeps.bind_get
  intro workspace sound
  have pipelineSound : (workspace.newPipeline table steps).Sound :=
    Pipeline.sound_start table steps _ _
  refine Ends.bind (Ends.of_ok rfl ?_)
  cases steps with
  | nil =>
      have added : (workspace.addTab (workspace.tableTab table name [])).Sound := by
        apply Workspace.SoundFor.addTab sound rfl (fun id _ => ⟨rfl, rfl⟩)
          fun message member => (sound.known message member).le
        rcases sound.fresh with ⟨noLoad, noEvaluation⟩
        have ready : (workspace.tableTab table name [] workspace.nextId).Ready
            workspace.outstanding := Tab.ready_start rfl noLoad noEvaluation
        exact ready.sound rfl
      exact keeps_viewChanged workspace.nextId _ added
  | cons step steps =>
      have asked := sound_opened sound (workspace.tableTab table name (step :: steps)) rfl rfl
        pipelineSound.toConsistent
      exact (Leaves.always asked).bind fun _ => keeps_viewChanged workspace.nextId

theorem keeps_duplicateTab : Keeps soundness duplicateTab := by
  refine Keeps.bind_requireLoaded fun workspace tab sound _ _ => ?_
  have pipelineSound : (workspace.copyTab tab workspace.nextId).pipeline.Sound :=
    Pipeline.sound_start _ _ _ _
  have asked := sound_opened sound (workspace.copyTab tab) rfl rfl pipelineSound.toConsistent
  refine Ends.bind_get (Ends.bind (Ends.of_ok rfl ?_))
  exact (Leaves.always asked).bind fun _ => keeps_viewChanged workspace.nextId

theorem keeps_closeTab : Keeps soundness closeTab := by
  refine Keeps.bind (Keeps.discard Keeps.requireTab) fun _ => ?_
  exact Keeps.bind (Keeps.modify fun _ sound => Sound.removeTab sound _) fun _ => keeps_activated

theorem keeps_switchTab (places : Int) : Keeps soundness (switchTab places) := by
  apply Keeps.bind_get
  intro workspace sound
  cases noTabs : workspace.tabs.isEmpty with
  | true => exact Ends.pure sound
  | false =>
      have positive : 0 < workspace.tabs.length := by
        cases tabs : workspace.tabs with
        | nil => simp [tabs] at noTabs
        | cons tab tabs => simp
      let switched : Workspace := { workspace with
        active := ((workspace.active + places) % workspace.tabs.length).toNat }
      have switchedSound : switched.Sound := by
        refine Workspace.Sound.reshown sound rfl rfl ?_ sound.search rfl
        have least := Int.emod_nonneg (workspace.active + places)
          (by omega : (workspace.tabs.length : Int) ≠ 0)
        have most := Int.emod_lt_of_pos (workspace.active + places)
          (by omega : 0 < (workspace.tabs.length : Int))
        change ((workspace.active + places) % workspace.tabs.length).toNat ≤
          workspace.tabs.length - 1
        omega
      exact Ends.bind (Ends.modify (keeps_activated switched switchedSound))

/-! ## Edits of the pipeline -/

theorem run_requireLoaded {workspace : Workspace} {tab : Tab}
    (isActive : workspace.activeTab? = some tab) (isLoaded : tab.isLoading = false)
    (wanted : WantedFor) : requireLoaded wanted workspace = (.ok tab, workspace) := by
  simp [requireLoaded, requireTab, run_bind, isActive, isLoaded]

theorem run_edit {workspace : Workspace} {tab : Tab} (isActive : workspace.activeTab? = some tab)
    (isLoaded : tab.isLoading = false) (change : Pipeline → Pipeline.Edited) :
    edit change workspace = edited tab.id (change tab.pipeline) workspace := by
  rw [edit, run_bind, run_requireLoaded isActive isLoaded]

theorem keeps_edit {change : Pipeline → Pipeline.Edited} (isEdit : Pipeline.IsEdit change) :
    Keeps soundness (edit change) :=
  Keeps.bind_requireLoaded fun _ _ sound isActive isLoaded =>
    Leaves.always (Sound.edit sound (List.mem_of_getElem? isActive) isLoaded isEdit)

/-! ## The cursor and the search -/

theorem keeps_moveTo (row : Int) (column : Option Int) : Keeps soundness (moveTo row column) :=
  Keeps.bind Keeps.requireTab fun tab =>
    Keeps.modify fun _ sound => Sound.updateTab sound tab.id _ fun _ => rfl

theorem keeps_setSearch {search : Search} (usable : search.Usable) :
    Keeps soundness (setSearch search) :=
  Keeps.modify fun _ sound => Sound.withSearch sound usable

theorem keeps_showMatch {result : Search × Option Coordinate} (usable : result.1.Usable) :
    Keeps soundness (showMatch result) := by
  apply Keeps.bind (keeps_setSearch usable)
  intro _
  cases result.2 with
  | none => exact Keeps.bind (keeps_setStatus _) fun _ => Keeps.pure _
  | some cell =>
      exact Keeps.bind (keeps_moveTo _ _) fun _ =>
        Keeps.bind (keeps_setStatus _) fun _ => Keeps.pure _

theorem keeps_find (text : String) (mode : Option Search.Mode) (caseSensitive : Option Bool) :
    Keeps soundness (find text mode caseSensitive) := by
  apply Keeps.bind Keeps.requireTab
  intro tab
  refine Keeps.bind Keeps.get fun workspace => ?_
  apply Keeps.bind_ofOutcome
  intro search made
  have usable := Search.usable_setQuery made
  exact Keeps.bind (keeps_setSearch usable) fun _ =>
    keeps_showMatch (usable.of_query (search.query_firstFrom tab.cursor))

theorem keeps_findNext (backwards : Bool) : Keeps soundness (findNext backwards) := by
  apply Keeps.bind Keeps.requireTab
  intro tab
  apply Keeps.bind_get
  intro workspace sound
  have kept : Keeps soundness (showMatch (if backwards then workspace.search.previousFrom tab.cursor
      else workspace.search.nextFrom tab.cursor)) := by
    apply keeps_showMatch
    split
    · exact sound.search.of_query (workspace.search.query_previousFrom tab.cursor)
    · exact sound.search.of_query (workspace.search.query_nextFrom tab.cursor)
  exact Keeps.check (Keeps.fail _) kept workspace sound

end Act

end TableBrowser
