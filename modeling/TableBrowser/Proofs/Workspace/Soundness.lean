import TableBrowser.Proofs.Pipeline.Soundness
import TableBrowser.Proofs.Search
import TableBrowser.Proofs.Workspace.Outstanding
/-!
# Sound workspaces

A tab is loading, with one load outstanding, or its table is there. Then all
outstanding evaluations are of requests that its pipeline has made, and the one
of the latest generation is outstanding exactly when it is awaited; otherwise
the view is that of the steps. A workspace is sound when its tabs are, with
respect to what is outstanding.
-/

namespace TableBrowser

/-! ## Tabs -/

/-- What a tab works on, without how it is shown. -/
def Tab.work (tab : Tab) : Nat × Pipeline × Bool := (tab.id, tab.pipeline, tab.isLoading)

/-- The table of a tab is still to come. -/
structure Tab.Loading (tab : Tab) (messages : Multiset Message) : Prop where
  load : loadCount messages tab.id = 1
  noEvaluation : evaluationsFor messages tab.id = 0

/-- The table of a tab is there. -/
structure Tab.Ready (tab : Tab) (messages : Multiset Message) : Prop where
  noLoad : loadCount messages tab.id = 0
  pipeline : tab.pipeline.Sound
  issued : ∀ message ∈ evaluationsFor messages tab.id,
    ∃ request, tab.pipeline.Issued request ∧ message = request.message tab.id
  /-- The evaluation that is awaited is outstanding, once. -/
  awaiting : tab.pipeline.pending = some tab.pipeline.generation →
    evaluationsOf messages tab.id tab.pipeline.generation = {tab.pipeline.latest.message tab.id}
  idle : tab.pipeline.pending ≠ some tab.pipeline.generation →
    evaluationsOf messages tab.id tab.pipeline.generation = 0
  settled : tab.pipeline.pending ≠ some tab.pipeline.generation → Keyed tab.pipeline.steps →
    tab.pipeline.Settled

def Tab.Sound (tab : Tab) (messages : Multiset Message) : Prop :=
  if tab.isLoading then tab.Loading messages else tab.Ready messages

theorem Tab.Sound.loading {tab : Tab} {messages : Multiset Message} (sound : tab.Sound messages)
    (isLoading : tab.isLoading = true) : tab.Loading messages := by
  rwa [Sound, if_pos isLoading] at sound

theorem Tab.Sound.ready {tab : Tab} {messages : Multiset Message} (sound : tab.Sound messages)
    (isLoaded : tab.isLoading = false) : tab.Ready messages := by
  rwa [Sound, if_neg (Bool.not_eq_true _ ▸ isLoaded)] at sound

theorem Tab.Ready.sound {tab : Tab} {messages : Multiset Message} (ready : tab.Ready messages)
    (isLoaded : tab.isLoading = false) : tab.Sound messages := by
  rwa [Sound, if_neg (Bool.not_eq_true _ ▸ isLoaded)]

/-- Messages that tell the same of a tab. -/
structure SameFor (id : Nat) (messages others : Multiset Message) : Prop where
  loads : loadCount others id = loadCount messages id
  evaluations : evaluationsFor others id = evaluationsFor messages id

theorem SameFor.evaluationsOf {id : Nat} {messages others : Multiset Message}
    (same : SameFor id messages others) (generation : Nat) :
    evaluationsOf others id generation = evaluationsOf messages id generation := by
  rw [evaluationsOf_eq_filter, evaluationsOf_eq_filter, same.evaluations]

theorem SameFor.symm {id : Nat} {messages others : Multiset Message}
    (same : SameFor id messages others) : SameFor id others messages :=
  ⟨same.loads.symm, same.evaluations.symm⟩

theorem Tab.Sound.of_same {tab other : Tab} {messages others : Multiset Message}
    (sound : tab.Sound messages) (sameWork : other.work = tab.work)
    (same : SameFor tab.id messages others) : other.Sound others := by
  simp only [Tab.work, Prod.mk.injEq] at sameWork
  rcases sameWork with ⟨sameId, samePipeline, sameLoading⟩
  cases isLoading : tab.isLoading with
  | true =>
      have loading := sound.loading isLoading
      rw [Sound, sameLoading, if_pos isLoading]
      exact {
        load := by rw [sameId, same.loads, loading.load]
        noEvaluation := by rw [sameId, same.evaluations, loading.noEvaluation] }
  | false =>
      have ready := sound.ready isLoading
      apply Ready.sound _ (sameLoading.trans isLoading)
      constructor
      · rw [sameId, same.loads, ready.noLoad]
      · exact samePipeline ▸ ready.pipeline
      · rw [sameId, same.evaluations, samePipeline]
        exact ready.issued
      · rw [sameId, same.evaluationsOf, samePipeline]
        exact ready.awaiting
      · rw [sameId, same.evaluationsOf, samePipeline]
        exact ready.idle
      · rw [samePipeline]
        exact ready.settled

/-- A tab with a table and no steps is settled. -/
theorem Tab.ready_start {tab : Tab} {messages : Multiset Message} {table : Table} {relation : String} {capacity : Nat}
    (start : tab.pipeline = .start table [] relation capacity)
    (noLoad : loadCount messages tab.id = 0) (noEvaluation : evaluationsFor messages tab.id = 0) :
    tab.Ready messages where
  noLoad := noLoad
  pipeline := by
    rw [start]
    exact Pipeline.sound_start table [] _ _
  issued message member := by
    rw [noEvaluation] at member
    cases member
  awaiting isAwaited := by
    rw [start] at isAwaited
    cases isAwaited
  idle _ := by
    rw [evaluationsOf_eq_filter, noEvaluation]
    rfl
  settled _ _ := by
    rw [start]
    exact ⟨rfl, rfl, rfl⟩

theorem sameFor_cons {messages : Multiset Message} {message : Message} {id : Nat}
    (other : message.tab ≠ id) : SameFor id messages (message ::ₘ messages) := by
  cases message with
  | loaded tab result =>
      constructor
      · rw [loadCount_loaded, if_neg (show tab ≠ id from other), Nat.add_zero]
      · exact evaluationsFor_loaded messages id tab result
  | evaluated tab generation steps result =>
      constructor
      · exact Multiset.countP_cons_of_neg messages (by simp [Message.isLoad])
      · exact Multiset.filter_cons_of_neg messages (by
          simpa [Message.isEvaluation, Message.tab] using other)

/-! ## Workspaces -/

namespace Workspace

/-- What holds of a workspace with some messages outstanding, the work of its tabs apart. -/
structure Framed (workspace : Workspace) (messages : Multiset Message) : Prop where
  ids : (workspace.tabs.map (·.id)).Nodup
  below : ∀ tab ∈ workspace.tabs, tab.id < workspace.nextId
  known : ∀ message ∈ messages, message.tab < workspace.nextId
  place : workspace.active ≤ workspace.tabs.length - 1
  search : workspace.search.Usable

structure SoundFor (workspace : Workspace) (messages : Multiset Message) : Prop
    extends Framed workspace messages where
  tabs : ∀ tab ∈ workspace.tabs, tab.Sound messages

def Sound (workspace : Workspace) : Prop := workspace.SoundFor workspace.outstanding

variable {workspace : Workspace} {messages others : Multiset Message}

theorem SoundFor.of_same (sound : workspace.SoundFor messages) {after : Workspace}
    (tabs : after.tabs.map Tab.work = workspace.tabs.map Tab.work)
    (nextId : after.nextId = workspace.nextId) (place : after.active ≤ after.tabs.length - 1)
    (search : after.search.Usable) (same : ∀ id, SameFor id messages others)
    (known : ∀ message ∈ others, message.tab < workspace.nextId) : after.SoundFor others := by
  have ids : after.tabs.map (·.id) = workspace.tabs.map (·.id) := by
    have first := congrArg (List.map (·.1)) tabs
    rw [List.map_map, List.map_map] at first
    exact first
  have origin {tab : Tab} (member : tab ∈ after.tabs) :
      ∃ old ∈ workspace.tabs, tab.work = old.work := by
    have inWork : tab.work ∈ workspace.tabs.map Tab.work := tabs ▸ List.mem_map_of_mem member
    rcases List.mem_map.mp inWork with ⟨old, oldMember, isWork⟩
    exact ⟨old, oldMember, isWork.symm⟩
  constructor
  · constructor
    · rw [ids]
      exact sound.ids
    · intro tab member
      rcases origin member with ⟨old, oldMember, sameWork⟩
      rw [nextId, show tab.id = old.id from congrArg (·.1) sameWork]
      exact sound.below old oldMember
    · rw [nextId]
      exact known
    · exact place
    · exact search
  · intro tab member
    rcases origin member with ⟨old, oldMember, sameWork⟩
    exact (sound.tabs old oldMember).of_same sameWork (same old.id)

/-- What shows the tabs differently leaves them sound. -/
theorem Sound.reshown (sound : workspace.Sound) {after : Workspace}
    (tabs : after.tabs.map Tab.work = workspace.tabs.map Tab.work)
    (nextId : after.nextId = workspace.nextId) (place : after.active ≤ after.tabs.length - 1)
    (search : after.search.Usable) (outstanding : after.outstanding = workspace.outstanding) :
    after.Sound := by
  apply sound.of_same tabs nextId place search
  · intro id
    rw [outstanding]
    exact ⟨rfl, rfl⟩
  · rw [outstanding]
    exact sound.known

theorem ids_updateTab {id : Nat} (change : Tab → Tab)
    (keepsId : ∀ tab, (change tab).id = tab.id) :
    (workspace.updateTab id change).tabs.map (·.id) = workspace.tabs.map (·.id) := by
  rw [updateTab, List.map_map]
  apply List.map_congr_left
  intro tab _
  simp only [Function.comp_apply]
  split
  · exact keepsId tab
  · rfl

theorem length_updateTab (id : Nat) (change : Tab → Tab) :
    (workspace.updateTab id change).tabs.length = workspace.tabs.length := List.length_map _

/-- One tab is changed, and the messages for the others stay the same. -/
theorem Framed.update (framed : workspace.Framed messages) {id : Nat} {change : Tab → Tab}
    (keepsId : ∀ tab, tab.id = id → (change tab).id = id)
    (rest : ∀ tab ∈ workspace.tabs, tab.id ≠ id → tab.Sound others)
    (known : ∀ message ∈ others, message.tab < workspace.nextId)
    (changed : ∀ tab ∈ workspace.tabs, tab.id = id → (change tab).Sound others) :
    (workspace.updateTab id change).SoundFor others := by
  have origin {tab : Tab} (member : tab ∈ (workspace.updateTab id change).tabs) :
      ∃ old ∈ workspace.tabs, tab = if old.id = id then change old else old := by
    rcases List.mem_map.mp member with ⟨old, oldMember, made⟩
    exact ⟨old, oldMember, made.symm⟩
  constructor
  · constructor
    · have ids : (workspace.updateTab id change).tabs.map (·.id) = workspace.tabs.map (·.id) := by
        simp only [updateTab, List.map_map]
        apply List.map_congr_left
        intro tab _
        simp only [Function.comp_apply]
        split
        · next same => rw [keepsId tab same, same]
        · rfl
      rw [ids]
      exact framed.ids
    · intro tab member
      rcases origin member with ⟨old, oldMember, rfl⟩
      have below := framed.below old oldMember
      split
      · next same => rwa [keepsId old same, ← same]
      · exact below
    · exact known
    · rw [length_updateTab]
      exact framed.place
    · exact framed.search
  · intro tab member
    rcases origin member with ⟨old, oldMember, rfl⟩
    split
    · next isChanged => exact changed old oldMember isChanged
    · next notChanged => exact rest old oldMember notChanged

/-- A tab is added under the next id. -/
theorem Framed.addTab (framed : workspace.Framed messages) {tab : Nat → Tab}
    (isNamed : (tab workspace.nextId).id = workspace.nextId)
    (known : ∀ message ∈ others, message.tab ≤ workspace.nextId) :
    (workspace.addTab tab).Framed others where
  ids := by
    simp only [Workspace.addTab, List.map_append, List.map_cons, List.map_nil, isNamed]
    apply List.nodup_append.mpr
    refine ⟨framed.ids, List.nodup_singleton _, ?_⟩
    intro id member new isNew same
    rcases List.mem_map.mp member with ⟨old, oldMember, rfl⟩
    rw [List.mem_singleton.mp isNew] at same
    exact absurd same (framed.below old oldMember).ne
  below := by
    intro other member
    rcases List.mem_append.mp member with old | isNew
    · exact Nat.lt_succ_of_lt (framed.below other old)
    · rw [List.mem_singleton.mp isNew, isNamed]
      exact Nat.lt_succ_self _
  known message member := Nat.lt_succ_of_le (known message member)
  place := by simp [Workspace.addTab]
  search := framed.search

theorem SoundFor.addTab (sound : workspace.SoundFor messages) {tab : Nat → Tab}
    (isNamed : (tab workspace.nextId).id = workspace.nextId)
    (rest : ∀ id ≠ workspace.nextId, SameFor id messages others)
    (known : ∀ message ∈ others, message.tab ≤ workspace.nextId)
    (added : (tab workspace.nextId).Sound others) : (workspace.addTab tab).SoundFor others where
  toFramed := sound.toFramed.addTab isNamed known
  tabs := by
    intro other member
    rcases List.mem_append.mp member with old | isNew
    · exact (sound.tabs other old).of_same rfl (rest other.id (sound.below other old).ne)
    · rw [List.mem_singleton.mp isNew]
      exact added

theorem Framed.removeTab (framed : workspace.Framed messages) {index : Nat}
    (rest : ∀ tab ∈ workspace.tabs.eraseIdx index, tab.Sound others)
    (known : ∀ message ∈ others, message.tab < workspace.nextId) :
    (workspace.removeTab index).SoundFor others := by
  have within : (workspace.removeTab index).tabs.Sublist workspace.tabs :=
    List.eraseIdx_sublist workspace.tabs index
  exact {
    ids := framed.ids.sublist (within.map _)
    below := fun tab member => framed.below tab (within.subset member)
    known
    place := Nat.min_le_right _ _
    search := framed.search
    tabs := rest }

/-- No message names a tab that has not been opened yet. -/
theorem Framed.fresh (framed : workspace.Framed messages) :
    loadCount messages workspace.nextId = 0 ∧ evaluationsFor messages workspace.nextId = 0 := by
  have others (message : Message) (member : message ∈ messages) :
      message.tab ≠ workspace.nextId := (framed.known message member).ne
  exact ⟨loadCount_eq_zero others, evaluationsFor_eq_zero others⟩

end Workspace

end TableBrowser
