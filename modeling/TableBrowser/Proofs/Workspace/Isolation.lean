import TableBrowser.Proofs.Workspace.Run
/-!
# Isolation of tabs

A message changes no tab but the one that it names, and none when that tab is not
there. The active tab stays the active one, also while tabs before it are taken
away; only when its own load fails another tab takes its place. Main statement:
this holds of every message in every state that a run reaches.
-/

namespace TableBrowser

/-- Whether a message tells that a source could not be loaded. -/
def Message.failsLoad : Message → Bool
  | .loaded _ (.table _) => false
  | .loaded _ _ => true
  | .evaluated .. => false

namespace Tab

variable {settings : Settings} {grid : Size} {tab after : Tab} {message : Message}
  {request : Option EvaluationRequest}

theorem answerRejected_ne_removed (rejected : Pipeline) :
    tab.answerRejected settings grid rejected ≠ .removed := by
  unfold answerRejected
  split <;> simp

/-- Nothing but a load that failed takes a tab away. -/
theorem answer_eq_removed_iff :
    tab.answer settings grid message = .removed ↔ message.failsLoad = true := by
  cases message with
  | loaded id result =>
      cases result with
      | table table =>
          simp only [answer, answerTable, Message.failsLoad]
          split <;> simp
      | failed cause stepIndex => simp [answer, Message.failsLoad]
      | nothing => simp [answer, Message.failsLoad]
  | evaluated id generation steps result =>
      cases result <;> simp only [answer, Message.failsLoad] <;> split <;>
        simp [answerRejected_ne_removed]

theorem id_edited (appearance : Appearance) (result : Pipeline.Edited) :
    (tab.edited appearance grid result).id = tab.id :=
  congrArg (·.1) (tab.work_edited appearance grid result)

theorem id_answerRejected {rejected : Pipeline}
    (answer : tab.answerRejected settings grid rejected = .becomes after request) :
    after.id = tab.id := by
  unfold answerRejected at answer
  split at answer
  · cases answer
    exact id_edited _ _
  · cases answer
    rfl

/-- A tab that answers keeps its id. -/
theorem id_answer (answer : tab.answer settings grid message = .becomes after request) :
    after.id = tab.id := by
  cases message with
  | loaded id result =>
      cases result with
      | table table =>
          simp only [Tab.answer, answerTable] at answer
          split at answer
          · cases answer
            rfl
          · cases answer
            exact id_edited _ _
      | failed cause stepIndex => cases answer
      | nothing => cases answer
  | evaluated id generation steps result =>
      cases result with
      | table table =>
          simp only [Tab.answer] at answer
          split at answer
          · cases answer
            rfl
          · cases answer
      | failed cause stepIndex =>
          simp only [Tab.answer] at answer
          split at answer
          · exact id_answerRejected answer
          · cases answer
      | nothing =>
          simp only [Tab.answer] at answer
          split at answer
          · exact id_answerRejected answer
          · cases answer

end Tab

namespace Workspace

variable {workspace : Workspace} {message : Message} {id index : Nat}

/-! ## Taking a tab away -/

/-- When another tab is taken away the active one stays active. -/
theorem activeTab?_removeTab_of_ne (inBounds : index < workspace.tabs.length)
    (place : workspace.active < workspace.tabs.length) (other : index ≠ workspace.active) :
    (workspace.removeTab index).activeTab? = workspace.activeTab? := by
  have length := List.length_eraseIdx_of_lt inBounds
  simp only [activeTab?, removeTab, length, List.getElem?_eraseIdx]
  by_cases before : index < workspace.active
  · rw [if_pos before, min_eq_left (by omega), if_neg (by omega)]
    congr 1
    omega
  · rw [if_neg before, min_eq_left (by omega), if_pos (by omega)]

/-- In the place of the active tab the next one becomes active, or else the last one. -/
theorem activeTab?_removeTab_active (place : workspace.active < workspace.tabs.length) :
    (workspace.removeTab workspace.active).activeTab? =
      workspace.tabs[workspace.active + 1]?.or
        (workspace.removeTab workspace.active).tabs.getLast? := by
  have length := List.length_eraseIdx_of_lt place
  simp only [activeTab?, removeTab, lt_irrefl, if_false, length]
  by_cases isLast : workspace.active + 1 = workspace.tabs.length
  · rw [min_eq_right (by omega), List.getElem?_eq_none (i := workspace.active + 1) (by omega),
      Option.none_or, List.getLast?_eq_getElem?, length]
  · rw [min_eq_left (by omega), List.getElem?_eraseIdx_of_ge (Nat.le_refl _),
      List.getElem?_eq_getElem (by omega)]
    rfl

/-! ## Other tabs -/

theorem filter_updateTab (change : Tab → Tab) (keepsId : ∀ tab, tab.id = id → (change tab).id = id) :
    (workspace.updateTab id change).tabs.filter (·.id ≠ id) = workspace.tabs.filter (·.id ≠ id) := by
  unfold updateTab
  induction workspace.tabs with
  | nil => rfl
  | cons tab tabs induction =>
      by_cases same : tab.id = id
      · simpa [same, keepsId tab same] using induction
      · simpa [same] using induction

/-- An answer changes no tab but the one that gives it. -/
theorem filter_answered (ids : (workspace.tabs.map (·.id)).Nodup) {answer : Answer}
    (keepsId : ∀ after request, answer = .becomes after request → after.id = id) :
    (workspace.answered id answer).tabs.filter (·.id ≠ id) = workspace.tabs.filter (·.id ≠ id) := by
  cases answer with
  | ignored => rfl
  | removed =>
      cases place : workspace.tabs.findIdx? (·.id = id) with
      | none => simp only [answered, place]
      | some index =>
          simp only [answered, place]
          change (workspace.tabs.eraseIdx index).filter _ = _
          rw [eraseIdx_eq_filter ids place, List.filter_filter]
          simp only [Bool.and_self]
  | becomes after request =>
      rw [answered, tabs_handOut]
      exact filter_updateTab _ fun _ _ => keepsId after request rfl

theorem filter_taking (ids : (workspace.tabs.map (·.id)).Nodup) :
    (workspace.taking message).tabs.filter (·.id ≠ message.tab) =
      workspace.tabs.filter (·.id ≠ message.tab) := by
  unfold taking
  cases found : workspace.tabOf? message.tab with
  | none => rfl
  | some tab =>
      refine filter_answered ids fun after request answer => ?_
      exact (Tab.id_answer answer).trans (mem_of_tabOf? found).2

/-! ## The active tab -/

theorem activeTab?_updateTab (change : Tab → Tab) :
    (workspace.updateTab id change).activeTab? =
      workspace.activeTab?.map fun tab => if tab.id = id then change tab else tab :=
  List.getElem?_map

theorem activeTab?_handOut (request : Option EvaluationRequest) :
    (workspace.handOut id request).activeTab? = workspace.activeTab? := by
  rcases workspace.exists_handOut id request with ⟨jobs, messages, made⟩
  rw [made]
  rfl

/-- An edit of the active tab leaves it active, as what the edit makes of it. -/
theorem activeTab?_edit {tab : Tab} (usable : workspace.search.Usable)
    (isActive : workspace.activeTab? = some tab) (isLoaded : tab.isLoading = false)
    (change : Pipeline → Pipeline.Edited) :
    (Act.edit change workspace).1 = ((change tab.pipeline).2.map fun _ => ()) ∧
      (Act.edit change workspace).2.activeTab? =
        some (tab.edited workspace.settings.appearance workspace.grid (change tab.pipeline)) := by
  rw [Act.run_edit isActive isLoaded]
  rcases Act.run_edited usable tab.id (change tab.pipeline) with ⟨search, _, made⟩
  rw [made]
  refine ⟨rfl, ?_⟩
  change (handOut _ _ _).activeTab? = _
  rw [activeTab?_handOut, activeTab?_updateTab, isActive, Option.map_some,
    if_pos rfl]

/-- What is left when the message takes the tab away that it names. -/
theorem taking_of_failsLoad {tab : Tab} (found : workspace.tabOf? message.tab = some tab)
    (isPlace : workspace.tabs.findIdx? (·.id = message.tab) = some index)
    (fails : message.failsLoad = true) :
    workspace.taking message = workspace.removeTab index := by
  unfold taking
  simp only [found, Tab.answer_eq_removed_iff.mpr fails, answered, isPlace]

/-- The active tab stays active, unless its own load has failed. -/
theorem activeId_taking {messages : Multiset Message} (framed : workspace.Framed messages)
    (others : message.failsLoad = true → workspace.activeTab?.map (·.id) ≠ some message.tab) :
    (workspace.taking message).activeTab?.map (·.id) = workspace.activeTab?.map (·.id) := by
  unfold taking
  cases found : workspace.tabOf? message.tab with
  | none => rfl
  | some tab =>
      have sameId := (mem_of_tabOf? found).2
      simp only
      cases answer : tab.answer workspace.settings workspace.grid message with
      | ignored => rfl
      | removed =>
          rcases findIdx?_of_tabOf? found with ⟨index, isPlace⟩
          have isTab := getElem?_of_place framed.ids found isPlace
          have inBounds := (List.getElem?_eq_some_iff.mp isTab).1
          have place := framed.place
          simp only [answered, isPlace]
          rw [activeTab?_removeTab_of_ne inBounds (by omega)]
          rintro rfl
          refine others (Tab.answer_eq_removed_iff.mp answer) ?_
          rw [activeTab?, isTab, Option.map_some, sameId]
      | becomes after request =>
          rw [answered, activeTab?_handOut, activeTab?_updateTab, Option.map_map]
          congr 1
          funext other
          simp only [Function.comp_apply]
          split
          · next isTab => rw [Tab.id_answer answer, sameId, isTab]
          · rfl

/-- The active tab stays active as what the message makes of it. -/
theorem activeTab?_taking_of_becomes {messages : Multiset Message}
    (framed : workspace.Framed messages) {tab after : Tab} {request : Option EvaluationRequest}
    (isActive : workspace.activeTab? = some tab) (names : message.tab = tab.id)
    (answer : tab.answer workspace.settings workspace.grid message = .becomes after request) :
    (workspace.taking message).activeTab? = some after := by
  have found : workspace.tabOf? message.tab = some tab := by
    rw [names, framed.tabOf?_eq (List.mem_of_getElem? isActive)]
  unfold taking
  simp only [found, answer, answered]
  rw [activeTab?_handOut, activeTab?_updateTab, isActive, Option.map_some, if_pos names.symm]

/-- The result that the active tab awaits is shown once it has come. -/
theorem Sound.activeTab?_delivered_latest (sound : workspace.Sound) {tab : Tab}
    (isActive : workspace.activeTab? = some tab) {place : Nat}
    (found : workspace.messages[place]? = some (tab.pipeline.latest.message tab.id)) {table : Table}
    (made : tab.pipeline.latest.run = .ok table) :
    (workspace.delivered place).activeTab? =
      some ({ tab with pipeline := tab.installed table }.measured workspace.settings.appearance
        workspace.grid) := by
  rcases sound.delivered_eq found with ⟨search, status, _, delivered⟩
  rw [delivered]
  exact activeTab?_taking_of_becomes (sound.without found).toFramed isActive rfl
    (Tab.answer_latest_ok _ _ made)

/-- When the load of the active tab has failed the next tab becomes active, or else the last one. -/
theorem activeTab?_taking_of_failsLoad {messages : Multiset Message}
    (framed : workspace.Framed messages) {tab : Tab} (isActive : workspace.activeTab? = some tab)
    (names : message.tab = tab.id) (fails : message.failsLoad = true) :
    (workspace.taking message).tabs = workspace.tabs.filter (·.id ≠ message.tab) ∧
      (workspace.taking message).activeTab? = workspace.tabs[workspace.active + 1]?.or
        (workspace.tabs.filter (·.id ≠ message.tab)).getLast? := by
  have inBounds := (List.getElem?_eq_some_iff.mp isActive).1
  have found : workspace.tabOf? message.tab = some tab := by
    rw [names, framed.tabOf?_eq (List.mem_of_getElem? isActive)]
  rcases findIdx?_of_tabOf? found with ⟨index, isPlace⟩
  have isTab := getElem?_of_place framed.ids found isPlace
  have samePlace : index = workspace.active := by
    have placed := (List.getElem?_eq_some_iff.mp isTab).1
    apply (List.getElem?_inj (by rwa [List.length_map]) framed.ids).mp
    rw [List.getElem?_map, List.getElem?_map, isTab, ← isActive]
    rfl
  subst samePlace
  have left : (workspace.removeTab workspace.active).tabs =
      workspace.tabs.filter (·.id ≠ message.tab) := eraseIdx_eq_filter framed.ids isPlace
  rw [taking_of_failsLoad found isPlace fails, activeTab?_removeTab_active inBounds, left]
  exact ⟨rfl, rfl⟩

/--
In every state that a run reaches, whatever is still to come, the ids of the tabs
are distinct and one of the tabs is active if there are any. A message changes no
tab but the one that it names, and nothing when that tab is not there. The active
tab stays active, unless the message tells that its own load has failed: then the
next tab becomes active, or the last one of those left.
-/
theorem isolated_receive_after (settings : Settings) (files : FileTree) (scheduling : Scheduling)
    (events : List Event) (jobs : List Job) (messages : List Message) (message : Message) :
    let before := { (start settings files scheduling).after events with jobs, messages }
    let after := (Act.receive message before).2
    (before.tabs.map (·.id)).Nodup ∧
    (before.tabs ≠ [] → before.active < before.tabs.length) ∧
    after.tabs.filter (·.id ≠ message.tab) = before.tabs.filter (·.id ≠ message.tab) ∧
    (before.tabOf? message.tab = none → Act.receive message before = (.ok false, before)) ∧
    (∀ tab, before.activeTab? = some tab → message.tab = tab.id → message.failsLoad = true →
      after.tabs = before.tabs.filter (·.id ≠ message.tab) ∧
      after.activeTab? = before.tabs[before.active + 1]?.or after.tabs.getLast?) ∧
    ((message.failsLoad = true → before.activeTab?.map (·.id) ≠ some message.tab) →
      after.activeTab?.map (·.id) = before.activeTab?.map (·.id)) := by
  intro before after
  have sound : ((start settings files scheduling).after events).Sound :=
    (sound_start settings files scheduling).after events
  have framed : before.Framed ((start settings files scheduling).after events).outstanding :=
    { sound.toFramed with }
  have place := framed.place
  rcases Act.run_receive framed.ids framed.search message with ⟨search, status, _, made⟩
  have tabs : after.tabs = (before.taking message).tabs := by
    change (Act.receive message before).2.tabs = _
    rw [made]
    rfl
  have active : after.activeTab? = (before.taking message).activeTab? := by
    change (Act.receive message before).2.activeTab? = _
    rw [made]
    rfl
  refine ⟨framed.ids, ?_, ?_, Act.receive_of_absent, ?_, ?_⟩
  · intro some
    have length := List.length_pos_iff.mpr some
    omega
  · rw [tabs]
    exact filter_taking framed.ids
  · intro tab isActive names fails
    rw [active, tabs]
    rcases activeTab?_taking_of_failsLoad framed isActive names fails with ⟨left, next⟩
    exact ⟨left, by rw [next, left]⟩
  · intro others
    rw [active]
    exact activeId_taking framed others

end Workspace

end TableBrowser
