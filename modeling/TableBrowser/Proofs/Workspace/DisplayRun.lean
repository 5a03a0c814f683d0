import TableBrowser.Proofs.Workspace.Display
/-!
# What is displayed after a run

Every event keeps what is displayed up to date, unless it opens a tab with steps
that have no content key: then the tab is left active without being fitted. Main
statements: after every run the matches can be gone through and made again, and
all tabs with widths are fitted; after a run that opens no such tab the matches
are those of the active view, and all tabs are fitted.
-/

namespace TableBrowser

namespace Workspace

variable {workspace : Workspace} {unfitted : Prop}

/-- Whether an event opens a tab with steps that have no content key. -/
def Event.OpensUnkeyed (workspace : Workspace) : Event → Prop
  | .openTable _ _ steps => ¬ Keyed steps
  | event => event.Copies workspace ∧ Execution.Unkeyed workspace

/-- Whether no event of a run opens a tab with steps that have no content key. -/
def OpensKeyed (workspace : Workspace) : List Event → Prop
  | [] => True
  | event :: events => ¬ event.OpensUnkeyed workspace ∧ (workspace.step event).OpensKeyed events

theorem Event.opensUnkeyed_of_copies {event : Event} (copies : event.Copies workspace)
    (unkeyed : Execution.Unkeyed workspace) : event.OpensUnkeyed workspace := by
  cases event with
  | openTable table name steps => exact copies.elim
  | _ => exact ⟨copies, unkeyed⟩

/-- Whatever happens, what is displayed stays up to date. -/
theorem UpToDate.step (upToDate : workspace.UpToDate unfitted none) (sound : workspace.Sound)
    (event : Event) (allowed : unfitted ∨ ¬ event.OpensUnkeyed workspace) :
    (workspace.step event).UpToDate unfitted none := by
  have left : event.act.Leaves (soundly (displayed unfitted)) workspace := by
    have lasting := lasting_displayed unfitted
    refine event.leaves_act lasting.toSteady ⟨sound, upToDate⟩ ?_ ?_ ?_ ?_ ?_
    · exact fun line isRecorded _ => lasting.noting ⟨sound, upToDate⟩ line isRecorded
    · intro copies history holds
      refine (Act.keeps_duplicateTab _ holds.1).soundly (Act.displays_duplicateTab holds.1 holds.2 ?_)
      exact allowed.imp_right fun keyed unkeyed => keyed (Event.opensUnkeyed_of_copies copies unkeyed)
    · rintro table name steps rfl
      refine (Act.keeps_openTable table name steps _ sound).soundly
        (Act.displays_openTable sound upToDate table name ?_)
      exact allowed.imp_right fun keyed => not_not.mp keyed
    · exact fun grid => ⟨Sound.resized sound grid, upToDate.resized grid⟩
    · exact fun arrival => ⟨sound.arriving arrival, upToDate.arriving arrival⟩
  exact (left.holds id).2

theorem UpToDate.after (upToDate : workspace.UpToDate unfitted none) (sound : workspace.Sound)
    (events : List Event) (allowed : unfitted ∨ workspace.OpensKeyed events) :
    (workspace.after events).UpToDate unfitted none := by
  induction events generalizing workspace with
  | nil => exact upToDate
  | cons event events induction =>
      refine induction (upToDate.step sound event ?_) (sound.step event) ?_
      · exact allowed.imp_right And.left
      · exact allowed.imp_right And.right

theorem upToDate_after (settings : Settings) (files : FileTree) (scheduling : Scheduling)
    (events : List Event) :
    ((start settings files scheduling).after events).UpToDate
      (¬ (start settings files scheduling).OpensKeyed events) none :=
  (upToDate_start _ settings files scheduling).after (sound_start ..) events (Classical.em _).symm

/-- A tab is not left without widths where that is not allowed, or where it has some. -/
theorem not_blank {keyed : Prop} {widths : List Nat} (covered : keyed ∨ widths ≠ []) :
    ¬ (¬ keyed ∧ widths = []) := by
  rintro ⟨unkeyed, blank⟩
  exact covered.elim unkeyed fun given => given blank

/-! ## Copies of steps without a key -/

/-- A copy whose steps have no key is left active with the base table, unfitted, and not searched. -/
theorem duplicate_of_not_keyed {tab : Tab} (isActive : workspace.activeTab? = some tab)
    (isLoaded : tab.isLoading = false) (unkeyed : ¬ Keyed tab.pipeline.steps) :
    (workspace.step .duplicate).search = workspace.search ∧
      ∃ copy, (workspace.step .duplicate).activeTab? = some copy ∧
        copy.view = tab.pipeline.base ∧ copy.widths = [] := by
  let pipeline := workspace.newPipeline tab.pipeline.base tab.pipeline.steps
  let failed : Pipeline := { pipeline with generation := pipeline.generation + 1 }
  have isStep : workspace.step .duplicate =
      ((Act.edited workspace.nextId pipeline.request >>= fun _ =>
        Act.viewChanged workspace.nextId) (workspace.addTab (workspace.copyTab tab))).2 := by
    simp only [Workspace.step, Event.act, Act.duplicateTab, Act.run_bind,
      Act.run_requireLoaded isActive isLoaded]
    rfl
  have unkeyedCopy : ¬ Keyed pipeline.steps := unkeyed
  rcases Pipeline.request_fails_of_not_keyed unkeyedCopy with ⟨fault, fails⟩
  have isLeft : workspace.step .duplicate =
      (workspace.addTab (workspace.copyTab tab)).updateTab workspace.nextId
        fun tab => { tab with pipeline := failed } := by
    rw [isStep, fails]
    rfl
  have isCopy : (workspace.addTab (workspace.copyTab tab)).activeTab? =
      some (workspace.copyTab tab workspace.nextId) := by simp [addTab, activeTab?]
  rw [isLeft]
  refine ⟨rfl, { workspace.copyTab tab workspace.nextId with pipeline := failed }, ?_, rfl, rfl⟩
  rw [activeTab?_updateTab, isCopy]
  exact congrArg some (if_pos rfl)

/-- Steps without a key take the place of others, and the view stays. -/
theorem activeTab?_replace_of_not_keyed (usable : workspace.search.Usable) {tab : Tab}
    (isActive : workspace.activeTab? = some tab) (isLoaded : tab.isLoading = false)
    {steps : List Step} (admitted : Pipeline.admitsAll steps = .ok ()) (unkeyed : ¬ Keyed steps) :
    (workspace.step (.replace steps)).activeTab? = some { tab with
      pipeline := { tab.pipeline with steps, generation := tab.pipeline.generation + 1 } } := by
  rcases tab.pipeline.replace_fails_of_not_keyed admitted unkeyed with ⟨fault, made⟩
  have active := (activeTab?_edit usable isActive isLoaded (·.replace steps)).2
  simp only [made] at active
  exact active

/-- A query without a match in the active view is the one that is searched for. -/
theorem step_find_none {tab : Tab} (isActive : workspace.activeTab? = some tab) (text : String)
    (mode : Search.Mode) (caseSensitive : Bool)
    (finds : Search.find workspace.search.threshold ⟨text, mode, caseSensitive⟩ tab.view = .ok []) :
    let found := workspace.step (.find text (some mode) (some caseSensitive))
    found.activeTab? = some tab ∧ found.search.query = ⟨text, mode, caseSensitive⟩ ∧
      found.search.found = [] := by
  let asked : Search := { workspace.search with
    query := ⟨text, mode, caseSensitive⟩, found := [], index := none }
  have made : workspace.search.setQuery tab.view text (some mode) (some caseSensitive) =
      .ok asked := by
    simp only [Search.setQuery, Option.getD_some, finds]
    rfl
  have isFound : workspace.step (.find text (some mode) (some caseSensitive)) =
      (workspace.withSearch asked).withStatus asked.summary := by
    simp only [Workspace.step, Event.act, Act.find, Act.requireTab, Act.run_discard, Act.run_bind,
      Act.run_get, Act.run_pure, isActive, made, Act.run_ofOutcome]
    rfl
  rw [isFound]
  exact ⟨isActive, rfl, rfl⟩

/-! ## The search -/

/--
After every run the current match is one of those found, none are found without a
query, and the search can be made again in every view. The matches are those of
the active view if no tab was opened with steps that have no content key, and
else whenever the active tab has widths.
-/
theorem search_describes_view_after (settings : Settings) (files : FileTree)
    (scheduling : Scheduling) (events : List Event) :
    let workspace := (start settings files scheduling).after events
    let search := workspace.search
    (search.query.text.isEmpty = true → search.found = []) ∧
    (∀ index, search.index = some index → index < search.found.length) ∧
    (search.query.mode = .regex → ∃ pattern,
      Search.pattern search.query.caseSensitive search.query.text = .ok pattern) ∧
    (∀ view, ∃ again, search.recompute view = .ok again ∧ again.Finds view) ∧
    (workspace.tabs ≠ [] → ∃ tab, workspace.activeTab? = some tab ∧
      ((start settings files scheduling).OpensKeyed events ∨ tab.widths ≠ [] →
        Search.find workspace.settings.fuzzyThreshold search.query tab.view =
          .ok search.found)) := by
  intro workspace search
  have sound : workspace.Sound := (sound_start settings files scheduling).after events
  have upToDate : workspace.UpToDate (¬ (start settings files scheduling).OpensKeyed events) none :=
    upToDate_after settings files scheduling events
  have coherent := upToDate.search
  refine ⟨coherent.empty, coherent.current, coherent.usable.exists_pattern, ?_, ?_⟩
  · intro view
    rcases coherent.usable.finds_recompute view with ⟨again, recomputed, _, finds⟩
    exact ⟨again, recomputed, finds⟩
  · intro some
    have length := List.length_pos_iff.mpr some
    have place := sound.place
    have inBounds : workspace.active < workspace.tabs.length := by omega
    have isActive := List.getElem?_eq_getElem inBounds
    refine ⟨_, isActive, fun covered => ?_⟩
    have finds := (upToDate.found isActive).resolve_right (not_blank covered)
    rw [Search.Finds, coherent.threshold] at finds
    exact finds

/-- A text of a column that was not selected is in the view of the copy, but not among the matches. -/
theorem unsearched_after_duplicate :
    let workspace := (start {} { surroundings := ⟨[], []⟩ } .immediate).after
      [.openTable .idAndName "t" [.selection], .arrive (.deliver 0), .replace [.mixedNote],
        .find "a" (some .literal) (some true), .duplicate]
    ∃ tab, workspace.activeTab? = some tab ∧ workspace.search.found = [] ∧
      Search.find workspace.settings.fuzzyThreshold workspace.search.query tab.view =
        .ok [⟨0, 1⟩] := by
  simp only [after, List.foldl_cons, List.foldl_nil]
  have sound := (sound_start {} { surroundings := ⟨[], []⟩ } .immediate).step
    (.openTable .idAndName "t" [.selection])
  have messages := messages_openTable {} { surroundings := ⟨[], []⟩ } .idAndName "t" keyed_selection
  rcases activeTab?_openTable {} { surroundings := ⟨[], []⟩ } .immediate .idAndName "t"
    .selection with ⟨tab, isActive, id, isLoaded, isPipeline⟩
  generalize (start {} { surroundings := ⟨[], []⟩ } .immediate).step
    (.openTable .idAndName "t" [.selection]) = opened at sound messages isActive ⊢
  have arrived : opened.messages[0]? = some (tab.pipeline.latest.message tab.id) := by
    rw [messages, isPipeline, id]
    rfl
  have made : tab.pipeline.latest.run = .ok ⟨[⟨"id", .null, [.null]⟩], by decide, by decide⟩ := by
    rw [EvaluationRequest.run, Pipeline.latest, isPipeline]
    simp only [Pipeline.relation_request, Pipeline.base_request, Pipeline.steps_request]
    exact applySteps_selection
  have shown : (opened.step (.arrive (.deliver 0))).activeTab? = _ :=
    sound.activeTab?_delivered_latest isActive arrived made
  have shownSound := sound.step (.arrive (.deliver 0))
  have replaced := activeTab?_replace_of_not_keyed shownSound.search shown isLoaded
    Pipeline.admitsAll_mixedNote not_keyed_mixedNote
  rcases step_find_none replaced "a" .literal true rfl with ⟨stillActive, query, noMatches⟩
  rcases duplicate_of_not_keyed stillActive isLoaded not_keyed_mixedNote with
    ⟨sameSearch, copy, isCopy, view, _⟩
  have base : copy.view = .idAndName := by
    rw [view]
    change tab.pipeline.base = _
    rw [isPipeline, Pipeline.base_request]
    rfl
  rw [← sameSearch] at query noMatches
  refine ⟨copy, isCopy, noMatches, ?_⟩
  rw [query, base]
  rfl

/-- A text that was found is found in a copy as well. -/
theorem search_after_find :
    let workspace := (start {} { surroundings := ⟨[], []⟩ } .deferred).after
      [.openTable .idAndName "t" [], .find "a" (some .literal) (some true), .duplicate]
    workspace.search.found = [⟨0, 1⟩] ∧ ∃ tab, workspace.activeTab? = some tab ∧
      Search.find workspace.settings.fuzzyThreshold workspace.search.query tab.view =
        .ok workspace.search.found := by
  intro workspace
  have opensKeyed : (start {} { surroundings := ⟨[], []⟩ } .deferred).OpensKeyed
      [.openTable .idAndName "t" [], .find "a" (some .literal) (some true), .duplicate] := by
    refine ⟨not_not.mpr Keyed.nil, fun copies => copies.1.elim, ?_, trivial⟩
    rintro ⟨_, tab, isActive, _, unkeyed⟩
    have noSteps : tab.pipeline.steps = [] := by
      cases isActive
      rfl
    rw [noSteps] at unkeyed
    exact unkeyed Keyed.nil
  have given : workspace.tabs ≠ [] := by
    intro none
    cases none
  rcases (search_describes_view_after {} { surroundings := ⟨[], []⟩ } .deferred
    [.openTable .idAndName "t" [], .find "a" (some .literal) (some true), .duplicate]).2.2.2.2 given
    with ⟨tab, isActive, describes⟩
  exact ⟨rfl, tab, isActive, describes (.inl opensKeyed)⟩

/-! ## Tabs -/

/--
After every run all tabs are fitted if no tab was opened with steps that have no
content key, and else those that have widths. The search for a window that shows
a column of such a tab ends, at the first window that does.
-/
theorem fitted_after (settings : Settings) (files : FileTree) (scheduling : Scheduling)
    (events : List Event) :
    let workspace := (start settings files scheduling).after events
    (∀ tab ∈ workspace.tabs, (start settings files scheduling).OpensKeyed events ∨ tab.widths ≠ [] →
      tab.Fitted workspace.grid) ∧
    ∀ tab ∈ workspace.tabs, ∀ column < tab.widths.length, ∀ left,
      Window.clamp left (tab.widths.length - 1) ≤ column →
      IsLeast {place | Window.clamp left (tab.widths.length - 1) ≤ place ∧
          column ∈ Window.fittingColumns tab.widths place workspace.grid.width}
        (Window.leftFor left column tab.widths workspace.grid.width) := by
  intro workspace
  have upToDate : workspace.UpToDate (¬ (start settings files scheduling).OpensKeyed events) none :=
    upToDate_after settings files scheduling events
  constructor
  · intro tab member covered
    exact (upToDate.shown member).resolve_right (not_blank covered)
  · exact fun tab _ column inView left ahead => Window.isLeast_leftFor inView ahead _

/-- A tab with a column, given steps without a key and then copied, has a copy without widths. -/
theorem unfitted_after_duplicate :
    let workspace := (start {} { surroundings := ⟨[], []⟩ } .deferred).after
      [.openTable .onlyId "t" [], .replace [.mixedNote], .duplicate]
    ∃ tab ∈ workspace.tabs, ¬ tab.Fitted workspace.grid := by
  let opened := (start {} { surroundings := ⟨[], []⟩ } .deferred).step (.openTable .onlyId "t" [])
  have sound : opened.Sound := (sound_start ..).step _
  rcases activeTab?_openTable_nil {} { surroundings := ⟨[], []⟩ } .deferred .onlyId "t" with
    ⟨tab, isActive, isLoaded, isPipeline⟩
  have replaced := activeTab?_replace_of_not_keyed sound.search isActive isLoaded
    Pipeline.admitsAll_mixedNote not_keyed_mixedNote
  rcases duplicate_of_not_keyed replaced isLoaded not_keyed_mixedNote with
    ⟨_, copy, isCopy, view, widths⟩
  simp only [after, List.foldl_cons, List.foldl_nil]
  refine ⟨copy, List.mem_of_getElem? isCopy, fun fitted => ?_⟩
  have columns := fitted.widths
  rw [widths, view, isPipeline] at columns
  cases columns

/-- A tab is fitted although the evaluation of its step has not come, and so is its copy. -/
theorem fitted_after_duplicate :
    let workspace := (start {} { surroundings := ⟨[], []⟩ } .deferred).after
      [.openTable .onlyId "t" [.selection], .duplicate]
    ∀ tab ∈ workspace.tabs, tab.Fitted workspace.grid := by
  intro workspace
  have opensKeyed : (start {} { surroundings := ⟨[], []⟩ } .deferred).OpensKeyed
      [.openTable .onlyId "t" [.selection], .duplicate] := by
    refine ⟨not_not.mpr keyed_selection, ?_, trivial⟩
    rintro ⟨_, tab, isActive, _, unkeyed⟩
    rcases activeTab?_openTable {} { surroundings := ⟨[], []⟩ } .deferred .onlyId "t" .selection with
      ⟨only, onlyActive, _, _, isPipeline⟩
    cases isActive.symm.trans onlyActive
    rw [isPipeline, Pipeline.steps_request] at unkeyed
    exact unkeyed keyed_selection
  exact fun tab member => (fitted_after {} { surroundings := ⟨[], []⟩ } .deferred _).1 tab member
    (.inl opensKeyed)

end Workspace

end TableBrowser
