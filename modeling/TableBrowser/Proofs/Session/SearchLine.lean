import TableBrowser.Proofs.Session.Run
import TableBrowser.Proofs.Workspace.Isolation
/-!
# Leaving the line of a search

While the line of a search stays open, whatever happens, it goes back to what it
was opened from. Main statement: leaving it restores the search and the cursor
of that moment, which agree with the active view exactly when the cursor is a
cell of this view and the matches are those in it; a view that has been replaced
in the meantime is not searched again.
-/

namespace TableBrowser

/-- A cell of the view, or the corner of a view without cells. -/
def Coordinate.Within (cell : Coordinate) (view : Table) : Prop :=
  cell.row < max view.rowCount 1 ∧ cell.column < max view.columnCount 1

namespace Session

/-- What the search goes back to when it is opened. -/
def here (session : Session) : SearchOrigin where
  search := session.workspace.search
  place := session.workspace.activeTab?.map fun tab => (tab.cursor, tab.scroll)

/-- The line of a search is open and goes back to an origin. -/
structure Searching (origin : SearchOrigin) (session : Session) : Prop where
  mode : session.mode = .search
  origin : session.origin = some origin

/-- The line still goes back to the origin, unless it has been left. -/
def Kept (origin : SearchOrigin) (session : Session) : Prop :=
  session.origin = some origin ∨ session.mode = .navigation

variable {origin : SearchOrigin} {session : Session}

theorem Kept.searching (kept : session.Kept origin) (isSearching : session.mode = .search) :
    session.Searching origin :=
  ⟨isSearching, kept.resolve_right fun navigates => by cases isSearching.symm.trans navigates⟩

end Session

/-! ## Keys -/

namespace SessionAct

open Session (Searching Kept)

variable {α : Type} {origin : SearchOrigin} {session : Session}

/-- Where the line of a search goes back to, whatever the mode. -/
abbrev Returns (origin : SearchOrigin) (session : Session) : Prop := session.origin = some origin

abbrev Navigates (session : Session) : Prop := session.mode = .navigation

theorem returns_ofAct (act : Act α) : Keeps (Returns origin) (ofAct act) := fun _ isHeld => isHeld

theorem returns_lineChanged : Keeps (Returns origin) lineChanged :=
  Keeps.bind Keeps.get fun _ => Keeps.ite (returns_ofAct _) (Keeps.pure _)

theorem returns_modifyLine (change : LineBuffer → LineBuffer) :
    Keeps (Returns origin) (modifyLine change) := Keeps.modify fun _ isHeld => isHeld

theorem returns_modifyQuery (change : Search.Query → Search.Query) :
    Keeps (Returns origin) (modifyQuery change) :=
  Keeps.bind (Keeps.modify fun _ isHeld => isHeld) fun _ => returns_lineChanged

theorem returns_quit : Keeps (Returns origin) quit :=
  Keeps.bind (Keeps.modify fun _ isHeld => isHeld) fun _ => Keeps.modify fun _ isHeld => isHeld

theorem returns_drain : Keeps (Returns origin) SessionAct.drain :=
  Keeps.bind (returns_ofAct _) fun _ => Keeps.bind Keeps.get fun _ =>
    Keeps.ite (Keeps.bind (Keeps.modify fun _ isHeld => isHeld) fun _ => Keeps.pure _)
      (Keeps.pure _)

theorem mode_record (workspace : Workspace) (line : String) :
    (workspace.record line).mode = workspace.mode := by
  unfold Workspace.record
  simp only
  repeat' split
  all_goals rfl

theorem navigates_closeLine (session : Session) : closeLine.Leaves Navigates session := rfl

/-- A search that is submitted is kept, and the line left. -/
theorem navigates_submit (isSearching : session.mode = .search) :
    submit.Leaves Navigates session := by
  have noted (line : String) : Keeps Navigates (modifyWorkspace (·.record line)) :=
    Keeps.modify fun session navigates => (mode_record session.workspace line).trans navigates
  have summarised : Keeps Navigates (modifyWorkspace fun workspace =>
      { workspace with status := workspace.search.summary }) :=
    Keeps.modify fun _ navigates => navigates
  refine Leaves.bind_get (Leaves.bind_get ((navigates_closeLine session).bind fun _ => ?_))
  rw [if_pos isSearching]
  exact Keeps.ite (Keeps.bind (noted _) fun _ => summarised) summarised

/-- The session after its search line has been left without a search. -/
def left (session : Session) (origin : SearchOrigin) : Session :=
  { session with
    workspace := { restored origin session.workspace with mode := .navigation }
    origin := none }

theorem run_cancel (searching : session.Searching origin) :
    cancel session = (.ok (), left session origin) := by
  simp only [cancel, Act.run_bind, run_get, searching.mode, searching.origin]
  rfl

theorem run_backspace_empty (searching : session.Searching origin)
    (isEmpty : session.line.text = []) (key : String) :
    perform .backspace key session = (.ok (), left session origin) := by
  have ran : backspace session = (.ok (), left session origin) := by
    simp only [backspace, Act.run_bind, run_get, isEmpty, List.isEmpty_nil, if_pos,
      run_cancel searching]
  have unchanged : lineChanged (left session origin) = (.ok (), left session origin) := rfl
  simp only [perform, Act.run_bind, ran, unchanged]

theorem kept_backspace (searching : session.Searching origin) (key : String) :
    (perform .backspace key).Leaves (Kept origin) session := by
  by_cases isEmpty : session.line.text = []
  · rw [Leaves, run_backspace_empty searching isEmpty]
    exact .inr rfl
  · have edited : (backspace >>= fun _ => lineChanged).Leaves (Returns origin) session := by
      refine Leaves.bind (Leaves.bind_get ?_) fun _ => returns_lineChanged
      rw [if_neg (by simpa using isEmpty)]
      exact returns_modifyLine _ session searching.origin
    exact .inl edited

/-- The actions that keys have while the line of a search is open. -/
def searchActions : List Action := [.cycleSearchMode, .toggleCase, .submit, .cancel, .backspace,
  .cursorLeft, .cursorRight, .lineStart, .lineEnd, .quit]

theorem mem_searchActions {press : KeyPress} {action : Action}
    (called : (Keymap.ofMode .search).action? press = some action) : action ∈ searchActions := by
  have each : ∀ binding ∈ Keymap.ofMode .search, binding.2 ∈ searchActions := by decide
  exact each _ (Keymap.mem_of_action? called)

theorem kept_press (searching : session.Searching origin) (press : KeyPress) :
    (SessionAct.press press).Leaves (Kept origin) session := by
  have returning {act : SessionAct Unit} (kept : Keeps (Returns origin) act) :
      act.Leaves (Kept origin) session := .inl (kept session searching.origin)
  refine Leaves.bind_get ?_
  rw [searching.mode]
  simp only
  split
  · next action called =>
    have member := mem_searchActions called
    simp only [searchActions, List.mem_cons, List.not_mem_nil, or_false] at member
    rcases member with rfl | rfl | rfl | rfl | rfl | rfl | rfl | rfl | rfl | rfl
    · exact returning (returns_modifyQuery _)
    · exact returning (returns_modifyQuery _)
    · exact .inr (navigates_submit searching.mode)
    · rw [perform, Leaves, run_cancel searching]
      exact .inr rfl
    · exact kept_backspace searching press.key
    · exact returning (returns_modifyLine _)
    · exact returning (returns_modifyLine _)
    · exact returning (returns_modifyLine _)
    · exact returning (returns_modifyLine _)
    · exact returning returns_quit
  · refine returning (Keeps.ite ?_ (Keeps.pure _))
    exact Keeps.bind (returns_modifyLine _) fun _ => returns_lineChanged

theorem keeps_kept_shown (problem : Problem) : Keeps (Kept origin) (shown problem) := by
  cases problem with
  | failure cause stepIndex => exact fun session kept => kept
  | fault fault => exact Keeps.throw _

/-- A key leaves the line, or the line still goes back to where it did. -/
theorem kept_handle (searching : session.Searching origin) (press : KeyPress) :
    (SessionAct.handle (.key press)).Leaves (Kept origin) session :=
  Leaves.bind ((kept_press searching press).tryCatch keeps_kept_shown) fun _ =>
    Keeps.bind Keeps.get fun _ => Keeps.pure _

/-- The key that opens the line of a search. -/
def slash : KeyPress := { key := "/" }

theorem handle_slash (navigates : session.mode = .navigation) :
    (SessionAct.handle (.key slash) session).2 = (openSearchLine session).2 := by
  have called : (Keymap.ofMode .navigation).action? slash = some .searchLine := by decide +kernel
  have ran : SessionAct.press slash session = openSearchLine session :=
    Session.run_press (by rwa [navigates])
  simp only [SessionAct.handle, Act.run_bind, Act.run_tryCatch, ran]
  rfl

theorem searching_slash (navigates : session.mode = .navigation) :
    (SessionAct.handle (.key slash) session).2.Searching session.here := by
  rw [handle_slash navigates]
  exact ⟨rfl, rfl⟩

end SessionAct

/-! ## Leaving the line -/

namespace Session

open SessionAct

variable {origin : SearchOrigin} {session : Session}

/-- The key leaves the line of a search without a search. -/
def Leaves (session : Session) (press : KeyPress) : Prop :=
  (Keymap.ofMode .search).action? press = some .cancel ∨
    (Keymap.ofMode .search).action? press = some .backspace ∧ session.line.text = []

theorem step_leaving (searching : session.Searching origin) {press : KeyPress}
    (leaves : session.Leaves press) : session.step (.event (.key press)) = left session origin := by
  have ran : SessionAct.press press session = (.ok (), left session origin) := by
    rcases leaves with called | ⟨called, isEmpty⟩
    · rw [run_press (by rwa [searching.mode]), perform, run_cancel searching]
    · rw [run_press (by rwa [searching.mode]), run_backspace_empty searching isEmpty]
  simp only [step, SessionAct.handle, Act.run_bind, Act.run_tryCatch, ran]
  rfl

theorem Searching.step (searching : session.Searching origin) {happening : Happening}
    (staysOpen : (session.step happening).mode = .search) :
    (session.step happening).Searching origin := by
  refine ⟨staysOpen, ?_⟩
  cases happening with
  | event event =>
      cases event with
      | resize size => exact searching.origin
      | key press =>
          have kept : (session.step (.event (.key press))).Kept origin := kept_handle searching press
          exact (kept.searching staysOpen).origin
  | work event => exact searching.origin
  | drain => exact returns_drain session searching.origin
  | draw size =>
      rw [Session.step, draw]
      split
      · exact searching.origin
      · exact searching.origin

/-- The line of the search is still open after each of the things that happen. -/
def StaysOpen (session : Session) : List Happening → Prop
  | [] => True
  | happening :: happenings =>
      (session.step happening).mode = .search ∧ (session.step happening).StaysOpen happenings

/-- Whatever happens while the line stays open, it goes back to where it was opened. -/
theorem Searching.after (searching : session.Searching origin) {happenings : List Happening}
    (staysOpen : session.StaysOpen happenings) : (session.after happenings).Searching origin := by
  induction happenings generalizing session with
  | nil => exact searching
  | cons happening happenings induction =>
      exact induction (searching.step staysOpen.1) staysOpen.2

/-- The cursor is in the view that is shown, and the matches are those of this view. -/
def Consistent (session : Session) : Prop :=
  ∀ tab, session.workspace.activeTab? = some tab →
    tab.cursor.Within tab.view ∧ session.workspace.search.Finds tab.view

def view? (session : Session) : Option Table := session.workspace.activeTab?.map Tab.view

/-- The tab that is shown after the line has been left, with the cursor from before it was opened. -/
theorem activeTab?_left (session opened : Session) :
    (left session opened.here).workspace.activeTab? =
      session.workspace.activeTab?.map fun tab =>
        (opened.workspace.activeTab?.map fun before =>
          { tab with cursor := before.cursor, scroll := before.scroll }).getD tab := by
  have put : (left session opened.here).workspace.activeTab? =
      (restored opened.here session.workspace).activeTab? := rfl
  have sameActive : ({ session.workspace with search := opened.here.search } : Workspace).activeTab? =
      session.workspace.activeTab? := rfl
  rw [put]
  unfold restored
  simp only
  cases isActive : session.workspace.activeTab? with
  | none =>
      rw [isActive] at sameActive
      rw [sameActive]
      exact sameActive
  | some tab =>
      rw [isActive] at sameActive
      cases wasActive : opened.workspace.activeTab? with
      | none =>
          have noPlace : opened.here.place = none := by rw [here, wasActive]; rfl
          rw [noPlace, sameActive]
          exact sameActive
      | some before =>
          have isPlace : opened.here.place = some (before.cursor, before.scroll) := by
            rw [here, wasActive]
            rfl
          rw [isPlace, sameActive]
          simp only [Workspace.activeTab?_updateTab, sameActive, Option.map_some, if_pos,
            Option.getD_some]

/--
Leaving the line of a search brings back the search and the cursor from before
the line was opened. They agree with the active view exactly when the matches of
that search are those in this view and that cursor is in it; so it is when the
view is still the one that was shown then, and they agreed with it.
-/
theorem consistent_left_iff (session : Session) (navigates : session.mode = .navigation)
    (happenings : List Happening)
    (staysOpen : (session.step (.event (.key slash))).StaysOpen happenings) (press : KeyPress)
    (leaves : ((session.step (.event (.key slash))).after happenings).Leaves press) :
    let last := (session.step (.event (.key slash))).after happenings
    let left := last.step (.event (.key press))
    left.mode = .navigation ∧ left.workspace.search = session.workspace.search ∧
    (left.Consistent ↔ ∀ tab, last.workspace.activeTab? = some tab →
      (session.workspace.activeTab?.getD tab).cursor.Within tab.view ∧
        session.workspace.search.Finds tab.view) ∧
    (session.Consistent → last.view? = session.view? → left.Consistent) := by
  intro last left
  have opened : (session.step (.event (.key slash))).Searching session.here :=
    searching_slash navigates
  have searching : last.Searching session.here := opened.after staysOpen
  have isLeft : left = SessionAct.left last session.here := step_leaving searching leaves
  have search : left.workspace.search = session.workspace.search := by
    rw [isLeft]
    change (restored session.here last.workspace).search = _
    unfold restored
    simp only
    split <;> rfl
  have active : left.workspace.activeTab? = last.workspace.activeTab?.map fun tab =>
      (session.workspace.activeTab?.map fun before =>
        { tab with cursor := before.cursor, scroll := before.scroll }).getD tab := by
    rw [isLeft]
    exact activeTab?_left last session
  have consistent_iff : left.Consistent ↔ ∀ tab, last.workspace.activeTab? = some tab →
      (session.workspace.activeTab?.getD tab).cursor.Within tab.view ∧
        session.workspace.search.Finds tab.view := by
    unfold Consistent
    rw [active, search]
    cases last.workspace.activeTab? with
    | none => simp
    | some tab => cases session.workspace.activeTab? <;> simp [Tab.view]
  refine ⟨by rw [isLeft]; rfl, search, consistent_iff, fun consistent sameView => ?_⟩
  refine consistent_iff.mpr fun tab isActive => ?_
  have isView : session.view? = some tab.view := by
    rw [← sameView, view?, isActive]
    rfl
  rcases Option.map_eq_some_iff.mp isView with ⟨before, wasActive, same⟩
  rw [wasActive, ← same]
  exact consistent before wasActive

/-- A session with a text found in a table. -/
def finding : Session :=
  (start (Workspace.start {} { surroundings := ⟨[], []⟩ } .deferred) ⟨80, 24⟩).after [
    .work (.openTable .idAndName "t" []), .work (.find "a" (some .literal) (some true))]

/-- Another text is typed and the screen gets another size, then the line is left. -/
theorem consistent_left_typed :
    let happenings : List Happening := [.event (.key { key := "b" }), .event (.resize ⟨9, 3⟩)]
    finding.mode = .navigation ∧ (finding.step (.event (.key slash))).StaysOpen happenings ∧
    ((finding.step (.event (.key slash))).after happenings).Leaves { key := "Esc" } ∧
    (((finding.step (.event (.key slash))).after happenings).step
      (.event (.key { key := "Esc" }))).Consistent := by
  intro happenings
  have navigates : finding.mode = .navigation := by decide +kernel
  have staysOpen : (finding.step (.event (.key slash))).StaysOpen happenings :=
    ⟨by decide +kernel, by decide +kernel, trivial⟩
  have leaves : ((finding.step (.event (.key slash))).after happenings).Leaves { key := "Esc" } :=
    .inl (by decide +kernel)
  have shown : finding.workspace.activeTab?.map (fun tab => (tab.view, tab.cursor)) =
      some (.idAndName, ⟨0, 1⟩) := by decide +kernel
  have query : finding.workspace.search.query = ⟨"a", .literal, true⟩ := by decide +kernel
  have found : finding.workspace.search.found = [⟨0, 1⟩] := by decide +kernel
  have consistent : finding.Consistent := by
    intro tab isActive
    rw [isActive] at shown
    cases Prod.mk.inj (Option.some.inj shown) with
    | intro view cursor =>
        rw [Search.Finds, view, cursor, query, found]
        exact ⟨⟨by decide, by decide⟩, rfl⟩
  have sameView : ((finding.step (.event (.key slash))).after happenings).view? = finding.view? := by
    have before : finding.view? = some .idAndName := by decide +kernel
    rw [before]
    decide +kernel
  have left := consistent_left_iff finding navigates happenings staysOpen { key := "Esc" } leaves
  exact ⟨navigates, staysOpen, leaves, left.2.2.2 consistent sameView⟩

/-! ## A tab that is taken away -/

theorem load_missing : Source.load { surroundings := ⟨[], []⟩ } ⟨"x.csv", .csv, .null⟩ =
    .error (.failure (.load (.notFound "x.csv")) none) := by
  have missing : FileTree.fileExists { surroundings := ⟨[], []⟩ } "x.csv" = false := by
    have named : "x.csv".contains '\x00' = false := by simp
    unfold FileTree.fileExists FileTree.entry FileTree.locate
    simp only [named]
    rfl
  rw [Source.load, Source.checkExists, missing]
  rfl

/-- A text is searched for in a tab that is still empty, beside a table that has it. -/
def findingEarly : Session :=
  (start (Workspace.start {} { surroundings := ⟨[], []⟩ } .deferred) ⟨80, 24⟩).after [
    .work (.openTable .idAndName "t" []), .work (.openSource ⟨"x.csv", .csv, .null⟩ []),
    .work (.find "a" (some .literal) (some true))]

def openedEarly : Session := findingEarly.step (.event (.key slash))

/-- The source of the tab cannot be loaded, which is known while the line of a search is open. -/
def removing : Session :=
  { openedEarly with workspace := { openedEarly.workspace with
      jobs := [], messages := [.loaded 2 (.failed (.load (.notFound "x.csv")) none)] } }

theorem step_finish_openedEarly : openedEarly.step (.work (.arrive (.finish 0))) = removing := by
  have outstanding : openedEarly.workspace.jobs = [.load 2 ⟨"x.csv", .csv, .null⟩] := by
    with_unfolding_all rfl
  have messages : openedEarly.workspace.messages = [] := by with_unfolding_all rfl
  have files : openedEarly.workspace.files = { surroundings := ⟨[], []⟩ } := by
    with_unfolding_all rfl
  have failed : (Job.load 2 ⟨"x.csv", .csv, .null⟩).run openedEarly.workspace.files =
      .loaded 2 (.failed (.load (.notFound "x.csv")) none) := by
    rw [files, Job.run, load_missing]
    rfl
  have finished : openedEarly.workspace.finished 0 = removing.workspace := by
    simp only [Workspace.finished, Workspace.finish?, outstanding, messages, failed,
      List.getElem?_cons_zero, Option.map_some, Option.getD_some, List.nil_append,
      List.eraseIdx_cons_zero]
    rfl
  change { openedEarly with workspace := openedEarly.workspace.finished 0 } = removing
  rw [finished]
  rfl

/-- The tab is taken away while the line of a search is open, and the matches stay those in it. -/
theorem not_consistent_after_removal :
    findingEarly.mode = .navigation ∧
    ¬ (((findingEarly.step (.event (.key slash))).after
      [.work (.arrive (.finish 0)), .drain]).step (.event (.key { key := "Esc" }))).Consistent := by
  refine ⟨by decide +kernel, fun consistent => ?_⟩
  change (((openedEarly.step (.work (.arrive (.finish 0)))).step .drain).step
    (.event (.key { key := "Esc" }))).Consistent at consistent
  rw [step_finish_openedEarly] at consistent
  have active : ((removing.step .drain).step (.event (.key { key := "Esc" }))).view? =
      some .idAndName := by decide +kernel
  have search : ((removing.step .drain).step (.event (.key { key := "Esc" }))).workspace.search =
      { threshold := removing.workspace.search.threshold, query := ⟨"a", .literal, true⟩ } := by
    decide +kernel
  rcases Option.map_eq_some_iff.mp active with ⟨tab, isActive, isView⟩
  have finds := (consistent tab isActive).2
  rw [Search.Finds, isView, search] at finds
  cases finds

end Session

end TableBrowser
