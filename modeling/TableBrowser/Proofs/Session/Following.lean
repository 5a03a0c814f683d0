import TableBrowser.Proofs.Session.SearchLine
import TableBrowser.Proofs.Session.Typed
import TableBrowser.Proofs.Workspace.Visits
/-!
# Following a search

While the line of a search stays open, a key either moves in the line, or changes the text
or how is searched; then the search is made anew, from the cell on which the line was
opened. Main statements: what has been found in the end, and where the cursor is, depends
only on what the line asks for in the end, and not on how it was typed; and leaving the
line gives what there was before, whatever has been typed.
-/

namespace TableBrowser

namespace Search

variable {search other after : Search} {view : Table} {start cell : Coordinate} {text : String}

/-- The query for another text, searched for in the same way. -/
def querying (search : Search) (text : String) : Query := { search.query with text }

/-- The search that follows a text, and the cell that it goes to. -/
def follow (search : Search) (view : Table) (start : Coordinate) (text : String) :
    Outcome (Search × Coordinate) :=
  if text.isEmpty then return (search.clear, start)
  else do
    let search ← search.setQuery view text none none
    let (search, target) := search.firstFrom start
    return (search, target.getD start)

/-- What was found before does not count. -/
theorem follow_congr (threshold : other.threshold = search.threshold)
    (sameQuery : other.querying text = search.querying text) :
    other.follow view start text = search.follow view start text := by
  rcases search with ⟨_, ⟨_, mode, caseSensitive⟩, _, _⟩
  rcases other with ⟨_, ⟨_, _, _⟩, _, _⟩
  simp only [querying, Query.mk.injEq, true_and] at threshold sameQuery
  rcases sameQuery with ⟨rfl, rfl⟩
  subst threshold
  rfl

theorem follow_eq_ok (followed : search.follow view start text = .ok (after, cell)) :
    after.threshold = search.threshold ∧ after.query = search.querying text ∧ after.Finds view := by
  unfold follow at followed
  split at followed
  · next isEmpty =>
    cases followed
    refine ⟨rfl, ?_, ?_⟩
    · rw [querying, String.isEmpty_iff.mp isEmpty]
      rfl
    · exact if_pos rfl
  · rcases bind_eq_ok.mp followed with ⟨made, isMade, isAfter⟩
    cases isAfter
    rcases finds_setQuery isMade with ⟨coherent, finds⟩
    have visits := coherent.firstFrom start
    have query : made.query = search.querying text := by
      rcases bind_eq_ok.mp isMade with ⟨found, _, isSearch⟩
      cases isSearch
      rfl
    refine ⟨?_, (query_firstFrom made start).trans query, finds.visits visits⟩
    exact (coherent.visits visits).threshold

/-- A query that can be searched for can be followed. -/
theorem Usable.exists_follow (usable : Usable { search with query := search.querying text })
    (view : Table) (start : Coordinate) :
    ∃ after cell, search.follow view start text = .ok (after, cell) := by
  unfold follow
  split
  · exact ⟨_, _, rfl⟩
  · rcases usable.exists_found view with ⟨found, finds⟩
    have made : search.setQuery view text none none =
        .ok { search with query := search.querying text, found, index := none } := by
      change (find search.threshold (search.querying text) view >>= _) = _
      rw [finds]
      rfl
    rw [made]
    exact ⟨_, _, rfl⟩

end Search

/-! ## The search follows the line -/

namespace Session

/-- What the line of a search asks for. -/
def asked (session : Session) : Search.Query :=
  session.workspace.search.querying session.line.content

/-- The session after the search has followed the line; a failure is shown. -/
def followed (session : Session) : Session :=
  ((tryCatch SessionAct.lineChanged SessionAct.shown : SessionAct Unit) session).2

/-- The session with a search, and the cursor of a tab on the cell closest to another one. -/
def showing (session : Session) (tab : Tab) (search : Search) (cell : Coordinate) : Session :=
  { session with
    workspace := ((session.workspace.withSearch search).updateTab tab.id
      (Tab.movedTo session.workspace.grid cell.row cell.column)).withStatus
        (if session.line.content.isEmpty then session.workspace.status else search.summary) }

/-- From which cell the line of a search that goes back to a place is followed. -/
def startOf (place : Option (Coordinate × Window.Scroll)) (tab : Tab) : Coordinate :=
  (place.map (·.1)).getD tab.cursor

end Session

namespace SessionAct

variable {workspace : Workspace} {tab : Tab}

theorem run_followSearch (isActive : workspace.activeTab? = some tab) (text : String)
    (place : Option (Coordinate × Window.Scroll)) :
    followSearch text place workspace =
      match workspace.search.follow tab.view (Session.startOf place tab) text with
      | .ok (search, cell) =>
          (.ok (), ((workspace.withSearch search).updateTab tab.id
            (Tab.movedTo workspace.grid cell.row cell.column)).withStatus
              (if text.isEmpty then workspace.status else search.summary))
      | .error problem => (.error problem, workspace) := by
  have still (search : Search) : (workspace.withSearch search).activeTab? = some tab := isActive
  unfold followSearch Search.follow
  simp only [Act.run_bind, Act.run_get, isActive]
  split
  · simp only [Act.run_bind, Act.run_get, Workspace.run_setSearch, Workspace.run_moveToCell (still _)]
    rfl
  · simp only [Act.run_bind, Act.run_get, Act.run_ofOutcome]
    cases workspace.search.setQuery tab.view text none none with
    | error problem => rfl
    | ok search =>
        simp only [Workspace.run_setSearch, Workspace.run_moveToCell (still _),
          Workspace.run_setStatus]
        rfl

end SessionAct

namespace Session

open SessionAct

variable {session : Session} {tab : Tab} {origin : SearchOrigin}

theorem followed_of_none (noTab : session.workspace.activeTab? = none) :
    session.followed = session := by
  have still : followSearch session.line.content (session.origin.bind (·.place)) session.workspace =
      (.ok (), session.workspace) := by
    simp only [followSearch, Act.run_bind, Act.run_get, noTab]
    rfl
  have ran : lineChanged session = (.ok (), session) := by
    change (if session.mode = .search then _ else _ : SessionAct Unit) session = _
    split
    · rw [ofAct, still]
    · rfl
  rw [followed, Act.run_tryCatch, ran]

theorem exists_shown (problem : Problem) (session : Session) :
    ∃ status, (shown problem session).2 =
      { session with workspace := session.workspace.withStatus status } := by
  cases problem with
  | failure cause stepIndex => exact ⟨cause.statusText, rfl⟩
  | fault fault => exact ⟨session.workspace.status, rfl⟩

/-- The search has been made, or it cannot be made and only the status may change. -/
theorem followed_eq (isSearching : session.mode = .search)
    (isActive : session.workspace.activeTab? = some tab) :
    session.followed =
      match session.workspace.search.follow tab.view (startOf (session.origin.bind (·.place)) tab)
        session.line.content with
      | .ok (search, cell) => session.showing tab search cell
      | .error problem => (shown problem session).2 := by
  have ran : lineChanged session =
      ofAct (followSearch session.line.content (session.origin.bind (·.place))) session := by
    change (if session.mode = .search then _ else _ : SessionAct Unit) session = _
    rw [if_pos isSearching]
  rw [followed, Act.run_tryCatch, ran, ofAct, run_followSearch isActive]
  cases session.workspace.search.follow tab.view (startOf (session.origin.bind (·.place)) tab)
      session.line.content with
  | ok result => rfl
  | error problem => rfl

end Session

/-! ## Keys -/

namespace KeyPress

/-- The key ends the session. -/
def Quits (press : KeyPress) : Prop := (Keymap.ofMode .search).action? press = some .quit

/-- In the line of a search, the key edits the text or changes how is searched. -/
def Edits (press : KeyPress) : Prop :=
  match (Keymap.ofMode .search).action? press with
  | some action => action = .backspace ∨ action.IsSwitch
  | none => press.isPrintable

instance : DecidablePred Quits := fun _ => inferInstanceAs (Decidable (_ = _))

theorem edits_iff {press : KeyPress} {action : Action}
    (called : (Keymap.ofMode .search).action? press = some action) :
    press.Edits ↔ action = .backspace ∨ action.IsSwitch := by
  rw [Edits, called]

theorem edits_iff_of_none {press : KeyPress} (called : (Keymap.ofMode .search).action? press = none) :
    press.Edits ↔ press.isPrintable = true := by
  rw [Edits, called]

instance (press : KeyPress) : Decidable press.Edits :=
  match called : (Keymap.ofMode .search).action? press with
  | some action => decidable_of_iff (action = .backspace ∨ action.IsSwitch) (edits_iff called).symm
  | none => decidable_of_iff (press.isPrintable = true) (edits_iff_of_none called).symm

/-- The keys that type a text. -/
def typing (text : String) : List KeyPress := text.toList.map fun char => { key := char.toString }

end KeyPress

namespace Session

open SessionAct KeyPress

variable {session after : Session} {press : KeyPress} {origin : SearchOrigin}

def pressed (session : Session) (press : KeyPress) : Session := session.step (.event (.key press))

def afterKeys (session : Session) (presses : List KeyPress) : Session := presses.foldl pressed session

/-- The line of a search is still open after each of the keys, none of which ends the session. -/
def TypesOn (session : Session) : List KeyPress → Prop
  | [] => True
  | press :: presses =>
      ¬ press.Quits ∧ (session.pressed press).mode = .search ∧ (session.pressed press).TypesOn presses

instance decidableTypesOn (session : Session) :
    (presses : List KeyPress) → Decidable (session.TypesOn presses)
  | [] => isTrue trivial
  | press :: presses =>
      have := decidableTypesOn (session.pressed press) presses
      inferInstanceAs (Decidable (_ ∧ _ ∧ _))

/-- What a key makes of a session while the line of a search stays open. -/
inductive Keyed (session : Session) (press : KeyPress) : Session → Prop where
  /-- The insertion point moves, or nothing happens. -/
  | moved (noEdit : ¬ press.Edits) (line : LineBuffer) (sameText : line.text = session.line.text) :
      Keyed session press { session with line }
  | followed (edits : press.Edits) (line : LineBuffer) (query : Search.Query) :
      Keyed session press { session.querying query with line }.followed

theorem pressed_eq (session : Session) (press : KeyPress) :
    session.pressed press = ((tryCatch (SessionAct.press press) shown : SessionAct Unit) session).2 := by
  have handled : handle (.key press) = ((tryCatch (SessionAct.press press) shown : SessionAct Unit) >>=
      fun _ => get >>= fun session => pure session.isRunning) := rfl
  rw [pressed, step, handled, Act.run_bind]
  rcases (tryCatch (SessionAct.press press) shown : SessionAct Unit) session with ⟨_ | _, _⟩
  · rfl
  · rfl

theorem pressed_of_ok (ran : SessionAct.press press session = (.ok (), after)) :
    session.pressed press = after := by
  rw [pressed_eq, Act.run_tryCatch, ran]

/-- A key that changes something of the line, which is then followed. -/
theorem pressed_of_follow (ran : SessionAct.press press session = lineChanged after) :
    session.pressed press = after.followed := by
  rw [pressed_eq, followed, Act.run_tryCatch, Act.run_tryCatch, ran]

theorem navigates_shown (problem : Problem) : Keeps Navigates (shown problem) := by
  cases problem with
  | failure cause stepIndex => exact fun _ navigates => navigates
  | fault fault => exact Keeps.throw _

theorem Keyed.of_move (noEdit : ¬ press.Edits) {line : LineBuffer}
    (sameText : line.text = session.line.text)
    (ran : SessionAct.press press session = (.ok (), { session with line })) :
    session.Keyed press (session.pressed press) := by
  rw [pressed_of_ok ran]
  exact .moved noEdit line sameText

theorem Keyed.of_follow (edits : press.Edits) (line : LineBuffer) (query : Search.Query)
    (ran : SessionAct.press press session = lineChanged { session.querying query with line }) :
    session.Keyed press (session.pressed press) := by
  rw [pressed_of_follow ran]
  exact .followed edits line query

namespace Searching

variable {action : Action}

theorem press_eq_perform (searching : session.Searching origin)
    (called : (Keymap.ofMode .search).action? press = some action) :
    SessionAct.press press session = perform action press.key session :=
  run_press (by rwa [searching.mode])

/-- A key that calls no action is inserted when it is a character. -/
theorem press_of_none (searching : session.Searching origin)
    (called : (Keymap.ofMode .search).action? press = none) :
    SessionAct.press press session =
      if press.isPrintable then lineChanged { session with line := session.line.insert press.key.toList }
      else (.ok (), session) := by
  simp only [SessionAct.press, Act.run_bind, run_get, searching.mode, called]
  by_cases printable : press.isPrintable
  · rw [if_pos (by simp [printable]), if_pos printable]
    rfl
  · rw [if_neg (by simp [printable]), if_neg printable]
    rfl

theorem not_leaves (searching : session.Searching origin)
    (staysOpen : (session.pressed press).mode = .search) : ¬ session.Leaves press := by
  intro leaves
  rw [pressed, step_leaving searching leaves] at staysOpen
  cases staysOpen

theorem not_submits (searching : session.Searching origin)
    (staysOpen : (session.pressed press).mode = .search) :
    (Keymap.ofMode .search).action? press ≠ some .submit := by
  intro called
  have submits : (SessionAct.press press).Leaves Navigates session := by
    rw [SessionAct.Leaves, searching.press_eq_perform called]
    exact navigates_submit searching.mode
  have navigates := submits.tryCatch navigates_shown
  rw [SessionAct.Leaves, ← pressed_eq] at navigates
  cases navigates.symm.trans staysOpen

theorem keyed_of_move (searching : session.Searching origin)
    (called : (Keymap.ofMode .search).action? press = some action) (change : LineBuffer → LineBuffer)
    (isMove : perform action press.key = modifyLine change)
    (noEdit : ¬ (action = .backspace ∨ action.IsSwitch))
    (sameText : (change session.line).text = session.line.text) :
    session.Keyed press (session.pressed press) :=
  .of_move (mt (edits_iff called).mp noEdit) sameText
    ((searching.press_eq_perform called).trans (congrFun isMove session))

theorem keyed_of_switch (searching : session.Searching origin)
    (called : (Keymap.ofMode .search).action? press = some action) (isSwitch : action.IsSwitch)
    (change : Search.Query → Search.Query) (changes : perform action press.key = modifyQuery change) :
    session.Keyed press (session.pressed press) :=
  .of_follow ((edits_iff called).mpr (.inr isSwitch)) session.line
    (change session.workspace.search.query)
    ((searching.press_eq_perform called).trans (congrFun changes session))

theorem keyed_of_backspace (searching : session.Searching origin)
    (called : (Keymap.ofMode .search).action? press = some .backspace)
    (notEmpty : session.line.text ≠ []) : session.Keyed press (session.pressed press) := by
  have ran : SessionAct.press press session =
      lineChanged { session with line := session.line.backspace } := by
    rw [searching.press_eq_perform called]
    simp only [perform, backspace, Act.run_bind, run_get]
    rw [if_neg (by simpa using notEmpty)]
    rfl
  exact .of_follow ((edits_iff called).mpr (.inl rfl)) session.line.backspace
    session.workspace.search.query ran

theorem keyed_of_none (searching : session.Searching origin)
    (called : (Keymap.ofMode .search).action? press = none) :
    session.Keyed press (session.pressed press) := by
  have ran := searching.press_of_none called
  by_cases printable : press.isPrintable
  · rw [if_pos printable] at ran
    exact .of_follow ((edits_iff_of_none called).mpr printable) _ session.workspace.search.query ran
  · rw [if_neg printable] at ran
    exact .of_move (mt (edits_iff_of_none called).mp printable) rfl ran

theorem keyed (searching : session.Searching origin) (noQuit : ¬ press.Quits)
    (staysOpen : (session.pressed press).mode = .search) :
    session.Keyed press (session.pressed press) := by
  have notLeft := searching.not_leaves staysOpen
  cases called : (Keymap.ofMode .search).action? press with
  | none => exact searching.keyed_of_none called
  | some action =>
      have member := mem_searchActions called
      simp only [searchActions, List.mem_cons, List.not_mem_nil, or_false] at member
      rcases member with rfl | rfl | rfl | rfl | rfl | rfl | rfl | rfl | rfl | rfl
      · exact searching.keyed_of_switch called (.inl rfl) (fun query =>
          { query with mode := query.mode.next }) rfl
      · exact searching.keyed_of_switch called (.inr rfl) (fun query =>
          { query with caseSensitive := !query.caseSensitive }) rfl
      · exact absurd called (searching.not_submits staysOpen)
      · exact absurd (.inl called) notLeft
      · exact searching.keyed_of_backspace called fun isEmpty => notLeft (.inr ⟨called, isEmpty⟩)
      · exact searching.keyed_of_move called LineBuffer.left rfl (by decide) rfl
      · exact searching.keyed_of_move called LineBuffer.right rfl (by decide) rfl
      · exact searching.keyed_of_move called LineBuffer.home rfl (by decide) rfl
      · exact searching.keyed_of_move called LineBuffer.toEnd rfl (by decide) rfl
      · exact absurd called noQuit

end Searching

/-! ## Runs of keys -/

section Runs

variable {presses : List KeyPress} {view : Table} {threshold : Binary64} {start : Coordinate} {tab : Tab}

/-- A run of keys in the open line of a search, each of which does what keys do there. -/
inductive Typing (origin : SearchOrigin) : Session → List KeyPress → Prop where
  | nil {session : Session} (searching : session.Searching origin) : Typing origin session []
  | cons {session : Session} {press : KeyPress} {presses : List KeyPress}
      (searching : session.Searching origin) (keyed : session.Keyed press (session.pressed press))
      (later : Typing origin (session.pressed press) presses) :
      Typing origin session (press :: presses)

theorem Searching.typing (searching : session.Searching origin) (types : session.TypesOn presses) :
    Typing origin session presses := by
  induction presses generalizing session with
  | nil => exact .nil searching
  | cons press presses induction =>
      rcases types with ⟨noQuit, staysOpen, typesOn⟩
      exact .cons searching (searching.keyed noQuit staysOpen)
        (induction (searching.step staysOpen) typesOn)

theorem Typing.searching (typing : Typing origin session presses) :
    (session.afterKeys presses).Searching origin := by
  induction typing with
  | nil searching => exact searching
  | cons _ _ _ induction => exact induction

/-- The session shows a view, and searches it with a threshold. -/
structure Shows (threshold : Binary64) (view : Table) (session : Session) : Prop where
  view : session.view? = some view
  threshold : session.workspace.search.threshold = threshold

/-- The search is what the line asks for, from a cell, unless that cannot be searched for. -/
def Settled (view : Table) (start : Coordinate) (session : Session) : Prop :=
  ∀ search cell,
    session.workspace.search.follow view start session.line.content = .ok (search, cell) →
      session.workspace.search = search ∧
      session.workspace.cursor? = some (view.clampCursor cell.row cell.column)

/-- The search is settled from the cell on which the line was opened, or from any if there was none. -/
def SettledFor (origin : SearchOrigin) (view : Table) (session : Session) : Prop :=
  ∃ start, (∀ cell ∈ origin.place.map (·.1), start = cell) ∧ session.Settled view start

theorem Settled.searched (settled : session.Settled view start)
    (usable : Search.Usable { session.workspace.search with query := session.asked }) :
    session.workspace.search.query = session.asked ∧ session.workspace.search.Finds view := by
  rcases usable.exists_follow view start with ⟨search, cell, follows⟩
  rcases Search.follow_eq_ok follows with ⟨_, query, finds⟩
  rw [(settled search cell follows).1]
  exact ⟨query, finds⟩

theorem activeTab?_showing (isActive : session.workspace.activeTab? = some tab) (search : Search)
    (cell : Coordinate) : (session.showing tab search cell).workspace.activeTab? =
      some (tab.movedTo session.workspace.grid cell.row cell.column) := by
  have still : (session.workspace.withSearch search).activeTab? = some tab := isActive
  exact (Workspace.activeTab?_updateTab ..).trans (by rw [still]; simp)

/-- The search that follows the line shows the same view, and is settled. -/
theorem Shows.followed (shows : session.Shows threshold view) (searching : session.Searching origin) :
    session.followed.Shows threshold view ∧ session.followed.SettledFor origin view := by
  rcases Option.map_eq_some_iff.mp shows.view with ⟨tab, isActive, rfl⟩
  have fromOrigin := followed_eq searching.mode isActive
  rw [searching.origin, Option.bind_some] at fromOrigin
  have isStart : ∀ cell ∈ origin.place.map (·.1), startOf origin.place tab = cell := by
    intro cell isCell
    rw [startOf, Option.mem_def.mp isCell, Option.getD_some]
  cases follows : session.workspace.search.follow tab.view (startOf origin.place tab)
      session.line.content with
  | ok result =>
      have made : session.followed = session.showing tab result.1 result.2 := by
        rw [fromOrigin, follows]
      rcases Search.follow_eq_ok follows with ⟨sameThreshold, query, _⟩
      have active := activeTab?_showing isActive result.1 result.2
      have sameQuery : result.1.querying session.line.content =
          session.workspace.search.querying session.line.content := by
        rw [Search.querying, query]
        rfl
      have again := (Search.follow_congr sameThreshold sameQuery).trans follows
      rw [made]
      refine ⟨⟨?_, sameThreshold.trans shows.threshold⟩, _, isStart, fun search cell followsAgain => ?_⟩
      · rw [view?, active]
        rfl
      · cases again.symm.trans followsAgain
        refine ⟨rfl, ?_⟩
        rw [Workspace.cursor?, active]
        rfl
  | error problem =>
      rcases exists_shown problem session with ⟨status, isShown⟩
      have made : session.followed =
          { session with workspace := session.workspace.withStatus status } := by
        rw [fromOrigin, follows]
        exact isShown
      rw [made]
      refine ⟨⟨shows.view, shows.threshold⟩, _, isStart, fun search cell followsAgain => ?_⟩
      cases follows.symm.trans followsAgain

/-- What a key that keeps the line open makes of a search that is settled, or is settled by it. -/
theorem Shows.keyed (shows : session.Shows threshold view) (searching : session.Searching origin)
    (keyed : session.Keyed press after) :
    after.Shows threshold view ∧
      (session.SettledFor origin view ∨ press.Edits → after.SettledFor origin view) := by
  cases keyed with
  | moved noEdit line sameText =>
      refine ⟨⟨shows.view, shows.threshold⟩, fun settles => ?_⟩
      rcases settles.resolve_right noEdit with ⟨start, isStart, settled⟩
      refine ⟨start, isStart, fun search cell follows => ?_⟩
      rw [LineBuffer.content, sameText] at follows
      exact settled search cell follows
  | followed edits line query =>
      have changed : ({ session.querying query with line } : Session).Shows threshold view :=
        ⟨shows.view, shows.threshold⟩
      rcases changed.followed ⟨searching.mode, searching.origin⟩ with ⟨showsAfter, settled⟩
      exact ⟨showsAfter, fun _ => settled⟩

/-- Where some key has edited the line, the search is that of the line. -/
theorem Shows.afterKeys (shows : session.Shows threshold view)
    (typing : Typing origin session presses)
    (settles : session.SettledFor origin view ∨ ∃ press ∈ presses, press.Edits) :
    (session.afterKeys presses).Shows threshold view ∧
      (session.afterKeys presses).SettledFor origin view := by
  induction typing with
  | nil => exact ⟨shows, settles.resolve_right fun ⟨_, member, _⟩ => absurd member List.not_mem_nil⟩
  | cons searching keyed later induction =>
      rcases shows.keyed searching keyed with ⟨showsNext, settledNext⟩
      refine induction showsNext ?_
      rcases settles with settled | ⟨edit, member, edits⟩
      · exact .inl (settledNext (.inl settled))
      · rcases List.mem_cons.mp member with rfl | member
        · exact .inl (settledNext (.inr edits))
        · exact .inr ⟨edit, member, edits⟩

theorem shows_slash (navigates : session.mode = .navigation)
    (isActive : session.workspace.activeTab? = some tab) :
    (session.pressed slash).Shows session.workspace.search.threshold tab.view := by
  rw [pressed, step, handle_slash navigates]
  exact ⟨by rw [← Option.map_some, ← isActive]; rfl, rfl⟩

/-- A line that has just been opened is followed from the cursor. -/
theorem settled_afterKeys (navigates : session.mode = .navigation)
    (isActive : session.workspace.activeTab? = some tab)
    (types : (session.pressed slash).TypesOn presses) (edits : ∃ press ∈ presses, press.Edits) :
    ((session.pressed slash).afterKeys presses).Shows session.workspace.search.threshold tab.view ∧
      ((session.pressed slash).afterKeys presses).Settled tab.view tab.cursor := by
  have typing : Typing session.here (session.pressed slash) presses :=
    (searching_slash navigates).typing types
  rcases (shows_slash navigates isActive).afterKeys typing (.inr edits) with
    ⟨shows, start, isStart, settled⟩
  have startsAt : session.here.place.map (·.1) = some tab.cursor := by rw [here, isActive]; rfl
  rw [isStart tab.cursor startsAt] at settled
  exact ⟨shows, settled⟩

/--
However a search is typed, with whatever edits and changes of how is searched, what has been
found in the end and where the cursor is depends only on what the line asks for in the end,
if that can be searched for; then it has been.
-/
theorem found_by_line (session : Session) (navigates : session.mode = .navigation)
    (isActive : session.workspace.activeTab? = some tab) (first second : List KeyPress)
    (typesFirst : (session.pressed slash).TypesOn first)
    (typesSecond : (session.pressed slash).TypesOn second)
    (editsFirst : ∃ press ∈ first, press.Edits) (editsSecond : ∃ press ∈ second, press.Edits)
    (sameAsked : ((session.pressed slash).afterKeys first).asked =
      ((session.pressed slash).afterKeys second).asked)
    (usable : Search.Usable { session.workspace.search with
      query := ((session.pressed slash).afterKeys first).asked }) :
    let one := ((session.pressed slash).afterKeys first).workspace
    let other := ((session.pressed slash).afterKeys second).workspace
    one.search = other.search ∧ one.cursor? = other.cursor? ∧
      one.search.query = ((session.pressed slash).afterKeys first).asked ∧
      one.search.Finds tab.view := by
  intro one other
  rcases settled_afterKeys navigates isActive typesFirst editsFirst with ⟨showsOne, settledOne⟩
  rcases settled_afterKeys navigates isActive typesSecond editsSecond with ⟨showsOther, settledOther⟩
  have threshold : other.search.threshold = one.search.threshold :=
    showsOther.threshold.trans showsOne.threshold.symm
  have sameText : ((session.pressed slash).afterKeys first).line.content =
      ((session.pressed slash).afterKeys second).line.content := congrArg Search.Query.text sameAsked
  have sameQuery := (congrArg other.search.querying sameText).trans sameAsked.symm
  have usableOne : Search.Usable { one.search with
      query := one.search.querying ((session.pressed slash).afterKeys first).line.content } := usable
  rcases usableOne.exists_follow tab.view tab.cursor with ⟨search, cell, follows⟩
  have followsOther := (Search.follow_congr threshold sameQuery).trans follows
  rw [sameText] at followsOther
  rcases settledOne search cell follows with ⟨isSearch, isCell⟩
  rcases settledOther search cell followsOther with ⟨isSearchOther, isCellOther⟩
  exact ⟨isSearch.trans isSearchOther.symm, isCell.trans isCellOther.symm, settledOne.searched usable⟩

/-- A letter is typed after a pattern that is not one, and with another letter that is taken away. -/
theorem found_by_letter :
    let first := typing "(" ++ [{ key := "Tab" }, { key := "Backspace" }] ++ typing "a" ++
      [{ key := "Tab" }, { key := "Tab" }]
    let second := typing "ba" ++ [{ key := "Left" }, { key := "Backspace" }]
    let one := (finding.pressed slash).afterKeys first
    let other := (finding.pressed slash).afterKeys second
    (finding.pressed slash).TypesOn first ∧ (finding.pressed slash).TypesOn second ∧
      one.asked = ⟨"a", .literal, true⟩ ∧ other.asked = ⟨"a", .literal, true⟩ ∧
      one.workspace.search = other.workspace.search ∧
      one.workspace.cursor? = other.workspace.cursor? := by
  intro first second one other
  have navigates : finding.mode = .navigation := by decide +kernel
  have typesFirst : (finding.pressed slash).TypesOn first := by decide +kernel
  have typesSecond : (finding.pressed slash).TypesOn second := by decide +kernel
  have askedOne : one.asked = ⟨"a", .literal, true⟩ := by decide +kernel
  have askedOther : other.asked = ⟨"a", .literal, true⟩ := by decide +kernel
  have isOpen : finding.workspace.activeTab?.isSome := by decide +kernel
  rcases Option.isSome_iff_exists.mp isOpen with ⟨tab, isActive⟩
  have usable : Search.Usable { finding.workspace.search with query := one.asked } := by
    rw [askedOne]
    exact .inr (.inl (by decide))
  have found := found_by_line finding navigates isActive first second typesFirst typesSecond
    (by decide +kernel) (by decide +kernel) (askedOne.trans askedOther.symm) usable
  exact ⟨typesFirst, typesSecond, askedOne, askedOther, found.1, found.2.1⟩

end Runs

end Session

/-! ## Leaving the line -/

namespace SessionAct

variable {workspace : Workspace} {origin : SearchOrigin} {tab : Tab}

theorem restored_of_none (noPlace : workspace.activeTab? = none ∨ origin.place = none) :
    restored origin workspace = workspace.withSearch origin.search := by
  have still : (workspace.withSearch origin.search).activeTab? = workspace.activeTab? := rfl
  unfold restored
  simp only
  split
  · next isTab isPlace =>
    rw [still.symm.trans isTab, isPlace] at noPlace
    rcases noPlace with noTab | noPlace
    · cases noTab
    · cases noPlace
  · rfl

theorem restored_of_some (isActive : workspace.activeTab? = some tab) {cursor : Coordinate}
    {scroll : Window.Scroll} (place : origin.place = some (cursor, scroll)) :
    restored origin workspace =
      (workspace.withSearch origin.search).updateTab tab.id fun tab => { tab with cursor, scroll } := by
  have still : (workspace.withSearch origin.search).activeTab? = some tab := isActive
  unfold restored
  simp only
  split
  · next isTab isPlace =>
    cases still.symm.trans isTab
    cases place.symm.trans isPlace
    rfl
  · next noneOf => exact (noneOf tab cursor scroll still place).elim

end SessionAct

namespace Session

open SessionAct KeyPress

variable {origin : SearchOrigin} {session before after : Session} {press : KeyPress}
variable {presses : List KeyPress} {tab : Tab}

/-- What the line leaves of a workspace when it goes back to an origin, the mode and the status apart. -/
def rewound (origin : SearchOrigin) (workspace : Workspace) : Workspace :=
  { restored origin workspace with mode := .navigation, status := "" }

/-- The session goes back to what another one goes back to. -/
structure RewindsTo (origin : SearchOrigin) (session before : Session) : Prop where
  size : session.size = before.size
  isRunning : session.isRunning = before.isRunning
  workspace : rewound origin session.workspace = rewound origin before.workspace
  placed : session.workspace.activeTab?.isSome = origin.place.isSome

variable {workspace : Workspace}

theorem rewound_of_none (noPlace : workspace.activeTab? = none ∨ origin.place = none) :
    rewound origin workspace = { workspace with
      search := origin.search, mode := .navigation, status := "" } := by
  rw [rewound, restored_of_none noPlace]
  rfl

theorem rewound_of_some (isActive : workspace.activeTab? = some tab) {cursor : Coordinate}
    {scroll : Window.Scroll} (place : origin.place = some (cursor, scroll)) :
    rewound origin workspace = { workspace.updateTab tab.id (fun tab => { tab with cursor, scroll }) with
      search := origin.search, mode := .navigation, status := "" } := by
  rw [rewound, restored_of_some isActive place]
  rfl

theorem rewound_same (origin : SearchOrigin) (workspace : Workspace) (search : Search)
    (mode : InputMode) (status : String) :
    rewound origin { workspace with search, mode, status } = rewound origin workspace := by
  have sameActive : Workspace.activeTab? { workspace with search, mode, status } =
      workspace.activeTab? := rfl
  cases isActive : workspace.activeTab? with
  | none => rw [rewound_of_none (.inl isActive), rewound_of_none (.inl (sameActive.trans isActive))]
  | some tab =>
      cases place : origin.place with
      | none => rw [rewound_of_none (.inr place), rewound_of_none (.inr place)]
      | some place =>
          rw [rewound_of_some isActive ‹_›, rewound_of_some (sameActive.trans isActive) ‹_›]
          rfl

/-- Whatever the search has found and wherever the cursor has gone does not count. -/
theorem RewindsTo.showing (rewinds : session.RewindsTo origin before)
    (isActive : session.workspace.activeTab? = some tab) (search : Search) (cell : Coordinate) :
    (session.showing tab search cell).RewindsTo origin before := by
  have active := activeTab?_showing isActive search cell
  have isPlaced : origin.place.isSome := by rw [← rewinds.placed, isActive]; rfl
  rcases Option.isSome_iff_exists.mp isPlaced with ⟨⟨cursor, scroll⟩, place⟩
  refine ⟨rewinds.size, rewinds.isRunning, ?_, by rw [active, isPlaced]; rfl⟩
  rw [← rewinds.workspace, rewound_of_some active place, rewound_of_some isActive place]
  have moved := session.workspace.updateTab_updateTab tab.id
    (Tab.movedTo session.workspace.grid cell.row cell.column) (fun tab => { tab with cursor, scroll })
    fun _ => rfl
  exact congrArg (fun workspace : Workspace => { workspace with
    search := origin.search, mode := .navigation, status := "" }) moved

theorem RewindsTo.withStatus (rewinds : session.RewindsTo origin before) (status : String) :
    RewindsTo origin { session with workspace := session.workspace.withStatus status } before := by
  refine ⟨rewinds.size, rewinds.isRunning, ?_, rewinds.placed⟩
  rw [← rewinds.workspace]
  exact rewound_same origin session.workspace _ _ status

theorem RewindsTo.followed (rewinds : session.RewindsTo origin before)
    (isSearching : session.mode = .search) : session.followed.RewindsTo origin before := by
  cases isActive : session.workspace.activeTab? with
  | none => rwa [followed_of_none isActive]
  | some tab =>
      rw [followed_eq isSearching isActive]
      split
      · exact rewinds.showing isActive _ _
      · next problem _ =>
        rcases exists_shown problem session with ⟨status, isShown⟩
        rw [isShown]
        exact rewinds.withStatus status

theorem RewindsTo.keyed (rewinds : session.RewindsTo origin before)
    (isSearching : session.mode = .search) (keyed : session.Keyed press after) :
    after.RewindsTo origin before := by
  cases keyed with
  | moved noEdit line sameText =>
      exact ⟨rewinds.size, rewinds.isRunning, rewinds.workspace, rewinds.placed⟩
  | followed edits line query =>
      have changed : RewindsTo origin { session.querying query with line } before :=
        ⟨rewinds.size, rewinds.isRunning, rewinds.workspace, rewinds.placed⟩
      exact changed.followed isSearching

theorem RewindsTo.afterKeys (rewinds : session.RewindsTo origin before)
    (typing : Typing origin session presses) : (session.afterKeys presses).RewindsTo origin before := by
  induction typing with
  | nil => exact rewinds
  | cons searching keyed later induction => exact induction (rewinds.keyed searching.mode keyed)

/-- Where a session goes back to what it is, in the mode in which it is. -/
theorem rewound_here (session : Session) (navigates : session.mode = .navigation)
    (ids : (session.workspace.tabs.map (·.id)).Nodup) :
    rewound session.here session.workspace = session.workspace.withStatus "" := by
  have isMode : session.workspace.mode = .navigation := navigates
  cases isActive : session.workspace.activeTab? with
  | none =>
      rw [rewound_of_none (.inl isActive), Workspace.withStatus, isMode]
      rfl
  | some tab =>
      have place : session.here.place = some (tab.cursor, tab.scroll) := by rw [here, isActive]; rfl
      rw [rewound_of_some isActive place, Workspace.withStatus, isMode,
        Workspace.updateTab_same ids (List.mem_of_getElem? isActive) rfl]
      rfl

/-- Leaving the line of a search restores all but the status and the line, whatever has been typed. -/
theorem left_afterKeys (session : Session) (navigates : session.mode = .navigation)
    (ids : (session.workspace.tabs.map (·.id)).Nodup)
    (types : (session.pressed slash).TypesOn presses)
    (leaves : ((session.pressed slash).afterKeys presses).Leaves press) :
    ∃ status line, ((session.pressed slash).afterKeys presses).pressed press =
      { session with workspace := session.workspace.withStatus status, line, origin := none } := by
  let last := (session.pressed slash).afterKeys presses
  have typing : Typing session.here (session.pressed slash) presses :=
    (searching_slash navigates).typing types
  have opened : (session.pressed slash).RewindsTo session.here session := by
    rw [pressed, step, handle_slash navigates]
    refine ⟨rfl, rfl, rewound_same session.here session.workspace _ _ _, ?_⟩
    rw [here, Option.isSome_map]
    rfl
  have rewinds := opened.afterKeys typing
  have same := rewinds.workspace.trans (rewound_here session navigates ids)
  let status := (restored session.here last.workspace).status
  refine ⟨status, last.line, ?_⟩
  calc last.pressed press
    _ = left last session.here := step_leaving typing.searching leaves
    _ = { last with
          workspace := (rewound session.here last.workspace).withStatus status, origin := none } := rfl
    _ = { session with workspace := session.workspace.withStatus status
                       line := last.line, origin := none } := by
      rw [same, rewinds.size, rewinds.isRunning]
      rfl

/-! ## Sessions that runs reach -/

theorem enduring_numbered : Enduring (fun _ => True) Workspace.numbered where
  coarse := Workspace.coarse_numbered
  blank := trivial
  opened _ := trivial
  dialled _ _ := trivial
  moved _ _ := trivial
  inserted _ _ := trivial
  backspaced _ := trivial
  older _ := trivial
  newer _ := trivial
  sought := fun {line workspace} _ holds => by
    rcases workspace.exists_record ("find " ++ line.content) with ⟨history, made⟩
    rw [made]
    exact holds
  submitted := fun {line workspace} _ holds => by
    rcases workspace.exists_noting line.content true with ⟨history, made⟩
    rw [made]
    exact holds

/-- In all sessions that runs reach, tabs have different ids. -/
theorem numbered_after (settings : Settings) (files : FileTree) (scheduling : Scheduling) (size : Size)
    (happenings : List Happening) : Workspace.numbered.holds
      ((start (Workspace.start settings files scheduling) size).after happenings).workspace := by
  have started : (start (Workspace.start settings files scheduling) size).Holds (fun _ => True)
      Workspace.numbered := ⟨trivial, List.nodup_nil, nofun⟩
  have reached (session : Session) (holds : session.Holds (fun _ => True) Workspace.numbered) :
      (session.after happenings).Holds (fun _ => True) Workspace.numbered := by
    induction happenings generalizing session with
    | nil => exact holds
    | cons happening happenings induction =>
        refine induction _ (enduring_numbered.step holds happening fun line isRecorded _ => ?_)
        rcases session.workspace.exists_noting line isRecorded with ⟨history, made⟩
        rw [made]
        exact holds.workspace
  exact (reached _ started).workspace

/--
In a session that a run reaches, leaving the line of a search gives the session in which it
was opened, whatever has been typed, also when it cannot be searched for. Only the status
and the text of the line, which is no longer shown, may be others.
-/
theorem left_after (settings : Settings) (files : FileTree) (scheduling : Scheduling) (size : Size)
    (happenings : List Happening) :
    let session := (start (Workspace.start settings files scheduling) size).after happenings
    session.mode = .navigation → ∀ (presses : List KeyPress) (press : KeyPress),
      (session.pressed slash).TypesOn presses →
        ((session.pressed slash).afterKeys presses).Leaves press →
          ∃ status line, ((session.pressed slash).afterKeys presses).pressed press =
            { session with workspace := session.workspace.withStatus status, line, origin := none } :=
  fun navigates _ _ types leaves => left_afterKeys _ navigates
    (numbered_after settings files scheduling size happenings).1 types leaves

/-- A pattern that is not one is typed, and the line left. -/
theorem left_after_parenthesis :
    let presses := typing "b(" ++ [{ key := "Tab" }, { key := "Left" }, ⟨"t", ["ctrl"]⟩]
    finding.mode = .navigation ∧ (finding.pressed slash).TypesOn presses ∧
      ((finding.pressed slash).afterKeys presses).Leaves { key := "Esc" } ∧
      ∃ status line, ((finding.pressed slash).afterKeys presses).pressed { key := "Esc" } =
        { finding with workspace := finding.workspace.withStatus status, line, origin := none } := by
  intro presses
  have navigates : finding.mode = .navigation := by decide +kernel
  have types : (finding.pressed slash).TypesOn presses := by decide +kernel
  have leaves : ((finding.pressed slash).afterKeys presses).Leaves { key := "Esc" } :=
    .inl (by decide +kernel)
  exact ⟨navigates, types, leaves, left_after {} _ .deferred ⟨80, 24⟩ _ navigates _ _ types leaves⟩

end Session

end TableBrowser
