import TableBrowser.Proofs.Command.Searches
import TableBrowser.Proofs.Session.Following
/-!
# Searches in the history

A search that is submitted is recorded as a command, with its text as it was typed. Main
statement: executing that command in the same view, with the same way of searching, makes
the same search again exactly when the text can be split into words and has no blanks around
it, no option at its start and no quotes around it.
-/

namespace TableBrowser

/-- Where commands are kept, the one that has been recorded is the last one. -/
theorem Workspace.getLast?_record {workspace : Workspace} {line : String}
    (kept : 0 < workspace.settings.historySize) (nonempty : Text.trim line ≠ "") :
    (workspace.record line).history.getLast? = some (Text.trim line) := by
  have isSome : (Text.trim line).isEmpty = false := by simpa using nonempty
  unfold record
  simp only [isSome, Bool.false_or, decide_eq_true_eq]
  split
  · next same => exact same
  · have fewer : (workspace.history ++ [Text.trim line]).length -
        workspace.settings.historySize.toNat ≤ workspace.history.length := by
      rw [List.length_append, List.length_singleton]
      omega
    rw [List.drop_append_of_le_length fewer, List.getLast?_concat]

theorem Workspace.history_withStatus (workspace : Workspace) (status : String) :
    (workspace.withStatus status).history = workspace.history := rfl

namespace Session

open SessionAct KeyPress

variable {session : Session} {press : KeyPress} {presses : List KeyPress} {tab : Tab}

/-- The session after the text of its search line has been recorded as a command. -/
def submitted (session : Session) : Session :=
  let recorded := ({ session.workspace with mode := .navigation } : Workspace).record
    ("find " ++ session.line.content)
  { session with workspace := recorded.withStatus recorded.search.summary, origin := none }

theorem pressed_submit (isSearching : session.mode = .search)
    (submits : (Keymap.ofMode .search).action? press = some .submit)
    (nonempty : session.line.content ≠ "") : session.pressed press = session.submitted := by
  have typed : (!session.line.content.isEmpty) = true := by simpa using nonempty
  have ran : SessionAct.press press session = submit session :=
    run_press (by rwa [isSearching])
  have isSubmitted : submit session = (.ok (), session.submitted) := by
    simp only [submit, Act.run_bind, run_get, isSearching, if_true, typed]
    rfl
  exact pressed_of_ok (ran.trans isSubmitted)

/-- All but the status, the mode and the history stays as it is. -/
theorem exists_submitted (session : Session) : ∃ history status, session.submitted = { session with
    workspace := { session.workspace with mode := .navigation, history, status }
    origin := none } := by
  rcases Workspace.exists_record { session.workspace with mode := .navigation }
    ("find " ++ session.line.content) with ⟨history, made⟩
  refine ⟨history, session.workspace.search.summary, ?_⟩
  rw [submitted, made]
  rfl

theorem getLast?_submitted (kept : 0 < session.workspace.settings.historySize) :
    session.submitted.workspace.history.getLast? =
      some (Text.trim ("find " ++ session.line.content)) := by
  unfold submitted
  dsimp only
  rw [Workspace.history_withStatus]
  exact Workspace.getLast?_record kept (Command.trim_find_ne_empty session.line.content)

/-- When its command makes the search again that the line of a session asks for. -/
theorem executes_typed_iff {view : Table} (nonempty : session.line.content ≠ "")
    (query : session.workspace.search.query = session.asked)
    (finds : session.workspace.search.Finds view) {later : Workspace}
    (isActive : later.activeTab? = some tab) (sameView : tab.view = view)
    (sameThreshold : later.search.threshold = session.workspace.search.threshold) (isRecorded : Bool) :
    later.Executes (Text.trim ("find " ++ session.line.content)) isRecorded (fun after =>
        after.search.query = session.workspace.search.query ∧
          after.search.found = session.workspace.search.found) ↔
      Command.Verbatim session.line.content ∧ (∃ words, Words.split session.line.content = .ok words) ∧
        later.search.query.mode = session.workspace.search.query.mode ∧
        later.search.query.caseSensitive = session.workspace.search.query.caseSensitive := by
  have sameText : session.workspace.search.query.text = session.line.content := by
    rw [query]
    rfl
  have findsLater : Search.find later.search.threshold session.workspace.search.query tab.view =
      .ok session.workspace.search.found := by
    rw [sameThreshold, sameView]
    exact finds
  have executes := Command.executes_recorded_iff isActive (sameText ▸ nonempty) findsLater isRecorded
  rwa [sameText] at executes

/--
Whatever has happened since the line of a search was opened, once keys have edited it, a search
that can be made is submitted with its matches, and its text is recorded as a command. In the
same view, executing that command makes this search again exactly when its text can be split
into words and is taken as it is, and the way of searching is the same.
-/
theorem submitted_replays_iff (session : Session) (navigates : session.mode = .navigation)
    (happenings : List Happening) (staysOpen : (session.pressed slash).StaysOpen happenings)
    {opened typed submitted : Session} (isOpened : (session.pressed slash).after happenings = opened)
    (isTyped : opened.afterKeys presses = typed) (isSubmitted : typed.pressed press = submitted)
    (isActive : opened.workspace.activeTab? = some tab) (types : opened.TypesOn presses)
    (edits : ∃ press ∈ presses, press.Edits) (nonempty : typed.line.content ≠ "")
    (usable : Search.Usable { opened.workspace.search with query := typed.asked })
    (submits : (Keymap.ofMode .search).action? press = some .submit) :
    let search := submitted.workspace.search
    let line := Text.trim ("find " ++ typed.line.content)
    search.query = typed.asked ∧ submitted.view? = some tab.view ∧ search.Finds tab.view ∧
    (0 < submitted.workspace.settings.historySize →
      submitted.workspace.history.getLast? = some line) ∧
    ∀ (later : Workspace) (laterTab : Tab) (isRecorded : Bool),
      later.activeTab? = some laterTab → laterTab.view = tab.view →
        later.search.threshold = search.threshold →
          (later.Executes line isRecorded (fun after =>
              after.search.query = search.query ∧ after.search.found = search.found) ↔
            Command.Verbatim typed.line.content ∧
              (∃ words, Words.split typed.line.content = .ok words) ∧
              later.search.query.mode = search.query.mode ∧
              later.search.query.caseSensitive = search.query.caseSensitive) := by
  intro search line
  have searching : opened.Searching session.here := isOpened ▸ (searching_slash navigates).after staysOpen
  have typing : Typing session.here opened presses := searching.typing types
  have shown : opened.Shows opened.workspace.search.threshold tab.view := by
    refine ⟨?_, rfl⟩
    rw [view?, isActive]
    rfl
  rcases shown.afterKeys typing (.inr edits) with ⟨shows, start, _, settled⟩
  have stillSearching := typing.searching
  rw [isTyped] at shows settled stillSearching
  rcases settled.searched usable with ⟨query, finds⟩
  have isMade : submitted = typed.submitted :=
    isSubmitted.symm.trans (pressed_submit stillSearching.mode submits nonempty)
  rcases exists_submitted typed with ⟨history, status, made⟩
  have sameSearch : search = typed.workspace.search := by
    change submitted.workspace.search = _
    rw [isMade, made]
  have isView : submitted.view? = some tab.view := by
    rw [isMade, made]
    exact shows.view
  rw [sameSearch]
  refine ⟨query, isView, finds, fun kept => ?_, fun later laterTab isRecorded laterActive sameView
    sameThreshold => ?_⟩
  · rw [isMade, made] at kept
    rw [isMade]
    exact getLast?_submitted kept
  · exact executes_typed_iff nonempty query finds laterActive sameView sameThreshold isRecorded

/-- A text with a blank and a dash is submitted, which was begun on a larger screen. -/
theorem submitted_replays_dash :
    let happenings : List Happening := [.event (.key { key := "-" }), .event (.resize ⟨9, 3⟩)]
    let opened := (finding.pressed slash).after happenings
    let presses := typing "b" ++ [{ key := "Left" }] ++ typing " "
    let typed := opened.afterKeys presses
    let submitted := typed.pressed { key := "Enter" }
    finding.mode = .navigation ∧ (finding.pressed slash).StaysOpen happenings ∧
      opened.TypesOn presses ∧ typed.line.content = "- b" ∧
      submitted.workspace.search.query = ⟨"- b", .literal, true⟩ ∧
      submitted.workspace.history.getLast? = some "find - b" ∧
      submitted.workspace.Executes "find - b" true (fun after =>
        after.search.query = submitted.workspace.search.query ∧
          after.search.found = submitted.workspace.search.found) := by
  intro happenings opened presses typed submitted
  have navigates : finding.mode = .navigation := by decide +kernel
  have staysOpen : (finding.pressed slash).StaysOpen happenings :=
    ⟨by decide +kernel, by decide +kernel, trivial⟩
  have types : opened.TypesOn presses := by decide +kernel
  have content : typed.line.content = "- b" := by decide +kernel
  have asked : typed.asked = ⟨"- b", .literal, true⟩ := by decide +kernel
  have isOpen : opened.workspace.activeTab?.isSome := by decide +kernel
  rcases Option.isSome_iff_exists.mp isOpen with ⟨tab, isActive⟩
  have isOpened : (finding.pressed slash).after happenings = opened := rfl
  have isTyped : opened.afterKeys presses = typed := rfl
  have isSubmitted : typed.pressed { key := "Enter" } = submitted := rfl
  have usable : Search.Usable { opened.workspace.search with query := typed.asked } := by
    rw [asked]
    exact .inr (.inl (by decide))
  have submits : (Keymap.ofMode .search).action? { key := "Enter" } = some .submit := by decide +kernel
  rcases submitted_replays_iff finding navigates happenings staysOpen isOpened isTyped isSubmitted
    isActive types (by decide +kernel) (by rw [content]; decide) usable submits with
    ⟨query, isView, _, isLast, replays⟩
  have line : Text.trim ("find " ++ typed.line.content) = "find - b" := by
    rw [content]
    decide
  rcases Option.map_eq_some_iff.mp isView with ⟨later, laterActive, sameView⟩
  have kept : 0 < submitted.workspace.settings.historySize := by decide +kernel
  have verbatim : Command.Verbatim "- b" := by
    refine ⟨by decide, fun flag rest isFlag => ?_, fun enclosed => ?_⟩
    · cases isFlag
      decide
    · rcases enclosed with ⟨_, quote, isQuote, isFirst, _⟩
      cases isFirst
      exact absurd isQuote (by decide)
  have splits : Words.split typed.line.content = .ok ["-", "b"] := by
    rw [content]
    rfl
  have replayed := (replays submitted.workspace later true laterActive sameView rfl).mpr
    ⟨content ▸ verbatim, ⟨_, splits⟩, rfl, rfl⟩
  exact ⟨navigates, staysOpen, types, content, query.trans asked, line ▸ isLast kept, line ▸ replayed⟩

/-- A quote is typed that is not closed: the text is found, but its command cannot be read. -/
theorem submitted_not_replayed :
    let presses := typing "it's"
    let typed := (finding.pressed slash).afterKeys presses
    let submitted := typed.pressed { key := "Enter" }
    finding.mode = .navigation ∧ (finding.pressed slash).TypesOn presses ∧
      typed.line.content = "it's" ∧ submitted.workspace.search.query = ⟨"it's", .literal, true⟩ ∧
      submitted.workspace.history.getLast? = some "find it's" ∧
      ∀ holds, ¬ submitted.workspace.Executes "find it's" true holds := by
  intro presses typed submitted
  have navigates : finding.mode = .navigation := by decide +kernel
  have types : (finding.pressed slash).TypesOn presses := by decide +kernel
  have content : typed.line.content = "it's" := by decide +kernel
  have query : submitted.workspace.search.query = ⟨"it's", .literal, true⟩ := by decide +kernel
  have isLast : submitted.workspace.history.getLast? = some "find it's" := by decide +kernel
  refine ⟨navigates, types, content, query, isLast, fun holds executes => ?_⟩
  rcases Workspace.executes_iff.mp executes with ⟨_, _, _, isCommand, _⟩
  cases isCommand

end Session

end TableBrowser
