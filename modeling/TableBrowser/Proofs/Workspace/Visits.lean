import Mathlib.Data.List.Rotate
import TableBrowser.Proofs.Search.Found
import TableBrowser.Proofs.Workspace.Isolation
import TableBrowser.Proofs.Workspace.Run
/-!
# Going from match to match

A search puts the cursor on the first match from where it was, or on the best one when
matches are similar cells. From then on the cursor stands on the current match, and it
goes around. Main statement: as many steps to the next match as there are matches visit
each of them once and end where the search began, and a step back undoes a step.
-/

namespace TableBrowser

open Text (Arithmetic)

/-! ## The match to begin with -/

namespace Coordinate

variable {cell cursor : Coordinate} {cells found : List Coordinate}

/-- One of some cells that comes before all others, row by row. -/
def Leads (cell : Coordinate) (cells : List Coordinate) : Prop :=
  cell ∈ cells ∧ ∀ other ∈ cells, other = cell ∨ cell.before other = true

/-- One of some cells with the highest score, the first of those that have it. -/
def Best (cell : Coordinate) (score : Coordinate → Binary64) (cells : List Coordinate) : Prop :=
  cell ∈ cells ∧ ∀ other ∈ cells, (score other).lessEq (score cell) = true ∧
    ((score cell).lessEq (score other) = true → other = cell ∨ cell.before other = true)

/-- The cells that do not come before the cursor, or all when there are no others. -/
def ahead (cursor : Coordinate) (cells : List Coordinate) : List Coordinate :=
  let rest := cells.filter fun cell => !cell.before cursor
  if rest.isEmpty then cells else rest

/-- Among cells in order the first one that is wanted leads those that are. -/
theorem leads_filter {wanted : Coordinate → Bool} {place : Nat}
    (inOrder : cells.Pairwise fun left right => left.before right = true)
    (found : cells.findIdx? wanted = some place) (isCell : cells[place]? = some cell) :
    cell.Leads (cells.filter wanted) := by
  rcases List.findIdx?_eq_some_iff_getElem.mp found with ⟨inBounds, isWanted, notEarlier⟩
  rw [List.getElem?_eq_getElem inBounds, Option.some.injEq] at isCell
  rw [isCell] at isWanted
  refine ⟨List.mem_filter.mpr ⟨List.mem_of_getElem isCell, isWanted⟩, fun other member => ?_⟩
  rcases List.mem_filter.mp member with ⟨inCells, otherWanted⟩
  rcases List.mem_iff_getElem.mp inCells with ⟨index, otherInBounds, isOther⟩
  rcases Nat.lt_trichotomy index place with earlier | same | later
  · exact absurd (isOther ▸ otherWanted) (notEarlier index earlier)
  · subst same
    exact .inl (isOther.symm.trans isCell)
  · have isBefore := List.pairwise_iff_getElem.mp inOrder place index inBounds otherInBounds later
    rw [isCell, isOther] at isBefore
    exact .inr isBefore

theorem leads_head (inOrder : cells.Pairwise fun left right => left.before right = true)
    (isCell : cells[0]? = some cell) : cell.Leads cells := by
  have found : cells.findIdx? (fun _ => true) = some 0 := by
    cases cells with
    | nil => cases isCell
    | cons => rfl
  simpa using leads_filter inOrder found isCell

end Coordinate

namespace Search

variable {search : Search} {cursor cell : Coordinate} {found : List Coordinate} {view : Table}

/-- The query of a request; what the request leaves open is as it was. -/
def asked (search : Search) (request : Command.FindRequest) : Query where
  text := request.text
  mode := request.mode.getD search.query.mode
  caseSensitive := request.caseSensitive.getD search.query.caseSensitive

/-- The search after a request that found some cells. -/
def answered (search : Search) (request : Command.FindRequest) (found : List Coordinate) : Search :=
  { search with query := search.asked request, found, index := none }

theorem setQuery_eq_ok {request : Command.FindRequest} {after : Search} :
    search.setQuery view request.text request.mode request.caseSensitive = .ok after ↔
      ∃ found, find search.threshold (search.asked request) view = .ok found ∧
        after = search.answered request found := by
  change (find search.threshold (search.asked request) view >>= fun found =>
    .ok (search.answered request found)) = .ok after ↔ _
  rw [bind_eq_ok]
  exact exists_congr fun found => and_congr_right fun _ => ⟨fun made => (Except.ok.inj made).symm,
    fun made => by rw [made]⟩

/-- The place that a search begins at. -/
def firstPlace (search : Search) (cursor : Coordinate) : Nat :=
  if search.query.mode = .fuzzy then 0
  else (search.found.findIdx? fun found => !found.before cursor).getD 0

theorem firstFrom_eq_goTo (notEmpty : search.found ≠ []) (cursor : Coordinate) :
    search.firstFrom cursor = search.goTo (search.firstPlace cursor) := by
  rw [firstFrom, if_neg (by simpa using notEmpty), firstPlace]
  split <;> rfl

theorem firstPlace_lt (notEmpty : search.found ≠ []) (cursor : Coordinate) :
    search.firstPlace cursor < search.found.length := by
  have length := List.length_pos_iff.mpr notEmpty
  unfold firstPlace
  split
  · exact length
  · exact getD_lt (fun _ => lt_of_findIdx?) length

/-- Matches in order are begun with at the cursor, or else at the first of all. -/
theorem leads_firstPlace (notFuzzy : search.query.mode ≠ .fuzzy)
    (inOrder : search.found.Pairwise fun left right => left.before right = true)
    (isCell : search.found[search.firstPlace cursor]? = some cell) :
    cell.Leads (cursor.ahead search.found) := by
  rw [firstPlace, if_neg notFuzzy] at isCell
  cases place : search.found.findIdx? fun found => !found.before cursor with
  | none =>
      have noneAhead : search.found.filter (fun found => !found.before cursor) = [] :=
        List.filter_eq_nil_iff.mpr fun found member => by
          simpa using List.findIdx?_eq_none_iff.mp place found member
      rw [place, Option.getD_none] at isCell
      rw [Coordinate.ahead, noneAhead, List.isEmpty_nil, if_pos rfl]
      exact Coordinate.leads_head inOrder isCell
  | some first =>
      rw [place, Option.getD_some] at isCell
      have leads := Coordinate.leads_filter inOrder place isCell
      rw [Coordinate.ahead, if_neg (by simpa using List.ne_nil_of_mem leads.1)]
      exact leads

/-- The head of similar cells has the highest score, and comes before all others of this score. -/
theorem best_of_head {caseSensitive : Bool} {query : String} {threshold : Binary64}
    {rest : List Coordinate}
    (similar : similarToIn .rounded caseSensitive query threshold view = cell :: rest) :
    cell.Best (Text.similarity caseSensitive query ∘ view.textAt) (cell :: rest) := by
  generalize isScored : Text.similarity caseSensitive query ∘ view.textAt = score
  have isScore (cell : Coordinate) : scoreIn .rounded caseSensitive query view cell = score cell :=
    isScored ▸ Arithmetic.similarity_rounded ..
  have compare (left right : Coordinate) (isLeft : left ∈ cell :: rest)
      (isRight : right ∈ cell :: rest) :
      (score left).lessEq (score right) = decide ((score left).rank ≤ (score right).rank) := by
    rw [← similar, mem_similarToIn_iff, isScore] at isLeft isRight
    exact Arithmetic.ordered_rounded isLeft.2.2 isRight.2.2
  have ranked : (cell :: rest).Pairwise fun left right =>
      (score right).rank < (score left).rank ∨
        (score left).rank = (score right).rank ∧ left.before right = true := by
    rw [← similar]
    simp only [← isScore]
    exact pairwise_similarToIn Arithmetic.ordered_rounded
  refine ⟨List.mem_cons_self, fun other member => ?_⟩
  rw [compare other cell member List.mem_cons_self, compare cell other List.mem_cons_self member,
    decide_eq_true_iff, decide_eq_true_iff]
  rcases List.mem_cons.mp member with rfl | inRest
  · exact ⟨le_refl _, fun _ => .inl rfl⟩
  · rcases (List.pairwise_cons.mp ranked).1 other inRest with higher | ⟨same, isBefore⟩
    · exact ⟨higher.le, fun notLower => absurd higher (not_lt.mpr notLower)⟩
    · exact ⟨same.ge, fun _ => .inr isBefore⟩

/-- Where a search in order begins. -/
theorem leads_answered {request : Command.FindRequest} {threshold : Binary64}
    (finds : find threshold (search.asked request) view = .ok found) (notEmpty : found ≠ [])
    (notFuzzy : (search.asked request).mode ≠ .fuzzy)
    (isCell : found[(search.answered request found).firstPlace cursor]? = some cell) :
    cell.Leads (cursor.ahead found) := by
  rcases find_cases finds notEmpty with ⟨_, holds, rfl⟩ | ⟨isFuzzy, _⟩
  · let answered := search.answered request (cellsWhere holds view)
    have inOrder : answered.found.Pairwise fun left right => left.before right = true :=
      pairwise_cellsWhere holds view
    have isStart : answered.found[answered.firstPlace cursor]? = some cell := isCell
    exact leads_firstPlace notFuzzy inOrder isStart
  · exact absurd isFuzzy notFuzzy

/-- Where a search for similar cells begins. -/
theorem best_answered {request : Command.FindRequest} {threshold : Binary64}
    (finds : find threshold (search.asked request) view = .ok found) (notEmpty : found ≠ [])
    (isFuzzy : (search.asked request).mode = .fuzzy)
    (isCell : found[(search.answered request found).firstPlace cursor]? = some cell) :
    cell.Best (Text.similarity (search.asked request).caseSensitive request.text ∘ view.textAt) found := by
  rcases find_cases finds notEmpty with ⟨notFuzzy, _⟩ | ⟨_, isFound⟩
  · exact absurd isFuzzy notFuzzy
  · have atHead : (search.answered request found).firstPlace cursor = 0 := if_pos isFuzzy
    rw [atHead] at isCell
    rcases found with _ | ⟨head, rest⟩
    · cases isCell
    · obtain rfl : head = cell := by simpa using isCell
      exact best_of_head isFound.symm

end Search

/-! ## Around the matches -/

/-- The place that comes next among some, or before, around. -/
def turned (backwards : Bool) (count place : Nat) : Nat :=
  (place + if backwards then count - 1 else 1) % count

theorem turned_lt {count place : Nat} (inBounds : place < count) (backwards : Bool) :
    turned backwards count place < count :=
  Nat.mod_lt _ (Nat.zero_lt_of_lt inBounds)

theorem turned_turned {count place : Nat} (inBounds : place < count) (backwards : Bool) :
    turned (!backwards) count (turned backwards count place) = place := by
  have around : place + 1 + (count - 1) = place + count := by omega
  have aroundAgain : place + (count - 1) + 1 = place + count := by omega
  cases backwards <;>
    simp [turned, around, aroundAgain, Nat.mod_eq_of_lt inBounds]

/-- The cell that is closest to a cell of a view is this cell. -/
theorem Table.HasCell.clampCursor {view : Table} {cell : Coordinate} (isCell : view.HasCell cell) :
    view.clampCursor cell.row cell.column = cell := by
  rcases isCell with ⟨isRow, isColumn⟩
  rcases cell with ⟨row, column⟩
  simp only at isRow isColumn
  simp only [Table.clampCursor, Window.clamp, Coordinate.mk.injEq]
  omega

namespace Workspace

/-- The cell that the cursor of the active tab is on. -/
def cursor? (workspace : Workspace) : Option Coordinate := workspace.activeTab?.map (·.cursor)

/-- Where the cursor is after each of some events. -/
def trail (workspace : Workspace) : List Event → List (Option Coordinate)
  | [] => []
  | event :: events => (workspace.step event).cursor? :: (workspace.step event).trail events

/-- Whether an event searches for what is requested, directly or as a command. -/
def Event.Seeks (settings : Settings) (request : Command.FindRequest) : Event → Prop
  | .find text mode caseSensitive => request = ⟨text, mode, caseSensitive⟩
  | .execute line _ => ∃ command, Command.parse (Execution.suggestion settings) line = .ok command ∧
      command.verb = .find ∧ Command.findRequest command.raw = .ok request
  | _ => False

/-- Whether an event goes to another match, directly or as a command. -/
def Event.GoesOn (settings : Settings) (backwards : Bool) : Event → Prop
  | .findNext direction => direction = backwards
  | .execute line _ => ∃ command, Command.parse (Execution.suggestion settings) line = .ok command ∧
      command.verb = if backwards then .findPrevious else .findNext
  | _ => False

/-- What was found in a view, under some settings. -/
structure Tour where
  settings : Settings
  view : Table
  found : List Coordinate
  inView : ∀ cell ∈ found, view.HasCell cell

/-- The tour through what was found. -/
def Tour.ofFind (settings : Settings) {threshold : Binary64} {query : Search.Query} {view : Table}
    {found : List Coordinate} (finds : Search.find threshold query view = .ok found) : Tour :=
  ⟨settings, view, found, (Search.nodup_and_hasCell_of_find finds).2⟩

/-- The view is that of the active tab, and both cursor and search are at a place of the tour. -/
structure Tour.At (tour : Tour) (place : Nat) (workspace : Workspace) : Prop where
  settings : workspace.settings = tour.settings
  given : workspace.search.query.text.isEmpty = false
  found : workspace.search.found = tour.found
  index : workspace.search.index = some place
  tab : ∃ tab, workspace.activeTab? = some tab ∧ tab.view = tour.view ∧
    tour.found[place]? = some tab.cursor

variable {tour : Tour} {place : Nat} {workspace : Workspace}

namespace Tour.At

theorem lt_length (isAt : tour.At place workspace) : place < tour.found.length := by
  rcases isAt.tab with ⟨_, _, _, isCell⟩
  exact (List.getElem?_eq_some_iff.mp isCell).1

/-- The cursor is on the match at the place. -/
theorem exists_cell (isAt : tour.At place workspace) :
    ∃ cell ∈ tour.found, tour.found[place]? = some cell ∧ workspace.cursor? = some cell := by
  rcases isAt.tab with ⟨tab, isActive, _, isCell⟩
  refine ⟨tab.cursor, List.mem_of_getElem? isCell, isCell, ?_⟩
  rw [cursor?, isActive]
  rfl

theorem cursor?_eq (isAt : tour.At place workspace) : workspace.cursor? = tour.found[place]? := by
  rcases isAt.exists_cell with ⟨cell, _, isCell, isCursor⟩
  rw [isCell, isCursor]

/-- Recording a line leaves the cursor where it is. -/
theorem noting (isAt : tour.At place workspace) (line : String) (isRecorded : Bool) :
    tour.At place (workspace.noting line isRecorded) := by
  rcases workspace.exists_noting line isRecorded with ⟨history, made⟩
  rw [made]
  exact ⟨isAt.settings, isAt.given, isAt.found, isAt.index, isAt.tab⟩

end Tour.At

/-! ## What acts do -/

theorem run_setSearch (search : Search) (workspace : Workspace) :
    Act.setSearch search workspace = (.ok (), workspace.withSearch search) := rfl

theorem run_setStatus (status : String) (workspace : Workspace) :
    Act.setStatus status workspace = (.ok (), workspace.withStatus status) := rfl

theorem run_moveToCell {tab : Tab} (isActive : workspace.activeTab? = some tab) (cell : Coordinate) :
    Act.moveToCell cell workspace =
      (.ok (), workspace.updateTab tab.id (Tab.movedTo workspace.grid cell.row cell.column)) := by
  simp only [Act.moveToCell, Act.moveTo, Act.requireTab, Act.run_bind, Act.run_get, isActive,
    Act.run_pure, Act.run_modify, Option.getD_some]

/-- To show the match at a place puts the cursor on it. -/
theorem exists_run_showMatch {tab : Tab} {search : Search}
    (isActive : workspace.activeTab? = some tab) (settings : workspace.settings = tour.settings)
    (sameView : tab.view = tour.view) (given : search.query.text.isEmpty = false)
    (found : search.found = tour.found) (inBounds : place < tour.found.length) :
    ∃ after, Act.showMatch (search.goTo place) workspace = (.ok true, after) ∧
      tour.At place after := by
  have isCell : tour.found[place]? = some tour.found[place] := List.getElem?_eq_getElem inBounds
  have hasCell := tour.inView _ (List.getElem_mem inBounds)
  have shown : (search.goTo place).2 = some tour.found[place] := by
    rw [Search.goTo, found, isCell]
  let after := ((workspace.withSearch (search.goTo place).1).updateTab tab.id
    (Tab.movedTo workspace.grid tour.found[place].row tour.found[place].column)).withStatus
      (search.goTo place).1.summary
  have ran : Act.showMatch (search.goTo place) workspace = (.ok true, after) := by
    have stillActive : (workspace.withSearch (search.goTo place).1).activeTab? = some tab := isActive
    simp only [Act.showMatch, Act.run_bind, run_setSearch, shown, run_moveToCell stillActive,
      run_setStatus, Act.run_pure, Option.isSome_some]
    rfl
  have isActiveAfter : after.activeTab? = some
      (tab.movedTo workspace.grid tour.found[place].row tour.found[place].column) := by
    change (updateTab _ _ _).activeTab? = _
    rw [activeTab?_updateTab]
    change (workspace.activeTab?.map _) = _
    rw [isActive, Option.map_some, if_pos rfl]
  refine ⟨after, ran, settings, given, found, rfl, _, isActiveAfter, sameView, ?_⟩
  rw [isCell]
  change _ = some (tab.view.clampCursor _ _)
  rw [sameView, hasCell.clampCursor]

/-- Going on from a place of the tour ends at the one that comes next, or before. -/
theorem Tour.At.exists_run_findNext (isAt : tour.At place workspace) (backwards : Bool) :
    ∃ after, Act.findNext backwards workspace = (.ok true, after) ∧
      tour.At (turned backwards tour.found.length place) after := by
  rcases isAt.tab with ⟨tab, isActive, sameView, _⟩
  have notEmpty : tour.found ≠ [] := List.ne_nil_of_length_pos (Nat.zero_lt_of_lt isAt.lt_length)
  have goes : (if backwards then workspace.search.previousFrom tab.cursor
      else workspace.search.nextFrom tab.cursor) =
        workspace.search.goTo (turned backwards tour.found.length place) := by
    cases backwards <;>
      simp [Search.previousFrom, Search.nextFrom, notEmpty, isAt.index, isAt.found, turned]
  rcases exists_run_showMatch isActive isAt.settings sameView isAt.given isAt.found
    (turned_lt isAt.lt_length backwards) with ⟨after, ran, isAtAfter⟩
  refine ⟨after, ?_, isAtAfter⟩
  simp only [Act.findNext, Act.requireTab, Act.run_bind, Act.run_get, isActive, Act.run_pure,
    isAt.given, Bool.false_eq_true, if_false, goes, ran]

theorem step_execute {line : String} {isRecorded : Bool} {command : Command} {reply : Reply}
    {after : Workspace}
    (isCommand : Command.parse (Execution.suggestion workspace.settings) line = .ok command)
    (performed : Execution.perform command (workspace.noting line isRecorded) = (.ok reply, after)) :
    workspace.step (.execute line isRecorded) = after := by
  rw [step, Event.act, Act.run_discard, Act.run_execute, Act.run_tryCatch, Act.run_bind, commandOf,
    isCommand, Act.run_ofOutcome]
  simp only [performed]

/-- Each event that goes on takes one step of the tour, and changes neither its view nor its matches. -/
theorem Tour.At.step (isAt : tour.At place workspace) {event : Event} {backwards : Bool}
    (goesOn : event.GoesOn tour.settings backwards) :
    tour.At (turned backwards tour.found.length place) (workspace.step event) := by
  cases event with
  | findNext direction =>
      obtain rfl := goesOn
      rcases isAt.exists_run_findNext direction with ⟨after, ran, isAtAfter⟩
      rw [Workspace.step, Event.act, Act.run_discard, ran]
      exact isAtAfter
  | execute line isRecorded =>
      rcases goesOn with ⟨command, isCommand, verb⟩
      rcases (isAt.noting line isRecorded).exists_run_findNext backwards with
        ⟨after, ran, isAtAfter⟩
      have again : Execution.perform command = Execution.findAgain backwards := by
        rw [Execution.perform, verb]
        cases backwards <;> rfl
      have performed : Execution.perform command (workspace.noting line isRecorded) =
          (.ok { message := after.status }, after) := by
        rw [again, Execution.findAgain, Act.run_bind, Act.run_discard, ran]
        rfl
      rw [← isAt.settings] at isCommand
      rw [step_execute isCommand performed]
      exact isAtAfter
  | _ => exact goesOn.elim

/-! ## Searching -/

section Searching

variable {tab : Tab} {request : Command.FindRequest} {found : List Coordinate}

/-- The tour begins at the first place from the cursor. -/
theorem exists_run_find (isActive : workspace.activeTab? = some tab)
    (finds : Search.find workspace.search.threshold (workspace.search.asked request) tab.view =
      .ok found) (notEmpty : found ≠ []) :
    ∃ after, Act.find request.text request.mode request.caseSensitive workspace = (.ok true, after) ∧
      (Tour.ofFind workspace.settings finds).At
        ((workspace.search.answered request found).firstPlace tab.cursor) after := by
  let answered := workspace.search.answered request found
  have isFound : answered.Finds tab.view := finds
  have given : answered.query.text.isEmpty = false :=
    Bool.eq_false_iff.mpr fun isEmpty => notEmpty (isFound.of_empty isEmpty)
  have made : workspace.search.setQuery tab.view request.text request.mode request.caseSensitive =
      .ok answered := Search.setQuery_eq_ok.mpr ⟨found, finds, rfl⟩
  have stillActive : (workspace.withSearch answered).activeTab? = some tab := isActive
  have begins : answered.firstFrom tab.cursor = answered.goTo (answered.firstPlace tab.cursor) :=
    Search.firstFrom_eq_goTo notEmpty tab.cursor
  have inBounds : answered.firstPlace tab.cursor < (Tour.ofFind workspace.settings finds).found.length :=
    Search.firstPlace_lt notEmpty tab.cursor
  rcases exists_run_showMatch stillActive rfl rfl given rfl inBounds with ⟨after, ran, isAt⟩
  refine ⟨after, ?_, isAt⟩
  simp only [Act.find, Act.requireTab, Act.run_bind, Act.run_get, isActive, Act.run_pure, made,
    Act.run_ofOutcome, run_setSearch, begins, ran]

theorem findRequest_empty : Command.findRequest "" = .ok ⟨"", none, none⟩ := by
  rfl

/-- A search by whatever event begins the tour. -/
theorem at_seek (isActive : workspace.activeTab? = some tab) {event : Event}
    (seeks : event.Seeks workspace.settings request)
    (finds : Search.find workspace.search.threshold (workspace.search.asked request) tab.view =
      .ok found) (notEmpty : found ≠ []) :
    (Tour.ofFind workspace.settings finds).At
      ((workspace.search.answered request found).firstPlace tab.cursor) (workspace.step event) := by
  cases event with
  | find text mode caseSensitive =>
      obtain rfl := seeks
      rcases exists_run_find isActive finds notEmpty with ⟨after, ran, isAt⟩
      rw [step, Event.act, Act.run_discard, ran]
      exact isAt
  | execute line isRecorded =>
      rcases seeks with ⟨command, isCommand, verb, isRequest⟩
      have isFound : (workspace.search.answered request found).Finds tab.view := finds
      have given : request.text.isEmpty = false :=
        Bool.eq_false_iff.mpr fun isEmpty => notEmpty (isFound.of_empty isEmpty)
      have rawGiven : command.raw.isEmpty = false := by
        rw [Bool.eq_false_iff]
        intro isEmpty
        rw [String.isEmpty_iff.mp isEmpty, findRequest_empty] at isRequest
        rw [← Except.ok.inj isRequest] at given
        cases given
      rcases workspace.exists_noting line isRecorded with ⟨history, made⟩
      have noted : Workspace.activeTab? { workspace with history } = some tab := isActive
      rcases exists_run_find noted finds notEmpty with ⟨after, ran, isAt⟩
      have performed : Execution.perform command (workspace.noting line isRecorded) =
          (.ok { message := after.status }, after) := by
        rw [Execution.perform, verb]
        simp only [Execution.findText, Execution.requireRaw, rawGiven, Bool.false_eq_true, if_false,
          Act.run_bind, Act.run_pure, isRequest, Act.run_ofOutcome, given, made, Act.run_discard, ran,
          Act.run_get]
      rw [step_execute isCommand performed]
      exact isAt
  | _ => exact seeks.elim

end Searching

/-! ## Runs -/

/-- However the matches are gone through, the cursor stays on one of them. -/
theorem Tour.At.exists_after (isAt : tour.At place workspace) {events : List Event}
    (goOn : ∀ event ∈ events, ∃ backwards, event.GoesOn tour.settings backwards) :
    ∃ place, tour.At place (workspace.after events) := by
  induction events generalizing workspace place with
  | nil => exact ⟨place, isAt⟩
  | cons event events induction =>
      rcases goOn event List.mem_cons_self with ⟨backwards, goesOn⟩
      exact induction (isAt.step goesOn) fun later member =>
        goOn later (List.mem_cons_of_mem event member)

/-- Steps forward visit the matches that follow, around. -/
theorem Tour.At.trail_eq (isAt : tour.At place workspace) {events : List Event}
    (goOn : ∀ event ∈ events, event.GoesOn tour.settings false) :
    workspace.trail events = (List.range events.length).map fun number =>
      tour.found[(number + (place + 1)) % tour.found.length]? := by
  induction events generalizing workspace place with
  | nil => rfl
  | cons event events induction =>
      have isNext := isAt.step (goOn event List.mem_cons_self)
      rw [trail, isNext.cursor?_eq, induction isNext fun later member =>
        goOn later (List.mem_cons_of_mem event member), List.length_cons, List.range_succ_eq_map,
        List.map_cons, List.map_map]
      refine congrArg₂ List.cons (by rw [Nat.zero_add]; rfl) (List.map_congr_left fun number _ => ?_)
      have around : (number + ((place + 1) % tour.found.length + 1)) % tour.found.length =
          (number + 1 + (place + 1)) % tour.found.length := by
        rw [Nat.add_comm _ 1, ← Nat.add_assoc, Nat.add_mod_mod]
      exact congrArg (tour.found[·]?) around

theorem Tour.At.after (isAt : tour.At place workspace) {events : List Event}
    (goOn : ∀ event ∈ events, event.GoesOn tour.settings false) :
    tour.At ((place + events.length) % tour.found.length) (workspace.after events) := by
  induction events generalizing workspace place with
  | nil => rwa [List.length_nil, Nat.add_zero, Nat.mod_eq_of_lt isAt.lt_length]
  | cons event events induction =>
      have isNext := isAt.step (goOn event List.mem_cons_self)
      have isAfter := induction isNext fun later member =>
        goOn later (List.mem_cons_of_mem event member)
      rw [turned, Nat.mod_add_mod] at isAfter
      rwa [List.length_cons, Nat.add_comm events.length, ← Nat.add_assoc]

/-- As many steps forward as there are matches visit each of them, and end where they began. -/
theorem Tour.At.around (isAt : tour.At place workspace) {events : List Event}
    (goOn : ∀ event ∈ events, event.GoesOn tour.settings false)
    (length : events.length = tour.found.length) :
    (workspace.trail events).Perm (tour.found.map some) ∧
      (workspace.after events).cursor? = workspace.cursor? := by
  constructor
  · have isRotated : workspace.trail events = (tour.found.rotate (place + 1)).map some := by
      rw [isAt.trail_eq goOn, length]
      refine List.ext_getElem (by simp) fun number _ _ => ?_
      have inBounds : (number + (place + 1)) % tour.found.length < tour.found.length :=
        Nat.mod_lt _ (Nat.zero_lt_of_lt isAt.lt_length)
      rw [List.getElem_map, List.getElem_map, List.getElem_range, List.getElem_rotate,
        List.getElem?_eq_getElem inBounds]
    rw [isRotated]
    exact (List.rotate_perm tour.found (place + 1)).map some
  · have isAfter := isAt.after goOn
    rw [length, Nat.add_mod_right, Nat.mod_eq_of_lt isAt.lt_length] at isAfter
    exact isAfter.cursor?_eq.trans isAt.cursor?_eq.symm

/-- A step the other way undoes a step. -/
theorem Tour.At.back (isAt : tour.At place workspace) {onward back : Event} {backwards : Bool}
    (goesOn : onward.GoesOn tour.settings backwards)
    (goesBack : back.GoesOn tour.settings (!backwards)) :
    tour.At place ((workspace.step onward).step back) := by
  have isBack := (isAt.step goesOn).step goesBack
  rwa [turned_turned isAt.lt_length] at isBack

/--
A search that finds something puts the cursor on the first match from where it was, or on the
best one when matches are similar cells. As many steps forward as there are matches visit each
of them once and end where the search began. However the matches were gone through, a step the
other way undoes a step.
-/
theorem find_visits_matches (workspace : Workspace) {tab : Tab}
    (isActive : workspace.activeTab? = some tab) {event : Event} {request : Command.FindRequest}
    (seeks : event.Seeks workspace.settings request) {found : List Coordinate}
    (finds : Search.find workspace.search.threshold (workspace.search.asked request) tab.view =
      .ok found) (notEmpty : found ≠ []) :
    let query := workspace.search.asked request
    let sought := workspace.step event
    found.Nodup ∧ ∃ start, sought.cursor? = some start ∧
      (query.mode ≠ .fuzzy → start.Leads (tab.cursor.ahead found)) ∧
      (query.mode = .fuzzy →
        start.Best (Text.similarity query.caseSensitive query.text ∘ tab.view.textAt) found) ∧
      (∀ events : List Event, events.length = found.length →
        (∀ event ∈ events, event.GoesOn workspace.settings false) →
          (sought.trail events).Perm (found.map some) ∧
            (sought.after events).cursor? = some start) ∧
      ∀ (events : List Event) (onward back : Event) (backwards : Bool),
        (∀ event ∈ events, ∃ backwards, event.GoesOn workspace.settings backwards) →
          onward.GoesOn workspace.settings backwards → back.GoesOn workspace.settings (!backwards) →
            ∃ cell ∈ found, (sought.after events).cursor? = some cell ∧
              (((sought.after events).step onward).step back).cursor? = some cell := by
  intro query sought
  have isAt := at_seek isActive seeks finds notEmpty
  rcases isAt.exists_cell with ⟨start, _, isStart, isCursor⟩
  refine ⟨(Search.nodup_and_hasCell_of_find finds).1, start, isCursor,
    fun notFuzzy => Search.leads_answered finds notEmpty notFuzzy isStart,
    fun isFuzzy => Search.best_answered finds notEmpty isFuzzy isStart,
    fun events length goOn => ?_, fun events onward back backwards goOn goesOn goesBack => ?_⟩
  · rw [← isCursor]
    exact isAt.around goOn length
  · rcases isAt.exists_after goOn with ⟨place, isPlace⟩
    rcases isPlace.exists_cell with ⟨cell, member, isCell, isThere⟩
    exact ⟨cell, member, isThere, ((isPlace.back goesOn goesBack).cursor?_eq).trans isCell⟩

/-- From the second of three names a search goes on to the third, and then around. -/
theorem find_visits_names :
    let opened := (start {} { surroundings := ⟨[], []⟩ } .deferred).after
      [.openTable Search.names "t" [], .move 1 0]
    let sought := opened.step (.execute "find jo" true)
    let forward : List Event := [.execute "find-next" true, .findNext false, .execute "find-next" false]
    ∃ tab, opened.activeTab? = some tab ∧
      Search.find opened.search.threshold ⟨"jo", .literal, false⟩ tab.view =
        .ok [⟨0, 0⟩, ⟨1, 0⟩, ⟨2, 0⟩] ∧
      (∃ first, sought.cursor? = some first ∧ first.Leads [⟨1, 0⟩, ⟨2, 0⟩] ∧
        (sought.trail forward).Perm [some ⟨0, 0⟩, some ⟨1, 0⟩, some ⟨2, 0⟩] ∧
          (sought.after forward).cursor? = some first) ∧
      ∃ cell, (sought.after [.findNext false]).cursor? = some cell ∧
        (((sought.after [.findNext false]).step (.execute "find-prev" true)).step
          (.findNext false)).cursor? = some cell := by
  intro opened sought forward
  have active : ∃ tab, opened.activeTab? = some tab ∧ tab.view = Search.names ∧
      tab.cursor = ⟨1, 0⟩ := ⟨_, rfl, rfl, rfl⟩
  rcases active with ⟨tab, isActive, view, cursor⟩
  have finds : Search.find opened.search.threshold ⟨"jo", .literal, false⟩ tab.view =
      .ok [⟨0, 0⟩, ⟨1, 0⟩, ⟨2, 0⟩] := by
    rw [view]
    rfl
  have seeks : (Event.execute "find jo" true).Seeks opened.settings ⟨"jo", none, none⟩ :=
    ⟨⟨.find, ["jo"], "jo"⟩, rfl, rfl, rfl⟩
  rcases find_visits_matches opened isActive seeks finds (List.cons_ne_nil _ _) with
    ⟨_, first, isCursor, leads, _, around, back⟩
  have isFirst := leads (by decide)
  rw [cursor] at isFirst
  have goesOn : (Event.findNext false).GoesOn opened.settings false := rfl
  have goesOnByLine (isRecorded : Bool) :
      (Event.execute "find-next" isRecorded).GoesOn opened.settings false :=
    ⟨⟨.findNext, [], ""⟩, rfl, rfl⟩
  have goesBackByLine : (Event.execute "find-prev" true).GoesOn opened.settings true :=
    ⟨⟨.findPrevious, [], ""⟩, rfl, rfl⟩
  have goOn : ∀ event ∈ forward, event.GoesOn opened.settings false := by
    simp [forward, goesOn, goesOnByLine]
  have goneOn : ∀ event ∈ [Event.findNext false], ∃ backwards,
      event.GoesOn opened.settings backwards :=
    fun event member => ⟨false, by rwa [List.mem_singleton.mp member]⟩
  rcases back [.findNext false] _ _ true goneOn goesBackByLine goesOn with
    ⟨cell, _, isThere, isBack⟩
  exact ⟨tab, isActive, finds, ⟨first, isCursor, isFirst, around forward rfl goOn⟩,
    cell, isThere, isBack⟩

end Workspace

end TableBrowser
