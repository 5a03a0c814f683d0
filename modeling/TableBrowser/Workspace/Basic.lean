import TableBrowser.Input.Keymap
import TableBrowser.Pipeline.Basic
import TableBrowser.Screen.Frame
import TableBrowser.Settings
import TableBrowser.Storage.Source
/-!
# Workspaces

A workspace holds the tabs, which of them is active, the search, which is shared
by all tabs, and the history of commands. What can fail is an `Act`: it leaves a
workspace behind also when it fails.
-/

/-! ## Tabs

A tab shows the view of a pipeline through a window, with a cursor on a cell.
While the source of a tab is loading, the tab shows an empty table and keeps the
steps that are to be applied to what arrives.
-/

namespace TableBrowser

open Window (Scroll)

structure Tab where
  id : Nat
  name : String
  pipeline : Pipeline
  source : Option Source := none
  cursor : Coordinate := ⟨0, 0⟩
  scroll : Scroll := {}
  /-- The widths of the columns of the view. -/
  widths : List Nat := []
  isLoading : Bool := false
  /-- Steps for the table that is being loaded. -/
  queuedSteps : List Step := []

/-- How columns are measured and cells are cut under some settings. -/
def Settings.appearance (settings : Settings) : Appearance where
  sampleRows := settings.widthSampleRows
  minimumWidth := settings.minColumnWidth
  maximumWidth := settings.maxColumnWidth
  ellipsis := settings.ellipsis

namespace Tab

def view (tab : Tab) : Table := tab.pipeline.view

def isBusy (tab : Tab) : Bool := tab.isLoading || tab.pipeline.isBusy

/-- The tab with its window moved so that it shows the cursor. -/
def following (grid : Size) (tab : Tab) : Tab :=
  { tab with
    scroll := {
      top := Window.topFor tab.scroll.top tab.cursor.row (visibleRows grid.height) tab.view.rowCount
      left := Window.leftFor tab.scroll.left tab.cursor.column tab.widths grid.width } }

/-- The tab with its cursor on the cell closest to a place. -/
def movedTo (grid : Size) (row column : Int) (tab : Tab) : Tab :=
  { tab with cursor := tab.view.clampCursor row column }.following grid

/-- The tab fitted to a view that has changed. -/
def measured (appearance : Appearance) (grid : Size) (tab : Tab) : Tab :=
  { tab with widths := tab.view.columnWidths appearance }.movedTo grid tab.cursor.row tab.cursor.column

end Tab

/-! ### Jobs and messages

Work on data is handed out as jobs. A job that is done becomes a message, which
names the tab that it was done for and may arrive at any time.
-/

inductive Job where
  | load (tab : Nat) (source : Source)
  | evaluate (tab : Nat) (request : EvaluationRequest)

/-- What came of a job: a table, a failure with the step at fault, or neither. -/
inductive JobResult where
  | table (table : Table)
  | failed (cause : Failure) (stepIndex : Option Nat)
  | nothing

inductive Message where
  | loaded (tab : Nat) (result : JobResult)
  | evaluated (tab generation : Nat) (steps : List Step) (result : JobResult)

/-- What a job tells of its outcome; a fault is told as a failure. -/
def JobResult.of : Outcome Table → JobResult
  | .ok made => .table made
  | .error problem => .failed problem.reported.1 problem.reported.2

/-- The failure behind a result without a table. -/
def JobResult.failure (work : Work) : JobResult → Failure × Option Nat
  | .failed cause stepIndex => (cause, stepIndex)
  | _ => (.tab (.noResult work), none)

namespace Message

def tab : Message → Nat
  | .loaded tab _ => tab
  | .evaluated tab _ _ _ => tab

end Message

/-- Does a job; sources are read from the files there are. -/
def Job.run (files : FileTree) : Job → Message
  | .load tab source => .loaded tab (.of (source.load files))
  | .evaluate tab request =>
      .evaluated tab request.generation request.steps (.of request.run)

/-! ## Workspaces -/

/-- When jobs are done: as soon as they are handed out, or when one is picked. -/
inductive Scheduling where
  | immediate
  | deferred
deriving DecidableEq, Repr

structure Workspace where
  settings : Settings
  files : FileTree
  scheduling : Scheduling
  tabs : List Tab := []
  active : Nat := 0
  /-- Commands, the newest one last. -/
  history : List String := []
  search : Search
  mode : InputMode := .navigation
  status : String := ""
  quitRequested : Bool := false
  /-- The part of the screen that shows the view. -/
  grid : Size := ⟨80, 22⟩
  nextId : Nat := 1
  /-- Jobs handed out and not done, the oldest first. -/
  jobs : List Job := []
  /-- Messages that have come and are not handled, the oldest first. -/
  messages : List Message := []

/-- Something done to a workspace, with what comes of it. -/
abbrev Act (α : Type) := ExceptT Problem (StateM Workspace) α

namespace Workspace

def start (settings : Settings) (files : FileTree) (scheduling : Scheduling) : Workspace where
  settings
  files
  scheduling
  search := { threshold := settings.fuzzyThreshold }

/-! ## Tabs of a workspace -/

def activeTab? (workspace : Workspace) : Option Tab := workspace.tabs[workspace.active]?

def tabOf? (workspace : Workspace) (id : Nat) : Option Tab :=
  workspace.tabs.find? (·.id = id)

def updateTab (workspace : Workspace) (id : Nat) (change : Tab → Tab) : Workspace :=
  { workspace with tabs := workspace.tabs.map fun tab => if tab.id = id then change tab else tab }

/-- The workspace with room for a grid of another size, in which the windows follow the cursors. -/
def resized (workspace : Workspace) (grid : Size) : Workspace :=
  { workspace with grid, tabs := workspace.tabs.map (Tab.following grid) }

def newPipeline (workspace : Workspace) (base : Table) (steps : List Step) : Pipeline :=
  .start base steps workspace.settings.sqlTableName workspace.settings.cacheSize.toNat

/-- Adds a tab behind the others and makes it the active one. -/
def addTab (workspace : Workspace) (tab : Nat → Tab) : Workspace :=
  { workspace with
    tabs := workspace.tabs ++ [tab workspace.nextId]
    active := workspace.tabs.length
    nextId := workspace.nextId + 1 }

/-- Takes the tab at a place away; when it was the last one the session is to end. -/
def removeTab (workspace : Workspace) (index : Nat) : Workspace :=
  let tabs := workspace.tabs.eraseIdx index
  let active := if index < workspace.active then workspace.active - 1 else workspace.active
  { workspace with
    tabs
    active := min active (tabs.length - 1)
    quitRequested := workspace.quitRequested || tabs.isEmpty }

/-! ## Jobs -/

def submit (workspace : Workspace) (job : Job) : Workspace :=
  match workspace.scheduling with
  | .immediate =>
      { workspace with messages := workspace.messages ++ [job.run workspace.files] }
  | .deferred => { workspace with jobs := workspace.jobs ++ [job] }

def finish? (workspace : Workspace) (index : Nat) : Option Workspace :=
  workspace.jobs[index]?.map fun job =>
    { workspace with
      jobs := workspace.jobs.eraseIdx index
      messages := workspace.messages ++ [job.run workspace.files] }

/-! ## History -/

/-- Records a command, unless it is empty or the same as the one before. -/
def record (workspace : Workspace) (line : String) : Workspace :=
  let line := Text.trim line
  if line.isEmpty || workspace.history.getLast? = some line then workspace
  else
    let history := workspace.history ++ [line]
    { workspace with history := history.drop (history.length - workspace.settings.historySize.toNat) }

end Workspace

/-! ## Acts -/

namespace Act

def fail {α : Type} (failure : Failure) : Act α := throw (.failure failure none)

/-- Something that does not depend on a workspace. -/
def ofOutcome {α : Type} : Outcome α → Act α
  | .ok value => return value
  | .error problem => throw problem

def ofFaulty {α : Type} : Except Fault α → Act α
  | .ok value => return value
  | .error fault => throw (.fault fault)

def setStatus (status : String) : Act Unit :=
  modify fun workspace => { workspace with status }

def setSearch (search : Search) : Act Unit :=
  modify fun workspace => { workspace with search }

def requireTab : Act Tab := do
  match (← get).activeTab? with
  | some tab => return tab
  | none => fail (.tab .none)

/-- The active tab, which must not be loading. -/
def requireLoaded (wanted : WantedFor) : Act Tab := do
  let tab ← requireTab
  if tab.isLoading then fail (.tab (.loading tab.name wanted))
  return tab

/-! ## Views -/

/-- Searches a view for what was searched for before. -/
def searchAgain (view : Table) : Act Unit := do
  setSearch (← ofOutcome ((← get).search.recompute view))

/-- The active tab has become another one. -/
def activated : Act Unit := do
  match (← get).activeTab? with
  | some tab => searchAgain tab.view
  | none => return

/-- Fits a tab to its view, and the search when it is the active one. -/
def viewChanged (id : Nat) : Act Unit := do
  modify fun workspace =>
    workspace.updateTab id (Tab.measured workspace.settings.appearance workspace.grid)
  match (← get).activeTab? with
  | some tab => if tab.id = id then searchAgain tab.view
  | none => return

/-- Hands a request out; without one the view has been found at once. -/
def schedule (id : Nat) : Option EvaluationRequest → Act Unit
  | some request => modify (·.submit (.evaluate id request))
  | none => viewChanged id

/-- Takes what an edit makes of the pipeline of a tab, also when it failed. -/
def edited (id : Nat) (result : Pipeline.Edited) : Act Unit := do
  modify (·.updateTab id fun tab => { tab with pipeline := result.1 })
  schedule id (← ofOutcome result.2)

/-! ## Opening and closing tabs -/

def addTab (tab : Nat → Tab) : Act Nat := do
  let id := (← get).nextId
  modify (·.addTab tab)
  return id

/-- Opens a tab that is empty until its source has been loaded. -/
def openSource (source : Source) (steps : List Step) : Act Unit := do
  let workspace ← get
  let id ← addTab fun id => {
    id, name := source.name, pipeline := workspace.newPipeline .empty [], source := some source
    isLoading := true, queuedSteps := steps }
  modify (·.submit (.load id source))
  viewChanged id

def openTable (table : Table) (name : String) (steps : List Step) : Act Unit := do
  let pipeline := (← get).newPipeline table steps
  let id ← addTab fun id => { id, name, pipeline }
  if !steps.isEmpty then edited id pipeline.request
  viewChanged id

/-- Opens a tab with the pipeline, the cursor and the window of the active one. -/
def duplicateTab : Act Unit := do
  let tab ← requireLoaded .duplicate
  let pipeline := (← get).newPipeline tab.pipeline.base tab.pipeline.steps
  let id ← addTab fun id => {
    id, name := tab.name, pipeline, source := tab.source, cursor := tab.cursor
    scroll := tab.scroll }
  edited id pipeline.request
  viewChanged id

/-- The fields of a row: name, type and text. -/
def fieldsOf (view : Table) (row : Nat) : Except Fault (List (List Datum)) :=
  view.columns.mapM fun column =>
    match column.values[row]? with
    | some cell => .ok [.text column.name, .text column.type.name, .text cell.cellText]
    | none => .error (.indexOutOfRange .row)

/-- Opens a tab with the fields of the row under the cursor, one in a row. -/
def openRecord : Act Unit := do
  let tab ← requireTab
  if tab.view.rowCount = 0 then fail (.tab .emptyView)
  let fields ← ofFaulty (fieldsOf tab.view tab.cursor.row)
  let text := some ColumnType.string
  match Table.ofRows ["field", "type", "value"] fields [text, text, text] with
  | .ok table =>
      openTable table (tab.name ++ "[" ++ Decimal.natText (tab.cursor.row + 1) ++ "]") []
  | .error problem => fail (.table problem)

def closeTab : Act Unit := do
  discard requireTab
  modify fun workspace => workspace.removeTab workspace.active
  activated

/-- Makes the tab some places further the active one, around. -/
def switchTab (places : Int) : Act Unit := do
  if (← get).tabs.isEmpty then return
  modify fun workspace =>
    { workspace with active := ((workspace.active + places) % workspace.tabs.length).toNat }
  activated

/-! ## Edits of the pipeline -/

def edit (change : Pipeline → Pipeline.Edited) : Act Unit := do
  let tab ← requireLoaded .edit
  edited tab.id (change tab.pipeline)

def pushStep (step : Step) : Act Unit := edit (·.push step)

def undo : Act Unit := edit (·.undo)

def reset : Act Unit := edit (·.reset)

def replaceSteps (steps : List Step) : Act Unit := edit (·.replace steps)

/-! ## The cursor -/

/-- Moves the cursor of the active tab to the cell closest to a place. -/
def moveTo (row : Int) (column : Option Int) : Act Unit := do
  let tab ← requireTab
  modify fun workspace =>
    workspace.updateTab tab.id (Tab.movedTo workspace.grid row (column.getD tab.cursor.column))

def moveToCell (cell : Coordinate) : Act Unit := moveTo cell.row (some cell.column)

def move (rows columns : Int) : Act Unit := do
  let tab ← requireTab
  moveTo (tab.cursor.row + rows) (some (tab.cursor.column + columns))

def top : Act Unit := moveTo 0 none

def bottom : Act Unit := do
  let tab ← requireTab
  moveTo ((tab.view.rowCount : Int) - 1) none

def firstColumn : Act Unit := do
  let tab ← requireTab
  moveTo tab.cursor.row (some 0)

def lastColumn : Act Unit := do
  let tab ← requireTab
  moveTo tab.cursor.row (some ((tab.view.columnCount : Int) - 1))

/-- Moves by a fraction of the visible rows, by one row at least. -/
def page (fraction : Binary64) : Act Unit := do
  let rows := max (visibleRows (← get).grid.height) 1
  match ((Binary64.ofInt rows).mul fraction).truncate with
  | some 0 => move (if Binary64.zero.less fraction then 1 else -1) 0
  | some rows => move rows 0
  | none => throw (.fault (.notIntegral (!fraction.isNaN)))

/-! ## Searching -/

/-- Shows where the search stands, after going to a match if there is one. -/
def showMatch (result : Search × Option Coordinate) : Act Bool := do
  setSearch result.1
  match result.2 with
  | some cell => moveToCell cell
  | none => pure ()
  setStatus result.1.summary
  return result.2.isSome

/-- Searches the view and goes to the first match from the cursor on. -/
def find (text : String) (mode : Option Search.Mode) (caseSensitive : Option Bool) : Act Bool := do
  let tab ← requireTab
  let search ← ofOutcome ((← get).search.setQuery tab.view text mode caseSensitive)
  setSearch search
  showMatch (search.firstFrom tab.cursor)

def findNext (backwards : Bool) : Act Bool := do
  let tab ← requireTab
  let search := (← get).search
  if search.query.text.isEmpty then fail (.search .noActiveSearch)
  showMatch (if backwards then search.previousFrom tab.cursor else search.nextFrom tab.cursor)

end Act

end TableBrowser
