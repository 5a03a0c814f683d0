import TableBrowser.Input.Keymap
import TableBrowser.Workspace.Delivery
import TableBrowser.Workspace.Execution
/-!
# Sessions

A session takes keys and changes of size, one at a time. Keys move through the
view, or edit a line: a command, or a search that is followed while it is typed.
Leaving the line of a search puts the search and the cursor back where they were.
-/

namespace TableBrowser

open Window (Scroll)

/-- The search, and the place in the view, from which a search line was opened. -/
structure SearchOrigin where
  search : Search
  place : Option (Coordinate × Scroll)

structure Session where
  workspace : Workspace
  line : LineBuffer := {}
  size : Size
  isRunning : Bool := true
  /-- What the search line goes back to while it is open. -/
  origin : Option SearchOrigin := none

inductive Event where
  | key (press : KeyPress)
  | resize (size : Size)
deriving DecidableEq, Repr

/-- Something done in a session, which also leaves a session behind when it fails. -/
abbrev SessionAct (α : Type) := ExceptT Problem (StateM Session) α

namespace Session

/-- A session on a workspace, which is fitted to the screen. -/
def start (workspace : Workspace) (size : Size) : Session where
  workspace := workspace.resized (Screen.gridSize size)
  size

def mode (session : Session) : InputMode := session.workspace.mode

def resized (session : Session) (size : Size) : Session :=
  { session with size, workspace := session.workspace.resized (Screen.gridSize size) }

end Session

namespace SessionAct

/-- Something done to the workspace of a session. -/
def ofAct {α : Type} (act : Act α) : SessionAct α := fun session =>
  let (result, workspace) := act session.workspace
  (result, { session with workspace })

def modifyWorkspace (change : Workspace → Workspace) : SessionAct Unit :=
  modify fun session => { session with workspace := change session.workspace }

def modifyLine (change : LineBuffer → LineBuffer) : SessionAct Unit :=
  modify fun session => { session with line := change session.line }

def stop : SessionAct Unit := modify fun session => { session with isRunning := false }

/-! ## The line -/

/-- Opens a line with a text; a command line can recall earlier commands. -/
def openCommandLine (text : String) : SessionAct Unit :=
  modify fun session =>
    { session with
      workspace := { session.workspace with mode := .command }
      line := LineBuffer.start text session.workspace.history }

def openSearchLine : SessionAct Unit :=
  modify fun session =>
    { session with
      workspace := { session.workspace with mode := .search }
      line := LineBuffer.start "" []
      origin := some {
        search := session.workspace.search
        place := session.workspace.activeTab?.map fun tab => (tab.cursor, tab.scroll) } }

def closeLine : SessionAct Unit :=
  modify fun session =>
    { session with
      workspace := { session.workspace with mode := .navigation }
      origin := none }

/-- Searches for the text of the line, from the cell on which the line was opened. -/
def followSearch (text : String) (place : Option (Coordinate × Scroll)) : Act Unit := do
  let some tab := (← get).activeTab? | return
  let start := (place.map (·.1)).getD tab.cursor
  if text.isEmpty then
    Act.setSearch (← get).search.clear
    Act.moveToCell start
  else
    let search ← Act.ofOutcome ((← get).search.setQuery tab.view text none none)
    let (search, target) := search.firstFrom start
    Act.setSearch search
    Act.moveToCell (target.getD start)
    Act.setStatus search.summary

/-- The line has changed: a search follows what is typed. -/
def lineChanged : SessionAct Unit := do
  let session ← get
  if session.mode = .search then
    ofAct (followSearch session.line.content (session.origin.bind (·.place)))

def run (line : String) (isRecorded : Bool) : SessionAct Unit := do
  let reply ← ofAct (Act.execute line isRecorded)
  ofAct (Act.setStatus reply.message)
  if reply.quit || (← get).workspace.quitRequested then stop

/-- Leaves the line with what has been typed: a search is kept, a command is executed. -/
def submit : SessionAct Unit := do
  let mode := (← get).mode
  let text := (← get).line.content
  closeLine
  if mode = .search then
    if !text.isEmpty then modifyWorkspace (·.record ("find " ++ text))
    modifyWorkspace fun workspace => { workspace with status := workspace.search.summary }
  else if !(Text.trim text).isEmpty then run text true

/-- Puts a search and the cursor of the active tab back. -/
def restored (origin : SearchOrigin) (workspace : Workspace) : Workspace :=
  let workspace := { workspace with search := origin.search }
  match workspace.activeTab?, origin.place with
  | some tab, some (cursor, scroll) =>
      workspace.updateTab tab.id fun tab => { tab with cursor, scroll }
  | _, _ => workspace

def cancel : SessionAct Unit := do
  match (← get).mode, (← get).origin with
  | .search, some origin => modifyWorkspace (restored origin)
  | _, _ => pure ()
  closeLine

/-- Takes a character away; in an empty line, leaves the line. -/
def backspace : SessionAct Unit := do
  if (← get).line.text.isEmpty then cancel else modifyLine LineBuffer.backspace

def modifyQuery (change : Search.Query → Search.Query) : SessionAct Unit := do
  modifyWorkspace fun workspace =>
    { workspace with search := { workspace.search with query := change workspace.search.query } }
  lineChanged

/-! ## Keys -/

def quit : SessionAct Unit := do
  modifyWorkspace fun workspace => { workspace with quitRequested := true }
  stop

def half : Binary64 := .ofRatio false 1 2

def whole : Binary64 := .ofRatio false 1 1

/-- What an action does; the key is the one it was called by. -/
def perform (action : Action) (key : String) : SessionAct Unit :=
  match action with
  | .quit => quit
  | .moveDown => ofAct (Act.move 1 0)
  | .moveUp => ofAct (Act.move (-1) 0)
  | .moveLeft => ofAct (Act.move 0 (-1))
  | .moveRight => ofAct (Act.move 0 1)
  | .top => ofAct Act.top
  | .bottom => ofAct Act.bottom
  | .halfPageUp => ofAct (Act.page half.neg)
  | .halfPageDown => ofAct (Act.page half)
  | .pageUp => ofAct (Act.page whole.neg)
  | .pageDown => ofAct (Act.page whole)
  | .firstColumn => ofAct Act.firstColumn
  | .lastColumn => ofAct Act.lastColumn
  | .commandLine => openCommandLine ""
  | .searchLine => openSearchLine
  | .findNext => run "find-next" false
  | .findPrevious => run "find-prev" false
  | .previousTab => run "tabprev" false
  | .nextTab => run "tabnext" false
  | .undo => run "undo" false
  | .closeTab => run "tabclose" false
  | .record => run "record" false
  | .rowDigit => openCommandLine ("goto " ++ key)
  | .submit => submit
  | .cancel => cancel
  | .backspace => do
      backspace
      lineChanged
  | .cursorLeft => modifyLine LineBuffer.left
  | .cursorRight => modifyLine LineBuffer.right
  | .lineStart => modifyLine LineBuffer.home
  | .lineEnd => modifyLine LineBuffer.toEnd
  | .historyPrevious => do
      modifyLine LineBuffer.older
      lineChanged
  | .historyNext => do
      modifyLine LineBuffer.newer
      lineChanged
  | .cycleSearchMode => modifyQuery fun query => { query with mode := query.mode.next }
  | .toggleCase => modifyQuery fun query => { query with caseSensitive := !query.caseSensitive }

def type (key : String) : SessionAct Unit := do
  modifyLine fun line => line.insert key.toList
  lineChanged

/-- A key calls an action; one without an action is typed into the line when one is open. -/
def press (press : KeyPress) : SessionAct Unit := do
  let mode := (← get).mode
  match (Keymap.ofMode mode).action? press with
  | some action => perform action press.key
  | none => if mode ≠ .navigation && press.isPrintable then type press.key

/-- A failure is only shown. -/
def shown : Problem → SessionAct Unit
  | .failure cause _ => ofAct (Act.setStatus cause.statusText)
  | .fault fault => throw (.fault fault)

/-- Handles an event, and tells whether the session goes on. -/
def handle (event : Event) : SessionAct Bool := do
  match event with
  | .resize size => modify (·.resized size)
  | .key key => tryCatch (press key) shown
  return (← get).isRunning

/-- Handles the messages of finished jobs, and tells whether anything changed. -/
def drain : SessionAct Bool := do
  let changed ← ofAct Act.drain
  if (← get).workspace.quitRequested then stop
  return changed

end SessionAct

end TableBrowser

/-! ## Drawing a session

The bottom line of the screen shows the line that is being typed, or else the
status and where the cursor is. Drawing moves the cursor of the active tab into
its view and the window so that it shows the cursor.
-/

namespace TableBrowser.Session

open Window (Scroll)

/-- What is told of the place in a tab: row, column, steps, and whether it is busy. -/
def positionText (tab : Tab) (frame : Frame) : String :=
  if tab.isLoading then "loading…"
  else
    let row := if frame.rowCount = 0 then []
      else [Decimal.natText (frame.cursor.row + 1) ++ "/" ++ Decimal.natText frame.rowCount]
    let column := if frame.columnCount = 0 then []
      else [tab.view.header.getD frame.cursor.column ""]
    let steps := tab.pipeline.steps
    let count := if steps.isEmpty then [] else ["steps:" ++ Decimal.natText steps.length]
    let busy := if tab.pipeline.isBusy then ["[busy]"] else []
    "  ".intercalate (row ++ column ++ count ++ busy)

def prompt (session : Session) : String :=
  match session.mode, session.workspace.search.query.mode with
  | .search, .literal => "/"
  | .search, mode => "/(" ++ mode.name ++ ") "
  | _, _ => ":"

def frameOf (session : Session) (size : Size) (tab : Tab) : Frame :=
  layout session.workspace.settings.appearance tab.view {
    row := tab.cursor.row
    column := tab.cursor.column
    top := tab.scroll.top
    left := tab.scroll.left
    size := Screen.gridSize size
    widths := some tab.widths
    highlights := session.workspace.search.found }

/-- The session with the cursor and the window of its active tab as they are drawn. -/
def drawn (session : Session) (tab : Tab) (frame : Frame) : Session :=
  { session with
    workspace := session.workspace.updateTab tab.id fun tab =>
      { tab with cursor := frame.cursor, scroll := frame.scroll } }

def screenWith (session : Session) (size : Size) (frame : Option Frame) (position : String) :
    Screen :=
  let workspace := session.workspace
  let tabBar := Screen.tabBarOf (workspace.tabs.map fun tab => (tab.name, tab.isBusy))
    workspace.active
  match session.mode with
  | .navigation =>
      { size, tabBar, frame, bottom := Screen.statusLine workspace.status position size.width }
  | _ =>
      let prompt := session.prompt
      { size, tabBar, frame
        bottom := prompt ++ session.line.content
        promptCursor := some (prompt.length + session.line.position) }

/-- The screen of a session, and the session after drawing it. -/
def draw (session : Session) (size : Size) : Screen × Session :=
  match session.workspace.activeTab? with
  | none => (session.screenWith size none "", session)
  | some tab =>
      let frame := session.frameOf size tab
      (session.screenWith size (some frame) (positionText tab frame), session.drawn tab frame)

end TableBrowser.Session
