import TableBrowser.Invocation
import TableBrowser.Terminal.Drawing
import TableBrowser.Terminal.Loop
/-!
# The program

Reads keys from the terminal, which has to deliver them one at a time, and draws
on it. Files are read when a word names them: one of the invocation, one of the
line that is typed, or one of a document that such a word names. They are
written when a line has been submitted.
-/

namespace TableBrowser.Program

/-! ## Files -/

/-- The words of a text, without the marks that may enclose them in a document. -/
def wordsOf (text : String) : List String :=
  (String.ofList (text.toList.map fun char =>
    if char.isWhitespace || "\"',\x7b\x7d[]=".contains char then ' ' else char)).splitOn " "

def textOf (content : FileContent) : String :=
  match content with
  | .bytes bytes =>
      match Encoding.utf8.decode .replace bytes with
      | .ok chars => String.ofList chars
      | .error _ => ""
  | .database _ => ""

def isDocument (name : String) : Bool := name.endsWith ".yaml" || name.endsWith ".yml"

def place? (tree : FileTree) (word : String) : Option (List String) :=
  match tree.surroundings.normalize none word with
  | .ok path => (tree.locate path).toOption
  | .error _ => none

def absolute (place : List String) : String := "/" ++ "/".intercalate place

/-- Reads the file that a word names, when there is one that has not been read. -/
def readFile (tree : FileTree) (word : String) : IO FileTree := do
  let some place := place? tree word | return tree
  if place.isEmpty || tree.isDirectory place || (tree.files.lookup place).isSome then return tree
  try
    let content ← IO.FS.readBinFile (absolute place)
    return tree.putFile place (.bytes content.toList)
  catch _ => return tree

/-- Reads the files that words name, and the files that the documents among them name. -/
def readFiles (tree : FileTree) (words : List String) : IO FileTree := do
  let mut tree := tree
  for word in words do
    tree ← readFile tree word
    if isDocument word then
      if let .ok content := tree.read word then
        for inner in wordsOf (textOf content) do
          tree ← readFile tree inner
  return tree

/-- Writes the files that differ from what they were. -/
def writeFiles (before after : FileTree) : IO Unit := do
  for (place, content) in after.files do
    match content, before.files.lookup place with
    | .bytes bytes, some (.bytes old) =>
        if bytes ≠ old then IO.FS.writeBinFile (absolute place) ⟨bytes.toArray⟩
    | .bytes bytes, _ => IO.FS.writeBinFile (absolute place) ⟨bytes.toArray⟩
    | .database _, _ => pure ()

/-! ## The terminal -/

def number (name : String) (fallback : Nat) : IO Nat := do
  return ((← IO.getEnv name).bind String.toNat?).getD fallback

def terminalSize : IO Size := do
  return ⟨← number "COLUMNS" 80, ← number "LINES" 24⟩

/-- How many bytes a character has that starts with a byte. -/
def byteCount (first : UInt8) : Nat :=
  if first < 0xC0 then 1 else if first < 0xE0 then 2 else if first < 0xF0 then 3 else 4

/-- The next character that is typed, none at the end of the input. -/
def readChar (input : IO.FS.Stream) : IO (Option Char) := do
  let first ← input.read 1
  let some lead := first[0]? | return none
  let rest ← if byteCount lead = 1 then pure .empty else input.read (byteCount lead - 1).toUSize
  return (String.fromUTF8? (first ++ rest)).bind fun text => text.toList.head?

def present (size : Size) (screen : Screen) : IO Unit := do
  let output ← IO.getStdout
  output.putStr (Terminal.written (Terminal.draw size screen))
  output.flush

/-! ## The session -/

open Terminal (Console Input)

/-- Handles one key, with the files that the line names. -/
def turn (console : Console) (code : KeyCode) : IO Terminal.Turn := do
  let session := console.session
  let before ← readFiles session.workspace.files (wordsOf session.line.content)
  let session := { session with workspace := { session.workspace with files := before } }
  let turn := { console with session }.turn (.key code)
  if code.press?.any (·.key = "Enter") then
    writeFiles before turn.console.session.workspace.files
  if let some screen := turn.screen then present turn.console.size screen
  return turn

/-- Handles keys until the session ends; the end of the input interrupts it. -/
partial def loop (input : IO.FS.Stream) (held : List Char) (console : Console) :
    IO (Session × Option Problem) := do
  if !console.session.isRunning then return (console.session, none)
  let char ← readChar input
  match Terminal.Arrival.of (held ++ [char.getD '\x03']) with
  | .held => loop input (held ++ char.toList) console
  | .codes codes =>
      let mut console := console
      for code in codes do
        if console.session.isRunning then
          let turn ← turn console code
          if let some problem := turn.problem then return (turn.console.session, some problem)
          console := turn.console
      loop input [] console

def run (session : Session) (size : Size) : IO Invocation.Ending := do
  let (screen, console) := Console.draw ⟨session, size⟩
  present size screen
  let (session, problem) ← loop (← IO.getStdin) [] console
  IO.print (Terminal.escape "2J" ++ Terminal.escape "?25h" ++ Terminal.moveTo 0 0)
  return .ofRun session problem

def finish (ending : Invocation.Ending) : IO UInt32 := do
  if ending.code = 0 then IO.print ending.output else IO.eprint ending.output
  if let some fault := ending.fault then IO.eprintln fault.className
  return ending.code.toUInt32

end TableBrowser.Program

open TableBrowser in
def main (words : List String) : IO UInt32 := do
  let directory := (Path.ofText (toString (← IO.currentDir))).parts
  let home := (← IO.getEnv "HOME").getD "/"
  let start : FileTree := { surroundings := { homes := [("", home)], directory } }
  let tree ← Program.readFiles start words
  let size ← Program.terminalSize
  match Invocation.session tree words size with
  | .error ending => Program.finish ending
  | .ok session => Program.finish (← Program.run session size)
