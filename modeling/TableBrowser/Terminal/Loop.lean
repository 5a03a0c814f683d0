import TableBrowser.Session.Basic
import TableBrowser.Terminal.Drawing
/-!
# The loop of a session on a terminal

The screen is drawn at the start, and again whenever an event or a finished job
has changed something, until the session ends.
-/

namespace TableBrowser.Terminal

/-- What a terminal delivers when it is asked: a key, a new size, or nothing for a while. -/
inductive Input where
  | key (code : KeyCode)
  | resized (size : Size)
  | none
deriving DecidableEq, Repr

structure Console where
  session : Session
  size : Size

/-- What comes of handling some input. -/
structure Turn where
  console : Console
  /-- The screen to be drawn, when something changed. -/
  screen : Option Screen
  /-- What ended the session. -/
  problem : Option Problem := Option.none

namespace Console

def draw (console : Console) : Screen × Console :=
  let (screen, session) := console.session.draw console.size
  (screen, { console with session })

def sizeAfter (console : Console) : Input → Size
  | .resized size => size
  | _ => console.size

/-- The event that some input is; codes that stand for nothing are none. -/
def event? (size : Size) : Input → Option Event
  | .key code =>
      if code = .special KeyCode.resizeNumber then some (.resize size)
      else code.press?.map .key
  | .resized size => some (.resize size)
  | .none => Option.none

/-- Handles an event and then the jobs that have finished; tells whether to draw. -/
def react (event : Option Event) : SessionAct Bool := do
  match event with
  | some event => discard (SessionAct.handle event)
  | Option.none => pure ()
  let changed ← SessionAct.drain
  return event.isSome || changed

def turn (console : Console) (input : Input) : Turn :=
  let size := console.sizeAfter input
  match react (event? size input) console.session with
  | (.error problem, session) => ⟨⟨session, size⟩, Option.none, some problem⟩
  | (.ok changed, session) =>
      if changed && session.isRunning then
        let (screen, console) := Console.draw ⟨session, size⟩
        ⟨console, some screen, Option.none⟩
      else ⟨⟨session, size⟩, Option.none, Option.none⟩

end Console

/-- A whole run: the screens drawn, the input left over, and how the session ended. -/
structure Run where
  console : Console
  screens : List (Size × Screen)
  left : List Input
  problem : Option Problem

/-- Handles input until the session ends or there is none left. -/
def runInputs (console : Console) (done : List (Size × Screen)) : List Input → Run
  | [] => ⟨console, done.reverse, [], Option.none⟩
  | input :: inputs =>
      if console.session.isRunning then
        let turn := console.turn input
        let done := match turn.screen with
          | some screen => (turn.console.size, screen) :: done
          | Option.none => done
        match turn.problem with
        | some problem => ⟨turn.console, done.reverse, inputs, some problem⟩
        | Option.none => runInputs turn.console done inputs
      else ⟨console, done.reverse, input :: inputs, Option.none⟩

def run (console : Console) (inputs : List Input) : Run :=
  let (screen, console) := console.draw
  runInputs console [(console.size, screen)] inputs

end TableBrowser.Terminal
