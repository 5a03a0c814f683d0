import TableBrowser.Proofs.Session.Acts
import TableBrowser.Proofs.Workspace.Drain
import TableBrowser.Proofs.Workspace.Endings
/-!
# Runs of a session

A run mixes keys, sizes, drawing and what is done to the workspace with the
handling of finished jobs, in any order. Main statement: while every change of
how is searched leaves a search that can be made, and the steps that wait for
tables can be taken, all messages of finished jobs are handled without a problem.
-/

namespace TableBrowser.Session

/-- What happens to a session. -/
inductive Happening where
  | event (event : Event)
  /-- Something is done to the workspace, or arrives there. -/
  | work (event : Workspace.Event)
  /-- The messages of finished jobs are handled. -/
  | drain
  | draw (size : Size)

/-- What is left behind, also by what fails. -/
def step (session : Session) : Happening → Session
  | .event event => (SessionAct.handle event session).2
  | .work event => { session with workspace := session.workspace.step event }
  | .drain => (SessionAct.drain session).2
  | .draw size => (session.draw size).2

def after (session : Session) (happenings : List Happening) : Session := happenings.foldl step session

/--
A key does not leave a search that cannot be made, and steps that are to be
added to a table can be taken when messages are handled.
-/
def Admits (session : Session) : Happening → Prop
  | .event (.key press) => session.Switches press →
      (session.step (.event (.key press))).workspace.search.Usable
  | .drain => session.workspace.Receptive
  | _ => True

/-- All that happens is admitted by the session to which it happens. -/
def AdmitsAll (session : Session) : List Happening → Prop
  | [] => True
  | happening :: happenings =>
      session.Admits happening ∧ (session.step happening).AdmitsAll happenings

variable {session : Session}

theorem sound_start {workspace : Workspace} (sound : workspace.Sound) (size : Size) :
    (start workspace size).Sound := ⟨sound.resized _, nofun⟩

/-- The messages are handled without a problem, and none is left. -/
theorem Sound.drain_returns (sound : session.Sound) (receptive : session.workspace.Receptive) :
    ∃ changed after, SessionAct.drain session = (.ok changed, after) ∧ after.Sound ∧
      after.workspace.messages = [] := by
  rcases Act.drain_returns sound.workspace receptive with
    ⟨changed, workspace, ran, workspaceSound, _, noMessages⟩
  have drained : SessionAct.ofAct Act.drain session =
      (.ok changed, { session with workspace }) := by
    rw [SessionAct.ofAct, ran]
  have stopping : SessionAct.drain session =
      (if workspace.quitRequested then SessionAct.stop >>= fun _ => pure changed else pure changed :
        SessionAct Bool) { session with workspace } := by
    simp only [SessionAct.drain, Act.run_bind, drained]
    rfl
  rw [stopping]
  split
  · exact ⟨changed, _, rfl, ⟨workspaceSound, sound.origin⟩, noMessages⟩
  · exact ⟨changed, _, rfl, ⟨workspaceSound, sound.origin⟩, noMessages⟩

theorem drain_stops (stops : Act.drain.Stops session.workspace) :
    ∃ problem last, SessionAct.drain session = (.error problem, last) := by
  rcases stops.exists_problem with ⟨problem, workspace, ran⟩
  refine ⟨problem, { session with workspace }, ?_⟩
  have drained : SessionAct.ofAct Act.drain session =
      (.error problem, { session with workspace }) := by
    rw [SessionAct.ofAct, ran]
  simp only [SessionAct.drain, Act.run_bind, drained]

theorem Sound.step (sound : session.Sound) {happening : Happening}
    (admits : session.Admits happening) : (session.step happening).Sound := by
  cases happening with
  | event event =>
      cases event with
      | resize size => exact sound.resized size
      | key press =>
          by_cases switches : session.Switches press
          · exact (sound.grounded.handle switches).sound (admits switches)
          · exact sound.handle switches
  | work event => exact ⟨sound.workspace.step event, sound.origin⟩
  | draw size => exact sound.draw size
  | drain =>
      rcases sound.drain_returns admits with ⟨changed, after, ran, afterSound, _⟩
      rw [Session.step, ran]
      exact afterSound

theorem Sound.after (sound : session.Sound) {happenings : List Happening}
    (admitsAll : session.AdmitsAll happenings) : (session.after happenings).Sound := by
  induction happenings generalizing session with
  | nil => exact sound
  | cons happening happenings induction =>
      exact induction (sound.step admitsAll.1) admitsAll.2

/--
After every run in which all that happens is admitted, the messages of finished
jobs are handled without a problem, and none of them is left.
-/
theorem drained_after (settings : Settings) (files : FileTree) (scheduling : Scheduling) (size : Size)
    (happenings : List Happening)
    (admitsAll : (start (Workspace.start settings files scheduling) size).AdmitsAll happenings) :
    let session := (start (Workspace.start settings files scheduling) size).after happenings
    session.workspace.Receptive →
      ∃ changed last, SessionAct.drain session = (.ok changed, last) ∧ last.workspace.messages = [] := by
  intro session receptive
  have started := sound_start (Workspace.sound_start settings files scheduling) size
  rcases (started.after admitsAll).drain_returns receptive with ⟨changed, last, ran, _, noMessages⟩
  exact ⟨changed, last, ran, noMessages⟩

/-! ## Searching while a table is loaded -/

/-- A table is open and one is being loaded; a key is typed into a search line, and the mode changed. -/
def searchingFor (key : String) : List Happening := [
  .work (.openTable .onlyId "t" []), .work (.openSource ⟨"x.csv", .csv, .null⟩ []),
  .event (.key { key := "/" }), .event (.key { key }), .event (.key { key := "Tab" }),
  .work (.arrive (.finish 0))]

theorem drained_after_letter :
    let session := (start (Workspace.start {} { surroundings := ⟨[], []⟩ } .deferred) ⟨80, 24⟩).after
      (searchingFor "i")
    ∃ changed last, SessionAct.drain session = (.ok changed, last) ∧ last.workspace.messages = [] := by
  let started := start (Workspace.start {} { surroundings := ⟨[], []⟩ } .deferred) ⟨80, 24⟩
  have navigates : (started.after ((searchingFor "i").take 2)).mode ≠ .search := by decide +kernel
  have types : (Keymap.ofMode .search).action? { key := "i" } = none := by decide +kernel
  have query : (started.after ((searchingFor "i").take 5)).workspace.search.query =
      ⟨"i", .regex, false⟩ := by decide +kernel
  have usable : (started.after ((searchingFor "i").take 5)).workspace.search.Usable := by
    rw [Search.Usable, query]
    exact .inr (.inr ⟨_, rfl⟩)
  simp only [searchingFor, List.take_succ_cons, List.take_zero, after, List.foldl_cons,
    List.foldl_nil] at usable
  have nothingQueued : ∀ steps ∈ (started.after (searchingFor "i")).workspace.tabs.map
      (·.queuedSteps.length), steps = 0 := by decide +kernel
  have admitsAll : started.AdmitsAll (searchingFor "i") := by
    refine ⟨trivial, trivial, fun switches => ?_, fun switches => ?_, fun _ => ?_, trivial, trivial⟩
    · exact absurd (mode_of_switches switches) navigates
    · have isSearching := mode_of_switches switches
      rcases switches with ⟨action, called, _⟩
      rw [isSearching, types] at called
      cases called
    · exact usable
  refine drained_after {} _ .deferred ⟨80, 24⟩ (searchingFor "i") admitsAll fun tab member => ?_
  refine Tab.receptive_of_noSteps (List.length_eq_zero_iff.mp ?_)
  exact nothingQueued _ (List.mem_map_of_mem member)

theorem stopped_after_parenthesis :
    ∃ problem last, SessionAct.drain
      ((start (Workspace.start {} { surroundings := ⟨[], []⟩ } .deferred) ⟨80, 24⟩).after
        (searchingFor "(")) = (.error problem, last) := by
  generalize isSession : (start _ _).after _ = session
  have query : session.workspace.search.query = ⟨"(", .regex, false⟩ := by
    rw [← isSession]
    decide +kernel
  have more : session.workspace.tabs.length = 2 := by
    rw [← isSession]
    decide +kernel
  have active : session.workspace.activeTab?.map Tab.id = some 2 := by
    rw [← isSession]
    decide +kernel
  have loads : session.workspace.messages.map (Message.isLoad 2) = [true] := by
    rw [← isSession]
    decide +kernel
  have unusable : ¬ session.workspace.search.Usable := by
    rw [Search.Usable, query]
    rintro (isEmpty | notRegex | ⟨pattern, isPattern⟩)
    · cases isEmpty
    · exact notRegex rfl
    · cases isPattern
  rcases List.map_eq_singleton_iff.mp loads with ⟨message, messages, isLoad⟩
  cases message with
  | evaluated id generation steps result => cases isLoad
  | loaded id result =>
      cases of_decide_eq_true isLoad
      exact drain_stops (Act.stops_drain unusable (Option.map_eq_some_iff.mp active) more.ge messages)

end TableBrowser.Session
