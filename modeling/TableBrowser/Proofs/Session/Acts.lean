import TableBrowser.Proofs.Workspace.Run
import TableBrowser.Session.Basic
/-!
# Keys in sound sessions

Every key leaves a session sound, but for those that switch the mode or the case
of the search: they change the query before it is known whether it can be
searched for. Main statements: what each key keeps, also when it fails.
-/

namespace TableBrowser

open Window (Scroll)

/-- Sound, but for the search that there is. -/
def Workspace.groundedness : Invariant where
  holds workspace := ∃ search : Search, search.Usable ∧ (workspace.withSearch search).Sound
  fragile := False

theorem Workspace.Sound.grounded {workspace : Workspace} (sound : workspace.Sound) :
    Workspace.groundedness.holds workspace := ⟨workspace.search, sound.search, sound⟩

namespace Session

/-- The invariant holds of the workspace, and a search line goes back to a search that can be made. -/
structure Upholds (invariant : Invariant) (session : Session) : Prop where
  workspace : invariant.holds session.workspace
  origin : ∀ origin, session.origin = some origin → origin.search.Usable

def Sound : Session → Prop := Upholds Workspace.soundness

def Grounded : Session → Prop := Upholds Workspace.groundedness

theorem Sound.grounded {session : Session} (sound : session.Sound) : session.Grounded :=
  ⟨Workspace.Sound.grounded sound.workspace, sound.origin⟩

theorem Grounded.sound {session : Session} (grounded : session.Grounded)
    (usable : session.workspace.search.Usable) : session.Sound := by
  rcases grounded.workspace with ⟨search, _, sound⟩
  exact ⟨sound.withSearch usable, grounded.origin⟩

end Session

/-! ## Rules -/

namespace SessionAct

variable {α β : Type} {holds : Session → Prop} {invariant : Invariant}

/-- What the act leaves behind, also when it fails, is as it should be. -/
def Leaves (holds : Session → Prop) (act : SessionAct α) (session : Session) : Prop :=
  holds (act session).2

/-- What holds of a session holds of what the act leaves behind. -/
def Keeps (holds : Session → Prop) (act : SessionAct α) : Prop :=
  ∀ session, holds session → act.Leaves holds session

theorem Leaves.bind {act : SessionAct α} {next : α → SessionAct β} {session : Session}
    (first : act.Leaves holds session) (second : ∀ value, Keeps holds (next value)) :
    (act >>= next).Leaves holds session := by
  unfold Leaves at first ⊢
  rw [Act.run_bind]
  rcases ran : act session with ⟨problem | value, after⟩
  · rwa [ran] at first
  · rw [ran] at first
    exact second value after first

/-- The next act may rely on what the session is when it is read. -/
theorem Leaves.bind_get {next : Session → SessionAct β} {session : Session}
    (left : (next session).Leaves holds session) :
    ((MonadState.get : SessionAct Session) >>= next).Leaves holds session := left

theorem Leaves.tryCatch {act : SessionAct α} {handle : Problem → SessionAct α} {session : Session}
    (tried : act.Leaves holds session) (handled : ∀ problem, Keeps holds (handle problem)) :
    (tryCatch act handle : SessionAct α).Leaves holds session := by
  unfold Leaves at tried ⊢
  rw [Act.run_tryCatch]
  rcases ran : act session with ⟨problem | value, after⟩
  · rw [ran] at tried
    exact handled problem after tried
  · rwa [ran] at tried

theorem Keeps.pure (value : α) : Keeps holds (pure value : SessionAct α) := fun _ isHeld => isHeld

theorem Keeps.throw (problem : Problem) : Keeps holds (throw problem : SessionAct α) :=
  fun _ isHeld => isHeld

theorem Keeps.modify {change : Session → Session}
    (kept : ∀ session, holds session → holds (change session)) :
    Keeps holds (modify change : SessionAct Unit) := kept

theorem Keeps.bind {act : SessionAct α} {next : α → SessionAct β} (first : Keeps holds act)
    (second : ∀ value, Keeps holds (next value)) : Keeps holds (act >>= next) :=
  fun session isHeld => (first session isHeld).bind second

theorem run_get (session : Session) : (get : SessionAct Session) session = (.ok session, session) :=
  rfl

theorem Keeps.get : Keeps holds (get : SessionAct Session) := fun _ isHeld => isHeld

theorem Keeps.ite {condition : Prop} [Decidable condition] {first second : SessionAct α}
    (ifTrue : Keeps holds first) (ifFalse : Keeps holds second) :
    Keeps holds (if condition then first else second) := by
  split
  · exact ifTrue
  · exact ifFalse

open Session (Upholds Sound Grounded)

/-- What is done to the workspace does not change what a search line goes back to. -/
theorem Keeps.ofAct {act : Act α} (kept : act.Keeps invariant) (lasting : ¬ invariant.fragile) :
    Keeps (Upholds invariant) (ofAct act) := fun session upheld =>
  ⟨(kept session.workspace upheld.workspace).holds lasting, upheld.origin⟩

theorem keeps_ofAct {act : Act α} (kept : act.Keeps Workspace.soundness) :
    Keeps Sound (ofAct act) := Keeps.ofAct kept id

theorem keeps_modifyWorkspace {change : Workspace → Workspace}
    (kept : ∀ workspace, workspace.Sound → (change workspace).Sound) :
    Keeps Sound (modifyWorkspace change) :=
  Keeps.modify fun session sound => ⟨kept session.workspace sound.workspace, sound.origin⟩

theorem keeps_modifyLine (change : LineBuffer → LineBuffer) : Keeps Sound (modifyLine change) :=
  Keeps.modify fun _ sound => ⟨sound.workspace, sound.origin⟩

theorem keeps_stop : Keeps Sound stop :=
  Keeps.modify fun _ sound => ⟨sound.workspace, sound.origin⟩

/-! ## The line -/

theorem keeps_openCommandLine (text : String) : Keeps Sound (openCommandLine text) :=
  Keeps.modify fun _ sound => ⟨{ sound.workspace with }, sound.origin⟩

/-- A search line goes back to the search on which it was opened. -/
theorem keeps_openSearchLine : Keeps Sound openSearchLine :=
  Keeps.modify fun session sound => {
    workspace := { sound.workspace with }
    origin := by
      rintro origin ⟨⟩
      exact sound.workspace.search }

theorem keeps_closeLine : Keeps Sound closeLine :=
  Keeps.modify fun _ sound => ⟨{ sound.workspace with }, nofun⟩

/-- From where a search is taken that can be made, soundness does not depend on the one before. -/
theorem sound_setSearch {search : Search} (usable : search.Usable) {next : Unit → Act α}
    (kept : ∀ value, (next value).Keeps Workspace.soundness) {workspace : Workspace}
    (grounded : Workspace.groundedness.holds workspace) :
    ((Act.setSearch search >>= next) workspace).2.Sound := by
  rcases grounded with ⟨other, _, sound⟩
  have taken : (workspace.withSearch search).Sound := sound.withSearch usable
  exact (kept () (workspace.withSearch search) taken).holds id

/--
Following a search changes nothing, which without a problem means that there is
nothing to search in, or it leaves a sound workspace.
-/
theorem ends_followSearch (text : String) (place : Option (Coordinate × Scroll))
    {workspace : Workspace} (grounded : Workspace.groundedness.holds workspace) :
    (followSearch text place).Ends workspace
      (fun _ after => workspace.activeTab? = none ∧ after = workspace ∨ after.Sound)
      fun _ after => after = workspace ∨ after.Sound := by
  -- Whether the text is empty or found, a search that can be made is taken first.
  have taking {search : Search} (usable : search.Usable) {next : Unit → Act Unit} {found : Prop}
      (kept : ∀ value, (next value).Keeps Workspace.soundness) :
      (Act.setSearch search >>= next).Ends workspace
        (fun _ after => found ∧ after = workspace ∨ after.Sound)
        fun _ after => after = workspace ∨ after.Sound :=
    (Act.ends_iff_left.mpr (sound_setSearch usable kept grounded)).mono
      (fun _ _ left => .inr left) fun _ _ left => .inr left
  refine Act.Ends.bind_get ?_
  cases workspace.activeTab? with
  | none => exact Act.Ends.pure (.inl ⟨rfl, rfl⟩)
  | some tab =>
      refine Act.Ends.ite (fun _ => ?_) fun _ => ?_
      · exact Act.Ends.bind_get (taking (.inl rfl) fun _ => Act.keeps_moveTo _ _)
      · refine Act.Ends.bind_get ?_
        cases made : workspace.search.setQuery tab.view text none none with
        | error problem => exact Act.Ends.of_error rfl (.inl rfl)
        | ok search =>
            have usable := (Search.usable_setQuery made).of_query (search.query_firstFrom
              ((place.map (·.1)).getD tab.cursor))
            exact Act.Ends.bind_pure (taking usable fun _ =>
              Act.Keeps.bind (Act.keeps_moveTo _ _) fun _ => Act.keeps_setStatus _)

/-- What holds of sound workspaces and is not about the search is kept. -/
theorem keeps_followSearch (text : String) (place : Option (Coordinate × Scroll))
    (ofSound : ∀ workspace, workspace.Sound → invariant.holds workspace)
    (grounded : ∀ workspace, invariant.holds workspace → Workspace.groundedness.holds workspace) :
    (followSearch text place).Keeps invariant := by
  intro workspace isHeld
  refine (ends_followSearch text place (grounded workspace isHeld)).mono ?_ ?_
  · rintro _ after (⟨_, rfl⟩ | sound)
    · exact isHeld
    · exact ofSound after sound
  · rintro _ after (rfl | sound)
    · exact .inl isHeld
    · exact .inl (ofSound after sound)

theorem keeps_lineChanged : Keeps Sound lineChanged :=
  Keeps.bind Keeps.get fun _ => Keeps.ite
    (keeps_ofAct (keeps_followSearch _ _ (fun _ sound => sound) fun _ sound => sound.grounded))
    (Keeps.pure _)

theorem keeps_run (line : String) (isRecorded : Bool) : Keeps Sound (run line isRecorded) := by
  refine Keeps.bind (keeps_ofAct (Workspace.durable_soundness.execute line isRecorded)) fun reply => ?_
  refine Keeps.bind (keeps_ofAct (Act.keeps_setStatus _)) fun _ => ?_
  exact Keeps.bind Keeps.get fun _ => Keeps.ite keeps_stop (Keeps.pure _)

theorem keeps_submit : Keeps Sound submit := by
  have summarised : Keeps Sound (modifyWorkspace fun workspace =>
      { workspace with status := workspace.search.summary }) :=
    keeps_modifyWorkspace fun _ sound => { sound with }
  have noted (line : String) : Keeps Sound (modifyWorkspace (·.record line)) :=
    keeps_modifyWorkspace fun _ sound => sound.record line
  refine Keeps.bind Keeps.get fun _ => Keeps.bind Keeps.get fun _ => Keeps.bind keeps_closeLine fun _ => ?_
  apply Keeps.ite
  · exact Keeps.ite (Keeps.bind (noted _) fun _ => summarised) summarised
  · exact Keeps.ite (keeps_run _ true) (Keeps.pure _)

theorem sound_restored {workspace : Workspace} (sound : workspace.Sound) {origin : SearchOrigin}
    (usable : origin.search.Usable) : (restored origin workspace).Sound := by
  have put : (workspace.withSearch origin.search).Sound := sound.withSearch usable
  unfold restored
  simp only
  split
  · exact put.updateTab _ _ fun _ => rfl
  · exact put

theorem keeps_cancel : Keeps Sound cancel := by
  refine Keeps.bind Keeps.get fun _ session sound => Leaves.bind_get ?_
  split
  · next origin _ isOrigin =>
    have usable : origin.search.Usable := sound.origin origin isOrigin
    have put : Keeps Sound (modifyWorkspace (restored origin)) :=
      keeps_modifyWorkspace fun _ sound => sound_restored sound usable
    exact Keeps.bind put (fun _ => keeps_closeLine) session sound
  · exact keeps_closeLine session sound

theorem keeps_backspace : Keeps Sound backspace :=
  Keeps.bind Keeps.get fun _ => Keeps.ite keeps_cancel (keeps_modifyLine _)

theorem keeps_editLine (change : LineBuffer → LineBuffer) :
    Keeps Sound (modifyLine change >>= fun _ => lineChanged) :=
  Keeps.bind (keeps_modifyLine change) fun _ => keeps_lineChanged

/-! ## Keys -/

theorem keeps_quit : Keeps Sound quit :=
  Keeps.bind (keeps_modifyWorkspace fun _ sound => { sound with }) fun _ => keeps_stop

end SessionAct

/-- An action that changes how is searched, for the query that there is. -/
def Action.IsSwitch (action : Action) : Prop := action = .cycleSearchMode ∨ action = .toggleCase

instance : DecidablePred Action.IsSwitch := fun _ => inferInstanceAs (Decidable (_ ∨ _))

namespace SessionAct

open Session (Sound Grounded)

theorem keeps_perform {action : Action} (noSwitch : ¬ action.IsSwitch) (key : String) :
    Keeps Sound (perform action key) := by
  have durable := Workspace.durable_soundness
  cases action with
  | quit => exact keeps_quit
  | moveDown => exact keeps_ofAct (durable.move _ _)
  | moveUp => exact keeps_ofAct (durable.move _ _)
  | moveLeft => exact keeps_ofAct (durable.move _ _)
  | moveRight => exact keeps_ofAct (durable.move _ _)
  | top => exact keeps_ofAct (durable.moveTo _ _)
  | bottom => exact keeps_ofAct (durable.moveFor _ _)
  | halfPageUp => exact keeps_ofAct (durable.page _)
  | halfPageDown => exact keeps_ofAct (durable.page _)
  | pageUp => exact keeps_ofAct (durable.page _)
  | pageDown => exact keeps_ofAct (durable.page _)
  | firstColumn => exact keeps_ofAct (durable.moveFor _ _)
  | lastColumn => exact keeps_ofAct (durable.moveFor _ _)
  | commandLine => exact keeps_openCommandLine _
  | searchLine => exact keeps_openSearchLine
  | findNext => exact keeps_run _ _
  | findPrevious => exact keeps_run _ _
  | previousTab => exact keeps_run _ _
  | nextTab => exact keeps_run _ _
  | undo => exact keeps_run _ _
  | closeTab => exact keeps_run _ _
  | record => exact keeps_run _ _
  | rowDigit => exact keeps_openCommandLine _
  | submit => exact keeps_submit
  | cancel => exact keeps_cancel
  | backspace => exact Keeps.bind keeps_backspace fun _ => keeps_lineChanged
  | cursorLeft => exact keeps_modifyLine _
  | cursorRight => exact keeps_modifyLine _
  | lineStart => exact keeps_modifyLine _
  | lineEnd => exact keeps_modifyLine _
  | historyPrevious => exact keeps_editLine _
  | historyNext => exact keeps_editLine _
  | cycleSearchMode => exact absurd (.inl rfl) noSwitch
  | toggleCase => exact absurd (.inr rfl) noSwitch

theorem keeps_type (key : String) : Keeps Sound (type key) := keeps_editLine _

/-- A fault is passed on, and a failure changes the status alone. -/
theorem Keeps.shown (kept : ∀ status, (Act.setStatus status).Keeps invariant)
    (lasting : ¬ invariant.fragile) (problem : Problem) :
    Keeps (Session.Upholds invariant) (shown problem) := by
  cases problem with
  | failure cause stepIndex => exact Keeps.ofAct (kept _) lasting
  | fault fault => exact Keeps.throw _

end SessionAct

/-! ## Events -/

theorem Keymap.mem_of_action? {keymap : Keymap} {press : KeyPress} {action : Action}
    (called : keymap.action? press = some action) : (press.chord, action) ∈ keymap := by
  rcases List.lookup_eq_some_iff.mp called with ⟨before, rest, isKeymap, _⟩
  rw [isKeymap]
  exact List.mem_append_right before List.mem_cons_self

namespace Session

/-- The key calls an action that changes how is searched. -/
def Switches (session : Session) (press : KeyPress) : Prop :=
  ∃ action, (Keymap.ofMode session.mode).action? press = some action ∧ action.IsSwitch

open SessionAct

variable {session : Session}

theorem Sound.press (sound : session.Sound) {press : KeyPress} (noSwitch : ¬ session.Switches press) :
    (SessionAct.press press).Leaves Sound session := by
  refine Leaves.bind_get ?_
  simp only
  split
  · next action called =>
    exact keeps_perform (fun isSwitch => noSwitch ⟨action, called, isSwitch⟩) _ session sound
  · exact Keeps.ite (keeps_type _) (Keeps.pure _) session sound

theorem Sound.handle (sound : session.Sound) {press : KeyPress} (noSwitch : ¬ session.Switches press) :
    (SessionAct.handle (.key press)).Leaves Sound session :=
  Leaves.bind ((sound.press noSwitch).tryCatch (Keeps.shown Act.keeps_setStatus id)) fun _ =>
    Keeps.bind Keeps.get fun _ => Keeps.pure _

/-- Only the line of a search has keys that change how is searched. -/
theorem mode_of_switches {press : KeyPress} (switches : session.Switches press) :
    session.mode = .search := by
  rcases switches with ⟨action, called, isSwitch⟩
  have others (mode : InputMode) (other : mode ≠ .search) :
      ∀ binding ∈ Keymap.ofMode mode, ¬ binding.2.IsSwitch := by
    cases mode with
    | navigation => decide
    | command => decide
    | search => exact absurd rfl other
  by_contra other
  exact others session.mode other _ (Keymap.mem_of_action? called) isSwitch

/-- A key does what the action does that it calls. -/
theorem run_press {press : KeyPress} {action : Action}
    (called : (Keymap.ofMode session.mode).action? press = some action) :
    SessionAct.press press session = perform action press.key session := by
  simp only [SessionAct.press, Act.run_bind, run_get, called]

/-- The session with another query, which has not been searched for. -/
def querying (session : Session) (query : Search.Query) : Session :=
  { session with workspace := session.workspace.withSearch { session.workspace.search with query } }

/-- A key that changes how is searched searches anew for the text of the line. -/
theorem run_switch {press : KeyPress} (switches : session.Switches press) :
    ∃ query, SessionAct.press press session =
      ofAct (followSearch session.line.content (session.origin.bind (·.place)))
        (session.querying query) := by
  have isSearching := mode_of_switches switches
  rcases switches with ⟨action, called, isSwitch⟩
  have queried (change : Search.Query → Search.Query) : modifyQuery change session =
      ofAct (followSearch session.line.content (session.origin.bind (·.place)))
        (session.querying (change session.workspace.search.query)) := by
    change (if session.mode = .search then _ else _ : SessionAct Unit)
      (session.querying (change session.workspace.search.query)) = _
    rw [if_pos isSearching]
  rw [run_press called]
  rcases isSwitch with rfl | rfl
  · exact ⟨_, queried fun query => { query with mode := query.mode.next }⟩
  · exact ⟨_, queried fun query => { query with caseSensitive := !query.caseSensitive }⟩

theorem Grounded.querying (grounded : session.Grounded) (query : Search.Query) :
    (session.querying query).Grounded := ⟨grounded.workspace, grounded.origin⟩

/-- A key that changes how is searched may leave a search that cannot be made. -/
theorem Grounded.handle (grounded : session.Grounded) {press : KeyPress}
    (switches : session.Switches press) :
    (SessionAct.handle (.key press)).Leaves Grounded session := by
  have shows (status : String) : (Act.setStatus status).Keeps Workspace.groundedness :=
    .modify fun workspace ⟨search, usable, sound⟩ => ⟨search, usable, sound.withStatus status⟩
  rcases run_switch switches with ⟨query, ran⟩
  have pressed : (SessionAct.press press).Leaves Grounded session := by
    rw [Leaves, ran]
    exact Keeps.ofAct (keeps_followSearch _ _ (fun _ sound => sound.grounded) fun _ grounded => grounded)
      id (session.querying query) (grounded.querying query)
  exact Leaves.bind (pressed.tryCatch (Keeps.shown shows id)) fun _ =>
    Keeps.bind Keeps.get fun _ => Keeps.pure _

/-- Where there is a view, a change of how is searched leaves a search that can be made, or is refused. -/
theorem Sound.usable_of_switch (sound : session.Sound) {press : KeyPress}
    (switches : session.Switches press) (isOpen : session.workspace.activeTab? ≠ none)
    (taken : (SessionAct.press press session).1 = .ok ()) :
    (SessionAct.handle (.key press) session).2.workspace.search.Usable := by
  rcases run_switch switches with ⟨query, ran⟩
  have ends := ends_followSearch session.line.content (session.origin.bind (·.place))
    (sound.grounded.querying query).workspace
  rw [Act.Ends] at ends
  have pressed : SessionAct.press press session =
      ((followSearch session.line.content (session.origin.bind (·.place)))
        (session.querying query).workspace).map id fun workspace => { session with workspace } := ran
  rcases followed : followSearch session.line.content (session.origin.bind (·.place))
    (session.querying query).workspace with ⟨problem | value, after⟩
  · rw [pressed, followed] at taken
    cases taken
  · rw [followed] at ends pressed
    rcases ends with ⟨isClosed, _⟩ | afterSound
    · exact absurd isClosed isOpen
    · have handled : SessionAct.handle (.key press) session =
          (.ok session.isRunning, { session with workspace := after }) := by
        simp only [SessionAct.handle, Act.run_bind, Act.run_tryCatch, pressed]
        rfl
      rw [handled]
      exact afterSound.search

theorem Sound.resized (sound : session.Sound) (size : Size) : (session.resized size).Sound :=
  ⟨Workspace.Sound.resized sound.workspace _, sound.origin⟩

theorem Sound.draw (sound : session.Sound) (size : Size) : (session.draw size).2.Sound := by
  unfold Session.draw
  split
  · exact sound
  · next tab _ => exact ⟨sound.workspace.updateTab tab.id _ fun _ => rfl, sound.origin⟩

end Session

end TableBrowser
