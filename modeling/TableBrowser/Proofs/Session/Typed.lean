import TableBrowser.Proofs.Screen.SingleLines
import TableBrowser.Proofs.Session.Run
import TableBrowser.Proofs.Table.Inference
import TableBrowser.Proofs.Workspace.History
/-!
# What is typed

Only keys with a printed form are typed, and what is recalled has been typed
before; what each event keeps of the line and of the workspace, every run keeps.
Main statement: in every session that a run reaches the line has no
breaks, so that no line of the screen has any, however large the screen is,
exactly when there are none in the names of tabs, the status, the column of the
cursor and what can be seen of cells. A carriage return alone is not replaced
in cells.
-/

namespace TableBrowser

open Line (IsBreak IsSingle)

/-! ## Keys -/

namespace Session

/-- What is said of the line and of the workspace. -/
structure Holds (lines : LineBuffer → Prop) (invariant : Invariant) (session : Session) : Prop where
  line : lines session.line
  workspace : invariant.holds session.workspace

namespace Holds

open SessionAct

variable {lines : LineBuffer → Prop} {invariant : Invariant}

theorem modifyWorkspace {change : Workspace → Workspace}
    (kept : ∀ workspace, invariant.holds workspace → invariant.holds (change workspace)) :
    Keeps (Holds lines invariant) (SessionAct.modifyWorkspace change) :=
  Keeps.modify fun session holds => ⟨holds.line, kept session.workspace holds.workspace⟩

theorem modifyLine {change : LineBuffer → LineBuffer}
    (kept : ∀ line : LineBuffer, lines line → lines (change line)) :
    Keeps (Holds lines invariant) (SessionAct.modifyLine change) :=
  Keeps.modify fun session holds => ⟨kept session.line holds.line, holds.workspace⟩

theorem stop : Keeps (Holds lines invariant) SessionAct.stop :=
  Keeps.modify fun _ holds => ⟨holds.line, holds.workspace⟩

end Holds

/-- What is said of the line and of the workspace remains when keys edit lines and record them. -/
structure Enduring (lines : LineBuffer → Prop) (invariant : Invariant) : Prop where
  coarse : invariant.Coarse
  blank : lines (.start "" [])
  opened : ∀ {workspace}, invariant.holds workspace → lines (.start "" workspace.history)
  dialled : ∀ {workspace mode press action}, invariant.holds workspace →
    (Keymap.ofMode mode).action? press = some action →
      lines (.start ("goto " ++ press.key) workspace.history)
  moved : ∀ {line} position, lines line → lines { line with position }
  inserted : ∀ {line} {press : KeyPress}, lines line → press.isPrintable →
    lines (line.insert press.key.toList)
  backspaced : ∀ {line}, lines line → lines line.backspace
  older : ∀ {line}, lines line → lines line.older
  newer : ∀ {line}, lines line → lines line.newer
  sought : ∀ {line workspace}, lines line → invariant.holds workspace →
    invariant.holds (workspace.record ("find " ++ line.content))
  submitted : ∀ {line workspace}, lines line → invariant.holds workspace →
    invariant.holds (workspace.noting line.content true)

namespace Enduring

open SessionAct

variable {α : Type} {lines : LineBuffer → Prop} {invariant : Invariant}
variable (enduring : Enduring lines invariant)

include enduring

theorem ofAct {act : Act α} (kept : act.Keeps invariant) :
    Keeps (Holds lines invariant) (SessionAct.ofAct act) := fun session holds =>
  ⟨holds.line, (kept session.workspace holds.workspace).holds enduring.coarse.lasting⟩

/-- The mode, the search and the status do not count. -/
theorem same {workspace : Workspace} (holds : invariant.holds workspace) (mode : InputMode)
    (search : Search) (status : String) :
    invariant.holds { workspace with mode, search, status } :=
  enduring.coarse.same holds rfl rfl rfl rfl

theorem openSearchLine : Keeps (Holds lines invariant) SessionAct.openSearchLine :=
  Keeps.modify fun _ holds => ⟨enduring.blank, enduring.same holds.workspace _ _ _⟩

theorem closeLine : Keeps (Holds lines invariant) SessionAct.closeLine :=
  Keeps.modify fun _ holds => ⟨holds.line, enduring.same holds.workspace _ _ _⟩

theorem lineChanged : Keeps (Holds lines invariant) SessionAct.lineChanged := by
  have coarse := enduring.coarse
  refine Keeps.bind Keeps.get fun session => Keeps.ite (enduring.ofAct ?_) (Keeps.pure _)
  refine Act.Keeps.bind Act.Keeps.get fun workspace => ?_
  split
  · refine Act.Keeps.ite (fun _ => ?_) fun _ => ?_
    · exact Act.Keeps.bind Act.Keeps.get fun _ =>
        Act.Keeps.bind (coarse.setSearch _) fun _ => coarse.moveTo _ _
    · refine Act.Keeps.bind Act.Keeps.get fun _ => Act.Keeps.bind (Act.Keeps.ofOutcome _) fun _ => ?_
      exact Act.Keeps.bind (coarse.setSearch _) fun _ =>
        Act.Keeps.bind (coarse.moveTo _ _) fun _ => coarse.setStatus _
  · exact Act.Keeps.pure _

theorem run {line : String} {isRecorded : Bool} (noted : ∀ workspace, invariant.holds workspace →
      invariant.holds (workspace.noting line isRecorded)) :
    Keeps (Holds lines invariant) (SessionAct.run line isRecorded) := by
  refine Keeps.bind (enduring.ofAct fun workspace holds =>
    enduring.coarse.execute (noted workspace holds)) fun reply => ?_
  refine Keeps.bind (enduring.ofAct (enduring.coarse.setStatus _)) fun _ => ?_
  exact Keeps.bind Keeps.get fun _ => Keeps.ite Holds.stop (Keeps.pure _)

theorem submit : Keeps (Holds lines invariant) SessionAct.submit := by
  intro session holds
  have summarised : Keeps (Holds lines invariant) (SessionAct.modifyWorkspace fun workspace =>
      { workspace with status := workspace.search.summary }) :=
    Holds.modifyWorkspace fun _ holds => enduring.same holds _ _ _
  have noted : Keeps (Holds lines invariant)
      (SessionAct.modifyWorkspace (·.record ("find " ++ session.line.content))) :=
    Holds.modifyWorkspace fun _ => enduring.sought holds.line
  -- What is run and recorded is the line from before it was closed.
  refine Leaves.bind_get (Leaves.bind_get ((enduring.closeLine session holds).bind fun _ => ?_))
  apply Keeps.ite
  · exact Keeps.ite (Keeps.bind noted fun _ => summarised) summarised
  · exact Keeps.ite (enduring.run fun _ => enduring.submitted holds.line) (Keeps.pure _)

theorem cancel : Keeps (Holds lines invariant) SessionAct.cancel := by
  have put (origin : SearchOrigin) :
      Keeps (Holds lines invariant) (SessionAct.modifyWorkspace (restored origin)) := by
    refine Holds.modifyWorkspace fun workspace holds => ?_
    unfold restored
    simp only
    split
    · exact enduring.coarse.same holds rfl rfl (Workspace.ids_updateTab _ fun _ => rfl) rfl
    · exact enduring.same holds _ _ _
  refine Keeps.bind Keeps.get fun _ => Keeps.bind Keeps.get fun _ => ?_
  split
  · exact Keeps.bind (put _) fun _ => enduring.closeLine
  · exact enduring.closeLine

theorem edit {change : LineBuffer → LineBuffer}
    (kept : ∀ line : LineBuffer, lines line → lines (change line)) :
    Keeps (Holds lines invariant) (SessionAct.modifyLine change >>= fun _ => SessionAct.lineChanged) :=
  Keeps.bind (Holds.modifyLine kept) fun _ => enduring.lineChanged

theorem modifyQuery (change : Search.Query → Search.Query) :
    Keeps (Holds lines invariant) (SessionAct.modifyQuery change) :=
  Keeps.bind (Holds.modifyWorkspace fun _ holds => enduring.same holds _ _ _) fun _ => enduring.lineChanged

theorem perform {mode : InputMode} {press : KeyPress} {action : Action}
    (called : (Keymap.ofMode mode).action? press = some action) :
    Keeps (Holds lines invariant) (SessionAct.perform action press.key) := by
  have steady := enduring.coarse.steady
  have unrecorded (line : String) : Keeps (Holds lines invariant) (SessionAct.run line false) :=
    enduring.run fun _ holds => holds
  cases action with
  | quit =>
      refine Keeps.bind (Holds.modifyWorkspace fun _ holds => ?_) fun _ => Holds.stop
      exact enduring.coarse.same holds rfl rfl rfl rfl
  | moveDown => exact enduring.ofAct (steady.move _ _)
  | moveUp => exact enduring.ofAct (steady.move _ _)
  | moveLeft => exact enduring.ofAct (steady.move _ _)
  | moveRight => exact enduring.ofAct (steady.move _ _)
  | top => exact enduring.ofAct (steady.moveTo _ _)
  | bottom => exact enduring.ofAct (steady.moveFor _ _)
  | halfPageUp => exact enduring.ofAct (steady.page _)
  | halfPageDown => exact enduring.ofAct (steady.page _)
  | pageUp => exact enduring.ofAct (steady.page _)
  | pageDown => exact enduring.ofAct (steady.page _)
  | firstColumn => exact enduring.ofAct (steady.moveFor _ _)
  | lastColumn => exact enduring.ofAct (steady.moveFor _ _)
  | commandLine =>
      exact Keeps.modify fun _ holds =>
        ⟨enduring.opened holds.workspace, enduring.same holds.workspace _ _ _⟩
  | searchLine => exact enduring.openSearchLine
  | findNext => exact unrecorded _
  | findPrevious => exact unrecorded _
  | previousTab => exact unrecorded _
  | nextTab => exact unrecorded _
  | undo => exact unrecorded _
  | closeTab => exact unrecorded _
  | record => exact unrecorded _
  | rowDigit =>
      exact Keeps.modify fun _ holds =>
        ⟨enduring.dialled holds.workspace called, enduring.same holds.workspace _ _ _⟩
  | submit => exact enduring.submit
  | cancel => exact enduring.cancel
  | backspace =>
      refine Keeps.bind (Keeps.bind Keeps.get fun _ => ?_) fun _ => enduring.lineChanged
      exact Keeps.ite enduring.cancel (Holds.modifyLine fun _ => enduring.backspaced)
  | cursorLeft => exact Holds.modifyLine fun _ => enduring.moved _
  | cursorRight => exact Holds.modifyLine fun _ => enduring.moved _
  | lineStart => exact Holds.modifyLine fun _ => enduring.moved _
  | lineEnd => exact Holds.modifyLine fun _ => enduring.moved _
  | historyPrevious => exact enduring.edit fun _ => enduring.older
  | historyNext => exact enduring.edit fun _ => enduring.newer
  | cycleSearchMode => exact enduring.modifyQuery _
  | toggleCase => exact enduring.modifyQuery _

theorem press (press : KeyPress) : Keeps (Holds lines invariant) (SessionAct.press press) := by
  refine Keeps.bind Keeps.get fun session => ?_
  simp only
  split
  · next action called => exact enduring.perform called
  · split
    · next printable =>
      exact enduring.edit fun _ line => enduring.inserted line (Bool.and_eq_true_iff.mp printable).2
    · exact Keeps.pure _

/-- Whatever happens keeps what is said, if recording a line that is executed does. -/
theorem step {session : Session} (holds : session.Holds lines invariant) (happening : Happening)
    (noted : ∀ line isRecorded, happening = .work (.execute line isRecorded) →
      invariant.holds (session.workspace.noting line isRecorded)) :
    (session.step happening).Holds lines invariant := by
  cases happening with
  | event event =>
      cases event with
      | resize size => exact ⟨holds.line, enduring.coarse.resized holds.workspace _⟩
      | key press =>
          have shows (problem : Problem) : Keeps (Holds lines invariant) (shown problem) := by
            cases problem with
            | failure cause stepIndex => exact enduring.ofAct (enduring.coarse.setStatus _)
            | fault fault => exact Keeps.throw _
          exact Leaves.bind ((enduring.press press session holds).tryCatch shows) fun _ =>
            Keeps.bind Keeps.get fun _ => Keeps.pure _
  | work event =>
      refine ⟨holds.line, enduring.coarse.step holds.workspace event ?_⟩
      rintro line isRecorded rfl
      exact noted line isRecorded rfl
  | drain =>
      have drains : Keeps (Holds lines invariant) SessionAct.drain :=
        Keeps.bind (enduring.ofAct enduring.coarse.drain) fun _ => Keeps.bind Keeps.get fun _ =>
          Keeps.ite (Keeps.bind Holds.stop fun _ => Keeps.pure _) (Keeps.pure _)
      exact drains session holds
  | draw size =>
      change ((session.draw size).2).Holds lines invariant
      unfold Session.draw
      split
      · exact holds
      · refine ⟨holds.line, enduring.coarse.same holds.workspace rfl rfl ?_ rfl⟩
        exact Workspace.ids_updateTab _ fun _ => rfl

end Enduring

end Session

/-! ## The line -/

theorem Text.isPrintable_of_isBreak {char : Char} (isBreak : IsBreak char) :
    isPrintable char = false := by
  rcases isBreak with rfl | rfl | rfl
  · decide
  · decide
  · decide

theorem Text.isSingle_trim {text : String} (single : IsSingle text) : IsSingle (trim text) := by
  refine single.of_subset ?_
  rw [trim, String.toList_ofList]
  exact (trimChars_sublist text.toList).subset

namespace KeyPress

variable {press : KeyPress}

theorem isSingle_of_isPrintable (isPrintable : press.isPrintable) : IsSingle press.key := by
  rw [KeyPress.isPrintable, Bool.and_eq_true] at isPrintable
  rcases isPrintable with ⟨_, isPrintable⟩
  split at isPrintable
  · next typed isKey =>
    intro char member isBreak
    rw [isKey, List.mem_singleton] at member
    rw [member] at isBreak
    rw [Text.isPrintable_of_isBreak isBreak] at isPrintable
    cases isPrintable
  · cases isPrintable

/-- No key that calls an action has a break in its name. -/
theorem isSingle_of_action {mode : InputMode} {action : Action}
    (called : (Keymap.ofMode mode).action? press = some action) : IsSingle press.key := by
  have chords : ∀ binding ∈ Keymap.ofMode mode, IsSingle binding.1 := by cases mode <;> decide
  have chord := chords _ (Keymap.mem_of_action? called)
  rw [KeyPress.chord, Line.isSingle_intercalate (by decide)] at chord
  exact chord press.key (List.mem_append_right _ (List.mem_singleton_self _))

end KeyPress

namespace LineBuffer

/-- The line has no breaks, nor has what can be recalled in its place. -/
structure Single (line : LineBuffer) : Prop where
  text : ∀ char ∈ line.text, ¬ IsBreak char
  draft : ∀ char ∈ line.draft, ¬ IsBreak char
  history : ∀ recalled ∈ line.history, IsSingle recalled

variable {line : LineBuffer}

theorem Single.content (single : line.Single) : IsSingle line.content :=
  Line.isSingle_ofList.mpr single.text

theorem single_start {text : String} {history : List String} (single : IsSingle text)
    (recalled : ∀ line ∈ history, IsSingle line) : (start text history).Single :=
  ⟨single, single, recalled⟩

theorem Single.insert (single : line.Single) {text : String} (typed : IsSingle text) :
    (line.insert text.toList).Single := by
  refine ⟨?_, single.draft, single.history⟩
  simp only [LineBuffer.insert, List.forall_mem_append]
  exact ⟨⟨fun char member => single.text char (List.mem_of_mem_take member), typed⟩,
    fun char member => single.text char (List.mem_of_mem_drop member)⟩

theorem Single.backspace (single : line.Single) : line.backspace.Single := by
  refine ⟨?_, single.draft, single.history⟩
  simp only [LineBuffer.backspace, List.forall_mem_append]
  exact ⟨fun char member => single.text char (List.mem_of_mem_take member),
    fun char member => single.text char (List.mem_of_mem_drop member)⟩

theorem Single.recalling (single : line.Single) (index : Nat) : (line.recalling index).Single := by
  refine ⟨?_, single.draft, single.history⟩
  change IsSingle (line.history.getD index "")
  rw [List.getD_eq_getElem?_getD]
  cases found : line.history[index]? with
  | none => exact Line.isSingle_empty
  | some recalled => exact single.history recalled (List.mem_of_getElem? found)

theorem Single.older (single : line.Single) : line.older.Single := by
  have drafting : Single { line with draft := line.text } := ⟨single.text, single.text, single.history⟩
  unfold LineBuffer.older
  split
  · exact single
  · split
    · exact drafting.recalling _
    · exact single.recalling _

theorem Single.newer (single : line.Single) : line.newer.Single := by
  unfold LineBuffer.newer
  split
  · exact single
  · split
    · exact single.recalling _
    · exact ⟨single.draft, single.draft, single.history⟩

end LineBuffer

namespace Workspace

/-- The settings are the given ones, and no command in the history has breaks. -/
def singleMemory (settings : Settings) : Invariant := memory (∀ line ∈ ·, IsSingle line) settings

variable {settings : Settings} {workspace : Workspace} {line : String}

theorem single_record (workspace : Workspace) (recorded : ∀ line ∈ workspace.history, IsSingle line)
    (single : IsSingle line) : ∀ other ∈ (workspace.record line).history, IsSingle other := by
  rcases workspace.record_cases line with same | ⟨count, made⟩
  · rwa [same]
  · rw [made]
    intro other member
    rcases List.mem_append.mp (List.mem_of_mem_drop member) with old | isNew
    · exact recorded other old
    · rw [List.mem_singleton.mp isNew]
      exact Text.isSingle_trim single

theorem singleMemory_noting (holds : (singleMemory settings).holds workspace) {isRecorded : Bool}
    (single : isRecorded = true → IsSingle line) :
    (singleMemory settings).holds (workspace.noting line isRecorded) := by
  refine memory_noting holds ?_
  cases isRecorded with
  | true =>
      rw [noting_true]
      exact workspace.single_record holds.1 (single rfl)
  | false => exact holds.1

end Workspace

namespace Session

/-- Neither the line nor the history of commands has breaks. -/
def Typed (settings : Settings) : Session → Prop :=
  Holds LineBuffer.Single (Workspace.singleMemory settings)

variable {settings : Settings} {session : Session}

theorem typed_start (files : FileTree) (scheduling : Scheduling) (size : Size) :
    (start (Workspace.start settings files scheduling) size).Typed settings where
  line := ⟨nofun, nofun, nofun⟩
  workspace := ⟨nofun, rfl⟩

theorem enduring_typed : Enduring LineBuffer.Single (Workspace.singleMemory settings) where
  coarse := Workspace.coarse_memory
  blank := LineBuffer.single_start Line.isSingle_empty fun _ member => by cases member
  opened holds := LineBuffer.single_start Line.isSingle_empty holds.1
  dialled holds called := LineBuffer.single_start
    (Line.isSingle_append.mpr ⟨by decide, KeyPress.isSingle_of_action called⟩) holds.1
  moved _ single := { single with }
  inserted single printable := single.insert (KeyPress.isSingle_of_isPrintable printable)
  backspaced single := single.backspace
  older single := single.older
  newer single := single.newer
  sought := by
    intro line workspace single holds
    have prefixed : IsSingle ("find " ++ line.content) := by
      rw [Line.isSingle_append]
      exact ⟨by decide, single.content⟩
    rw [← Workspace.noting_true]
    exact Workspace.singleMemory_noting holds fun _ => prefixed
  submitted single holds := Workspace.singleMemory_noting holds fun _ => single.content

end Session

/-! ## Runs -/

/-- A table of one cell that has a text. -/
def Table.ofText (text : String) : Table :=
  ⟨[⟨"a", .string, [.text text]⟩], aligned_of_length 1 (by simp), List.nodup_singleton _⟩

namespace Session

variable {settings : Settings} {session : Session}

/-- A line that is executed and recorded has no breaks. -/
def Happening.Single : Happening → Prop
  | .work (.execute line true) => IsSingle line
  | _ => True

theorem Typed.step (typed : session.Typed settings) {happening : Happening}
    (single : happening.Single) : (session.step happening).Typed settings := by
  refine enduring_typed.step typed happening fun line isRecorded isLine => ?_
  subst isLine
  refine Workspace.singleMemory_noting typed.workspace fun isTrue => ?_
  cases isTrue
  exact single

theorem Typed.after (typed : session.Typed settings) {happenings : List Happening}
    (single : ∀ happening ∈ happenings, happening.Single) :
    (session.after happenings).Typed settings := by
  induction happenings generalizing session with
  | nil => exact typed
  | cons happening happenings induction =>
      rw [List.forall_mem_cons] at single
      exact induction (typed.step single.1) single.2

/--
After every run in which only lines without breaks are recorded, and with a mark
of cuts that has none, no line of the screen has a break, whatever its size, exactly
when none is in what the session shows as it is.
-/
theorem lines_single_after_iff (settings : Settings) (files : FileTree) (scheduling : Scheduling)
    (size : Size) (happenings : List Happening) (mark : IsSingle settings.ellipsis)
    (single : ∀ happening ∈ happenings, happening.Single) :
    let session := (start (Workspace.start settings files scheduling) size).after happenings
    (∀ size, ∀ line ∈ (session.draw size).1.lines, IsSingle line) ↔ session.ShowsSingle := by
  intro session
  have typed : session.Typed settings := (typed_start files scheduling size).after single
  refine session.lines_single_iff ?_ typed.line.content
  rwa [typed.workspace.2]

/-- A table of one cell that has a text is opened. -/
def opening (text : String) : List Happening := [.work (.openTable (.ofText text) "t" [])]

/-- A pair of line ends in a cell is replaced. -/
theorem lines_single_lineEnds :
    let session := (start (Workspace.start {} { surroundings := ⟨[], []⟩ } .deferred) ⟨20, 5⟩).after
      (opening "a\r\nb")
    ∀ size, ∀ line ∈ (session.draw size).1.lines, IsSingle line := by
  have single : ∀ happening ∈ opening "a\r\nb", happening.Single := by
    rw [opening, List.forall_mem_singleton]
    trivial
  refine (lines_single_after_iff {} _ .deferred ⟨20, 5⟩ _ (by decide) single).mpr ?_
  -- Of the session only what it shows is evaluated.
  generalize isSession : (start _ _).after _ = session
  have names : session.workspace.tabs.map Tab.name = ["t"] := by
    rw [← isSession]
    decide +kernel
  have status : session.workspace.status = "" := by
    rw [← isSession]
    decide +kernel
  have ellipsis : session.workspace.settings.ellipsis = "…" := by
    rw [← isSession]
    decide +kernel
  have columns : session.workspace.activeTab?.map (·.view.columns) =
      some (Table.ofText "a\r\nb").columns := by
    rw [← isSession]
    decide +kernel
  have shown {tab : Tab} (isActive : session.workspace.activeTab? = some tab) :
      tab.view.columns = (Table.ofText "a\r\nb").columns := by
    rw [isActive] at columns
    exact Option.some.inj columns
  refine ⟨?_, fun _ => status ▸ Line.isSingle_empty, fun _ tab isActive _ => ?_,
    fun tab isActive => ?_⟩
  · intro tab member
    have isName : tab.name ∈ session.workspace.tabs.map Tab.name := List.mem_map_of_mem member
    rw [names, List.mem_singleton] at isName
    rw [isName]
    decide
  · rw [Table.header, shown isActive]
    cases tab.place.column with
    | zero => decide
    | succ column => exact Line.isSingle_empty
  · refine Tab.gridSingle_of_paired ?_ ?_
    · change IsSingle session.workspace.settings.ellipsis
      rw [ellipsis]
      decide
    · rw [shown isActive]
      simp [Table.ofText, Datum.cellText, Line.ReturnsPaired]

/-- A carriage return alone is shown as it is. -/
theorem lines_broken_return :
    let session := (start (Workspace.start {} { surroundings := ⟨[], []⟩ } .deferred) ⟨20, 5⟩).after
      (opening "a\rb")
    ∃ line ∈ (session.draw ⟨20, 5⟩).1.lines, ¬ IsSingle line := by
  decide +kernel

end Session

end TableBrowser
