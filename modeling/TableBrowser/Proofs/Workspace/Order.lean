import Mathlib.Algebra.Order.BigOperators.Group.List
import TableBrowser.Proofs.Workspace.Fate
import TableBrowser.Proofs.Workspace.Run
/-!
# The order of arrivals

Whatever arrives, the same becomes of each tab, and which tab is active in the
end depends on how many tabs before it stay. Main statement: however messages
arrive, the same tabs are left, and the same one is active.
-/

namespace TableBrowser

/-! ## Lists from which an item is taken -/

section

variable {α β : Type} {items : List α} {index : Nat} {item : α}

theorem filterMap_eraseIdx {f : α → Option β} (found : items[index]? = some item)
    (gone : f item = none) : (items.eraseIdx index).filterMap f = items.filterMap f := by
  induction items generalizing index with
  | nil => cases found
  | cons first items induction =>
      cases index with
      | zero =>
          cases found
          rw [List.eraseIdx_cons_zero, List.filterMap_cons_none gone]
      | succ index =>
          rw [List.eraseIdx_cons_succ, List.filterMap_cons, List.filterMap_cons,
            induction (by simpa using found)]

/-- How many items that stay stand before a place, and so the place of the active one among them. -/
def placeAmong (stays : α → Bool) (items : List α) (active : Nat) : Nat :=
  min ((items.take active).countP stays) (items.countP stays - 1)

theorem countP_le_take_pred (stays : α → Bool) (items : List α) :
    items.countP stays - 1 ≤ (items.take (items.length - 1)).countP stays := by
  have parts := congrArg (List.countP stays) (List.take_append_drop (items.length - 1) items)
  have last : (items.drop (items.length - 1)).countP stays ≤ _ := List.countP_le_length
  rw [List.countP_append] at parts
  rw [List.length_drop] at last
  omega

/-- The place of the active item is corrected when an item that does not stay is taken away. -/
theorem placeAmong_append {stays : α → Bool} (gone : stays item = false) (before after : List α)
    {active : Nat} (inside : active ≤ before.length + after.length) :
    placeAmong stays (before ++ after) (min
        (if before.length < active then active - 1 else active)
        (before.length + after.length - 1)) =
      placeAmong stays (before ++ item :: after) active := by
  unfold placeAmong
  have total : (before ++ item :: after).countP stays = (before ++ after).countP stays := by
    simp [gone]
  rw [total]
  by_cases isBefore : before.length < active
  · have place : min (active - 1) (before.length + after.length - 1) = active - 1 := by omega
    have left : active - before.length = active - 1 - before.length + 1 := by omega
    have all : before.take active = before := List.take_of_length_le (by omega)
    have allToo : before.take (active - 1) = before := List.take_of_length_le (by omega)
    rw [if_pos isBefore, place, List.take_append, List.take_append, left, List.take_succ_cons,
      all, allToo]
    simp [gone]
  · rw [if_neg isBefore]
    by_cases stands : active ≤ before.length + after.length - 1
    · rw [Nat.min_eq_left stands, List.take_append_of_le_length (by omega),
        List.take_append_of_le_length (by omega)]
    · -- The last item was the active one, and the one before it becomes active.
      have isLast : after.length = 0 := by omega
      have isActive : active = before.length := by omega
      rw [List.length_eq_zero_iff.mp isLast, isActive]
      simp only [List.append_nil, List.take_left, List.length_nil, Nat.add_zero]
      have enough := countP_le_take_pred stays before
      rw [Nat.min_eq_right (Nat.sub_le _ _), Nat.min_eq_right (Nat.sub_le _ _),
        Nat.min_eq_right enough]

theorem placeAmong_eraseIdx {stays : α → Bool} {active : Nat} (found : items[index]? = some item)
    (gone : stays item = false) (inside : active ≤ items.length - 1) :
    placeAmong stays (items.eraseIdx index)
        (min (if index < active then active - 1 else active) ((items.eraseIdx index).length - 1)) =
      placeAmong stays items active := by
  rcases List.getElem?_eq_some_iff.mp found with ⟨inBounds, isItem⟩
  have split : items = items.take index ++ item :: items.drop (index + 1) := by
    rw [← isItem, List.getElem_cons_drop, List.take_append_drop]
  have isIndex : (items.take index).length = index := List.length_take_of_le inBounds.le
  have rest : (items.drop (index + 1)).length = items.length - (index + 1) := List.length_drop
  have within : active ≤ (items.take index).length + (items.drop (index + 1)).length := by omega
  have moved := placeAmong_append gone _ _ within
  rw [← split] at moved
  rw [← moved, List.eraseIdx_eq_take_drop_succ, List.length_append, isIndex]

end

/-! ## What becomes of a workspace -/

namespace Workspace

variable {workspace : Workspace} {loads : Nat → JobResult}

/-- What becomes of a tab, given the results of all loads. -/
def fateOf (workspace : Workspace) (loads : Nat → JobResult) (tab : Tab) : Option Tab :=
  tab.fate workspace.settings workspace.grid (loads tab.id)

/-- The tabs that are left in the end and the place of the active one, given the results of loads. -/
structure HeadsFor (workspace : Workspace) (messages : Multiset Message)
    (loads : Nat → JobResult) (tabs : List Tab) (place : Nat) : Prop where
  foreseen : ∀ tab ∈ workspace.tabs, ∀ result, .loaded tab.id result ∈ messages →
    result = loads tab.id
  left : workspace.tabs.filterMap (workspace.fateOf loads) = tabs
  isPlace : placeAmong (fun tab => (workspace.fateOf loads tab).isSome) workspace.tabs
    workspace.active = place

variable {messages others : Multiset Message} {tabs : List Tab} {place : Nat}

/-- What is shown besides the tabs does not matter, and nor does an evaluation. -/
theorem HeadsFor.of_same (heads : workspace.HeadsFor messages loads tabs place)
    {after : Workspace} (sameTabs : after.tabs = workspace.tabs)
    (active : after.active = workspace.active) (settings : after.settings = workspace.settings)
    (grid : after.grid = workspace.grid)
    (fewer : ∀ id result, .loaded id result ∈ others → .loaded id result ∈ messages) :
    after.HeadsFor others loads tabs place := by
  have fates : after.fateOf loads = workspace.fateOf loads := by
    funext tab
    rw [fateOf, fateOf, settings, grid]
  constructor
  · intro tab member result isLoad
    rw [sameTabs] at member
    exact heads.foreseen tab member result (fewer tab.id result isLoad)
  · rw [sameTabs, fates]
    exact heads.left
  · rw [sameTabs, active, fates]
    exact heads.isPlace

/-- A tab that does not stay is taken away. -/
theorem HeadsFor.removeTab (heads : workspace.HeadsFor messages loads tabs place) {index : Nat}
    {tab : Tab} (found : workspace.tabs[index]? = some tab)
    (gone : workspace.fateOf loads tab = none)
    (inside : workspace.active ≤ workspace.tabs.length - 1) :
    (workspace.removeTab index).HeadsFor messages loads tabs place where
  foreseen other member := heads.foreseen other (List.mem_of_mem_eraseIdx member)
  left := (filterMap_eraseIdx found gone).trans heads.left
  isPlace := by
    refine Eq.trans ?_ heads.isPlace
    have absent : (workspace.fateOf loads tab).isSome = false := by
      rw [gone]
      rfl
    exact placeAmong_eraseIdx found absent inside

/-- A tab becomes another one with the same fate. -/
theorem HeadsFor.updateTab (heads : workspace.HeadsFor messages loads tabs place) {id : Nat}
    {change : Tab → Tab} (keepsId : ∀ tab ∈ workspace.tabs, tab.id = id → (change tab).id = id)
    (keepsFate : ∀ tab ∈ workspace.tabs, tab.id = id →
      workspace.fateOf loads (change tab) = workspace.fateOf loads tab) :
    (workspace.updateTab id change).HeadsFor messages loads tabs place := by
  have fates : ∀ tab ∈ workspace.tabs, workspace.fateOf loads
      (if tab.id = id then change tab else tab) = workspace.fateOf loads tab := by
    intro tab member
    split
    · next same => exact keepsFate tab member same
    · rfl
  constructor
  · intro tab member result isLoad
    rcases List.mem_map.mp member with ⟨old, oldMember, made⟩
    have sameId : tab.id = old.id := by
      rw [← made]
      split
      · next same => exact (keepsId old oldMember same).trans same.symm
      · rfl
    rw [sameId] at isLoad ⊢
    exact heads.foreseen old oldMember result isLoad
  · rw [← heads.left]
    change (workspace.tabs.map _).filterMap (workspace.fateOf loads) = _
    rw [List.filterMap_map]
    exact List.filterMap_congr fates
  · rw [← heads.isPlace]
    change placeAmong (fun tab => (workspace.fateOf loads tab).isSome) (workspace.tabs.map _) _ = _
    unfold placeAmong
    rw [← List.map_take, List.countP_map, List.countP_map]
    congr 1
    · apply List.countP_congr
      intro tab member
      simp only [Function.comp_apply, fates tab (List.mem_of_mem_take member)]
    · congr 1
      apply List.countP_congr
      intro tab member
      simp only [Function.comp_apply, fates tab member]

theorem HeadsFor.handOut (heads : workspace.HeadsFor workspace.outstanding loads tabs place)
    (id : Nat) (request : Option EvaluationRequest) :
    (workspace.handOut id request).HeadsFor (workspace.handOut id request).outstanding loads tabs
      place := by
  rw [outstanding_handOut]
  rcases workspace.exists_handOut id request with ⟨jobs, come, made⟩
  rw [made]
  refine heads.of_same rfl rfl rfl rfl fun tab result isLoad => ?_
  cases request with
  | none => exact isLoad
  | some request =>
      rw [askedFor, Multiset.mem_cons] at isLoad
      rcases isLoad with isNew | old
      · cases isNew
      · exact old

/-- Whatever arrives, the same becomes of the workspace. -/
theorem HeadsFor.taking {message : Message}
    (heads : workspace.HeadsFor (message ::ₘ workspace.outstanding) loads tabs place)
    (sound : workspace.SoundFor (message ::ₘ workspace.outstanding)) :
    (workspace.taking message).HeadsFor (workspace.taking message).outstanding loads tabs
      place := by
  have fewer : workspace.HeadsFor workspace.outstanding loads tabs place :=
    heads.of_same rfl rfl rfl rfl fun _ _ => Multiset.mem_cons_of_mem
  unfold Workspace.taking
  cases found : workspace.tabOf? message.tab with
  | none => exact fewer
  | some tab =>
      rcases mem_of_tabOf? found with ⟨member, same⟩
      have isLoad (result : JobResult) (isMessage : message = .loaded tab.id result) :
          result = loads tab.id :=
        heads.foreseen tab member result (isMessage ▸ Multiset.mem_cons_self _ _)
      have fate := (sound.tabs tab member).fate_answer workspace.settings workspace.grid same.symm
        isLoad
      have after := (sound.tabs tab member).answer workspace.settings workspace.grid same.symm
      simp only
      cases answer : tab.answer workspace.settings workspace.grid message with
      | ignored => exact fewer
      | removed =>
          rw [answer] at fate
          rcases findIdx?_of_tabOf? found with ⟨index, isPlace⟩
          simp only [answered, isPlace]
          exact fewer.removeTab (getElem?_of_place sound.ids found isPlace) fate sound.place
      | becomes changed request =>
          rw [answer] at fate after
          simp only at fate
          have keepsId : changed.id = message.tab := after.1.trans same
          apply HeadsFor.handOut
          apply fewer.updateTab (fun _ _ _ => keepsId)
          intro other otherMember isTab
          rw [sound.eq_of_id otherMember member (isTab.trans same.symm), fateOf, fateOf, keepsId,
            ← same]
          exact fate

theorem HeadsFor.arriving (heads : workspace.HeadsFor workspace.outstanding loads tabs place)
    (sound : workspace.Sound) (arrival : Arrival) :
    (workspace.arriving arrival).HeadsFor (workspace.arriving arrival).outstanding loads tabs
      place := by
  cases arrival with
  | finish index =>
      have outstanding := workspace.outstanding_finished index
      simp only [Workspace.arriving, outstanding]
      rcases workspace.finished_cases index with same | ⟨job, _, made⟩
      · rwa [same]
      · rw [made]
        exact heads.of_same rfl rfl rfl rfl fun _ _ isLoad => isLoad
  | deliver index =>
      simp only [Workspace.arriving]
      cases found : workspace.messages[index]? with
      | none => rwa [delivered_of_none found]
      | some message =>
          rcases sound.delivered_eq found with ⟨search, status, _, made⟩
          rw [outstanding_take found] at heads
          have before : (workspace.without index).HeadsFor
              (message ::ₘ (workspace.without index).outstanding) loads tabs place := { heads with }
          have taken := before.taking (sound.without found)
          rw [made]
          exact { taken with }

theorem HeadsFor.arrived (heads : workspace.HeadsFor workspace.outstanding loads tabs place)
    (sound : workspace.Sound) (arrivals : List Arrival) :
    (workspace.arrived arrivals).HeadsFor (workspace.arrived arrivals).outstanding loads tabs
      place := by
  induction arrivals generalizing workspace with
  | nil => exact heads
  | cons arrival arrivals induction =>
      exact induction (heads.arriving sound arrival) (sound.arriving arrival)

/-! ## Complete runs -/

/-- Nothing is outstanding. -/
def IsIdle (workspace : Workspace) : Prop := workspace.jobs = [] ∧ workspace.messages = []

theorem SoundFor.exists_loads (sound : workspace.SoundFor messages) :
    ∃ loads : Nat → JobResult, ∀ tab ∈ workspace.tabs, ∀ result,
      .loaded tab.id result ∈ messages → result = loads tab.id := by
  have each (id : Nat) : ∃ load, ∀ tab ∈ workspace.tabs, tab.id = id → ∀ result,
      .loaded tab.id result ∈ messages → result = load := by
    by_cases isLoad : ∃ result, .loaded id result ∈ messages
    · rcases isLoad with ⟨load, isLoad⟩
      refine ⟨load, fun tab member same result isResult => ?_⟩
      exact (sound.tabs tab member).load_unique isResult (same ▸ isLoad)
    · exact ⟨.nothing, fun tab _ same result isResult =>
        absurd ⟨result, same ▸ isResult⟩ isLoad⟩
  choose loads isLoad using each
  exact ⟨loads, fun tab member => isLoad tab.id tab member rfl⟩

/-- With nothing outstanding the tabs are what was to become of them. -/
theorem HeadsFor.eq_of_idle (heads : workspace.HeadsFor messages loads tabs place)
    (sound : workspace.Sound) (isIdle : workspace.IsIdle) :
    workspace.tabs = tabs ∧ workspace.active = place := by
  have nothing := outstanding_of_nothing isIdle.1 isIdle.2
  have stays : ∀ tab ∈ workspace.tabs, workspace.fateOf loads tab = some tab := by
    intro tab member
    have soundTab := sound.tabs tab member
    rw [nothing] at soundTab
    exact Tab.fate_of_none _ _ soundTab.next?_of_nothing
  have all : ∀ some ⊆ workspace.tabs,
      some.countP (fun tab => (workspace.fateOf loads tab).isSome) = some.length := by
    intro some within
    rw [List.countP_eq_length]
    intro tab member
    rw [stays tab (within member)]
    rfl
  constructor
  · rw [← heads.left, List.filterMap_congr stays]
    exact (List.filterMap_some ..).symm
  · have inside := sound.place
    rw [← heads.isPlace, placeAmong, all _ (List.take_subset ..), all _ (List.Subset.refl _),
      List.length_take]
    omega

/-! ## Termination -/

/-- A bound on the arrivals that are still to come: a job that is done becomes a message. -/
def remaining (workspace : Workspace) : Nat :=
  2 * workspace.jobs.length + workspace.messages.length +
    2 * (workspace.tabs.map Tab.outcomesLeft).sum

theorem sum_updateTab (ids : (workspace.tabs.map (·.id)).Nodup) {tab : Tab}
    (member : tab ∈ workspace.tabs) (measure : Tab → Nat) (after : Tab) :
    ((workspace.updateTab tab.id fun _ => after).tabs.map measure).sum + measure tab =
      (workspace.tabs.map measure).sum + measure after := by
  unfold Workspace.updateTab
  simp only
  generalize workspace.tabs = tabs at ids member
  induction tabs with
  | nil => cases member
  | cons first tabs induction =>
      rw [List.map_cons, List.nodup_cons] at ids
      rcases List.mem_cons.mp member with isFirst | isLater
      · have others : (tabs.map fun other => if other.id = tab.id then after else other) = tabs := by
          refine (List.map_congr_left ?_).trans (List.map_id tabs)
          intro other otherMember
          rw [if_neg]
          · rfl
          · intro same
            rw [← isFirst, ← same] at ids
            exact ids.1 (List.mem_map_of_mem otherMember)
        rw [List.map_cons, others, isFirst, if_pos rfl, List.map_cons, List.map_cons, List.sum_cons,
          List.sum_cons]
        omega
      · have different : first.id ≠ tab.id := fun same =>
          ids.1 (same ▸ List.mem_map_of_mem isLater)
        have rest := induction ids.2 isLater
        rw [List.map_cons, if_neg different, List.map_cons, List.map_cons, List.sum_cons,
          List.sum_cons]
        omega

theorem length_handOut (workspace : Workspace) (id : Nat) (request : Option EvaluationRequest) :
    workspace.jobs.length ≤ (workspace.handOut id request).jobs.length ∧
      workspace.messages.length ≤ (workspace.handOut id request).messages.length ∧
      (workspace.handOut id request).jobs.length + (workspace.handOut id request).messages.length =
        workspace.jobs.length + workspace.messages.length + request.toList.length := by
  cases request with
  | none => exact ⟨Nat.le_refl _, Nat.le_refl _, rfl⟩
  | some request =>
      simp only [Workspace.handOut, submit]
      cases workspace.scheduling with
      | immediate =>
          refine ⟨Nat.le_refl _, by simp, ?_⟩
          simp only [List.length_append, List.length_singleton, Option.toList_some]
          omega
      | deferred =>
          refine ⟨by simp, Nat.le_refl _, ?_⟩
          simp only [List.length_append, List.length_singleton, Option.toList_some]
          omega

/-- What tabs lose at their answers pays for what they hand out. -/
theorem taking_pays {messages : Multiset Message} (framed : workspace.Framed messages)
    {message : Message} {measure : Tab → Nat}
    (pays : ∀ tab ∈ workspace.tabs, message.tab = tab.id → ∀ after request,
      tab.answer workspace.settings workspace.grid message = .becomes after request →
        measure after + request.toList.length ≤ measure tab) :
    ∃ handed, ((workspace.taking message).tabs.map measure).sum + handed ≤
        (workspace.tabs.map measure).sum ∧
      workspace.jobs.length ≤ (workspace.taking message).jobs.length ∧
      workspace.messages.length ≤ (workspace.taking message).messages.length ∧
      (workspace.taking message).jobs.length + (workspace.taking message).messages.length =
        workspace.jobs.length + workspace.messages.length + handed := by
  have unchanged : ∃ handed, (workspace.tabs.map measure).sum + handed ≤
        (workspace.tabs.map measure).sum ∧ workspace.jobs.length ≤ workspace.jobs.length ∧
      workspace.messages.length ≤ workspace.messages.length ∧
      workspace.jobs.length + workspace.messages.length =
        workspace.jobs.length + workspace.messages.length + handed :=
    ⟨0, Nat.le_refl _, Nat.le_refl _, Nat.le_refl _, rfl⟩
  unfold Workspace.taking
  cases found : workspace.tabOf? message.tab with
  | none => exact unchanged
  | some tab =>
      rcases mem_of_tabOf? found with ⟨member, same⟩
      simp only
      cases answer : tab.answer workspace.settings workspace.grid message with
      | ignored => exact unchanged
      | removed =>
          rcases findIdx?_of_tabOf? found with ⟨index, isPlace⟩
          simp only [answered, isPlace]
          have fewer : ((workspace.tabs.eraseIdx index).map measure).sum ≤
              (workspace.tabs.map measure).sum :=
            ((List.eraseIdx_sublist ..).map _).sum_le_sum fun _ _ => Nat.zero_le _
          exact ⟨0, fewer, Nat.le_refl _, Nat.le_refl _, rfl⟩
      | becomes after request =>
          have paid := pays tab member same.symm after request answer
          have sums := sum_updateTab framed.ids member measure after
          rcases (workspace.updateTab tab.id fun _ => after).length_handOut tab.id request with
            ⟨jobs, outstanding, both⟩
          refine ⟨request.toList.length, ?_, ?_⟩
          · simp only [answered, ← same, tabs_handOut]
            omega
          · simp only [answered, ← same]
            exact ⟨jobs, outstanding, both⟩

/-- A tab that takes a message has waited for it. -/
theorem SoundFor.exists_next {message : Message} (sound : workspace.SoundFor (message ::ₘ messages))
    {tab after : Tab} (member : tab ∈ workspace.tabs) (same : message.tab = tab.id)
    {request : Option EvaluationRequest}
    (answer : tab.answer workspace.settings workspace.grid message = .becomes after request) :
    ∃ load, tab.next? load = some message := by
  rcases sound.exists_loads with ⟨loads, foreseen⟩
  rcases (sound.tabs tab member).next_cases workspace.settings workspace.grid same
    (fun result isMessage => foreseen tab member result
      (isMessage ▸ Multiset.mem_cons_self _ _)) with isIgnored | isNext
  · rw [answer] at isIgnored
    cases isIgnored
  · exact ⟨_, isNext⟩

/-- What a tab still takes pays for what its answer hands out. -/
theorem SoundFor.remaining_taking_le {message : Message}
    (sound : workspace.SoundFor (message ::ₘ workspace.outstanding)) :
    (workspace.taking message).remaining ≤ workspace.remaining := by
  have pays : ∀ tab ∈ workspace.tabs, message.tab = tab.id → ∀ after request,
      tab.answer workspace.settings workspace.grid message = .becomes after request →
        after.outcomesLeft + request.toList.length ≤ tab.outcomesLeft := by
    intro tab member same after request answer
    rcases sound.exists_next member same answer with ⟨load, isNext⟩
    have fewer := Tab.outcomesLeft_lt workspace.settings workspace.grid isNext answer
    have atMost : request.toList.length ≤ 1 := by cases request <;> simp
    omega
  rcases taking_pays sound.toFramed pays with ⟨handed, paid, jobs, messages, both⟩
  simp only [remaining]
  omega

/-- The job or the message that is to arrive is there. -/
def IsDue (workspace : Workspace) : Arrival → Prop
  | .finish index => index < workspace.jobs.length
  | .deliver index => index < workspace.messages.length

/-- Arrivals come to an end, in every order. -/
theorem Sound.remaining_arriving_lt (sound : workspace.Sound) {arrival : Arrival}
    (isDue : workspace.IsDue arrival) : (workspace.arriving arrival).remaining < workspace.remaining := by
  cases arrival with
  | finish index =>
      have isJob := List.getElem?_eq_getElem isDue
      have fewer := List.length_eraseIdx_of_lt isDue
      have some : index < workspace.jobs.length := isDue
      simp only [Workspace.arriving, Workspace.finished, finish?, isJob, Option.map_some,
        Option.getD_some, remaining, List.length_append, List.length_singleton, fewer]
      omega
  | deliver index =>
      have found := List.getElem?_eq_getElem isDue
      have fewer := List.length_eraseIdx_of_lt isDue
      have some : index < workspace.messages.length := isDue
      rcases sound.delivered_eq found with ⟨search, status, _, made⟩
      have taken := (sound.without found).remaining_taking_le
      have without : (workspace.without index).remaining < workspace.remaining := by
        simp only [remaining, Workspace.without, fewer]
        omega
      simp only [Workspace.arriving, made]
      exact taken.trans_lt without

theorem Sound.exists_idle (sound : workspace.Sound) :
    ∃ arrivals, (workspace.arrived arrivals).IsIdle := by
  induction left : workspace.remaining using Nat.strong_induction_on generalizing workspace with
  | _ left induction =>
      have goesOn {arrival : Arrival} (isDue : workspace.IsDue arrival) :
          ∃ arrivals, (workspace.arrived arrivals).IsIdle := by
        have fewer := sound.remaining_arriving_lt isDue
        rcases induction _ (left ▸ fewer) (sound.arriving arrival) rfl with ⟨arrivals, isIdle⟩
        exact ⟨arrival :: arrivals, isIdle⟩
      cases jobs : workspace.jobs with
      | cons job jobs => exact @goesOn (.finish 0) (by simp [IsDue, jobs])
      | nil =>
          cases messages : workspace.messages with
          | cons message messages => exact @goesOn (.deliver 0) (by simp [IsDue, messages])
          | nil => exact ⟨[], jobs, messages⟩

/--
However the outstanding messages arrive, and those that they cause, everything
has arrived at some time. Then the same tabs are left, in the same state, and the
same one is active.
-/
theorem order_of_arrivals_irrelevant (settings : Settings) (files : FileTree)
    (scheduling : Scheduling) (events : List Event) :
    let workspace := (start settings files scheduling).after events
    (∃ arrivals, (workspace.arrived arrivals).IsIdle) ∧
      ∀ first second, (workspace.arrived first).IsIdle → (workspace.arrived second).IsIdle →
        (workspace.arrived first).tabs = (workspace.arrived second).tabs ∧
          (workspace.arrived first).active = (workspace.arrived second).active := by
  intro workspace
  have sound : workspace.Sound := (sound_start settings files scheduling).after events
  rcases sound.exists_loads with ⟨loads, foreseen⟩
  have heads : workspace.HeadsFor workspace.outstanding loads _ _ := ⟨foreseen, rfl, rfl⟩
  refine ⟨sound.exists_idle, ?_⟩
  intro first second firstIdle secondIdle
  rcases (heads.arrived sound first).eq_of_idle (sound.arrived first) firstIdle with
    ⟨firstTabs, firstActive⟩
  rcases (heads.arrived sound second).eq_of_idle (sound.arrived second) secondIdle with
    ⟨secondTabs, secondActive⟩
  exact ⟨firstTabs.trans secondTabs.symm, firstActive.trans secondActive.symm⟩

end Workspace

end TableBrowser
