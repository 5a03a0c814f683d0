import TableBrowser.Proofs.Outcome
import TableBrowser.Workspace.Delivery
/-!
# Acts

An act returns a value or stops at a problem, and leaves a workspace behind in
both cases. How it ends is found from its steps, the last one first. An act
keeps an invariant when each of its steps does, also when one of them fails and
when a failure is handled.
-/

namespace TableBrowser

namespace Act

variable {α β : Type}

/-! ## Running acts -/

theorem run_bind {σ : Type} (act : ExceptT Problem (StateM σ) α)
    (next : α → ExceptT Problem (StateM σ) β) (state : σ) :
    (act >>= next) state = match act state with
      | (.ok value, after) => next value after
      | (.error problem, after) => (.error problem, after) := by
  change ExceptT.bind act next state = _
  simp only [ExceptT.bind, ExceptT.mk, ExceptT.bindCont, bind, StateT.bind]
  rcases act state with ⟨outcome, after⟩
  cases outcome <;> rfl

theorem run_tryCatch {σ : Type} (act : ExceptT Problem (StateM σ) α)
    (handle : Problem → ExceptT Problem (StateM σ) α) (state : σ) :
    (tryCatch act handle : ExceptT Problem (StateM σ) α) state = match act state with
      | (.ok value, after) => (.ok value, after)
      | (.error problem, after) => handle problem after := by
  change ExceptT.tryCatch act handle state = _
  simp only [ExceptT.tryCatch, ExceptT.mk, bind, StateT.bind]
  rcases act state with ⟨outcome, after⟩
  cases outcome <;> rfl

@[simp] theorem run_pure (value : α) (workspace : Workspace) :
    (pure value : Act α) workspace = (.ok value, workspace) := rfl

@[simp] theorem run_get (workspace : Workspace) :
    (get : Act Workspace) workspace = (.ok workspace, workspace) := rfl

@[simp] theorem run_modify (change : Workspace → Workspace) (workspace : Workspace) :
    (modify change : Act Unit) workspace = (.ok (), change workspace) := rfl

@[simp] theorem run_ofOutcome (outcome : Outcome α) (workspace : Workspace) :
    ofOutcome outcome workspace = (outcome, workspace) := by
  cases outcome <;> rfl

@[simp] theorem run_ofFaulty (result : Except Fault α) (workspace : Workspace) :
    ofFaulty result workspace = (result.mapError .fault, workspace) := by
  cases result <;> rfl

theorem run_discard (act : Act α) (workspace : Workspace) :
    (discard act : Act Unit) workspace = match act workspace with
      | (.ok _, after) => (.ok (), after)
      | (.error problem, after) => (.error problem, after) := by
  change ExceptT.map _ act workspace = _
  simp only [ExceptT.map, ExceptT.mk, bind, StateT.bind]
  rcases act workspace with ⟨outcome, after⟩
  cases outcome <;> rfl

/-! ## How acts end -/

/-- What holds of the value that an act returns, and of the problem that stops it, with what is left. -/
def Ends (act : Act α) (workspace : Workspace) (returns : α → Workspace → Prop)
    (stops : Problem → Workspace → Prop) : Prop :=
  match act workspace with
  | (.ok value, after) => returns value after
  | (.error problem, after) => stops problem after

section Ends

variable {workspace : Workspace} {returns : α → Workspace → Prop} {answers : β → Workspace → Prop}
variable {stops : Problem → Workspace → Prop}

theorem Ends.of_ok {act : Act α} {value : α} {after : Workspace}
    (ran : act workspace = (.ok value, after)) (holds : returns value after) :
    act.Ends workspace returns stops := by
  rwa [Ends, ran]

theorem Ends.of_error {act : Act α} {problem : Problem} {after : Workspace}
    (ran : act workspace = (.error problem, after)) (holds : stops problem after) :
    act.Ends workspace returns stops := by
  rwa [Ends, ran]

/-- Acts that run alike end alike. -/
theorem Ends.of_run {act other : Act α} {before : Workspace} (same : act workspace = other before)
    (ends : other.Ends before returns stops) : act.Ends workspace returns stops := by
  rw [Ends, same]
  exact ends

theorem Ends.pure {value : α} (holds : returns value workspace) :
    (pure value : Act α).Ends workspace returns stops := holds

theorem Ends.modify {change : Workspace → Workspace} {returns : PUnit → Workspace → Prop}
    (holds : returns PUnit.unit (change workspace)) :
    (modify change : Act Unit).Ends workspace returns stops := holds

theorem Ends.mono {act : Act α} {others : α → Workspace → Prop}
    {otherwise : Problem → Workspace → Prop} (ends : act.Ends workspace returns stops)
    (returned : ∀ value after, returns value after → others value after)
    (stopped : ∀ problem after, stops problem after → otherwise problem after) :
    act.Ends workspace others otherwise := by
  unfold Ends at ends ⊢
  rcases ran : act workspace with ⟨problem | value, after⟩
  · rw [ran] at ends
    exact stopped problem after ends
  · rw [ran] at ends
    exact returned value after ends

theorem Ends.and {act : Act α} {others : α → Workspace → Prop}
    {otherwise : Problem → Workspace → Prop} (first : act.Ends workspace returns stops)
    (second : act.Ends workspace others otherwise) :
    act.Ends workspace (fun value after => returns value after ∧ others value after)
      fun problem after => stops problem after ∧ otherwise problem after := by
  unfold Ends at first second ⊢
  rcases ran : act workspace with ⟨problem | value, after⟩
  · rw [ran] at first second
    exact ⟨first, second⟩
  · rw [ran] at first second
    exact ⟨first, second⟩

/-- What is said of a value may be weakened. -/
theorem Ends.returning {act : Act α} {others : α → Workspace → Prop}
    (ends : act.Ends workspace returns stops)
    (returned : ∀ value after, returns value after → others value after) :
    act.Ends workspace others stops :=
  ends.mono returned fun _ _ holds => holds

theorem Ends.bind {act : Act α} {next : α → Act β}
    (ends : act.Ends workspace (fun value after => (next value).Ends after answers stops) stops) :
    (act >>= next).Ends workspace answers stops := by
  unfold Ends at ends ⊢
  rw [run_bind]
  rcases ran : act workspace with ⟨problem | value, after⟩
  · rw [ran] at ends
    exact ends
  · rw [ran] at ends
    exact ends

theorem Ends.bind_pure {value : α} {next : α → Act β}
    (ends : (next value).Ends workspace answers stops) :
    ((Pure.pure value : Act α) >>= next).Ends workspace answers stops := ends

theorem Ends.bind_get {next : Workspace → Act β}
    (ends : (next workspace).Ends workspace answers stops) :
    ((MonadState.get : Act Workspace) >>= next).Ends workspace answers stops :=
  Ends.bind ends

theorem Ends.tryCatch {act : Act α} {handle : Problem → Act α}
    (ends : act.Ends workspace returns fun problem after =>
      (handle problem).Ends after returns stops) :
    (tryCatch act handle : Act α).Ends workspace returns stops := by
  unfold Ends at ends ⊢
  rw [run_tryCatch]
  rcases ran : act workspace with ⟨problem | value, after⟩
  · rw [ran] at ends
    exact ends
  · rw [ran] at ends
    exact ends

/-- The first act only reads, and so it leaves the second one what there was. -/
theorem Ends.reading {act : Act α} {next : α → Act β} {read : α → Prop}
    (first : act.Ends workspace (fun value after => after = workspace ∧ read value) stops)
    (second : ∀ value, read value → (next value).Ends workspace answers stops) :
    (act >>= next).Ends workspace answers stops := by
  refine Ends.bind (first.returning fun value after => ?_)
  rintro ⟨rfl, isRead⟩
  exact second value isRead

theorem Ends.ite {condition : Prop} [Decidable condition] {first second : Act α}
    (ifTrue : condition → first.Ends workspace returns stops)
    (ifFalse : ¬ condition → second.Ends workspace returns stops) :
    (if condition then first else second : Act α).Ends workspace returns stops := by
  split
  · next holds => exact ifTrue holds
  · next fails => exact ifFalse fails

/-- A check that fails stops the act; otherwise it goes on. -/
theorem Ends.check {condition : Prop} [Decidable condition] {refusal : Act PUnit}
    {next : PUnit → Act β} (refused : refusal.Ends workspace (fun _ _ => False) stops)
    (passed : ¬ condition → (next PUnit.unit).Ends workspace answers stops) :
    (if condition then refusal >>= next else next PUnit.unit).Ends workspace answers stops :=
  Ends.ite (fun _ => Ends.bind (refused.returning fun _ _ never => never.elim)) passed

theorem Ends.discard {act : Act α} {answers : PUnit → Workspace → Prop}
    (ends : act.Ends workspace (fun _ after => answers PUnit.unit after) stops) :
    (discard act : Act Unit).Ends workspace answers stops := by
  unfold Ends at ends ⊢
  rw [run_discard]
  rcases ran : act workspace with ⟨problem | value, after⟩
  · rw [ran] at ends
    exact ends
  · rw [ran] at ends
    exact ends

/-- What holds of what is left holds in both cases. -/
theorem ends_iff_left {act : Act α} {holds : Workspace → Prop} :
    act.Ends workspace (fun _ => holds) (fun _ => holds) ↔ holds (act workspace).2 := by
  unfold Ends
  rcases act workspace with ⟨problem | value, after⟩
  · rfl
  · rfl

/-- The active tab is read, if there is one. -/
theorem ends_requireTab (failed : ∀ failure, stops (.failure failure none) workspace) :
    requireTab.Ends workspace (fun tab after => after = workspace ∧ workspace.activeTab? = some tab)
      stops := by
  refine Ends.bind_get ?_
  cases isActive : workspace.activeTab? with
  | none => exact Ends.of_error rfl (failed _)
  | some tab => exact Ends.pure ⟨rfl, rfl⟩

/-- The active tab is read when its table is there. -/
theorem ends_requireLoaded {wanted : WantedFor}
    (failed : ∀ failure, stops (.failure failure none) workspace) :
    (requireLoaded wanted).Ends workspace
      (fun tab after => after = workspace ∧ workspace.activeTab? = some tab ∧ tab.isLoading = false)
      stops := by
  refine Ends.reading (ends_requireTab failed) fun tab isActive => ?_
  refine Ends.check (Ends.of_error rfl (failed _)) fun isLoaded => ?_
  exact Ends.pure ⟨rfl, isActive, Bool.not_eq_true _ ▸ isLoaded⟩

end Ends

-- From here on acts are taken apart by the rules alone.
attribute [irreducible] Ends

end Act

/-! ## Invariants -/

/-- What is to hold of a workspace all the time; a fragile invariant may be lost at a fault. -/
structure Invariant where
  holds : Workspace → Prop
  fragile : Prop

namespace Act

/-- The invariant holds of what is left, or it was lost at a fault. -/
def Leaves (invariant : Invariant) (act : Act α) (workspace : Workspace) : Prop :=
  act.Ends workspace (fun _ after => invariant.holds after) fun problem after =>
    invariant.holds after ∨ invariant.fragile ∧ ∃ fault, problem = .fault fault

/-- What holds of a workspace holds of what the act leaves behind, also when it fails. -/
def Keeps (invariant : Invariant) (act : Act α) : Prop :=
  ∀ workspace, invariant.holds workspace → act.Leaves invariant workspace

section Keeps

variable {invariant : Invariant} {workspace : Workspace}

theorem Leaves.always {act : Act α} (holds : invariant.holds (act workspace).2) :
    act.Leaves invariant workspace :=
  (ends_iff_left.mpr holds).mono (fun _ _ left => left) fun _ _ left => .inl left

/-- What is not fragile holds however the act ends. -/
theorem Leaves.holds {act : Act α} (leaves : act.Leaves invariant workspace)
    (lasting : ¬ invariant.fragile) : invariant.holds (act workspace).2 :=
  ends_iff_left.mp <| Ends.mono leaves (fun _ _ left => left)
    fun _ _ left => left.resolve_right fun lost => lasting lost.1

/-- Where no fault stops the act, the invariant is not lost. -/
theorem Leaves.unfaulted {act : Act α} (leaves : act.Leaves invariant workspace)
    (faultless : ∀ fault, (act workspace).1 ≠ .error (.fault fault)) :
    invariant.holds (act workspace).2 := by
  rw [Leaves, Ends] at leaves
  rcases ran : act workspace with ⟨problem | value, after⟩
  · rw [ran] at leaves faultless
    rcases leaves with kept | ⟨_, fault, rfl⟩
    · exact kept
    · exact absurd rfl (faultless fault)
  · rw [ran] at leaves
    exact leaves

theorem Leaves.bind {act : Act α} {next : α → Act β} (first : act.Leaves invariant workspace)
    (second : ∀ value, Keeps invariant (next value)) : (act >>= next).Leaves invariant workspace :=
  Ends.bind (first.returning fun value after left => second value after left)

theorem Keeps.always {act : Act α}
    (kept : ∀ workspace, invariant.holds workspace → invariant.holds (act workspace).2) :
    Keeps invariant act := fun workspace holds => Leaves.always (kept workspace holds)

theorem Keeps.pure (value : α) : Keeps invariant (pure value : Act α) :=
  fun _ holds => Ends.pure holds

theorem Keeps.throw (problem : Problem) : Keeps invariant (throw problem : Act α) :=
  Keeps.always fun _ holds => holds

theorem Keeps.fail (failure : Failure) : Keeps invariant (fail failure : Act α) :=
  Keeps.throw _

theorem Keeps.get : Keeps invariant (get : Act Workspace) := Keeps.always fun _ holds => holds

theorem Keeps.modify {change : Workspace → Workspace}
    (kept : ∀ workspace, invariant.holds workspace → invariant.holds (change workspace)) :
    Keeps invariant (modify change : Act Unit) := Keeps.always kept

theorem Keeps.ofOutcome (outcome : Outcome α) : Keeps invariant (ofOutcome outcome) := by
  refine Keeps.always fun workspace holds => ?_
  rwa [run_ofOutcome]

theorem Keeps.ofFaulty (result : Except Fault α) : Keeps invariant (ofFaulty result) := by
  refine Keeps.always fun workspace holds => ?_
  rwa [run_ofFaulty]

theorem Keeps.bind {act : Act α} {next : α → Act β} (first : Keeps invariant act)
    (second : ∀ value, Keeps invariant (next value)) : Keeps invariant (act >>= next) :=
  fun workspace holds => (first workspace holds).bind second

/-- The next step may rely on what the workspace is when it is read. -/
theorem Keeps.bind_get {next : Workspace → Act β}
    (kept : ∀ workspace, invariant.holds workspace →
      (next workspace).Leaves invariant workspace) :
    Keeps invariant ((MonadState.get : Act Workspace) >>= next) :=
  fun workspace holds => Ends.bind_get (kept workspace holds)

theorem Keeps.discard {act : Act α} (kept : Keeps invariant act) :
    Keeps invariant (discard act : Act Unit) :=
  fun workspace holds => Ends.discard (kept workspace holds)

/-- Only failures are handled. -/
theorem Leaves.tryCatch {act : Act α} {handle : Problem → Act α}
    (tried : act.Leaves invariant workspace)
    (handled : ∀ cause stepIndex, Keeps invariant (handle (.failure cause stepIndex)))
    (rethrown : ∀ fault, handle (.fault fault) = MonadExcept.throw (.fault fault)) :
    (tryCatch act handle : Act α).Leaves invariant workspace := by
  refine Ends.tryCatch (Ends.mono tried (fun _ _ left => left) ?_)
  rintro (⟨cause, stepIndex⟩ | fault) after left
  · rcases left with kept | ⟨_, _, isFault⟩
    · exact handled cause stepIndex after kept
    · cases isFault
  · rw [rethrown]
    exact Ends.of_error rfl left

theorem Keeps.ite {condition : Prop} [Decidable condition] {first second : Act α}
    (ifTrue : condition → Keeps invariant first) (ifFalse : ¬ condition → Keeps invariant second) :
    Keeps invariant (if condition then first else second) := by
  split
  · next holds => exact ifTrue holds
  · next fails => exact ifFalse fails

/-- A check that fails leaves everything as it was. -/
theorem Keeps.check {condition : Prop} [Decidable condition] {refusal : Act PUnit}
    {next : PUnit → Act β} (refused : Keeps invariant refusal)
    (kept : Keeps invariant (next PUnit.unit)) :
    Keeps invariant (if condition then refusal >>= next else next PUnit.unit) :=
  Keeps.ite (fun _ => Keeps.bind refused fun _ => kept) fun _ => kept

/-- The next step may rely on what the outcome is. -/
theorem Keeps.bind_ofOutcome {outcome : Outcome α} {next : α → Act β}
    (kept : ∀ value, outcome = .ok value → Keeps invariant (next value)) :
    Keeps invariant (Act.ofOutcome outcome >>= next) := by
  cases outcome with
  | ok value => exact fun workspace holds => Ends.bind_pure (kept value rfl workspace holds)
  | error problem => exact Keeps.throw problem

theorem Keeps.mapM {act : α → Act β} (items : List α)
    (each : ∀ item, Keeps invariant (act item)) : Keeps invariant (items.mapM act) := by
  induction items with
  | nil => exact Keeps.pure []
  | cons item items induction =>
      rw [List.mapM_cons]
      exact Keeps.bind (each item) fun _ => Keeps.bind induction fun _ => Keeps.pure _

theorem Keeps.requireTab : Keeps invariant requireTab := by
  refine Keeps.bind_get fun workspace holds => ?_
  cases workspace.activeTab? with
  | none => exact Keeps.fail _ workspace holds
  | some tab => exact Ends.pure holds

/-- The next step may rely on the active tab. -/
theorem Keeps.bind_requireTab {next : Tab → Act β}
    (kept : ∀ workspace tab, invariant.holds workspace → workspace.activeTab? = some tab →
      (next tab).Leaves invariant workspace) : Keeps invariant (Act.requireTab >>= next) :=
  fun workspace holds => Ends.reading (ends_requireTab fun _ => .inl holds)
    fun tab isActive => kept workspace tab holds isActive

/-- The next step may rely on the active tab and on its table being there. -/
theorem Keeps.bind_requireLoaded {wanted : WantedFor} {next : Tab → Act β}
    (kept : ∀ workspace tab, invariant.holds workspace → workspace.activeTab? = some tab →
      tab.isLoading = false → (next tab).Leaves invariant workspace) :
    Keeps invariant (requireLoaded wanted >>= next) :=
  fun workspace holds => Ends.reading (ends_requireLoaded fun _ => .inl holds)
    fun tab found => kept workspace tab holds found.1 found.2

end Keeps

end Act

end TableBrowser
