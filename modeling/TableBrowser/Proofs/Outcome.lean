import Mathlib.Data.List.Forall2
import TableBrowser.Failure
/-!
# Computations that may fail

When a computation over a list succeeds, so did each of its parts, and a bind
succeeds when both of its parts do. The errors of a computation are those of its
parts, so that a bound on them is found step by step.
-/

namespace TableBrowser

theorem bind_eq_ok {ε α β : Type} {first : Except ε α} {next : α → Except ε β} {result : β} :
    first >>= next = .ok result ↔ ∃ value, first = .ok value ∧ next value = .ok result := by
  cases first with
  | ok value =>
      constructor
      · intro succeeded
        exact ⟨value, rfl, succeeded⟩
      · rintro ⟨other, same, succeeded⟩
        cases same
        exact succeeded
  | error problem =>
      constructor
      · intro failed
        cases failed
      · rintro ⟨other, failed, _⟩
        cases failed

theorem bind_pure_eq_error {ε α β : Type} {first : Except ε α} {change : α → β} {problem : ε} :
    first >>= (fun value => pure (change value)) = .error problem ↔ first = .error problem := by
  cases first with
  | ok value => exact ⟨nofun, nofun⟩
  | error other => exact ⟨fun failed => by cases failed; rfl, fun failed => by cases failed; rfl⟩

theorem mapError_eq_ok {ε δ α : Type} {change : ε → δ} {result : Except ε α} {value : α} :
    result.mapError change = .ok value ↔ result = .ok value := by
  cases result with
  | ok other => exact ⟨fun made => by cases made; rfl, fun made => by cases made; rfl⟩
  | error problem => exact ⟨nofun, nofun⟩

theorem mapM_eq_ok {ε α β : Type} {f : α → Except ε β} {items : List α} {results : List β} :
    items.mapM f = .ok results ↔
      List.Forall₂ (fun item result => f item = .ok result) items results := by
  induction items generalizing results with
  | nil => cases results <;> simp [pure, Except.pure]
  | cons item items induction =>
      rw [List.mapM_cons, List.forall₂_cons_left_iff, bind_eq_ok]
      constructor
      · rintro ⟨first, firstResult, others⟩
        rcases bind_eq_ok.mp others with ⟨rest, restResult, made⟩
        cases made
        exact ⟨first, rest, firstResult, induction.mp restResult, rfl⟩
      · rintro ⟨first, rest, firstResult, restResult, rfl⟩
        exact ⟨first, firstResult, bind_eq_ok.mpr ⟨rest, induction.mpr restResult, rfl⟩⟩

theorem exists_of_forall₂ {α β : Type} {related : α → β → Prop} {items : List α} {others : List β}
    (each : List.Forall₂ related items others) {item : α} (member : item ∈ items) :
    ∃ other ∈ others, related item other := by
  induction each with
  | nil => cases member
  | cons first _ induction =>
      rcases List.mem_cons.mp member with rfl | later
      · exact ⟨_, List.mem_cons_self, first⟩
      · rcases induction later with ⟨other, isOther, isRelated⟩
        exact ⟨other, List.mem_cons_of_mem _ isOther, isRelated⟩

/-- A computation that succeeds on the whole of a list succeeds on each item. -/
theorem ok_of_mapM {ε α β : Type} {f : α → Except ε β} {items : List α} {results : List β}
    (succeeded : items.mapM f = .ok results) {item : α} (member : item ∈ items) :
    ∃ result, f item = .ok result := by
  rcases exists_of_forall₂ (mapM_eq_ok.mp succeeded) member with ⟨result, _, isResult⟩
  exact ⟨result, isResult⟩

theorem mapM_succeeds {ε α β : Type} {f : α → Except ε β} {items : List α}
    (each : ∀ item ∈ items, ∃ result, f item = .ok result) : ∃ results, items.mapM f = .ok results := by
  induction items with
  | nil => exact ⟨[], rfl⟩
  | cons item items induction =>
      rcases each item List.mem_cons_self with ⟨first, isFirst⟩
      rcases induction fun other member => each other (List.mem_cons_of_mem item member) with
        ⟨others, areOthers⟩
      exact ⟨first :: others, mapM_eq_ok.mpr (.cons isFirst (mapM_eq_ok.mp areOthers))⟩

theorem mapM_eq_some {α β : Type} {f : α → Option β} {items : List α} {results : List β} :
    items.mapM f = some results ↔
      List.Forall₂ (fun item result => f item = some result) items results := by
  induction items generalizing results with
  | nil => cases results <;> simp
  | cons item items induction =>
      rw [List.mapM_cons, List.forall₂_cons_left_iff, Option.bind_eq_bind, Option.bind_eq_some_iff]
      constructor
      · rintro ⟨first, isFirst, others⟩
        rcases Option.bind_eq_some_iff.mp others with ⟨rest, isRest, made⟩
        cases made
        exact ⟨first, rest, isFirst, induction.mp isRest, rfl⟩
      · rintro ⟨first, rest, isFirst, areRest, rfl⟩
        exact ⟨first, isFirst, Option.bind_eq_some_iff.mpr ⟨rest, induction.mpr areRest, rfl⟩⟩

theorem some_of_mapM {α β : Type} {f : α → Option β} {items : List α} {results : List β}
    (succeeded : items.mapM f = some results) {item : α} (member : item ∈ items) :
    ∃ result, f item = some result := by
  rcases exists_of_forall₂ (mapM_eq_some.mp succeeded) member with ⟨result, _, isResult⟩
  exact ⟨result, isResult⟩

/-! ## Values -/

/-- What holds of every value that a computation returns. -/
def Yields {ε α : Type} (holds : α → Prop) (result : Except ε α) : Prop :=
  ∀ value, result = .ok value → holds value

section Yields

variable {ε α β : Type} {holds : β → Prop}

theorem Yields.pure {value : β} (isValue : holds value) : Yields holds (.ok value : Except ε β) := by
  rintro other ⟨⟩
  exact isValue

theorem Yields.error (error : ε) : Yields holds (.error error : Except ε β) := nofun

theorem Yields.bind {first : Except ε α} {next : α → Except ε β}
    (later : ∀ value, first = .ok value → Yields holds (next value)) :
    Yields holds (first >>= next) := by
  cases first with
  | ok value => exact later value rfl
  | error error => exact Yields.error error

end Yields

/-! ## Errors -/

/-- Every error that a computation ends with is an expected one. -/
def Raises {ε α : Type} (expected : ε → Prop) (result : Except ε α) : Prop :=
  ∀ error, result = .error error → expected error

section Raises

variable {ε α β : Type} {expected : ε → Prop}

theorem Raises.pure (value : α) : Raises expected (.ok value) := fun _ failed => by cases failed

theorem Raises.error {error : ε} (holds : expected error) :
    Raises expected (.error error : Except ε α) := by
  intro other same
  cases same
  exact holds

theorem Raises.mono {weaker : ε → Prop} {result : Except ε α} (raises : Raises expected result)
    (weakens : ∀ error, expected error → weaker error) : Raises weaker result :=
  fun error failed => weakens error (raises error failed)

/-- The second computation need only be looked at for values that the first one gives. -/
theorem Raises.bind_ok {first : Except ε α} {next : α → Except ε β} (raises : Raises expected first)
    (others : ∀ value, first = .ok value → Raises expected (next value)) :
    Raises expected (first >>= next) := by
  cases first with
  | error error => exact Raises.error (raises error rfl)
  | ok value => exact others value rfl

theorem Raises.bind {first : Except ε α} {next : α → Except ε β} (raises : Raises expected first)
    (others : ∀ value, Raises expected (next value)) : Raises expected (first >>= next) :=
  raises.bind_ok fun value _ => others value

theorem Raises.mapM {act : α → Except ε β} {items : List α}
    (each : ∀ item ∈ items, Raises expected (act item)) : Raises expected (items.mapM act) := by
  induction items with
  | nil => exact Raises.pure []
  | cons item items induction =>
      rw [List.mapM_cons]
      refine Raises.bind (each item List.mem_cons_self) fun _ => ?_
      refine Raises.bind (induction fun other member => ?_) fun _ => Raises.pure _
      exact each other (List.mem_cons_of_mem item member)

theorem Raises.foldlM {act : β → α → Except ε β}
    (each : ∀ state item, Raises expected (act state item)) (items : List α) (state : β) :
    Raises expected (items.foldlM act state) := by
  induction items generalizing state with
  | nil => exact Raises.pure state
  | cons item items induction =>
      rw [List.foldlM_cons]
      exact Raises.bind (each state item) induction

theorem Raises.filterM {test : α → Except ε Bool} {items : List α}
    (each : ∀ item ∈ items, Raises expected (test item)) : Raises expected (items.filterM test) := by
  have passed (kept : List α) : Raises expected (items.filterAuxM test kept) := by
    induction items generalizing kept with
    | nil => exact Raises.pure kept
    | cons item items induction =>
        refine Raises.bind (each item List.mem_cons_self) fun holds => ?_
        exact induction (fun other member => each other (List.mem_cons_of_mem item member)) _
  exact Raises.bind (passed []) fun _ => Raises.pure _

end Raises

/-- A fault comes only where one is expected. -/
def Problem.Expected (faulty : Prop) : Problem → Prop
  | .failure _ _ => True
  | .fault _ => faulty

/-- Work that a fault stops only under some condition. -/
abbrev Outcome.FaultsOnly {α : Type} (faulty : Prop) (outcome : Outcome α) : Prop :=
  Raises (Problem.Expected faulty) outcome

/-- Work that a fault never stops. -/
abbrev Outcome.Faultless {α : Type} (outcome : Outcome α) : Prop := outcome.FaultsOnly False

section Faults

variable {α : Type} {outcome : Outcome α} {faulty weaker : Prop}

theorem Outcome.faultsOnly_fail (failure : Failure) :
    (Outcome.fail failure : Outcome α).FaultsOnly faulty := Raises.error trivial

theorem Outcome.faultsOnly_fault {fault : Fault} (expected : faulty) :
    (Outcome.fault fault : Outcome α).FaultsOnly faulty := Raises.error expected

theorem Outcome.FaultsOnly.weaken (faults : outcome.FaultsOnly faulty)
    (weakened : faulty → weaker) : outcome.FaultsOnly weaker :=
  faults.mono fun problem expected => by
    cases problem with
    | failure cause stepIndex => trivial
    | fault fault => exact weakened expected

theorem Outcome.FaultsOnly.of_fault (faults : outcome.FaultsOnly faulty) {fault : Fault}
    (failed : outcome = .error (.fault fault)) : faulty := faults _ failed

theorem Outcome.Faultless.faultsOnly (faultless : outcome.Faultless) : outcome.FaultsOnly faulty :=
  Outcome.FaultsOnly.weaken faultless False.elim

theorem Outcome.Faultless.ne_fault (faultless : outcome.Faultless) (fault : Fault) :
    outcome ≠ .error (.fault fault) := fun failed => faultless _ failed

/-- The fault of a check is expected where the check may fail. -/
theorem Outcome.faultsOnly_mapError {result : Except Fault α}
    (known : ∀ fault, result = .error fault → faulty) :
    Outcome.FaultsOnly faulty (result.mapError Problem.fault) := by
  cases result with
  | ok value => exact Raises.pure value
  | error fault => exact Raises.error (known fault rfl)

end Faults

end TableBrowser
