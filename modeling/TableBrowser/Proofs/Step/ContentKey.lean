import TableBrowser.Pipeline.Basic
import TableBrowser.Proofs.Json.Entries
/-!
# Content keys

The content key of a step stands for all that an operation takes from it. A step
has a key unless the keys of some mapping inside of it do not compare or have no
name. Main statement: valid steps with the same key are the same operation.
-/

namespace TableBrowser

namespace Step

/-! ## Parameters under a content key -/

theorem document_eq (step : Step) :
    step.document =
      .mapping [(.text "op", .text step.operation), (.text "params", .mapping step.params)] := rfl

theorem contentKey_eq_ok_iff {step : Step} {key : String} :
    step.contentKey = .ok key ↔
      Json.orderedFault? step.document = none ∧ Json.form .byName step.document = key := by
  unfold contentKey
  cases Json.orderedFault? step.document with
  | none => simp
  | some fault => simp

theorem params_writable {step : Step} {key : String} (keyed : step.contentKey = .ok key) :
    Json.orderedFault? (.mapping step.params) = none := by
  have writable := (contentKey_eq_ok_iff.mp keyed).1
  rw [document_eq] at writable
  have member : (Datum.text "params", Datum.mapping step.params) ∈
      [(Datum.text "op", Datum.text step.operation), (.text "params", .mapping step.params)] := by
    simp
  exact Json.orderedFault?_value writable member

/-- A parameter that mixes text with other keys keeps its step from having a content key. -/
theorem contentKey_of_mixed {step : Step} {name : Datum} {entries : List (Datum × Datum)}
    (given : (name, .mapping entries) ∈ step.params) {named unnamed : Datum × Datum}
    (namedMember : named ∈ entries) (isText : named.1.isText = true)
    (unnamedMember : unnamed ∈ entries) (notText : unnamed.1.isText = false) (key : String) :
    step.contentKey ≠ .ok key := by
  intro keyed
  have writable : Json.orderedFault? (.mapping entries) = none :=
    Json.orderedFault?_value (params_writable keyed) given
  have allText := Json.isText_of_orderedFault?_eq_none writable namedMember isText
  rw [allText unnamed unnamedMember] at notText
  cases notText

/-- The operation and the text of the parameters can be read off the content key. -/
theorem parts_of_contentKey {left right : Step} {key : String}
    (leftKeyed : left.contentKey = .ok key) (rightKeyed : right.contentKey = .ok key) :
    left.operation = right.operation ∧
      Json.form .byName (.mapping left.params) = Json.form .byName (.mapping right.params) := by
  have forms : Json.form .byName left.document = Json.form .byName right.document :=
    (contentKey_eq_ok_iff.mp leftKeyed).2.trans (contentKey_eq_ok_iff.mp rightKeyed).2.symm
  rw [document_eq, document_eq] at forms
  have operations := Json.filter_entryForms_of_form_eq forms "op"
  have params := Json.filter_entryForms_of_form_eq forms "params"
  simp [Json.entryForms, Json.nameForm] at operations params
  exact ⟨Json.textForm_injective operations, params⟩

/-- A step with a text among the keys of its parameters has no other keys. -/
theorem paramsNamed {step : Step} {key : String} (keyed : step.contentKey = .ok key) {name : String}
    (given : (step.param? name).isSome) : ∀ entry ∈ step.params, entry.1.isText = true := by
  rw [param?, Datum.valueAt?, Option.isSome_map, List.find?_isSome] at given
  rcases given with ⟨entry, member, isNamed⟩
  apply Json.isText_of_orderedFault?_eq_none (params_writable keyed) member
  rw [of_decide_eq_true isNamed]
  rfl

/-- Steps with the same content key have the same text of each parameter, once both have some. -/
theorem form_param? {left right : Step} {key : String}
    (leftKeyed : left.contentKey = .ok key) (rightKeyed : right.contentKey = .ok key)
    {leftName rightName : String} (leftGiven : (left.param? leftName).isSome)
    (rightGiven : (right.param? rightName).isSome) (name : String) :
    (left.param? name).map (Json.form .byName) = (right.param? name).map (Json.form .byName) := by
  have forms := (parts_of_contentKey leftKeyed rightKeyed).2
  rw [param?, param?, Json.form_valueAt? (paramsNamed leftKeyed leftGiven),
    Json.form_valueAt? (paramsNamed rightKeyed rightGiven),
    Json.filter_entryForms_of_form_eq forms name]

end Step

/-! ## Valid steps -/

namespace Operation

/-- The parameter that an operation cannot do without. -/
def mainParam (operation : String) : String :=
  if operation = "filter" then "where"
  else if operation = "select" then "columns"
  else if operation = "order" then "keys"
  else "statement"

theorem textual_of_columnNames? {datum : Datum} {names : List String}
    (named : columnNames? datum = some names) : Json.Textual datum := by
  unfold columnNames? at named
  split at named
  · simp at named
  · next items _ =>
    apply Json.Textual.list
    intro item member
    rcases some_of_mapM named member with ⟨name, isName⟩
    cases item with
    | text value => exact .text value
    | _ => simp at isName
  · simp at named

theorem textual_of_sortKey {datum : Datum} {key : SortKey} (valid : sortKey datum = .ok key) :
    Json.Textual datum := by
  unfold sortKey at valid
  split at valid
  · next column word =>
    apply Json.Textual.list
    intro item member
    simp only [List.mem_cons, List.not_mem_nil, or_false] at member
    rcases member with rfl | rfl
    · exact .text column
    · exact .text word
  · rcases bind_eq_ok.mp valid with ⟨_, _, failed⟩
    cases failed

section

variable {step : Step} {operation : Operation}

theorem textual_of_ofFilter (valid : ofFilter step = .ok operation) :
    Json.Textual (step.param "where") := by
  unfold ofFilter at valid
  split at valid
  · next source given => exact given ▸ .text source
  · simp [stepFails, Outcome.fail] at valid

theorem textual_of_ofSelect (valid : ofSelect step = .ok operation) :
    Json.Textual (step.param "columns") := by
  unfold ofSelect at valid
  split at valid
  · simp [stepFails, Outcome.fail] at valid
  · next names named => exact textual_of_columnNames? named

theorem textual_of_ofOrder (valid : ofOrder step = .ok operation) :
    Json.Textual (step.param "keys") := by
  unfold ofOrder at valid
  split at valid
  · next first rest given =>
    rw [given]
    rcases bind_eq_ok.mp valid with ⟨keys, keysRead, _⟩
    apply Json.Textual.list
    intro item member
    rcases ok_of_mapM keysRead member with ⟨key, isKey⟩
    exact textual_of_sortKey isKey
  · simp [stepFails, Outcome.fail] at valid

theorem textual_of_ofSql (valid : ofSql step = .ok operation) :
    Json.Textual (step.param "statement") := by
  unfold ofSql at valid
  split at valid
  · next statement given => exact given ▸ .text statement
  · simp [stepFails, Outcome.fail] at valid

theorem textual_mainParam (valid : ofStep step = .ok operation) :
    Json.Textual (step.param (mainParam step.operation)) := by
  unfold ofStep at valid
  unfold mainParam
  by_cases isFilter : step.operation = "filter"
  · rw [if_pos isFilter] at valid ⊢
    exact textual_of_ofFilter valid
  rw [if_neg isFilter] at valid ⊢
  by_cases isSelect : step.operation = "select"
  · rw [if_pos isSelect] at valid ⊢
    exact textual_of_ofSelect valid
  rw [if_neg isSelect] at valid ⊢
  by_cases isOrder : step.operation = "order"
  · rw [if_pos isOrder] at valid ⊢
    exact textual_of_ofOrder valid
  rw [if_neg isOrder] at valid ⊢
  split at valid
  · exact textual_of_ofSql valid
  · simp [stepFails, Outcome.fail] at valid

theorem strict_of_ofFilter (valid : ofFilter step = .ok operation) :
    ∃ strict, (step.param? "strict").getD (.boolean true) = .boolean strict := by
  unfold ofFilter at valid
  split at valid
  · split at valid
    · simp [stepFails, Outcome.fail] at valid
    split at valid
    · next strict given => exact ⟨strict, given⟩
    · simp [stepFails, Outcome.fail] at valid
  · simp [stepFails, Outcome.fail] at valid

end

/-- Nothing but the main parameter, and the strictness of a filter, makes the operation. -/
theorem ofStep_congr {left right : Step} (operations : left.operation = right.operation)
    (main : left.param (mainParam left.operation) = right.param (mainParam right.operation))
    (strict : left.operation = "filter" → (left.param? "strict").getD (.boolean true) =
      (right.param? "strict").getD (.boolean true)) :
    ofStep left = ofStep right := by
  rw [← operations] at main
  unfold mainParam at main
  unfold ofStep
  rw [← operations]
  by_cases isFilter : left.operation = "filter"
  · rw [if_pos isFilter] at main
    rw [if_pos isFilter, if_pos isFilter, ofFilter, ofFilter, main, strict isFilter]
  rw [if_neg isFilter] at main
  rw [if_neg isFilter, if_neg isFilter]
  by_cases isSelect : left.operation = "select"
  · rw [if_pos isSelect] at main
    rw [if_pos isSelect, if_pos isSelect, ofSelect, ofSelect, main]
  rw [if_neg isSelect] at main
  rw [if_neg isSelect, if_neg isSelect]
  by_cases isOrder : left.operation = "order"
  · rw [if_pos isOrder] at main
    rw [if_pos isOrder, if_pos isOrder, ofOrder, ofOrder, main]
  · rw [if_neg isOrder] at main
    rw [if_neg isOrder, if_neg isOrder, ofSql, ofSql, main]

end Operation

namespace Step

/-- The parameters of the step are valid on their own. -/
def Valid (step : Step) : Prop := ∃ operation, Operation.ofStep step = .ok operation

theorem mainParam_given {step : Step} (valid : step.Valid) :
    (step.param? (Operation.mainParam step.operation)).isSome := by
  rcases valid with ⟨operation, isOperation⟩
  have textual := Operation.textual_mainParam isOperation
  rw [param] at textual
  cases given : step.param? (Operation.mainParam step.operation) with
  | some value => rfl
  | none =>
      rw [given] at textual
      cases textual

/-- Valid steps with the same content key are the same operation. -/
theorem ofStep_eq_of_contentKey {left right : Step} {key : String}
    (leftKeyed : left.contentKey = .ok key) (rightKeyed : right.contentKey = .ok key)
    (leftValid : left.Valid) (rightValid : right.Valid) :
    Operation.ofStep left = Operation.ofStep right := by
  have operations := (parts_of_contentKey leftKeyed rightKeyed).1
  have params := form_param? leftKeyed rightKeyed (mainParam_given leftValid)
    (mainParam_given rightValid)
  have sameForm (name : String) (fallback : Datum) :
      Json.form .byName ((left.param? name).getD fallback) =
        Json.form .byName ((right.param? name).getD fallback) := by
    have mapped := congrArg (·.getD (Json.form .byName fallback)) (params name)
    simpa only [Option.getD_map] using mapped
  rcases leftValid with ⟨leftOperation, isLeft⟩
  rcases rightValid with ⟨rightOperation, isRight⟩
  apply Operation.ofStep_congr operations
  · have leftTextual := Operation.textual_mainParam isLeft
    have rightTextual := Operation.textual_mainParam isRight
    rw [← operations] at rightTextual ⊢
    exact leftTextual.form_injective rightTextual (sameForm _ .null)
  · intro isFilter
    simp only [Operation.ofStep, isFilter, ← operations, if_true] at isLeft isRight
    rcases Operation.strict_of_ofFilter isLeft with ⟨leftStrict, leftGiven⟩
    rcases Operation.strict_of_ofFilter isRight with ⟨rightStrict, rightGiven⟩
    have forms := sameForm "strict" (.boolean true)
    rw [leftGiven, rightGiven] at forms ⊢
    cases leftStrict <;> cases rightStrict <;> first | rfl | simp [Json.form] at forms

/-! ## Equality of steps -/

/-- Both steps have a content key, which is the same one. -/
def Alike (left right : Step) : Prop :=
  ∃ key, left.contentKey = .ok key ∧ right.contentKey = .ok key

theorem sameAs_eq_true_iff {left right : Step} :
    left.sameAs right = .ok true ↔ left.Alike right := by
  unfold sameAs Alike
  cases left.contentKey with
  | error fault => simp [bind, Except.bind]
  | ok leftKey =>
      cases right.contentKey with
      | error fault => simp [bind, Except.bind]
      | ok rightKey =>
          constructor
          · intro same
            have equal : leftKey = rightKey := by
              simpa [bind, Except.bind, pure, Except.pure] using same
            exact ⟨leftKey, rfl, congrArg Except.ok equal.symm⟩
          · rintro ⟨key, isLeft, isRight⟩
            cases isLeft
            cases isRight
            simp [bind, Except.bind, pure, Except.pure]

theorem sameAll_eq_true_iff {left right : List Step} :
    sameAll left right = .ok true ↔ List.Forall₂ Alike left right := by
  induction left generalizing right with
  | nil => cases right <;> simp [sameAll]
  | cons first left induction =>
      cases right with
      | nil => simp [sameAll]
      | cons second right =>
          rw [sameAll, List.forall₂_cons, ← sameAs_eq_true_iff, ← induction]
          cases first.sameAs second with
          | error fault => simp [bind, Except.bind]
          | ok same => cases same <;> simp [bind, Except.bind, pure, Except.pure]

end Step

end TableBrowser
