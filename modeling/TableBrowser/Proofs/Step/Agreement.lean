import TableBrowser.Proofs.Json.Arranged
import TableBrowser.Proofs.Step.Faults
import TableBrowser.Proofs.Step.Keyed
/-!
# Steps that are alike do alike

An operation takes the same from parameters whatever the order of the entries in
them. Only the report of what cannot be a sort key quotes it as it was given. So
steps with JSON parameters and the same content keys make the same view of every
table, or fail alike up to the order of entries in such a key.
-/

namespace TableBrowser

/-! ## Outcomes up to the order of entries -/

/-- The outcomes are the same, or both report a sort key and differ in the order of entries in it. -/
inductive Outcome.Agree {α : Type} : Outcome α → Outcome α → Prop
  | same (outcome : Outcome α) : Agree outcome outcome
  | invalidKey {left right : Datum} (index : Option Nat) (arranged : left.arranged = right.arranged) :
      Agree (.error (.failure (.step (.invalidKey left)) index))
        (.error (.failure (.step (.invalidKey right)) index))

namespace Outcome.Agree

variable {α β : Type} {left middle right : Outcome α}

theorem symm (agree : left.Agree right) : right.Agree left := by
  cases agree with
  | same => exact .same _
  | invalidKey index arranged => exact .invalidKey index arranged.symm

theorem trans (first : left.Agree middle) (second : middle.Agree right) : left.Agree right := by
  cases first with
  | same => exact second
  | invalidKey index arranged =>
      cases second with
      | same => exact .invalidKey index arranged
      | invalidKey _ others => exact .invalidKey index (arranged.trans others)

theorem bind (agree : left.Agree right) (next : α → Outcome β) :
    Outcome.Agree (left >>= next) (right >>= next) := by
  cases agree with
  | same => exact .same _
  | invalidKey index arranged => exact .invalidKey index arranged

theorem mapM {act : α → Outcome β} {change : α → α} (each : ∀ item, (act (change item)).Agree (act item))
    (items : List α) : Outcome.Agree ((items.map change).mapM act) (items.mapM act) := by
  induction items with
  | nil => exact .same _
  | cons item items induction =>
      rw [List.map_cons, List.mapM_cons, List.mapM_cons]
      refine ((each item).bind _).trans ?_
      cases act item with
      | error problem => exact .same _
      | ok first => exact induction.bind _

end Outcome.Agree

/-! ## Parameters -/

namespace Datum

theorem arranged_eq_text_iff {datum : Datum} {value : String} :
    datum.arranged = .text value ↔ datum = .text value := by
  cases datum <;> simp [arranged]

theorem arranged_eq_pair_iff {datum : Datum} {first second : String} :
    datum.arranged = .list [.text first, .text second] ↔
      datum = .list [.text first, .text second] := by
  cases datum with
  | list items =>
      match items with
      | [] | [_] | _ :: _ :: _ :: _ => simp [arranged, arrangedItems]
      | [left, right] => simp [arranged, arrangedItems, arranged_eq_text_iff]
  | _ => simp [arranged]

end Datum

namespace Step

/-- The step with the entries of its parameters arranged by name, all the way down. -/
def arranged (step : Step) : Step where
  operation := step.operation
  params := Datum.byName (Datum.arrangedEntries step.params)

/-- The parameters of the step are values of JSON. -/
def HasJsonParams (step : Step) : Prop := Json.IsJson (.mapping step.params)

theorem HasJsonParams.distinct {step : Step} (json : step.HasJsonParams) :
    (step.params.map (·.1)).Nodup := by
  cases json with
  | mapping _ distinct _ => exact distinct

section

variable {step : Step} (distinct : (step.params.map (·.1)).Nodup)
include distinct

theorem param?_arranged (name : String) :
    step.arranged.param? name = (step.param? name).map Datum.arranged :=
  Datum.valueAt?_arranged distinct name

theorem param_arranged (name : String) : step.arranged.param name = (step.param name).arranged := by
  rw [param, param, param?_arranged distinct]
  cases step.param? name <;> rfl

end

end Step

namespace Operation

theorem columnNames?_arranged (datum : Datum) : columnNames? datum.arranged = columnNames? datum := by
  cases datum with
  | list items =>
      cases items with
      | nil => rfl
      | cons first items =>
          rw [Datum.arranged, Datum.arrangedItems_eq_map, List.map_cons, columnNames?, columnNames?,
            ← List.map_cons, List.mapM_map]
          · congr 1
            funext item
            cases item <;> rfl
          · simp
          · simp
  | _ => rfl

theorem sortKey_of_ne_pair {datum : Datum}
    (notPair : ∀ column word, datum ≠ .list [.text column, .text word]) :
    sortKey datum = (do
      datum.checkDigits.mapError .fault
      stepFails (.invalidKey datum)) := by
  unfold sortKey
  split
  · next column word => exact absurd rfl (notPair column word)
  · rfl

theorem agree_sortKey (datum : Datum) : (sortKey datum.arranged).Agree (sortKey datum) := by
  by_cases isPair : ∃ column word, datum = .list [.text column, .text word]
  · rcases isPair with ⟨column, word, rfl⟩
    exact .same _
  · have notPair (column word : String) : datum ≠ .list [.text column, .text word] :=
      fun same => isPair ⟨column, word, same⟩
    have checked : datum.arranged.checkDigits = datum.checkDigits := by
      rw [Datum.checkDigits, Datum.checkDigits, Datum.hasLongInteger_arranged]
    have arrangedNotPair (column word : String) :
        datum.arranged ≠ .list [.text column, .text word] :=
      fun same => notPair column word (Datum.arranged_eq_pair_iff.mp same)
    rw [sortKey_of_ne_pair notPair, sortKey_of_ne_pair arrangedNotPair, checked]
    cases datum.checkDigits with
    | error fault => exact .same _
    | ok _ => exact .invalidKey none datum.arranged_arranged

section

variable {step : Step} (distinct : (step.params.map (·.1)).Nodup)
include distinct

theorem ofFilter_arranged : ofFilter step.arranged = ofFilter step := by
  unfold ofFilter
  rw [Step.param_arranged distinct, Step.param?_arranged distinct]
  cases step.param "where" with
  | text source =>
      cases step.param? "strict" with
      | none => rfl
      | some strict => cases strict <;> rfl
  | _ => rfl

theorem ofSelect_arranged : ofSelect step.arranged = ofSelect step := by
  rw [ofSelect, ofSelect, Step.param_arranged distinct, columnNames?_arranged]

theorem agree_ofOrder : (ofOrder step.arranged).Agree (ofOrder step) := by
  unfold ofOrder
  rw [Step.param_arranged distinct]
  cases step.param "keys" with
  | list items =>
      cases items with
      | nil => exact .same _
      | cons first items =>
          rw [Datum.arranged, Datum.arrangedItems_eq_map]
          exact (Outcome.Agree.mapM agree_sortKey (first :: items)).bind _
  | _ => exact .same _

theorem ofSql_arranged : ofSql step.arranged = ofSql step := by
  unfold ofSql
  rw [Step.param_arranged distinct]
  cases step.param "statement" <;> rfl

/-- A step is the operation that it is with its entries arranged. -/
theorem agree_ofStep : (ofStep step.arranged).Agree (ofStep step) := by
  unfold ofStep
  have operation : step.arranged.operation = step.operation := rfl
  rw [operation, ofFilter_arranged distinct, ofSelect_arranged distinct, ofSql_arranged distinct]
  split
  · exact .same _
  · split
    · exact .same _
    · split
      · exact agree_ofOrder distinct
      · exact .same _

end

end Operation

/-! ## Alike steps -/

namespace Step

variable {left right : Step}

/-- Alike steps with JSON parameters are one step once their entries are arranged. -/
theorem Alike.arranged_eq (alike : left.Alike right) (leftJson : left.HasJsonParams)
    (rightJson : right.HasJsonParams) : left.arranged = right.arranged := by
  rcases alike with ⟨key, leftKeyed, rightKeyed⟩
  rcases parts_of_contentKey leftKeyed rightKeyed with ⟨operations, forms⟩
  have params := (leftJson.readable (params_writable leftKeyed)).arranged_eq
    (rightJson.readable (params_writable rightKeyed)) forms
  rw [arranged, arranged, operations, Datum.mapping.inj params]

theorem document_arranged (step : Step) :
    step.document.arranged = .mapping (Datum.byName
      [(.text "op", .text step.arranged.operation), (.text "params", .mapping step.arranged.params)]) :=
  rfl

/-- Steps with keys are alike when they are one step once their entries are arranged. -/
theorem alike_of_arranged_eq (leftKeyed : ∃ key, left.contentKey = .ok key)
    (rightKeyed : ∃ key, right.contentKey = .ok key) (same : left.arranged = right.arranged) :
    left.Alike right := by
  rcases leftKeyed with ⟨leftKey, isLeft⟩
  rcases rightKeyed with ⟨rightKey, isRight⟩
  have keys : leftKey = rightKey := by
    rw [← (contentKey_eq_ok_iff.mp isLeft).2, ← (contentKey_eq_ok_iff.mp isRight).2,
      ← Json.form_arranged, ← Json.form_arranged, document_arranged, document_arranged, same]
  exact ⟨leftKey, isLeft, keys ▸ isRight⟩

theorem Alike.agree_ofStep (alike : left.Alike right) (leftJson : left.HasJsonParams)
    (rightJson : right.HasJsonParams) :
    (Operation.ofStep left).Agree (Operation.ofStep right) := by
  have leftArranged := Operation.agree_ofStep leftJson.distinct
  rw [alike.arranged_eq leftJson rightJson] at leftArranged
  exact leftArranged.symm.trans (Operation.agree_ofStep rightJson.distinct)

/-- Alike steps do alike to every table. -/
theorem Alike.agree_apply (alike : left.Alike right) (leftJson : left.HasJsonParams)
    (rightJson : right.HasJsonParams) (relation : String) (table : Table) :
    (left.apply relation table).Agree (right.apply relation table) :=
  ((alike.agree_ofStep leftJson rightJson).bind _).bind _

end Step

/-- Alike steps do alike one after the other. -/
theorem agree_applyFrom {left right : List Step} (alike : List.Forall₂ Step.Alike left right)
    (leftJson : ∀ step ∈ left, step.HasJsonParams) (rightJson : ∀ step ∈ right, step.HasJsonParams)
    (relation : String) (position : Nat) (table : Table) :
    (applyFrom relation position table left).Agree (applyFrom relation position table right) := by
  induction alike generalizing position table with
  | nil => exact .same _
  | @cons first second left right firstAlike _ induction =>
      have agree := firstAlike.agree_apply (leftJson first List.mem_cons_self)
        (rightJson second List.mem_cons_self) relation table
      rw [applyFrom, applyFrom]
      generalize first.apply relation table = firstOutcome at agree
      generalize second.apply relation table = secondOutcome at agree
      cases agree with
      | invalidKey index arranged => exact .invalidKey (some position) arranged
      | same =>
          cases firstOutcome with
          | error problem => exact .same _
          | ok next =>
              exact induction (fun step member => leftJson step (List.mem_cons_of_mem _ member))
                (fun step member => rightJson step (List.mem_cons_of_mem _ member)) _ _

/-! ## Keys of lists of steps -/

/-- Lists of steps that agree step by step have one key. -/
theorem exists_stepsKey_of_alike {left right : List Step} (alike : List.Forall₂ Step.Alike left right) :
    ∃ key, stepsKey left = .ok key ∧ stepsKey right = .ok key := by
  have keys : ∃ keys, left.mapM Step.contentKey = .ok keys ∧ right.mapM Step.contentKey = .ok keys := by
    simp only [mapM_eq_ok]
    induction alike with
    | nil => exact ⟨[], .nil, .nil⟩
    | cons first _ induction =>
        rcases first with ⟨key, isLeft, isRight⟩
        rcases induction with ⟨keys, areLeft, areRight⟩
        exact ⟨key :: keys, .cons isLeft areLeft, .cons isRight areRight⟩
  rcases keys with ⟨keys, areLeft, areRight⟩
  exact ⟨_, bind_eq_ok.mpr ⟨keys, areLeft, rfl⟩, bind_eq_ok.mpr ⟨keys, areRight, rfl⟩⟩

/-! ## Sort keys that are mappings -/

namespace Step

/-- A mapping in the place of a sort key, with nothing under its names. -/
def mappingKey (names : List String) : Datum := .ofFields (names.map (·, .null))

def orderByMapping (names : List String) : Step :=
  .ofParams "order" [("keys", .list [mappingKey names])]

variable {names : List String}

theorem isJson_mappingKey (distinct : names.Nodup) : Json.IsJson (mappingKey names) :=
  Json.isJson_ofFields (by simpa [Function.comp_def] using distinct) (by simp [Json.IsJson.null])

theorem hasJsonParams_orderByMapping (distinct : names.Nodup) :
    (orderByMapping names).HasJsonParams := by
  have keys : Json.IsJson (.list [mappingKey names]) :=
    .list (by simpa using isJson_mappingKey distinct)
  change Json.IsJson (.ofFields [("keys", .list [mappingKey names])])
  exact Json.isJson_ofFields (by simp) (by simpa using keys)

theorem exists_contentKey_orderByMapping (names : List String) :
    ∃ key, (orderByMapping names).contentKey = .ok key := by
  refine ⟨_, contentKey_eq_ok_iff.mpr ⟨?_, rfl⟩⟩
  have key : Json.orderedFault? (mappingKey names) = none :=
    Json.orderedFault?_of_texts (by simp [Datum.isText]) (by simp [Json.orderedFault?])
  have params : Json.orderedFault? (.mapping (orderByMapping names).params) = none :=
    Json.orderedFault?_of_texts (by simp [orderByMapping, ofParams, Datum.isText])
      (by simp [orderByMapping, ofParams, Json.orderedFault?, Json.itemsFault?, key])
  exact Json.orderedFault?_of_texts (by simp [Datum.isText]) (by simpa [Json.orderedFault?] using params)

theorem alike_orderByMapping {others : List String} (perm : names.Perm others)
    (distinct : names.Nodup) : (orderByMapping names).Alike (orderByMapping others) := by
  apply alike_of_arranged_eq (exists_contentKey_orderByMapping names)
    (exists_contentKey_orderByMapping others)
  have keys : (mappingKey names).arranged = (mappingKey others).arranged := by
    cases isJson_mappingKey distinct with
    | mapping named distinct _ =>
        exact Datum.arranged_mapping_of_perm ((perm.map _).map _) named distinct
  have lists (key : Datum) : (Datum.list [key]).arranged = .list [key.arranged] := rfl
  simp [orderByMapping, ofParams, arranged, Datum.arrangedEntries, lists, keys]

theorem applySteps_orderByMapping (relation : String) (base : Table) (names : List String) :
    applySteps relation base [orderByMapping names] =
      .error (.failure (.step (.invalidKey (mappingKey names))) (some 0)) := by
  have short : (mappingKey names).hasLongInteger = false := by
    rw [mappingKey, Datum.ofFields, Datum.hasLongInteger, Datum.anyLongEntry_eq_any]
    simp [Datum.hasLongInteger]
  have refused : Operation.sortKey (mappingKey names) = Outcome.fail (.step (.invalidKey (mappingKey names))) := by
    rw [Operation.sortKey_of_ne_pair (by simp [mappingKey, Datum.ofFields]), Datum.checkDigits, short]
    rfl
  have validated : Operation.ofStep (orderByMapping names) =
      Outcome.fail (.step (.invalidKey (mappingKey names))) := by
    have given : (orderByMapping names).param "keys" = .list [mappingKey names] := rfl
    rw [Operation.ofStep_of_order rfl, Operation.ofOrder, given]
    simp only [List.mapM_cons, refused]
    rfl
  rw [applySteps, applyFrom, Step.apply, validate, validated]
  rfl

end Step

/-! ## What a key identifies -/

/--
Lists of steps with JSON parameters have keys of the same bytes just when they
are equal step by step. Such lists make the same view of every table or fail with
the same problem, except that a mapping in the place of a sort key is reported with
its entries in the order in which they were given.
-/
theorem stepsKey_identifies {left right : List Step}
    (leftJson : ∀ step ∈ left, step.HasJsonParams) (rightJson : ∀ step ∈ right, step.HasJsonParams) :
    ((∃ leftKey rightKey, stepsKey left = .ok leftKey ∧ stepsKey right = .ok rightKey ∧
        leftKey.toUTF8 = rightKey.toUTF8) ↔
      List.Forall₂ (fun first second => first.sameAs second = .ok true) left right) ∧
    (List.Forall₂ (fun first second => first.sameAs second = .ok true) left right →
      ∀ relation base,
        applySteps relation base left = applySteps relation base right ∨
        ∃ leftKey rightKey index,
          applySteps relation base left = .error (.failure (.step (.invalidKey leftKey)) index) ∧
          applySteps relation base right = .error (.failure (.step (.invalidKey rightKey)) index) ∧
          leftKey.arranged = rightKey.arranged) := by
  simp only [Step.sameAs_eq_true_iff]
  refine ⟨⟨?_, fun alike => ?_⟩, fun alike relation base => ?_⟩
  · rintro ⟨leftKey, rightKey, isLeft, isRight, sameBytes⟩
    rw [String.toUTF8_eq_toByteArray, String.toUTF8_eq_toByteArray, String.toByteArray_inj] at sameBytes
    exact alike_of_stepsKey isLeft (sameBytes ▸ isRight)
  · rcases exists_stepsKey_of_alike alike with ⟨key, isLeft, isRight⟩
    exact ⟨key, key, isLeft, isRight, rfl⟩
  · have agree := agree_applyFrom alike leftJson rightJson relation 0 base
    unfold applySteps
    generalize applyFrom relation 0 base left = leftOutcome at agree
    generalize applyFrom relation 0 base right = rightOutcome at agree
    cases agree with
    | same => exact .inl rfl
    | invalidKey index arranged => exact .inr ⟨_, _, index, rfl, rfl, arranged⟩

/-- One cell, which no mapping puts in order. -/
def singleCell : Table where
  columns := [⟨"a", .integer, [.integer 1]⟩]
  aligned := by decide
  distinct := by decide

theorem sameAs_orderByMapping : List.Forall₂ (fun first second => first.sameAs second = .ok true)
    [Step.orderByMapping ["b", "a"]] [Step.orderByMapping ["a", "b"]] :=
  .cons (Step.sameAs_eq_true_iff.mpr (Step.alike_orderByMapping (.swap ..) (by decide))) .nil

theorem stepsKey_identifies_orderByMapping :
    (∀ step ∈ [Step.orderByMapping ["b", "a"]], step.HasJsonParams) ∧
    (∀ step ∈ [Step.orderByMapping ["a", "b"]], step.HasJsonParams) ∧
    (∃ leftKey rightKey, stepsKey [Step.orderByMapping ["b", "a"]] = .ok leftKey ∧
      stepsKey [Step.orderByMapping ["a", "b"]] = .ok rightKey ∧ leftKey.toUTF8 = rightKey.toUTF8) ∧
    ∃ leftKey rightKey index,
      applySteps "df" singleCell [Step.orderByMapping ["b", "a"]] =
        .error (.failure (.step (.invalidKey leftKey)) index) ∧
      applySteps "df" singleCell [Step.orderByMapping ["a", "b"]] =
        .error (.failure (.step (.invalidKey rightKey)) index) ∧
      leftKey.arranged = rightKey.arranged := by
  have json (names : List String) (distinct : names.Nodup) :
      ∀ step ∈ [Step.orderByMapping names], step.HasJsonParams := by
    simpa using Step.hasJsonParams_orderByMapping distinct
  have identifies := stepsKey_identifies (json ["b", "a"] (by decide)) (json ["a", "b"] (by decide))
  refine ⟨json _ (by decide), json _ (by decide), identifies.1.mpr sameAs_orderByMapping, ?_⟩
  rcases identifies.2 sameAs_orderByMapping "df" singleCell with same | failed
  · rw [Step.applySteps_orderByMapping, Step.applySteps_orderByMapping] at same
    exact absurd same (by decide)
  · exact failed

/-- Equal steps whose failures are told in other words. -/
theorem applySteps_orderByMapping_messages :
    (Step.orderByMapping ["b", "a"]).HasJsonParams ∧ (Step.orderByMapping ["a", "b"]).HasJsonParams ∧
    List.Forall₂ (fun first second => first.sameAs second = .ok true)
      [Step.orderByMapping ["b", "a"]] [Step.orderByMapping ["a", "b"]] ∧
    ∃ left right : Failure,
      applySteps "df" singleCell [Step.orderByMapping ["b", "a"]] = .error (.failure left (some 0)) ∧
      applySteps "df" singleCell [Step.orderByMapping ["a", "b"]] = .error (.failure right (some 0)) ∧
      left.report.message = "Invalid sort key mappingproxy(\x7b'b': None, 'a': None\x7d)." ∧
      right.report.message = "Invalid sort key mappingproxy(\x7b'a': None, 'b': None\x7d)." :=
  ⟨Step.hasJsonParams_orderByMapping (by decide), Step.hasJsonParams_orderByMapping (by decide),
    sameAs_orderByMapping, _, _, Step.applySteps_orderByMapping .., Step.applySteps_orderByMapping ..,
    by decide, by decide⟩

end TableBrowser
