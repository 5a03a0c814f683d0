import TableBrowser.Proofs.Expression.Reading
import TableBrowser.Proofs.Step.Schema
/-!
# Where steps meet faults

Checking a step reports what is wrong with it, unless a number in its parameters
is too long to be read or written. Main statements: a valid step can be
described and tells its schema, and a step that is made of texts has a content
key.
-/

namespace TableBrowser

/-! ## Checking -/

theorem Datum.long_of_checkDigits {datum : Datum} {fault : Fault}
    (failed : datum.checkDigits = .error fault) : datum.hasLongInteger = true := by
  by_contra short
  rw [checkDigits, if_neg short] at failed
  cases failed

/-- A number in the parameters is too long to be read or written. -/
def Step.Overlong (step : Step) : Prop :=
  (∃ source, step.param "where" = .text source ∧ Expression.LongNumeralIn source.toList) ∨
    ∃ keys key, step.param "keys" = .list keys ∧ key ∈ keys ∧ key.hasLongInteger = true

namespace Operation

variable (step : Step)

theorem faults_ofFilter : (ofFilter step).FaultsOnly step.Overlong := by
  unfold ofFilter
  split
  · next source given =>
    split
    · exact Outcome.faultsOnly_fail _
    · split
      · refine Raises.bind ?_ fun _ => Raises.pure _
        exact Outcome.FaultsOnly.weaken (Expression.faults_parse source)
          fun long => .inl ⟨source, given, long⟩
      · exact Outcome.faultsOnly_fail _
  · exact Outcome.faultsOnly_fail _

theorem faultless_ofSelect : (ofSelect step).Faultless := by
  unfold ofSelect
  split
  · exact Outcome.faultsOnly_fail _
  · split
    · exact Raises.pure _
    · exact Outcome.faultsOnly_fail _

theorem faults_sortKey (datum : Datum) :
    (sortKey datum).FaultsOnly (datum.hasLongInteger = true) := by
  unfold sortKey
  split
  · split
    · exact Raises.pure _
    · exact Outcome.faultsOnly_fail _
  · exact Raises.bind (Outcome.faultsOnly_mapError fun _ => Datum.long_of_checkDigits)
      fun _ => Outcome.faultsOnly_fail _

theorem faults_ofOrder : (ofOrder step).FaultsOnly step.Overlong := by
  unfold ofOrder
  split
  · next first rest given =>
    refine Raises.bind (Raises.mapM fun key member => ?_) fun _ => Raises.pure _
    exact Outcome.FaultsOnly.weaken (faults_sortKey key)
      fun long => .inr ⟨first :: rest, key, given, member, long⟩
  · exact Outcome.faultsOnly_fail _

theorem faultless_ofSql : (ofSql step).Faultless := by
  unfold ofSql
  split
  · split
    · exact Outcome.faultsOnly_fail _
    · split
      · exact Raises.pure _
      · exact Outcome.faultsOnly_fail _
  · exact Outcome.faultsOnly_fail _

theorem faults_ofStep : (ofStep step).FaultsOnly step.Overlong := by
  unfold ofStep
  split
  · exact faults_ofFilter step
  · split
    · exact (faultless_ofSelect step).faultsOnly
    · split
      · exact faults_ofOrder step
      · split
        · exact (faultless_ofSql step).faultsOnly
        · exact Outcome.faultsOnly_fail _

theorem faultless_checkColumns (operation : Operation) (columns : List String) :
    (operation.checkColumns columns).Faultless := by
  unfold checkColumns
  simp only
  split
  · exact Outcome.faultsOnly_fail _
  · exact Raises.pure _

end Operation

theorem Step.faults_validate (step : Step) (columns : Option (List String)) :
    (discard <| step.validate columns : Outcome Unit).FaultsOnly step.Overlong := by
  have validated : (step.validate columns).FaultsOnly step.Overlong := by
    refine Raises.bind (Operation.faults_ofStep step) fun operation => ?_
    cases columns with
    | none => exact Raises.pure _
    | some columns =>
        exact Raises.bind (operation.faultless_checkColumns columns).faultsOnly fun _ => Raises.pure _
  intro problem failed
  cases result : step.validate columns with
  | ok operation =>
      rw [result] at failed
      cases failed
  | error other =>
      rw [result] at failed
      cases failed
      exact validated problem result

/-! ## Valid steps -/

namespace Operation

/-- Sort keys come as pairs of texts. -/
theorem pair_of_sortKey {datum : Datum} {key : SortKey} (valid : sortKey datum = .ok key) :
    ∃ column word, datum = .list [.text column, .text word] := by
  unfold sortKey at valid
  split at valid
  · exact ⟨_, _, rfl⟩
  · rcases bind_eq_ok.mp valid with ⟨_, _, failed⟩
    cases failed

theorem pairs_of_ofOrder {step : Step} {operation : Operation} (valid : ofOrder step = .ok operation) :
    ∃ keys, step.param "keys" = .list keys ∧
      ∀ key ∈ keys, ∃ column word, key = .list [.text column, .text word] := by
  unfold ofOrder at valid
  split at valid
  · next first rest given =>
    refine ⟨first :: rest, given, fun key member => ?_⟩
    rcases bind_eq_ok.mp valid with ⟨read, areRead, _⟩
    rcases ok_of_mapM areRead member with ⟨sorted, isSorted⟩
    exact pair_of_sortKey isSorted
  · cases valid

theorem ofStep_of_order {step : Step} (isOrder : step.operation = "order") :
    ofStep step = ofOrder step := by
  simp [ofStep, isOrder]

end Operation

namespace Step

variable {step : Step}

theorem elementsIfAny_list (items : List Datum) : (Datum.list items).elementsIfAny = .ok items := by
  cases items <;> rfl

/-- A valid step can be told in one line. -/
theorem exists_describe (valid : step.Valid) : ∃ text, step.describe = .ok text := by
  rcases valid with ⟨operation, isStep⟩
  rcases Operation.ofStep_cases isStep with ⟨isFilter, _⟩ | ⟨isSelect, columns, _, given, _⟩ |
    ⟨isOrder, _⟩ | ⟨isSql, _⟩
  · exact ⟨_, by rw [describe, if_pos isFilter]⟩
  · have named : ∃ names, ((columns.map Datum.text).mapIdx fun index column => (index, column)).mapM
        (fun numbered => describedColumn numbered.1 numbered.2) = .ok names := by
      refine mapM_succeeds fun numbered member => ?_
      rcases List.mem_mapIdx.mp member with ⟨index, inBounds, rfl⟩
      exact ⟨_, by rw [List.getElem_map]; rfl⟩
    rcases named with ⟨names, areNames⟩
    exact ⟨_, by
      simp only [describe, isSelect, given, elementsIfAny_list, bind, Except.bind, areNames]
      rfl⟩
  · rw [Operation.ofStep_of_order isOrder] at isStep
    rcases Operation.pairs_of_ofOrder isStep with ⟨keys, given, pairs⟩
    have described : ∃ texts, keys.mapM describedKey = .ok texts := by
      refine mapM_succeeds fun key member => ?_
      rcases pairs key member with ⟨column, word, rfl⟩
      exact ⟨_, rfl⟩
    rcases described with ⟨texts, areTexts⟩
    exact ⟨_, by
      simp only [describe, isOrder, given, elementsIfAny_list, bind, Except.bind, areTexts]
      rfl⟩
  · exact ⟨_, by simp [describe, isSql]; rfl⟩

end Step

/-! ## Schemas -/

namespace Schema

/-- What is known of a schema: nothing, or a list of fields. -/
def WellFormed (schema : Datum) : Prop :=
  schema = .null ∨ ∃ fields, schema = Datum.ofFields [("fields", .list fields)] ∧
    ∀ field ∈ fields, isField field = true

theorem wellFormed_ofTable (table : Table) : WellFormed (ofTable table) := by
  refine .inr ⟨_, rfl, fun datum member => ?_⟩
  rcases List.mem_map.mp member with ⟨type, _, rfl⟩
  rfl

/-- The fields that a selection keeps are some of those that there are. -/
theorem selectFields_texts {fields : List Datum} (areFields : ∀ field ∈ fields, isField field = true)
    (columns : List String) :
    ∃ schema, selectFields (.list (columns.map .text)) (.list fields) = .ok schema ∧
      WellFormed schema := by
  have noOther : fields.find? (fun field => !isField field) = none := by
    rw [List.find?_eq_none]
    intro field member
    simp [areFields field member]
  refine ⟨Datum.ofFields [("fields", .list ((columns.map Datum.text).filterMap (fieldNamed? fields)))],
    ?_, .inr ⟨_, rfl, ?_⟩⟩
  · simp only [selectFields, noOther, Step.elementsIfAny_list, bind, Except.bind, mapM_lookupKey]
    rfl
  · intro field member
    rcases List.mem_filterMap.mp member with ⟨name, _, found⟩
    exact areFields field (List.mem_reverse.mp (List.mem_of_find?_eq_some found))

end Schema

/-- A valid step tells the schema of its result, as far as that of its input is known. -/
theorem Step.exists_outputSchema {step : Step} (valid : step.Valid) {schema : Datum}
    (wellFormed : Schema.WellFormed schema) :
    ∃ after, step.outputSchema schema = .ok after ∧ Schema.WellFormed after := by
  rcases valid with ⟨operation, isStep⟩
  rcases Operation.ofStep_cases isStep with ⟨isFilter, _⟩ | ⟨isSelect, columns, _, given, _⟩ |
    ⟨isOrder, _⟩ | ⟨isSql, _⟩
  · exact ⟨schema, by simp [outputSchema, isFilter], wellFormed⟩
  · rcases wellFormed with rfl | ⟨fields, rfl, areFields⟩
    · exact ⟨.null, by simp [outputSchema, isSelect], .inl rfl⟩
    · rcases Schema.selectFields_texts areFields columns with ⟨after, selected, afterWellFormed⟩
      exact ⟨after, by
        simpa [outputSchema, isSelect, Datum.ofFields, Datum.valueAt?, given] using selected,
        afterWellFormed⟩
  · exact ⟨schema, by simp [outputSchema, isOrder], wellFormed⟩
  · exact ⟨.null, by simp [outputSchema, isSql], .inl rfl⟩

theorem Pipeline.exists_schemaAfter {steps : List Step} (valid : ∀ step ∈ steps, step.Valid)
    {schema : Datum} (wellFormed : Schema.WellFormed schema) :
    ∃ after, schemaAfter schema steps = .ok after := by
  induction steps generalizing schema with
  | nil => exact ⟨schema, rfl⟩
  | cons step steps induction =>
      rw [schemaAfter]
      split
      · exact ⟨.null, rfl⟩
      · rcases Step.exists_outputSchema (valid step List.mem_cons_self) wellFormed with
          ⟨next, isNext, nextWellFormed⟩
        rw [isNext]
        exact induction (fun other member => valid other (List.mem_cons_of_mem step member))
          nextWellFormed

/-! ## Steps made of texts -/

namespace Json

theorem itemsFault?_eq_none {items : List Datum} (written : ∀ item ∈ items, orderedFault? item = none) :
    itemsFault? items = none := by
  induction items with
  | nil => rfl
  | cons item items induction =>
      rw [itemsFault?, written item List.mem_cons_self, Option.none_or]
      exact induction fun other member => written other (List.mem_cons_of_mem item member)

theorem anyLongItem_eq_false {items : List Datum} (short : ∀ item ∈ items, item.hasLongInteger = false) :
    Datum.anyLongItem items = false := by
  induction items with
  | nil => rfl
  | cons item items induction =>
      rw [Datum.anyLongItem, short item List.mem_cons_self, Bool.false_or]
      exact induction fun other member => short other (List.mem_cons_of_mem item member)

theorem Textual.orderedFault? {datum : Datum} (textual : Textual datum) :
    orderedFault? datum = none := by
  induction textual with
  | text value => rfl
  | list _ induction => exact itemsFault?_eq_none induction

theorem Textual.hasLongInteger {datum : Datum} (textual : Textual datum) :
    datum.hasLongInteger = false := by
  induction textual with
  | text value => rfl
  | list _ induction => exact anyLongItem_eq_false induction

/-- Entries under texts are written when their values are. -/
theorem orderedFault?_of_texts {entries : List (Datum × Datum)}
    (named : ∀ entry ∈ entries, entry.1.isText = true)
    (written : ∀ entry ∈ entries, Json.orderedFault? entry.2 = none) :
    Json.orderedFault? (.mapping entries) = none := by
  rw [Json.orderedFault?, Option.or_eq_none_iff]
  constructor
  · rw [clash?, List.findSome?_eq_none_iff]
    rintro ⟨left, right⟩ member
    have texts : ∀ key ∈ entries.map (·.1), key.isText = true := by
      intro key keyMember
      rcases List.mem_map.mp keyMember with ⟨entry, entryMember, rfl⟩
      exact named entry entryMember
    have leftText := texts left (List.of_mem_zip member).1
    have rightText := texts right (List.mem_of_mem_tail (List.of_mem_zip member).2)
    cases left <;> cases leftText
    cases right <;> cases rightText
    rfl
  · rw [List.findSome?_eq_none_iff]
    intro entry member
    rw [inKeyOrder, List.mem_mergeSort, entryFaults_eq_map] at member
    rcases List.mem_map.mp member with ⟨given, givenMember, rfl⟩
    have isText := named given givenMember
    rw [Option.or_eq_none_iff]
    refine ⟨?_, written given givenMember⟩
    rcases given with ⟨key, value⟩
    cases key <;> cases isText
    rfl

end Json

/-- Of a step with one parameter that is made of texts only a condition can be too long. -/
theorem Step.long_of_overlong {operation name : String} {value : Datum}
    (textual : Json.Textual value)
    (long : (Step.ofParams operation [(name, value)]).Overlong) :
    name = "where" ∧ ∃ source, value = .text source ∧ Expression.LongNumeralIn source.toList := by
  have param (other : String) : (Step.ofParams operation [(name, value)]).param other =
      if name = other then value else .null := by
    by_cases same : name = other <;>
      simp [Step.ofParams, Step.param, Step.param?, Datum.valueAt?, same]
  rcases long with ⟨source, given, long⟩ | ⟨keys, key, given, member, long⟩
  · rw [param] at given
    split at given
    · next isName => exact ⟨isName, source, given, long⟩
    · cases given
  · rw [param] at given
    split at given
    · rw [given] at textual
      cases textual with
      | list each => rw [(each key member).hasLongInteger] at long; cases long
    · cases given

/-- A step with one parameter that is made of texts has a content key. -/
theorem Step.exists_contentKey_ofParams (operation name : String) {value : Datum}
    (textual : Json.Textual value) :
    ∃ key, (Step.ofParams operation [(name, value)]).contentKey = .ok key := by
  refine ⟨_, Step.contentKey_eq_ok_iff.mpr ⟨?_, rfl⟩⟩
  have params : Json.orderedFault? (.mapping [(.text name, value)]) = none :=
    Json.orderedFault?_of_texts (by simp [Datum.isText]) (by simpa using textual.orderedFault?)
  rw [Step.document_eq]
  refine Json.orderedFault?_of_texts (by simp [Datum.isText]) ?_
  intro entry member
  simp only [List.mem_cons, List.not_mem_nil, or_false] at member
  rcases member with rfl | rfl
  · rfl
  · exact params

end TableBrowser
