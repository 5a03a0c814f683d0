import TableBrowser.Proofs.Datum.Scale
import TableBrowser.Proofs.Number.Overflow
import TableBrowser.Proofs.Outcome
import TableBrowser.Settings
/-!
# Settings from documents

A document gives settings by name, and what it does not give stays at its standard
value. Main statement: settings are read from a mapping exactly when they follow its
entries and are within their limits. A mapping that gives none is reported, except
where its unknown keys are not compared on one scale, where a report would have to
tell a whole number that is too long to be written, and where a whole number is too
large for a setting that is a number.
-/

namespace TableBrowser.Settings

open Datum (OnOneScale)

/-! ## Keys in order -/

theorem insertKey_perm {key : Datum} {sorted result : List Datum}
    (inserted : insertKey key sorted = .ok result) : List.Perm result (key :: sorted) := by
  induction sorted generalizing result with
  | nil =>
      cases inserted
      exact .refl _
  | cons first rest induction =>
      rcases bind_eq_ok.mp inserted with ⟨before, _, later⟩
      cases before with
      | true =>
          cases later
          exact .refl _
      | false =>
          rcases bind_eq_ok.mp later with ⟨others, made, ⟨⟩⟩
          exact ((induction made).cons first).trans (.swap key first rest)

/-- A key goes among keys of one scale when it is of that scale. -/
theorem insertKey_succeeds_iff {key : Datum} {sorted : List Datum} (single : key.IsSingle)
    (onOneScale : sorted.Pairwise OnOneScale) :
    (∃ result, insertKey key sorted = .ok result) ↔ ∀ other ∈ sorted, OnOneScale key other := by
  induction sorted with
  | nil => exact ⟨nofun, fun _ => ⟨_, rfl⟩⟩
  | cons first rest induction =>
      rw [List.pairwise_cons] at onOneScale
      constructor
      · rintro ⟨result, inserted⟩
        rcases bind_eq_ok.mp inserted with ⟨before, compared, _⟩
        have same := (Datum.less_succeeds_iff single).mp ⟨before, compared⟩
        exact List.forall_mem_cons.mpr ⟨same, fun other member => same.trans (onOneScale.1 other member)⟩
      · intro each
        rw [List.forall_mem_cons] at each
        rcases (Datum.less_succeeds_iff single).mpr each.1 with ⟨before, compared⟩
        cases before with
        | true => exact ⟨_, bind_eq_ok.mpr ⟨true, compared, rfl⟩⟩
        | false =>
            rcases (induction onOneScale.2).mpr each.2 with ⟨others, made⟩
            exact ⟨_, bind_eq_ok.mpr ⟨false, compared, bind_eq_ok.mpr ⟨others, made, rfl⟩⟩⟩

/-- The keys that are sorted so far are of one scale, as a key of another scale is not inserted. -/
theorem insertKeys_succeed_iff {keys sorted : List Datum} (single : ∀ key ∈ keys, key.IsSingle)
    (onOneScale : sorted.Pairwise OnOneScale) :
    (∃ result, keys.foldlM (fun sorted key => insertKey key sorted) sorted = .ok result) ↔
      (sorted ++ keys).Pairwise OnOneScale := by
  induction keys generalizing sorted with
  | nil => simpa using ⟨fun _ => onOneScale, fun _ => ⟨sorted, rfl⟩⟩
  | cons key keys induction =>
      rw [List.forall_mem_cons] at single
      have moved : List.Perm (sorted ++ key :: keys) (key :: sorted ++ keys) := List.perm_middle
      rw [List.foldlM_cons, moved.pairwise_iff OnOneScale.symm]
      constructor
      · rintro ⟨result, all⟩
        rcases bind_eq_ok.mp all with ⟨next, inserted, rest⟩
        have perm := insertKey_perm inserted
        have nextOnOneScale : next.Pairwise OnOneScale := by
          rw [perm.pairwise_iff OnOneScale.symm, List.pairwise_cons]
          exact ⟨(insertKey_succeeds_iff single.1 onOneScale).mp ⟨next, inserted⟩, onOneScale⟩
        have done := (induction single.2 nextOnOneScale).mp ⟨result, rest⟩
        exact ((perm.append_right keys).pairwise_iff OnOneScale.symm).mp done
      · intro all
        have keyed := (List.pairwise_append.mp all).1
        rcases (insertKey_succeeds_iff single.1 onOneScale).mpr (List.pairwise_cons.mp keyed).1 with
          ⟨next, inserted⟩
        have perm := insertKey_perm inserted
        have nextOnOneScale := (perm.pairwise_iff OnOneScale.symm).mpr keyed
        rcases (induction single.2 nextOnOneScale).mpr
          (((perm.append_right keys).pairwise_iff OnOneScale.symm).mpr all) with ⟨result, rest⟩
        exact ⟨result, bind_eq_ok.mpr ⟨next, inserted, rest⟩⟩

theorem sortedKeys_succeeds_iff {keys : List Datum} (single : ∀ key ∈ keys, key.IsSingle) :
    (∃ result, sortedKeys keys = .ok result) ↔ keys.Pairwise OnOneScale :=
  insertKeys_succeed_iff single .nil

theorem insertKeys_perm {keys sorted result : List Datum}
    (inserted : keys.foldlM (fun sorted key => insertKey key sorted) sorted = .ok result) :
    List.Perm result (keys ++ sorted) := by
  induction keys generalizing sorted with
  | nil =>
      cases inserted
      exact .refl _
  | cons key keys induction =>
      rcases bind_eq_ok.mp inserted with ⟨next, first, rest⟩
      exact (induction rest).trans (((insertKey_perm first).append_left keys).trans List.perm_middle)

/-! ## Values by name -/

/-- The value of a setting as a document gives it. -/
def value (settings : Settings) : String → Datum
  | "history_size" => .integer settings.historySize
  | "min_column_width" => .integer settings.minColumnWidth
  | "max_column_width" => .integer settings.maxColumnWidth
  | "width_sample_rows" => .integer settings.widthSampleRows
  | "fuzzy_threshold" => .number settings.fuzzyThreshold
  | "suggestion_cutoff" => .number settings.suggestionCutoff
  | "max_suggestions" => .integer settings.maxSuggestions
  | "workers" => settings.workers.elim .null .integer
  | "cache_size" => .integer settings.cacheSize
  | "sql_table_name" => .text settings.sqlTableName
  | "ellipsis" => .text settings.ellipsis
  | _ => .null

/-- The value of a setting that is not given. -/
def standard (name : String) : Datum := value {} name

/-- A given value in the kind of the standard one, as it is taken. -/
inductive Fits : (standard given taken : Datum) → Prop where
  | whole {usual given : Int} : Fits (.integer usual) (.integer given) (.integer given)
  | number {usual given : Binary64} : Fits (.number usual) (.number given) (.number given)
  | widened {usual : Binary64} {given : Int} (small : given.natAbs < Binary64.overflow) :
      Fits (.number usual) (.integer given) (.number (.ofInt given))
  | text {usual given : String} : Fits (.text usual) (.text given) (.text given)
  | unset : Fits .null .null .null
  | set {given : Int} : Fits .null (.integer given) (.integer given)

/-- A whole number that is too large for a setting that is a number. -/
def TooLarge (usual given : Datum) : Prop :=
  ∃ number whole, usual = .number number ∧ given = .integer whole ∧
    Binary64.overflow ≤ whole.natAbs

/-! ## Ends -/

/--
How work on a document ends: with what is right when the document fits, with a
report when it does not, and with a fault when it is faulty as well.
-/
inductive Ends {α : Type} (fits faulty : Prop) (right : α → Prop) : Outcome α → Prop where
  | returned {value : α} (isRight : right value) (fit : fits) (sound : ¬ faulty) :
      Ends fits faulty right (.ok value)
  | reported {problem : SettingsProblem} (misfit : ¬ fits) (sound : ¬ faulty) :
      Ends fits faulty right (fails problem)
  | faulted {fault : Fault} (misfit : ¬ fits) (unsound : faulty) :
      Ends fits faulty right (Outcome.fault fault)

section Ends

variable {α β : Type} {fits faulty otherFits otherFaulty : Prop} {right : α → Prop}
  {otherRight : β → Prop}

theorem Ends.bind {outcome : Outcome α} {next : α → Outcome β} (first : Ends fits faulty right outcome)
    (later : fits → ∀ value, right value → Ends otherFits otherFaulty otherRight (next value)) :
    Ends (fits ∧ otherFits) (faulty ∨ (fits ∧ otherFaulty)) otherRight (outcome >>= next) := by
  cases first with
  | returned isRight fit sound =>
      have onwards : Ends otherFits otherFaulty otherRight (Except.ok _ >>= next) := later fit _ isRight
      generalize Except.ok _ >>= next = result at onwards ⊢
      cases onwards with
      | returned isRight otherFit otherSound => exact .returned isRight ⟨fit, otherFit⟩ (by tauto)
      | reported misfit otherSound => exact .reported (by tauto) (by tauto)
      | faulted misfit unsound => exact .faulted (by tauto) (by tauto)
  | reported misfit sound => exact .reported (by tauto) (by tauto)
  | faulted misfit unsound => exact .faulted (by tauto) (by tauto)

theorem Ends.congr {outcome : Outcome α} (ends : Ends fits faulty right outcome)
    (sameFits : fits ↔ otherFits) (sameFaulty : faulty ↔ otherFaulty) :
    Ends otherFits otherFaulty right outcome := by
  rw [propext sameFits, propext sameFaulty] at ends
  exact ends

theorem Ends.mono {stronger : α → Prop} {outcome : Outcome α} (ends : Ends fits faulty stronger outcome)
    (weakens : fits → ∀ value, stronger value → right value) : Ends fits faulty right outcome := by
  cases ends with
  | returned isRight fit sound => exact .returned (weakens fit _ isRight) fit sound
  | reported misfit sound => exact .reported misfit sound
  | faulted misfit unsound => exact .faulted misfit unsound

theorem Ends.eq_ok_iff {outcome : Outcome α} {value : α}
    (ends : Ends (∃ value, right value) faulty right outcome)
    (unique : ∀ other, right other → right value → other = value) :
    outcome = .ok value ↔ right value := by
  cases ends with
  | returned isRight =>
      constructor
      · rintro ⟨⟩
        exact isRight
      · exact fun alsoRight => congrArg Except.ok (unique _ isRight alsoRight)
  | reported misfit => exact ⟨nofun, fun isRight => absurd ⟨value, isRight⟩ misfit⟩
  | faulted misfit => exact ⟨nofun, fun isRight => absurd ⟨value, isRight⟩ misfit⟩

theorem Ends.answers_iff {outcome : Outcome α} (ends : Ends fits faulty right outcome) :
    (∃ value, outcome = .ok value) ∨ (∃ problem, outcome = fails problem) ↔ ¬ faulty := by
  cases ends with
  | returned _ _ sound => exact ⟨fun _ => sound, fun _ => .inl ⟨_, rfl⟩⟩
  | reported _ sound => exact ⟨fun _ => sound, fun _ => .inr ⟨_, rfl⟩⟩
  | faulted _ unsound => exact ⟨by rintro (⟨_, ⟨⟩⟩ | ⟨_, ⟨⟩⟩), absurd unsound⟩

end Ends

/-! ## Values in their kinds -/

theorem ends_wrongKind {α : Type} {usual given : Datum} {right : α → Prop} {name expected : String}
    (misfit : ∀ result, ¬ Fits usual given result) (notLarge : ¬ TooLarge usual given) :
    Ends (∃ result, Fits usual given result) (TooLarge usual given) right
      (wrongKind name expected given) :=
  .reported (fun ⟨result, fits⟩ => misfit result fits) notLarge

/-- What is taken of a given value by the kind of the standard one. -/
def taken (name : String) (given : Datum) : (usual : Datum) → Outcome Datum
  | .integer _ => .integer <$> wholeValue name given
  | .number _ => .number <$> numberValue name given
  | .text _ => .text <$> textValue name given
  | .null => (·.elim .null .integer) <$> workersValue name given
  | usual => wrongKind name usual.className given

theorem ends_taken (name : String) (usual given : Datum) :
    Ends (∃ result, Fits usual given result) (TooLarge usual given) (Fits usual given)
      (taken name given usual) := by
  cases usual with
  | integer usual =>
      cases given with
      | integer given => exact .returned .whole ⟨_, .whole⟩ nofun
      | _ => exact ends_wrongKind nofun nofun
  | number usual =>
      cases given with
      | number given => exact .returned .number ⟨_, .number⟩ nofun
      | integer given =>
          rcases Nat.lt_or_ge given.natAbs Binary64.overflow with small | large
          · have finite : (Binary64.ofInt given).isFinite = true := by
              rw [← Bool.not_eq_false, Binary64.isFinite_ofInt_eq_false_iff]
              exact Nat.not_le.mpr small
            rw [taken, numberValue, if_pos finite]
            refine .returned (.widened small) ⟨_, .widened small⟩ ?_
            rintro ⟨_, _, _, ⟨⟩, large⟩
            exact Nat.not_le.mpr small large
          · rw [taken, numberValue, (Binary64.isFinite_ofInt_eq_false_iff given).mpr large]
            refine .faulted ?_ ⟨_, _, rfl, rfl, large⟩
            rintro ⟨_, fits⟩
            cases fits with
            | widened small => exact Nat.not_le.mpr small large
      | _ => exact ends_wrongKind nofun nofun
  | text usual =>
      cases given with
      | text given => exact .returned .text ⟨_, .text⟩ nofun
      | _ => exact ends_wrongKind nofun nofun
  | null =>
      cases given with
      | null => exact .returned .unset ⟨_, .unset⟩ nofun
      | integer given => exact .returned .set ⟨_, .set⟩ nofun
      | _ => exact ends_wrongKind nofun nofun
  | _ => exact ends_wrongKind nofun nofun

theorem map_bind_pure {α : Type} (read : Outcome α) (set : α → Settings) (name : String) :
    (·.value name) <$> (read >>= fun value => pure (set value)) =
      (fun value => (set value).value name) <$> read := by
  cases read <;> rfl

/-- Each setting takes what is given by the kind of its standard value. -/
theorem map_withValue (settings : Settings) {name : String} (known : name ∈ names) (given : Datum) :
    (·.value name) <$> settings.withValue name given = taken name given (standard name) := by
  simp only [names, List.mem_cons, List.not_mem_nil, or_false] at known
  rcases known with rfl | rfl | rfl | rfl | rfl | rfl | rfl | rfl | rfl | rfl | rfl
  all_goals exact map_bind_pure _ _ _

/-- What is given leaves the values of the other settings. -/
theorem value_withValue {settings next : Settings} {name other : String} (known : name ∈ names)
    (given : Datum) (made : settings.withValue name given = .ok next) (different : other ≠ name) :
    next.value other = settings.value other := by
  simp only [names, List.mem_cons, List.not_mem_nil, or_false] at known
  rcases known with rfl | rfl | rfl | rfl | rfl | rfl | rfl | rfl | rfl | rfl | rfl
  -- One case for each name that is given, and in it one for each name whose value is looked at.
  all_goals
    rcases bind_eq_ok.mp made with ⟨_, _, ⟨⟩⟩
    unfold value
    split
    all_goals first
      | rfl
      | exact absurd rfl different

theorem Fits.unique {usual given result other : Datum} (fits : Fits usual given result)
    (fitsOther : Fits usual given other) : result = other := by
  cases fits <;> cases fitsOther <;> rfl

/-- Settings with the same values are the same. -/
theorem eq_of_values {left right : Settings}
    (same : ∀ name ∈ names, left.value name = right.value name) : left = right := by
  have workers : left.workers = right.workers := by
    have sameDatum := same "workers" (by decide)
    simp only [value] at sameDatum
    cases leftWorkers : left.workers <;> cases rightWorkers : right.workers <;> simp_all
  cases left
  cases right
  simp_all [names, value]

/-- One setting is given, and the others stay. -/
structure Gives (settings : Settings) (name : String) (given : Datum) (next : Settings) : Prop where
  fits : Fits (standard name) given (next.value name)
  others : ∀ other ∈ names, other ≠ name → next.value other = settings.value other

theorem ends_withValue (settings : Settings) {name : String} (known : name ∈ names) (given : Datum) :
    Ends (∃ result, Fits (standard name) given result) (TooLarge (standard name) given)
      (settings.Gives name given) (settings.withValue name given) := by
  have ends := ends_taken name (standard name) given
  rw [← map_withValue settings known given] at ends
  cases made : settings.withValue name given with
  | ok next =>
      rw [made] at ends
      cases ends with
      | returned fits fit sound =>
          exact .returned ⟨fits, fun other _ => value_withValue known given made⟩ fit sound
  | error problem =>
      rw [made] at ends
      cases ends with
      | reported misfit sound => exact .reported misfit sound
      | faulted misfit unsound => exact .faulted misfit unsound

/-! ## Entries -/

variable {entries : List (Datum × Datum)}

/-- Every key names a setting. -/
def Known (entries : List (Datum × Datum)) : Prop :=
  ∀ entry ∈ entries, ∃ name ∈ names, entry.1 = .text name

/-- The keys that name no setting. -/
def unknownKeys (entries : List (Datum × Datum)) : List Datum :=
  (entries.map (·.1)).filter fun key => (nameOf? key).isNone

theorem nameOf?_text {name : String} (known : name ∈ names) : nameOf? (.text name) = some name := by
  simp [nameOf?, known]

theorem exists_name {key : Datum} (known : (nameOf? key).isNone = false) :
    ∃ name ∈ names, key = .text name := by
  cases key with
  | text name =>
      refine ⟨name, ?_, rfl⟩
      by_contra notName
      simp [nameOf?, notName] at known
  | _ => cases known

theorem unknownKeys_eq_nil_iff : unknownKeys entries = [] ↔ Known entries := by
  simp only [unknownKeys, List.filter_eq_nil_iff, List.forall_mem_map, Bool.not_eq_true]
  constructor
  · exact fun known entry member => exists_name (known entry member)
  · intro known entry member
    rcases known entry member with ⟨name, isName, isKey⟩
    rw [isKey, nameOf?_text isName]
    rfl

/-- What an entry gives fits the setting that it names. -/
def EntryFits (entry : Datum × Datum) : Prop :=
  ∃ name ∈ names, entry.1 = .text name ∧ ∃ result, Fits (standard name) entry.2 result

def EntryTooLarge (entry : Datum × Datum) : Prop :=
  ∃ name ∈ names, entry.1 = .text name ∧ TooLarge (standard name) entry.2

/-- The first value that does not fit is a whole number that is too large. -/
def LargeFirst : List (Datum × Datum) → Prop
  | [] => False
  | entry :: entries => EntryTooLarge entry ∨ (EntryFits entry ∧ LargeFirst entries)

/-- The settings `final` are what the entries give, and are those at the start otherwise. -/
structure Follows (start : Settings) (entries : List (Datum × Datum)) (final : Settings) : Prop where
  known : Known entries
  fits : ∀ name ∈ names, ∀ given, (.text name, given) ∈ entries →
    Fits (standard name) given (final.value name)
  others : ∀ name ∈ names, .text name ∉ entries.map (·.1) → final.value name = start.value name

/-- No two entries have the same key. -/
def KeysDiffer (entries : List (Datum × Datum)) : Prop :=
  (entries.map (·.1)).Pairwise fun left right => left.equal right = false

theorem equal_text (left right : String) : (Datum.text left).equal (.text right) = (left == right) := by
  simp [Datum.equal, Datum.numeric?, Datum.same]

theorem KeysDiffer.notMem {name : String} {given : Datum}
    (differ : KeysDiffer ((.text name, given) :: entries)) : .text name ∉ entries.map (·.1) := by
  intro again
  have different := (List.pairwise_cons.mp differ).1 _ again
  simp [equal_text] at different

theorem KeysDiffer.tail {entry : Datum × Datum} (differ : KeysDiffer (entry :: entries)) :
    KeysDiffer entries := (List.pairwise_cons.mp differ).2

/-- No later entry has the name of the first, so that what the first one gives is kept. -/
theorem Follows.cons {start next final : Settings} {name : String} {given : Datum}
    (isName : name ∈ names) (differ : KeysDiffer ((.text name, given) :: entries))
    (first : start.Gives name given next) (rest : next.Follows entries final) :
    start.Follows ((.text name, given) :: entries) final := by
  have notAgain := differ.notMem
  refine ⟨List.forall_mem_cons.mpr ⟨⟨name, isName, rfl⟩, rest.known⟩, ?_, ?_⟩
  · intro other isOther otherGiven member
    rcases List.mem_cons.mp member with same | later
    · cases same
      rw [rest.others name isName notAgain]
      exact first.fits
    · exact rest.fits other isOther otherGiven later
  · intro other isOther absent
    rw [List.map_cons, List.mem_cons, not_or] at absent
    rw [rest.others other isOther absent.2]
    exact first.others other isOther fun same => absent.1 (congrArg Datum.text same)

/-- The settings after one more entry. -/
def giving (settings : Settings) : Datum × Datum → Outcome Settings
  | (key, given) =>
      match nameOf? key with
      | some name => withValue settings name given
      | none => return settings

theorem entryFits_iff {name : String} {given : Datum} (isName : name ∈ names) :
    EntryFits (.text name, given) ↔ ∃ result, Fits (standard name) given result :=
  ⟨fun ⟨_, _, same, fits⟩ => by cases same; exact fits, fun fits => ⟨name, isName, rfl, fits⟩⟩

theorem entryTooLarge_iff {name : String} {given : Datum} (isName : name ∈ names) :
    EntryTooLarge (.text name, given) ↔ TooLarge (standard name) given :=
  ⟨fun ⟨_, _, same, large⟩ => by cases same; exact large, fun large => ⟨name, isName, rfl, large⟩⟩

/-- Entries are given one after the other, up to the first that does not fit. -/
theorem ends_giving (settings : Settings) (differ : KeysDiffer entries) (known : Known entries) :
    Ends (∀ entry ∈ entries, EntryFits entry) (LargeFirst entries) (settings.Follows entries)
      (entries.foldlM giving settings) := by
  induction entries generalizing settings with
  | nil => exact .returned ⟨nofun, nofun, fun _ _ _ => rfl⟩ nofun id
  | cons entry entries induction =>
      rcases entry with ⟨key, given⟩
      rcases known _ List.mem_cons_self with ⟨name, isName, rfl⟩
      have given_eq : giving settings (.text name, given) = settings.withValue name given := by
        rw [giving, nameOf?_text isName]
      rw [List.foldlM_cons, given_eq]
      have later : Known entries :=
        fun other member => known other (List.mem_cons_of_mem _ member)
      have ends := (ends_withValue settings isName given).bind fun _ next gives =>
        (induction next differ.tail later).mono fun _ final follows =>
          follows.cons isName differ gives
      refine ends.congr ?_ ?_
      · rw [List.forall_mem_cons, entryFits_iff isName]
      · rw [LargeFirst, entryTooLarge_iff isName, entryFits_iff isName]

theorem Follows.entryFits {start final : Settings} (follows : start.Follows entries final) :
    ∀ entry ∈ entries, EntryFits entry := by
  rintro ⟨key, given⟩ member
  rcases follows.known _ member with ⟨name, isName, rfl⟩
  exact ⟨name, isName, rfl, _, follows.fits name isName given member⟩

/-- Nothing is left open by what the settings follow. -/
theorem Follows.unique {start final other : Settings} (follows : start.Follows entries final)
    (otherFollows : start.Follows entries other) : final = other := by
  refine eq_of_values fun name isName => ?_
  by_cases given : Datum.text name ∈ entries.map (·.1)
  · rcases List.mem_map.mp given with ⟨⟨_, value⟩, member, rfl⟩
    exact (follows.fits name isName value member).unique (otherFollows.fits name isName value member)
  · rw [follows.others name isName given, otherFollows.others name isName given]

/-! ## Limits -/

/-- The limits of widths, sizes and workers. -/
structure WithinLimits (settings : Settings) : Prop where
  narrowest : 1 ≤ settings.minColumnWidth
  widest : settings.minColumnWidth ≤ settings.maxColumnWidth
  history : 1 ≤ settings.historySize
  cache : 1 ≤ settings.cacheSize
  sample : 1 ≤ settings.widthSampleRows
  workers : ∀ count, settings.workers = some count → 1 ≤ count

/-- A width that is at fault is too long to be written in the report. -/
def LongWidths (settings : Settings) : Prop :=
  let narrowest := settings.minColumnWidth
  let widest := settings.maxColumnWidth
  (narrowest < 1 ∧ (Datum.integer narrowest).hasLongInteger = true) ∨
    (1 ≤ narrowest ∧ widest < narrowest ∧
      ((Datum.integer narrowest).hasLongInteger = true ∨ (Datum.integer widest).hasLongInteger = true))

/-- Work that goes on unless a test holds, when it ends with a report that tells some data. -/
theorem Ends.unless {α : Type} {fits faulty test : Prop} [Decidable test] {right : α → Prop}
    {told : List Datum} {problem : SettingsProblem} {next : Unit → Outcome α}
    (goesOn : ¬ test → Ends fits faulty right (next ())) :
    Ends (¬ test ∧ fits) ((test ∧ told.any Datum.hasLongInteger = true) ∨ (¬ test ∧ faulty)) right
      (if test then failsTelling told problem >>= next else next ()) := by
  by_cases holds : test
  · rw [if_pos holds, failsTelling]
    split
    next long => exact .faulted (fun fit => fit.1 holds) (.inl ⟨holds, long⟩)
    next short =>
      refine .reported (fun fit => fit.1 holds) ?_
      rintro (⟨_, long⟩ | ⟨passed, _⟩)
      · exact short long
      · exact passed holds
  · rw [if_neg holds]
    refine (goesOn holds).congr ?_ ?_
    · exact ⟨fun fit => ⟨holds, fit⟩, fun fit => fit.2⟩
    · simp [holds]

theorem withinLimits_iff (settings : Settings) :
    settings.WithinLimits ↔ 1 ≤ settings.minColumnWidth ∧
      settings.minColumnWidth ≤ settings.maxColumnWidth ∧ (1 ≤ settings.historySize ∧
      1 ≤ settings.cacheSize ∧ 1 ≤ settings.widthSampleRows) ∧
      ∀ count, settings.workers = some count → 1 ≤ count :=
  ⟨fun limits => ⟨limits.narrowest, limits.widest, ⟨limits.history, limits.cache, limits.sample⟩,
    limits.workers⟩, fun ⟨narrowest, widest, ⟨history, cache, sample⟩, workers⟩ =>
    ⟨narrowest, widest, history, cache, sample, workers⟩⟩

theorem fails_eq_failsTelling {α : Type} (problem : SettingsProblem) :
    (fails problem : Outcome α) = failsTelling [] problem := rfl

theorem ends_checked (settings : Settings) :
    Ends settings.WithinLimits settings.LongWidths (· = settings) settings.checked := by
  apply Ends.congr
  case ends =>
    simp only [checked, fails_eq_failsTelling]
    exact Ends.unless fun _ => Ends.unless fun _ => Ends.unless fun _ => Ends.unless fun _ =>
      .returned rfl trivial id
  case sameFits =>
    rw [withinLimits_iff]
    cases settings.workers <;> simp [and_assoc]
  case sameFaulty => simp [LongWidths]

/-! ## Documents -/

theorem ofDocument_mapping (entries : List (Datum × Datum)) :
    ofDocument (.mapping entries) =
      ((sortedKeys (unknownKeys entries)).mapError fun clash => .fault (.incomparable clash)) >>=
        fun unknown =>
          if (!unknown.isEmpty) = true then
            failsTelling unknown (.unknownKeys (unknown.map (Datum.plainIn Datum.openStyle)) names) >>=
              fun (_ : Unit) => entries.foldlM giving {} >>= checked
          else entries.foldlM giving {} >>= checked := rfl

/-- What a document must be for an answer, which is settings or a report. -/
structure Answerable (entries : List (Datum × Datum)) : Prop where
  ordered : (unknownKeys entries).Pairwise OnOneScale
  written : ∀ key ∈ unknownKeys entries, key.hasLongInteger = false
  sized : unknownKeys entries = [] → ¬ LargeFirst entries
  widths : ∀ settings, Follows {} entries settings → ¬ settings.LongWidths

theorem ends_sortedKeys {keys : List Datum} (single : ∀ key ∈ keys, key.IsSingle) :
    Ends (keys.Pairwise OnOneScale) (¬ keys.Pairwise OnOneScale) (List.Perm · keys)
      ((sortedKeys keys).mapError fun clash => .fault (.incomparable clash)) := by
  have succeeds_iff := sortedKeys_succeeds_iff single
  cases sorted : sortedKeys keys with
  | ok result =>
      have onOneScale := succeeds_iff.mp ⟨result, sorted⟩
      have perm := insertKeys_perm sorted
      rw [List.append_nil] at perm
      exact .returned perm onOneScale (not_not.mpr onOneScale)
  | error clash =>
      have onMore : ¬ keys.Pairwise OnOneScale := fun onOneScale => by
        rcases succeeds_iff.mpr onOneScale with ⟨result, other⟩
        cases sorted.symm.trans other
      exact .faulted onMore onMore

theorem Follows.exists_iff {start final : Settings} (follows : start.Follows entries final)
    {holds : Settings → Prop} :
    holds final ↔ ∃ other, start.Follows entries other ∧ holds other := by
  constructor
  · exact fun isHeld => ⟨final, follows, isHeld⟩
  · rintro ⟨other, otherFollows, isHeld⟩
    rw [follows.unique otherFollows]
    exact isHeld

theorem ends_given (differ : KeysDiffer entries) (known : Known entries) :
    Ends
      ((∀ entry ∈ entries, EntryFits entry) ∧
        ∃ settings, Follows {} entries settings ∧ settings.WithinLimits)
      (LargeFirst entries ∨ (∀ entry ∈ entries, EntryFits entry) ∧
        ∃ settings, Follows {} entries settings ∧ settings.LongWidths)
      (fun settings => Follows {} entries settings ∧ settings.WithinLimits)
      (entries.foldlM giving {} >>= checked) := by
  refine (ends_giving {} differ known).bind fun _ settings follows => ?_
  refine Ends.congr ((ends_checked settings).mono ?_) follows.exists_iff follows.exists_iff
  rintro within _ rfl
  exact ⟨follows, within⟩

/-- Keys that name no setting are told in a report, in whichever order. -/
theorem ends_telling {fits faulty : Prop} {right : Settings → Prop} {unknown : List Datum}
    {problem : SettingsProblem} {next : Unit → Outcome Settings}
    (perm : List.Perm unknown (unknownKeys entries))
    (goesOn : unknownKeys entries = [] → Ends fits faulty right (next ())) :
    Ends (unknownKeys entries = [] ∧ fits)
      ((∃ key ∈ unknownKeys entries, key.hasLongInteger = true) ∨
        (unknownKeys entries = [] ∧ faulty)) right
      (if (!unknown.isEmpty) = true then failsTelling unknown problem >>= next else next ()) := by
  have none_iff : ¬ (!unknown.isEmpty) = true ↔ unknownKeys entries = [] := by
    rw [← List.isEmpty_iff, ← perm.isEmpty_eq]
    simp
  refine Ends.congr (Ends.unless fun none => goesOn (none_iff.mp none)) ?_ ?_
  · rw [none_iff]
  · rw [none_iff, List.any_eq_true]
    simp only [perm.mem_iff]
    constructor
    · rintro (⟨_, long⟩ | onwards)
      · exact .inl long
      · exact .inr onwards
    · rintro (⟨key, member, long⟩ | onwards)
      · refine .inl ⟨?_, key, member, long⟩
        cases unknown with
        | nil => cases perm.mem_iff.mpr member
        | cons first others => rfl
      · exact .inr onwards

theorem not_answerable_iff :
    ¬ (unknownKeys entries).Pairwise OnOneScale ∨ (unknownKeys entries).Pairwise OnOneScale ∧
      ((∃ key ∈ unknownKeys entries, key.hasLongInteger = true) ∨ unknownKeys entries = [] ∧
        (LargeFirst entries ∨ (∀ entry ∈ entries, EntryFits entry) ∧
          ∃ settings, Follows {} entries settings ∧ settings.LongWidths)) ↔ ¬ Answerable entries := by
  constructor
  · rintro (onMore | ⟨_, ⟨key, member, long⟩ | ⟨none, large | ⟨_, settings, follows, long⟩⟩⟩) answerable
    · exact onMore answerable.ordered
    · exact absurd (answerable.written key member) (ne_of_eq_of_ne long nofun)
    · exact answerable.sized none large
    · exact answerable.widths settings follows long
  · intro notAnswerable
    by_contra sound
    simp only [not_or, not_and, not_not, not_exists] at sound
    rcases sound with ⟨ordered, sound⟩
    rcases sound ordered with ⟨written, known⟩
    refine notAnswerable ⟨ordered, fun key member => ?_, fun none => (known none).1, ?_⟩
    · exact Bool.eq_false_of_not_eq_true (written key member)
    · intro settings follows
      exact (known (unknownKeys_eq_nil_iff.mpr follows.known)).2 follows.entryFits settings follows

theorem ends_ofDocument (single : ∀ entry ∈ entries, entry.1.IsSingle) (differ : KeysDiffer entries) :
    Ends (∃ settings, Follows {} entries settings ∧ settings.WithinLimits) (¬ Answerable entries)
      (fun settings => Follows {} entries settings ∧ settings.WithinLimits)
      (ofDocument (.mapping entries)) := by
  have singleUnknown : ∀ key ∈ unknownKeys entries, key.IsSingle := by
    intro key member
    rcases List.mem_map.mp (List.mem_of_mem_filter member) with ⟨entry, isEntry, rfl⟩
    exact single entry isEntry
  rw [ofDocument_mapping]
  refine Ends.congr ((ends_sortedKeys singleUnknown).bind fun _ unknown perm =>
    ends_telling perm fun none => ends_given differ (unknownKeys_eq_nil_iff.mp none)) ?_
    not_answerable_iff
  constructor
  · exact fun fit => fit.2.2.2
  · rintro ⟨settings, follows, within⟩
    have none := unknownKeys_eq_nil_iff.mpr follows.known
    refine ⟨?_, none, follows.entryFits, settings, follows, within⟩
    rw [none]
    exact .nil

/--
Settings are read from a mapping when they follow it and are within their limits.
Otherwise the document is reported, unless its keys cannot be put in order or
something of it cannot be told or is too large.
-/
theorem ofDocument_reads_iff (single : ∀ entry ∈ entries, entry.1.IsSingle)
    (differ : KeysDiffer entries) :
    (∀ settings, ofDocument (.mapping entries) = .ok settings ↔
      Follows {} entries settings ∧ settings.WithinLimits) ∧
    ((∃ settings, ofDocument (.mapping entries) = .ok settings) ∨
        (∃ problem, ofDocument (.mapping entries) = fails problem) ↔ Answerable entries) := by
  have ends := ends_ofDocument single differ
  constructor
  · exact fun settings => ends.eq_ok_iff fun other follows alsoFollows => follows.1.unique alsoFollows.1
  · exact ends.answers_iff.trans not_not

theorem ofDocument_reads_widths :
    let entries : List (Datum × Datum) :=
      [(.text "max_column_width", .integer 25), (.text "fuzzy_threshold", .integer 1),
        (.text "workers", .integer 2)]
    (∀ entry ∈ entries, entry.1.IsSingle) ∧ KeysDiffer entries ∧
      ofDocument (.mapping entries) =
        .ok { maxColumnWidth := 25, fuzzyThreshold := .ofInt 1, workers := some 2 } := by
  intro entries
  have single : ∀ entry ∈ entries, entry.1.IsSingle := by
    simp [entries, Datum.IsSingle]
  have differ : KeysDiffer entries := by
    simp [entries, KeysDiffer, equal_text]
  have one_lt (exponent : Nat) : 1 < (2 ^ 54 - 1) * 2 ^ exponent :=
    Nat.lt_of_lt_of_le (by decide) (Nat.le_mul_of_pos_right _ (Nat.two_pow_pos exponent))
  have small : (1 : Int).natAbs < Binary64.overflow := one_lt 970
  refine ⟨single, differ, ((ofDocument_reads_iff single differ).1 _).mpr ⟨⟨?_, ?_, ?_⟩, ?_⟩⟩
  · simp [entries, Known, names]
  · intro name isName given member
    simp only [entries, List.mem_cons, List.not_mem_nil, or_false, Prod.mk.injEq,
      Datum.text.injEq] at member
    rcases member with ⟨rfl, rfl⟩ | ⟨rfl, rfl⟩ | ⟨rfl, rfl⟩
    · exact .whole
    · simp only [standard, value]
      exact .widened small
    · exact .set
  · intro name isName absent
    simp only [names, List.mem_cons, List.not_mem_nil, or_false] at isName
    rcases isName with rfl | rfl | rfl | rfl | rfl | rfl | rfl | rfl | rfl | rfl | rfl
    all_goals first
      | (simp [entries] at absent; done)
      | rfl
  · refine ⟨by decide, by decide, by decide, by decide, by decide, ?_⟩
    rintro _ ⟨⟩
    decide

/-- A number and a text, neither of which names a setting, cannot be put in order. -/
theorem ofDocument_faults_mixedKeys :
    let document : Datum := .mapping [(.integer 1, .integer 2), (.text "a", .integer 3)]
    ofDocument document = .error (.fault (.incomparable (.kinds "str" "int"))) ∧
      ¬ ((∃ settings, ofDocument document = .ok settings) ∨
        ∃ problem, ofDocument document = fails problem) := by
  intro document
  have failed : ofDocument document = .error (.fault (.incomparable (.kinds "str" "int"))) := rfl
  refine ⟨failed, ?_⟩
  rw [failed]
  rintro (⟨_, ⟨⟩⟩ | ⟨_, ⟨⟩⟩)

end TableBrowser.Settings
