import TableBrowser.Proofs.Json.RoundTrip
/-!
# Values that have been read from JSON

Whatever a reader gives can be written and read again. Main statement:
`readable_of_read`.
-/

namespace TableBrowser.Json

/-! ## Numbers and words -/

theorem readable_whole {whole : List Char} (short : ¬Numeral.digitLimit < whole.length) {value : Int}
    (isValue : value.natAbs = (Decimal.value? whole).getD 0) : Readable (.integer value) := by
  refine .integer ?_
  rw [isValue]
  cases found : Decimal.value? whole with
  | none => simp [Decimal.digits, Numeral.digitLimit]
  | some value => exact Decimal.length_digits_of_value? found (Nat.not_lt.mp short) (by decide)

theorem readable_of_number? {chars rest : List Char} {datum : Datum}
    (isNumber : number? chars = some (.ok (datum, rest))) : Readable datum := by
  unfold number? at isNumber
  split at isNumber
  simp only at isNumber
  -- Whichever parts the number has, it is a whole number that is short enough, or another number.
  split_ifs at isNumber
  all_goals cases isNumber
  all_goals first
    | exact .number _
    | exact readable_whole ‹_› (by simp)

theorem readable_of_word? {chars rest : List Char} {datum : Datum}
    (isWord : word? chars = some (datum, rest)) : Readable datum := by
  rcases Option.map_eq_some_iff.mp isWord with ⟨⟨word, value⟩, found, made⟩
  cases made
  have member := List.mem_of_find?_eq_some found
  simp only [words, List.mem_cons, Prod.mk.injEq, List.not_mem_nil, or_false] at member
  rcases member with ⟨_, rfl⟩ | ⟨_, rfl⟩ | ⟨_, rfl⟩ | ⟨_, rfl⟩ | ⟨_, rfl⟩ | ⟨_, rfl⟩
  · exact .null
  · exact .boolean true
  · exact .boolean false
  · exact .number _
  · exact .number _
  · exact .number _

/-! ## Entries -/

/-- Entries of a mapping that a reader can give back. -/
structure ReadableEntries (entries : List (Datum × Datum)) : Prop where
  named : ∀ entry ∈ entries, ∃ name, entry.1 = .text name
  distinct : (entries.map (·.1)).Nodup
  readable : ∀ entry ∈ entries, Readable entry.2

theorem readableEntries_nil : ReadableEntries [] :=
  ⟨List.forall_mem_nil _, List.nodup_nil, List.forall_mem_nil _⟩

theorem ReadableEntries.put {entries : List (Datum × Datum)} (readable : ReadableEntries entries)
    (name : String) {value : Datum} (isReadable : Readable value) :
    ReadableEntries (Datum.put entries (.text name) value) := by
  have isEntry {entry : Datum × Datum}
      (member : entry ∈ Datum.put entries (.text name) value) :
      entry = (.text name, value) ∨ entry ∈ entries := by
    unfold Datum.put at member
    split at member
    · rcases List.mem_map.mp member with ⟨given, isGiven, rfl⟩
      split
      · exact .inl rfl
      · exact .inr isGiven
    · exact (List.mem_append.mp member).symm.imp_left List.mem_singleton.mp
  refine ⟨?_, ?_, ?_⟩
  · intro entry member
    rcases isEntry member with rfl | given
    · exact ⟨name, rfl⟩
    · exact readable.named entry given
  · unfold Datum.put
    split
    · have sameKeys : (entries.map fun entry =>
          if entry.1 = .text name then (.text name, value) else entry).map (·.1) =
            entries.map (·.1) := by
        rw [List.map_map]
        refine List.map_congr_left fun entry _ => ?_
        rw [Function.comp_apply]
        split
        · next isKey => exact isKey.symm
        · rfl
      rw [sameKeys]
      exact readable.distinct
    · next isNew =>
      rw [List.map_append, List.map_singleton]
      refine List.nodup_append.mpr ⟨readable.distinct, by simp, ?_⟩
      rintro key isKey other isOther rfl
      rw [List.mem_singleton.mp isOther] at isKey
      rcases List.mem_map.mp isKey with ⟨entry, member, same⟩
      exact isNew (List.any_eq_true.mpr ⟨entry, member, decide_eq_true same⟩)
  · intro entry member
    rcases isEntry member with rfl | given
    · exact isReadable
    · exact readable.readable entry given

/-! ## Values -/

/-- With some fuel, whatever is read can be given back. -/
structure GivesReadable (fuel : Nat) : Prop where
  value : ∀ chars datum rest, value fuel chars = .ok (datum, rest) → Readable datum
  items : ∀ done chars datum rest, (∀ item ∈ done, Readable item) →
    items fuel done chars = .ok (datum, rest) → Readable datum
  members : ∀ done chars datum rest, ReadableEntries done →
    members fuel done chars = .ok (datum, rest) → Readable datum

namespace GivesReadable

variable {fuel : Nat} (gives : GivesReadable fuel) {chars rest : List Char} {datum : Datum}

include gives

theorem value_succ (isRead : Json.value (fuel + 1) chars = .ok (datum, rest)) : Readable datum := by
  unfold Json.value at isRead
  split at isRead
  · next others =>
    cases isText : text ('"' :: others) others with
    | error stop => rw [isText] at isRead; cases isRead
    | ok result => rw [isText] at isRead; cases isRead; exact .text result.1
  · split at isRead
    · cases isRead
      exact .mapping readableEntries_nil.named readableEntries_nil.distinct
        readableEntries_nil.readable
    · exact gives.members [] _ _ _ readableEntries_nil isRead
  · split at isRead
    · cases isRead
      exact .list (List.forall_mem_nil _)
    · exact gives.items [] _ _ _ (List.forall_mem_nil _) isRead
  · split at isRead
    · next found isWord =>
      cases isRead
      exact readable_of_word? isWord
    · cases isNumber : number? chars with
      | none => rw [isNumber] at isRead; cases isRead
      | some result =>
          rw [isNumber] at isRead
          exact readable_of_number? (isNumber.trans (congrArg some isRead))

theorem items_succ {done : List Datum} (readable : ∀ item ∈ done, Readable item)
    (isRead : Json.items (fuel + 1) done chars = .ok (datum, rest)) : Readable datum := by
  rcases bind_eq_ok.mp isRead with ⟨⟨item, after⟩, isItem, goesOn⟩
  have all : ∀ other ∈ item :: done, Readable other := by
    intro other member
    rcases List.mem_cons.mp member with rfl | later
    · exact gives.value _ _ _ isItem
    · exact readable other later
  simp only at goesOn
  split at goesOn
  · cases goesOn
    exact .list fun other member => all other (List.mem_reverse.mp member)
  · exact gives.items _ _ _ _ all goesOn
  · cases goesOn

theorem members_succ {done : List (Datum × Datum)} (readable : ReadableEntries done)
    (isRead : Json.members (fuel + 1) done chars = .ok (datum, rest)) : Readable datum := by
  unfold Json.members at isRead
  split at isRead
  · rcases bind_eq_ok.mp isRead with ⟨⟨name, after⟩, _, goesOn⟩
    simp only at goesOn
    split at goesOn
    · rcases bind_eq_ok.mp goesOn with ⟨⟨item, after⟩, isItem, goesOn⟩
      have all := readable.put name (gives.value _ _ _ isItem)
      simp only at goesOn
      split at goesOn
      · cases goesOn
        exact .mapping all.named all.distinct all.readable
      · exact gives.members _ _ _ _ all goesOn
      · cases goesOn
    · cases goesOn
  · cases isRead

end GivesReadable

theorem givesReadable (fuel : Nat) : GivesReadable fuel := by
  induction fuel with
  | zero => exact ⟨nofun, nofun, nofun⟩
  | succ fuel gives =>
      exact {
        value := fun _ _ _ isRead => gives.value_succ isRead
        items := fun _ _ _ _ readable isRead => gives.items_succ readable isRead
        members := fun _ _ _ _ readable isRead => gives.members_succ readable isRead }

/-- What is read from JSON can be given back. -/
theorem readable_of_read {text : String} {datum : Datum} (isRead : Json.read text = .ok datum) :
    Readable datum := by
  have isRead := mapError_eq_ok.mp isRead
  unfold readChars at isRead
  split at isRead
  · cases isRead
  · rcases bind_eq_ok.mp isRead with ⟨⟨value, after⟩, isValue, ended⟩
    simp only at ended
    split at ended
    · cases ended
      exact (givesReadable _).value _ _ _ isValue
    · cases ended

end TableBrowser.Json
