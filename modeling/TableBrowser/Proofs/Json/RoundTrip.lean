import TableBrowser.Proofs.Json.Entries
import TableBrowser.Proofs.Json.Numbers
/-!
# Values that are read from their JSON text

What a reader can give back is read from its text up to the end of it. Main
statement: `read_form`.
-/

namespace TableBrowser.Json

open Decimal (isDigit)

/-- A value that a reader can give back; a mapping names its values by distinct texts. -/
inductive Readable : Datum → Prop
  | null : Readable .null
  | boolean (value : Bool) : Readable (.boolean value)
  | integer {value : Int} (short : (Decimal.digits value.natAbs).length ≤ Numeral.digitLimit) :
      Readable (.integer value)
  | number (value : Binary64) : Readable (.number value)
  | text (value : String) : Readable (.text value)
  | list {items : List Datum} : (∀ item ∈ items, Readable item) → Readable (.list items)
  | mapping {entries : List (Datum × Datum)}
      (named : ∀ entry ∈ entries, ∃ name, entry.1 = .text name)
      (distinct : (entries.map (·.1)).Nodup) :
      (∀ entry ∈ entries, Readable entry.2) → Readable (.mapping entries)

/-- The characters that a value is written with. -/
def written (datum : Datum) : List Char := (form .given datum).toList

/-- Reading gives back the value that is written before what cannot continue it. -/
def Reads (datum : Datum) : Prop :=
  ∀ fuel rest, 2 * (written datum).length ≤ fuel → Stops rest →
    value fuel (written datum ++ rest) = .ok (datum, rest)

variable {rest : List Char}

theorem stops_nil : Stops [] := nofun

theorem stops_cons {char : Char} (isEnd : char = ',' ∨ char = ']' ∨ char = '\x7d') :
    Stops (char :: rest) := by
  intro other isOther
  cases isOther
  rcases isEnd with rfl | rfl | rfl <;> exact ⟨rfl, by simp⟩

theorem skipSpace_of_head {first : Char} (notSpace : isSpace first = false) :
    skipSpace (first :: rest) = first :: rest :=
  List.dropWhile_cons_of_neg (by simp [notSpace])

/-! ## Words and numbers -/

/-- Characters that begin with a digit, or with a digit after a minus. -/
def IsSigned (chars : List Char) : Prop :=
  ∃ (negative : Bool) (first : Char) (others : List Char),
    chars = (if negative then ['-'] else []) ++ first :: others ∧ isDigit first = true

theorem IsSigned.word?_eq_none {chars : List Char} (signed : IsSigned chars) :
    word? chars = none := by
  rcases signed with ⟨negative, first, others, rfl, digit⟩
  have ne {other : Char} (outside : other.toNat < 48 ∨ 57 < other.toNat) : other ≠ first :=
    fun same => Decimal.ne_of_isDigit digit outside same.symm
  have notN : 'n' ≠ first := ne (by decide)
  have notT : 't' ≠ first := ne (by decide)
  have notF : 'f' ≠ first := ne (by decide)
  have notBigN : 'N' ≠ first := ne (by decide)
  have notI : 'I' ≠ first := ne (by decide)
  have notMinus : '-' ≠ first := ne (by decide)
  cases negative <;> simp [word?, words, *]

theorem IsSigned.ne_cons {chars : List Char} (signed : IsSigned chars) {opening : Char}
    (outside : opening.toNat < 48 ∨ 57 < opening.toNat) (notMinus : opening ≠ '-')
    (others : List Char) : chars ≠ opening :: others := by
  rcases signed with ⟨negative, first, later, rfl, digit⟩
  intro same
  cases negative with
  | true => exact notMinus (List.cons.inj same).1.symm
  | false => exact Decimal.ne_of_isDigit digit outside (List.cons.inj same).1

theorem IsSigned.append {chars : List Char} (signed : IsSigned chars) (later : List Char) :
    IsSigned (chars ++ later) := by
  rcases signed with ⟨negative, first, others, rfl, digit⟩
  exact ⟨negative, first, others ++ later, by simp, digit⟩

theorem value_of_number {chars : List Char} (signed : IsSigned chars) {datum : Datum}
    (isNumber : number? chars = some (.ok (datum, rest))) {fuel : Nat} (enough : 0 < fuel) :
    value fuel chars = .ok (datum, rest) := by
  obtain ⟨fuel, rfl⟩ := Nat.exists_eq_add_one.mpr enough
  rw [value, signed.word?_eq_none]
  · simp only [isNumber]
    rfl
  · exact signed.ne_cons (by decide) (by decide)
  · exact signed.ne_cons (by decide) (by decide)
  · exact signed.ne_cons (by decide) (by decide)

theorem isSigned_integer (number : Int) : IsSigned (written (.integer number)) := by
  rcases Numeral.head?_digits number.natAbs with ⟨first, isFirst, digit⟩
  rcases List.head?_eq_some_iff.mp isFirst with ⟨others, isDigits⟩
  refine ⟨decide (number < 0), first, others, ?_, digit⟩
  simp only [written, form, Numeral.toList_intText, isDigits, decide_eq_true_eq]

theorem isSigned_finite (negative : Bool) {units : Nat}
    (representable : Binary64.Representable units) :
    IsSigned (written (.number (.finite negative units representable))) := by
  rcases Numeral.exists_spells jsonNumberLayout negative representable with
    ⟨chars, digits, exponent, isText, ⟨spells⟩, _⟩
  rcases spells.head? with ⟨first, isFirst, digit⟩
  rcases List.head?_eq_some_iff.mp isFirst with ⟨others, rfl⟩
  exact ⟨negative, first, others, isText, digit⟩

theorem IsSigned.length_pos {chars : List Char} (signed : IsSigned chars) : 0 < chars.length := by
  rcases signed with ⟨negative, first, others, rfl, _⟩
  simp

/-- What is read at the first step is read back. -/
theorem reads_word {datum : Datum} (notEmpty : 0 < (written datum).length)
    (isRead : ∀ fuel rest, value (fuel + 1) (written datum ++ rest) = .ok (datum, rest)) :
    Reads datum := by
  intro fuel rest enough _
  obtain ⟨fuel, rfl⟩ := Nat.exists_eq_add_one.mpr (show 0 < fuel by omega)
  exact isRead fuel rest

theorem reads_integer {number : Int}
    (short : (Decimal.digits number.natAbs).length ≤ Numeral.digitLimit) :
    Reads (.integer number) := by
  intro fuel rest enough stops
  have signed := isSigned_integer number
  have written := signed.length_pos
  exact value_of_number (signed.append rest) (number?_intText short stops) (by omega)

theorem reads_number (number : Binary64) : Reads (.number number) := by
  cases number with
  | nan => exact reads_word (by decide) fun _ _ => rfl
  | infinite negative =>
      cases negative with
      | true => exact reads_word (by decide) fun _ _ => rfl
      | false => exact reads_word (by decide) fun _ _ => rfl
  | finite negative units representable =>
      intro fuel rest enough stops
      have signed := isSigned_finite negative representable
      have written := signed.length_pos
      exact value_of_number (signed.append rest) (number?_numberText representable stops) (by omega)

/-! ## Text -/

theorem length_le_flatMap_escapeChar (chars : List Char) :
    chars.length ≤ (chars.flatMap escapeChar).length := by
  induction chars with
  | nil => exact Nat.le_refl 0
  | cons char chars induction =>
      have notEmpty : 0 < (escapeChar char).length := by
        rcases escapeChar_cases char with ⟨_, _, _, written⟩ | ⟨_, _, _, written⟩ | ⟨_, written⟩ |
          ⟨_, written⟩ <;> simp [written, escapeUnit]
      rw [List.flatMap_cons, List.length_append, List.length_cons]
      omega

theorem text_written (start : List Char) (value : String) :
    text start (value.toList.flatMap escapeChar ++ '"' :: rest) = .ok (value, rest) := by
  have few := length_le_flatMap_escapeChar value.toList
  obtain ⟨more, isFuel⟩ := Nat.exists_eq_add_of_le
    (show value.toList.length + 1 ≤ (value.toList.flatMap escapeChar ++ '"' :: rest).length + 1 by
      rw [List.length_append]
      omega)
  rw [text, isFuel, textChars_flatMap]
  change Except.ok (String.ofList value.toList, rest) = _
  rw [String.ofList_toList]

theorem reads_text (value : String) : Reads (.text value) := by
  intro fuel rest enough _
  have isWritten : written (.text value) = '"' :: (value.toList.flatMap escapeChar ++ ['"']) :=
    toList_textForm value
  rw [isWritten, List.length_cons] at enough
  obtain ⟨fuel, rfl⟩ := Nat.exists_eq_add_one.mpr (show 0 < fuel by omega)
  rw [isWritten, List.cons_append, List.append_assoc, Json.value, List.singleton_append,
    text_written]
  rfl

/-! ## Lists -/

/-- A value can begin with the character, which is no space, mark or end of a list. -/
structure Opens (first : Char) : Prop where
  notSpace : isSpace first = false
  notEnd : first ≠ ']'
  notMark : first ≠ '\uFEFF'

theorem IsSigned.exists_cons {chars : List Char} (signed : IsSigned chars) :
    ∃ first others, chars = first :: others ∧ Opens first := by
  rcases signed with ⟨negative, first, others, rfl, digit⟩
  cases negative with
  | true => exact ⟨'-', first :: others, rfl, rfl, by simp, by simp⟩
  | false =>
      have ne {other : Char} (outside : other.toNat < 48 ∨ 57 < other.toNat) : first ≠ other :=
        Decimal.ne_of_isDigit digit outside
      have notBlank : first ≠ ' ' := ne (by decide)
      have notTab : first ≠ '\t' := ne (by decide)
      have notFeed : first ≠ '\n' := ne (by decide)
      have notReturn : first ≠ '\r' := ne (by decide)
      exact ⟨first, others, rfl, by simp [isSpace, *], ne (by decide), ne (by decide)⟩

theorem Readable.exists_written {datum : Datum} (readable : Readable datum) :
    ∃ first others, written datum = first :: others ∧ Opens first := by
  cases readable with
  | null => exact ⟨'n', _, rfl, rfl, by simp, by simp⟩
  | boolean value =>
      cases value with
      | true => exact ⟨'t', _, rfl, rfl, by simp, by simp⟩
      | false => exact ⟨'f', _, rfl, rfl, by simp, by simp⟩
  | @integer value _ => exact (isSigned_integer value).exists_cons
  | number value =>
      cases value with
      | nan => exact ⟨'N', _, rfl, rfl, by simp, by simp⟩
      | infinite negative =>
          cases negative with
          | true => exact ⟨'-', _, rfl, rfl, by simp, by simp⟩
          | false => exact ⟨'I', _, rfl, rfl, by simp, by simp⟩
      | finite negative units representable =>
          exact (isSigned_finite negative representable).exists_cons
  | text value => exact ⟨'"', _, toList_textForm value, rfl, by simp, by simp⟩
  | @list items _ => exact ⟨'[', _, toList_listForm _, rfl, by simp, by simp⟩
  | @mapping entries _ _ _ => exact ⟨'\x7b', _, toList_mappingForm _, rfl, by simp, by simp⟩

theorem exists_intercalate (between : List Char) (first : Char) (others : List Char)
    (items : List (List Char)) :
    ∃ later, between.intercalate ((first :: others) :: items) = first :: later := by
  cases items with
  | nil => exact ⟨others, List.intercalate_singleton⟩
  | cons second items => exact ⟨_, List.intercalate_cons_cons⟩

theorem exists_items {items : List Datum} (readable : ∀ item ∈ items, Readable item)
    (notEmpty : items ≠ []) :
    ∃ first later, [',', ' '].intercalate (items.map written) = first :: later ∧
      Opens first := by
  rcases List.exists_cons_of_ne_nil notEmpty with ⟨item, items, rfl⟩
  rcases (readable item List.mem_cons_self).exists_written with ⟨first, others, isWritten, opens⟩
  rcases exists_intercalate [',', ' '] first others (items.map written) with ⟨later, isCons⟩
  exact ⟨first, later, by rw [List.map_cons, isWritten, isCons], opens⟩

theorem items_written {items : List Datum} (readable : ∀ item ∈ items, Readable item)
    (reads : ∀ item ∈ items, Reads item) (notEmpty : items ≠ []) (done : List Datum) (fuel : Nat)
    (rest : List Char)
    (enough : 2 * ([',', ' '].intercalate (items.map written)).length + 1 ≤ fuel) :
    Json.items fuel done ([',', ' '].intercalate (items.map written) ++ ']' :: rest) =
      .ok (.list (done.reverse ++ items), rest) := by
  induction items generalizing done fuel with
  | nil => exact absurd rfl notEmpty
  | cons item items induction =>
      obtain ⟨fuel, rfl⟩ := Nat.exists_eq_add_one.mpr (show 0 < fuel by omega)
      cases items with
      | nil =>
          rw [List.map_singleton, List.intercalate_singleton] at enough ⊢
          have isRead := reads item List.mem_cons_self fuel (']' :: rest) (by omega)
            (stops_cons (.inr (.inl rfl)))
          have stays : skipSpace (']' :: rest) = ']' :: rest := skipSpace_of_head rfl
          refine bind_eq_ok.mpr ⟨_, isRead, ?_⟩
          simp only [stays, List.reverse_cons]
      | cons second items =>
          have others : ∀ other ∈ second :: items, Readable other := fun other member =>
            readable other (List.mem_cons_of_mem item member)
          rcases exists_items others (by simp) with ⟨first, later, isCons, opens⟩
          rw [List.map_cons, List.map_cons, List.intercalate_cons_cons, ← List.map_cons] at enough ⊢
          rw [List.length_append, List.length_append] at enough
          have goesOn := induction others
            (fun other member => reads other (List.mem_cons_of_mem item member)) (by simp)
            (item :: done) fuel (by simp only [List.length_cons, List.length_nil] at enough; omega)
          have isRead := reads item List.mem_cons_self fuel
            (',' :: ' ' :: ([',', ' '].intercalate ((second :: items).map written) ++ ']' :: rest))
            (by omega) (stops_cons (.inl rfl))
          rw [isCons] at goesOn isRead ⊢
          have isComma (others : List Char) : skipSpace (',' :: others) = ',' :: others :=
            skipSpace_of_head rfl
          have atNext : skipSpace (' ' :: (first :: later ++ ']' :: rest)) =
              first :: later ++ ']' :: rest := skipSpace_of_head opens.notSpace
          rw [List.append_assoc, List.append_assoc]
          refine bind_eq_ok.mpr ⟨_, isRead, ?_⟩
          simp only [isComma, atNext, goesOn, List.reverse_cons, List.append_assoc,
            List.singleton_append]

theorem written_list (items : List Datum) :
    written (.list items) = '[' :: ([',', ' '].intercalate (items.map written) ++ [']']) := by
  rw [written, form, toList_listForm, itemForms_eq_map, List.map_map]
  rfl

theorem reads_list {items : List Datum} (readable : ∀ item ∈ items, Readable item)
    (reads : ∀ item ∈ items, Reads item) : Reads (.list items) := by
  intro fuel rest enough _
  rw [written_list, List.length_cons, List.length_append, List.length_singleton] at enough
  obtain ⟨fuel, rfl⟩ := Nat.exists_eq_add_one.mpr (show 0 < fuel by omega)
  rw [written_list, List.cons_append, List.append_assoc, List.singleton_append, value]
  by_cases isEmpty : items = []
  · subst isEmpty
    have stays : skipSpace (']' :: rest) = ']' :: rest := skipSpace_of_head rfl
    rw [List.map_nil, List.intercalate_nil, List.nil_append, stays]
    rfl
  · have isRead := items_written readable reads isEmpty [] fuel rest (by omega)
    rcases exists_items readable isEmpty with ⟨first, later, isCons, opens⟩
    rw [isCons, List.cons_append] at isRead ⊢
    rw [skipSpace_of_head opens.notSpace]
    split
    · next isEnd => exact absurd (List.cons.inj isEnd).1 opens.notEnd
    · exact isRead

/-! ## Mappings -/

/-- The characters that an entry is written with. -/
def writtenEntry (entry : Datum × Datum) : List Char :=
  (textForm (nameForm entry.1)).toList ++ ':' :: ' ' :: written entry.2

theorem written_mapping (entries : List (Datum × Datum)) :
    written (.mapping entries) =
      '\x7b' :: ([',', ' '].intercalate (entries.map writtenEntry) ++ ['\x7d']) := by
  have each : (((entryForms .given entries).map entryForm).map String.toList) =
      entries.map writtenEntry := by
    rw [entryForms_eq_map, List.map_map, List.map_map]
    refine List.map_congr_left fun entry _ => ?_
    exact toList_entryForm _
  rw [written, form, EntryOrder.arrange, toList_mappingForm, each]
  rfl

theorem put_of_notMem {entries : List (Datum × Datum)} {key : Datum}
    (absent : key ∉ entries.map (·.1)) (value : Datum) :
    Datum.put entries key value = entries ++ [(key, value)] := by
  refine if_neg fun isAny => absent ?_
  rcases List.any_eq_true.mp isAny with ⟨entry, member, isKey⟩
  exact List.mem_map.mpr ⟨entry, member, of_decide_eq_true isKey⟩

/-- What is read behind a member: the end of the object, or another one. -/
def membersAfter (fuel : Nat) (done : List (Datum × Datum)) (rest : List Char) :
    Except Stop (Parsed Datum) :=
  match skipSpace rest with
  | '\x7d' :: rest => .ok (.mapping done, rest)
  | ',' :: rest => members fuel done (skipSpace rest)
  | rest => .error (.malformed .expectedComma rest)

/-- Reading an entry up to its value. -/
theorem members_entry {name : String} {item : Datum} (readable : Readable item) (reads : Reads item)
    {fuel : Nat} (enough : 2 * (written item).length ≤ fuel) (done : List (Datum × Datum))
    (stops : Stops rest) :
    members (fuel + 1) done (writtenEntry (.text name, item) ++ rest) =
      membersAfter fuel (Datum.put done (.text name) item) rest := by
  have isEntry : writtenEntry (.text name, item) ++ rest =
      '"' :: (name.toList.flatMap escapeChar ++ '"' :: (':' :: ' ' :: (written item ++ rest))) := by
    rw [writtenEntry, nameForm, toList_textForm]
    simp
  have isColon (others : List Char) : skipSpace (':' :: others) = ':' :: others :=
    skipSpace_of_head rfl
  rcases readable.exists_written with ⟨first, others, isWritten, opens⟩
  have atValue : skipSpace (' ' :: (written item ++ rest)) = written item ++ rest := by
    rw [isWritten]
    exact skipSpace_of_head opens.notSpace
  rw [isEntry, members, text_written]
  simp only [bind, Except.bind, isColon, atValue, reads fuel rest enough stops]
  rfl

theorem exists_writtenEntry (entry : Datum × Datum) :
    ∃ later, writtenEntry entry = '"' :: later :=
  ⟨_, by rw [writtenEntry, toList_textForm]; rfl⟩

theorem members_written {entries : List (Datum × Datum)}
    (named : ∀ entry ∈ entries, ∃ name, entry.1 = .text name)
    (readable : ∀ entry ∈ entries, Readable entry.2) (reads : ∀ entry ∈ entries, Reads entry.2)
    (notEmpty : entries ≠ []) (done : List (Datum × Datum))
    (distinct : ((done ++ entries).map (·.1)).Nodup) (fuel : Nat) (rest : List Char)
    (enough : 2 * ([',', ' '].intercalate (entries.map writtenEntry)).length + 1 ≤ fuel) :
    members fuel done ([',', ' '].intercalate (entries.map writtenEntry) ++ '\x7d' :: rest) =
      .ok (.mapping (done ++ entries), rest) := by
  induction entries generalizing done fuel with
  | nil => exact absurd rfl notEmpty
  | cons entry entries induction =>
      obtain ⟨fuel, rfl⟩ := Nat.exists_eq_add_one.mpr (show 0 < fuel by omega)
      rcases entry with ⟨key, item⟩
      obtain ⟨name, rfl⟩ := named _ List.mem_cons_self
      have isReadable : Readable item := readable (.text name, item) List.mem_cons_self
      have isRead : Reads item := reads (.text name, item) List.mem_cons_self
      have absent : Datum.text name ∉ done.map (·.1) := by
        rw [List.map_append, List.map_cons] at distinct
        exact fun member => (List.nodup_append.mp distinct).2.2 _ member _ List.mem_cons_self rfl
      have few : (written item).length ≤ (writtenEntry (.text name, item)).length := by
        simp only [writtenEntry, List.length_append, List.length_cons]
        omega
      cases entries with
      | nil =>
          rw [List.map_singleton, List.intercalate_singleton] at enough ⊢
          rw [members_entry isReadable isRead (by omega) done (stops_cons (.inr (.inr rfl))),
            put_of_notMem absent]
          rfl
      | cons second entries =>
          have isComma (others : List Char) : skipSpace (',' :: others) = ',' :: others :=
            skipSpace_of_head rfl
          rw [List.map_cons, List.map_cons, List.intercalate_cons_cons, ← List.map_cons] at enough ⊢
          rw [List.length_append, List.length_append] at enough
          have goesOn := induction
            (fun other member => named other (List.mem_cons_of_mem _ member))
            (fun other member => readable other (List.mem_cons_of_mem _ member))
            (fun other member => reads other (List.mem_cons_of_mem _ member)) (by simp)
            (done ++ [(.text name, item)]) (by simpa using distinct) fuel
            (by simp only [List.length_cons, List.length_nil] at enough; omega)
          rcases exists_writtenEntry second with ⟨others, isSecond⟩
          rcases exists_intercalate [',', ' '] '"' others (entries.map writtenEntry) with
            ⟨later, isCons⟩
          have isFollowing : [',', ' '].intercalate ((second :: entries).map writtenEntry) =
              '"' :: later := by
            rw [List.map_cons, isSecond, isCons]
          rw [isFollowing] at goesOn ⊢
          have atNext : skipSpace (' ' :: ('"' :: later ++ '\x7d' :: rest)) =
              '"' :: later ++ '\x7d' :: rest := rfl
          have isText : [',', ' '] ++ ('"' :: later ++ '\x7d' :: rest) =
              ',' :: ' ' :: ('"' :: later ++ '\x7d' :: rest) := rfl
          rw [List.append_assoc, List.append_assoc, isText,
            members_entry isReadable isRead (by omega) done (stops_cons (.inl rfl)),
            put_of_notMem absent]
          simp only [List.cons_append] at atNext goesOn ⊢
          simp only [membersAfter, isComma, atNext, goesOn]
          simp

theorem reads_mapping {entries : List (Datum × Datum)}
    (named : ∀ entry ∈ entries, ∃ name, entry.1 = .text name)
    (distinct : (entries.map (·.1)).Nodup) (readable : ∀ entry ∈ entries, Readable entry.2)
    (reads : ∀ entry ∈ entries, Reads entry.2) : Reads (.mapping entries) := by
  intro fuel rest enough _
  rw [written_mapping, List.length_cons, List.length_append, List.length_singleton] at enough
  obtain ⟨fuel, rfl⟩ := Nat.exists_eq_add_one.mpr (show 0 < fuel by omega)
  rw [written_mapping, List.cons_append, List.append_assoc, List.singleton_append, value]
  by_cases isEmpty : entries = []
  · subst isEmpty
    have stays : skipSpace ('\x7d' :: rest) = '\x7d' :: rest := skipSpace_of_head rfl
    rw [List.map_nil, List.intercalate_nil, List.nil_append, stays]
    rfl
  · have isRead := members_written named readable reads isEmpty [] distinct fuel rest (by omega)
    rcases List.exists_cons_of_ne_nil isEmpty with ⟨entry, others, rfl⟩
    rcases exists_writtenEntry entry with ⟨later, isEntry⟩
    rcases exists_intercalate [',', ' '] '"' later (others.map writtenEntry) with ⟨inner, isCons⟩
    rw [List.map_cons, isEntry, isCons, List.cons_append] at isRead ⊢
    have stays : skipSpace ('"' :: (inner ++ '\x7d' :: rest)) = '"' :: (inner ++ '\x7d' :: rest) :=
      skipSpace_of_head rfl
    rw [stays]
    exact isRead

/-! ## Whole documents -/

theorem Readable.reads {datum : Datum} (readable : Readable datum) : Reads datum := by
  induction readable with
  | null => exact reads_word (by decide) fun _ _ => rfl
  | boolean value =>
      cases value with
      | true => exact reads_word (by decide) fun _ _ => rfl
      | false => exact reads_word (by decide) fun _ _ => rfl
  | integer short => exact reads_integer short
  | number value => exact reads_number value
  | text value => exact reads_text value
  | list readable reads => exact reads_list readable reads
  | mapping named distinct readable reads => exact reads_mapping named distinct readable reads

/-- A value that a reader can give back is read from its JSON text. -/
theorem read_form {datum : Datum} (readable : Readable datum) :
    Json.read (form .given datum) = .ok datum := by
  rcases readable.exists_written with ⟨first, others, isWritten, opens⟩
  have notMark : (written datum).head? ≠ some '\uFEFF' := by
    rw [isWritten]
    exact fun isMark => opens.notMark (Option.some.inj isMark)
  have isRead := readable.reads (2 * (written datum).length + 2) [] (by omega) stops_nil
  rw [List.append_nil] at isRead
  have starts : skipSpace (written datum) = written datum := by
    rw [isWritten]
    exact skipSpace_of_head opens.notSpace
  have isDocument : readChars (written datum) = .ok datum := by
    rw [readChars, if_neg notMark, starts, isRead]
    rfl
  rw [Json.read]
  exact mapError_eq_ok.mpr isDocument

end TableBrowser.Json
