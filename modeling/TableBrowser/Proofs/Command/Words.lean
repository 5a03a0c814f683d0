import TableBrowser.Proofs.Outcome
import TableBrowser.Proofs.Table.Inference
import TableBrowser.Command.Line
/-!
# Words and the rest of a line

A line that starts with a verb is split like what follows the verb, and what
follows it is the rest of the line. Main statement: text is left as it is when
the quotes around it are taken off exactly when it is not one quoted word, since
the one word of a quoted text is shorter than the text.
-/

namespace TableBrowser

namespace Words

/-! ## Outside of quotes -/

/-- A character that escapes the next one or opens quotes. -/
def IsMark (char : Char) : Prop := char = '\\' ∨ isQuote char

instance : DecidablePred IsMark := fun _ => inferInstanceAs (Decidable (_ ∨ _))

theorem not_isMark_of {holds : Char → Bool}
    (none : holds '\\' = false ∧ holds '\'' = false ∧ holds '"' = false) {char : Char}
    (isHeld : holds char) : ¬ IsMark char := by
  simp only [IsMark, isQuote, Bool.or_eq_true, decide_eq_true_iff]
  rintro (rfl | rfl | rfl)
  · exact Bool.false_ne_true (none.1.symm.trans isHeld)
  · exact Bool.false_ne_true (none.2.1.symm.trans isHeld)
  · exact Bool.false_ne_true (none.2.2.symm.trans isHeld)

theorem placeAfter_of_plain {char : Char} (plain : ¬ IsMark char) : placeAfter char = .inWord := by
  simp only [IsMark, isQuote, Bool.or_eq_true, decide_eq_true_iff, not_or] at plain
  rw [placeAfter, if_neg plain.1, Quote.char, if_neg plain.2.1, Quote.char, if_neg plain.2.2]

theorem contribution_of_plain {char : Char} (plain : ¬ IsMark char) : contribution char = [char] :=
  if_pos (placeAfter_of_plain plain)

theorem length_contribution_le (char : Char) : (contribution char).length ≤ 1 := by
  unfold contribution
  split
  · exact Nat.le_refl _
  · exact Nat.zero_le _

/-- Outside of quotes the characters can be split into words, whatever stands before them. -/
def Splits (chars : List Char) : Prop :=
  (∀ word, ∃ words, wordsFrom .between word chars = .ok words) ∧
    ∀ word, ∃ words, wordsFrom .inWord word chars = .ok words

theorem Splits.nil : Splits [] := ⟨fun _ => ⟨_, rfl⟩, fun _ => ⟨_, rfl⟩⟩

theorem splits_cons {char : Char} {rest : List Char} (noSeparator : isSeparator char = false)
    (later : ∀ word, ∃ words, wordsFrom (placeAfter char) word rest = .ok words) :
    Splits (char :: rest) := by
  constructor
  · intro word
    rw [wordsFrom, noSeparator]
    exact later _
  · intro word
    rw [wordsFrom, noSeparator]
    exact later _

theorem Splits.cons {char : Char} {rest : List Char} (plain : ¬ IsMark char) (splits : Splits rest) :
    Splits (char :: rest) := by
  cases isBetween : isSeparator char with
  | false =>
      refine splits_cons isBetween fun word => ?_
      rw [placeAfter_of_plain plain]
      exact splits.2 word
  | true =>
      rcases splits.1 [] with ⟨words, split⟩
      constructor
      · intro word
        exact ⟨words, by rw [wordsFrom, isBetween, if_pos rfl, split]⟩
      · intro word
        exact ⟨String.ofList word :: words, by rw [wordsFrom, isBetween, if_pos rfl, split]; rfl⟩

theorem Splits.append {chars rest : List Char} (plain : ∀ char ∈ chars, ¬ IsMark char)
    (splits : Splits rest) : Splits (chars ++ rest) := by
  induction chars with
  | nil => exact splits
  | cons char chars induction =>
      rw [List.forall_mem_cons] at plain
      exact (induction plain.2).cons plain.1

/-- A backslash takes the next character, whatever it is. -/
theorem Splits.cons_escaped {rest : List Char} (splits : Splits rest) (char : Char) :
    Splits ('\\' :: char :: rest) :=
  splits_cons rfl fun word => splits.2 (word ++ [char])

theorem splits_cons_quote {quote : Quote} {rest : List Char}
    (ends : ∀ word, ∃ words, wordsFrom (.inQuotes quote) word rest = .ok words) :
    Splits (quote.char :: rest) := by
  cases quote with
  | single => exact splits_cons rfl ends
  | double => exact splits_cons rfl ends

theorem Splits.split {text : String} (splits : Splits text.toList) :
    ∃ words, Words.split text = .ok words := by
  rcases splits.1 [] with ⟨words, split⟩
  exact ⟨words, by rw [Words.split, split]; rfl⟩

theorem split_eq_ok {text : String} {words : List String} :
    Words.split text = .ok words ↔ wordsFrom .between [] text.toList = .ok words := by
  unfold Words.split
  cases wordsFrom .between [] text.toList with
  | ok found => exact ⟨fun same => by cases same; rfl, fun same => by cases same; rfl⟩
  | error problem => exact ⟨nofun, nofun⟩

/-! ## A word and the rest -/

/-- Text that is one word as it is written. -/
structure IsWord (text : String) : Prop where
  some : text.toList ≠ []
  plain : ∀ char ∈ text.toList, ¬ IsMark char
  visible : ∀ char ∈ text.toList, Text.isBlank char = false

theorem isWord_of_all {text : String} (some : text.toList ≠ [])
    (all : text.toList.all fun char => !decide (IsMark char) && !Text.isBlank char) :
    IsWord text := by
  simp only [List.all_eq_true, Bool.and_eq_true, Bool.not_eq_true', decide_eq_false_iff_not] at all
  exact ⟨some, fun char member => (all char member).1, fun char member => (all char member).2⟩

theorem IsWord.append {left right : String} (first : IsWord left) (second : IsWord right) :
    IsWord (left ++ right) where
  some := by
    rw [String.toList_append]
    exact List.append_ne_nil_of_left_ne_nil first.some _
  plain := by
    rw [String.toList_append]
    exact List.forall_mem_append.mpr ⟨first.plain, second.plain⟩
  visible := by
    rw [String.toList_append]
    exact List.forall_mem_append.mpr ⟨first.visible, second.visible⟩

theorem isSeparator_of_visible {char : Char} (visible : Text.isBlank char = false) :
    isSeparator char = false := by
  by_contra separates
  simp only [isSeparator, Bool.not_eq_false, List.contains_iff_mem, List.mem_cons,
    List.not_mem_nil, or_false] at separates
  rcases separates with rfl | rfl | rfl | rfl <;> cases visible

theorem wordsFrom_inWord_append {word chars : List Char} (plain : ∀ char ∈ chars, ¬ IsMark char)
    (visible : ∀ char ∈ chars, Text.isBlank char = false) (rest : List Char) :
    wordsFrom .inWord word (chars ++ rest) = wordsFrom .inWord (word ++ chars) rest := by
  induction chars generalizing word with
  | nil => rw [List.nil_append, List.append_nil]
  | cons char chars induction =>
      rw [List.forall_mem_cons] at plain visible
      rw [List.cons_append, wordsFrom, isSeparator_of_visible visible.1, if_neg Bool.false_ne_true,
        placeAfter_of_plain plain.1, contribution_of_plain plain.1, induction plain.2 visible.2,
        List.append_assoc, List.singleton_append]

/-- A word is read as it is, and what follows it may still belong to it. -/
theorem wordsFrom_word {text : String} (isWord : IsWord text) (rest : List Char) :
    wordsFrom .between [] (text.toList ++ rest) = wordsFrom .inWord text.toList rest := by
  cases isText : text.toList with
  | nil => exact absurd isText isWord.some
  | cons first others =>
      have plain := isWord.plain
      have visible := isWord.visible
      rw [isText, List.forall_mem_cons] at plain visible
      rw [List.cons_append, wordsFrom, isSeparator_of_visible visible.1, if_neg Bool.false_ne_true,
        placeAfter_of_plain plain.1, contribution_of_plain plain.1,
        wordsFrom_inWord_append plain.2 visible.2, List.singleton_append]

theorem IsWord.split {text : String} (isWord : IsWord text) : Words.split text = .ok [text] := by
  have read := wordsFrom_word isWord []
  rw [List.append_nil] at read
  rw [split_eq_ok, read, wordsFrom, String.ofList_toList]

/-- The first word of a line is a word of its own, and the others are those of the rest. -/
theorem split_cons {name : String} (isWord : IsWord name) (rest : String) :
    Words.split (name ++ " " ++ rest) = (Words.split rest).map (name :: ·) := by
  have chars : (name ++ " " ++ rest).toList = name.toList ++ ' ' :: rest.toList := by simp
  have found : wordsFrom .between [] (name ++ " " ++ rest).toList =
      (wordsFrom .between [] rest.toList).map (name :: ·) := by
    rw [chars, wordsFrom_word isWord, wordsFrom, if_pos (by rfl), String.ofList_toList]
    cases wordsFrom .between [] rest.toList <;> rfl
  unfold Words.split
  rw [found]
  cases wordsFrom .between [] rest.toList <;> rfl

/-! ## Plain starts -/

/-- Characters that start others and neither escape nor open quotes. -/
def StartsPlain (start chars : List Char) : Prop := start <+: chars ∧ ∀ char ∈ start, ¬ IsMark char

theorem startsPlain_takeWhile {holds : Char → Bool} (plain : ∀ char, holds char → ¬ IsMark char)
    (chars : List Char) : StartsPlain (chars.takeWhile holds) chars :=
  ⟨List.takeWhile_prefix holds, fun char member => plain char (List.mem_takeWhile_imp member)⟩

theorem StartsPlain.splits {start chars : List Char} (starts : StartsPlain start chars)
    (splits : Splits (chars.drop start.length)) : Splits chars := by
  rcases starts with ⟨⟨rest, rfl⟩, plain⟩
  rw [List.drop_left] at splits
  exact splits.append plain

/-! ## Quotes around a text -/

/-- The length of what has been read and is not in the word yet. -/
def Place.pending : Place → Nat
  | .escaped true => 1
  | _ => 0

theorem pending_placeAfter (char : Char) : (placeAfter char).pending = 0 := by
  unfold placeAfter
  repeat' split
  all_goals rfl

/-- The words are no longer than what has been read for them and what is left to read. -/
theorem length_words_le {place : Place} {word chars : List Char} {words : List String}
    (found : wordsFrom place word chars = .ok words) :
    (words.map (·.toList.length)).sum ≤ word.length + chars.length + place.pending := by
  -- A backslash in double quotes is kept only when the next character is read, hence `pending`.
  fun_induction wordsFrom place word chars generalizing words with
  | case1 =>
      cases found
      exact Nat.zero_le _
  | case2 word =>
      cases found
      simp
  | case3 => cases found
  | case4 => cases found
  | case5 word char rest _ induction =>
      have later := induction found
      simp only [List.length_nil, List.length_cons, Place.pending] at later ⊢
      omega
  | case6 word char rest _ induction =>
      have later := induction found
      have added := length_contribution_le char
      rw [pending_placeAfter] at later
      simp only [List.length_cons, Place.pending]
      omega
  | case7 word char rest _ induction =>
      rcases bind_eq_ok.mp found with ⟨others, areOthers, made⟩
      cases made
      have later := induction areOthers
      simp only [List.map_cons, List.sum_cons, String.toList_ofList, List.length_nil,
        List.length_cons, Place.pending] at later ⊢
      omega
  | case8 word char rest _ induction =>
      have later := induction found
      have added := length_contribution_le char
      rw [pending_placeAfter, List.length_append] at later
      simp only [List.length_cons, Place.pending]
      omega
  | case9 quote word rest induction =>
      have later := induction found
      simp only [List.length_cons, Place.pending] at later ⊢
      omega
  | case10 quote word char rest _ _ induction =>
      have later := induction found
      simp only [List.length_cons, Place.pending] at later ⊢
      omega
  | case11 quote word char rest _ _ induction =>
      have later := induction found
      simp only [List.length_append, List.length_cons, List.length_nil, Place.pending] at later ⊢
      omega
  | case12 word char rest induction =>
      have later := induction found
      simp only [List.length_append, List.length_cons, List.length_nil, Place.pending] at later ⊢
      omega
  | case13 word char rest kept =>
      rename_i induction
      have later := induction found
      have added : kept.length ≤ 2 := by
        simp only [kept]
        split <;> simp
      simp only [List.length_append, List.length_cons, Place.pending] at later ⊢
      omega

/-- The text starts and ends with the same quote. -/
def IsEnclosed (text : String) : Prop :=
  2 ≤ text.toList.length ∧ ∃ quote, isQuote quote ∧ text.toList.head? = some quote ∧
    text.toList.getLast? = some quote

/-- Quotes around a text are no part of its words. -/
theorem length_words_lt {text : String} {words : List String} (enclosed : IsEnclosed text)
    (split : Words.split text = .ok words) :
    (words.map (·.toList.length)).sum < text.toList.length := by
  rcases enclosed with ⟨_, quote, opens, isFirst, _⟩
  rcases List.head?_eq_some_iff.mp isFirst with ⟨rest, chars⟩
  rw [split_eq_ok, chars] at split
  rw [chars, List.length_cons]
  have places : ∃ kind, wordsFrom .between [] (quote :: rest) = wordsFrom (.inQuotes kind) [] rest := by
    rw [isQuote, Bool.or_eq_true, decide_eq_true_iff, decide_eq_true_iff] at opens
    rcases opens with rfl | rfl
    · exact ⟨.single, rfl⟩
    · exact ⟨.double, rfl⟩
  rcases places with ⟨kind, same⟩
  rw [same] at split
  have short := length_words_le split
  simp only [List.length_nil, Place.pending] at short
  omega

theorem unquote_of_not_enclosed {text : String} (bare : ¬ IsEnclosed text) :
    unquote text = .ok text := by
  unfold unquote
  split
  · next first last isFirst isLast =>
    rw [if_neg]
    · rfl
    rintro ⟨long, opens, rfl⟩
    exact bare ⟨long, _, opens, isFirst, isLast⟩
  · rfl

theorem unquote_of_enclosed {text : String} {words : List String} (enclosed : IsEnclosed text)
    (split : Words.split text = .ok words) :
    unquote text = .ok (if words.length = 1 then words.headD text else text) := by
  rcases enclosed with ⟨long, quote, opens, isFirst, isLast⟩
  unfold unquote
  rw [isFirst, isLast]
  simp only
  rw [if_pos ⟨long, by simpa using opens⟩, split]
  match words with
  | [] => rfl
  | [word] => rfl
  | first :: second :: others => rw [if_neg (by simp)]; rfl

theorem unquote_of_failed {text : String} {problem : Problem} (enclosed : IsEnclosed text)
    (failed : Words.split text = .error problem) : unquote text = .error problem := by
  rcases enclosed with ⟨long, quote, opens, isFirst, isLast⟩
  unfold unquote
  rw [isFirst, isLast]
  simp only
  rw [if_pos ⟨long, by simpa using opens⟩, failed]
  rfl

/-- A text is left as it is unless it is quoted as a whole. -/
theorem unquote_eq_self_iff {text : String} {words : List String}
    (split : Words.split text = .ok words) :
    unquote text = .ok text ↔ (IsEnclosed text → words.length ≠ 1) := by
  by_cases enclosed : IsEnclosed text
  · rw [unquote_of_enclosed enclosed split, forall_prop_of_true enclosed]
    constructor
    · intro same isOne
      rcases List.length_eq_one_iff.mp isOne with ⟨word, rfl⟩
      have short := length_words_lt enclosed split
      have isText : word = text := Except.ok.inj same
      simp [isText] at short
    · intro many
      rw [if_neg many]
  · simp [unquote_of_not_enclosed enclosed, enclosed]

/-- A text that loses its quotes gets shorter. -/
theorem unquote_cases {text result : String} (unquoted : unquote text = .ok result) :
    result = text ∨ result.toList.length < text.toList.length := by
  by_cases enclosed : IsEnclosed text
  · cases split : Words.split text with
    | error problem =>
        rw [unquote_of_failed enclosed split] at unquoted
        cases unquoted
    | ok words =>
        rw [unquote_of_enclosed enclosed split] at unquoted
        cases unquoted
        by_cases isOne : words.length = 1
        · rcases List.length_eq_one_iff.mp isOne with ⟨word, rfl⟩
          exact .inr (by simpa using length_words_lt enclosed split)
        · exact .inl (if_neg isOne)
  · rw [unquote_of_not_enclosed enclosed] at unquoted
    cases unquoted
    exact .inl rfl

end Words

end TableBrowser
