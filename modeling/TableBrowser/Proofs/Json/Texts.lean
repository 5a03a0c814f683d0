import Mathlib.Tactic.IntervalCases
import TableBrowser.Json.Reading
import TableBrowser.Json.Writing
import TableBrowser.Proofs.Text.Quoted
/-!
# Quoted text in JSON

The reader gives back the characters of a written text, whatever follows its
closing quote. So two written texts that begin the same characters are one, and
what follows them is the same.
-/

namespace TableBrowser.Json

open Text.Quoted (hex hexDigit hexDigit_notMem length_hex)
open Nesting (Hidden Whole hidden_escape hidden_of_plain whole_of_hidden)

/-! ## Hexadecimal digits -/

theorem hexValue?_hexDigit (value : Nat) : hexValue? (hexDigit value) = some (value % 16) := by
  have small : value % 16 < 16 := Nat.mod_lt _ (by decide)
  unfold hexDigit
  generalize value % 16 = digit at small
  interval_cases digit <;> decide

theorem hexNumber?_hex (code : Nat) (small : code < 0x10000) :
    hexNumber? (hex 4 code) = some code := by
  have digits : hex 4 code = [hexDigit (code / 16 / 16 / 16), hexDigit (code / 16 / 16),
      hexDigit (code / 16), hexDigit code] := rfl
  rw [digits]
  simp [hexNumber?, hexValue?_hexDigit]
  omega

theorem fourHex?_hex {code : Nat} (small : code < 0x10000) {rest : List Char} (more : rest ≠ []) :
    fourHex? (hex 4 code ++ rest) = some (code, rest) := by
  have number := hexNumber?_hex code small
  have digits := length_hex 4 code
  have nonempty : rest.isEmpty = false := by simpa using more
  unfold fourHex?
  simp only [List.take_left' digits, List.drop_left' digits]
  rw [if_pos (by simp [digits, nonempty]), number]
  rfl

/-! ## Escapes of single characters -/

/-- A character is no half of a surrogate pair. -/
theorem not_surrogate (char : Char) :
    isHighSurrogate char.toNat = false ∧ isLowSurrogate char.toNat = false := by
  have valid := char.valid
  simp only [UInt32.isValidChar, Nat.isValidChar] at valid
  simp only [isHighSurrogate, isLowSurrogate, Char.toNat, Bool.and_eq_false_iff,
    decide_eq_false_iff_not]
  omega

theorem unicodeEscape_unit {char : Char} (small : char.toNat < 0x10000) {rest : List Char}
    (more : rest ≠ []) :
    unicodeEscape (hex 4 char.toNat ++ rest) = .ok (char, rest) := by
  have plain := not_surrogate char
  unfold unicodeEscape
  rw [fourHex?_hex small more]
  simp only [plain.1, charOfUnit, plain.2, Bool.or_false, Bool.false_eq_true, if_false,
    Char.ofNat_toNat]

theorem unicodeEscape_pair {high low : Nat} (isHigh : isHighSurrogate high = true)
    (isLow : isLowSurrogate low = true) {rest : List Char} (more : rest ≠ []) :
    unicodeEscape (hex 4 high ++ (escapeUnit low ++ rest)) =
      .ok (Char.ofNat (0x10000 + (high - 0xD800) * 0x400 + (low - 0xDC00)), rest) := by
  have highSmall : high < 0x10000 := by
    simp [isHighSurrogate] at isHigh
    omega
  have lowSmall : low < 0x10000 := by
    simp [isLowSurrogate] at isLow
    omega
  have long : ¬ (hex 4 low ++ rest).length ≤ 4 := by
    have nonempty := List.length_pos_iff.mpr more
    rw [List.length_append, length_hex]
    omega
  unfold unicodeEscape
  rw [fourHex?_hex highSmall (by simp [escapeUnit])]
  simp only [isHigh, if_true, escapeUnit, List.cons_append]
  rw [if_neg long, fourHex?_hex lowSmall more]
  simp only [isLow, if_true]

/-- The two halves of a character beyond the first plane give it back. -/
theorem surrogates_of_large {char : Char} (large : 0x10000 ≤ char.toNat) :
    isHighSurrogate (0xD800 + (char.toNat - 0x10000) / 0x400) = true ∧
      isLowSurrogate (0xDC00 + (char.toNat - 0x10000) % 0x400) = true ∧
      Char.ofNat (0x10000 + (0xD800 + (char.toNat - 0x10000) / 0x400 - 0xD800) * 0x400 +
        (0xDC00 + (char.toNat - 0x10000) % 0x400 - 0xDC00)) = char := by
  have valid : char.toNat < 0xD800 ∨ 0xDFFF < char.toNat ∧ char.toNat < 0x110000 := char.valid
  have whole : 0x10000 + (0xD800 + (char.toNat - 0x10000) / 0x400 - 0xD800) * 0x400 +
      (0xDC00 + (char.toNat - 0x10000) % 0x400 - 0xDC00) = char.toNat := by
    omega
  refine ⟨?_, ?_, ?_⟩
  · simp only [isHighSurrogate, Bool.and_eq_true, decide_eq_true_eq]
    omega
  · simp only [isLowSurrogate, Bool.and_eq_true, decide_eq_true_eq]
    omega
  · rw [whole, Char.ofNat_toNat]

/-- A character is written after a backslash, as it is, or by its code in one or two units. -/
theorem escapeChar_cases (char : Char) :
    (∃ sign, sign ≠ 'u' ∧ simpleEscape? sign = some char ∧ escapeChar char = ['\\', sign]) ∨
    (char ≠ '"' ∧ char ≠ '\\' ∧ 0x20 ≤ char.toNat ∧ escapeChar char = [char]) ∨
    (char.toNat < 0x10000 ∧ escapeChar char = escapeUnit char.toNat) ∨
    (0x10000 ≤ char.toNat ∧ escapeChar char =
      escapeUnit (0xD800 + (char.toNat - 0x10000) / 0x400) ++
        escapeUnit (0xDC00 + (char.toNat - 0x10000) % 0x400)) := by
  by_cases quote : char = '"'
  · exact .inl ⟨'"', by decide, by rw [quote]; rfl, by rw [quote]; rfl⟩
  by_cases backslash : char = '\\'
  · exact .inl ⟨'\\', by decide, by rw [backslash]; rfl, by rw [backslash]; rfl⟩
  by_cases lineEnd : char = '\n'
  · exact .inl ⟨'n', by decide, by rw [lineEnd]; rfl, by rw [lineEnd]; rfl⟩
  by_cases carriageReturn : char = '\r'
  · exact .inl ⟨'r', by decide, by rw [carriageReturn]; rfl, by rw [carriageReturn]; rfl⟩
  by_cases tab : char = '\t'
  · exact .inl ⟨'t', by decide, by rw [tab]; rfl, by rw [tab]; rfl⟩
  by_cases back : char = '\x08'
  · exact .inl ⟨'b', by decide, by rw [back]; rfl, by rw [back]; rfl⟩
  by_cases feed : char = '\x0c'
  · exact .inl ⟨'f', by decide, by rw [feed]; rfl, by rw [feed]; rfl⟩
  -- No backslash form is left.
  simp only [escapeChar, if_neg quote, if_neg backslash, if_neg lineEnd, if_neg carriageReturn,
    if_neg tab, if_neg back, if_neg feed]
  by_cases printable : 0x20 ≤ char.toNat ∧ char.toNat < 0x7F
  · exact .inr (.inl ⟨quote, backslash, printable.1, if_pos printable⟩)
  simp only [if_neg printable]
  by_cases small : char.toNat ≤ 0xFFFF
  · exact .inr (.inr (.inl ⟨by omega, if_pos small⟩))
  · exact .inr (.inr (.inr ⟨by omega, if_neg small⟩))

/-- The reader takes the escape of one character as that character. -/
theorem textChars_escapeChar (start : List Char) (fuel : Nat) (done : List Char) (char : Char)
    {rest : List Char} (more : rest ≠ []) :
    textChars start (fuel + 1) done (escapeChar char ++ rest) =
      textChars start fuel (char :: done) rest := by
  rcases escapeChar_cases char with ⟨sign, notUnit, isSign, written⟩ |
    ⟨quote, backslash, printable, written⟩ | ⟨small, written⟩ | ⟨large, written⟩
  · rw [written, List.cons_append, List.cons_append, List.nil_append, textChars, isSign]
    exact fun same => absurd same notUnit
  · have noControl : ¬ char.toNat < 0x20 := by omega
    rw [written, List.cons_append, List.nil_append, textChars]
    · rw [if_neg noControl]
    · exact quote
    · exact fun same _ => backslash same
    · exact fun _ same _ => backslash same
    · exact fun _ _ same _ => backslash same
  · have read := unicodeEscape_unit small more
    simp only [written, escapeUnit, List.cons_append]
    rw [textChars, read]
  · have pair := surrogates_of_large large
    have read := unicodeEscape_pair pair.1 pair.2.1 more
    rw [pair.2.2] at read
    simp only [written, escapeUnit, List.cons_append, List.append_assoc] at read ⊢
    rw [textChars, read]

/-! ## Whole texts -/

/-- Reading gives back the characters that were written up to the closing quote. -/
theorem textChars_flatMap (start : List Char) (chars rest : List Char) (fuel : Nat)
    (done : List Char) :
    textChars start (chars.length + 1 + fuel) done (chars.flatMap escapeChar ++ '"' :: rest) =
      .ok (done.reverse ++ chars, rest) := by
  induction chars generalizing done with
  | nil =>
      rw [List.length_nil, Nat.zero_add, Nat.add_comm]
      simp [textChars]
  | cons char chars induction =>
      have size : (char :: chars).length + 1 + fuel = chars.length + 1 + fuel + 1 := by
        rw [List.length_cons]
        omega
      rw [size, List.flatMap_cons, List.append_assoc,
        textChars_escapeChar start _ done char (by simp), induction]
      simp

theorem toList_textForm (value : String) :
    (textForm value).toList = '"' :: value.toList.flatMap escapeChar ++ ['"'] := by
  simp [textForm]

/-- A written text and what follows it can be told apart. -/
theorem textForm_append_inj {left right : String} {leftRest rightRest : List Char}
    (equal : (textForm left).toList ++ leftRest = (textForm right).toList ++ rightRest) :
    left = right ∧ leftRest = rightRest := by
  rw [toList_textForm, toList_textForm] at equal
  simp only [List.cons_append, List.append_assoc, List.nil_append, List.cons.injEq, true_and] at equal
  have leftRead := textChars_flatMap [] left.toList leftRest right.toList.length []
  have rightRead := textChars_flatMap [] right.toList rightRest left.toList.length []
  have fuel : right.toList.length + 1 + left.toList.length =
      left.toList.length + 1 + right.toList.length := by
    omega
  rw [equal, ← fuel, rightRead] at leftRead
  simp only [List.reverse_nil, List.nil_append, Except.ok.injEq, Prod.mk.injEq] at leftRead
  exact ⟨(String.toList_inj.mp leftRead.1).symm, leftRead.2.symm⟩

theorem textForm_injective {left right : String} (equal : textForm left = textForm right) :
    left = right := by
  have same : (textForm left).toList ++ [] = (textForm right).toList ++ [] := by rw [equal]
  exact (textForm_append_inj same).1

/-! ## A written text is whole -/

/-- The escape of a character closes no quotes. -/
theorem hidden_escapeChar (char : Char) : Hidden '"' (escapeChar char) := by
  have digit (value : Nat) : hexDigit value ≠ '\\' ∧ hexDigit value ≠ '"' := by
    have noMark := hexDigit_notMem value
    simp only [List.mem_cons, not_or] at noMark
    exact ⟨noMark.2.2.1, noMark.1⟩
  have unit (code : Nat) : Hidden '"' (escapeUnit code) :=
    (hidden_escape 'u').append (hidden_of_plain (by simp [hex, digit]))
  rcases escapeChar_cases char with ⟨sign, _, _, written⟩ | ⟨quote, backslash, _, written⟩ |
    ⟨_, written⟩ | ⟨_, written⟩
  · rw [written]
    exact hidden_escape sign
  · rw [written]
    exact hidden_of_plain (by simpa using ⟨backslash, quote⟩)
  · rw [written]
    exact unit _
  · rw [written]
    exact (unit _).append (unit _)

/-- The null character is escaped like the other control characters. -/
theorem null_notMem_escapeChar (char : Char) : '\x00' ∉ escapeChar char := by
  have digit (value : Nat) : '\x00' ≠ hexDigit value := by
    intro equal
    exact hexDigit_notMem value (by simp [← equal])
  have unit (code : Nat) : '\x00' ∉ escapeUnit code := by
    simp [escapeUnit, hex, digit]
  rcases escapeChar_cases char with ⟨sign, _, isSign, written⟩ | ⟨_, _, printable, written⟩ |
    ⟨_, written⟩ | ⟨_, written⟩
  · rw [written, List.mem_cons, List.mem_singleton]
    rintro (isBackslash | isNull)
    · exact absurd isBackslash (by decide)
    · rw [← isNull] at isSign
      cases isSign
  · rw [written, List.mem_singleton]
    intro isNull
    rw [← isNull] at printable
    exact absurd printable (by decide)
  · rw [written]
    exact unit _
  · rw [written, List.mem_append]
    exact fun member => member.elim (unit _) (unit _)

theorem null_notMem_textForm (value : String) : '\x00' ∉ (textForm value).toList := by
  rw [toList_textForm]
  simp [null_notMem_escapeChar]

theorem whole_textForm (value : String) : Whole (textForm value).toList := by
  rw [toList_textForm]
  exact whole_of_hidden rfl (Hidden.flatMap _ fun char _ => hidden_escapeChar char)

end TableBrowser.Json
