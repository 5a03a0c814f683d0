import Mathlib.Algebra.Group.Nat.Defs
import TableBrowser.Proofs.Text.Nesting
import TableBrowser.Text.Quoted
/-!
# Quoted text in messages

Text in quotes is whole, and it is determined by what is written for it: the
escape of a character is no beginning of another one.
-/

namespace TableBrowser.Text.Quoted

open Nesting

/-! ## Hexadecimal digits -/

theorem hexDigit_mod (value : Nat) : hexDigit (value % 16) = hexDigit value := by
  rw [hexDigit, hexDigit, Nat.mod_mod]

theorem hexDigit_injective {left right : Nat} (equal : hexDigit left = hexDigit right) :
    left % 16 = right % 16 := by
  have apart : ∀ left right : Fin 16, hexDigit left = hexDigit right → left = right := by decide
  rw [← hexDigit_mod left, ← hexDigit_mod right] at equal
  exact Fin.mk.inj_iff.mp (apart ⟨left % 16, Nat.mod_lt _ (by decide)⟩
    ⟨right % 16, Nat.mod_lt _ (by decide)⟩ equal)

theorem hexDigit_notMem (value : Nat) : hexDigit value ∉ ['"', '\'', '\\', '\x00'] := by
  have plain : ∀ digit : Fin 16, hexDigit digit ∉ ['"', '\'', '\\', '\x00'] := by decide
  rw [← hexDigit_mod]
  exact plain ⟨value % 16, Nat.mod_lt _ (by decide)⟩

theorem length_hex (width code : Nat) : (hex width code).length = width := by
  induction width generalizing code with
  | zero => rfl
  | succ width induction => rw [hex, List.length_append, induction, List.length_singleton]

theorem exists_of_mem_hex {width code : Nat} {char : Char} (member : char ∈ hex width code) :
    ∃ value, char = hexDigit value := by
  induction width generalizing code with
  | zero => cases member
  | succ width induction =>
      rcases List.mem_append.mp member with earlier | last
      · exact induction earlier
      · exact ⟨code, List.mem_singleton.mp last⟩

/-- The last digits of numbers that are written alike are the same. -/
theorem hex_injective {width left right : Nat} (equal : hex width left = hex width right) :
    left % 16 ^ width = right % 16 ^ width := by
  induction width generalizing left right with
  | zero => simp [Nat.mod_one]
  | succ width induction =>
      have parts := List.append_inj' equal rfl
      have last := hexDigit_injective (List.singleton_inj.mp parts.2)
      rw [Nat.pow_succ', Nat.mod_mul, Nat.mod_mul, last, induction parts.1]

/-! ## Escapes -/

/-- How many digits of its code follow a backslash and a sign in the escape of a character. -/
def digitCount : Char → Nat
  | 'x' => 2
  | 'u' => 4
  | 'U' => 8
  | _ => 0

/-- The character that a sign without digits stands for. -/
def signed : Char → Char
  | 't' => '\t'
  | 'n' => '\n'
  | 'r' => '\r'
  | sign => sign

/-- What may be written for a character between quotes. -/
inductive Escapes (quote char : Char) : List Char → Prop
  | plain (noBackslash : char ≠ '\\') (noQuote : char ≠ quote) : Escapes quote char [char]
  | coded (sign : Char) (meant : digitCount sign = 0 → char = signed sign)
      (fits : digitCount sign ≠ 0 → char.toNat < 16 ^ digitCount sign) :
      Escapes quote char ('\\' :: sign :: hex (digitCount sign) char.toNat)

section Escapes

variable {quote char : Char}

theorem Escapes.of_sign {sign : Char} (noDigits : digitCount sign = 0) (meant : char = signed sign) :
    Escapes quote char ['\\', sign] := by
  have written : Escapes quote char ('\\' :: sign :: hex (digitCount sign) char.toNat) :=
    .coded sign (fun _ => meant) (absurd noDigits)
  rwa [noDigits] at written

theorem Escapes.of_common {written : List Char} (quoted : isQuote quote = true)
    (isCommon : escapeCommon? quote char = some written) : Escapes quote char written := by
  have itself : digitCount quote = 0 ∧ quote = signed quote := by
    simp only [isQuote, List.contains_iff_mem, List.mem_cons, List.not_mem_nil, or_false] at quoted
    rcases quoted with rfl | rfl <;> decide
  unfold escapeCommon? at isCommon
  split at isCommon
  next self =>
    cases isCommon
    rcases self with rfl | rfl
    · exact .of_sign itself.1 itself.2
    · exact .of_sign rfl rfl
  split at isCommon
  next tab =>
    cases isCommon
    exact .of_sign rfl tab
  split at isCommon
  next lineFeed =>
    cases isCommon
    exact .of_sign rfl lineFeed
  split at isCommon
  next carriageReturn =>
    cases isCommon
    exact .of_sign rfl carriageReturn
  · cases isCommon

theorem Escapes.of_uncommon (isUncommon : escapeCommon? quote char = none) :
    Escapes quote char [char] := by
  unfold escapeCommon? at isUncommon
  split at isUncommon
  · cases isUncommon
  next others => exact .plain (fun same => others (.inr same)) fun same => others (.inl same)

theorem Escapes.code : Escapes quote char (escapeCode char.toNat) := by
  have valid : char.toNat < 0xD800 ∨ 0xDFFF < char.toNat ∧ char.toNat < 0x110000 := char.valid
  unfold escapeCode
  split
  · exact .coded 'x' (fun none => nomatch none) fun _ => show _ < 256 by omega
  split
  · exact .coded 'u' (fun none => nomatch none) fun _ => show _ < 65536 by omega
  · exact .coded 'U' (fun none => nomatch none) fun _ => show _ < 4294967296 by omega

theorem escapes_escape (quoted : isQuote quote = true) (char : Char) :
    Escapes quote char (escape quote char) := by
  unfold escape
  split
  next isCommon => exact .of_common quoted isCommon
  next isUncommon =>
    split
    · split
      · exact .code
      · exact .of_uncommon isUncommon
    split
    · exact .of_uncommon isUncommon
    · exact .code

theorem escapes_escapeByte (quoted : isQuote quote = true) (byte : UInt8) :
    Escapes quote (byteChar byte) (escapeByte quote byte) := by
  have small := byte.toNat_lt
  have isCode : (byteChar byte).toNat = byte.toNat := by
    have valid : byte.toNat.isValidChar := .inl (by omega)
    rw [byteChar, Char.ofNat, dif_pos valid]
    rfl
  unfold escapeByte
  split
  next isCommon => exact .of_common quoted isCommon
  next isUncommon =>
    split
    · exact isCode ▸ .code
    · exact .of_uncommon isUncommon

theorem Escapes.hidden {written : List Char} (escapes : Escapes quote char written)
    (quoted : isQuote quote = true) : Hidden quote written := by
  cases escapes with
  | plain noBackslash noQuote => exact hidden_of_plain (by simpa using ⟨noBackslash, noQuote⟩)
  | coded sign meant fits =>
      refine (hidden_escape sign).append (hidden_of_plain fun digit member => ?_)
      rcases exists_of_mem_hex member with ⟨value, rfl⟩
      have noMark := hexDigit_notMem value
      simp only [List.mem_cons, not_or] at noMark
      simp only [isQuote, List.contains_iff_mem, List.mem_cons, List.not_mem_nil, or_false] at quoted
      rcases quoted with rfl | rfl
      · exact ⟨noMark.2.2.1, noMark.1⟩
      · exact ⟨noMark.2.2.1, noMark.2.1⟩

/-- A character can be read off its escape, whatever follows. -/
theorem Escapes.append_inj {other : Char} {left right leftRest rightRest : List Char}
    (leftEscapes : Escapes quote char left) (rightEscapes : Escapes quote other right)
    (equal : left ++ leftRest = right ++ rightRest) :
    char = other ∧ left = right ∧ leftRest = rightRest := by
  cases leftEscapes with
  | plain noBackslash _ =>
      cases rightEscapes with
      | plain _ _ =>
          rcases List.cons.inj equal with ⟨rfl, rest⟩
          exact ⟨rfl, rfl, rest⟩
      | coded _ _ _ => exact absurd (List.cons.inj equal).1 noBackslash
  | coded sign meant fits =>
      cases rightEscapes with
      | plain noBackslash _ => exact absurd (List.cons.inj equal).1.symm noBackslash
      | coded rightSign rightMeant rightFits =>
          rcases List.cons.inj (List.cons.inj equal).2 with ⟨rfl, digits⟩
          rcases List.append_inj digits (by rw [length_hex, length_hex]) with ⟨sameDigits, rest⟩
          refine ⟨?_, by rw [sameDigits], rest⟩
          by_cases none : digitCount sign = 0
          · rw [meant none, rightMeant none]
          · have codes := hex_injective sameDigits
            rw [Nat.mod_eq_of_lt (fits none), Nat.mod_eq_of_lt (rightFits none)] at codes
            exact Char.toNat_inj.mp codes

end Escapes

/-! ## Text and bytes in quotes -/

theorem isQuote_enclosing (chars : List Char) : isQuote (enclosing chars) = true := by
  unfold enclosing
  split <;> rfl

theorem whole_encode (text : String) : Whole (encode text).toList := by
  have quoted := isQuote_enclosing text.toList
  rw [encode, String.toList_ofList]
  exact whole_of_hidden quoted
    (Hidden.flatMap _ fun char _ => (escapes_escape quoted char).hidden quoted)

theorem whole_encodeBytes (bytes : List UInt8) : Whole (encodeBytes bytes).toList := by
  have quoted := isQuote_enclosing (bytes.map byteChar)
  have letter : Whole ['b'] := fun _ _ => passes_singleton (by decide)
  rw [encodeBytes, String.toList_ofList]
  exact letter.append (whole_of_hidden quoted
    (Hidden.flatMap _ fun byte _ => (escapes_escapeByte quoted byte).hidden quoted))

/-- Text is determined by its quoted form. -/
theorem encode_injective {left right : String} (equal : encode left = encode right) :
    left = right := by
  have chars := String.ofList_injective equal
  rcases List.cons.inj chars with ⟨sameQuote, rest⟩
  rw [sameQuote] at rest
  have quoted := isQuote_enclosing right.toList
  have inner := List.append_cancel_right rest
  rw [List.flatMap_def, List.flatMap_def] at inner
  have same := flatten_injective (P := fun part => ∃ char, part = escape (enclosing right.toList) char)
    (by
      rintro part ⟨char, rfl⟩ none
      have escapes := escapes_escape quoted char
      rw [none] at escapes
      cases escapes)
    (by
      rintro _ _ _ _ ⟨char, rfl⟩ ⟨other, rfl⟩ parts
      exact ((escapes_escape quoted char).append_inj (escapes_escape quoted other) parts).2)
    (by simp) (by simp) inner
  refine String.toList_inj.mp ((List.map_inj_right fun char other sameEscape => ?_).mp same)
  exact ((escapes_escape quoted char).append_inj (escapes_escape quoted other)
    (congrArg (· ++ []) sameEscape)).1

end TableBrowser.Text.Quoted
