import TableBrowser.Proofs.Outcome
import TableBrowser.Storage.Format
/-!
# Text that is read again

Every character has one form in UTF-8, from which it is read whatever follows,
and a file keeps the bytes that were written to it. Main statement: what is read
from a file of text is the text that was written, with its lines ending in line
feeds.
-/

namespace TableBrowser

namespace Encoding

/-! ## Forms of several bytes -/

theorem toNat_byte {value : Nat} (small : value < 256) : (UInt8.ofNat value).toNat = value := by
  rw [UInt8.toNat_ofNat', Nat.mod_eq_of_lt small]

/-- One of the bytes after the first adds six bits. -/
theorem continued_byte {range : UInt8 × UInt8} {byte : Nat} (small : byte < 256)
    (low : range.1.toNat ≤ byte) (high : byte ≤ range.2.toNat) (value count : Nat)
    (rest : List UInt8) : continued value range (count + 1) (UInt8.ofNat byte :: rest) =
      continued (64 * value + byte % 64) (0x80, 0xBF) count rest := by
  have inRange : range.1 ≤ UInt8.ofNat byte ∧ UInt8.ofNat byte ≤ range.2 := by
    rw [UInt8.le_iff_toNat_le, UInt8.le_iff_toNat_le, toNat_byte small]
    exact ⟨low, high⟩
  rw [continued, if_pos inRange, toNat_byte small]

theorem continued_six {bits : Nat} (small : bits < 64) (value count : Nat) (rest : List UInt8) :
    continued value (0x80, 0xBF) (count + 1) (UInt8.ofNat (bits + 128) :: rest) =
      continued (64 * value + bits) (0x80, 0xBF) count rest := by
  rw [continued_byte (by omega) (by change 128 ≤ _; omega) (by change _ ≤ 191; omega)]
  congr 2
  omega

/-- Some first bytes leave less room for the second one. -/
theorem secondByte_bounds (first byte : Nat) (small : first < 256) (low : 0x80 ≤ byte)
    (high : byte ≤ 0xBF) (notShort : first = 0xE0 → 0xA0 ≤ byte)
    (notSurrogate : first = 0xED → byte ≤ 0x9F) (notShorter : first = 0xF0 → 0x90 ≤ byte)
    (notBeyond : first = 0xF4 → byte ≤ 0x8F) :
    (secondByte (UInt8.ofNat first)).1.toNat ≤ byte ∧
      byte ≤ (secondByte (UInt8.ofNat first)).2.toNat := by
  have isFirst {other : UInt8} (same : UInt8.ofNat first = other) : first = other.toNat := by
    rw [← same, toNat_byte small]
  unfold secondByte
  split
  · next same => exact ⟨notShort (isFirst same), high⟩
  · split
    · next same => exact ⟨low, notSurrogate (isFirst same)⟩
    · split
      · next same => exact ⟨notShorter (isFirst same), high⟩
      · split
        · next same => exact ⟨low, notBeyond (isFirst same)⟩
        · exact ⟨low, high⟩

/-! ## Characters -/

/-- The first byte says how many bytes follow. -/
theorem utf8Char_byte {first : Nat} (small : first < 256) (rest : List UInt8) :
    utf8Char (UInt8.ofNat first) rest =
      if first < 0x80 then .ok (Char.ofNat first, rest)
      else if 0xC2 ≤ first ∧ first < 0xE0 then
        continued (first % 32) (secondByte (UInt8.ofNat first)) 1 rest
      else if 0xE0 ≤ first ∧ first < 0xF0 then
        continued (first % 16) (secondByte (UInt8.ofNat first)) 2 rest
      else if 0xF0 ≤ first ∧ first < 0xF5 then
        continued (first % 8) (secondByte (UInt8.ofNat first)) 3 rest
      else .error (.startByte, rest) := by
  simp only [utf8Char, UInt8.lt_iff_toNat_lt, UInt8.le_iff_toNat_le, toNat_byte small]
  rfl

theorem utf8Char_one {code : Nat} (small : code ≤ 0x7F) (rest : List UInt8) :
    utf8Char (UInt8.ofNat code) rest = .ok (Char.ofNat code, rest) := by
  rw [utf8Char_byte (by omega), if_pos (by omega)]

theorem utf8Char_two {code : Nat} (low : 0x7F < code) (high : code ≤ 0x7FF) (rest : List UInt8) :
    utf8Char (UInt8.ofNat (code / 64 % 0x20 + 0xC0)) (UInt8.ofNat (code % 0x40 + 0x80) :: rest) =
      .ok (Char.ofNat code, rest) := by
  have bounds := secondByte_bounds (code / 64 % 0x20 + 0xC0) (code % 0x40 + 0x80)
    (by omega) (by omega) (by omega) (by omega) (by omega) (by omega) (by omega)
  rw [utf8Char_byte (by omega), if_neg (by omega), if_pos (by omega),
    continued_byte (by omega) bounds.1 bounds.2, continued]
  congr 3
  omega

theorem utf8Char_three {code : Nat} (low : 0x7FF < code) (high : code ≤ 0xFFFF)
    (notSurrogate : code < 0xD800 ∨ 0xDFFF < code) (rest : List UInt8) :
    utf8Char (UInt8.ofNat (code / 4096 % 0x10 + 0xE0))
      (UInt8.ofNat (code / 64 % 0x40 + 0x80) :: UInt8.ofNat (code % 0x40 + 0x80) :: rest) =
      .ok (Char.ofNat code, rest) := by
  have bounds := secondByte_bounds (code / 4096 % 0x10 + 0xE0)
    (code / 64 % 0x40 + 0x80) (by omega) (by omega) (by omega) (by omega) (by omega)
    (by omega) (by omega)
  rw [utf8Char_byte (by omega), if_neg (by omega), if_neg (by omega), if_pos (by omega),
    continued_byte (by omega) bounds.1 bounds.2, continued_six (by omega), continued]
  congr 3
  omega

theorem utf8Char_four {code : Nat} (low : 0xFFFF < code) (high : code < 0x110000)
    (rest : List UInt8) :
    utf8Char (UInt8.ofNat (code / 262144 % 0x08 + 0xF0))
      (UInt8.ofNat (code / 4096 % 0x40 + 0x80) :: UInt8.ofNat (code / 64 % 0x40 + 0x80) ::
        UInt8.ofNat (code % 0x40 + 0x80) :: rest) =
      .ok (Char.ofNat code, rest) := by
  have bounds := secondByte_bounds (code / 262144 % 0x08 + 0xF0)
    (code / 4096 % 0x40 + 0x80) (by omega) (by omega) (by omega) (by omega) (by omega)
    (by omega) (by omega)
  rw [utf8Char_byte (by omega), if_neg (by omega), if_neg (by omega), if_neg (by omega),
    if_pos (by omega), continued_byte (by omega) bounds.1 bounds.2, continued_six (by omega),
    continued_six (by omega), continued]
  congr 3
  omega

/-- A character is read from its form, whatever follows. -/
theorem utf8Char_form (char : Char) (rest : List UInt8) :
    ∃ first others, String.utf8EncodeChar char = first :: others ∧
      utf8Char first (others ++ rest) = .ok (char, rest) := by
  have valid : char.toNat < 0xD800 ∨ 0xDFFF < char.toNat ∧ char.toNat < 0x110000 := char.valid
  unfold String.utf8EncodeChar
  change ∃ first others, (if char.toNat ≤ 0x7F then _ else if char.toNat ≤ 0x7FF then _
    else if char.toNat ≤ 0xFFFF then _ else _) = _ ∧ _
  split
  · next small =>
    refine ⟨_, _, rfl, ?_⟩
    have isOne := utf8Char_one small rest
    simpa using isOne
  · split
    · next notOne small =>
      refine ⟨_, _, rfl, ?_⟩
      simpa using utf8Char_two (by omega) small rest
    · split
      · next notTwo small =>
        refine ⟨_, _, rfl, ?_⟩
        simpa using utf8Char_three (by omega) small (by omega) rest
      · next notThree =>
        refine ⟨_, _, rfl, ?_⟩
        have large : 0xFFFF < char.toNat := by omega
        simpa using utf8Char_four large (by omega) rest

/-! ## Text -/

/-- The bytes of a text in UTF-8. -/
def formsOf (chars : List Char) : List UInt8 := chars.flatMap String.utf8EncodeChar

theorem decodeWith_formsOf (leniency : Leniency) (chars done : List Char) {count : Nat}
    (enough : (formsOf chars).length ≤ count) :
    decodeWith utf8Char leniency done count (formsOf chars) = .ok (done.reverse ++ chars) := by
  induction chars generalizing done count with
  | nil => cases count <;> simp [formsOf, decodeWith]
  | cons char chars induction =>
      rcases utf8Char_form char (formsOf chars) with ⟨first, others, form, read⟩
      have isForm : formsOf (char :: chars) = first :: (others ++ formsOf chars) := by
        rw [formsOf, List.flatMap_cons, form]
        rfl
      rw [isForm, List.length_cons, List.length_append] at enough
      cases count with
      | zero => omega
      | succ count =>
          rw [isForm, decodeWith, read]
          simp only
          rw [induction (char :: done) (by omega), List.reverse_cons, List.append_assoc]
          rfl

theorem decode_formsOf (leniency : Leniency) (chars : List Char) :
    Encoding.utf8.decode leniency (formsOf chars) = .ok chars :=
  decodeWith_formsOf leniency chars [] (Nat.le_refl _)

theorem encode_utf8 (leniency : Leniency) (chars : List Char) :
    Encoding.utf8.encode leniency chars = .ok (formsOf chars) := by
  refine bind_eq_ok.mpr ⟨chars.map String.utf8EncodeChar, mapM_eq_ok.mpr ?_, ?_⟩
  · exact List.forall₂_map_right_iff.mpr (List.forall₂_same.mpr fun char _ => rfl)
  · rfl

end Encoding

/-! ## Bytes of strings -/

theorem toList_loop (bytes : ByteArray) (index : Nat) (done : List UInt8) :
    ByteArray.toList.loop bytes index done = done.reverse ++ bytes.data.toList.drop index := by
  induction remaining : bytes.size - index generalizing index done with
  | zero =>
      rw [ByteArray.toList.loop, if_neg (by omega), List.drop_eq_nil_of_le, List.append_nil]
      rw [Array.length_toList]
      change bytes.size ≤ index
      omega
  | succ remaining induction =>
      have inBounds : index < bytes.size := by omega
      have inList : index < bytes.data.toList.length := by
        rw [Array.length_toList]
        exact inBounds
      have isByte : bytes.get! index = bytes.data.toList[index] := by
        rw [Array.getElem_toList]
        exact getElem!_pos bytes.data index inBounds
      rw [ByteArray.toList.loop, if_pos inBounds, induction (index + 1) _ (by omega),
        List.drop_eq_getElem_cons inList, isByte, List.reverse_cons, List.append_assoc]
      rfl

theorem toList_toUTF8 (text : String) : text.toUTF8.toList = Encoding.formsOf text.toList := by
  rw [ByteArray.toList, toList_loop]
  change text.toByteArray.data.toList = _
  rw [← String.utf8Encode_toList]
  simp [Encoding.formsOf, List.utf8Encode]

namespace FileTree

variable {tree after : FileTree} {text : String}

/-! ## Files -/

theorem follow_put {place parts found : List String} (target : List String) (content : FileContent)
    (follows : tree.follow place parts = .ok found) :
    (tree.put target content).follow place parts = .ok found := by
  induction parts generalizing place with
  | nil => exact follows
  | cons part parts induction =>
      rw [follow] at follows ⊢
      by_cases isDirectory : tree.isDirectory place = true
      · -- Directories stay where they are, whatever is put into files.
        have isEntry : tree.entryAt place = .directory := if_pos isDirectory
        have staysEntry : (tree.put target content).entryAt place = .directory := if_pos isDirectory
        rw [isEntry] at follows
        rw [staysEntry]
        exact induction follows
      · have notEntry : tree.entryAt place ≠ .directory := by
          rw [entryAt, if_neg isDirectory]
          split <;> simp
        split at follows
        · cases follows
        · cases follows
        · next isEntry => exact absurd isEntry notEntry

theorem locate_put {found : List String} (target : List String) (content : FileContent)
    (located : tree.locate text = .ok found) : (tree.put target content).locate text = .ok found := by
  unfold locate at located ⊢
  simp only at located ⊢
  split at located
  · cases located
  · next noNull =>
    split at located
    · cases located
    · next notEmpty =>
      rw [if_neg noNull, if_neg notEmpty]
      exact follow_put target content located

theorem locate_of_follow (place : List String) (noNull : text.contains '\x00' = false)
    (notEmpty : text.isEmpty = false)
    (follows : tree.follow (if (Path.ofText text).isAbsolute then [] else tree.surroundings.directory)
      (Path.ofText text).parts = .ok place) : tree.locate text = .ok place := by
  unfold locate
  rw [noNull, notEmpty]
  exact follows

theorem writable_of_locate {place : List String} (located : tree.locate text = .ok place)
    (notDirectory : tree.isDirectory place = false) : tree.writable text = .ok place := by
  rw [writable, located]
  simp only [bind, Except.bind]
  rw [entryAt, notDirectory]
  cases tree.files.lookup place <;> rfl

theorem write_of_follow (place : List String) (bytes : List UInt8)
    (noNull : text.contains '\x00' = false) (notEmpty : text.isEmpty = false)
    (follows : tree.follow (if (Path.ofText text).isAbsolute then [] else tree.surroundings.directory)
      (Path.ofText text).parts = .ok place) (notDirectory : tree.isDirectory place = false) :
    tree.write text bytes = .ok (tree.put place (.bytes bytes)) := by
  have located := locate_of_follow place noNull notEmpty follows
  rw [write, writable_of_locate located notDirectory]
  rfl

/-- A file that has been written holds its bytes. -/
theorem read_of_write {bytes : List UInt8} (written : tree.write text bytes = .ok after) :
    after.read text = .ok (.bytes bytes) ∧ after.surroundings = tree.surroundings := by
  rcases bind_eq_ok.mp written with ⟨place, writable, made⟩
  rcases bind_eq_ok.mp writable with ⟨found, located, isPlace⟩
  rw [← Except.ok.inj made]
  have notDirectory : tree.isDirectory found = false ∧ found = place := by
    split at isPlace
    · cases isPlace
    · next notDirectory =>
      refine ⟨Bool.eq_false_iff.mpr fun isDirectory => notDirectory (if_pos isDirectory), ?_⟩
      exact Except.ok.inj isPlace
  rcases notDirectory with ⟨notDirectory, rfl⟩
  have stillNone : ¬(tree.put found (.bytes bytes)).isDirectory found = true :=
    Bool.eq_false_iff.mp notDirectory
  have holds : (tree.put found (.bytes bytes)).entryAt found = .file (.bytes bytes) := by
    rw [entryAt, if_neg stillNone, put, List.lookup_cons_self]
  refine ⟨?_, rfl⟩
  rw [read, entry, locate_put found (.bytes bytes) located]
  simp only [bind, Except.bind, pure, Except.pure, holds]

/-- A text that has been written to a file is read with its lines ending in line feeds. -/
theorem readText_of_writeText {path : Path} {failure : AccessProblem → Failure}
    (written : tree.writeText path text failure = .ok after) (other : AccessProblem → Failure) :
    after.readText path other = .ok (String.ofList (Text.withLineFeeds text.toList)) ∧
      after.surroundings = tree.surroundings := by
  unfold writeText at written
  split at written
  · next isWritten =>
    cases written
    rcases read_of_write isWritten with ⟨holds, sameSurroundings⟩
    refine ⟨?_, sameSurroundings⟩
    rw [readText, holds]
    simp only [textOfBytes, toList_toUTF8, Encoding.decode_formsOf]
    rfl
  · next problem _ =>
    unfold inaccessible at written
    split at written <;> cases written

end FileTree

end TableBrowser
