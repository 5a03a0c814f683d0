import Mathlib.Data.List.Basic
import Mathlib.Data.List.GetD
import TableBrowser.Input.Keymap
/-!
# Edits of a line

A line with an insertion point is two texts that meet there, and lines that are
recalled in its place are counted back from the newest one. Main statement: after any
edits a line is what the same edits make of two such texts, and as many steps
forth as back bring the line that was typed back.
-/

namespace TableBrowser

/-! ## Edits -/

/-- What can be done to a line. -/
inductive LineEdit where
  | reset (text : String) (history : List String)
  | insert (text : List Char)
  | backspace
  | left
  | right
  | home
  | toEnd
  | older
  | newer
deriving DecidableEq, Repr

/-- As many steps forth in the history as back. -/
def LineEdit.backForth (count : Nat) : List LineEdit :=
  List.replicate count .older ++ List.replicate count .newer

namespace LineBuffer

def perform (line : LineBuffer) : LineEdit → LineBuffer
  | .reset text history => start text history
  | .insert text => line.insert text
  | .backspace => line.backspace
  | .left => line.left
  | .right => line.right
  | .home => line.home
  | .toEnd => line.toEnd
  | .older => line.older
  | .newer => line.newer

def afterEdits (line : LineBuffer) (edits : List LineEdit) : LineBuffer := edits.foldl perform line

end LineBuffer

/-! ## Lines in two parts -/

/-- A line in the two parts that meet at the insertion point. -/
structure LineZipper where
  /-- The characters before the insertion point, the nearest one first. -/
  before : List Char := []
  after : List Char := []
  /-- Lines that can be recalled, the newest one last. -/
  history : List String := []
  /-- How many lines back the line that is shown stands; none while a line is typed. -/
  depth : Nat := 0
  draft : List Char := []
deriving DecidableEq, Repr

namespace LineZipper

def ofText (text : String) : LineZipper := { before := text.toList.reverse }

def start (text : String) (history : List String) : LineZipper :=
  { before := text.toList.reverse, history, draft := text.toList }

variable (zipper : LineZipper)

def text : List Char := zipper.before.reverse ++ zipper.after

def insert (text : List Char) : LineZipper := { zipper with before := text.reverse ++ zipper.before }

def backspace : LineZipper := { zipper with before := zipper.before.tail }

def left : LineZipper :=
  match zipper.before with
  | [] => zipper
  | char :: before => { zipper with before, after := char :: zipper.after }

def right : LineZipper :=
  match zipper.after with
  | [] => zipper
  | char :: after => { zipper with before := char :: zipper.before, after }

def home : LineZipper := { zipper with before := [], after := zipper.text }

def toEnd : LineZipper := { zipper with before := zipper.text.reverse, after := [] }

/-- The line so many lines back; the draft comes before the newest of them. -/
def entry : Nat → List Char
  | 0 => zipper.draft
  | back + 1 => (zipper.history.reverse.getD back "").toList

/-- The line so many lines back in place of both parts. -/
def showing (depth : Nat) : LineZipper :=
  { zipper with before := (zipper.entry depth).reverse, after := [], depth }

/-- A line that is being typed becomes the draft. -/
def drafting : LineZipper := if zipper.depth = 0 then { zipper with draft := zipper.text } else zipper

/-- A step back, but not beyond the oldest line. -/
def older : LineZipper :=
  if zipper.history = [] then zipper
  else zipper.drafting.showing (min (zipper.depth + 1) zipper.history.length)

def newer : LineZipper := if zipper.depth = 0 then zipper else zipper.showing (zipper.depth - 1)

def perform : LineEdit → LineZipper
  | .reset text history => start text history
  | .insert text => zipper.insert text
  | .backspace => zipper.backspace
  | .left => zipper.left
  | .right => zipper.right
  | .home => zipper.home
  | .toEnd => zipper.toEnd
  | .older => zipper.older
  | .newer => zipper.newer

def afterEdits (edits : List LineEdit) : LineZipper := edits.foldl perform zipper

/-! ## Steps through the history -/

variable {zipper}

theorem afterEdits_append (edits others : List LineEdit) :
    zipper.afterEdits (edits ++ others) = (zipper.afterEdits edits).afterEdits others :=
  List.foldl_append

@[simp] theorem showing_showing (depth other : Nat) :
    (zipper.showing depth).showing other = zipper.showing other := by
  cases other <;> rfl

@[simp] theorem history_drafting : zipper.drafting.history = zipper.history := by
  unfold drafting
  split <;> rfl

theorem newer_showing (depth : Nat) : (zipper.showing depth).newer = zipper.showing (depth - 1) := by
  unfold newer
  split
  · next typed =>
    rw [show depth = 0 from typed]
  · rw [showing_showing]
    rfl

theorem older_showing {depth : Nat} (recallable : zipper.history ≠ []) (recalled : depth ≠ 0) :
    (zipper.showing depth).older = zipper.showing (min (depth + 1) zipper.history.length) := by
  have drafted : (zipper.showing depth).drafting = zipper.showing depth := if_neg recalled
  rw [older, drafted, showing_showing]
  exact if_neg recallable

theorem afterEdits_newer (depth count : Nat) :
    (zipper.showing depth).afterEdits (List.replicate count .newer) =
      zipper.showing (depth - count) := by
  induction count with
  | zero => rfl
  | succ count induction =>
      rw [List.replicate_succ', afterEdits_append, induction]
      exact newer_showing _

theorem afterEdits_older {steps : Nat} (typed : zipper.depth = 0) (recallable : zipper.history ≠ []) :
    zipper.afterEdits (List.replicate (steps + 1) .older) =
      zipper.drafting.showing (min (steps + 1) zipper.history.length) := by
  have someLine : 0 < zipper.history.length := List.length_pos_iff.mpr recallable
  induction steps with
  | zero =>
      change zipper.older = _
      rw [older, if_neg recallable, typed]
  | succ steps induction =>
      rw [List.replicate_succ', afterEdits_append, induction]
      change (zipper.drafting.showing _).older = _
      rw [older_showing (by simpa using recallable) (by omega), history_drafting]
      congr 1
      omega

theorem afterEdits_of_noHistory (typed : zipper.depth = 0) (noHistory : zipper.history = [])
    {edits : List LineEdit} (recalls : ∀ edit ∈ edits, edit = .older ∨ edit = .newer) :
    zipper.afterEdits edits = zipper := by
  induction edits with
  | nil => rfl
  | cons edit edits induction =>
      have stays : zipper.perform edit = zipper := by
        rcases recalls edit List.mem_cons_self with rfl | rfl
        · exact if_pos noHistory
        · exact if_pos typed
      rw [afterEdits, List.foldl_cons, stays]
      exact induction fun other member => recalls other (List.mem_cons_of_mem edit member)

theorem text_backForth (typed : zipper.depth = 0) (count : Nat) :
    (zipper.afterEdits (LineEdit.backForth count)).text = zipper.text := by
  rcases Decidable.em (zipper.history = []) with noHistory | recallable
  · rw [afterEdits_of_noHistory typed noHistory]
    intro edit member
    exact (List.mem_append.mp member).imp List.eq_of_mem_replicate List.eq_of_mem_replicate
  · cases count with
    | zero => rfl
    | succ steps =>
        rw [LineEdit.backForth, afterEdits_append, afterEdits_older typed recallable, afterEdits_newer,
          Nat.sub_eq_zero_of_le (Nat.min_le_left _ _), drafting, if_pos typed]
        exact (List.append_nil _).trans (List.reverse_reverse _)

end LineZipper

/-! ## Lines as zippers -/

namespace LineBuffer

/-- The insertion point lies within the text, and what is recalled in the history. -/
structure WellPlaced (line : LineBuffer) : Prop where
  position : line.position ≤ line.text.length
  recalled : ∀ index ∈ line.recalled, index < line.history.length

/-- The two parts of a line. -/
def zipper (line : LineBuffer) : LineZipper where
  before := (line.text.take line.position).reverse
  after := line.text.drop line.position
  history := line.history
  depth := line.recalled.elim 0 (line.history.length - ·)
  draft := line.draft

variable {line : LineBuffer}

theorem text_zipper (line : LineBuffer) : line.zipper.text = line.text := by
  rw [LineZipper.text, zipper, List.reverse_reverse, List.take_append_drop]

theorem WellPlaced.length_before (placed : line.WellPlaced) :
    line.zipper.before.length = line.position := by
  rw [zipper, List.length_reverse, List.length_take_of_le placed.position]

theorem WellPlaced.typed_iff (placed : line.WellPlaced) :
    line.zipper.depth = 0 ↔ line.recalled = none := by
  cases recalled : line.recalled with
  | none => simp [zipper, recalled]
  | some index =>
      have inside := placed.recalled index recalled
      simp only [zipper, recalled, Option.elim_some, reduceCtorEq, iff_false]
      omega

/-- A line with the insertion point at its end. -/
theorem zipper_atEnd (atEnd : line.position = line.text.length) :
    line.zipper = { line.zipper with before := line.text.reverse, after := [] } := by
  simp [zipper, atEnd]

theorem zipper_ofText (text : String) : (ofText text).zipper = LineZipper.ofText text :=
  zipper_atEnd rfl

theorem zipper_start (text : String) (history : List String) :
    (start text history).zipper = LineZipper.start text history := zipper_atEnd rfl

theorem WellPlaced.exists_parts (placed : line.WellPlaced) :
    ∃ before after, line.text = before ++ after ∧ line.position = before.length :=
  ⟨line.text.take line.position, line.text.drop line.position, (List.take_append_drop _ _).symm,
    (List.length_take_of_le placed.position).symm⟩

theorem zipper_of_parts {before after : List Char} (isText : line.text = before ++ after)
    (isPosition : line.position = before.length) :
    line.zipper = { line.zipper with before := before.reverse, after } := by
  simp [zipper, isText, isPosition]

theorem zipper_insert (placed : line.WellPlaced) (text : List Char) :
    (line.insert text).zipper = line.zipper.insert text := by
  rcases placed.exists_parts with ⟨before, after, isText, isPosition⟩
  have inserted : (line.insert text).text = (before ++ text) ++ after := by
    simp [insert, isText, isPosition]
  rw [zipper_of_parts inserted (by simp [insert, isPosition]), zipper_of_parts isText isPosition,
    LineZipper.insert, List.reverse_append]
  rfl

theorem zipper_backspace (placed : line.WellPlaced) :
    line.backspace.zipper = line.zipper.backspace := by
  rcases placed.exists_parts with ⟨before, after, isText, isPosition⟩
  have removed : line.backspace.text = before.dropLast ++ after := by
    simp [backspace, isText, isPosition, List.dropLast_eq_take, List.take_append_of_le_length]
  rw [zipper_of_parts removed (by simp [backspace, isPosition]), zipper_of_parts isText isPosition,
    LineZipper.backspace, List.tail_reverse]
  rfl

theorem zipper_left (placed : line.WellPlaced) : line.left.zipper = line.zipper.left := by
  rcases placed.exists_parts with ⟨before, after, isText, isPosition⟩
  rw [zipper_of_parts isText isPosition]
  rcases List.eq_nil_or_concat' before with rfl | ⟨nearer, char, rfl⟩
  · exact zipper_of_parts isText (by simp [left, isPosition])
  · have moved : line.left.text = nearer ++ char :: after := by simp [left, isText]
    rw [zipper_of_parts moved (by simp [left, isPosition]), List.reverse_append]
    rfl

theorem zipper_right (placed : line.WellPlaced) : line.right.zipper = line.zipper.right := by
  rcases placed.exists_parts with ⟨before, after, isText, isPosition⟩
  rw [zipper_of_parts isText isPosition]
  cases after with
  | nil => exact zipper_of_parts isText (by simp [right, isText, isPosition])
  | cons char after =>
      have moved : line.right.text = (before ++ [char]) ++ after := by simp [right, isText]
      rw [zipper_of_parts moved (by simp [right, isText, isPosition]), List.reverse_append]
      rfl

theorem zipper_home (line : LineBuffer) : line.home.zipper = line.zipper.home := by
  rw [LineZipper.home, text_zipper]
  rfl

theorem zipper_toEnd (line : LineBuffer) : line.toEnd.zipper = line.zipper.toEnd := by
  rw [LineZipper.toEnd, text_zipper]
  exact zipper_atEnd rfl

theorem entry_zipper {index : Nat} (inside : index < line.history.length) :
    line.zipper.entry (line.history.length - index) = (line.history.getD index "").toList := by
  obtain ⟨back, isBack⟩ : ∃ back, line.history.length - index = back + 1 :=
    Nat.exists_eq_add_of_le' (by omega)
  have mirrored : line.history.length - 1 - back = index := by omega
  rw [isBack, LineZipper.entry, List.getD_eq_getElem _ _ (by simp [zipper]; omega),
    List.getElem_reverse]
  simp [zipper, mirrored, inside]

theorem zipper_recalling {index : Nat} (inside : index < line.history.length) :
    (line.recalling index).zipper = line.zipper.showing (line.history.length - index) := by
  rw [zipper_atEnd rfl, LineZipper.showing, entry_zipper inside]
  rfl

theorem zipper_older (placed : line.WellPlaced) : line.older.zipper = line.zipper.older := by
  have sameHistory : line.zipper.history = line.history := rfl
  unfold older LineZipper.older
  simp only [List.isEmpty_iff, sameHistory]
  rcases Decidable.em (line.history = []) with noHistory | recallable
  · rw [if_pos noHistory, if_pos noHistory]
  have someLine : 0 < line.history.length := List.length_pos_iff.mpr recallable
  rw [if_neg recallable, if_neg recallable]
  split
  · next recalled =>
    have newest : line.history.length - 1 < line.history.length := Nat.sub_lt someLine Nat.one_pos
    have isDepth : line.zipper.depth = 0 := placed.typed_iff.mpr recalled
    rw [@zipper_recalling { line with draft := line.text } _ newest, LineZipper.drafting,
      if_pos isDepth, text_zipper]
    refine congrArg₂ LineZipper.showing rfl ?_
    change line.history.length - (line.history.length - 1) = _
    omega
  · next index recalled =>
    have inside := placed.recalled index recalled
    have isDepth : line.zipper.depth = line.history.length - index := by simp [zipper, recalled]
    rw [zipper_recalling (by omega), LineZipper.drafting, if_neg (by omega), isDepth]
    congr 1
    omega

theorem zipper_newer (placed : line.WellPlaced) : line.newer.zipper = line.zipper.newer := by
  unfold newer LineZipper.newer
  cases recalled : line.recalled with
  | none => rw [if_pos (placed.typed_iff.mpr recalled)]
  | some index =>
      have inside := placed.recalled index recalled
      have isDepth : line.zipper.depth = line.history.length - index := by simp [zipper, recalled]
      rw [if_neg (by omega), isDepth]
      simp only
      split
      · next more =>
        rw [zipper_recalling more]
        congr 1
      · next last =>
        rw [show line.history.length - index - 1 = 0 by omega]
        exact zipper_atEnd rfl

/-- What is done to a line is done to its two parts. -/
theorem zipper_perform (placed : line.WellPlaced) (edit : LineEdit) :
    (line.perform edit).zipper = line.zipper.perform edit := by
  cases edit with
  | reset text history => exact zipper_start text history
  | insert text => exact zipper_insert placed text
  | backspace => exact zipper_backspace placed
  | left => exact zipper_left placed
  | right => exact zipper_right placed
  | home => exact zipper_home line
  | toEnd => exact zipper_toEnd line
  | older => exact zipper_older placed
  | newer => exact zipper_newer placed

theorem wellPlaced_ofText (text : String) : (ofText text).WellPlaced := ⟨Nat.le_refl _, nofun⟩

theorem wellPlaced_recalling {index : Nat} (inside : index < line.history.length) :
    (line.recalling index).WellPlaced := by
  refine ⟨Nat.le_refl _, ?_⟩
  rintro _ ⟨⟩
  exact inside

theorem WellPlaced.older (placed : line.WellPlaced) : line.older.WellPlaced := by
  unfold LineBuffer.older
  split
  · exact placed
  · next recallable =>
    have someLine : 0 < line.history.length := List.length_pos_iff.mpr (by simpa using recallable)
    split
    · exact wellPlaced_recalling (Nat.sub_lt someLine Nat.one_pos)
    · next index recalled =>
      exact wellPlaced_recalling (Nat.lt_of_le_of_lt (Nat.sub_le _ _) (placed.recalled index recalled))

theorem WellPlaced.newer (placed : line.WellPlaced) : line.newer.WellPlaced := by
  unfold LineBuffer.newer
  split
  · exact placed
  · split
    · next more => exact wellPlaced_recalling more
    · exact ⟨Nat.le_refl _, nofun⟩

theorem WellPlaced.perform (placed : line.WellPlaced) (edit : LineEdit) :
    (line.perform edit).WellPlaced := by
  have inside := placed.position
  cases edit with
  | reset text history => exact ⟨Nat.le_refl _, nofun⟩
  | insert text => exact ⟨by simp [LineBuffer.perform, LineBuffer.insert]; omega, placed.recalled⟩
  | backspace => exact ⟨by simp [LineBuffer.perform, LineBuffer.backspace]; omega, placed.recalled⟩
  | left => exact ⟨Nat.le_trans (Nat.sub_le _ _) inside, placed.recalled⟩
  | right => exact ⟨Nat.min_le_right _ _, placed.recalled⟩
  | home => exact ⟨Nat.zero_le _, placed.recalled⟩
  | toEnd => exact ⟨Nat.le_refl _, placed.recalled⟩
  | older => exact placed.older
  | newer => exact placed.newer

/-- The same along a run of edits. -/
theorem WellPlaced.afterEdits (placed : line.WellPlaced) (edits : List LineEdit) :
    (line.afterEdits edits).WellPlaced ∧
      (line.afterEdits edits).zipper = line.zipper.afterEdits edits := by
  induction edits generalizing line with
  | nil => exact ⟨placed, rfl⟩
  | cons edit edits induction =>
      have later := induction (placed.perform edit)
      rw [zipper_perform placed] at later
      exact later

/-- A line is the text of both parts, and its insertion point is where they meet. -/
structure Refines (line : LineBuffer) (zipper : LineZipper) : Prop where
  inside : line.position ≤ line.text.length
  text : line.text = zipper.before.reverse ++ zipper.after
  position : line.position = zipper.before.length

/--
After any edits a line is what the same edits make of a line in two parts. While a line
is being typed, steps back in the history and as many forth bring its text back.
-/
theorem edits_refine_zipper (text : String) (edits : List LineEdit) :
    ((ofText text).afterEdits edits).Refines ((LineZipper.ofText text).afterEdits edits) ∧
      (((ofText text).afterEdits edits).recalled = none → ∀ count,
        (((ofText text).afterEdits edits).afterEdits (LineEdit.backForth count)).text =
          ((ofText text).afterEdits edits).text) := by
  rcases (wellPlaced_ofText text).afterEdits edits with ⟨placed, isZipper⟩
  rw [zipper_ofText] at isZipper
  rw [← isZipper]
  refine ⟨⟨placed.position, (text_zipper _).symm, placed.length_before.symm⟩, fun typed count => ?_⟩
  calc (((ofText text).afterEdits edits).afterEdits (LineEdit.backForth count)).text
      = (((ofText text).afterEdits edits).afterEdits (LineEdit.backForth count)).zipper.text :=
        (text_zipper _).symm
    _ = (((ofText text).afterEdits edits).zipper.afterEdits (LineEdit.backForth count)).text := by
        rw [(placed.afterEdits _).2]
    _ = ((ofText text).afterEdits edits).zipper.text :=
        LineZipper.text_backForth (placed.typed_iff.mpr typed) count
    _ = ((ofText text).afterEdits edits).text := text_zipper _

/-- A line that is half typed, after two that can be recalled. -/
def typing : List LineEdit := [.reset "" ["bottom", "goto 3"], .insert "fil".toList, .left]

/-- Three steps back end at the older of two lines, and three steps forth at what was typed. -/
theorem edits_refine_typing :
    ((ofText "").afterEdits typing).recalled = none ∧
      (((ofText "").afterEdits typing).afterEdits (.replicate 3 .older)).text = "bottom".toList ∧
      (((ofText "").afterEdits typing).afterEdits (LineEdit.backForth 3)).text = "fil".toList := by
  have typed : ((ofText "").afterEdits typing).recalled = none := rfl
  exact ⟨typed, by decide, (edits_refine_zipper "" typing).2 typed 3⟩

end LineBuffer

end TableBrowser
