import Mathlib.Data.List.Basic
/-!
# Quotes and brackets in text

A reader of text keeps count of the brackets that are open, and knows when it is
inside of quotes. What stands outside of them tells where a part of the text
ends: a comma ends an item, and a closing bracket the group that it closes. A
text is *whole* when a reader that meets it anywhere is where it was before.
Main statements: whole items are determined by the text in which commas separate
them, and groups in brackets by the text in which they follow each other.
-/

namespace TableBrowser.Nesting

/-! ## Reading -/

/-- Where a reader stands: how many brackets are open, and the quote that is. -/
inductive Place where
  | outside (depth : Nat)
  | inside (quote : Char) (depth : Nat)
  | escaped (quote : Char) (depth : Nat)

def isQuote (char : Char) : Bool := ['"', '\''].contains char

def opens (char : Char) : Bool := ['(', '[', '\x7b'].contains char

def closes (char : Char) : Bool := [')', ']', '\x7d'].contains char

/--
The place after a character. None follows a bracket that closes nothing, and
outside of all brackets a comma only when `commas` are let through.
-/
def Place.next (commas : Bool) : Place → Char → Option Place
  | .escaped quote depth, _ => some (.inside quote depth)
  | .inside quote depth, char =>
      if char = '\\' then some (.escaped quote depth)
      else if char = quote then some (.outside depth)
      else some (.inside quote depth)
  | .outside depth, char =>
      if isQuote char then some (.inside char depth)
      else if opens char then some (.outside (depth + 1))
      else if closes char then
        match depth with
        | 0 => none
        | depth + 1 => some (.outside depth)
      else if char = ',' && depth = 0 && !commas then none
      else some (.outside depth)

/-- The place after a whole text. -/
def reach (commas : Bool) (place : Place) (text : List Char) : Option Place :=
  text.foldlM (Place.next commas) place

variable {commas : Bool} {depth : Nat}

theorem reach_append (place : Place) (left right : List Char) :
    reach commas place (left ++ right) = (reach commas place left).bind (reach commas · right) :=
  List.foldlM_append ..

theorem reach_cons (place : Place) (char : Char) (text : List Char) :
    reach commas place (char :: text) = (place.next commas char).bind (reach commas · text) :=
  List.foldlM_cons ..

/-! ## Texts that a reader passes -/

/-- A reader that meets the text outside of quotes is where it was before. -/
def Passes (commas : Bool) (depth : Nat) (text : List Char) : Prop :=
  reach commas (.outside depth) text = some (.outside depth)

def Whole (text : List Char) : Prop := ∀ commas depth, Passes commas depth text

theorem Passes.nil : Passes commas depth [] := rfl

theorem Passes.append {left right : List Char} (leftPasses : Passes commas depth left)
    (rightPasses : Passes commas depth right) : Passes commas depth (left ++ right) := by
  rw [Passes, reach_append, leftPasses]
  exact rightPasses

theorem Passes.flatMap {α : Type} {text : α → List Char} (values : List α)
    (passes : ∀ value ∈ values, Passes commas depth (text value)) :
    Passes commas depth (values.flatMap text) := by
  induction values with
  | nil => exact Passes.nil
  | cons value values induction =>
      rw [List.flatMap_cons]
      apply Passes.append (passes value (by simp))
      exact induction fun other member => passes other (by simp [member])

/-- A character that opens, closes and ends nothing. -/
def IsOrdinary (char : Char) : Prop :=
  char ∉ ['"', '\'', '(', ')', '[', ']', '\x7b', '\x7d', ',', '\x00']

instance (char : Char) : Decidable (IsOrdinary char) := inferInstanceAs (Decidable (_ ∉ _))

theorem passes_singleton {char : Char} (ordinary : IsOrdinary char) :
    Passes commas depth [char] := by
  simp only [IsOrdinary, List.mem_cons, not_or] at ordinary
  simp [Passes, reach, Place.next, isQuote, opens, closes, ordinary]

theorem passes_comma (through : commas = true ∨ 0 < depth) : Passes commas depth [','] := by
  have isPassed : ¬ (depth = 0 ∧ commas = false) := by
    rintro ⟨rfl, rfl⟩
    simp at through
  simp [Passes, reach, Place.next, isQuote, opens, closes, isPassed]

theorem whole_of_ordinary {text : List Char} (ordinary : ∀ char ∈ text, IsOrdinary char) :
    Whole text := by
  intro commas depth
  have passes : Passes commas depth (text.flatMap ([·])) :=
    Passes.flatMap text fun char member => passes_singleton (ordinary char member)
  rwa [List.flatMap_singleton'] at passes

theorem Whole.append {left right : List Char} (leftWhole : Whole left) (rightWhole : Whole right) :
    Whole (left ++ right) := fun commas depth => (leftWhole commas depth).append (rightWhole commas depth)

/-! ## Items and brackets -/

theorem passes_intercalate {items : List (List Char)} (whole : ∀ item ∈ items, Whole item)
    (through : commas = true ∨ 0 < depth) : Passes commas depth ([',', ' '].intercalate items) := by
  have separator : Passes commas depth [',', ' '] :=
    (passes_comma through).append (passes_singleton (by decide))
  induction items with
  | nil => exact Passes.nil
  | cons item items induction =>
      have first := whole item (by simp) commas depth
      have others := induction fun other member => whole other (by simp [member])
      cases items with
      | nil => simpa using first
      | cons second items =>
          rw [List.intercalate_cons_cons]
          exact (first.append separator).append others

theorem next_of_opens {opening : Char} (isOpening : opens opening = true) :
    (Place.outside depth).next commas opening = some (.outside (depth + 1)) := by
  have noQuote : isQuote opening = false := by
    simp only [opens, List.contains_iff_mem, List.mem_cons, List.not_mem_nil, or_false] at isOpening
    rcases isOpening with rfl | rfl | rfl <;> rfl
  simp [Place.next, noQuote, isOpening]

theorem not_opens_of_closes {closing : Char} (isClosing : closes closing = true) :
    isQuote closing = false ∧ opens closing = false := by
  simp only [closes, List.contains_iff_mem, List.mem_cons, List.not_mem_nil, or_false] at isClosing
  rcases isClosing with rfl | rfl | rfl <;> exact ⟨rfl, rfl⟩

theorem next_of_closes {closing : Char} (isClosing : closes closing = true) :
    (Place.outside (depth + 1)).next commas closing = some (.outside depth) := by
  simp [Place.next, not_opens_of_closes isClosing, isClosing]

theorem stops_of_closes {closing : Char} (isClosing : closes closing = true) :
    (Place.outside 0).next commas closing = none := by
  simp [Place.next, not_opens_of_closes isClosing, isClosing]

/-- What stands between brackets is whole when a reader inside of them passes it. -/
theorem whole_between {opening closing : Char} {inner : List Char}
    (isOpening : opens opening = true) (isClosing : closes closing = true)
    (passes : ∀ commas depth, Passes commas (depth + 1) inner) :
    Whole (opening :: inner ++ [closing]) := by
  intro commas depth
  rw [Passes, List.cons_append, reach_cons, next_of_opens isOpening, Option.bind_some, reach_append,
    passes commas depth, Option.bind_some, reach_cons, next_of_closes isClosing]
  rfl

theorem toList_intercalate_comma (items : List String) :
    (", ".intercalate items).toList = [',', ' '].intercalate (items.map String.toList) := by
  rw [String.toList_intercalate]
  rfl

theorem passes_items {items : List String} (whole : ∀ item ∈ items, Whole item.toList)
    (through : commas = true ∨ 0 < depth) :
    Passes commas depth (", ".intercalate items).toList := by
  rw [toList_intercalate_comma]
  refine passes_intercalate (fun chars member => ?_) through
  rcases List.mem_map.mp member with ⟨item, itemMember, rfl⟩
  exact whole item itemMember

/-- Whole items in brackets are whole. -/
theorem whole_items {opening closing : Char} {items : List String}
    (isOpening : opens opening = true) (isClosing : closes closing = true)
    (whole : ∀ item ∈ items, Whole item.toList) :
    Whole (opening :: (", ".intercalate items).toList ++ [closing]) :=
  whole_between isOpening isClosing fun _ depth => passes_items whole (.inr depth.succ_pos)

/-! ## Quotes -/

/-- A reader inside of quotes stays there until the end of the text. -/
def Hidden (quote : Char) (text : List Char) : Prop :=
  ∀ commas depth, reach commas (.inside quote depth) text = some (.inside quote depth)

section Hidden

variable {quote : Char}

theorem Hidden.flatMap {α : Type} {text : α → List Char} (values : List α)
    (hidden : ∀ value ∈ values, Hidden quote (text value)) : Hidden quote (values.flatMap text) := by
  intro commas depth
  induction values with
  | nil => rfl
  | cons value values induction =>
      rw [List.flatMap_cons, reach_append, hidden value List.mem_cons_self commas depth]
      exact induction fun other member => hidden other (List.mem_cons_of_mem value member)

theorem Hidden.append {left right : List Char} (leftHidden : Hidden quote left)
    (rightHidden : Hidden quote right) : Hidden quote (left ++ right) := by
  intro commas depth
  rw [reach_append, leftHidden commas depth]
  exact rightHidden commas depth

theorem hidden_of_plain {text : List Char} (plain : ∀ char ∈ text, char ≠ '\\' ∧ char ≠ quote) :
    Hidden quote text := by
  intro commas depth
  induction text with
  | nil => rfl
  | cons char text induction =>
      rcases plain char List.mem_cons_self with ⟨noBackslash, noQuote⟩
      rw [reach_cons, Place.next, if_neg noBackslash, if_neg noQuote]
      exact induction fun other member => plain other (List.mem_cons_of_mem char member)

/-- The character after a backslash ends nothing. -/
theorem hidden_escape (sign : Char) : Hidden quote ['\\', sign] := by
  intro commas depth
  rfl

theorem whole_of_hidden {text : List Char} (isQuote : isQuote quote = true)
    (hidden : Hidden quote text) : Whole (quote :: text ++ [quote]) := by
  have noBackslash : quote ≠ '\\' := by
    rintro rfl
    cases isQuote
  intro commas depth
  have starts : (Place.outside depth).next commas quote = some (.inside quote depth) := if_pos isQuote
  have ends : (Place.inside quote depth).next commas quote = some (.outside depth) := by
    rw [Place.next, if_neg noBackslash, if_pos rfl]
  rw [Passes, List.cons_append, reach_cons, starts, Option.bind_some, reach_append,
    hidden commas depth, Option.bind_some, reach_cons, ends]
  rfl

end Hidden

/-! ## Parts that are told apart -/

/-- Two texts before characters that stop a reader are one and the same. -/
theorem append_inj_of_stops {left right leftRest rightRest : List Char} {leftStop rightStop : Char}
    (leftPasses : Passes commas depth left) (rightPasses : Passes commas depth right)
    (leftStops : (Place.outside depth).next commas leftStop = none)
    (rightStops : (Place.outside depth).next commas rightStop = none)
    (equal : left ++ leftStop :: leftRest = right ++ rightStop :: rightRest) :
    left = right ∧ leftRest = rightRest := by
  -- The longer one would hold the character that stops a reader of the shorter one.
  have stuck {shorter more : List Char} {stop : Char} (passes : Passes commas depth shorter)
      (stops : (Place.outside depth).next commas stop = none) :
      ¬ Passes commas depth (shorter ++ stop :: more) := by
    intro longer
    rw [Passes, reach_append, passes, Option.bind_some, reach_cons, stops] at longer
    cases longer
  rcases List.append_eq_append_iff.mp equal with ⟨more, isRight, rest⟩ | ⟨more, isLeft, rest⟩
  · cases more with
    | nil => exact ⟨by rw [isRight, List.append_nil], (List.cons.inj rest).2⟩
    | cons char more =>
        rw [isRight, ← (List.cons.inj rest).1] at rightPasses
        exact absurd rightPasses (stuck leftPasses leftStops)
  · cases more with
    | nil => exact ⟨by rw [isLeft, List.append_nil], (List.cons.inj rest).2.symm⟩
    | cons char more =>
        rw [isLeft, ← (List.cons.inj rest).1] at leftPasses
        exact absurd leftPasses (stuck rightPasses rightStops)

theorem append_comma_inj {left right leftRest rightRest : List Char} (leftWhole : Whole left)
    (rightWhole : Whole right) (equal : left ++ ',' :: leftRest = right ++ ',' :: rightRest) :
    left = right ∧ leftRest = rightRest :=
  append_inj_of_stops (leftWhole false 0) (rightWhole false 0) rfl rfl equal

theorem ne_append_comma {text item rest : List Char} (whole : Whole text) (itemWhole : Whole item) :
    text ≠ item ++ ',' :: rest := by
  intro equal
  have passes := whole false 0
  rw [equal, Passes, reach_append, itemWhole false 0] at passes
  cases passes

theorem intercalate_ne_nil {first : List Char} {others : List (List Char)} (written : first ≠ []) :
    [',', ' '].intercalate (first :: others) ≠ [] := by
  cases others with
  | nil => simpa using written
  | cons second others => simp [List.intercalate_cons_cons]

/-- Whole items that are not empty are determined by the text that they make up. -/
theorem intercalate_injective {left right : List (List Char)}
    (leftWhole : ∀ item ∈ left, Whole item ∧ item ≠ [])
    (rightWhole : ∀ item ∈ right, Whole item ∧ item ≠ [])
    (equal : [',', ' '].intercalate left = [',', ' '].intercalate right) : left = right := by
  induction left generalizing right with
  | nil =>
      cases right with
      | nil => rfl
      | cons first others =>
          exact absurd equal.symm (intercalate_ne_nil (rightWhole first (by simp)).2)
  | cons first others induction =>
      cases right with
      | nil => exact absurd equal (intercalate_ne_nil (leftWhole first (by simp)).2)
      | cons rightFirst rightOthers =>
          have firstWhole := (leftWhole first (by simp)).1
          have rightFirstWhole := (rightWhole rightFirst (by simp)).1
          cases others with
          | nil =>
              cases rightOthers with
              | nil => simpa using equal
              | cons second others =>
                  rw [List.intercalate_singleton, List.intercalate_cons_cons, List.append_assoc] at equal
                  exact absurd equal (ne_append_comma firstWhole rightFirstWhole)
          | cons second others =>
              cases rightOthers with
              | nil =>
                  rw [List.intercalate_singleton, List.intercalate_cons_cons, List.append_assoc] at equal
                  exact absurd equal.symm (ne_append_comma rightFirstWhole firstWhole)
              | cons rightSecond rightOthers =>
                  rw [List.intercalate_cons_cons, List.intercalate_cons_cons, List.append_assoc,
                    List.append_assoc] at equal
                  rcases append_comma_inj firstWhole rightFirstWhole equal with ⟨sameFirst, rest⟩
                  rw [sameFirst, induction (fun item member => leftWhole item (by simp [member]))
                    (fun item member => rightWhole item (by simp [member]))
                    (List.cons.inj rest).2]

/-- A text in brackets that opens no others than it closes. -/
def IsGroup (text : List Char) : Prop :=
  ∃ opening inner closing, opens opening = true ∧ closes closing = true ∧
    Passes true 0 inner ∧ text = opening :: (inner ++ [closing])

theorem IsGroup.append_inj {left right leftRest rightRest : List Char} (leftGroup : IsGroup left)
    (rightGroup : IsGroup right) (equal : left ++ leftRest = right ++ rightRest) :
    left = right ∧ leftRest = rightRest := by
  rcases leftGroup with ⟨opening, leftInner, leftClosing, _, leftCloses, leftPasses, rfl⟩
  rcases rightGroup with ⟨rightOpening, rightInner, rightClosing, _, rightCloses, rightPasses, rfl⟩
  simp only [List.cons_append, List.append_assoc, List.nil_append] at equal
  rcases List.cons.inj equal with ⟨sameOpening, rest⟩
  rcases append_inj_of_stops leftPasses rightPasses (stops_of_closes leftCloses)
    (stops_of_closes rightCloses) rest with ⟨rfl, sameRest⟩
  rw [sameRest] at rest
  exact ⟨by rw [sameOpening, (List.cons.inj (List.append_cancel_left rest)).1], sameRest⟩

/-- Parts of which none begins another are determined by the text in which they follow each other. -/
theorem flatten_injective {P : List Char → Prop} (notEmpty : ∀ part, P part → part ≠ [])
    (apart : ∀ {left right leftRest rightRest : List Char}, P left → P right →
      left ++ leftRest = right ++ rightRest → left = right ∧ leftRest = rightRest)
    {left right : List (List Char)} (leftParts : ∀ part ∈ left, P part)
    (rightParts : ∀ part ∈ right, P part) (equal : left.flatten = right.flatten) : left = right := by
  have someText {part : List Char} (others : List Char) (isPart : P part) : part ++ others ≠ [] :=
    fun none => notEmpty part isPart (List.append_eq_nil_iff.mp none).1
  induction left generalizing right with
  | nil =>
      cases right with
      | nil => rfl
      | cons part others =>
          exact absurd equal.symm (someText _ (rightParts part List.mem_cons_self))
  | cons part others induction =>
      cases right with
      | nil => exact absurd equal (someText _ (leftParts part List.mem_cons_self))
      | cons rightPart rightOthers =>
          rw [List.flatten_cons, List.flatten_cons] at equal
          rcases apart (leftParts part List.mem_cons_self) (rightParts rightPart List.mem_cons_self)
            equal with ⟨samePart, rest⟩
          rw [samePart, induction
            (fun other member => leftParts other (List.mem_cons_of_mem part member))
            (fun other member => rightParts other (List.mem_cons_of_mem rightPart member)) rest]

/-- Groups are determined by the text in which they follow each other. -/
theorem flatten_groups_injective {left right : List (List Char)}
    (leftGroups : ∀ group ∈ left, IsGroup group) (rightGroups : ∀ group ∈ right, IsGroup group)
    (equal : left.flatten = right.flatten) : left = right := by
  refine flatten_injective ?_ IsGroup.append_inj leftGroups rightGroups equal
  rintro group ⟨opening, inner, closing, _, _, _, rfl⟩
  simp

end TableBrowser.Nesting
