import TableBrowser.Calendar.Moment
/-!
# Values of cells and documents

A cell of a table holds a `Datum`, and so does every place of a document that
is read or written. Equality of data is exact: a whole number differs from the
same number with a fraction, and a truth value from both.
-/

namespace TableBrowser

inductive Datum where
  | null
  | boolean (value : Bool)
  | integer (value : Int)
  | number (value : Binary64)
  | text (value : String)
  | date (value : Date)
  | moment (value : Moment)
  | time (value : Time)
  | bytes (value : List UInt8)
  | list (items : List Datum)
  /-- Entries in the order in which they were given, keys distinct. -/
  | mapping (entries : List (Datum × Datum))
deriving Inhabited

namespace Datum

def isNull : Datum → Bool
  | .null => true
  | _ => false

def asText? : Datum → Option String
  | .text value => some value
  | _ => none

/-! ## Exact equality -/

mutual

def same : Datum → Datum → Bool
  | .null, .null => true
  | .boolean left, .boolean right => left == right
  | .integer left, .integer right => left == right
  | .number left, .number right => left == right
  | .text left, .text right => left == right
  | .date left, .date right => left == right
  | .moment left, .moment right => left == right
  | .time left, .time right => left == right
  | .bytes left, .bytes right => left == right
  | .list left, .list right => sameItems left right
  | .mapping left, .mapping right => sameEntries left right
  | _, _ => false

def sameItems : List Datum → List Datum → Bool
  | [], [] => true
  | left :: lefts, right :: rights => same left right && sameItems lefts rights
  | _, _ => false

def sameEntries : List (Datum × Datum) → List (Datum × Datum) → Bool
  | [], [] => true
  | (leftKey, left) :: lefts, (rightKey, right) :: rights =>
      same leftKey rightKey && same left right && sameEntries lefts rights
  | _, _ => false

end

mutual

theorem eq_of_same : ∀ (left right : Datum), same left right = true → left = right
  | .list left, .list right, equal => by
      simp only [same] at equal
      rw [eq_of_sameItems left right equal]
  | .mapping left, .mapping right, equal => by
      simp only [same] at equal
      rw [eq_of_sameEntries left right equal]
  | .null, right, equal => by cases right <;> simp_all [same]
  | .boolean _, right, equal => by cases right <;> simp_all [same]
  | .integer _, right, equal => by cases right <;> simp_all [same]
  | .number _, right, equal => by cases right <;> simp_all [same]
  | .text _, right, equal => by cases right <;> simp_all [same]
  | .date _, right, equal => by cases right <;> simp_all [same]
  | .moment _, right, equal => by cases right <;> simp_all [same]
  | .time _, right, equal => by cases right <;> simp_all [same]
  | .bytes _, right, equal => by cases right <;> simp_all [same]

theorem eq_of_sameItems : ∀ left right : List Datum, sameItems left right = true → left = right
  | [], [], _ => rfl
  | left :: lefts, right :: rights, equal => by
      simp only [sameItems, Bool.and_eq_true] at equal
      rw [eq_of_same left right equal.1, eq_of_sameItems lefts rights equal.2]
  | [], _ :: _, equal => by simp [sameItems] at equal
  | _ :: _, [], equal => by simp [sameItems] at equal

theorem eq_of_sameEntries : ∀ left right : List (Datum × Datum),
    sameEntries left right = true → left = right
  | [], [], _ => rfl
  | (leftKey, left) :: lefts, (rightKey, right) :: rights, equal => by
      simp only [sameEntries, Bool.and_eq_true] at equal
      rw [eq_of_same leftKey rightKey equal.1.1, eq_of_same left right equal.1.2,
        eq_of_sameEntries lefts rights equal.2]
  | [], _ :: _, equal => by simp [sameEntries] at equal
  | _ :: _, [], equal => by simp [sameEntries] at equal

end

mutual

theorem same_self : ∀ datum : Datum, same datum datum = true
  | .list items => by simp only [same, sameItems_self items]
  | .mapping entries => by simp only [same, sameEntries_self entries]
  | .null => by simp [same]
  | .boolean _ => by simp [same]
  | .integer _ => by simp [same]
  | .number _ => by simp [same]
  | .text _ => by simp [same]
  | .date _ => by simp [same]
  | .moment _ => by simp [same]
  | .time _ => by simp [same]
  | .bytes _ => by simp [same]

theorem sameItems_self : ∀ items : List Datum, sameItems items items = true
  | [] => by simp [sameItems]
  | item :: items => by simp [sameItems, same_self item, sameItems_self items]

theorem sameEntries_self : ∀ entries : List (Datum × Datum), sameEntries entries entries = true
  | [] => by simp [sameEntries]
  | (key, value) :: entries => by
      simp [sameEntries, same_self key, same_self value, sameEntries_self entries]

end

theorem same_iff {left right : Datum} : same left right = true ↔ left = right :=
  ⟨eq_of_same left right, fun equal => equal ▸ same_self left⟩

instance : DecidableEq Datum := fun _ _ => decidable_of_iff _ same_iff

/-! ## Mappings with text keys -/

def valueAt? (entries : List (Datum × Datum)) (key : String) : Option Datum :=
  (entries.find? (·.1 = .text key)).map (·.2)

/-- Sets an entry in place, or adds it at the end. -/
def put (entries : List (Datum × Datum)) (key value : Datum) : List (Datum × Datum) :=
  if entries.any (·.1 = key) then
    entries.map fun entry => if entry.1 = key then (key, value) else entry
  else entries ++ [(key, value)]

/-- The value under a text key, null when there is none. -/
def get (datum : Datum) (key : String) : Datum :=
  match datum with
  | .mapping entries => (valueAt? entries key).getD .null
  | _ => .null

def ofFields (fields : List (String × Datum)) : Datum :=
  .mapping (fields.map fun (name, value) => (.text name, value))

end Datum

end TableBrowser
