import TableBrowser.Proofs.Outcome
import TableBrowser.Search
/-!
# Usable searches

Only a query that is no pattern cannot be searched for, and so a query that was
taken once can be searched for in every view. Going from match to match changes
nothing but the current match, which is one of those that were found.
-/

namespace TableBrowser.Search

/-- The query can be searched for, whatever the view. -/
def Usable (search : Search) : Prop :=
  search.query.text.isEmpty = true ∨ search.query.mode ≠ .regex ∨
    ∃ pattern, Search.pattern search.query.caseSensitive search.query.text = .ok pattern

theorem Usable.of_query {search other : Search} (usable : search.Usable)
    (same : other.query = search.query) : other.Usable := by
  rwa [Usable, same]

/-- A query that finds something in one view can be searched for in all. -/
theorem Usable.of_find {threshold : Binary64} {query : Query} {view : Table}
    {found cells : List Coordinate} {index : Option Nat}
    (finds : find threshold query view = .ok found) :
    Usable { threshold, query, found := cells, index } := by
  unfold find at finds
  split at finds
  · next isEmpty => exact .inl isEmpty
  · cases mode : query.mode with
    | literal => exact .inr (.inl (by simp [mode]))
    | fuzzy => exact .inr (.inl (by simp [mode]))
    | regex =>
        rw [mode] at finds
        rcases bind_eq_ok.mp finds with ⟨pattern, isPattern, _⟩
        exact .inr (.inr ⟨pattern, isPattern⟩)

theorem Usable.exists_found {search : Search} (usable : search.Usable) (view : Table) :
    ∃ found, find search.threshold search.query view = .ok found := by
  unfold find
  split
  · exact ⟨[], rfl⟩
  · next notEmpty =>
    cases mode : search.query.mode with
    | literal => exact ⟨_, rfl⟩
    | fuzzy => exact ⟨_, rfl⟩
    | regex =>
        rcases usable with isEmpty | notRegex | ⟨pattern, isPattern⟩
        · exact absurd isEmpty notEmpty
        · exact absurd mode notRegex
        · exact ⟨_, by rw [isPattern]; rfl⟩

/-- A query that is searched for as a pattern is one; without text too. -/
theorem Usable.exists_pattern {search : Search} (usable : search.Usable)
    (isRegex : search.query.mode = .regex) :
    ∃ pattern, Search.pattern search.query.caseSensitive search.query.text = .ok pattern := by
  rcases usable with isEmpty | notRegex | isPattern
  · rw [String.isEmpty_iff.mp isEmpty]
    cases search.query.caseSensitive with
    | true => exact ⟨_, rfl⟩
    | false => exact ⟨_, rfl⟩
  · exact absurd isRegex notRegex
  · exact isPattern

/-- What cannot be searched for in one view cannot be searched for in another. -/
theorem exists_problem_recompute {search : Search} (unusable : ¬ search.Usable) (view : Table) :
    ∃ problem, search.recompute view = .error problem := by
  have isGiven : search.query.text.isEmpty ≠ true := fun isEmpty => unusable (.inl isEmpty)
  unfold Search.recompute
  rw [if_neg isGiven]
  cases finds : find search.threshold search.query view with
  | error problem => exact ⟨problem, rfl⟩
  | ok found => exact absurd ((Usable.of_find finds).of_query rfl) unusable

theorem usable_setQuery {search after : Search} {view : Table} {text : String}
    {mode : Option Mode} {caseSensitive : Option Bool}
    (made : search.setQuery view text mode caseSensitive = .ok after) : after.Usable := by
  rcases bind_eq_ok.mp made with ⟨found, finds, isAfter⟩
  cases isAfter
  exact Usable.of_find finds

/-- Only reading a pattern may meet a fault. -/
theorem faults_setQuery (search : Search) (view : Table) (text : String) (mode : Option Mode)
    (caseSensitive : Option Bool) : (search.setQuery view text mode caseSensitive).FaultsOnly
      (mode.getD search.query.mode = .regex ∧ ∃ fault, PatternText.parse
        (!caseSensitive.getD search.query.caseSensitive) text = .error (.fault fault)) := by
  refine Raises.bind ?_ fun _ => Raises.pure _
  unfold find
  split
  · exact Raises.pure _
  · simp only
    split
    · exact Raises.pure _
    · next isRegex =>
      refine Raises.bind ?_ fun _ => Raises.pure _
      unfold pattern
      split
      · exact Raises.pure _
      · exact Outcome.faultsOnly_fail _
      · next fault failed => exact Outcome.faultsOnly_fault ⟨isRegex, fault, failed⟩
    · exact Raises.pure _

theorem query_firstFrom (search : Search) (cursor : Coordinate) :
    (search.firstFrom cursor).1.query = search.query := by
  unfold firstFrom goTo
  repeat' split
  all_goals rfl

theorem found_firstFrom (search : Search) (cursor : Coordinate) :
    (search.firstFrom cursor).1.found = search.found := by
  unfold firstFrom goTo
  repeat' split
  all_goals rfl

theorem query_nextFrom (search : Search) (cursor : Coordinate) :
    (search.nextFrom cursor).1.query = search.query := by
  unfold nextFrom goTo
  repeat' split
  all_goals rfl

theorem query_previousFrom (search : Search) (cursor : Coordinate) :
    (search.previousFrom cursor).1.query = search.query := by
  unfold previousFrom goTo
  simp only
  repeat' split
  all_goals rfl

/-! ## Matches -/

/-- The matches are those of the query in a view. -/
def Finds (search : Search) (view : Table) : Prop :=
  find search.threshold search.query view = .ok search.found

/-- What holds of a search with a threshold whatever the view. -/
structure Coherent (threshold : Binary64) (search : Search) : Prop where
  threshold : search.threshold = threshold
  usable : search.Usable
  empty : search.query.text.isEmpty = true → search.found = []
  current : ∀ index, search.index = some index → index < search.found.length

variable {search : Search} {threshold : Binary64}

theorem coherent_start (threshold : Binary64) : ({ threshold } : Search).Coherent threshold where
  threshold := rfl
  usable := .inl rfl
  empty _ := rfl
  current _ isCurrent := by cases isCurrent

theorem Finds.of_empty {view : Table} (finds : search.Finds view)
    (isEmpty : search.query.text.isEmpty = true) : search.found = [] := by
  rw [Finds, find, if_pos isEmpty] at finds
  exact (Except.ok.inj finds).symm

/-- Made again, a search has the matches of the view. -/
theorem Usable.finds_recompute (usable : search.Usable) (view : Table) :
    ∃ again, search.recompute view = .ok again ∧ again.Coherent search.threshold ∧
      again.Finds view := by
  unfold Search.recompute
  cases isEmpty : search.query.text.isEmpty with
  | true =>
      refine ⟨_, rfl, ⟨rfl, usable.of_query rfl, fun _ => rfl, fun _ isCurrent => by cases isCurrent⟩,
        ?_⟩
      rw [Finds, find, if_pos isEmpty]
      rfl
  | false =>
      rcases usable.exists_found view with ⟨found, finds⟩
      rw [if_neg Bool.false_ne_true, finds]
      refine ⟨_, rfl, ⟨rfl, usable.of_query rfl, fun none => ?_, fun index isCurrent => ?_⟩, finds⟩
      · exact absurd (isEmpty.symm.trans none) Bool.false_ne_true
      · simpa using (Option.filter_eq_some_iff.mp isCurrent).2

theorem finds_setQuery {after : Search} {view : Table} {text : String} {mode : Option Mode}
    {caseSensitive : Option Bool}
    (made : search.setQuery view text mode caseSensitive = .ok after) :
    after.Coherent search.threshold ∧ after.Finds view := by
  rcases bind_eq_ok.mp made with ⟨found, finds, isAfter⟩
  cases isAfter
  have isFound : Finds { search with
      query := {
        text, mode := mode.getD search.query.mode
        caseSensitive := caseSensitive.getD search.query.caseSensitive }
      found, index := none } view := finds
  exact ⟨⟨rfl, Usable.of_find finds, isFound.of_empty, fun _ isCurrent => by cases isCurrent⟩, isFound⟩

/-- What a search becomes when it goes to another match, or to none. -/
def Visits (search after : Search) : Prop :=
  ∃ index, after = { search with index } ∧ ∀ place, index = some place → place < search.found.length

theorem Coherent.visits {after : Search} (coherent : search.Coherent threshold)
    (visits : search.Visits after) : after.Coherent threshold := by
  rcases visits with ⟨index, rfl, isPlace⟩
  exact ⟨coherent.threshold, coherent.usable.of_query rfl, coherent.empty, isPlace⟩

theorem Finds.visits {after : Search} {view : Table} (finds : search.Finds view)
    (visits : search.Visits after) : after.Finds view := by
  rcases visits with ⟨index, rfl, _⟩
  exact finds

theorem visits_goTo {index : Nat} (isPlace : index < search.found.length) :
    search.Visits (search.goTo index).1 :=
  ⟨some index, rfl, fun _ same => Option.some.inj same ▸ isPlace⟩

/-- Without matches, or without moving, the current match stays. -/
theorem Coherent.visits_self (coherent : search.Coherent threshold) : search.Visits search :=
  ⟨search.index, rfl, coherent.current⟩

theorem getD_lt {place : Option Nat} {other bound : Nat} (inBounds : ∀ index, place = some index →
    index < bound) (otherInBounds : other < bound) : place.getD other < bound := by
  cases place with
  | none => exact otherInBounds
  | some index => exact inBounds index rfl

theorem lt_of_findIdx? {α : Type} {holds : α → Bool} {items : List α} {index : Nat}
    (found : items.findIdx? holds = some index) : index < items.length :=
  (List.findIdx?_eq_some_iff_getElem.mp found).1

theorem length_pos_of_not_isEmpty (some : ¬ search.found.isEmpty = true) : 0 < search.found.length :=
  List.length_pos_of_ne_nil (mt List.isEmpty_iff.mpr some)

theorem Coherent.firstFrom (coherent : search.Coherent threshold) (cursor : Coordinate) :
    search.Visits (search.firstFrom cursor).1 := by
  unfold Search.firstFrom
  split
  · exact coherent.visits_self
  · next some =>
    have length := length_pos_of_not_isEmpty some
    split
    · exact visits_goTo length
    · exact visits_goTo (getD_lt (fun _ => lt_of_findIdx?) length)

theorem Coherent.nextFrom (coherent : search.Coherent threshold) (cursor : Coordinate) :
    search.Visits (search.nextFrom cursor).1 := by
  unfold Search.nextFrom
  split
  · exact coherent.visits_self
  · next some =>
    have length := length_pos_of_not_isEmpty some
    split
    · exact visits_goTo (Nat.mod_lt _ length)
    · split
      · exact visits_goTo length
      · exact visits_goTo (getD_lt (fun _ => lt_of_findIdx?) length)

theorem Coherent.previousFrom (coherent : search.Coherent threshold) (cursor : Coordinate) :
    search.Visits (search.previousFrom cursor).1 := by
  unfold Search.previousFrom
  split
  · exact coherent.visits_self
  · next some =>
    have length := length_pos_of_not_isEmpty some
    have last : search.found.length - 1 < search.found.length := by omega
    simp only
    split
    · exact visits_goTo (Nat.mod_lt _ length)
    · split
      · exact visits_goTo last
      · refine visits_goTo (getD_lt (fun index isPlace => ?_) last)
        rcases Option.map_eq_some_iff.mp isPlace with ⟨numbered, isLast, rfl⟩
        have member := List.mem_of_mem_filter (List.mem_of_getLast? isLast)
        exact List.snd_lt_of_mem_zipIdx member

end TableBrowser.Search
