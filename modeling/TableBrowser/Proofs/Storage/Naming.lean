import TableBrowser.Proofs.Outcome
import TableBrowser.Storage.Destination
import TableBrowser.Storage.Source
/-!
# Names of files that meet faults

What is wrong with a name is reported, with one exception: a name may start at
the home directory of a user who is not known. Main statements: this is the only
fault of naming a source or a destination, and a name that has been made
absolute is free of it.
-/

namespace TableBrowser

theorem mem_of_mem_intercalate {α : Type} {separator : List α} {parts : List (List α)} {item : α}
    (member : item ∈ separator.intercalate parts) :
    item ∈ separator ∨ ∃ part ∈ parts, item ∈ part := by
  rcases List.mem_flatten.mp member with ⟨part, partMember, itemMember⟩
  induction parts with
  | nil => cases partMember
  | cons first rest induction =>
      cases rest with
      | nil =>
          rw [List.mem_singleton.mp partMember] at itemMember
          exact .inr ⟨first, List.mem_cons_self, itemMember⟩
      | cons second rest =>
          rw [List.intersperse_cons_cons, List.mem_cons, List.mem_cons] at partMember
          rcases partMember with isFirst | isSeparator | later
          · exact .inr ⟨first, List.mem_cons_self, isFirst ▸ itemMember⟩
          · exact .inl (isSeparator ▸ itemMember)
          · have joined : item ∈ separator.intercalate (second :: rest) :=
              List.mem_flatten.mpr ⟨part, later, itemMember⟩
            rcases induction joined later with inSeparator | ⟨other, otherMember, inOther⟩
            · exact .inl inSeparator
            · exact .inr ⟨other, List.mem_cons_of_mem first otherMember, inOther⟩

/-- The name starts at the home directory of a user who is not known. -/
def Surroundings.Homeless (surroundings : Surroundings) (text : String) : Prop :=
  ∃ first user rest, Path.ofText text = ⟨.relative, first :: rest⟩ ∧ first.toList = '~' :: user ∧
    surroundings.homes.lookup (String.ofList user) = none

namespace Surroundings

variable {surroundings : Surroundings}

theorem homeless_of_expandHome {text : String} {fault : Fault}
    (failed : surroundings.expandHome (Path.ofText text) = .error fault) :
    surroundings.Homeless text := by
  unfold expandHome at failed
  split at failed
  · next first rest root parts =>
    split at failed
    · next user isHome =>
      split at failed
      · cases failed
      · next unknown =>
        refine ⟨first, user, rest, ?_, isHome, unknown⟩
        rw [← root, ← parts]
    · cases failed
  · cases failed

theorem expandHome_of_absolute {path : Path} (isAbsolute : path.isAbsolute = true) :
    surroundings.expandHome path = .ok path := by
  unfold expandHome
  split
  · next root _ => simp [Path.isAbsolute, root] at isAbsolute
  · rfl

/-- Only a name that is found from a directory may not hold a null. -/
theorem homeless_or_null_of_normalize {base : Option Path} {text : String} {fault : Fault}
    (failed : surroundings.normalize base text = .error fault) :
    surroundings.Homeless text ∨ base ≠ none ∧ text.contains '\x00' = true := by
  unfold normalize at failed
  split at failed
  · cases failed
  · cases expanded : surroundings.expandHome (Path.ofText text) with
    | error other => exact .inl (homeless_of_expandHome expanded)
    | ok path =>
        rw [expanded] at failed
        cases base with
        | none => cases failed
        | some base =>
            by_cases isAbsolute : path.isAbsolute = true
            · simp only [bind, Except.bind, if_pos isAbsolute] at failed
              cases failed
            · by_cases null : text.contains '\x00' = true
              · exact .inr ⟨nofun, null⟩
              · simp only [bind, Except.bind, if_neg isAbsolute, if_neg null] at failed
                cases failed

theorem homeless_of_normalize {text : String} {fault : Fault}
    (failed : surroundings.normalize none text = .error fault) : surroundings.Homeless text :=
  (homeless_or_null_of_normalize failed).resolve_right fun found => found.1 rfl

end Surroundings

/-! ## Absolute names -/

namespace Path

theorem rootOf_slash (chars : List Char) : rootOf ('/' :: chars) ≠ .relative := by
  unfold rootOf
  rw [List.takeWhile_cons_of_pos (by decide), List.length_cons]
  split <;> simp_all

/-- An absolute path is still one when it is read from its text. -/
theorem isAbsolute_ofText_text {path : Path} (isAbsolute : path.isAbsolute = true) :
    (ofText path.text).isAbsolute = true := by
  have notRelative : path.root ≠ .relative := by simpa [Path.isAbsolute] using isAbsolute
  have slashed : ∃ chars, path.text.toList = '/' :: chars := by
    rw [text, if_neg fun both => notRelative both.1, String.toList_append]
    cases root : path.root with
    | relative => exact absurd root notRelative
    | absolute => exact ⟨_, rfl⟩
    | doubleSlash => exact ⟨_, rfl⟩
  rcases slashed with ⟨chars, isText⟩
  simpa [Path.isAbsolute, ofText, isText] using rootOf_slash chars

end Path

/-- A name that has been found from a directory can be read without knowing any home. -/
theorem Surroundings.exists_normalize_again {surroundings : Surroundings} {base : Path}
    {text normal : String} (isNormal : surroundings.normalize (some base) text = .ok normal) :
    ∃ again, surroundings.normalize none normal = .ok again := by
  have readable (path : Path) (isAbsolute : path.isAbsolute = true) :
      ∃ again, surroundings.normalize none path.text = .ok again := by
    unfold normalize
    split
    · exact ⟨_, rfl⟩
    · rw [expandHome_of_absolute (Path.isAbsolute_ofText_text isAbsolute)]
      exact ⟨_, rfl⟩
  unfold normalize at isNormal
  split at isNormal
  · next plain =>
    cases isNormal
    exact ⟨text, by rw [normalize, if_pos plain]⟩
  · rcases bind_eq_ok.mp isNormal with ⟨path, _, made⟩
    simp only at made
    split at made
    · next isAbsolute =>
      cases made
      exact readable path isAbsolute
    · split at made
      · cases made
      · cases made
        exact readable _ rfl

/-! ## Sources and destinations -/

/-- A source can be named when its name can be brought into a plain form. -/
theorem Source.faults_ofName {surroundings : Surroundings} {uri : String} {faulty : Prop}
    (named : ∀ fault, surroundings.normalize none uri = .error fault → faulty)
    (given options : Datum) : (Source.ofName surroundings uri given options).FaultsOnly faulty := by
  refine Raises.bind (Outcome.faultsOnly_mapError named) fun normal => ?_
  split
  · exact Outcome.faultsOnly_fail _
  · split
    · exact Raises.pure _
    · exact Outcome.faultsOnly_fail _
  · exact Outcome.faultsOnly_fail _

theorem Destination.faults_ofName (tree : FileTree) (uri : String) (given options : Datum) :
    (Destination.ofName tree uri given options).FaultsOnly (tree.surroundings.Homeless uri) := by
  refine Raises.bind (Outcome.faultsOnly_mapError fun _ => Surroundings.homeless_of_normalize)
    fun normal => ?_
  simp only
  split
  · exact Outcome.faultsOnly_fail _
  · split
    · exact Outcome.faultsOnly_fail _
    · exact Outcome.faultsOnly_fail _
    · refine Raises.bind (Raises.pure _) fun format => ?_
      split
      · exact Raises.pure _
      · exact Outcome.faultsOnly_fail _

/-- A destination keeps the options that it is given. -/
theorem Destination.options_ofName {tree : FileTree} {uri : String} {given options : Datum}
    {destination : Destination} (made : Destination.ofName tree uri given options = .ok destination) :
    destination.options = options := by
  rcases bind_eq_ok.mp made with ⟨normal, _, named⟩
  simp only at named
  split at named
  · cases named
  · split at named
    · cases named
    · cases named
    · rcases bind_eq_ok.mp named with ⟨format, _, placed⟩
      split at placed
      · cases placed
        rfl
      · cases placed

end TableBrowser
