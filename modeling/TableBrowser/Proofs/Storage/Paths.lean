import Mathlib.Data.List.DropRight
import TableBrowser.Proofs.Storage.Naming
/-!
# Paths that are read again

The parts of a path that has been read are names, so its text is read as the same
path. Main statements: a name that has been brought into its plain form stays as
it is, and a path leads from two directories to one place when they have the same
directory above them where the path turns down again.
-/

namespace TableBrowser

namespace Path

/-! ## Names -/

/-- A part of a path that is kept when its text is read. -/
def IsName (part : String) : Prop := part ≠ "" ∧ part ≠ "." ∧ '/' ∉ part.toList

instance : DecidablePred IsName := fun part => inferInstanceAs (Decidable (part ≠ "" ∧ _ ∧ _))

def Plain (path : Path) : Prop := ∀ part ∈ path.parts, IsName part

theorem splitSlashes_slash {part : List Char} (noSlash : '/' ∉ part) (rest : List Char) :
    splitSlashes (part ++ '/' :: rest) = part :: splitSlashes rest := by
  induction part with
  | nil => rfl
  | cons char chars induction =>
      rw [List.mem_cons, not_or] at noSlash
      rw [List.cons_append, splitSlashes, if_neg (Ne.symm noSlash.1), induction noSlash.2]

theorem splitSlashes_of_noSlash {part : List Char} (noSlash : '/' ∉ part) :
    splitSlashes part = [part] := by
  induction part with
  | nil => rfl
  | cons char chars induction =>
      rw [List.mem_cons, not_or] at noSlash
      rw [splitSlashes, if_neg (Ne.symm noSlash.1), induction noSlash.2]

theorem noSlash_of_mem_splitSlashes {chars part : List Char} (member : part ∈ splitSlashes chars) :
    '/' ∉ part := by
  induction chars generalizing part with
  | nil =>
      rw [List.mem_singleton.mp member]
      exact List.not_mem_nil
  | cons char chars induction =>
      rw [splitSlashes] at member
      split at member
      · rcases List.mem_cons.mp member with rfl | later
        · exact List.not_mem_nil
        · exact induction later
      · next notSlash =>
        split at member
        · rw [List.mem_singleton.mp member, List.mem_singleton]
          exact Ne.symm notSlash
        · next first others parts =>
          rcases List.mem_cons.mp member with rfl | later
          · rw [List.mem_cons, not_or]
            exact ⟨Ne.symm notSlash, induction (parts ▸ List.mem_cons_self)⟩
          · exact induction (parts ▸ List.mem_cons_of_mem first later)

theorem isName_iff {part : String} :
    IsName part ↔ isStep part.toList = true ∧ '/' ∉ part.toList := by
  have isPoint : part = "." ↔ part.toList = ['.'] := String.toList_inj.symm
  simp [IsName, isStep, isPoint, and_assoc]

theorem plain_ofText (text : String) : (ofText text).Plain := by
  intro part member
  rcases List.mem_map.mp member with ⟨chars, isPart, rfl⟩
  rcases List.mem_filter.mp isPart with ⟨between, isStep⟩
  rw [isName_iff, String.toList_ofList]
  exact ⟨isStep, noSlash_of_mem_splitSlashes between⟩

/-! ## Texts of paths -/

/-- The parts between the slashes of a text that was made of names. -/
theorem splitSlashes_intercalate {first : String} {rest : List String}
    (names : ∀ part ∈ first :: rest, IsName part) :
    splitSlashes ("/".intercalate (first :: rest)).toList = (first :: rest).map String.toList := by
  rw [String.toList_intercalate]
  induction rest generalizing first with
  | nil => simpa using splitSlashes_of_noSlash (names first List.mem_cons_self).2.2
  | cons second rest induction =>
      have later : ∀ part ∈ second :: rest, IsName part := fun part member =>
        names part (List.mem_cons_of_mem _ member)
      have others := induction later
      rw [List.map_cons, List.map_cons, List.intercalate_cons_cons]
      rw [List.map_cons] at others
      change splitSlashes (first.toList ++ ['/'] ++ _) = _
      rw [List.append_assoc, List.singleton_append,
        splitSlashes_slash (names first List.mem_cons_self).2.2, others]

theorem filter_isStep_of_names {parts : List String} (names : ∀ part ∈ parts, IsName part) :
    ((parts.map String.toList).filter isStep).map String.ofList = parts := by
  have all : (parts.map String.toList).filter isStep = parts.map String.toList := by
    rw [List.filter_eq_self]
    intro chars member
    rcases List.mem_map.mp member with ⟨part, isPart, rfl⟩
    exact (isName_iff.mp (names part isPart)).1
  rw [all, List.map_map]
  simp [Function.comp_def]

theorem rootOf_text (root : PathRoot) {chars : List Char} (noSlash : chars.head? ≠ some '/') :
    rootOf (root.text.toList ++ chars) = root := by
  have nothing : chars.takeWhile (· = '/') = [] := by
    cases chars with
    | nil => rfl
    | cons char chars =>
        exact List.takeWhile_cons_of_neg (by simpa using noSlash)
  cases root with
  | relative =>
      change rootOf chars = _
      rw [rootOf, nothing]
      rfl
  | absolute =>
      change rootOf ('/' :: chars) = _
      rw [rootOf, List.takeWhile_cons_of_pos (by rfl), nothing]
      rfl
  | doubleSlash =>
      change rootOf ('/' :: '/' :: chars) = _
      rw [rootOf, List.takeWhile_cons_of_pos (by rfl), List.takeWhile_cons_of_pos (by rfl), nothing]
      rfl

/-- The slashes that a path starts with are no parts. -/
theorem filter_isStep_text (root : PathRoot) (chars : List Char) :
    (splitSlashes (root.text.toList ++ chars)).filter isStep =
      (splitSlashes chars).filter isStep := by
  cases root with
  | relative => rfl
  | absolute =>
      change ([] :: splitSlashes chars).filter isStep = _
      rw [List.filter_cons_of_neg (by decide)]
  | doubleSlash =>
      change ([] :: [] :: splitSlashes chars).filter isStep = _
      rw [List.filter_cons_of_neg (by decide), List.filter_cons_of_neg (by decide)]

theorem head?_ne_slash {first : String} {rest : List String}
    (names : ∀ part ∈ first :: rest, IsName part) :
    ("/".intercalate (first :: rest)).toList.head? ≠ some '/' := by
  intro isSlash
  rcases List.head?_eq_some_iff.mp isSlash with ⟨chars, isText⟩
  have parts := splitSlashes_intercalate names
  -- A slash in front would leave an empty part before it.
  rw [isText] at parts
  have isEmpty : [] = first.toList := (List.cons.inj parts).1
  exact (names first List.mem_cons_self).1 (String.toList_eq_nil_iff.mp isEmpty.symm)

/-- A path of names is read from its text. -/
theorem ofText_text {path : Path} (plain : path.Plain) : ofText path.text = path := by
  rcases path with ⟨root, parts⟩
  cases parts with
  | nil => cases root <;> decide
  | cons first rest =>
      have isText : ((⟨root, first :: rest⟩ : Path).text).toList =
          root.text.toList ++ ("/".intercalate (first :: rest)).toList := by
        rw [Path.text, if_neg (by simp), String.toList_append]
      rw [ofText, isText, rootOf_text root (head?_ne_slash plain), filter_isStep_text,
        splitSlashes_intercalate plain, filter_isStep_of_names plain]

/-- The text of a path has no two slashes after a name. -/
theorem not_prefix_text {path : Path} (plain : path.Plain) {name : List Char} (notEmpty : name ≠ [])
    (noSlash : '/' ∉ name) : ¬name ++ ['/', '/'] <+: path.text.toList := by
  rintro ⟨rest, isText⟩
  rw [List.append_assoc] at isText
  rcases path with ⟨root, parts⟩
  have isRelative : root = .relative := by
    have again : rootOf (name ++ (['/', '/'] ++ rest)) = root := by
      rw [isText]
      exact congrArg Path.root (ofText_text plain)
    have noneBefore : (name ++ (['/', '/'] ++ rest)).head? ≠ some '/' := fun isSlash => by
      rw [List.head?_append_of_ne_nil _ notEmpty] at isSlash
      exact noSlash (List.mem_of_mem_head? isSlash)
    exact again.symm.trans (rootOf_text .relative noneBefore)
  subst isRelative
  cases parts with
  | nil =>
      have joined := congrArg splitSlashes isText
      rw [List.cons_append, splitSlashes_slash noSlash] at joined
      have both := congrArg List.length joined
      simp [Path.text, splitSlashes] at both
  | cons first others =>
      have joined := congrArg splitSlashes isText
      change _ = splitSlashes ("/".intercalate (first :: others)).toList at joined
      rw [List.cons_append, splitSlashes_slash noSlash, splitSlashes_intercalate plain,
        List.map_cons] at joined
      have isSecond : [] ∈ others.map String.toList := by
        rw [← (List.cons.inj joined).2]
        exact List.mem_cons_self
      rcases List.mem_map.mp isSecond with ⟨part, member, isEmpty⟩
      exact (plain part (List.mem_cons_of_mem first member)).1 (String.toList_eq_nil_iff.mp isEmpty)

theorem isAddress_text {path : Path} (plain : path.Plain) : isAddress path.text = false := by
  have none (name : List Char) (notEmpty : name ≠ []) (noSlash : '/' ∉ name) :
      (name ++ ['/', '/']).isPrefixOf path.text.toList = false := by
    rw [Bool.eq_false_iff, ne_eq, List.isPrefixOf_iff_prefix]
    exact not_prefix_text plain notEmpty noSlash
  have http := none "http:".toList (by decide) (by decide)
  have https := none "https:".toList (by decide) (by decide)
  have storage := none "s3:".toList (by decide) (by decide)
  change (_ || (_ || (_ || false))) = false
  rw [Bool.or_false]
  simp only [Bool.or_eq_false_iff]
  exact ⟨http, https, storage⟩

/-! ## Parts that lead back -/

theorem withoutParents_append (done left right : List String) :
    withoutParents done (left ++ right) = withoutParents (withoutParents done left) right := by
  induction left generalizing done with
  | nil => rfl
  | cons part parts induction =>
      rw [List.cons_append, withoutParents, withoutParents]
      split
      · exact induction _
      · exact induction _

theorem mem_withoutParents {done parts : List String} {part : String}
    (member : part ∈ withoutParents done parts) : part ∈ done ∨ part ∈ parts ∧ part ≠ ".." := by
  induction parts generalizing done with
  | nil => exact .inl member
  | cons first rest induction =>
      rw [withoutParents] at member
      split at member
      · rcases induction member with before | ⟨later, notBack⟩
        · exact .inl ((List.dropLast_subset done) before)
        · exact .inr ⟨List.mem_cons_of_mem first later, notBack⟩
      · next notBack =>
        rcases induction member with before | ⟨later, notBack⟩
        · rcases List.mem_append.mp before with earlier | isFirst
          · exact .inl earlier
          · rw [List.mem_singleton.mp isFirst]
            exact .inr ⟨List.mem_cons_self, notBack⟩
        · exact .inr ⟨List.mem_cons_of_mem first later, notBack⟩

theorem withoutParents_of_forward {parts : List String} (forward : ".." ∉ parts)
    (done : List String) : withoutParents done parts = done ++ parts := by
  induction parts generalizing done with
  | nil => exact (List.append_nil done).symm
  | cons part parts induction =>
      rw [List.mem_cons, not_or] at forward
      rw [withoutParents, if_neg (Ne.symm forward.1), induction forward.2, List.append_assoc]
      rfl

/--
Where parts lead: how many directories above the one they start from, and down
which parts from there. What has been gone through so far is given.
-/
def landing (above : Nat) (down : List String) : List String → Nat × List String
  | [] => (above, down)
  | part :: parts =>
      if part = ".." then
        if down = [] then landing (above + 1) [] parts else landing above down.dropLast parts
      else landing above (down ++ [part]) parts

/-- The number of directories above the one they start from that parts lead to. -/
def climb (path : Path) : Nat := (landing 0 [] path.parts).1

theorem withoutParents_landing (start : List String) (above : Nat) (down parts : List String) :
    withoutParents (start.rdrop above ++ down) parts =
      start.rdrop (landing above down parts).1 ++ (landing above down parts).2 := by
  induction parts generalizing above down with
  | nil => rfl
  | cons part parts induction =>
      rw [withoutParents, landing]
      by_cases back : part = ".."
      · rw [if_pos back, if_pos back]
        by_cases atTop : down = []
        · have higher : (start.rdrop above ++ []).dropLast = start.rdrop (above + 1) ++ [] := by
            rw [List.append_nil, List.append_nil, List.rdrop_eq_reverse_drop_reverse,
              List.rdrop_eq_reverse_drop_reverse, List.dropLast_reverse, List.tail_drop]
          rw [if_pos atTop, atTop, higher]
          exact induction (above + 1) []
        · rw [if_neg atTop, List.dropLast_append_of_ne_nil atTop]
          exact induction above down.dropLast
      · rw [if_neg back, if_neg back, List.append_assoc]
        exact induction above (down ++ [part])

/-- A path leads from two directories to one place exactly when they have the same directory above
them where the path turns down again. -/
theorem withoutParents_eq_iff (left right : List String) (path : Path) :
    withoutParents left path.parts = withoutParents right path.parts ↔
      left.rdrop path.climb = right.rdrop path.climb := by
  have fromStart (start : List String) :
      withoutParents start path.parts = start.rdrop path.climb ++ (landing 0 [] path.parts).2 := by
    have landed := withoutParents_landing start 0 [] path.parts
    rwa [List.rdrop_zero, List.append_nil] at landed
  rw [fromStart, fromStart, List.append_left_inj]

theorem forward_withoutParents {done : List String} (forward : ".." ∉ done)
    (parts : List String) : ".." ∉ withoutParents done parts := by
  intro member
  rcases mem_withoutParents member with before | ⟨_, notBack⟩
  · exact forward before
  · exact notBack rfl

theorem join_of_relative (directory : Path) {path : Path} (relative : path.isAbsolute = false) :
    directory.join path = { directory with parts := directory.parts ++ path.parts } := by
  rw [join, if_neg (Bool.eq_false_iff.mp relative)]

theorem isAbsolute_join {directory : Path} (isAbsolute : directory.isAbsolute = true)
    (path : Path) : (directory.join path).isAbsolute = true := by
  rw [join]
  split
  · assumption
  · exact isAbsolute

theorem plain_join {directory path : Path} (isPlain : directory.Plain) (plain : path.Plain) :
    (directory.join path).Plain := by
  rw [join]
  split
  · exact plain
  · exact fun part member => (List.mem_append.mp member).elim (isPlain part) (plain part)

end Path

namespace Surroundings

/-- The working directory has a path of names, and the home directories have absolute paths. -/
structure Proper (surroundings : Surroundings) : Prop where
  directory : ∀ part ∈ surroundings.directory, Path.IsName part
  homes : ∀ home ∈ surroundings.homes, (Path.ofText home.2).isAbsolute = true

variable {surroundings : Surroundings}

/-- The path of the working directory. -/
def here (surroundings : Surroundings) : Path := surroundings.resolve ⟨.relative, []⟩

theorem plain_resolve (proper : surroundings.Proper) {path : Path} (plain : path.Plain) :
    (surroundings.resolve path).Plain := by
  intro part member
  rcases Path.mem_withoutParents member with before | ⟨isPart, _⟩
  · cases before
  · split at isPart
    · exact plain part isPart
    · exact (List.mem_append.mp isPart).elim (proper.directory part) (plain part)

theorem resolve_resolve (path : Path) :
    surroundings.resolve (surroundings.resolve path) = surroundings.resolve path := by
  have forward : ".." ∉ (surroundings.resolve path).parts :=
    Path.forward_withoutParents List.not_mem_nil _
  have again := Path.withoutParents_of_forward forward []
  rw [List.nil_append] at again
  exact congrArg (Path.mk .absolute) again

theorem resolve_of_relative {path : Path} (relative : path.isAbsolute = false) :
    surroundings.resolve path =
      ⟨.absolute, Path.withoutParents surroundings.here.parts path.parts⟩ := by
  rw [resolve, relative]
  change Path.mk _ (Path.withoutParents [] (surroundings.directory ++ path.parts)) =
    ⟨_, Path.withoutParents (Path.withoutParents [] (surroundings.directory ++ [])) path.parts⟩
  rw [List.append_nil, Path.withoutParents_append]

theorem resolve_join (directory : Path) {path : Path} (relative : path.isAbsolute = false) :
    surroundings.resolve (directory.join path) =
      ⟨.absolute, Path.withoutParents (surroundings.resolve directory).parts path.parts⟩ := by
  rw [Path.join_of_relative directory relative]
  unfold resolve
  rw [← Path.withoutParents_append]
  congr 2
  by_cases isAbsolute : directory.isAbsolute = true
  · rw [if_pos isAbsolute]
    exact if_pos isAbsolute
  · rw [if_neg isAbsolute, List.append_assoc]
    exact if_neg isAbsolute

/-- A relative path leads to the same place from a directory as from the working directory exactly
when the directories above them, where it turns down again, are the same. -/
theorem resolve_join_eq_iff (directory : Path) {path : Path} (relative : path.isAbsolute = false) :
    surroundings.resolve (directory.join path) = surroundings.resolve path ↔
      (surroundings.resolve directory).parts.rdrop path.climb =
        surroundings.here.parts.rdrop path.climb := by
  rw [resolve_join directory relative, resolve_of_relative relative, Path.mk.injEq,
    ← Path.withoutParents_eq_iff]
  exact and_iff_right rfl

/-! ## Plain forms -/

theorem home_isAbsolute (proper : surroundings.Proper) {user home : String}
    (isHome : surroundings.homes.lookup user = some home) :
    (Path.ofText home).isAbsolute = true := by
  rcases List.lookup_eq_some_iff.mp isHome with ⟨before, after, all, _⟩
  exact proper.homes (user, home) (all ▸ List.mem_append_right before List.mem_cons_self)

/-- A path that has been expanded is of names and is not expanded again. -/
theorem expanded (proper : surroundings.Proper) {given path : Path} (plain : given.Plain)
    (expands : surroundings.expandHome given = .ok path) :
    path.Plain ∧ surroundings.expandHome path = .ok path := by
  have before := expands
  unfold expandHome at expands
  split at expands
  · next first rest root parts =>
    split at expands
    · next user isUser =>
      split at expands
      · next home isHome =>
        rw [← Except.ok.inj expands]
        refine ⟨Path.plain_join (Path.plain_ofText home) fun part member => ?_,
          expandHome_of_absolute (Path.isAbsolute_join (home_isAbsolute proper isHome) _)⟩
        exact plain part (parts ▸ List.mem_cons_of_mem first member)
      · cases expands
    · rw [← Except.ok.inj expands] at before ⊢
      exact ⟨plain, before⟩
  · rw [← Except.ok.inj expands] at before ⊢
    exact ⟨plain, before⟩

/-- The name of a file in its plain form: the text of a path that is not expanded. -/
def IsPlainName (surroundings : Surroundings) (name : String) : Prop :=
  isAddress name = false ∧ (Path.ofText name).Plain ∧
    surroundings.expandHome (Path.ofText name) = .ok (Path.ofText name) ∧
    (name = "" ∨ (Path.ofText name).text = name)

theorem isPlainName_of_normalize (proper : surroundings.Proper) {name normal : String}
    (notAddress : isAddress name = false)
    (isNormal : surroundings.normalize none name = .ok normal) :
    surroundings.IsPlainName normal := by
  unfold normalize at isNormal
  rw [notAddress, Bool.or_false] at isNormal
  split at isNormal
  · next isEmpty =>
    cases isNormal
    rw [String.isEmpty_iff.mp isEmpty]
    exact ⟨rfl, Path.plain_ofText "", rfl, .inl rfl⟩
  · rcases bind_eq_ok.mp isNormal with ⟨path, expands, made⟩
    rw [← Except.ok.inj made]
    rcases expanded proper (Path.plain_ofText name) expands with ⟨plain, stays⟩
    rw [IsPlainName, Path.ofText_text plain]
    exact ⟨Path.isAddress_text plain, plain, stays, .inr rfl⟩

/-- What a name in its plain form is, found from a directory. -/
theorem normalize_plain (base : Path) {name : String} (isPlain : surroundings.IsPlainName name) :
    surroundings.normalize (some base) name =
      if name = "" ∨ (Path.ofText name).isAbsolute = true then .ok name
      else if name.contains '\x00' then .error .embeddedNull
      else .ok (surroundings.resolve (base.join (Path.ofText name))).text := by
  rcases isPlain with ⟨notAddress, _, expands, isText⟩
  rw [normalize, notAddress, Bool.or_false, expands]
  by_cases isEmpty : name = ""
  · rw [if_pos (String.isEmpty_iff.mpr isEmpty), if_pos (.inl isEmpty)]
  · rw [if_neg (fun none => isEmpty (String.isEmpty_iff.mp none))]
    change (if (Path.ofText name).isAbsolute = true then pure (Path.ofText name).text else _) = _
    by_cases isAbsolute : (Path.ofText name).isAbsolute = true
    · rw [if_pos isAbsolute, if_pos (.inr isAbsolute), isText.resolve_left isEmpty]
      rfl
    · rw [if_neg isAbsolute, if_neg (not_or.mpr ⟨isEmpty, isAbsolute⟩)]
      rfl

end Surroundings

end TableBrowser
