import TableBrowser.Proofs.Step.Application
/-!
# Results that are kept

Whatever is done to a cache, its entries are old ones or the one that was just
kept, and they are never more than it can hold. A cache is *sound* for a base
table when each entry is the result of some steps that have its key.
-/

namespace TableBrowser

namespace ResultCache

/-! ## Entries -/

theorem mem_of_find? {cache : ResultCache} {key : String} {table : Table}
    (found : cache.find? key = some table) : (key, table) ∈ cache.entries := by
  rcases List.lookup_eq_some_iff.mp found with ⟨before, after, entries, _⟩
  rw [entries]
  simp

theorem erase_sublist (cache : ResultCache) (key : String) :
    (cache.erase key).entries.Sublist cache.entries :=
  List.filter_sublist

theorem mem_insert {cache : ResultCache} {key : String} {table : Table} {entry : String × Table}
    (member : entry ∈ (cache.insert key table).entries) :
    entry = (key, table) ∨ entry ∈ cache.entries := by
  have kept := List.mem_of_mem_drop member
  rcases List.mem_append.mp kept with old | new
  · exact .inr ((cache.erase_sublist key).subset old)
  · exact .inl (List.mem_singleton.mp new)

theorem length_insert_le (cache : ResultCache) (key : String) (table : Table) :
    (cache.insert key table).entries.length ≤ cache.capacity := by
  simp only [insert, List.length_drop]
  omega

/-- Without the entries of a key that it holds, a cache is smaller. -/
theorem length_erase_lt {cache : ResultCache} {key : String} {table : Table}
    (member : (key, table) ∈ cache.entries) :
    (cache.erase key).entries.length < cache.entries.length := by
  apply List.length_filter_lt_length_iff_exists.mpr
  exact ⟨(key, table), member, by simp⟩

theorem use?_eq_some {cache used : ResultCache} {key : String} {table : Table}
    (isUsed : cache.use? key = some (table, used)) :
    (key, table) ∈ cache.entries ∧
      used = { cache with entries := (cache.erase key).entries ++ [(key, table)] } := by
  rcases Option.map_eq_some_iff.mp isUsed with ⟨found, isFound, made⟩
  cases made
  exact ⟨mem_of_find? isFound, rfl⟩

/-! ## Results that are not kept -/

/-- Nothing is kept under a key. -/
def Lacks (cache : ResultCache) (key : String) : Prop := ∀ entry ∈ cache.entries, entry.1 ≠ key

theorem lacks_erase (cache : ResultCache) (key : String) : (cache.erase key).Lacks key :=
  fun _ member => by simpa using (List.mem_filter.mp member).2

theorem Lacks.find? {cache : ResultCache} {key : String} (lacks : cache.Lacks key) :
    cache.find? key = none := by
  cases found : cache.find? key with
  | none => rfl
  | some table => exact absurd rfl (lacks _ (mem_of_find? found))

theorem Lacks.use {cache used : ResultCache} {key other : String} {table : Table}
    (lacks : cache.Lacks key) (isUsed : cache.use? other = some (table, used)) :
    used.Lacks key := by
  rcases use?_eq_some isUsed with ⟨member, rfl⟩
  intro entry entryMember
  rcases List.mem_append.mp entryMember with old | same
  · exact lacks entry ((cache.erase_sublist other).subset old)
  · rw [List.mem_singleton.mp same]
    exact lacks _ member

theorem Lacks.remember {cache : ResultCache} {key : String} {steps : List Step}
    (lacks : cache.Lacks key) (others : stepsKey steps ≠ .ok key) (table : Table) :
    (cache.remember steps table).Lacks key := by
  unfold ResultCache.remember
  split
  · next other isKey =>
    intro entry member
    rcases mem_insert member with rfl | old
    · rintro rfl
      exact others isKey
    · exact lacks entry old
  · exact lacks

/-! ## Sound caches -/

variable {relation : String} {base : Table}

structure Sound (relation : String) (base : Table) (cache : ResultCache) : Prop where
  keeps : ∀ entry ∈ cache.entries, ∃ steps,
    stepsKey steps = .ok entry.1 ∧ applySteps relation base steps = .ok entry.2
  fits : cache.entries.length ≤ cache.capacity

theorem Sound.of_sublist {cache smaller : ResultCache} (sound : cache.Sound relation base)
    (sublist : smaller.entries.Sublist cache.entries) (capacity : smaller.capacity = cache.capacity) :
    smaller.Sound relation base where
  keeps entry member := sound.keeps entry (sublist.subset member)
  fits := by
    rw [capacity]
    exact sublist.length_le.trans sound.fits

theorem Sound.use {cache used : ResultCache} {key : String} {table : Table}
    (sound : cache.Sound relation base) (isUsed : cache.use? key = some (table, used)) :
    used.Sound relation base := by
  rcases use?_eq_some isUsed with ⟨member, rfl⟩
  constructor
  · intro entry entryMember
    rcases List.mem_append.mp entryMember with old | same
    · exact sound.keeps entry ((cache.erase_sublist key).subset old)
    · rw [List.mem_singleton.mp same]
      exact sound.keeps _ member
  · have smaller := length_erase_lt member
    have fits := sound.fits
    simp only [List.length_append, List.length_singleton]
    omega

theorem Sound.remember {cache : ResultCache} {steps : List Step} {table : Table}
    (sound : cache.Sound relation base) (applied : applySteps relation base steps = .ok table) :
    (cache.remember steps table).Sound relation base := by
  unfold ResultCache.remember
  split
  · next key isKey =>
    constructor
    · intro entry member
      rcases mem_insert member with rfl | old
      · exact ⟨steps, isKey, applied⟩
      · exact sound.keeps entry old
    · exact cache.length_insert_le key table
  · exact sound

theorem sound_start (relation : String) (base : Table) (capacity : Nat) :
    ((empty capacity).remember [] base).Sound relation base := by
  apply Sound.remember _ rfl
  exact ⟨by simp [empty], by simp [empty]⟩

@[simp] theorem capacity_remember (cache : ResultCache) (steps : List Step) (table : Table) :
    (cache.remember steps table).capacity = cache.capacity := by
  unfold ResultCache.remember
  split <;> rfl

/-- What is kept under the key of valid steps is their result. -/
theorem Sound.result {cache : ResultCache} {steps : List Step} {key : String} {table : Table}
    (sound : cache.Sound relation base) (isKey : stepsKey steps = .ok key)
    (member : (key, table) ∈ cache.entries) (valid : ∀ step ∈ steps, step.Valid) :
    applySteps relation base steps = .ok table := by
  rcases sound.keeps _ member with ⟨kept, keptKey, applied⟩
  rw [applySteps_eq_of_stepsKey isKey keptKey valid (valid_of_applyFrom applied), applied]

end ResultCache

end TableBrowser
