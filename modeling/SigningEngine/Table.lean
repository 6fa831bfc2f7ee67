/-!
# Finite tables

A table lists each of its keys once, so its size is the number of keys that have a value. What a
table says is the value at each key; the order of its list says nothing.
-/

namespace SigningEngine

structure Table (κ α : Type) where
  entries : List (κ × α) := []
  keys_nodup : (entries.map Prod.fst).Nodup := by simp

namespace Table

variable {κ α : Type}

instance : EmptyCollection (Table κ α) := ⟨{}⟩

instance : Inhabited (Table κ α) := ⟨∅⟩

def keys (table : Table κ α) : List κ := table.entries.map Prod.fst

def values (table : Table κ α) : List α := table.entries.map Prod.snd

def size (table : Table κ α) : Nat := table.entries.length

@[simp] theorem keys_empty : (∅ : Table κ α).keys = [] := rfl

@[simp] theorem length_keys (table : Table κ α) : table.keys.length = table.size :=
  List.length_map _

theorem eq_of_entries {table other : Table κ α} (h : table.entries = other.entries) :
    table = other := by
  cases table
  cases other
  cases h
  rfl

theorem entries_nodup (table : Table κ α) : table.entries.Nodup :=
  List.Pairwise.of_map Prod.fst (fun _ _ hkeys hsame => hkeys (congrArg Prod.fst hsame))
    table.keys_nodup

variable [DecidableEq κ]

/-- The value at a key. -/
def find? (table : Table κ α) (key : κ) : Option α := table.entries.lookup key

def contains (table : Table κ α) (key : κ) : Bool := (table.find? key).isSome

/-- Leaves every other key as it is. -/
def erase (table : Table κ α) (key : κ) : Table κ α where
  entries := table.entries.filter (·.1 ≠ key)
  keys_nodup := table.keys_nodup.sublist (List.filter_sublist.map _)

/-- Gives a key a value, whether it had one or not. -/
def insert (table : Table κ α) (key : κ) (value : α) : Table κ α where
  entries := (key, value) :: (table.erase key).entries
  keys_nodup := by
    rw [List.map_cons, List.nodup_cons]
    refine ⟨?_, (table.erase key).keys_nodup⟩
    simp [erase]

@[simp] theorem find?_empty (key : κ) : (∅ : Table κ α).find? key = none := rfl

theorem find?_eq_none_iff {table : Table κ α} {key : κ} :
    table.find? key = none ↔ key ∉ table.keys := by
  simp only [find?, keys, List.lookup_eq_none_iff, List.mem_map, not_exists, not_and]
  constructor
  · intro h entry hmem heq
    simpa [heq] using h entry hmem
  · intro h entry hmem
    simpa using fun heq => h entry hmem heq.symm

theorem contains_iff {table : Table κ α} {key : κ} :
    table.contains key = true ↔ key ∈ table.keys := by
  rw [contains, ← Option.ne_none_iff_isSome, Ne, find?_eq_none_iff, Decidable.not_not]

theorem lookup_filter_ne (entries : List (κ × α)) {key other : κ} (h : other ≠ key) :
    (entries.filter (·.1 ≠ key)).lookup other = entries.lookup other := by
  induction entries with
  | nil => rfl
  | cons entry rest ih =>
    obtain ⟨k, v⟩ := entry
    by_cases hk : k = key
    · subst hk
      have hother : (other == k) = false := by simp [h]
      rw [List.lookup_cons, hother, ← ih, List.filter_cons_of_neg (by simp)]
    · by_cases hsame : other = k
      · simp [hk, hsame]
      · have hother : (other == k) = false := by simp [hsame]
        simp [hk, List.lookup_cons, hother, ← ih]

@[simp] theorem find?_erase_self (table : Table κ α) (key : κ) :
    (table.erase key).find? key = none := by
  rw [find?_eq_none_iff]
  simp [keys, erase]

theorem find?_erase_of_ne (table : Table κ α) {key other : κ} (h : other ≠ key) :
    (table.erase key).find? other = table.find? other :=
  lookup_filter_ne table.entries h

theorem find?_of_erase {table : Table κ α} {key other : κ} {value : α}
    (h : (table.erase key).find? other = some value) : table.find? other = some value := by
  by_cases hsame : other = key
  · rw [hsame, find?_erase_self] at h
    cases h
  · rwa [find?_erase_of_ne table hsame] at h

@[simp] theorem find?_insert_self (table : Table κ α) (key : κ) (value : α) :
    (table.insert key value).find? key = some value := by
  simp [find?, insert]

theorem find?_insert_of_ne (table : Table κ α) {key other : κ} (value : α) (h : other ≠ key) :
    (table.insert key value).find? other = table.find? other := by
  have hother : (other == key) = false := by simp [h]
  rw [← find?_erase_of_ne table h]
  simp [find?, insert, List.lookup_cons, hother]

theorem contains_insert_iff {table : Table κ α} {key other : κ} {value : α} :
    (table.insert key value).contains other = true ↔
      other = key ∨ table.contains other = true := by
  by_cases h : other = key
  · simp [contains, h]
  · simp [contains, find?_insert_of_ne _ _ h, h]

theorem contains_erase_iff {table : Table κ α} {key other : κ} :
    (table.erase key).contains other = true ↔ other ≠ key ∧ table.contains other = true := by
  by_cases h : other = key
  · simp [contains, h]
  · simp [contains, find?_erase_of_ne _ h, h]

theorem contains_erase_self (table : Table κ α) (key : κ) :
    (table.erase key).contains key = false := by
  rw [contains, find?_erase_self]
  rfl

theorem contains_insert {table : Table κ α} {key other : κ} (value : α)
    (h : table.contains other = true) : (table.insert key value).contains other = true := by
  by_cases hsame : other = key
  · rw [contains, hsame, find?_insert_self]
    rfl
  · rwa [contains, find?_insert_of_ne _ _ hsame]

/-! ### Entries -/

theorem find?_eq_some_iff {table : Table κ α} {key : κ} {value : α} :
    table.find? key = some value ↔ (key, value) ∈ table.entries := by
  rw [find?, List.lookup_eq_some_iff]
  constructor
  · rintro ⟨before, behind, hentries, -⟩
    simp [hentries]
  · intro hmem
    obtain ⟨before, behind, hentries⟩ := List.append_of_mem hmem
    refine ⟨before, behind, hentries, fun entry hentry => ?_⟩
    have hnodup := table.keys_nodup
    rw [hentries, List.map_append, List.map_cons, List.nodup_append] at hnodup
    simpa using (hnodup.2.2 _ (List.mem_map_of_mem hentry) _ List.mem_cons_self).symm

theorem entries_perm_erase {table : Table κ α} {key : κ} {value : α}
    (h : table.find? key = some value) :
    table.entries.Perm ((key, value) :: (table.erase key).entries) := by
  have hnodup : ((key, value) :: (table.erase key).entries).Nodup :=
    List.nodup_cons.mpr ⟨by simp [erase], (table.erase key).entries_nodup⟩
  rw [List.perm_ext_iff_of_nodup table.entries_nodup hnodup]
  rintro ⟨other, found⟩
  rw [List.mem_cons, ← find?_eq_some_iff, ← find?_eq_some_iff]
  by_cases hsame : other = key
  · simp [hsame, h, eq_comm]
  · simp [find?_erase_of_ne _ hsame, hsame]

theorem erase_of_find?_eq_none {table : Table κ α} {key : κ} (h : table.find? key = none) :
    table.erase key = table := by
  rw [find?_eq_none_iff] at h
  apply eq_of_entries
  rw [erase, List.filter_eq_self]
  intro entry hentry
  have hother : entry.1 ≠ key := by
    rintro rfl
    exact h (List.mem_map_of_mem hentry)
  simpa using hother

/-- A key that goes is the only one that does. -/
theorem keys_erase (table : Table κ α) (key : κ) :
    (table.erase key).keys = table.keys.erase key := by
  rw [keys, keys, table.keys_nodup.erase_eq_filter key, erase, List.filter_map]
  congr 1
  apply List.filter_congr
  intro entry _
  rw [Bool.eq_iff_iff]
  simp

theorem keys_insert (table : Table κ α) (key : κ) (value : α) :
    (table.insert key value).keys = key :: table.keys.erase key := by
  rw [← keys_erase]
  rfl

theorem mem_values_iff {table : Table κ α} {value : α} :
    value ∈ table.values ↔ ∃ key, table.find? key = some value := by
  simp [values, find?_eq_some_iff]

/-- What was at a key goes. -/
theorem values_perm_erase (table : Table κ α) (key : κ) :
    ((table.find? key).toList ++ (table.erase key).values).Perm table.values := by
  cases h : table.find? key with
  | none =>
      rw [erase_of_find?_eq_none h]
      exact .refl _
  | some value => exact ((entries_perm_erase h).map Prod.snd).symm

/-- A value takes the place of what was at its key. -/
theorem values_perm_insert (table : Table κ α) (key : κ) (value : α) :
    ((table.find? key).toList ++ (table.insert key value).values).Perm
      (value :: table.values) :=
  List.perm_middle.trans ((table.values_perm_erase key).cons value)

end Table

end SigningEngine
