import Mathlib

namespace FiniteMap
open AList (mem_keys mem_lookup_iff)

-- No order of the entries is observable unless a caller sorts them.
abbrev Table (κ α : Type) := AList fun _ : κ => α

variable {κ α : Type} [DecidableEq κ] {table : Table κ α} {key other : κ} {value : α}

def size (table : Table κ α) : Nat := table.entries.length

def entries (table : Table κ α) : List (κ × α) :=
  table.entries.map fun entry => (entry.1,entry.2)

def mapValues (change : κ → α → α) (table : Table κ α) : Table κ α :=
  ⟨table.entries.map fun entry => ⟨entry.1,change entry.1 entry.2⟩,by
    have keys : (table.entries.map fun entry => (⟨entry.1,change entry.1 entry.2⟩ : Sigma fun _ : κ => α)).keys =
        table.entries.keys := by simp [List.keys,Function.comp_def]
    simpa [List.NodupKeys,keys] using table.nodupKeys⟩

omit [DecidableEq κ] in
theorem size_eq_keys : size table = table.keys.length := by
  simp [size,AList.keys,List.keys]

theorem size_insert_absent (absent : table.lookup key = none) : size (table.insert key value) = size table + 1 := by
  have missing : key ∉ table.keys := by
    rw [← mem_keys]
    exact AList.lookup_eq_none.mp absent
  simp [size_eq_keys,AList.keys_insert,List.erase_of_not_mem missing]

theorem size_insert_present (present : table.lookup key = some old) : size (table.insert key value) = size table := by
  have mem : key ∈ table.keys := by
    rw [← mem_keys,← AList.lookup_isSome,present]
    rfl
  have positive : 0 < table.keys.length := List.length_pos_of_mem mem
  simp only [size_eq_keys,AList.keys_insert,List.length_cons,List.length_erase_of_mem mem]
  omega

theorem entries_lookup (mem : entry ∈ entries table) : table.lookup entry.1 = some entry.2 := by
  simp only [entries,List.mem_map] at mem
  obtain ⟨_,present,rfl⟩ := mem
  exact mem_lookup_iff.mpr present

theorem mem_entries : entry ∈ entries table ↔ table.lookup entry.1 = some entry.2 := by
  refine ⟨entries_lookup,?_⟩
  intro found
  exact List.mem_map.mpr ⟨{entry with},mem_lookup_iff.mp found,rfl⟩

theorem empty_of_absent (absent : ∀ key, table.lookup key = none) : table = ∅ := by
  apply AList.ext
  apply List.eq_nil_iff_forall_not_mem.mpr
  intro entry mem
  have found : table.lookup entry.1 = some entry.2 := mem_lookup_iff.mpr mem
  rw [absent entry.1] at found
  cases found

omit [DecidableEq κ] in
theorem entries_keys_nodup (table : Table κ α) : ((entries table).map Prod.fst).Nodup := by
  simpa [entries,Function.comp_def,AList.keys,List.keys] using table.keys_nodup

omit [DecidableEq κ] in
theorem keys_mapValues : (mapValues change table).keys = table.keys := by
  simp [mapValues,AList.keys,List.keys,Function.comp_def]

omit [DecidableEq κ] in
theorem mem_mapValues : key ∈ mapValues change table ↔ key ∈ table := by
  rw [mem_keys,mem_keys,keys_mapValues]

theorem dlookup_map (change : κ → α → α) (entries : List (Sigma fun _ : κ => α)) (key : κ) :
    List.dlookup key (entries.map fun entry => (⟨entry.1,change entry.1 entry.2⟩ : Sigma fun _ : κ => α)) =
      (List.dlookup key entries).map (change key) := by
  induction entries with
  | nil => rfl
  | cons entry rest ih =>
    obtain ⟨name,_⟩ := entry
    by_cases same : key = name
    · subst same
      simp
    · simp only [List.map_cons]
      rw [List.dlookup_cons_ne _ _ same,List.dlookup_cons_ne _ _ same]
      exact ih

theorem lookup_mapValues (change : κ → α → α) (table : Table κ α) (key : κ) :
    (mapValues change table).lookup key = (table.lookup key).map (change key) :=
  dlookup_map change table.entries key

def keep (test : κ → α → Bool) (table : Table κ α) : Table κ α :=
  ⟨table.entries.filter fun entry => test entry.1 entry.2,by
    have sub : (table.entries.filter fun entry => test entry.1 entry.2).Sublist table.entries := List.filter_sublist
    exact List.NodupKeys.sublist sub table.nodupKeys⟩

theorem keep_lookup (found : (keep test table).lookup key = some value) :
    table.lookup key = some value ∧ test key value = true := by
  have mem : (⟨key,value⟩ : Sigma fun _ : κ => α) ∈ (keep _ _).entries := mem_lookup_iff.mp found
  simp only [keep,List.mem_filter] at mem
  exact ⟨mem_lookup_iff.mpr mem.1,mem.2⟩

theorem lookup_keep (found : table.lookup key = some value) (passes : test key value = true) :
    (keep test table).lookup key = some value := by
  apply mem_lookup_iff.mpr
  exact List.mem_filter.mpr ⟨mem_lookup_iff.mp found,passes⟩

-- The entry with the least key goes, as an ordered map drops its first.
def popFirst [Min κ] (table : Table κ α) : Table κ α :=
  match table.keys.min? with
  | some least => table.erase least
  | none => table

theorem popFirst_kept [Min κ] (found : (popFirst table).lookup key = some value) : table.lookup key = some value := by
  unfold popFirst at found
  split at found
  · rename_i least _
    by_cases same : key = least
    · subst same
      simp at found
    · rwa [AList.lookup_erase_ne same] at found
  · exact found

theorem mem_insert_cases (mem : other ∈ table.insert key value) : other = key ∨ other ∈ table := by
  simpa [AList.mem_insert] using mem

theorem mem_erase_parts (mem : other ∈ table.erase key) : other ≠ key ∧ other ∈ table := by
  simpa using mem

theorem insert_lookup (found : (table.insert other stored).lookup key = some value) :
    key = other ∧ value = stored ∨ key ≠ other ∧ table.lookup key = some value := by
  by_cases same : key = other
  · rw [same,AList.lookup_insert] at found
    exact .inl ⟨same,(Option.some.inj found).symm⟩
  · rw [AList.lookup_insert_ne same] at found
    exact .inr ⟨same,found⟩

theorem erase_lookup (kept : (table.erase other).lookup key = some value) : table.lookup key = some value := by
  by_cases same : key = other
  · rw [same,AList.lookup_erase] at kept
    cases kept
  · rwa [AList.lookup_erase_ne same] at kept

theorem mem_of_lookup (found : table.lookup key = some value) : key ∈ table := by
  rw [← AList.lookup_isSome,found]
  rfl

def Each (p : κ → α → Prop) (table : Table κ α) : Prop := ∀ key value, table.lookup key = some value → p key value

section Each
variable {p : κ → α → Prop}

theorem Each.empty : Each p ∅ := by
  intro key value found
  cases found

theorem Each.insert (all : Each p table) (new : p key value) : Each p (table.insert key value) := by
  intro other stored found
  rcases insert_lookup found with ⟨rfl,rfl⟩ | ⟨_,earlier⟩
  · exact new
  · exact all _ _ earlier

theorem Each.erase (all : Each p table) : Each p (table.erase key) := fun other stored found => all other stored (erase_lookup found)

theorem Each.mapValues (all : Each p table) (keeps : ∀ key value, p key value → p key (change key value)) :
    Each p (FiniteMap.mapValues change table) := by
  intro key value found
  rw [lookup_mapValues] at found
  obtain ⟨_,earlier,rfl⟩ := Option.map_eq_some_iff.mp found
  exact keeps _ _ (all _ _ earlier)

end Each

end FiniteMap
