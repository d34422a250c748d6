import Coflux.Foundation.Table

namespace FiniteMap
open List (map_cons sum_cons)
variable {κ α : Type} {table : Table κ α} {key : κ} {value old : α} {weight : κ → α → Nat}

def weigh (weight : κ → α → Nat) (table : Table κ α) : Nat :=
  (table.entries.map fun entry => weight entry.1 entry.2).sum

@[simp] theorem weigh_empty : weigh weight (∅ : Table κ α) = 0 := rfl

theorem size_weigh (table : Table κ α) : size table = weigh (fun _ _ => 1) table := by simp [size,weigh]

theorem sublist_sum {items larger : List (Sigma fun _ : κ => α)} (within : items.Sublist larger) :
    (items.map fun entry => weight entry.1 entry.2).sum ≤ (larger.map fun entry => weight entry.1 entry.2).sum := by
  induction within with
  | slnil => exact Nat.le_refl _
  | cons entry _ ih =>
    rw [map_cons,sum_cons]
    omega
  | cons_cons entry _ ih =>
    rw [map_cons,map_cons,sum_cons,sum_cons]
    omega

theorem weigh_mono (each : ∀ key value, weight key value ≤ heavier key value) :
    weigh weight table ≤ weigh heavier table := by
  unfold weigh
  induction table.entries with
  | nil => exact Nat.le_refl _
  | cons entry rest ih =>
    have first := each entry.1 entry.2
    simp only [map_cons,sum_cons]
    omega

variable [DecidableEq κ]

theorem kerase_sum (weight : κ → α → Nat) (items : List (Sigma fun _ : κ => α)) (found : items.dlookup key = some value) :
    ((items.kerase key).map fun entry => weight entry.1 entry.2).sum + weight key value =
      (items.map fun entry => weight entry.1 entry.2).sum := by
  induction items with
  | nil => cases found
  | cons head rest ih =>
    by_cases equal : key = head.1
    · subst equal
      rw [List.dlookup_cons_eq] at found
      cases found
      rw [List.kerase_cons_eq rfl,map_cons,sum_cons]
      exact Nat.add_comm _ _
    · rw [List.dlookup_cons_ne _ _ equal] at found
      rw [List.kerase_cons_ne equal,map_cons,map_cons,sum_cons,sum_cons,Nat.add_assoc,ih found]

theorem weigh_erase (found : table.lookup key = some value) :
    weigh weight (table.erase key) + weight key value = weigh weight table :=
  kerase_sum weight table.entries found

theorem weigh_insert_erase : weigh weight (table.insert key value) = weight key value + weigh weight (table.erase key) := rfl

theorem erase_absent (absent : table.lookup key = none) : table.erase key = table := by
  apply AList.ext
  exact List.kerase_of_notMem_keys (AList.lookup_eq_none.mp absent)

theorem weigh_insert_absent (absent : table.lookup key = none) :
    weigh weight (table.insert key value) = weight key value + weigh weight table := by
  rw [weigh_insert_erase,erase_absent absent]

theorem weigh_insert_present (present : table.lookup key = some old) :
    weigh weight (table.insert key value) + weight key old = weigh weight table + weight key value := by
  have erased : weigh weight (table.erase key) + weight key old = weigh weight table := weigh_erase present
  rw [weigh_insert_erase]
  omega

theorem size_erase (found : table.lookup key = some value) : size (table.erase key) + 1 = size table := by
  have counted := kerase_sum (fun _ _ => 1) _ found
  change (table.entries.kerase key).length + 1 = table.entries.length
  simpa using counted

theorem size_erase_le : size (table.erase key) ≤ size table := by
  cases found : table.lookup key with
  | none => rw [erase_absent found]
  | some value =>
    have erased := size_erase found
    omega

theorem weigh_le (within : ∀ key value, table.lookup key = some value → larger.lookup key = some value) :
    weigh weight table ≤ weigh weight larger := by
  have subset : table.entries ⊆ larger.entries := by
    intro entry mem
    have found : table.lookup entry.1 = some entry.2 := AList.mem_lookup_iff.mpr mem
    exact AList.mem_lookup_iff.mp (within _ _ found)
  have nodup : table.entries.Nodup := List.NodupKeys.nodup table.nodupKeys
  obtain ⟨same,perm,sub⟩ := List.subperm_of_subset nodup subset
  have equal : (same.map fun _ => weight _ _).sum = weigh weight table := (perm.map _).sum_nat
  rw [← equal]
  exact sublist_sum sub

theorem size_le (within : ∀ key value, table.lookup key = some value → larger.lookup key = some value) :
    size table ≤ size larger := by
  rw [size_weigh,size_weigh]
  exact weigh_le within

end FiniteMap

-- Give up one thing after the other until what is added fits or nothing may be given up.
namespace Eviction
variable {Store : Type} {full : Store → Bool} {evict : Store → Option Store}

def evictWhile (full : Store → Bool) (evict : Store → Option Store) : Nat → Store → Store
  | 0,store => store
  | fuel + 1,store =>
    if full store then
      match evict store with
      | some smaller => evictWhile full evict fuel smaller
      | none => store
    else store

theorem evictWhile_keeps {inv : Store → Prop}
    (keeps : ∀ store smaller, inv store → full store = true → evict store = some smaller → inv smaller)
    (start : inv store) : inv (evictWhile full evict fuel store) := by
  induction fuel generalizing store with
  | zero => exact start
  | succ fuel ih =>
    unfold evictWhile
    split
    · rename_i crowded
      split
      · rename_i evicted
        exact ih (keeps _ _ start crowded evicted)
      · exact start
    · exact start

-- As each eviction makes the store smaller, its size is fuel enough.
theorem evictWhile_ends {measure : Store → Nat}
    (less : ∀ store smaller, evict store = some smaller → measure smaller < measure store) (enough : measure store ≤ fuel) :
    full (evictWhile full evict fuel store) = false ∨ evict (evictWhile full evict fuel store) = none := by
  induction fuel generalizing store with
  | zero =>
    refine .inr ?_
    cases evicted : evict store with
    | none => exact evicted
    | some smaller =>
      have drop := less _ _ evicted
      omega
  | succ fuel ih =>
    unfold evictWhile
    split
    · split
      · rename_i evicted
        have drop := less _ _ evicted
        exact ih (by omega)
      · rename_i stuck
        exact .inr stuck
    · rename_i roomy
      exact .inl (Bool.eq_false_iff.mpr roomy)

end Eviction
