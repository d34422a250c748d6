import Mathlib

namespace RingBuffer

-- The element at offset o lives in cell o % capacity; only the last capacity elements survive.

def store (cells : Nat → α) (position : Nat) (chunk : List α) : Nat → α :=
  fun p => if position ≤ p then (chunk[p - position]?).getD (cells p) else cells p

def load (cells : Nat → α) (position count : Nat) : List α :=
  (List.range count).map fun i => cells (position + i)

theorem store_inside (inside : i < chunk.length) : some (store cells position chunk (position + i)) = chunk[i]? := by
  simp [store,inside]

theorem store_outside {chunk : List α} (outside : ∀ i, i < chunk.length → p ≠ position + i) :
    store cells position chunk p = cells p := by
  by_cases before : position ≤ p
  · have beyond : chunk.length ≤ p - position := by
      by_contra inside
      exact outside (p - position) (by omega) (by omega)
    simp [store,beyond]
  · simp [store,before]

-- Two offsets less than one capacity apart never share a cell.
theorem same_cell_far {a b capacity : Nat} (shared : a % capacity = b % capacity) (below : a < b) : a + capacity ≤ b := by
  have divides : capacity ∣ b - a := (Nat.modEq_iff_dvd' (Nat.le_of_lt below)).mp shared
  have bound := Nat.le_of_dvd (by omega) divides
  omega

variable {α : Type} (capacity : Nat) [NeZero capacity]

theorem position_lt (offset : Nat) : offset % capacity < capacity :=
  Nat.mod_lt _ (Nat.pos_of_neZero capacity)

omit [NeZero capacity] in
theorem cell_in_block (offset i : Nat) (inside : offset % capacity + i < capacity) :
    (offset + i) % capacity = offset % capacity + i := by
  rw [Nat.add_mod]
  have small : i % capacity = i := Nat.mod_eq_of_lt (by omega)
  rw [small,Nat.mod_eq_of_lt inside]

-- The write loop: the block is cut where the cells wrap around.
def copyIn (cells : Nat → α) (offset : Nat) (data : List α) (written : Nat) : Nat → α :=
  if more : written < data.length then
    let position := (offset + written) % capacity
    let chunk := min (capacity - position) (data.length - written)
    have : 0 < chunk := by
      have := position_lt capacity (offset + written)
      omega
    copyIn (store cells position ((data.drop written).take chunk)) offset data (written + chunk)
  else cells
termination_by data.length - written

def copyOut (cells : Nat → α) (offset length copied : Nat) (out : List α) : List α :=
  if more : copied < length then
    let position := (offset + copied) % capacity
    let chunk := min (capacity - position) (length - copied)
    have : 0 < chunk := by
      have := position_lt capacity (offset + copied)
      omega
    copyOut cells offset length (copied + chunk) (out ++ load cells position chunk)
  else out
termination_by length - copied

-- The cells represent a history when its retained window is found in them.
def Holds (cells : Nat → α) (history : List α) : Prop :=
  ∀ offset, offset < history.length → history.length ≤ offset + capacity →
    history[offset]? = some (cells (offset % capacity))

variable {capacity}

omit [NeZero capacity] in
theorem holds_nil : Holds capacity cells [] := by
  intro offset inside
  simp at inside

theorem store_holds {cells : Nat → α} (chunk : List α) (held : Holds capacity cells history)
    (fits : chunk.length ≤ capacity - history.length % capacity) :
    Holds capacity (store cells (history.length % capacity) chunk) (history ++ chunk) := by
  have room := position_lt capacity history.length
  intro offset inside kept
  simp only [List.length_append] at inside kept
  by_cases old : offset < history.length
  · -- A retained older offset cannot be in the cells just written.
    rw [List.getElem?_append_left old,held offset old (by omega),store_outside]
    intro i within shared
    have block := cell_in_block capacity history.length i (by omega)
    have far := same_cell_far (shared.trans block.symm) (by omega)
    omega
  · obtain ⟨i,rfl⟩ := Nat.exists_eq_add_of_le (Nat.le_of_not_lt old)
    have within : i < chunk.length := by omega
    rw [List.getElem?_append_right (by omega),cell_in_block capacity _ i (by omega),store_inside within]
    congr 1
    omega

theorem copyIn_holds (data : List α) (written : Nat)
    (held : Holds capacity cells (history ++ data.take written)) (bound : written ≤ data.length) :
    Holds capacity (copyIn capacity cells history.length data written) (history ++ data) := by
  fun_induction copyIn capacity cells history.length data written with
  | case1 cells written more position chunk _ ih =>
    have length : (history ++ data.take written).length = history.length + written := by simp; omega
    apply ih
    · rw [List.take_add,← List.append_assoc]
      have stored := store_holds ((data.drop written).take chunk) held (by simp [length]; omega)
      simpa only [length] using stored
    · omega
  | case2 cells written done =>
    rwa [List.take_of_length_le (by omega)] at held

omit [NeZero capacity] in
theorem load_eq (offset count : Nat) (held : Holds capacity cells history) (kept : history.length ≤ offset + capacity)
    (inside : offset + count ≤ history.length) (block : offset % capacity + count ≤ capacity) :
    load cells (offset % capacity) count = (history.drop offset).take count := by
  apply List.ext_getElem?
  intro i
  by_cases within : i < count
  · have value := held (offset + i) (by omega) (by omega)
    rw [cell_in_block capacity offset i (by omega)] at value
    simp [load,within,value]
  · simp [load,within]

theorem copyOut_eq (held : Holds capacity cells history) (kept : history.length ≤ offset + capacity)
    (inside : offset + length ≤ history.length) (bound : copied ≤ length) (soFar : out = (history.drop offset).take copied) :
    copyOut capacity cells offset length copied out = (history.drop offset).take length := by
  fun_induction copyOut capacity cells offset length copied out with
  | case1 copied out more position chunk _ ih =>
    have next := load_eq (offset + copied) chunk held (by omega) (by omega)
      (by change position + chunk ≤ capacity; omega)
    apply ih
    · omega
    · rw [soFar,List.take_add,List.drop_drop,next]
  | case2 copied out done =>
    have finished : copied = length := by omega
    rw [soFar,finished]

theorem copyOut_length (cells : Nat → α) (offset length copied : Nat) (out : List α) :
    (copyOut capacity cells offset length copied out).length = out.length + (length - copied) := by
  fun_induction copyOut capacity cells offset length copied out with
  | case1 copied out more position chunk _ ih =>
    rw [ih]
    simp only [load,List.length_append,List.length_map,List.length_range]
    omega
  | case2 copied out done =>
    omega

end RingBuffer
