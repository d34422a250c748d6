import Coflux.Foundation.Machine
import Coflux.Foundation.Table
import Coflux.Foundation.Text

namespace Coflux.Runtime
open StepMachine FiniteMap Text

structure Held where
  values : Table String Bytes
  retired : List Bytes

-- One piece of the output: a byte copied, or the marker written for a stretch of the input.
inductive Written where
  | copied (byte : UInt8)
  | redacted (length : Nat)
  deriving DecidableEq

def Written.bytes : Written → Bytes
  | .copied byte => [byte]
  | .redacted _ => [42,42,42]

def closeOutput (input : Bytes) (copiedUntil : Nat) : Option (List Written) → List Written
  | none => input.map .copied
  | some out => out ++ (input.drop copiedUntil).map .copied

def redactLoop (input : Bytes) (values : List Bytes) : Nat → Nat → Nat → Option (List Written) → List Written
  | fuel + 1,index,copiedUntil,output =>
    if index < input.length then
      match values.find? fun value => value.isPrefixOf (input.drop index) with
      | some value =>
        redactLoop input values fuel (index + value.length) (index + value.length)
          (some (output.getD [] ++ ((input.take index).drop copiedUntil).map .copied ++ [.redacted value.length]))
      | none => redactLoop input values fuel (index + 1) copiedUntil output
    else closeOutput input copiedUntil output
  | 0,_,copiedUntil,output => closeOutput input copiedUntil output

-- The index grows in every round, so the rounds are no more than the bytes.
def redactWith (input : Bytes) (values : List Bytes) : List Written := redactLoop input values input.length 0 0 none

def dedup : List Bytes → List Bytes
  | first :: second :: rest => if first = second then dedup (second :: rest) else first :: dedup (second :: rest)
  | short => short

def heldValues (sessions : Table String Held) : List Bytes :=
  ((entries sessions).flatMap fun held => (entries held.2.values).map Prod.snd ++ held.2.retired).filter fun value => value ≠ []

def redact (sessions : Table String Held) (input : Bytes) : List Written :=
  let values := heldValues sessions
  if values = [] then input.map .copied
  else redactWith input (dedup (values.insertionSort fun one two => two.length ≤ one.length))

def Occurs (value input : Bytes) (index : Nat) : Prop := value <+: input.drop index

instance : Decidable (Occurs value input index) := inferInstanceAs (Decidable (_ <+: _))

def Inside (values : List Bytes) (input : Bytes) (index : Nat) : Prop :=
  ∃ value ∈ values, ∃ start, Occurs value input start ∧ start ≤ index ∧ index < start + value.length

-- Bytes outside every occurrence are copied in order, those inside one are replaced by a marker.
inductive Covered (values : List Bytes) (input : Bytes) : Nat → List Written → Prop where
  | done : Covered values input input.length []
  | copied (here : input[index]? = some byte) (outside : ¬ Inside values input index)
      (rest : Covered values input (index + 1) out) : Covered values input index (.copied byte :: out)
  | redacted (hidden : ∀ position, index ≤ position → position < index + length → Inside values input position)
      (rest : Covered values input (index + length) out) : Covered values input index (.redacted length :: out)

-- Reading from the left and passing over a longest value wherever one begins, no byte at
-- which none begins is inside a value that began before.
inductive Separable (values : List Bytes) (input : Bytes) : Nat → Prop where
  | done : Separable values input input.length
  | step (inside : index < input.length) (none : ∀ value ∈ values, ¬ Occurs value input index)
      (clear : ∀ value ∈ values, ∀ start < index, Occurs value input start → start + value.length ≤ index)
      (rest : Separable values input (index + 1)) : Separable values input index
  | pass (member : value ∈ values) (here : Occurs value input index)
      (longest : ∀ other ∈ values, Occurs other input index → other.length ≤ value.length)
      (rest : Separable values input (index + value.length)) : Separable values input index

def scan (input : Bytes) (values : List Bytes) : Nat → Nat → List Written
  | fuel + 1,index =>
    match input[index]? with
    | none => []
    | some byte =>
      match values.find? fun value => value.isPrefixOf (input.drop index) with
      | some value => .redacted value.length :: scan input values fuel (index + value.length)
      | none => .copied byte :: scan input values fuel (index + 1)
  | 0,_ => []

theorem loop_scan (full : ∀ value ∈ values, value ≠ []) (fits : copiedUntil ≤ index) (room : input.length ≤ index + fuel)
    (fresh : output = none → copiedUntil = 0) :
    redactLoop input values fuel index copiedUntil output =
      output.getD [] ++ ((input.take index).drop copiedUntil).map .copied ++ scan input values fuel index := by
  induction fuel generalizing index copiedUntil output with
  | zero =>
    have whole : input.take index = input := List.take_of_length_le room
    rw [whole]
    cases output <;> simp_all [redactLoop,closeOutput,scan]
  | succ fuel ih =>
    unfold redactLoop scan
    split
    · rename_i inside
      rw [List.getElem?_eq_getElem inside]
      dsimp only
      split
      · rename_i value found
        have some := List.length_pos_of_ne_nil (full value (List.mem_of_find?_eq_some found))
        rw [ih (Nat.le_refl _) (by omega) (by simp)]
        simp
      · rw [ih (by omega) (by omega) fresh,List.take_add_one,List.getElem?_eq_getElem inside,
          List.drop_append_of_le_length (by simp; omega)]
        simp
    · rename_i outside
      rw [List.getElem?_eq_none (by omega),List.take_of_length_le (Nat.le_of_not_lt outside)]
      cases output <;> simp_all [closeOutput]

section Scan
variable {values sorted : List Bytes} (same : ∀ value, value ∈ sorted ↔ value ∈ values)
include same

theorem find_longest (order : sorted.Pairwise fun one two => two.length ≤ one.length)
    (found : sorted.find? (fun value => value.isPrefixOf (input.drop index)) = some value) :
    value ∈ values ∧ Occurs value input index ∧ ∀ other ∈ values, Occurs other input index → other.length ≤ value.length := by
  obtain ⟨here,_,_,rfl,earlier⟩ := List.find?_eq_some_iff_append.mp found
  refine ⟨(same value).mp (by simp),List.isPrefixOf_iff_prefix.mp here,?_⟩
  intro other mem occurs
  have ranked := (List.pairwise_cons.mp (List.pairwise_append.mp order).2.1).1
  rcases List.mem_append.mp ((same other).mpr mem) with first | rest
  · have missed := earlier _ first
    rw [List.isPrefixOf_iff_prefix.mpr occurs] at missed
    cases missed
  · rcases List.mem_cons.mp rest with rfl | later
    · exact Nat.le_refl _
    · exact ranked _ later

theorem find_none (found : sorted.find? (fun value => value.isPrefixOf (input.drop index)) = none) :
    ∀ value ∈ values, ¬ Occurs value input index := by
  intro value mem occurs
  have missing := List.find?_eq_none.mp found value ((same value).mpr mem)
  exact missing (List.isPrefixOf_iff_prefix.mpr occurs)

-- A byte no value begins at is inside one exactly if one that began before reaches over it.
theorem scan_covered (order : sorted.Pairwise fun one two => two.length ≤ one.length)
    (full : ∀ value ∈ values, value ≠ []) (room : input.length ≤ index + fuel) (fits : index ≤ input.length) :
    Covered values input index (scan input sorted fuel index) ↔ Separable values input index := by
  induction fuel generalizing index with
  | zero =>
    obtain rfl : index = input.length := by omega
    exact ⟨fun _ => .done,fun _ => .done⟩
  | succ fuel ih =>
    unfold scan
    split
    · rename_i outside
      obtain rfl : index = input.length := by
        have := List.getElem?_eq_none_iff.mp outside
        omega
      exact ⟨fun _ => .done,fun _ => .done⟩
    · rename_i here
      have inside : index < input.length := (List.getElem?_eq_some_iff.mp here).1
      split
      · rename_i value found
        obtain ⟨mem,occurs,longest⟩ := find_longest same order found
        have some : 0 < value.length := List.length_pos_of_ne_nil (full value mem)
        have short : index + value.length ≤ input.length := by
          have := occurs.length_le
          simp at this
          omega
        have rest := @ih (index + value.length) (by omega) short
        constructor
        · rintro (_ | _ | ⟨_,covered⟩)
          exact .pass mem occurs longest (rest.mp covered)
        · intro separable
          refine .redacted (fun _ from_here before => ⟨value,mem,index,occurs,from_here,before⟩) (rest.mpr ?_)
          cases separable with
          | done => omega
          | step _ none => exact absurd occurs (none value mem)
          | pass listed begins tallest later =>
            have equal := Nat.le_antisymm (longest _ listed begins) (tallest value mem occurs)
            rwa [equal] at later
      · rename_i found
        have begins := find_none same found
        have rest := @ih (index + 1) (by omega) inside
        constructor
        · rintro (_ | ⟨_,outside,covered⟩ | _)
          refine .step inside begins ?_ (rest.mp covered)
          intro value mem start before occurs
          by_contra crosses
          exact outside ⟨value,mem,start,occurs,by omega,by omega⟩
        · intro separable
          cases separable with
          | done => omega
          | step _ _ clear later =>
            refine .copied here ?_ (rest.mpr later)
            rintro ⟨value,mem,start,occurs,before,after⟩
            rcases Nat.lt_or_eq_of_le before with earlier | rfl
            · have := clear value mem _ earlier occurs
              omega
            · exact begins value mem occurs
          | pass mem occurs => exact absurd occurs (begins _ mem)

end Scan

theorem mem_dedup : value ∈ dedup values ↔ value ∈ values := by
  fun_induction dedup values with
  | case1 | case2 | case3 => grind

theorem dedup_sublist : (dedup values).Sublist values := by
  fun_induction dedup values with
  | case1 | case2 | case3 => grind

theorem no_values (index : Nat) : redactLoop input [] fuel index 0 none = input.map .copied := by
  induction fuel generalizing index with
  | zero => rfl
  | succ fuel ih =>
    unfold redactLoop
    split
    · exact ih (index + 1)
    · rfl

def overlapping : Table String Held := AList.singleton "s" ⟨∅,[ascii "ab",ascii "bc"]⟩

end Coflux.Runtime
