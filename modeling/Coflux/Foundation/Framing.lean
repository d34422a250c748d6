import Coflux.Foundation.Text

namespace Framing
open Text
open List (cons_append)

-- Four bytes of length, most significant first, then the payload.

def u32be (n : Nat) : Bytes := [(n / 2 ^ 24).toUInt8,(n / 2 ^ 16).toUInt8,(n / 2 ^ 8).toUInt8,n.toUInt8]

def readU32be (b0 b1 b2 b3 : UInt8) : Nat :=
  2 ^ 24 * b0.toNat + 2 ^ 16 * b1.toNat + 2 ^ 8 * b2.toNat + b3.toNat

structure TooLarge where
  (actual max : Nat)
deriving DecidableEq

def writeRecord (limit : Nat) (payload : Bytes) : Except TooLarge Bytes :=
  if payload.length > limit then .error ⟨payload.length,limit⟩
  else .ok (u32be payload.length ++ payload)

-- The complete records at the front, and the rest or the length that was too large.
def parseRecords (limit : Nat) (buffer : Bytes) : List Bytes × Except TooLarge Bytes :=
  match buffer with
  | b0 :: b1 :: b2 :: b3 :: rest =>
    let length := readU32be b0 b1 b2 b3
    if length > limit then ([],.error ⟨length,limit⟩)
    else if rest.length < length then ([],.ok buffer)
    else
      let later := parseRecords limit (rest.drop length)
      (rest.take length :: later.1,later.2)
  | short => ([],.ok short)
termination_by buffer.length
decreasing_by
  rw [List.length_drop]
  exact Nat.lt_of_le_of_lt (Nat.sub_le _ _) (Nat.lt_add_of_pos_right (by decide : 0 < 4))

def push (limit : Nat) (buffer chunk : Bytes) : List Bytes × Except TooLarge Bytes :=
  parseRecords limit (buffer ++ chunk)

theorem u32be_length (n : Nat) : (u32be n).length = 4 := rfl

theorem read_u32be (small : n < 2 ^ 32) :
    readU32be (n / 2 ^ 24).toUInt8 (n / 2 ^ 16).toUInt8 (n / 2 ^ 8).toUInt8 n.toUInt8 = n := by
  simp only [readU32be,Nat.toUInt8_eq,UInt8.toNat_ofNat']
  omega

theorem u32be_read (b0 b1 b2 b3 : UInt8) :
    readU32be b0 b1 b2 b3 < 2 ^ 32 ∧ u32be (readU32be b0 b1 b2 b3) = [b0,b1,b2,b3] := by
  have h0 := b0.toNat_lt
  have h1 := b1.toNat_lt
  have h2 := b2.toNat_lt
  have h3 := b3.toNat_lt
  refine ⟨by unfold readU32be; omega,?_⟩
  simp only [u32be,readU32be,Nat.toUInt8_eq,List.cons.injEq,← UInt8.toNat_inj,UInt8.toNat_ofNat',and_true]
  omega

theorem writeRecord_ok : writeRecord limit payload = .ok record ↔
    payload.length ≤ limit ∧ record = u32be payload.length ++ payload := by
  unfold writeRecord
  split
  · constructor
    · intro equal
      cases equal
    · intro ⟨fits,_⟩
      omega
  · constructor
    · intro equal
      cases equal
      exact ⟨by omega,rfl⟩
    · intro ⟨_,equal⟩
      rw [equal]

-- What a writer produced comes back first and whole, whatever follows it.
theorem parse_written (small : limit < 2 ^ 32) (written : writeRecord limit payload = .ok record) (rest : Bytes) :
    parseRecords limit (record ++ rest) = (payload :: (parseRecords limit rest).1,(parseRecords limit rest).2) := by
  obtain ⟨_,rfl⟩ := writeRecord_ok.mp written
  have length : readU32be (payload.length / 2 ^ 24).toUInt8 (payload.length / 2 ^ 16).toUInt8
      (payload.length / 2 ^ 8).toUInt8 payload.length.toUInt8 = payload.length := read_u32be (by omega)
  rw [u32be,List.append_assoc]
  simp only [cons_append,List.nil_append]
  rw [parseRecords]
  simp only [length]
  rw [if_neg (by omega),if_neg (by simp)]
  simp

theorem parse_all (small : limit < 2 ^ 32) (written : payloads.mapM (writeRecord limit) = .ok records) (rest : Bytes) :
    parseRecords limit (records.flatten ++ rest) =
      (payloads ++ (parseRecords limit rest).1,(parseRecords limit rest).2) := by
  induction payloads generalizing records with
  | nil => cases written; rfl
  | cons payload payloads ih =>
    rw [List.mapM_cons] at written
    cases one : writeRecord limit payload with
    | error => rw [one] at written; cases written
    | ok record =>
      cases more : payloads.mapM (writeRecord limit) with
      | error => rw [one,more] at written; cases written
      | ok later =>
        rw [one,more] at written
        cases written
        rw [List.flatten_cons,List.append_assoc,parse_written small one,ih more]
        rfl

theorem write_all {payloads : List Bytes} (within : ∀ payload ∈ payloads, payload.length ≤ limit) :
    ∃ records, payloads.mapM (writeRecord limit) = .ok records := by
  induction payloads with
  | nil => exact ⟨[],rfl⟩
  | cons payload payloads ih =>
    obtain ⟨fits,within⟩ := List.forall_mem_cons.mp within
    obtain ⟨_,written⟩ := ih within
    rw [List.mapM_cons,writeRecord_ok.mpr ⟨fits,rfl⟩,written]
    exact ⟨_,rfl⟩

-- Records cut anywhere: what is left over is read again in front of what comes next.
theorem parse_append (limit : Nat) (buffer chunk : Bytes) :
    parseRecords limit (buffer ++ chunk) = match parseRecords limit buffer with
      | (records,.ok rest) =>
        (records ++ (parseRecords limit (rest ++ chunk)).1,(parseRecords limit (rest ++ chunk)).2)
      | failed => failed := by
  fun_induction parseRecords limit buffer with
  | case1 b0 b1 b2 b3 rest length large =>
    rw [cons_append,cons_append,cons_append,cons_append,parseRecords]
    dsimp only
    rw [if_pos large]
  | case2 b0 b1 b2 b3 rest length small short => simp
  | case3 b0 b1 b2 b3 rest length small whole later ih =>
    have total : length ≤ rest.length := Nat.not_lt.mp whole
    rw [cons_append,cons_append,cons_append,cons_append,parseRecords]
    dsimp only
    rw [if_neg small,if_neg (by rw [List.length_append]; omega),List.drop_append_of_le_length total,
      List.take_append_of_le_length total,ih]
    dsimp only [later]
    rcases parseRecords limit (rest.drop length) with ⟨_,_ | _⟩
    · rfl
    · rfl
  | case4 short none => simp

theorem parse_rest (parsed : (parseRecords limit buffer).2 = .ok rest) : parseRecords limit rest = ([],.ok rest) := by
  fun_induction parseRecords limit buffer with
  | case1 b0 b1 b2 b3 bytes length large => cases parsed
  | case2 b0 b1 b2 b3 bytes length small short =>
    cases parsed
    rw [parseRecords]
    dsimp only
    rw [if_neg small,if_pos short]
  | case3 b0 b1 b2 b3 bytes length small whole later ih => exact ih parsed
  | case4 short none =>
    cases parsed
    rw [parseRecords]
    exact none

end Framing
