import Coflux.Foundation.Eviction
import Coflux.Device.Channels

namespace Coflux.Device
open FiniteMap StepMachine Sessiond Text Eviction

-- A newer value of a key takes the place of the older one; a connection claims values to send them
-- and acknowledges what it has sent. Claims are bound to the epoch of the connection.

structure OutboxEntry where
  revision : Nat
  claimedBy : Option Nat
  bytes : Bytes

structure OutboxState where
  nextRevision : Nat
  pending : Table String OutboxEntry
  pendingBytes : Nat

structure OutboxDelivery where
  key : String
  (revision connectionEpoch : Nat)
  bytes : Bytes
deriving DecidableEq

-- At least one record, and a number of bytes that is a usize.
structure OutboxLimits where
  (recordLimit byteLimit : Nat)
  some_record : 0 < recordLimit
  addressable : byteLimit ≤ u64Max

def withLimits (recordLimit byteLimit : Nat) : OutboxLimits :=
  ⟨max recordLimit 1,min byteLimit u64Max,Nat.lt_of_lt_of_le Nat.one_pos (Nat.le_max_right _ _),Nat.min_le_right _ _⟩

namespace OutboxState

def start : OutboxState := ⟨0,∅,0⟩

def inOrder (pending : Table String OutboxEntry) : List (String × OutboxEntry) :=
  (entries pending).insertionSort fun a b => a.1 ≤ b.1

def discard (s : OutboxState) (key : String) (entry : OutboxEntry) : OutboxState :=
  {s with pending := s.pending.erase key,pendingBytes := s.pendingBytes - entry.bytes.length}

def evictOldest (s : OutboxState) : Option OutboxState :=
  ((inOrder s.pending).argmin fun entry => entry.2.revision).map fun entry => s.discard entry.1 entry.2

section
variable (limits : OutboxLimits)

def crowded (length : Nat) (s : OutboxState) : Bool :=
  size s.pending ≥ limits.recordLimit || length > limits.byteLimit - s.pendingBytes

def remove (s : OutboxState) (key : String) : OutboxState :=
  match s.pending.lookup key with
  | some removed => s.discard key removed
  | none => s

def revision (s : OutboxState) : Nat := max (min (s.nextRevision + 1) u64Max) 1

def makeRoom (length : Nat) (s : OutboxState) : OutboxState :=
  evictWhile (crowded limits length) evictOldest (size s.pending) s

section
variable (s : OutboxState) (key : String) (bytes : Bytes)

def store : OutboxState where
  nextRevision := s.revision
  pending := s.pending.insert key ⟨s.revision,none,bytes⟩
  pendingBytes := saturatingAdd s.pendingBytes bytes.length

def publish : Bool × OutboxState :=
  if bytes.length > limits.byteLimit then (false,s)
  else (true,((s.remove key).makeRoom limits bytes.length).store key bytes)

end

end

def clear (s : OutboxState) : OutboxState := {s with pending := ∅,pendingBytes := 0}

def claim (s : OutboxState) (connectionEpoch : Nat) : Option (OutboxDelivery × OutboxState) :=
  ((inOrder s.pending).find? fun entry => entry.2.claimedBy ≠ some connectionEpoch).map fun (key,entry) =>
    (⟨key,entry.revision,connectionEpoch,entry.bytes⟩,
      {s with pending := s.pending.insert key {entry with claimedBy := some connectionEpoch}})

def acknowledge (s : OutboxState) (delivery : OutboxDelivery) : Bool × OutboxState :=
  match s.pending.lookup delivery.key with
  | some entry =>
    if entry.revision = delivery.revision ∧ entry.claimedBy = some delivery.connectionEpoch then
      (true,s.discard delivery.key entry)
    else (false,s)
  | none => (false,s)

end OutboxState

inductive OutboxAction where
  | publish (key : String) (bytes : Bytes)
  | remove (key : String)
  | clear
  | claim (connectionEpoch : Nat)
  | acknowledge (delivery : OutboxDelivery)

def outboxStep (limits : OutboxLimits) (s : OutboxState) : OutboxAction → Option OutboxState
  | .publish key bytes => some (s.publish limits key bytes).2
  | .remove key => some (s.remove key)
  | .clear => some s.clear
  | .claim connectionEpoch => (s.claim connectionEpoch).map Prod.snd
  | .acknowledge delivery => some (s.acknowledge delivery).2

def outboxMachine (limits : OutboxLimits) : Machine OutboxState OutboxAction := ⟨outboxStep limits⟩

def OutboxState.claims (connectionEpoch : Nat) : Nat → OutboxState → List OutboxDelivery
  | 0,_ => []
  | count + 1,s =>
    match s.claim connectionEpoch with
    | some (delivery,next) => delivery :: next.claims connectionEpoch count
    | none => []

open OutboxState (evictOldest inOrder store)

def entryBytes (_ : String) (entry : OutboxEntry) : Nat := entry.bytes.length

structure Accounted (limits : OutboxLimits) (s : OutboxState) : Prop where
  bytes : s.pendingBytes = weigh entryBytes s.pending
  byteBound : s.pendingBytes ≤ limits.byteLimit
  recordBound : size s.pending ≤ limits.recordLimit

def Holds (s : OutboxState) (key : String) (revision : Nat) (bytes : Bytes) : Prop :=
  ∃ claimedBy, s.pending.lookup key = some ⟨revision,claimedBy,bytes⟩

def newer (s : OutboxState) (other : String) (revision : Nat) : Table String OutboxEntry :=
  keep (fun key entry => key ≠ other && revision ≤ entry.revision) s.pending

-- Eviction takes a value only if the values that are as new leave no room.
inductive Release (limits : OutboxLimits) (s : OutboxState) (key : String) (revision : Nat) : OutboxAction → Prop where
  | replaced (fits : bytes.length ≤ limits.byteLimit) : Release limits s key revision (.publish key bytes)
  | evicted (different : other ≠ key)
      (bound : size (newer s other revision) ≥ limits.recordLimit ∨
        bytes.length > limits.byteLimit - weigh entryBytes (newer s other revision)) :
      Release limits s key revision (.publish other bytes)
  | removed : Release limits s key revision (.remove key)
  | cleared : Release limits s key revision .clear
  | acknowledged (named : delivery.key = key) (own : delivery.revision = revision)
      (claimed : ∃ bytes, s.pending.lookup key = some ⟨revision,some delivery.connectionEpoch,bytes⟩) :
      Release limits s key revision (.acknowledge delivery)

section Steps
variable {s : OutboxState}

theorem inOrder_mem : entry ∈ inOrder pending ↔ pending.lookup entry.1 = some entry.2 := by
  rw [inOrder,(List.perm_insertionSort _ _).mem_iff]
  exact mem_entries

theorem discard_accounted (accounted : Accounted limits s) (found : s.pending.lookup key = some entry) :
    Accounted limits (s.discard key entry) := by
  have erased : weigh entryBytes (s.pending.erase key) + entryBytes key entry = weigh entryBytes s.pending := weigh_erase found
  have counted := accounted.bytes
  refine ⟨?_,?_,?_⟩
  · change s.pendingBytes - entryBytes key entry = weigh entryBytes (s.pending.erase key)
    omega
  · exact Nat.le_trans (Nat.sub_le _ _) accounted.byteBound
  · exact Nat.le_trans size_erase_le accounted.recordBound

theorem remove_accounted (accounted : Accounted limits s) : Accounted limits (s.remove key) := by
  unfold OutboxState.remove
  split
  · rename_i found
    exact discard_accounted accounted found
  · exact accounted

theorem remove_pending : (s.remove key).pending = s.pending.erase key := by
  unfold OutboxState.remove
  split
  · rfl
  · rename_i absent
    exact (erase_absent absent).symm

theorem evictOldest_parts (evicted : s.evictOldest = some next) :
    ∃ key entry,s.pending.lookup key = some entry ∧ next = s.discard key entry ∧
      ∀ other value,s.pending.lookup other = some value → entry.revision ≤ value.revision := by
  obtain ⟨⟨key,entry⟩,oldest,rfl⟩ := Option.map_eq_some_iff.mp evicted
  refine ⟨key,entry,inOrder_mem.mp (List.argmin_mem oldest),rfl,?_⟩
  intro other value found
  have mem : (other,value) ∈ inOrder s.pending := inOrder_mem.mpr found
  have least := List.le_of_mem_argmin mem oldest
  exact least

theorem evictOldest_smaller (evicted : s.evictOldest = some next) : size next.pending < size s.pending := by
  obtain ⟨key,_,found,rfl,_⟩ := evictOldest_parts evicted
  have erased := size_erase found
  change size (s.pending.erase key) < _
  omega

theorem evictOldest_none (stuck : s.evictOldest = none) (key : String) : s.pending.lookup key = none := by
  cases found : s.pending.lookup key with
  | none => rfl
  | some entry =>
    have empty : inOrder s.pending = [] := by simpa [evictOldest] using stuck
    have mem : (key,entry) ∈ inOrder s.pending := inOrder_mem.mpr found
    rw [empty] at mem
    cases mem

structure Making (limits : OutboxLimits) (length : Nat) (before : OutboxState) (other : String) (s : OutboxState) : Prop where
  accounted : Accounted limits s
  revision : s.nextRevision = before.nextRevision
  absent : s.pending.lookup other = none
  left : ∀ key entry,s.pending.lookup key = some entry → before.pending.lookup key = some entry
  gone : ∀ key entry,key ≠ other → before.pending.lookup key = some entry → s.pending.lookup key = some entry ∨
    size (newer before other entry.revision) ≥ limits.recordLimit ∨
      length > limits.byteLimit - weigh entryBytes (newer before other entry.revision)

theorem making_evict (making : Making limits length before other s) (crowded : s.crowded limits length = true)
    (evicted : s.evictOldest = some next) : Making limits length before other next := by
  obtain ⟨key,entry,found,rfl,oldest⟩ := evictOldest_parts evicted
  have within : ∀ k e,(s.pending.erase key).lookup k = some e → s.pending.lookup k = some e := fun _ _ => erase_lookup
  have all : ∀ k e,s.pending.lookup k = some e → (newer before other entry.revision).lookup k = some e := by
    intro k e present
    apply lookup_keep (making.left k e present)
    have different : k ≠ other := by
      intro same
      rw [same,making.absent] at present
      cases present
    simp [different,oldest k e present]
  refine ⟨discard_accounted making.accounted found,making.revision,?_,?_,?_⟩
  · cases again : (s.pending.erase key).lookup other with
    | none => exact again
    | some e =>
      have present := within _ e again
      rw [making.absent] at present
      cases present
  · exact fun k e kept => making.left k e (within k e kept)
  · intro k e different present
    rcases making.gone k e different present with kept | bound
    · by_cases same : k = key
      · subst same
        rw [found] at kept
        cases kept
        have more := size_le all
        have heavier : weigh entryBytes s.pending ≤ weigh entryBytes (newer before other entry.revision) := weigh_le all
        have counted := making.accounted.bytes
        simp only [OutboxState.crowded,Bool.or_eq_true,decide_eq_true_eq] at crowded
        refine .inr ?_
        omega
      · exact .inl (by rw [← kept]; exact AList.lookup_erase_ne same)
    · exact .inr bound

theorem making_start (accounted : Accounted limits s) : Making limits length s key (s.remove key) := by
  refine ⟨remove_accounted accounted,?_,?_,?_,?_⟩
  · unfold OutboxState.remove
    split <;> rfl
  · rw [remove_pending]
    exact AList.lookup_erase _ _
  · intro other entry kept
    rw [remove_pending] at kept
    exact erase_lookup kept
  · intro other entry different present
    refine .inl ?_
    rw [remove_pending,AList.lookup_erase_ne different]
    exact present

theorem makeRoom_making (accounted : Accounted limits s) :
    Making limits length s key ((s.remove key).makeRoom limits length) :=
  evictWhile_keeps (fun _ _ => making_evict) (making_start accounted)

-- Making room ends with room: with nothing left one record always fits.
theorem makeRoom_roomy (key : String) (accounted : Accounted limits s) (fits : length ≤ limits.byteLimit) :
    size ((s.remove key).makeRoom limits length).pending < limits.recordLimit ∧
      length ≤ limits.byteLimit - ((s.remove key).makeRoom limits length).pendingBytes := by
  have making : Making limits length s key ((s.remove key).makeRoom limits length) := makeRoom_making accounted
  have less : ∀ s next : OutboxState,s.evictOldest = some next → size next.pending < size s.pending :=
    fun _ _ => evictOldest_smaller
  rcases evictWhile_ends less (Nat.le_refl _) with roomy | stuck
  · change OutboxState.crowded limits length ((s.remove key).makeRoom limits length) = false at roomy
    simp only [OutboxState.crowded,Bool.or_eq_false_iff,decide_eq_false_iff_not] at roomy
    omega
  · change evictOldest ((s.remove key).makeRoom limits length) = none at stuck
    have nothing := empty_of_absent (evictOldest_none stuck)
    have counted := making.accounted.bytes
    rw [nothing] at counted ⊢
    rw [counted]
    exact ⟨limits.some_record,fits⟩

theorem store_accounted (accounted : Accounted limits s) (absent : s.pending.lookup key = none)
    (record : size s.pending < limits.recordLimit) (fits : bytes.length ≤ limits.byteLimit - s.pendingBytes) :
    Accounted limits (s.store key bytes) := by
  have counted := accounted.bytes
  have bound := accounted.byteBound
  have small := limits.addressable
  have exactly : saturatingAdd s.pendingBytes bytes.length = s.pendingBytes + bytes.length := by
    rw [saturatingAdd]
    omega
  refine ⟨?_,?_,?_⟩
  · rw [store,weigh_insert_absent absent,exactly,counted]
    exact Nat.add_comm _ _
  · change saturatingAdd s.pendingBytes bytes.length ≤ limits.byteLimit
    omega
  · rw [store,size_insert_absent absent]
    exact record

theorem publish_accounted (accounted : Accounted limits s) : Accounted limits (s.publish limits key bytes).2 := by
  unfold OutboxState.publish
  split
  · exact accounted
  · rename_i fits
    have making : Making limits bytes.length s key ((s.remove key).makeRoom limits bytes.length) := makeRoom_making accounted
    have room := makeRoom_roomy key accounted (Nat.not_lt.mp fits)
    exact store_accounted making.accounted making.absent room.1 room.2

theorem publish_pending (key : String) (accounted : Accounted limits s) (fits : bytes.length ≤ limits.byteLimit) :
    (s.publish limits key bytes).1 = true ∧
      (s.publish limits key bytes).2.pending.lookup key = some ⟨s.revision,none,bytes⟩ := by
  have making : Making limits bytes.length s key ((s.remove key).makeRoom limits bytes.length) := makeRoom_making accounted
  rw [OutboxState.publish,if_neg (Nat.not_lt.mpr fits)]
  refine ⟨rfl,?_⟩
  have same : ((s.remove key).makeRoom limits bytes.length).revision = s.revision := by
    rw [OutboxState.revision,OutboxState.revision,making.revision]
  rw [← same]
  exact AList.lookup_insert _

theorem publish_keeps (accounted : Accounted limits s) (holds : Holds s key revision bytes) :
    Holds (s.publish limits other published).2 key revision bytes ∨
      Release limits s key revision (.publish other published) := by
  obtain ⟨claimedBy,found⟩ := holds
  unfold OutboxState.publish
  split
  · exact .inl ⟨claimedBy,found⟩
  · rename_i fits
    by_cases same : other = key
    · exact .inr (same ▸ .replaced (Nat.not_lt.mp fits))
    · have making : Making limits published.length s other ((s.remove other).makeRoom limits published.length) :=
        makeRoom_making accounted
      rcases making.gone key _ (Ne.symm same) found with kept | bound
      · refine .inl ⟨claimedBy,?_⟩
        rw [← kept]
        exact AList.lookup_insert_ne (Ne.symm same)
      · exact .inr (.evicted same bound)

theorem claim_parts (claimed : s.claim connectionEpoch = some (delivery,next)) :
    ∃ key entry,s.pending.lookup key = some entry ∧ entry.claimedBy ≠ some connectionEpoch ∧
      delivery = ⟨key,entry.revision,connectionEpoch,entry.bytes⟩ ∧
      next = {s with pending := s.pending.insert key {entry with claimedBy := some connectionEpoch}} := by
  obtain ⟨⟨key,entry⟩,first,equal⟩ := Option.map_eq_some_iff.mp claimed
  cases equal
  have free := List.find?_some first
  exact ⟨key,entry,inOrder_mem.mp (List.mem_of_find?_eq_some first),by simpa using free,rfl,rfl⟩

theorem claim_accounted (accounted : Accounted limits s) (claimed : s.claim connectionEpoch = some (delivery,next)) :
    Accounted limits next := by
  obtain ⟨key,entry,found,_,_,rfl⟩ := claim_parts claimed
  have same : weigh entryBytes (s.pending.insert key {entry with claimedBy := some connectionEpoch}) + entryBytes key entry =
      weigh entryBytes s.pending + entryBytes key entry := weigh_insert_present found
  refine ⟨?_,accounted.byteBound,?_⟩
  · have counted := accounted.bytes
    change s.pendingBytes = weigh entryBytes (s.pending.insert key _)
    omega
  · change size (s.pending.insert key _) ≤ _
    rw [size_insert_present found]
    exact accounted.recordBound

theorem claim_keeps (claimed : s.claim connectionEpoch = some (delivery,next)) (holds : Holds s key revision bytes) :
    Holds next key revision bytes := by
  obtain ⟨taken,_,found,_,_,rfl⟩ := claim_parts claimed
  obtain ⟨claimedBy,present⟩ := holds
  by_cases same : key = taken
  · subst same
    rw [found] at present
    cases present
    exact ⟨some _,AList.lookup_insert _⟩
  · exact ⟨claimedBy,by rw [← present]; exact AList.lookup_insert_ne same⟩

theorem acknowledge_exact : (s.acknowledge delivery = (false,s) ∧ ∀ entry,s.pending.lookup delivery.key = some entry →
      entry.revision ≠ delivery.revision ∨ entry.claimedBy ≠ some delivery.connectionEpoch) ∨
    ∃ entry,s.pending.lookup delivery.key = some entry ∧ entry.revision = delivery.revision ∧
      entry.claimedBy = some delivery.connectionEpoch ∧ s.acknowledge delivery = (true,s.discard delivery.key entry) := by
  unfold OutboxState.acknowledge
  split
  · rename_i entry found
    split
    · rename_i matching
      exact .inr ⟨entry,found,matching.1,matching.2,rfl⟩
    · rename_i mismatch
      refine .inl ⟨rfl,?_⟩
      intro other present
      rw [found] at present
      cases present
      by_cases revision : entry.revision = delivery.revision
      · exact .inr fun epoch => mismatch ⟨revision,epoch⟩
      · exact .inl revision
  · rename_i absent
    refine .inl ⟨rfl,?_⟩
    intro entry present
    rw [absent] at present
    cases present

theorem acknowledge_accounted (accounted : Accounted limits s) : Accounted limits (s.acknowledge delivery).2 := by
  rcases acknowledge_exact with ⟨equal,_⟩ | ⟨entry,found,_,_,equal⟩ <;> rw [equal]
  · exact accounted
  · exact discard_accounted accounted found

theorem acknowledge_keeps (holds : Holds s key revision bytes) :
    Holds (s.acknowledge delivery).2 key revision bytes ∨ Release limits s key revision (.acknowledge delivery) := by
  rcases acknowledge_exact with ⟨equal,_⟩ | ⟨entry,found,own,epoch,equal⟩ <;> rw [equal]
  · exact .inl holds
  · obtain ⟨claimedBy,present⟩ := holds
    by_cases same : key = delivery.key
    · subst same
      rw [found] at present
      cases present
      cases epoch
      exact .inr (.acknowledged rfl own.symm ⟨bytes,found⟩)
    · refine .inl ⟨claimedBy,?_⟩
      rw [← present]
      exact AList.lookup_erase_ne same

theorem outboxStep_accounted (accounted : Accounted limits s) (step : outboxStep limits s action = some next) :
    Accounted limits next := by
  cases action with
  | publish key bytes =>
    cases step
    exact publish_accounted accounted
  | remove key =>
    cases step
    exact remove_accounted accounted
  | clear =>
    cases step
    exact ⟨rfl,Nat.zero_le _,Nat.zero_le _⟩
  | claim connectionEpoch =>
    obtain ⟨⟨delivery,_⟩,claimed,rfl⟩ := Option.map_eq_some_iff.mp step
    exact claim_accounted accounted claimed
  | acknowledge delivery =>
    cases step
    exact acknowledge_accounted accounted

structure Numbered (s : OutboxState) : Prop where
  bounded : s.nextRevision ≤ u64Max
  below : ∀ key entry, s.pending.lookup key = some entry → entry.revision ≤ s.nextRevision

theorem revision_le (numbered : Numbered s) : s.nextRevision ≤ s.revision ∧ s.revision ≤ u64Max := by
  have bounded := numbered.bounded
  have positive : 1 ≤ u64Max := by decide
  rw [OutboxState.revision]
  omega

theorem erase_numbered (numbered : Numbered s) : Numbered {s with pending := s.pending.erase key,pendingBytes := bytes} :=
  ⟨numbered.bounded,Each.erase numbered.below⟩

theorem publish_numbered (accounted : Accounted limits s) (numbered : Numbered s) :
    Numbered (s.publish limits key bytes).2 := by
  unfold OutboxState.publish
  split
  · exact numbered
  · have making : Making limits bytes.length s key ((s.remove key).makeRoom limits bytes.length) := makeRoom_making accounted
    have same : ((s.remove key).makeRoom limits bytes.length).revision = s.revision := by
      rw [OutboxState.revision,OutboxState.revision,making.revision]
    have grown := revision_le numbered
    rw [store,same]
    refine ⟨grown.2,?_⟩
    intro other entry found
    rcases insert_lookup found with ⟨_,rfl⟩ | ⟨_,before⟩
    · exact Nat.le_refl _
    · exact Nat.le_trans (numbered.below _ entry (making.left _ entry before)) grown.1

theorem claim_numbered (numbered : Numbered s) (claimed : s.claim connectionEpoch = some (delivery,next)) : Numbered next := by
  obtain ⟨_,first,present,_,_,rfl⟩ := claim_parts claimed
  exact ⟨numbered.bounded,Each.insert numbered.below (numbered.below _ first present)⟩

theorem outboxStep_numbered (accounted : Accounted limits s) (numbered : Numbered s)
    (step : outboxStep limits s action = some next) : Numbered next := by
  cases action with
  | publish key bytes =>
    cases step
    exact publish_numbered accounted numbered
  | remove key =>
    cases step
    unfold OutboxState.remove
    split
    · exact erase_numbered numbered
    · exact numbered
  | clear =>
    cases step
    exact ⟨numbered.bounded,nofun⟩
  | claim connectionEpoch =>
    obtain ⟨⟨delivery,_⟩,claimed,rfl⟩ := Option.map_eq_some_iff.mp step
    exact claim_numbered numbered claimed
  | acknowledge delivery =>
    cases step
    rcases acknowledge_exact with ⟨equal,_⟩ | ⟨entry,_,_,_,equal⟩ <;> rw [equal]
    · exact numbered
    · exact erase_numbered numbered

theorem outboxStep_keeps (accounted : Accounted limits s) (holds : Holds s key revision bytes)
    (step : outboxStep limits s action = some next) :
    Holds next key revision bytes ∨ Release limits s key revision action := by
  cases action with
  | publish other published =>
    cases step
    exact publish_keeps accounted holds
  | remove other =>
    cases step
    by_cases same : key = other
    · exact .inr (same ▸ .removed)
    · obtain ⟨claimedBy,found⟩ := holds
      refine .inl ⟨claimedBy,?_⟩
      rw [remove_pending,AList.lookup_erase_ne same]
      exact found
  | clear => exact .inr .cleared
  | claim connectionEpoch =>
    obtain ⟨⟨delivery,_⟩,claimed,rfl⟩ := Option.map_eq_some_iff.mp step
    exact .inl (claim_keeps claimed holds)
  | acknowledge delivery =>
    cases step
    exact acknowledge_keeps holds

def unclaimed (connectionEpoch : Nat) (_ : String) (entry : OutboxEntry) : Nat :=
  if entry.claimedBy = some connectionEpoch then 0 else 1

theorem claim_lowers (claimed : s.claim connectionEpoch = some (delivery,next)) :
    weigh (unclaimed connectionEpoch) next.pending + 1 = weigh (unclaimed connectionEpoch) s.pending := by
  obtain ⟨taken,first,present,free,_,rfl⟩ := claim_parts claimed
  have counted : weigh (unclaimed connectionEpoch) (s.pending.insert taken {first with claimedBy := some _}) +
      unclaimed connectionEpoch taken first = weigh (unclaimed _) s.pending +
        unclaimed connectionEpoch taken {first with claimedBy := some connectionEpoch} := weigh_insert_present present
  simpa [unclaimed,free] using counted

-- The epoch's claims go through what it has not claimed, one value at a time.
theorem claims_all : ∀ s : OutboxState,weigh (unclaimed connectionEpoch) s.pending ≤ count →
    s.pending.lookup key = some entry → entry.claimedBy ≠ some connectionEpoch →
    ⟨key,entry.revision,connectionEpoch,entry.bytes⟩ ∈ s.claims connectionEpoch count := by
  induction count with
  | zero =>
    intro s enough found free
    have counted : weigh (unclaimed connectionEpoch) (s.pending.erase key) + unclaimed connectionEpoch key entry =
        weigh (unclaimed connectionEpoch) s.pending := weigh_erase found
    have one : unclaimed connectionEpoch key entry = 1 := if_neg free
    omega
  | succ count ih =>
    intro s enough found free
    unfold OutboxState.claims
    split
    · rename_i next claimed
      have lower := claim_lowers claimed
      obtain ⟨taken,_,present,_,delivered,after⟩ := claim_parts claimed
      by_cases same : key = taken
      · subst same
        rw [found] at present
        cases present
        rw [delivered]
        exact List.mem_cons_self
      · have still : next.pending.lookup key = some entry := by
          rw [after,← found]
          exact AList.lookup_insert_ne same
        exact List.mem_cons_of_mem _ (ih next (by omega) still free)
    · rename_i stuck
      have none := Option.map_eq_none_iff.mp stuck
      have claimed := List.find?_eq_none.mp none (key,entry) (inOrder_mem.mpr found)
      simp [free] at claimed

theorem claims_everything (found : s.pending.lookup key = some entry) (free : entry.claimedBy ≠ some connectionEpoch) :
    ⟨key,entry.revision,connectionEpoch,entry.bytes⟩ ∈ s.claims connectionEpoch (size s.pending) := by
  apply claims_all _ _ found free
  rw [size_weigh]
  apply weigh_mono
  intro other value
  unfold unclaimed
  split <;> omega

end Steps

structure LatestKept (limits : OutboxLimits) (s : OutboxState) : Prop where
  accounted : Accounted limits s
  fresh : s.nextRevision < u64Max → ∀ key entry, s.pending.lookup key = some entry → entry.revision < s.revision
  accepted : ∀ key bytes, bytes.length ≤ limits.byteLimit → (s.publish limits key bytes).1 = true ∧
    Holds (s.publish limits key bytes).2 key s.revision bytes
  refused : ∀ key bytes, limits.byteLimit < bytes.length → s.publish limits key bytes = (false,s)
  stays : ∀ key revision bytes later last, Holds s key revision bytes → (outboxMachine limits).run s later = some last →
    Holds last key revision bytes ∨
      ∃ before action after mid, later = before ++ action :: after ∧ (outboxMachine limits).run s before = some mid ∧
        Holds mid key revision bytes ∧ Release limits mid key revision action
  stale : ∀ delivery entry, s.pending.lookup delivery.key = some entry →
    delivery.revision ≠ entry.revision ∨ entry.claimedBy ≠ some delivery.connectionEpoch →
    s.acknowledge delivery = (false,s)
  again : ∀ connectionEpoch, (∀ key entry, s.pending.lookup key = some entry → entry.claimedBy ≠ some connectionEpoch) →
    ∀ key entry, s.pending.lookup key = some entry →
      ⟨key,entry.revision,connectionEpoch,entry.bytes⟩ ∈ s.claims connectionEpoch (size s.pending)

theorem accounted_latestKept (accounted : Accounted limits s) (numbered : Numbered s) : LatestKept limits s where
  accounted := accounted
  fresh := by
    intro unspent key entry found
    have below := numbered.below _ entry found
    rw [OutboxState.revision]
    omega
  accepted := by
    intro key bytes fits
    have published := publish_pending key accounted fits
    exact ⟨published.1,none,published.2⟩
  refused := fun key bytes large => if_pos large
  stays := by
    intro key revision bytes later last holds ran
    exact holds_until (fun _ _ _ => outboxStep_accounted) (fun _ _ _ => outboxStep_keeps) accounted holds ran
  stale := by
    intro delivery entry found different
    rcases acknowledge_exact with ⟨unchanged,_⟩ | ⟨_,present,revision,epoch,_⟩
    · exact unchanged
    · rw [found] at present
      cases present
      rcases different with different | different
      · exact absurd revision.symm different
      · exact absurd epoch different
  again := fun _ free _ entry found => claims_everything found (free _ entry found)

structure Booked (limits : OutboxLimits) (s : OutboxState) : Prop extends Accounted limits s, Numbered s

theorem outbox_keeps_latest (limits : OutboxLimits) (actions : List OutboxAction) :
    (outboxMachine limits).Throughout (LatestKept limits) .start actions := by
  have start : Booked limits .start := ⟨⟨rfl,Nat.zero_le _,Nat.zero_le _⟩,⟨Nat.zero_le _,nofun⟩⟩
  refine throughout_of_preserved ?_ ?_ start
  · intro s booked
    exact accounted_latestKept booked.toAccounted booked.toNumbered
  · intro s action next booked step
    exact ⟨outboxStep_accounted booked.toAccounted step,outboxStep_numbered booked.toAccounted booked.toNumbered step⟩

end Coflux.Device
