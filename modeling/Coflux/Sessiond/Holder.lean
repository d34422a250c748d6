import Coflux.Sessiond.SessionState

namespace Coflux.Sessiond
open Text FiniteMap SessionState

-- ring is the answer ptyd gives if the attach asks for older bytes.
inductive SessionAction where
  | attach (request : AttachRequest) (ring : Nat → Nat → Option Bytes)
  | feed (bytes : Bytes)
  | resize (rows cols : UInt16)
  | deliveryResult (channelId : String) (toSeq : Nat) (sent : Bool)
  | gapDeliveryResult (channelId : String) (sent : Bool)
  | clearSubscribers
  | removeSubscriber (channelId : String)

variable (vendor : Vendor V)

section
variable (state : SessionState V)

def sessionStep : SessionAction → SessionState V
  | .attach request ring => (state.attach vendor request ring).1
  | .feed bytes => (state.feed vendor bytes).1
  | .resize rows cols => {state with terminal := state.terminal.resize vendor rows cols}
  | .deliveryResult channelId toSeq sent => state.deliveryResult channelId toSeq sent
  | .gapDeliveryResult channelId sent => state.gapDeliveryResult channelId sent
  | .clearSubscribers => state.clearSubscribers
  | .removeSubscriber channelId => state.removeSubscriber channelId

def sessionRun (actions : List SessionAction) : SessionState V :=
  actions.foldl (sessionStep vendor) state

def clientOf : Option String := state.holder.map Holder.clientInstanceId

def epochOf : Nat := (state.holder.map Holder.epoch).getD 0

end

variable {vendor} {state : SessionState V}

theorem validateAttach_binding (accepted : state.validateAttach request = none)
    (bound : state.transportBindings.lookup request.clientInstanceId = some binding) :
    binding.generation ≤ request.transportGeneration ∧
    (request.transportGeneration = binding.generation → binding.channelId = request.channelId) ∧
    (binding.generation < request.transportGeneration → binding.channelId ≠ request.channelId) := by
  unfold validateAttach at accepted
  split at accepted
  · cases accepted
  · rw [bound] at accepted
    simp only at accepted
    split at accepted
    · cases accepted
    · split at accepted
      · cases accepted
      · split at accepted
        · cases accepted
        · rename_i same newer
          refine ⟨by omega,?_,?_⟩
          · intro equal
            by_contra differs
            exact same ⟨equal,differs⟩
          · intro above equal
            exact newer ⟨above,equal⟩

-- An attach is the first one, a rebinding or a takeover.
inductive HolderEffect (state next : SessionState V) : Prop where
  | quiet : next.holder = state.holder → next.transportBindings = state.transportBindings →
      next.nextHolderEpoch = state.nextHolderEpoch → (∀ channel ∈ next.subscribers, channel ∈ state.subscribers) →
      HolderEffect state next
  | first (request : AttachRequest) : state.validateAttach request = none → state.holder = none →
      next.holder = some ⟨request.clientInstanceId,request.transportGeneration,request.channelId,state.bumpedEpoch⟩ →
      next.transportBindings = state.transportBindings.insert request.clientInstanceId
        ⟨request.transportGeneration,request.channelId⟩ →
      next.nextHolderEpoch = state.bumpedEpoch →
      (∀ channel ∈ next.subscribers, channel = request.channelId ∨ channel ∈ state.subscribers) →
      HolderEffect state next
  | rebound (request : AttachRequest) (holder : Holder) : state.validateAttach request = none →
      state.holder = some holder → holder.clientInstanceId = request.clientInstanceId →
      next.holder = some ⟨request.clientInstanceId,request.transportGeneration,request.channelId,holder.epoch⟩ →
      next.transportBindings = state.transportBindings.insert request.clientInstanceId
        ⟨request.transportGeneration,request.channelId⟩ →
      next.nextHolderEpoch = state.nextHolderEpoch →
      (∀ channel ∈ next.subscribers, channel = request.channelId ∨
        channel ∈ state.subscribers ∧ ¬(request.transportGeneration > holder.transportGeneration ∧
          holder.channelId ≠ request.channelId ∧ channel = holder.channelId)) →
      HolderEffect state next
  | takenOver (request : AttachRequest) (holder : Holder) : state.validateAttach request = none →
      state.holder = some holder → holder.clientInstanceId ≠ request.clientInstanceId →
      next.holder = some ⟨request.clientInstanceId,request.transportGeneration,request.channelId,state.bumpedEpoch⟩ →
      next.transportBindings = state.transportBindings.insert request.clientInstanceId
        ⟨request.transportGeneration,request.channelId⟩ →
      next.nextHolderEpoch = state.bumpedEpoch →
      (∀ channel ∈ next.subscribers, channel = request.channelId ∨
        channel ∈ state.subscribers ∧ channel ≠ holder.channelId) →
      HolderEffect state next

theorem attach_accepted (accepted : state.validateAttach request = none) :
    ∃ seq, (state.attach vendor request ring).1 = (state.takeHolder request).1.subscribe request.channelId seq := by
  simp only [SessionState.attach,accepted]
  split
  · exact ⟨_,rfl⟩
  · exact ⟨_,rfl⟩

theorem subscribe_member (mem : channel ∈ (state.subscribe channelId seq).subscribers) :
    channel = channelId ∨ channel ∈ state.subscribers :=
  mem_insert_cases mem

theorem attach_effect : HolderEffect state (state.attach vendor request ring).1 := by
  cases checked : state.validateAttach request with
  | some error =>
    simp only [SessionState.attach,checked]
    exact .quiet rfl rfl rfl fun _ mem => mem
  | none =>
    obtain ⟨_,equal⟩ := attach_accepted checked
    rw [equal]
    cases held : state.holder with
    | none =>
      simp only [takeHolder,held]
      exact .first request checked held rfl rfl rfl fun _ mem => subscribe_member mem
    | some holder =>
      by_cases same : holder.clientInstanceId = request.clientInstanceId
      · simp only [takeHolder,held,same,if_true]
        refine .rebound request holder checked held same rfl ?_ ?_ ?_
        · simp only [subscribe,installHolder,dropRebound]
          split <;> rfl
        · simp only [subscribe,installHolder,dropRebound]
          split <;> rfl
        · intro channel mem
          rcases subscribe_member mem with new | old
          · exact .inl new
          · refine .inr ?_
            simp only [installHolder,dropRebound] at old
            split at old
            · obtain ⟨differs,mem⟩ := mem_erase_parts old
              exact ⟨mem,fun ⟨_,_,equal⟩ => differs equal⟩
            · rename_i kept
              exact ⟨old,fun ⟨newer,moved,_⟩ => kept ⟨newer,moved⟩⟩
      · simp only [takeHolder,held,same,if_false]
        refine .takenOver request holder checked held same rfl rfl rfl ?_
        intro channel mem
        rcases subscribe_member mem with new | old
        · exact .inl new
        · obtain ⟨differs,mem⟩ := mem_erase_parts old
          exact .inr ⟨mem,differs⟩

section
variable (vendor : Vendor V)

theorem feed_fields : (state.feed vendor bytes).1.holder = state.holder ∧
    (state.feed vendor bytes).1.transportBindings = state.transportBindings ∧
    (state.feed vendor bytes).1.nextHolderEpoch = state.nextHolderEpoch ∧
    ∀ channel ∈ (state.feed vendor bytes).1.subscribers, channel ∈ state.subscribers := by
  unfold SessionState.feed
  split
  · exact ⟨rfl,rfl,rfl,fun _ mem => mem⟩
  · exact ⟨rfl,rfl,rfl,fun _ mem => mem_mapValues.mp mem⟩

theorem sessionStep_effect (state : SessionState V) (action : SessionAction) :
    HolderEffect state (sessionStep vendor state action) := by
  cases action with
  | attach request ring => exact attach_effect
  | feed bytes =>
    obtain ⟨holder,bindings,epoch,subscribers⟩ := feed_fields _
    exact .quiet holder bindings epoch subscribers
  | resize rows cols => exact .quiet rfl rfl rfl fun _ mem => mem
  | deliveryResult channelId toSeq sent =>
    simp only [sessionStep,deliveryResult]
    split
    · exact .quiet rfl rfl rfl fun _ mem => mem
    · rename_i subscriber found
      have inserted : ∀ value, ∀ channel ∈ state.subscribers.insert channelId value, channel ∈ state.subscribers := by
        intro value channel mem
        rcases mem_insert_cases mem with rfl | old
        · exact mem_of_lookup found
        · exact old
      split
      · exact .quiet rfl rfl rfl (inserted _)
      · split
        · exact .quiet rfl rfl rfl (inserted _)
        · exact .quiet rfl rfl rfl fun _ mem => mem
  | gapDeliveryResult channelId sent =>
    simp only [sessionStep,gapDeliveryResult]
    split
    · exact .quiet rfl rfl rfl fun _ mem => mem
    · rename_i found
      refine .quiet rfl rfl rfl ?_
      intro channel mem
      rcases mem_insert_cases mem with rfl | old
      · exact mem_of_lookup found
      · exact old
  | clearSubscribers => exact .quiet rfl rfl rfl fun _ mem => absurd mem (AList.notMem_empty _)
  | removeSubscriber channelId => exact .quiet rfl rfl rfl fun _ mem => (mem_erase_parts mem).2

structure HolderInvariant (state : SessionState V) : Prop where
  subscribed : ∀ channel ∈ state.subscribers, ∃ holder, state.holder = some holder ∧ holder.channelId = channel
  bound : ∀ holder, state.holder = some holder →
    state.transportBindings.lookup holder.clientInstanceId = some ⟨holder.transportGeneration,holder.channelId⟩
  counted : epochOf state = state.nextHolderEpoch
  bounded : epochOf state ≤ u64Max

theorem restore_invariant (terminal : TerminalState V) : HolderInvariant (.restore terminal) :=
  ⟨fun _ mem => absurd mem (AList.notMem_empty _),(fun _ held => nomatch held),rfl,Nat.zero_le _⟩

theorem bumpedEpoch_eq (state : SessionState V) : state.bumpedEpoch = min (state.nextHolderEpoch + 1) u64Max := by
  have positive : 0 < u64Max := by decide
  simp only [bumpedEpoch]
  omega

theorem sessionStep_preserves (valid : HolderInvariant state) (action : SessionAction) :
    HolderInvariant (sessionStep vendor state action) := by
  cases sessionStep_effect vendor state action with
  | quiet holder bindings epoch subscribers =>
    refine ⟨?_,by rw [holder,bindings]; exact valid.bound,by rw [epochOf,holder,epoch]; exact valid.counted,
      by rw [epochOf,holder]; exact valid.bounded⟩
    intro channel mem
    rw [holder]
    exact valid.subscribed _ (subscribers _ mem)
  | first request accepted free holder bindings epoch subscribers =>
    refine ⟨?_,?_,by simp [epochOf,holder,epoch],by simp [epochOf,holder,bumpedEpoch_eq]⟩
    · intro channel mem
      rcases subscribers channel mem with rfl | old
      · exact ⟨_,holder,rfl⟩
      · obtain ⟨other,held,_⟩ := valid.subscribed _ old
        rw [free] at held
        cases held
    · intro other held
      rw [holder] at held
      cases held
      simp [bindings]
  | rebound request old accepted held same holder bindings epoch subscribers =>
    have binding := valid.bound old held
    rw [same] at binding
    obtain ⟨notOlder,collides,moves⟩ := validateAttach_binding accepted binding
    have counted := valid.counted
    have bounded := valid.bounded
    simp only [epochOf,held,Option.map_some,Option.getD_some] at counted bounded
    refine ⟨?_,?_,by simp [epochOf,holder,epoch,counted],by simp [epochOf,holder,bounded]⟩
    · intro channel mem
      refine ⟨_,holder,?_⟩
      rcases subscribers channel mem with rfl | ⟨present,kept⟩
      · rfl
      · -- The old stream survives only when its channel is the one bound again.
        obtain ⟨other,otherHeld,equal⟩ := valid.subscribed _ present
        rw [held] at otherHeld
        cases otherHeld
        rcases Nat.lt_or_eq_of_le notOlder with newer | equalGeneration
        · exact absurd ⟨newer,moves newer,equal.symm⟩ kept
        · rw [← equal]
          exact (collides equalGeneration.symm).symm
    · intro other otherHeld
      rw [holder] at otherHeld
      cases otherHeld
      simp [bindings]
  | takenOver request old accepted held differs holder bindings epoch subscribers =>
    refine ⟨?_,?_,by simp [epochOf,holder,epoch],by simp [epochOf,holder,bumpedEpoch_eq]⟩
    · intro channel mem
      rcases subscribers channel mem with rfl | ⟨present,other⟩
      · exact ⟨_,holder,rfl⟩
      · obtain ⟨another,anotherHeld,equal⟩ := valid.subscribed _ present
        rw [held] at anotherHeld
        cases anotherHeld
        exact absurd equal.symm other
    · intro another anotherHeld
      rw [holder] at anotherHeld
      cases anotherHeld
      simp [bindings]

theorem sessionRun_preserves (valid : HolderInvariant state) : HolderInvariant (sessionRun vendor state actions) := by
  induction actions generalizing state with
  | nil => exact valid
  | cons action rest ih => exact ih (sessionStep_preserves _ valid _)

-- A binding is replaced only by one of a higher generation, and below saturation an unchanged epoch
-- means an unchanged client.
structure Advanced (state next : SessionState V) : Prop where
  bindings : ∀ client binding, state.transportBindings.lookup client = some binding →
    ∃ later, next.transportBindings.lookup client = some later ∧ (later = binding ∨ binding.generation < later.generation)
  epochs : epochOf state ≤ epochOf next
  clients : epochOf next = epochOf state → epochOf state < u64Max → clientOf next = clientOf state

theorem advanced_refl : Advanced state state :=
  ⟨fun _ binding found => ⟨binding,found,.inl rfl⟩,Nat.le_refl _,fun _ _ => rfl⟩

theorem advanced_trans (one : Advanced state next) (two : Advanced next third) : Advanced state third := by
  refine ⟨?_,Nat.le_trans one.epochs two.epochs,?_⟩
  · intro client binding found
    obtain ⟨middle,foundMiddle,firstly⟩ := one.bindings client binding found
    obtain ⟨later,foundLater,secondly⟩ := two.bindings client middle foundMiddle
    refine ⟨later,foundLater,?_⟩
    rcases firstly with rfl | above
    · exact secondly
    · rcases secondly with rfl | higher
      · exact .inr above
      · exact .inr (Nat.lt_trans above higher)
  · intro equal small
    have levels := one.epochs
    have tops := two.epochs
    exact (two.clients (by omega) (by omega)).trans (one.clients (by omega) small)

theorem insert_advances (accepted : state.validateAttach request = none)
    (found : state.transportBindings.lookup client = some binding) :
    ∃ later, (state.transportBindings.insert request.clientInstanceId
        ⟨request.transportGeneration,request.channelId⟩).lookup client = some later ∧
      (later = binding ∨ binding.generation < later.generation) := by
  by_cases same : client = request.clientInstanceId
  · subst same
    obtain ⟨notOlder,collides,_⟩ := validateAttach_binding accepted found
    refine ⟨_,AList.lookup_insert _,?_⟩
    rcases Nat.lt_or_eq_of_le notOlder with newer | equal
    · exact .inr newer
    · left
      rw [← equal,← collides equal.symm]
  · exact ⟨binding,by rw [AList.lookup_insert_ne same]; exact found,.inl rfl⟩

theorem sessionStep_epoch (valid : HolderInvariant state) (action : SessionAction) :
    epochOf (sessionStep vendor state action) =
      if clientOf (sessionStep vendor state action) = clientOf state then epochOf state
      else min (epochOf state + 1) u64Max := by
  have counted := valid.counted
  cases sessionStep_effect vendor state action with
  | quiet holder _ _ _ => simp [epochOf,clientOf,holder]
  | first request _ free holder _ _ _ =>
    rw [if_neg (by simp [clientOf,holder,free]),counted,← bumpedEpoch_eq]
    simp [epochOf,holder]
  | rebound request old _ held same holder _ _ _ =>
    rw [if_pos (by simp [clientOf,holder,held,same])]
    simp [epochOf,holder,held]
  | takenOver request old _ held differs holder _ _ _ =>
    rw [if_neg (by simp [clientOf,holder,held,Ne.symm differs]),counted,← bumpedEpoch_eq]
    simp [epochOf,holder]

theorem sessionStep_bindings (found : state.transportBindings.lookup client = some binding) :
    ∃ later, (sessionStep vendor state action).transportBindings.lookup client = some later ∧
      (later = binding ∨ binding.generation < later.generation) := by
  cases sessionStep_effect vendor state action with
  | quiet _ bindings _ _ => exact ⟨binding,bindings ▸ found,.inl rfl⟩
  | first request accepted _ _ bindings _ _ | rebound request old accepted _ _ _ bindings _ _
  | takenOver request old accepted _ _ _ bindings _ _ => rw [bindings]; exact insert_advances accepted found

theorem sessionStep_advances (valid : HolderInvariant state) :
    Advanced state (sessionStep vendor state action) := by
  have epoch := sessionStep_epoch vendor valid action
  have bounded := valid.bounded
  refine ⟨fun _ _ => sessionStep_bindings _,?_,?_⟩
  · split at epoch <;> omega
  · intro equal small
    split at epoch
    · assumption
    · omega

theorem sessionRun_advances (valid : HolderInvariant state) (actions : List SessionAction) :
    Advanced state (sessionRun vendor state actions) := by
  induction actions generalizing state with
  | nil => exact advanced_refl
  | cons action rest ih =>
    exact advanced_trans (sessionStep_advances _ valid) (ih (sessionStep_preserves _ valid _))

end

theorem currentHolder_ok (accepted : state.currentHolder channelId epoch = .ok current) :
    state.holder = some current ∧ current.epoch = epoch ∧ current.channelId = channelId := by
  unfold currentHolder at accepted
  split at accepted
  · cases accepted
  · split at accepted
    · cases accepted
    · split at accepted
      · cases accepted
      · cases accepted
        rename_i held same here
        exact ⟨held,by simpa using same,by simpa using here⟩

-- A pair that another client's takeover made stale stays refused.
theorem replaced_refused {holder : Holder} (valid : HolderInvariant state) (held : state.holder = some holder)
    (small : holder.epoch < u64Max) (changed : clientOf (sessionStep vendor state action) ≠ clientOf state) :
    (sessionRun vendor (sessionStep vendor state action) actions).currentHolder holder.channelId holder.epoch ≠
      .ok current := by
  intro accepted
  obtain ⟨now,epoch,_⟩ := currentHolder_ok accepted
  have later := (sessionRun_advances vendor (sessionStep_preserves vendor valid action) actions).epochs
  have bumped := sessionStep_epoch vendor valid action
  have before : epochOf state = holder.epoch := by simp [epochOf,held]
  have after : epochOf (sessionRun vendor (sessionStep vendor state action) actions) = holder.epoch := by
    simp [epochOf,now,epoch]
  rw [if_neg changed] at bumped
  omega

theorem rebound_refused {holder : Holder} (valid : HolderInvariant state) (held : state.holder = some holder)
    (small : holder.epoch < u64Max) (rebound : (sessionStep vendor state action).holder = some other)
    (same : other.clientInstanceId = holder.clientInstanceId) (moved : other.channelId ≠ holder.channelId)
    (accepted : (sessionRun vendor (sessionStep vendor state action) actions).currentHolder
      holder.channelId holder.epoch = .ok current) :
    current.clientInstanceId = holder.clientInstanceId ∧ other.transportGeneration < current.transportGeneration := by
  have validNext := sessionStep_preserves vendor valid action
  have later := sessionRun_advances vendor validNext actions
  obtain ⟨now,epoch,channel⟩ := currentHolder_ok accepted
  have bumped := sessionStep_epoch vendor valid action
  rw [if_pos (by simp [clientOf,rebound,held,same])] at bumped
  have before : epochOf state = holder.epoch := by simp [epochOf,held]
  have after : epochOf (sessionRun vendor (sessionStep vendor state action) actions) = holder.epoch := by
    simp [epochOf,now,epoch]
  have client : current.clientInstanceId = other.clientInstanceId := by
    have kept := later.clients (by omega) (by omega)
    simpa [clientOf,now,rebound] using kept
  obtain ⟨_,found,newer⟩ := later.bindings _ _ (validNext.bound _ rebound)
  have bound := (sessionRun_preserves _ validNext).bound current now
  rw [client,found] at bound
  cases bound
  refine ⟨client.trans same,?_⟩
  rcases newer with equal | higher
  · have channels : current.channelId = other.channelId := congrArg TransportBinding.channelId equal
    exact absurd (channels.symm.trans channel) moved
  · exact higher

theorem holder_exclusive (vendor : Vendor V) (terminal : TerminalState V) (before : List SessionAction)
    (action : SessionAction) (after : List SessionAction) :
    let state := sessionRun vendor (.restore terminal) before
    let next := sessionStep vendor state action
    let later := sessionRun vendor next after
    (∀ channel ∈ state.subscribers, ∃ holder, state.holder = some holder ∧ holder.channelId = channel) ∧
    (∀ holder, state.holder = some holder → state.transportBindings.lookup holder.clientInstanceId =
      some ⟨holder.transportGeneration,holder.channelId⟩) ∧
    (∀ client binding, state.transportBindings.lookup client = some binding →
      ∃ newer, next.transportBindings.lookup client = some newer ∧ binding.generation ≤ newer.generation) ∧
    epochOf next = (if clientOf next = clientOf state then epochOf state else min (epochOf state + 1) u64Max) ∧
    (∀ holder, state.holder = some holder → holder.epoch < u64Max →
      (clientOf next ≠ clientOf state → ∀ current, later.currentHolder holder.channelId holder.epoch ≠ .ok current) ∧
      (∀ other, next.holder = some other → other.clientInstanceId = holder.clientInstanceId →
        other.channelId ≠ holder.channelId →
        ∀ current, later.currentHolder holder.channelId holder.epoch = .ok current →
          current.clientInstanceId = holder.clientInstanceId ∧
          other.transportGeneration < current.transportGeneration)) := by
  intro state next later
  have valid : HolderInvariant state := sessionRun_preserves _ (restore_invariant _)
  refine ⟨valid.subscribed,valid.bound,?_,sessionStep_epoch _ valid _,?_⟩
  · intro client binding found
    obtain ⟨newer,foundNewer,above⟩ := sessionStep_bindings _ found
    refine ⟨newer,foundNewer,?_⟩
    rcases above with rfl | higher
    · exact Nat.le_refl _
    · exact Nat.le_of_lt higher
  · intro holder held small
    exact ⟨fun changed _ => replaced_refused valid held small changed,
      fun _ rebound same moved _ accepted => rebound_refused valid held small rebound same moved accepted⟩

def attachAs (client : String) (generation : Nat) (channel : String) : SessionAction :=
  .attach ⟨channel,client,generation,none⟩ fun _ _ => none

-- Two clients that keep taking the session from each other.
structure Contended (state : SessionState Unit) (client : String) (epoch : Nat) : Prop where
  one : state.transportBindings.lookup "a" = some ⟨1,"a"⟩
  two : state.transportBindings.lookup "b" = some ⟨1,"b"⟩
  held : state.holder = some ⟨client,1,client,epoch⟩
  counter : state.nextHolderEpoch = epoch

theorem contended_takeover {state : SessionState Unit} (contended : Contended state client epoch)
    (other : String) (known : other = "a" ∨ other = "b") (differs : client ≠ other) :
    Contended (sessionStep blankVendor state (attachAs other 1 other)) other (min (epoch + 1) u64Max) := by
  obtain ⟨one,two,held,counter⟩ := contended
  have accepted : state.validateAttach ⟨other,other,1,none⟩ = none := by
    rcases known with rfl | rfl
    · simp [validateAttach,one]
    · simp [validateAttach,two]
  obtain ⟨seq,equal⟩ := attach_accepted accepted
  have moved : sessionStep blankVendor state (attachAs other 1 other) = (state.takeHolder ⟨other,other,1,none⟩).1.subscribe other seq := equal
  have bumped : state.bumpedEpoch = min (epoch + 1) u64Max := by rw [bumpedEpoch_eq,counter]
  rw [moved]
  simp only [takeHolder,held,if_neg differs,bumped]
  rcases known with rfl | rfl
  · exact ⟨by simp [subscribe,installHolder],by simp [subscribe,installHolder,two],rfl,rfl⟩
  · exact ⟨by simp [subscribe,installHolder,one],by simp [subscribe,installHolder],rfl,rfl⟩

def roundTrip : List SessionAction := [attachAs "a" 1 "a",attachAs "b" 1 "b"]

theorem contended_rounds {state : SessionState Unit} (contended : Contended state "b" (min epoch u64Max)) (rounds : Nat) :
    Contended (sessionRun blankVendor state (List.replicate rounds roundTrip).flatten) "b"
      (min (epoch + 2 * rounds) u64Max) := by
  induction rounds generalizing state epoch with
  | zero => exact contended
  | succ rounds ih =>
    have first := contended_takeover contended "a" (.inl rfl) (by decide)
    have second := contended_takeover first "b" (.inr rfl) (by decide)
    have level : min (min (min epoch u64Max + 1) u64Max + 1) u64Max = min (epoch + 2) u64Max := by omega
    rw [level] at second
    have total : epoch + 2 * (rounds + 1) = epoch + 2 + 2 * rounds := by omega
    rw [total]
    exact ih second

def idleSession : SessionState Unit := .new blankVendor 24 80 1000

-- After 2^64 - 1 takeovers a takeover no longer changes the epoch, and the client it replaced is
-- accepted under its old pair. Three attaches of one client bring back a pair it had left.
theorem holder_pair_accepted_again :
    (∃ actions, (sessionRun blankVendor idleSession actions).holder = some ⟨"b",1,"b",u64Max⟩ ∧
      clientOf (sessionStep blankVendor (sessionRun blankVendor idleSession actions) (attachAs "a" 1 "a")) = some "a" ∧
      epochOf (sessionStep blankVendor (sessionRun blankVendor idleSession actions) (attachAs "a" 1 "a")) = u64Max ∧
      (sessionRun blankVendor idleSession (actions ++ roundTrip)).currentHolder "b" u64Max = .ok ⟨"b",1,"b",u64Max⟩) ∧
    (sessionRun blankVendor idleSession [attachAs "a" 1 "x"]).currentHolder "x" 1 = .ok ⟨"a",1,"x",1⟩ ∧
    (sessionRun blankVendor idleSession [attachAs "a" 1 "x",attachAs "a" 2 "y"]).holder = some ⟨"a",2,"y",1⟩ ∧
    (sessionRun blankVendor idleSession [attachAs "a" 1 "x",attachAs "a" 2 "y",attachAs "a" 3 "x"]).currentHolder "x" 1 =
      .ok ⟨"a",3,"x",1⟩ := by
  refine ⟨?_,rfl,rfl,rfl⟩
  have start : Contended (sessionRun blankVendor idleSession roundTrip) "b" (min 2 u64Max) := ⟨rfl,rfl,rfl,rfl⟩
  obtain ⟨rounds,enough⟩ : ∃ rounds, u64Max ≤ 2 + 2 * rounds := ⟨2 ^ 63,by decide⟩
  have full := contended_rounds start rounds
  have one := contended_takeover full "a" (.inl rfl) (by decide)
  have two := contended_takeover one "b" (.inr rfl) (by decide)
  simp only [Nat.min_eq_right enough,Nat.min_eq_right (Nat.le_succ u64Max)] at full one two
  refine ⟨roundTrip ++ (List.replicate rounds roundTrip).flatten,?_⟩
  simp only [sessionRun,List.foldl_append] at full one two ⊢
  refine ⟨full.held,?_,?_,?_⟩
  · simp [clientOf,one.held]
  · simp [epochOf,one.held]
  · have last := two.held
    simp only [roundTrip,List.foldl_cons,List.foldl_nil] at last ⊢
    simp [currentHolder,last]

end Coflux.Sessiond
