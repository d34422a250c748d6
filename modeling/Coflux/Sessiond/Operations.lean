import Coflux.Foundation.Machine
import Coflux.Foundation.Eviction

namespace Coflux.Sessiond
open FiniteMap StepMachine Eviction

-- sessiond remembers its answers to the operations it has executed, the oldest first to go.

def operationLedgerLimit : Nat := 4096
def operationLedgerBytes : Nat := 4 * 1024 * 1024

structure DeviceSessionCreate where
  (requestId operationId sessionId taskId cwd : String)
  shell : Option String
  (cols rows : Nat)
  (command workspaceId projectId daemonId mcpUrl : String)
deriving DecidableEq

structure DeviceSessionStop where
  (requestId operationId sessionId : String)
  holderEpoch : Nat
deriving DecidableEq

inductive OperationRequest where
  | create (request : DeviceSessionCreate)
  | stop (request : DeviceSessionStop)
deriving DecidableEq

def canonicalStopRequest (request : DeviceSessionStop) : DeviceSessionStop := {request with requestId := ""}

def canonicalCreateRequest (request : DeviceSessionCreate) : DeviceSessionCreate := {request with requestId := ""}

structure DeviceOperationAck where
  (requestId operationId : String)
  ok : Bool
  (error sessionId : Option String)
  pid : Option Int
deriving DecidableEq

structure StoredOperation where
  request : OperationRequest
  ack : DeviceOperationAck
  weight : Nat

structure OperationLedger where
  entries : Table String StoredOperation
  order : List String
  bytes : Nat

structure OperationLimits where
  (entryLimit byteLimit : Nat)

namespace OperationLedger

def start : OperationLedger := ⟨∅,[],0⟩

section
variable (ledger : OperationLedger) (operationId : String)

def cached (request : OperationRequest) : Except Unit (Option DeviceOperationAck) :=
  match ledger.entries.lookup operationId with
  | some stored => if stored.request = request then .ok (some stored.ack) else .error ()
  | none => .ok none

def store (stored : StoredOperation) : OperationLedger :=
  match ledger.entries.lookup operationId with
  | some previous => ⟨ledger.entries.insert operationId stored,ledger.order,ledger.bytes - previous.weight + stored.weight⟩
  | none => ⟨ledger.entries.insert operationId stored,ledger.order ++ [operationId],ledger.bytes + stored.weight⟩

end

def full (limits : OperationLimits) (ledger : OperationLedger) : Bool :=
  size ledger.entries > limits.entryLimit || ledger.bytes > limits.byteLimit

def popOldest (ledger : OperationLedger) : Option OperationLedger :=
  match ledger.order with
  | [] => none
  | oldest :: order =>
    some (match ledger.entries.lookup oldest with
      | some removed => ⟨ledger.entries.erase oldest,order,ledger.bytes - removed.weight⟩
      | none => ⟨ledger.entries,order,ledger.bytes⟩)

-- weight is what the strings of the record take, by their capacity. A ledger that is still full
-- with an empty queue is cleared.
def rememberWithLimits (limits : OperationLimits) (ledger : OperationLedger) (operationId : String) (request : OperationRequest)
    (ack : DeviceOperationAck) (weight : Nat) : OperationLedger :=
  let stored := ledger.store operationId ⟨request,ack,weight⟩
  let trimmed := evictWhile (full limits) popOldest stored.order.length stored
  if trimmed.full limits then ⟨∅,[],0⟩ else trimmed

end OperationLedger

open OperationLedger (cached full popOldest)

inductive OperationReply where
  | ack (ack : DeviceOperationAck)
  | error (requestId code message : String)

inductive StopOutcome where
  | missing
  | refused (code message : String)
  | killed (pid : Int) (result : Except String Unit)

structure OperationOutcome where
  reply : OperationReply
  ledger : OperationLedger
  executed : Bool

section Handlers
variable (limits : OperationLimits)

def replay (ack : DeviceOperationAck) (requestId : String) : OperationReply := .ack {ack with requestId := requestId}

def deviceStop (ledger : OperationLedger) (request : DeviceSessionStop) (outcome : StopOutcome) (weight : Nat) : OperationOutcome :=
  let operation := OperationRequest.stop (canonicalStopRequest request)
  let remember := fun (ack : DeviceOperationAck) executed =>
    OperationOutcome.mk (.ack ack) (ledger.rememberWithLimits limits request.operationId operation ack weight) executed
  match ledger.cached request.operationId operation with
  | .ok (some ack) => ⟨replay ack request.requestId,ledger,false⟩
  | .error () => ⟨.error request.requestId "operation_collision" "相同 operationId 携带了不同 stop payload",ledger,false⟩
  | .ok none =>
    match outcome with
    | .missing =>
      remember ⟨request.requestId,request.operationId,false,some "session 不存在或已退出",some request.sessionId,none⟩ false
    | .refused code message => ⟨.error request.requestId code message,ledger,false⟩
    | .killed pid (.ok ()) => remember ⟨request.requestId,request.operationId,true,none,some request.sessionId,some pid⟩ true
    | .killed pid (.error error) =>
      remember ⟨request.requestId,request.operationId,false,some error,some request.sessionId,some pid⟩ true

def deviceCreate (ledger : OperationLedger) (request : DeviceSessionCreate) (created : Except String Int) (weight : Nat) :
    OperationOutcome :=
  let operation := OperationRequest.create (canonicalCreateRequest request)
  match ledger.cached request.operationId operation with
  | .ok (some ack) => ⟨replay ack request.requestId,ledger,false⟩
  | .error () => ⟨.error request.requestId "operation_collision" "相同 operationId 携带了不同 create payload",ledger,false⟩
  | .ok none =>
    let ack : DeviceOperationAck :=
      match created with
      | .ok pid => ⟨request.requestId,request.operationId,true,none,some request.sessionId,some pid⟩
      | .error error => ⟨request.requestId,request.operationId,false,some error,some request.sessionId,none⟩
    ⟨.ack ack,ledger.rememberWithLimits limits request.operationId operation ack weight,true⟩

end Handlers

inductive OperationAction where
  | remember (operationId : String) (request : OperationRequest) (ack : DeviceOperationAck) (weight : Nat)
  | create (request : DeviceSessionCreate) (created : Except String Int) (weight : Nat)
  | stop (request : DeviceSessionStop) (outcome : StopOutcome) (weight : Nat)

def operationStep (limits : OperationLimits) (ledger : OperationLedger) : OperationAction → Option OperationLedger
  | .remember operationId request ack weight => some (ledger.rememberWithLimits limits operationId request ack weight)
  | .create request created weight => some (deviceCreate limits ledger request created weight).ledger
  | .stop request outcome weight => some (deviceStop limits ledger request outcome weight).ledger

def operationMachine (limits : OperationLimits) : Machine OperationLedger OperationAction := ⟨operationStep limits⟩

def storedWeight (_ : String) (stored : StoredOperation) : Nat := stored.weight

structure Mirrored (ledger : OperationLedger) : Prop where
  single : ledger.order.Nodup
  same : ∀ operationId, operationId ∈ ledger.order ↔ operationId ∈ ledger.entries
  bytes : ledger.bytes = weigh storedWeight ledger.entries

section Ledger
variable {ledger : OperationLedger}

theorem cleared_mirrored : Mirrored ⟨∅,[],0⟩ := ⟨List.nodup_nil,fun _ => ⟨nofun,nofun⟩,rfl⟩

theorem store_mirrored (mirrored : Mirrored ledger) : Mirrored (ledger.store operationId stored) := by
  unfold OperationLedger.store
  split
  · rename_i previous found
    have weighed : weigh storedWeight (ledger.entries.insert operationId stored) + storedWeight operationId previous =
        weigh storedWeight ledger.entries + storedWeight operationId stored := weigh_insert_present found
    have erased : weigh storedWeight (ledger.entries.erase operationId) + storedWeight operationId previous =
        weigh storedWeight ledger.entries := weigh_erase found
    have counted := mirrored.bytes
    refine ⟨mirrored.single,?_,?_⟩
    · intro other
      rw [mirrored.same,AList.mem_insert]
      exact ⟨.inr,fun either => either.elim (fun equal => equal ▸ mem_of_lookup found) id⟩
    · change ledger.bytes - storedWeight operationId previous + storedWeight operationId stored =
        weigh storedWeight (ledger.entries.insert operationId stored)
      omega
  · rename_i absent
    have missing : operationId ∉ ledger.entries := AList.lookup_eq_none.mp absent
    refine ⟨?_,?_,?_⟩
    · apply List.Nodup.append mirrored.single (List.nodup_singleton _)
      intro other earlier this
      rw [List.mem_singleton] at this
      exact missing (this ▸ (mirrored.same _).mp earlier)
    · intro other
      rw [List.mem_append,List.mem_singleton,mirrored.same,AList.mem_insert]
      exact or_comm
    · rw [weigh_insert_absent absent,← mirrored.bytes]
      exact Nat.add_comm _ _

theorem popOldest_shorter (popped : ledger.popOldest = some next) : next.order.length < ledger.order.length := by
  unfold popOldest at popped
  split at popped
  · cases popped
  · rename_i queue
    cases popped
    rw [queue]
    split <;> exact Nat.lt_succ_self _

theorem popOldest_left (popped : ledger.popOldest = some next) (kept : next.entries.lookup operationId = some stored) :
    ledger.entries.lookup operationId = some stored := by
  unfold popOldest at popped
  split at popped
  · cases popped
  · cases popped
    split at kept
    · exact erase_lookup kept
    · exact kept

section
variable (mirrored : Mirrored ledger)
include mirrored

theorem popOldest_mirrored (popped : ledger.popOldest = some next) : Mirrored next := by
  obtain ⟨entries,order,bytes⟩ := ledger
  cases order with
  | nil => cases popped
  | cons oldest order =>
    have mem : oldest ∈ entries := (mirrored.same _).mp List.mem_cons_self
    obtain ⟨removed,found⟩ := Option.isSome_iff_exists.mp (AList.lookup_isSome.mpr mem)
    have erased : weigh storedWeight (entries.erase oldest) + storedWeight oldest removed = weigh storedWeight entries :=
      weigh_erase found
    have counted := mirrored.bytes
    obtain ⟨fresh,single⟩ := List.nodup_cons.mp mirrored.single
    simp only [popOldest,found] at popped
    cases popped
    refine ⟨single,?_,?_⟩
    · intro other
      rw [AList.mem_erase,← mirrored.same,List.mem_cons]
      constructor
      · intro later
        exact ⟨fun equal => fresh (equal ▸ later),.inr later⟩
      · exact fun both => both.2.resolve_left both.1
    · change bytes - storedWeight oldest removed = weigh storedWeight (entries.erase oldest)
      change bytes = weigh storedWeight entries at counted
      omega

theorem stuck_roomy (stuck : ledger.popOldest = none) : ledger.full limits = false := by
  have empty : ledger.order = [] := by
    unfold popOldest at stuck
    split at stuck
    · assumption
    · cases stuck
  have nothing : ledger.entries = ∅ := by
    apply empty_of_absent
    intro operationId
    apply AList.lookup_eq_none.mpr
    intro mem
    rw [← mirrored.same,empty] at mem
    cases mem
  have counted := mirrored.bytes
  rw [nothing] at counted
  rw [full,nothing,counted]
  simp [size]

def trim (limits : OperationLimits) (ledger : OperationLedger) : OperationLedger :=
  evictWhile (OperationLedger.full limits) OperationLedger.popOldest ledger.order.length ledger

theorem trim_mirrored : Mirrored (trim limits ledger) :=
  evictWhile_keeps (fun _ _ mirrored _ popped => popOldest_mirrored mirrored popped) mirrored

theorem trim_roomy : (trim limits ledger).full limits = false := by
  have less : ∀ store smaller : OperationLedger, store.popOldest = some smaller → smaller.order.length < store.order.length :=
    fun _ _ => popOldest_shorter
  rcases evictWhile_ends less (Nat.le_refl ledger.order.length) with roomy | stuck
  · exact roomy
  · exact stuck_roomy (trim_mirrored mirrored) stuck

-- As map and queue agree, the ledger is never cleared.
theorem rememberWithLimits_eq {ack : DeviceOperationAck} : ledger.rememberWithLimits limits operationId request ack weight =
    trim limits (ledger.store operationId ⟨request,ack,weight⟩) := by
  have roomy : (trim limits (ledger.store operationId ⟨request,ack,weight⟩)).full limits = false :=
    trim_roomy (store_mirrored mirrored)
  exact if_neg (Bool.eq_false_iff.mp roomy)

end

theorem store_lookup (kept : (ledger.store operationId stored).entries.lookup other = some found) :
    other = operationId ∧ found = stored ∨ other ≠ operationId ∧ ledger.entries.lookup other = some found := by
  unfold OperationLedger.store at kept
  split at kept <;> exact insert_lookup kept

def Subledger (before after : OperationLedger) : Prop :=
  ∀ operationId stored, after.entries.lookup operationId = some stored → before.entries.lookup operationId = some stored

theorem trim_within : Subledger ledger (trim limits ledger) := by
  have start : Subledger ledger ledger := fun _ _ kept => kept
  refine evictWhile_keeps ?_ start
  intro store smaller so_far _ popped operationId stored kept
  exact so_far _ stored (popOldest_left popped kept)

theorem rememberWithLimits_lookup {ack : DeviceOperationAck} (mirrored : Mirrored ledger)
    (kept : (ledger.rememberWithLimits limits operationId request ack weight).entries.lookup other = some found) :
    other = operationId ∧ found = ⟨request,ack,weight⟩ ∨ other ≠ operationId ∧ ledger.entries.lookup other = some found := by
  rw [rememberWithLimits_eq mirrored] at kept
  exact store_lookup (trim_within _ found kept)

theorem deviceCreate_cases :
    (deviceCreate limits ledger request created weight).ledger = ledger ∨
      ∃ ack, (deviceCreate limits ledger request created weight).ledger = ledger.rememberWithLimits limits request.operationId
        (.create (canonicalCreateRequest request)) ack weight := by
  unfold deviceCreate
  dsimp only
  split
  · exact .inl rfl
  · exact .inl rfl
  · exact .inr ⟨_,rfl⟩

theorem deviceCreate_absent (executed : (deviceCreate limits ledger request created weight).executed = true) :
    request.operationId ∉ ledger.entries := by
  intro mem
  obtain ⟨_,found⟩ := Option.isSome_iff_exists.mp (AList.lookup_isSome.mpr mem)
  unfold deviceCreate at executed
  simp only [cached,found] at executed
  split at executed
  · cases executed
  · cases executed
  · rename_i impossible
    split at impossible <;> cases impossible

theorem deviceStop_cases :
    (deviceStop limits ledger request outcome weight).ledger = ledger ∨
      ∃ ack, (deviceStop limits ledger request outcome weight).ledger = ledger.rememberWithLimits limits request.operationId
        (.stop (canonicalStopRequest request)) ack weight := by
  unfold deviceStop
  dsimp only
  split
  · exact .inl rfl
  · exact .inl rfl
  · split
    · exact .inr ⟨_,rfl⟩
    · exact .inl rfl
    · exact .inr ⟨_,rfl⟩
    · exact .inr ⟨_,rfl⟩

end Ledger

-- A retained operation is answered from the ledger and not executed, whether or not what is asked
-- is what was asked before.
structure OperationsKept (limits : OperationLimits) (ledger : OperationLedger) : Prop where
  mirrored : Mirrored ledger
  entryBound : size ledger.entries ≤ limits.entryLimit
  byteBound : ledger.bytes ≤ limits.byteLimit
  remembered : ∀ operationId request ack weight other found,
    (ledger.rememberWithLimits limits operationId request ack weight).entries.lookup other = some found →
    other = operationId ∧ found = ⟨request,ack,weight⟩ ∨ other ≠ operationId ∧ ledger.entries.lookup other = some found
  createReplayed : ∀ request created weight stored, ledger.entries.lookup request.operationId = some stored →
    stored.request = .create (canonicalCreateRequest request) →
    deviceCreate limits ledger request created weight = ⟨.ack {stored.ack with requestId := request.requestId},ledger,false⟩
  createCollides : ∀ request created weight stored, ledger.entries.lookup request.operationId = some stored →
    stored.request ≠ .create (canonicalCreateRequest request) →
    ∃ message, deviceCreate limits ledger request created weight =
      ⟨.error request.requestId "operation_collision" message,ledger,false⟩
  stopReplayed : ∀ request outcome weight stored, ledger.entries.lookup request.operationId = some stored →
    stored.request = .stop (canonicalStopRequest request) →
    deviceStop limits ledger request outcome weight = ⟨.ack {stored.ack with requestId := request.requestId},ledger,false⟩
  stopCollides : ∀ request outcome weight stored, ledger.entries.lookup request.operationId = some stored →
    stored.request ≠ .stop (canonicalStopRequest request) →
    ∃ message, deviceStop limits ledger request outcome weight =
      ⟨.error request.requestId "operation_collision" message,ledger,false⟩

structure OperationsSound (limits : OperationLimits) (ledger : OperationLedger) : Prop where
  mirrored : Mirrored ledger
  roomy : ledger.full limits = false

theorem operationStep_sound (sound : OperationsSound limits ledger) (step : operationStep limits ledger action = some next) :
    OperationsSound limits next := by
  have remembered : ∀ operationId request ack weight,
      OperationsSound limits (ledger.rememberWithLimits limits operationId request ack weight) := by
    intro operationId request ack weight
    have stored : Mirrored (ledger.store operationId ⟨request,ack,weight⟩) := store_mirrored sound.mirrored
    rw [rememberWithLimits_eq sound.mirrored]
    exact ⟨trim_mirrored stored,trim_roomy stored⟩
  cases action with
  | remember operationId request ack weight =>
    cases step
    exact remembered _ _ _ _
  | create request created weight =>
    cases step
    rcases deviceCreate_cases with same | ⟨ack,stored⟩
    · rw [same]
      exact sound
    · rw [stored]
      exact remembered _ _ _ _
  | stop request outcome weight =>
    cases step
    rcases deviceStop_cases with same | ⟨ack,stored⟩
    · rw [same]
      exact sound
    · rw [stored]
      exact remembered _ _ _ _

theorem sound_kept (sound : OperationsSound limits ledger) : OperationsKept limits ledger := by
  have bounds := sound.roomy
  simp only [full,Bool.or_eq_false_iff,decide_eq_false_iff_not,Nat.not_lt] at bounds
  refine ⟨sound.mirrored,bounds.1,bounds.2,fun _ _ _ _ _ _ => rememberWithLimits_lookup sound.mirrored,?_,?_,?_,?_⟩
  · intro request created weight stored found same
    simp only [deviceCreate,cached,found,if_pos same,replay]
  · intro request created weight stored found differs
    exact ⟨_,by simp only [deviceCreate,cached,found,if_neg differs]; rfl⟩
  · intro request outcome weight stored found same
    simp only [deviceStop,cached,found,if_pos same,replay]
  · intro request outcome weight stored found differs
    exact ⟨_,by simp only [deviceStop,cached,found,if_neg differs]; rfl⟩

theorem operations_replay_safe (limits : OperationLimits) (actions : List OperationAction) :
    (operationMachine limits).Throughout (OperationsKept limits) .start actions := by
  have start : OperationsSound limits .start := ⟨cleared_mirrored,by simp [full,OperationLedger.start,size]⟩
  exact throughout_of_preserved (fun _ => sound_kept) (fun _ _ _ => operationStep_sound) start

end Coflux.Sessiond
