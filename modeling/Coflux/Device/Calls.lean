import Coflux.Foundation.Eviction
import Coflux.Device.Channels

namespace Coflux.Device
open FiniteMap StepMachine Sessiond Text Eviction
open AList (lookup_erase_ne lookup_insert lookup_insert_ne)

-- A ledger remembers every call under its key: the first request executes, requests for the same
-- call wait for its result, later ones are given the result that is kept.

def callLedgerLimit : Nat := 1024
def callLedgerBytes : Nat := 64 * 1024 * 1024
def callLedgerResultReserveBytes : Nat := 512

-- The results of execute_worker_payload other than errors.
inductive ResultKind where
  | projectValidated | worktreeAdded | operationAck | execResult | fsListed | fsReadResult | fsStatResult
  | fsIndexResult | fsWriteResult | portsResult | changesList | changesFile | pong | annotationsListed
  | annotationsMutated | annotationImageData | annotationHandOffResult
deriving DecidableEq

inductive ResultPayload where
  | error (requestId : Option String) (code message : String)
  | result (kind : ResultKind) (requestId : String) (body : Bytes)
deriving DecidableEq

def setResponseRequestId (payload : ResultPayload) (requestId : String) : ResultPayload :=
  match payload with
  | .error _ code message => .error (if requestId = "" then none else some requestId) code message
  | .result kind _ body => .result kind requestId body

def responseRequestId : ResultPayload → String
  | .error requestId _ _ => requestId.getD ""
  | .result _ requestId _ => requestId

theorem setResponseRequestId_carries :
    responseRequestId (setResponseRequestId payload requestId) = requestId := by
  cases payload with
  | error old code message =>
    simp only [setResponseRequestId,responseRequestId]
    split
    · rename_i empty
      exact empty.symm
    · rfl
  | result kind old body => rfl

-- Sizes in the wire format, for lengths below 2 ^ 35.
def varintLength (value : Nat) : Nat :=
  if value < 2 ^ 7 then 1 else if value < 2 ^ 14 then 2 else if value < 2 ^ 21 then 3 else if value < 2 ^ 28 then 4 else 5

def delimitedLength (length : Nat) : Nat := 1 + varintLength length + length

def stringFieldLength (text : String) : Nat :=
  if text.utf8ByteSize = 0 then 0 else delimitedLength text.utf8ByteSize

def errorLength (requestId : Option String) (code message : String) : Nat :=
  requestId.elim 0 (fun id => delimitedLength id.utf8ByteSize) + stringFieldLength code + stringFieldLength message

-- Limits, sizes of records in memory and the encoded length of a result.
structure LedgerSizes where
  (recordLimit byteLimit stringSize recordSize waiterSize : Nat)
  resultLength : ResultKind → String → Bytes → Nat

section
variable (sizes : LedgerSizes)

-- The version takes two bytes, the tag of an error two.
def callResultBytes : ResultPayload → Nat
  | .error requestId code message =>
    let length := errorLength requestId code message
    2 + (2 + varintLength length + length)
  | .result kind requestId body => sizes.resultLength kind requestId body

structure ResponseWaiter where
  (channelId requestId : String)
deriving DecidableEq

structure CallRecord where
  fingerprint : Bytes
  result : Option ResultPayload
  waiters : List ResponseWaiter

structure CallLedger where
  entries : Table String CallRecord
  bytes : Nat

inductive CallStart where
  | execute
  | pending
  | cached (result : ResultPayload)

inductive CallStartError where
  | collision
  | full

def responseWaiterBytes (waiter : ResponseWaiter) : Nat :=
  sizes.waiterSize + waiter.channelId.utf8ByteSize + waiter.requestId.utf8ByteSize

def callRecordBaseBytes (key : String) (fingerprintBytes : Nat) : Nat :=
  sizes.stringSize + sizes.recordSize + key.utf8ByteSize + fingerprintBytes

def callRecordBytes (key : String) (record : CallRecord) : Nat :=
  callRecordBaseBytes sizes key record.fingerprint.length +
    record.result.elim callLedgerResultReserveBytes (callResultBytes sizes) +
    (record.waiters.map (responseWaiterBytes sizes)).sum

end

namespace CallLedger

def start : CallLedger := ⟨∅,0⟩

section
variable (sizes : LedgerSizes) (rank : String → Nat)

-- The first completed entry in the order in which the hash map is walked; rank is
-- that order.
def evictOneCompleted (excluded : Option String) (ledger : CallLedger) :
    Option CallLedger :=
  (((FiniteMap.entries ledger.entries).filter fun entry => excluded ≠ some entry.1 && entry.2.result.isSome).argmin fun entry => rank entry.1).map
    fun entry => ⟨ledger.entries.erase entry.1,ledger.bytes - callRecordBytes sizes entry.1 entry.2⟩

def makeRoom (excluded : Option String) (full : CallLedger → Bool) (ledger : CallLedger) :
    CallLedger :=
  evictWhile full (evictOneCompleted sizes rank excluded) (size ledger.entries) ledger

section
variable (ledger : CallLedger) (key : String)

def joinCall (record : CallRecord)
    (waiter : ResponseWaiter) : Except CallStartError CallStart × CallLedger :=
  if waiter ∈ record.waiters then (.ok .pending,ledger)
  else
    let waiterBytes := responseWaiterBytes sizes waiter
    let roomy := ledger.makeRoom sizes rank (some key) fun ledger => waiterBytes > sizes.byteLimit - ledger.bytes
    if waiterBytes > sizes.byteLimit - roomy.bytes then (.error .full,roomy)
    else (.ok .pending,⟨roomy.entries.insert key {record with waiters := record.waiters ++ [waiter]},roomy.bytes + waiterBytes⟩)

section
variable (fingerprint : Bytes) (waiter : ResponseWaiter)

def openCall : Except CallStartError CallStart × CallLedger :=
  let record : CallRecord := ⟨fingerprint,none,[waiter]⟩
  let recordBytes := callRecordBytes sizes key record
  let full := fun ledger : CallLedger => size ledger.entries ≥ sizes.recordLimit || recordBytes > sizes.byteLimit - ledger.bytes
  let roomy := ledger.makeRoom sizes rank none full
  if full roomy then (.error .full,roomy)
  else (.ok .execute,⟨roomy.entries.insert key record,roomy.bytes + recordBytes⟩)

def startCall : Except CallStartError CallStart × CallLedger :=
  match ledger.entries.lookup key with
  | some record =>
    if record.fingerprint ≠ fingerprint then (.error .collision,ledger)
    else
      match record.result with
      | some result => (.ok (.cached result),ledger)
      | none => ledger.joinCall sizes rank key record waiter
  | none => ledger.openCall sizes rank key fingerprint waiter

end

def capacityExceeded : ResultPayload :=
  .error none "result_capacity_exceeded" "请求已经执行，但结果无法保留；本 worker 不会自动重试"

-- A result that does not fit is replaced by a small error, and if that does not fit the record
-- goes.
def finishCallInLedger (result : ResultPayload) :
    Option (List ResponseWaiter × ResultPayload) × CallLedger :=
  match ledger.entries.lookup key with
  | none => (none,ledger)
  | some record =>
    let currentBytes := callRecordBytes sizes key record
    let baseBytes := callRecordBaseBytes sizes key record.fingerprint.length
    let completedBytes := baseBytes + callResultBytes sizes result
    let available := fun ledger : CallLedger => sizes.byteLimit - (ledger.bytes - currentBytes)
    let roomy := ledger.makeRoom sizes rank (some key) fun ledger => completedBytes > available ledger
    let cached := if completedBytes ≤ available roomy then result else capacityExceeded
    let replacementBytes := baseBytes + callResultBytes sizes cached
    if replacementBytes > available roomy then
      (some (record.waiters,cached),⟨roomy.entries.erase key,roomy.bytes - currentBytes⟩)
    else
      (some (record.waiters,cached),
        ⟨roomy.entries.insert key ⟨record.fingerprint,some cached,[]⟩,roomy.bytes - currentBytes + replacementBytes⟩)

end

end

end CallLedger

def responseTooLarge : ResultPayload := .error none "response_too_large" "Device response 超过上限"

def boundedResult (sizes : LedgerSizes) (result : ResultPayload) : ResultPayload :=
  if callResultBytes sizes result > maxDeviceFrameBytes then responseTooLarge else result

inductive CallEvent where
  | told (key : String) (waiter : ResponseWaiter)
  | answered (key : String) (waiter : ResponseWaiter) (response : ResultPayload)

-- executing are the tasks that have not called finish_call; it and the log are history.
structure CallState where
  ledger : CallLedger
  executing : List String
  log : List CallEvent

inductive CallAction where
  | start (rank : String → Nat) (key : String) (fingerprint : Bytes) (waiter : ResponseWaiter)
  | finish (rank : String → Nat) (key : String) (result : ResultPayload)

namespace CallState

def start : CallState := ⟨.start,[],[]⟩

section
variable (sizes : LedgerSizes) (s : CallState) (rank : String → Nat)

def startCall (key : String) (fingerprint : Bytes)
    (waiter : ResponseWaiter) : CallState :=
  let (outcome,ledger) := s.ledger.startCall sizes rank key fingerprint waiter
  match outcome with
  | .ok .execute => ⟨ledger,s.executing ++ [key],s.log ++ [.told key waiter]⟩
  | .ok .pending => ⟨ledger,s.executing,s.log ++ [.told key waiter]⟩
  | _ => {s with ledger := ledger}

def answers (key : String) (waiters : List ResponseWaiter) (cached : ResultPayload) : List CallEvent :=
  waiters.map fun waiter => .answered key waiter (setResponseRequestId cached waiter.requestId)

def finishCall (key : String) (result : ResultPayload) : CallState :=
  match s.ledger.finishCallInLedger sizes rank key (boundedResult sizes result) with
  | (some (waiters,cached),ledger) => ⟨ledger,s.executing.erase key,s.log ++ answers key waiters cached⟩
  | (none,ledger) => ⟨ledger,s.executing.erase key,s.log⟩

end

end CallState

open CallState (answers finishCall)

def callStep (sizes : LedgerSizes) (s : CallState) : CallAction → Option CallState
  | .start rank key fingerprint waiter => some (s.startCall sizes rank key fingerprint waiter)
  | .finish rank key result => some (s.finishCall sizes rank key result)

def callMachine (sizes : LedgerSizes) : Machine CallState CallAction := ⟨callStep sizes⟩

def owed (key : String) (waiter : ResponseWaiter) (log : List CallEvent) : Bool :=
  log.foldl (fun before event =>
    match event with
    | .told k w => before || (k = key && w = waiter)
    | .answered k w _ => before && !(k = key && w = waiter)) false

-- Every answer goes to a caller to whom one is owed and carries the caller's own id.
inductive AnsweredOnce : List CallEvent → Prop where
  | nil : AnsweredOnce []
  | told (before : AnsweredOnce log) : AnsweredOnce (log ++ [.told key waiter])
  | answered (before : AnsweredOnce log) (due : owed key waiter log = true)
      (own : responseRequestId response = waiter.requestId) : AnsweredOnce (log ++ [.answered key waiter response])

structure Balanced (sizes : LedgerSizes) (ledger : CallLedger) : Prop where
  bytes : ledger.bytes = weigh (callRecordBytes sizes) ledger.entries
  byteBound : ledger.bytes ≤ sizes.byteLimit
  recordBound : size ledger.entries ≤ sizes.recordLimit

structure Evicted (sizes : LedgerSizes) (excluded : Option String) (before after : CallLedger) : Prop where
  balanced : Balanced sizes after
  left : ∀ key record, after.entries.lookup key = some record → before.entries.lookup key = some record
  kept : ∀ key record, before.entries.lookup key = some record → record.result = none ∨ excluded = some key →
    after.entries.lookup key = some record

inductive Started (sizes : LedgerSizes) (ledger : CallLedger) (key : String) (fingerprint : Bytes) (waiter : ResponseWaiter) :
    Except CallStartError CallStart → CallLedger → Prop where
  | collision (found : ledger.entries.lookup key = some record) (differs : record.fingerprint ≠ fingerprint) :
      Started sizes ledger key fingerprint waiter (.error .collision) ledger
  | cached (found : ledger.entries.lookup key = some record) (same : record.fingerprint = fingerprint)
      (done : record.result = some result) : Started sizes ledger key fingerprint waiter (.ok (.cached result)) ledger
  | again (found : ledger.entries.lookup key = some record) (same : record.fingerprint = fingerprint)
      (running : record.result = none) (waits : waiter ∈ record.waiters) :
      Started sizes ledger key fingerprint waiter (.ok .pending) ledger
  | joined (found : ledger.entries.lookup key = some record) (same : record.fingerprint = fingerprint)
      (running : record.result = none) (fresh : waiter ∉ record.waiters) (evicted : Evicted sizes (some key) ledger roomy)
      (fits : responseWaiterBytes sizes waiter ≤ sizes.byteLimit - roomy.bytes) :
      Started sizes ledger key fingerprint waiter (.ok .pending)
        ⟨roomy.entries.insert key {record with waiters := record.waiters ++ [waiter]},
          roomy.bytes + responseWaiterBytes sizes waiter⟩
  | full (evicted : Evicted sizes excluded ledger roomy) : Started sizes ledger key fingerprint waiter (.error .full) roomy
  | opened (absent : ledger.entries.lookup key = none) (evicted : Evicted sizes none ledger roomy)
      (slot : size roomy.entries < sizes.recordLimit)
      (fits : callRecordBytes sizes key ⟨fingerprint,none,[waiter]⟩ ≤ sizes.byteLimit - roomy.bytes) :
      Started sizes ledger key fingerprint waiter (.ok .execute) ⟨roomy.entries.insert key ⟨fingerprint,none,[waiter]⟩,
          roomy.bytes + callRecordBytes sizes key ⟨fingerprint,none,[waiter]⟩⟩

-- What a finish can do. Only a call that was finished before can lose its record.
inductive Finished (sizes : LedgerSizes) (ledger : CallLedger) (key : String) :
    Option (List ResponseWaiter × ResultPayload) → CallLedger → Prop where
  | unknown (absent : ledger.entries.lookup key = none) : Finished sizes ledger key none ledger
  | kept (found : ledger.entries.lookup key = some record) (evicted : Evicted sizes (some key) ledger roomy)
      (fits : callRecordBaseBytes sizes key record.fingerprint.length + callResultBytes sizes cached ≤
        sizes.byteLimit - (roomy.bytes - callRecordBytes sizes key record)) :
      Finished sizes ledger key (some (record.waiters,cached)) ⟨roomy.entries.insert key ⟨record.fingerprint,some cached,[]⟩,
          roomy.bytes - callRecordBytes sizes key record +
            (callRecordBaseBytes sizes key record.fingerprint.length + callResultBytes sizes cached)⟩
  | dropped (found : ledger.entries.lookup key = some record) (finished : record.result ≠ none)
      (evicted : Evicted sizes (some key) ledger roomy) :
      Finished sizes ledger key (some (record.waiters,cached))
        ⟨roomy.entries.erase key,roomy.bytes - callRecordBytes sizes key record⟩

section Ledger
variable {ledger : CallLedger}

theorem evictOneCompleted_parts (evicted : ledger.evictOneCompleted sizes rank excluded = some next) :
    ∃ key record,ledger.entries.lookup key = some record ∧ record.result ≠ none ∧ excluded ≠ some key ∧
      next = ⟨ledger.entries.erase key,ledger.bytes - callRecordBytes sizes key record⟩ := by
  obtain ⟨⟨key,record⟩,first,rfl⟩ := Option.map_eq_some_iff.mp evicted
  obtain ⟨mem,test⟩ := List.mem_filter.mp (List.argmin_mem first)
  simp only [Bool.and_eq_true,decide_eq_true_eq,Option.isSome_iff_ne_none] at test
  exact ⟨key,record,entries_lookup mem,test.2,test.1,rfl⟩

section
variable (balanced : Balanced sizes ledger) (found : ledger.entries.lookup key = some record)
include balanced found

theorem erase_balanced :
    Balanced sizes ⟨ledger.entries.erase key,ledger.bytes - callRecordBytes sizes key record⟩ := by
  have erased : weigh (callRecordBytes sizes) (ledger.entries.erase key) + callRecordBytes sizes key record =
      weigh (callRecordBytes sizes) ledger.entries := weigh_erase found
  have counted := balanced.bytes
  refine ⟨?_,Nat.le_trans (Nat.sub_le _ _) balanced.byteBound,Nat.le_trans size_erase_le balanced.recordBound⟩
  change ledger.bytes - callRecordBytes sizes key record = weigh (callRecordBytes sizes) (ledger.entries.erase key)
  omega

theorem record_le : callRecordBytes sizes key record ≤ ledger.bytes := by
  have erased : weigh (callRecordBytes sizes) (ledger.entries.erase key) + callRecordBytes sizes key record =
      weigh (callRecordBytes sizes) ledger.entries := weigh_erase found
  have counted := balanced.bytes
  omega

end

theorem makeRoom_evicted (balanced : Balanced sizes ledger) :
    Evicted sizes excluded ledger (ledger.makeRoom sizes rank excluded full) := by
  have start : Evicted sizes excluded ledger ledger := ⟨balanced,fun _ _ found => found,fun _ _ found _ => found⟩
  refine evictWhile_keeps ?_ start
  intro store smaller so_far _ gone
  obtain ⟨key,_,found,completed,spared,rfl⟩ := evictOneCompleted_parts gone
  refine ⟨erase_balanced so_far.balanced found,Each.erase so_far.left,?_⟩
  intro other value before reason
  have present := so_far.kept other _ before reason
  have different : other ≠ key := by
    intro same
    subst same
    rw [found] at present
    cases present
    rcases reason with running | excludes
    · exact completed running
    · exact spared excludes
  rw [← present]
  exact lookup_erase_ne different

theorem startCall_started (rank : String → Nat) (balanced : Balanced sizes ledger) :
    Started sizes ledger key fingerprint waiter (ledger.startCall sizes rank key fingerprint waiter).1
      (ledger.startCall sizes rank key fingerprint waiter).2 := by
  unfold CallLedger.startCall
  split
  · rename_i found
    split
    · rename_i differs
      exact .collision found differs
    · rename_i same
      rw [ne_eq,not_not] at same
      split
      · rename_i done
        exact .cached found same done
      · rename_i running
        unfold CallLedger.joinCall
        split
        · rename_i waits
          exact .again found same running waits
        · rename_i fresh
          dsimp only
          split
          · exact .full (makeRoom_evicted balanced)
          · rename_i fits
            exact .joined found same running fresh (makeRoom_evicted balanced) (Nat.not_lt.mp fits)
  · rename_i absent
    unfold CallLedger.openCall
    dsimp only
    split
    · exact .full (makeRoom_evicted balanced)
    · rename_i room
      simp only [Bool.or_eq_true,decide_eq_true_eq,not_or,Nat.not_le,Nat.not_lt] at room
      exact .opened absent (makeRoom_evicted balanced) room.1 room.2

theorem startCall_absent (executes : (ledger.startCall sizes rank key fingerprint waiter).1 = .ok .execute) :
    ledger.entries.lookup key = none := by
  unfold CallLedger.startCall at executes
  split at executes
  · split at executes
    · cases executes
    · split at executes
      · cases executes
      · unfold CallLedger.joinCall at executes
        split at executes
        · cases executes
        · dsimp only at executes
          split at executes <;> cases executes
  · assumption

theorem capacityExceeded_small : callResultBytes sizes CallLedger.capacityExceeded ≤ callLedgerResultReserveBytes := by
  change 2 + (2 + varintLength (errorLength _ _ _) + errorLength _ _ _) ≤ callLedgerResultReserveBytes
  decide

-- The reserve of a pending record has room for the small error whatever else there is.
theorem finishCallInLedger_finished (rank : String → Nat) (result : ResultPayload) (balanced : Balanced sizes ledger) :
    Finished sizes ledger key (ledger.finishCallInLedger sizes rank key result).1
      (ledger.finishCallInLedger sizes rank key result).2 := by
  unfold CallLedger.finishCallInLedger
  split
  · rename_i absent
    exact .unknown absent
  · rename_i record found
    dsimp only
    generalize roomed : ledger.makeRoom sizes rank (some key) _ = roomy
    have evicted : Evicted sizes (some key) ledger roomy := roomed ▸ makeRoom_evicted balanced
    have present := evicted.kept key record found (.inr rfl)
    have within := record_le evicted.balanced present
    have bound := evicted.balanced.byteBound
    generalize chosen : ite ((_ : Nat) ≤ _) result CallLedger.capacityExceeded = cached
    split
    · refine .dropped found ?_ evicted
      intro running
      have weight : callRecordBytes sizes key record = callRecordBaseBytes sizes key record.fingerprint.length +
          callLedgerResultReserveBytes + (record.waiters.map (responseWaiterBytes sizes)).sum := by
        rw [callRecordBytes,running]
        rfl
      have small : callResultBytes sizes CallLedger.capacityExceeded ≤ callLedgerResultReserveBytes := capacityExceeded_small
      split at chosen <;> subst chosen <;> omega
    · rename_i fits
      exact .kept found evicted (Nat.not_lt.mp fits)

theorem evicted_absent (evicted : Evicted sizes excluded ledger roomy) (absent : ledger.entries.lookup key = none) :
    roomy.entries.lookup key = none := by
  cases found : roomy.entries.lookup key with
  | none => rfl
  | some record =>
    have before := evicted.left key record found
    rw [absent] at before
    cases before

theorem started_balanced (balanced : Balanced sizes ledger)
    (started : Started sizes ledger key fingerprint waiter outcome next) : Balanced sizes next := by
  cases started with
  | collision | cached | again => exact balanced
  | full evicted => exact evicted.balanced
  | @joined record roomy found same running fresh evicted fits =>
    have present := evicted.kept key record found (.inl running)
    have bound := evicted.balanced.byteBound
    have counted := evicted.balanced.bytes
    have heavier : callRecordBytes sizes key {record with waiters := record.waiters ++ [waiter]} =
        callRecordBytes sizes key record + responseWaiterBytes sizes waiter := by
      simp only [callRecordBytes,List.map_append,List.map_cons,List.map_nil,List.sum_append,List.sum_cons,List.sum_nil]
      omega
    have weighed : weigh (callRecordBytes sizes) (roomy.entries.insert key {record with waiters := record.waiters ++ [waiter]}) +
        callRecordBytes sizes key record = weigh (callRecordBytes _) roomy.entries +
          callRecordBytes sizes key {record with waiters := record.waiters ++ [waiter]} := weigh_insert_present present
    refine ⟨?_,?_,?_⟩
    · change roomy.bytes + responseWaiterBytes sizes waiter = weigh (callRecordBytes sizes) (roomy.entries.insert key _)
      omega
    · change roomy.bytes + responseWaiterBytes sizes waiter ≤ sizes.byteLimit
      omega
    · change size (roomy.entries.insert key _) ≤ sizes.recordLimit
      rw [size_insert_present present]
      exact evicted.balanced.recordBound
  | @opened roomy absent evicted slot fits =>
    have gone : roomy.entries.lookup key = none := evicted_absent evicted absent
    have bound := evicted.balanced.byteBound
    refine ⟨?_,?_,?_⟩
    · rw [weigh_insert_absent gone,← evicted.balanced.bytes]
      exact Nat.add_comm _ _
    · change roomy.bytes + callRecordBytes sizes key ⟨fingerprint,none,[waiter]⟩ ≤ sizes.byteLimit
      omega
    · rw [size_insert_absent gone]
      exact slot

theorem finished_balanced (balanced : Balanced sizes ledger) (finished : Finished sizes ledger key answer next) :
    Balanced sizes next := by
  cases finished with
  | unknown => exact balanced
  | @kept record roomy cached found evicted fits =>
    have present := evicted.kept key record found (.inr rfl)
    have within := record_le evicted.balanced present
    have counted := evicted.balanced.bytes
    have bound := evicted.balanced.byteBound
    have weight : callRecordBytes sizes key ⟨record.fingerprint,some cached,[]⟩ =
        callRecordBaseBytes sizes key record.fingerprint.length + callResultBytes sizes cached := rfl
    have weighed : weigh (callRecordBytes sizes) (roomy.entries.insert key ⟨record.fingerprint,some cached,[]⟩) +
        callRecordBytes sizes key record = weigh (callRecordBytes sizes) roomy.entries +
          callRecordBytes sizes key ⟨record.fingerprint,some cached,[]⟩ := weigh_insert_present present
    refine ⟨?_,?_,?_⟩
    · change roomy.bytes - callRecordBytes sizes key record +
        (callRecordBaseBytes sizes key record.fingerprint.length + callResultBytes sizes cached) =
          weigh (callRecordBytes sizes) (roomy.entries.insert key _)
      omega
    · change roomy.bytes - callRecordBytes sizes key record +
        (callRecordBaseBytes sizes key record.fingerprint.length + callResultBytes sizes cached) ≤ sizes.byteLimit
      omega
    · change size (roomy.entries.insert key _) ≤ sizes.recordLimit
      rw [size_insert_present present]
      exact evicted.balanced.recordBound
  | dropped found _ evicted => exact erase_balanced evicted.balanced (evicted.kept key _ found (.inr rfl))

end Ledger

theorem owed_told : owed key waiter (log ++ [.told k w]) = (owed key waiter log || (k = key && w = waiter)) := by
  simp [owed]

theorem owed_answered : owed key waiter (log ++ [.answered k w response]) = (owed key waiter log && !(k = key && w = waiter)) := by
  simp [owed]

theorem owed_answers : owed key waiter (log ++ answers k waiters cached) =
    (owed key waiter log && !(k = key && decide (waiter ∈ waiters))) := by
  induction waiters generalizing log with
  | nil => simp [answers]
  | cons first rest ih =>
    have split : log ++ answers k (first :: rest) cached =
        (log ++ [.answered k first (setResponseRequestId cached first.requestId)]) ++ answers k rest cached := by
      rw [List.append_assoc]
      rfl
    rw [split,ih,owed_answered]
    by_cases same : k = key
    · by_cases this : first = waiter
      · simp [same,this]
      · have other : waiter ≠ first := Ne.symm this
        simp [same,this,other]
    · simp [same]

theorem answeredOnce_answers (before : AnsweredOnce log) (distinct : waiters.Nodup)
    (due : ∀ waiter ∈ waiters, owed key waiter log = true) : AnsweredOnce (log ++ answers key waiters cached) := by
  induction waiters generalizing log with
  | nil =>
    rw [answers,List.map_nil,List.append_nil]
    exact before
  | cons first rest ih =>
    obtain ⟨fresh,distinct⟩ := List.nodup_cons.mp distinct
    have one : AnsweredOnce (log ++ [.answered key first (setResponseRequestId cached first.requestId)]) :=
      .answered before (due first List.mem_cons_self) setResponseRequestId_carries
    have later : ∀ waiter ∈ rest,
        owed key waiter (log ++ [.answered key first (setResponseRequestId cached first.requestId)]) = true := by
      intro waiter mem
      have different : first ≠ waiter := fun same => fresh (same ▸ mem)
      rw [owed_answered,due waiter (List.mem_cons_of_mem _ mem)]
      simp [different]
    have all := ih one distinct later
    rw [List.append_assoc] at all
    exact all

-- Who waits for an answer is who is owed one, and each pending call has its task.
structure CallsSound (sizes : LedgerSizes) (s : CallState) : Prop where
  balanced : Balanced sizes s.ledger
  distinct : ∀ key record, s.ledger.entries.lookup key = some record → record.waiters.Nodup
  settled : ∀ key record, s.ledger.entries.lookup key = some record → record.result ≠ none → record.waiters = []
  waiting : ∀ key waiter, owed key waiter s.log = true ↔
    ∃ record, s.ledger.entries.lookup key = some record ∧ waiter ∈ record.waiters
  answered : AnsweredOnce s.log
  single : s.executing.Nodup
  executing : ∀ key, key ∈ s.executing ↔ ∃ record, s.ledger.entries.lookup key = some record ∧ record.result = none

section Sound
section
variable (sound : CallsSound sizes s)
include sound

theorem evicted_sound (evicted : Evicted sizes excluded s.ledger roomy) :
    CallsSound sizes {s with ledger := roomy} where
  balanced := evicted.balanced
  distinct := fun key record found => sound.distinct key record (evicted.left key record found)
  settled := fun key record found => sound.settled key record (evicted.left key record found)
  waiting := by
    intro key waiter
    rw [sound.waiting]
    constructor
    · rintro ⟨record,found,waits⟩
      have running : record.result = none := by
        by_contra done
        rw [sound.settled key record found done] at waits
        cases waits
      exact ⟨record,evicted.kept key record found (.inl running),waits⟩
    · rintro ⟨record,found,waits⟩
      exact ⟨record,evicted.left key record found,waits⟩
  answered := sound.answered
  single := sound.single
  executing := by
    intro key
    rw [sound.executing]
    constructor
    · rintro ⟨record,found,running⟩
      exact ⟨record,evicted.kept key record found (.inl running),running⟩
    · rintro ⟨record,found,running⟩
      exact ⟨record,evicted.left key record found,running⟩

theorem again_sound (found : s.ledger.entries.lookup key = some record)
    (waits : waiter ∈ record.waiters) : CallsSound sizes {s with log := s.log ++ [.told key waiter]} where
  balanced := sound.balanced
  distinct := sound.distinct
  settled := sound.settled
  waiting := by
    intro other caller
    rw [owed_told,Bool.or_eq_true,sound.waiting]
    constructor
    · rintro (before | this)
      · exact before
      · simp only [Bool.and_eq_true,decide_eq_true_eq] at this
        exact this.1 ▸ this.2 ▸ ⟨record,found,waits⟩
    · exact .inl
  answered := .told sound.answered
  single := sound.single
  executing := sound.executing

theorem told_sound (running : new.result = none) (distinct : new.waiters.Nodup)
    (balanced : Balanced sizes ⟨s.ledger.entries.insert key new,bytes⟩)
    (waits : ∀ caller, (∃ record, s.ledger.entries.lookup key = some record ∧ caller ∈ record.waiters) ∨ waiter = caller ↔
      caller ∈ new.waiters)
    (single : executing.Nodup)
    (executes : ∀ other, other ∈ executing ↔ other = key ∨ other ∈ s.executing) :
    CallsSound sizes ⟨⟨s.ledger.entries.insert key new,bytes⟩,executing,s.log ++ [.told key waiter]⟩ where
  balanced := balanced
  distinct := Each.insert sound.distinct distinct
  settled := by
    intro other stored present done
    rcases insert_lookup present with ⟨_,rfl⟩ | ⟨_,before⟩
    · exact absurd running done
    · exact sound.settled other stored before done
  waiting := by
    intro other caller
    rw [owed_told,Bool.or_eq_true,sound.waiting]
    simp only [Bool.and_eq_true,decide_eq_true_eq]
    by_cases same : other = key
    · subst same
      simpa only [lookup_insert,Option.some.injEq,exists_eq_left',true_and] using waits caller
    · rw [lookup_insert_ne same]
      exact ⟨fun either => either.resolve_right fun both => same both.1.symm,.inl⟩
  answered := .told sound.answered
  single := single
  executing := by
    intro other
    rw [executes]
    by_cases same : other = key
    · subst same
      simp [running]
    · rw [lookup_insert_ne same,sound.executing]
      exact or_iff_right same

theorem join_sound (found : s.ledger.entries.lookup key = some record)
    (running : record.result = none) (fresh : waiter ∉ record.waiters)
    (balanced : Balanced sizes ⟨s.ledger.entries.insert key {record with waiters := record.waiters ++ [waiter]},bytes⟩) :
    CallsSound sizes ⟨⟨s.ledger.entries.insert key {record with waiters := record.waiters ++ [waiter]},bytes⟩,
      s.executing,s.log ++ [.told key waiter]⟩ := by
  refine told_sound sound running ?_ balanced ?_ sound.single ?_
  · exact (sound.distinct key record found).append (List.nodup_singleton _) (by simpa using fresh)
  · simp [found,eq_comm]
  · intro other
    refine ⟨.inr,fun either => either.elim ?_ id⟩
    rintro rfl
    exact (sound.executing other).mpr ⟨record,found,running⟩

theorem open_sound (absent : s.ledger.entries.lookup key = none)
    (balanced : Balanced sizes ⟨s.ledger.entries.insert key ⟨fingerprint,none,[waiter]⟩,bytes⟩) :
    CallsSound sizes ⟨⟨s.ledger.entries.insert key ⟨fingerprint,none,[waiter]⟩,bytes⟩,
      s.executing ++ [key],s.log ++ [.told key waiter]⟩ := by
  refine told_sound sound rfl (List.nodup_singleton _) balanced ?_ ?_ ?_
  · simp [absent,eq_comm]
  · apply List.Nodup.append sound.single (List.nodup_singleton _)
    intro other earlier this
    rw [List.mem_singleton] at this
    subst this
    obtain ⟨_,found,_⟩ := (sound.executing other).mp earlier
    rw [absent] at found
    cases found
  · simp [or_comm]

end

theorem finish_sound (cached : ResultPayload) (sound : CallsSound sizes s) (found : s.ledger.entries.lookup key = some record)
    (balanced : Balanced sizes ledger)
    (others : ∀ other, other ≠ key → ledger.entries.lookup other = s.ledger.entries.lookup other)
    (ended : ∀ stored, ledger.entries.lookup key = some stored → stored.result ≠ none ∧ stored.waiters = []) :
    CallsSound sizes ⟨ledger,s.executing.erase key,s.log ++ answers key record.waiters cached⟩ where
  balanced := balanced
  distinct := by
    intro other stored present
    by_cases same : other = key
    · subst same
      rw [(ended stored present).2]
      exact List.nodup_nil
    · exact sound.distinct other stored (others other same ▸ present)
  settled := by
    intro other stored present done
    by_cases same : other = key
    · subst same
      exact (ended stored present).2
    · exact sound.settled other stored (others other same ▸ present) done
  waiting := by
    intro other caller
    rw [owed_answers,Bool.and_eq_true,sound.waiting]
    by_cases same : other = key
    · subst same
      constructor
      · rintro ⟨⟨before,present,waits⟩,unanswered⟩
        rw [found] at present
        cases present
        simp [waits] at unanswered
      · rintro ⟨stored,present,waits⟩
        rw [(ended stored present).2] at waits
        cases waits
    · rw [others other same]
      have different : key ≠ other := Ne.symm same
      simp [different]
  answered := by
    apply answeredOnce_answers sound.answered (sound.distinct key record found)
    intro waiter waits
    exact (sound.waiting key waiter).mpr ⟨record,found,waits⟩
  single := sound.single.erase key
  executing := by
    intro other
    rw [sound.single.mem_erase_iff,sound.executing]
    by_cases same : other = key
    · subst same
      constructor
      · exact fun both => absurd rfl both.1
      · rintro ⟨stored,present,running⟩
        exact absurd running (ended stored present).1
    · rw [others other same]
      exact and_iff_right same

theorem startCall_sound (sound : CallsSound sizes s) : CallsSound sizes (s.startCall sizes rank key fingerprint waiter) := by
  have started : Started sizes s.ledger key fingerprint waiter _ _ := startCall_started rank sound.balanced
  have balanced := started_balanced sound.balanced started
  unfold CallState.startCall
  generalize s.ledger.startCall sizes rank key fingerprint waiter = result at started balanced ⊢
  obtain ⟨_,_⟩ := result
  dsimp only at started balanced ⊢
  cases started with
  | collision | cached => exact sound
  | again found _ _ waits => exact again_sound sound found waits
  | full evicted => exact evicted_sound sound evicted
  | joined found _ running fresh evicted _ =>
    exact join_sound (evicted_sound sound evicted) (evicted.kept key _ found (.inl running)) running fresh balanced
  | @opened roomy absent evicted _ _ =>
    have gone : roomy.entries.lookup key = none := evicted_absent evicted absent
    exact open_sound (evicted_sound sound evicted) gone balanced

theorem finishCall_sound (sound : CallsSound sizes s) : CallsSound sizes (s.finishCall sizes rank key result) := by
  have finished : Finished sizes s.ledger key _ _ := finishCallInLedger_finished rank (boundedResult sizes result) sound.balanced
  have balanced := finished_balanced sound.balanced finished
  unfold finishCall
  generalize s.ledger.finishCallInLedger sizes rank key (boundedResult sizes result) = outcome at finished balanced ⊢
  obtain ⟨_,_⟩ := outcome
  dsimp only at finished balanced ⊢
  cases finished with
  | unknown absent =>
    have idle : key ∉ s.executing := by
      intro running
      obtain ⟨record,found,_⟩ := (sound.executing key).mp running
      rw [absent] at found
      cases found
    rw [List.erase_of_not_mem idle]
    exact sound
  | @kept record roomy cached found evicted fits =>
    have ended : ∀ stored, (roomy.entries.insert key ⟨record.fingerprint,some cached,[]⟩).lookup key = some stored →
        stored.result ≠ none ∧ stored.waiters = [] := by
      intro stored present
      rw [lookup_insert] at present
      cases present
      exact ⟨by simp,rfl⟩
    have done := finish_sound cached (evicted_sound sound evicted) (evicted.kept key record found (.inr rfl)) balanced
      (fun other different => lookup_insert_ne different) ended
    exact done
  | @dropped record roomy cached found _ evicted =>
    have ended : ∀ stored, (roomy.entries.erase key).lookup key = some stored → stored.result ≠ none ∧ stored.waiters = [] := by
      intro stored present
      rw [AList.lookup_erase] at present
      cases present
    have done := finish_sound cached (evicted_sound sound evicted) (evicted.kept key record found (.inr rfl)) balanced
      (fun _ different => lookup_erase_ne different) ended
    exact done

theorem callStep_sound (sound : CallsSound sizes s) (step : callStep sizes s action = some next) : CallsSound sizes next := by
  cases action with
  | start rank key fingerprint waiter =>
    cases step
    exact startCall_sound sound
  | finish rank key result =>
    cases step
    exact finishCall_sound sound

def Running (key : String) (fingerprint : Bytes) (waiters : List ResponseWaiter) (s : CallState) : Prop :=
  ∃ more, s.ledger.entries.lookup key = some ⟨fingerprint,none,waiters ++ more⟩

theorem callStep_running (sound : CallsSound sizes s) (running : Running key fingerprint waiters s)
    (step : callStep sizes s action = some next) :
    Running key fingerprint waiters next ∨ ∃ rank result, action = .finish rank key result := by
  obtain ⟨more,found⟩ := running
  have kept : ∀ {excluded roomy},Evicted sizes excluded s.ledger roomy →
      roomy.entries.lookup key = some ⟨fingerprint,none,waiters ++ more⟩ :=
    fun evicted => evicted.kept key _ found (.inl rfl)
  cases action with
  | start rank other content waiter =>
    cases step
    refine .inl ?_
    have started : Started sizes s.ledger other content waiter _ _ := startCall_started rank sound.balanced
    have same : (s.startCall sizes rank other content waiter).ledger =
        (s.ledger.startCall sizes rank other content waiter).2 := by
      unfold CallState.startCall
      generalize s.ledger.startCall sizes rank other content waiter = result
      obtain ⟨outcome,ledger⟩ := result
      dsimp only
      split <;> rfl
    rw [Running,same]
    generalize s.ledger.startCall sizes rank other content waiter = result at started
    obtain ⟨outcome,ledger⟩ := result
    dsimp only at started ⊢
    cases started with
    | collision | cached | again => exact ⟨more,found⟩
    | full evicted => exact ⟨more,kept evicted⟩
    | @joined record roomy present _ _ _ evicted _ =>
      by_cases equal : key = other
      · subst equal
        rw [found] at present
        cases present
        refine ⟨more ++ [waiter],?_⟩
        rw [lookup_insert,List.append_assoc]
      · exact ⟨more,by rw [lookup_insert_ne equal]; exact kept evicted⟩
    | opened absent evicted _ _ =>
      have different : key ≠ other := by
        intro equal
        subst equal
        rw [found] at absent
        cases absent
      exact ⟨more,by rw [lookup_insert_ne different]; exact kept evicted⟩
  | finish rank other result =>
    by_cases equal : key = other
    · exact .inr ⟨rank,result,by rw [equal]⟩
    · cases step
      refine .inl ?_
      have finished : Finished sizes s.ledger other _ _ :=
        finishCallInLedger_finished rank (boundedResult sizes result) sound.balanced
      have same : (s.finishCall sizes rank other result).ledger =
          (s.ledger.finishCallInLedger sizes rank other (boundedResult sizes result)).2 := by
        unfold finishCall
        split <;> simp_all
      rw [Running,same]
      generalize s.ledger.finishCallInLedger sizes rank other (boundedResult sizes result) = outcome at finished
      obtain ⟨_,_⟩ := outcome
      dsimp only at finished ⊢
      cases finished with
      | unknown => exact ⟨more,found⟩
      | kept _ evicted _ => exact ⟨more,by rw [lookup_insert_ne equal]; exact kept evicted⟩
      | dropped _ _ evicted => exact ⟨more,by rw [lookup_erase_ne equal]; exact kept evicted⟩

end Sound

-- What is promised of a state of the ledger and its callers.
structure CallsAnswered (sizes : LedgerSizes) (s : CallState) : Prop where
  accounted : s.ledger.bytes = weigh (callRecordBytes sizes) s.ledger.entries ∧ s.ledger.bytes ≤ sizes.byteLimit ∧
    size s.ledger.entries ≤ sizes.recordLimit
  -- Execute is said only of a key that is not retained, and then the key is.
  once : ∀ rank key fingerprint waiter, (s.ledger.startCall sizes rank key fingerprint waiter).1 = .ok .execute →
    s.ledger.entries.lookup key = none ∧
    (s.ledger.startCall sizes rank key fingerprint waiter).2.entries.lookup key = some ⟨fingerprint,none,[waiter]⟩
  collides : ∀ rank key record fingerprint waiter, s.ledger.entries.lookup key = some record → record.fingerprint ≠ fingerprint →
    s.ledger.startCall sizes rank key fingerprint waiter = (.error .collision,s.ledger)
  -- Who has been told and not been answered is who a pending call will answer.
  waiting : ∀ key waiter, owed key waiter s.log = true ↔
    ∃ record, s.ledger.entries.lookup key = some record ∧ record.result = none ∧ waiter ∈ record.waiters
  answered : AnsweredOnce s.log
  executing : ∀ key, key ∈ s.executing ↔ ∃ record, s.ledger.entries.lookup key = some record ∧ record.result = none
  stays : ∀ key fingerprint waiters later last, Running key fingerprint waiters s → (callMachine sizes).run s later = some last →
    Running key fingerprint waiters last ∨
      ∃ before rank result after mid, later = before ++ .finish rank key result :: after ∧
        (callMachine sizes).run s before = some mid ∧ Running key fingerprint waiters mid
  -- The finish of a call under execution fits: its record is kept, with a result.
  fits : ∀ key ∈ s.executing, ∀ rank result, ∃ record cached,
    s.ledger.entries.lookup key = some record ∧
    (s.ledger.finishCallInLedger sizes rank key result).1 = some (record.waiters,cached) ∧
    (s.ledger.finishCallInLedger sizes rank key result).2.entries.lookup key = some ⟨record.fingerprint,some cached,[]⟩ ∧
    (s.ledger.finishCallInLedger sizes rank key result).2.bytes ≤ sizes.byteLimit

theorem sound_answered (sound : CallsSound sizes s) : CallsAnswered sizes s where
  accounted := ⟨sound.balanced.bytes,sound.balanced.byteBound,sound.balanced.recordBound⟩
  once := by
    intro rank key fingerprint waiter executes
    have started : Started sizes s.ledger key fingerprint waiter _ _ := startCall_started rank sound.balanced
    rw [executes] at started
    generalize (s.ledger.startCall sizes rank key fingerprint waiter).2 = ledger at started
    cases started with
    | opened absent => exact ⟨absent,lookup_insert _⟩
  collides := by
    intro rank key record fingerprint waiter found differs
    simp only [CallLedger.startCall,found]
    exact if_pos differs
  waiting := by
    intro key waiter
    rw [sound.waiting]
    constructor
    · rintro ⟨record,found,waits⟩
      refine ⟨record,found,?_,waits⟩
      by_contra done
      rw [sound.settled key record found done] at waits
      cases waits
    · rintro ⟨record,found,_,waits⟩
      exact ⟨record,found,waits⟩
  answered := sound.answered
  executing := sound.executing
  stays := by
    intro key fingerprint waiters later last running ran
    rcases holds_until (fun _ _ _ => callStep_sound) (fun _ _ _ => callStep_running) sound running ran with
      held | ⟨before,action,after,mid,split,led,held,rank,result,rfl⟩
    · exact .inl held
    · exact .inr ⟨before,rank,result,after,mid,split,led,held⟩
  fits := by
    intro key runs rank result
    obtain ⟨record,found,running⟩ := (sound.executing key).mp runs
    have finished : Finished sizes s.ledger key _ _ := finishCallInLedger_finished rank result sound.balanced
    have bound := (finished_balanced sound.balanced finished).byteBound
    generalize s.ledger.finishCallInLedger sizes rank key result = outcome at finished bound ⊢
    obtain ⟨_,_⟩ := outcome
    dsimp only at finished bound ⊢
    cases finished with
    | unknown absent =>
      rw [found] at absent
      cases absent
    | @kept stored roomy cached present evicted _ =>
      rw [found] at present
      cases present
      exact ⟨record,cached,found,rfl,lookup_insert _,bound⟩
    | dropped present done =>
      rw [found] at present
      cases present
      exact absurd running done

theorem calls_execute_once (sizes : LedgerSizes) (actions : List CallAction) :
    (callMachine sizes).Throughout (CallsAnswered sizes) .start actions := by
  have start : CallsSound sizes .start := by
    refine ⟨⟨rfl,Nat.zero_le _,Nat.zero_le _⟩,nofun,nofun,?_,.nil,List.nodup_nil,?_⟩
    · intro key waiter
      exact ⟨nofun,nofun⟩
    · intro key
      exact ⟨nofun,nofun⟩
  exact throughout_of_preserved (fun _ => sound_answered) (fun _ _ _ => callStep_sound) start

end Coflux.Device
