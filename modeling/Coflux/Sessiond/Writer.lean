import Coflux.Ptyd.Session
import Coflux.Sessiond.Input

namespace Coflux.Sessiond
open Text FiniteMap StepMachine
open Function (update update_self)

def ptyInputQueueRecords : Nat := 256
def ptyInputQueueBytes : Nat := 1024 * 1024

structure QueuedInput where
  clientInstanceId : String
  inputSeq : Nat
  data : Bytes

-- A reply is sessiond's own answer to a terminal query; it has no reservation.
inductive QueuedWrite where
  | client (input : QueuedInput)
  | reply (data : Bytes)

def QueuedWrite.len : QueuedWrite → Nat
  | .client input => input.data.length
  | .reply data => data.length

inductive InputQueueError where
  | full
  | disconnected

inductive PtydError where
  | io (error : String)
  | remote (code message : String)
  | protocol (message : String)
  | unsupported (op : String)

def PtydError.text : PtydError → String
  | .io error => s!"ptyd 连接错误：{error}"
  | .remote code message => s!"ptyd 拒绝（{code}）：{message}"
  | .protocol message => s!"ptyd 协议错误：{message}"
  | .unsupported op => s!"运行中的 ptyd 不提供 {op}"

-- The errno is kept where the error of the source carries one.
structure PtyWriteFailure where
  written : Nat
  errno : Option Int
  error : String
  rejected : Option String

def rejectionCodes : List String := ["input_seq_gap","input_seq_collision","logical_client_limit"]

-- How the sink reads an answer of ptyd. A duplicate counts as written.
def sinkWrite : Except PtydError Nat → Except PtyWriteFailure Unit
  | .ok _ => .ok ()
  | .error (.remote code message) =>
    if code = "pty_closed" then .error ⟨0,some Ptyd.eio,"Input/output error (os error 5)",none⟩
    else if code = "pty_write_partial" then .error ⟨1,none,message,none⟩
    else if code ∈ rejectionCodes then .error ⟨0,none,message,some code⟩
    else .error ⟨0,none,(PtydError.remote code message).text,none⟩
  | .error error => .error ⟨0,none,error.text,none⟩

def PtyWriteFailure.teardown (failure : PtyWriteFailure) : Bool :=
  failure.written = 0 ∧ failure.errno = some Ptyd.eio

inductive InputAnswer where
  | ack (appliedThroughSeq : Nat)
  | error (requestId code message : String)

-- The record the writer is at counts against the limits until it is settled.
structure WriterState (V : Type) where
  authority : Authority V
  queue : List QueuedWrite
  (running killed : Bool)
  replySeq : Option Nat
  answers : List (String × InputAnswer)

inductive WriterAction (V : Type) where
  | input (request : InputRequest)
  | reply (data : Bytes)
  | write (answer : Except PtydError Nat)
  | elsewhere (session : SessionState V)

namespace WriterState
def start (authority : Authority V) (replySeq : Option Nat) : WriterState V := ⟨authority,[],true,false,replySeq,[]⟩

def trySend (s : WriterState V) (write : QueuedWrite) : Except InputQueueError (WriterState V) :=
  if 1 > ptyInputQueueRecords - s.queue.length then .error .full
  else if write.len > ptyInputQueueBytes - (s.queue.map QueuedWrite.len).sum then .error .full
  else if s.running then .ok {s with queue := s.queue ++ [write]}
  else .error .disconnected

def answered (s : WriterState V) (channelId : String) (answer : InputAnswer) : WriterState V :=
  {s with answers := s.answers ++ [(channelId,answer)]}

def backpressure : ControlError :=
  ⟨"pty_input_backpressure", s!"PTY input queue 已满（最多 {ptyInputQueueRecords} 条/{ptyInputQueueBytes} 字节），请重试"⟩

section
variable (s : WriterState V)

-- A writer that has stopped leaves the reservation where it is.
def enqueue (clientInstanceId : String) (request : InputRequest) : WriterState V :=
  match s.trySend (.client ⟨clientInstanceId,request.inputSeq,request.data⟩) with
  | .ok next => next
  | .error .disconnected => s
  | .error .full =>
    {s with authority := (s.authority.cancelInputReservation clientInstanceId request.inputSeq).1}.answered
      request.channelId (.error request.requestId backpressure.code backpressure.message)

def deviceInput (request : InputRequest) : WriterState V :=
  if request.data.length > ptyInputQueueBytes then
    s.answered request.channelId (.error request.requestId "pty_input_backpressure"
      s!"单条 PTY input 超过队列字节上限 {ptyInputQueueBytes}")
  else
    let next := {s with authority := (s.authority.admitInput request).1}
    match (s.authority.admitInput request).2 with
    | .ok (.duplicate through) => next.answered request.channelId (.ack through)
    | .ok .pending => next
    | .ok (.enqueue clientInstanceId) => next.enqueue clientInstanceId request
    | .error error => next.answered request.channelId (.error request.requestId error.code error.message)

def deviceReply (data : Bytes) : WriterState V :=
  match s.trySend (.reply data) with
  | .ok next => next
  | .error _ => s

def stop : WriterState V := {s with running := false,killed := true}

def writeReply (answer : Except PtydError Nat) : WriterState V :=
  match s.replySeq with
  | none => s
  | some applied =>
    match sinkWrite answer with
    | .ok () => {s with replySeq := some (min (applied + 1) u64Max)}
    | .error failure => if failure.rejected.isSome then s else s.stop

def committed (input : QueuedInput) : WriterState V :=
  let (authority,completion) := s.authority.completeInput input.clientInstanceId input.inputSeq
  match completion with
  | .ok completion => {s with authority := authority}.answered completion.channelId (.ack completion.appliedThroughSeq)
  | .error error =>
    {s with authority := (authority.failInput input.clientInstanceId input.inputSeq
      ⟨"pty_input_state_failed",error.message⟩).1}.stop

def rejected (input : QueuedInput) (code : String) (failure : PtyWriteFailure) : WriterState V :=
  let (authority,target) := s.authority.rejectPendingInput input.clientInstanceId input.inputSeq
  match target with
  | .ok target => {s with authority := authority}.answered target.channelId (.error target.requestId code failure.error)
  | .error _ => {s with authority := authority}

end

def writeFailure (input : QueuedInput) (failure : PtyWriteFailure) : ControlError :=
  if failure.written = 0 then ⟨"pty_write_failed",s!"PTY input 写入失败，session 已终止：{failure.error}"⟩
  else ⟨"pty_write_partial", s!"PTY input 未完整写入（{input.data.length} 字节），session 已终止以防重放前缀：{failure.error}"⟩

def failed (s : WriterState V) (input : QueuedInput) (failure : PtyWriteFailure) : WriterState V :=
  let error := writeFailure input failure
  let (authority,target) := s.authority.failInput input.clientInstanceId input.inputSeq error
  let stopped := {s with authority := authority}.stop
  match target with
  | .ok target => stopped.answered target.channelId (.error target.requestId error.code error.message)
  | .error _ => stopped

def writeClient (s : WriterState V) (input : QueuedInput) (answer : Except PtydError Nat) : WriterState V :=
  match sinkWrite answer with
  | .ok () => s.committed input
  | .error failure =>
    match failure.rejected with
    | some code => s.rejected input code failure
    | none => if failure.teardown then s.stop else s.failed input failure

end WriterState

def writerStep (s : WriterState V) : WriterAction V → Option (WriterState V)
  | .input request => some (s.deviceInput request)
  | .reply data => some (s.deviceReply data)
  | .write answer =>
    match s.running,s.queue with
    | true,.client input :: rest => some ({s with queue := rest}.writeClient input answer)
    | true,.reply _ :: rest => some ({s with queue := rest}.writeReply answer)
    | _,_ => none
  | .elsewhere session => some {s with authority := {s.authority with session := session}}

def writerMachine (V : Type) : Machine (WriterState V) (WriterAction V) := ⟨writerStep⟩

def queuedSeq (client : String) : QueuedWrite → Option Nat
  | .client input => if input.clientInstanceId = client then some input.inputSeq else none
  | .reply _ => none

def queuedSeqs (queue : List QueuedWrite) (client : String) : List Nat := queue.filterMap (queuedSeq client)

def InStep (s : WriterState V) : Prop := s.running = true → s.authority.seqs = queuedSeqs s.queue

structure WriterInvariant (s : WriterState V) : Prop where
  inStep : InStep s
  clear : s.running = true → s.authority.inputFailure = none
  representable : Representable s.authority

def Rejects (answer : Except PtydError Nat) : Prop :=
  ∃ code message, answer = .error (.remote code message) ∧ code ∈ rejectionCodes

theorem sinkWrite_rejected {failure : PtyWriteFailure} (read : sinkWrite answer = .error failure) :
    failure.rejected.isSome ↔ Rejects answer := by
  cases answer with
  | ok through => cases read
  | error error =>
    cases error with
    | remote code message =>
      have listed : Rejects (.error (.remote code message)) ↔ code ∈ rejectionCodes := by
        constructor
        · rintro ⟨_,_,same,mem⟩
          cases same
          exact mem
        · exact fun mem => ⟨code,message,rfl,mem⟩
      rw [listed]
      simp only [sinkWrite] at read
      split at read
      · rename_i closed
        cases read
        simp [closed,rejectionCodes]
      · split at read
        · rename_i part
          cases read
          simp [part,rejectionCodes]
        · split at read
          · rename_i mem
            cases read
            simpa using mem
          · rename_i other
            cases read
            simpa using other
    | _ => cases read; simp [Rejects]

theorem written_not_rejects (written : sinkWrite answer = .ok ()) : ¬Rejects answer := by
  rintro ⟨code,message,rfl,_⟩
  simp only [sinkWrite] at written
  repeat' split at written
  all_goals cases written

def Settles (answer : Except PtydError Nat) : Prop := sinkWrite answer = .ok () ∨ Rejects answer

-- A rejected input is the only one its client has reserved.
def RejectedAlone (s : WriterState V) : WriterAction V → Prop
  | .write answer => Rejects answer → ∀ input rest, s.queue = .client input :: rest →
      s.authority.seqs input.clientInstanceId = [input.inputSeq]
  | _ => True

def Ordered (s : WriterState V) : Prop := Consecutive s.authority

section Step
variable {s : WriterState V}

theorem queuedSeqs_client : queuedSeqs (.client input :: rest) =
      update (queuedSeqs rest) input.clientInstanceId (input.inputSeq :: queuedSeqs rest input.clientInstanceId) := by
  funext client
  by_cases same : client = input.clientInstanceId
  · subst same
    simp [queuedSeqs,queuedSeq]
  · simp [queuedSeqs,queuedSeq,same,Ne.symm same]

theorem queuedSeqs_snoc : queuedSeqs (queue ++ [.client input]) =
      update (queuedSeqs queue) input.clientInstanceId (queuedSeqs queue input.clientInstanceId ++ [input.inputSeq]) := by
  funext client
  by_cases same : client = input.clientInstanceId
  · subst same
    simp [queuedSeqs,queuedSeq,List.filterMap_append]
  · simp [queuedSeqs,queuedSeq,List.filterMap_append,same,Ne.symm same]

theorem queuedSeqs_snoc_reply : queuedSeqs (queue ++ [.reply data]) = queuedSeqs queue := by
  funext client
  simp [queuedSeqs,queuedSeq,List.filterMap_append]

theorem trySend_ok (sent : s.trySend write = .ok next) : s.running = true ∧ next = {s with queue := s.queue ++ [write]} := by
  unfold WriterState.trySend at sent
  split at sent
  · cases sent
  · split at sent
    · cases sent
    · split at sent
      · rename_i running
        cases sent
        exact ⟨running,rfl⟩
      · cases sent

theorem trySend_disconnected (refused : s.trySend write = .error .disconnected) : s.running = false := by
  unfold WriterState.trySend at refused
  split at refused
  · cases refused
  · split at refused
    · cases refused
    · split at refused
      · cases refused
      · rename_i stopped
        exact Bool.eq_false_iff.mpr stopped

theorem cancel_last {authority : Authority V} (last : authority.seqs = update before client (before client ++ [seq])) :
    (authority.cancelInputReservation client seq).1.seqs = before := by
  have mine : (authority.reserved client).map PendingInput.seq = before client ++ [seq] := by
    have here := congrFun last client
    rwa [update_self] at here
  have tail : (authority.reserved client).getLast?.map PendingInput.seq = some seq := by
    rw [← List.getLast?_map,mine,List.getLast?_concat]
  obtain ⟨_,found,same⟩ := Option.map_eq_some_iff.mp tail
  unfold Authority.cancelInputReservation
  simp only [found,same,ne_eq,not_true_eq_false,if_false]
  rw [Authority.seqs_keep,List.map_dropLast,mine,List.dropLast_concat,last,Function.update_idem]
  exact Function.update_eq_self client before

theorem headReservation_found {authority : Authority V} (head : authority.seqs client = seq :: tail) (disorder : ControlError) :
    ∃ pending rest, authority.headReservation client seq disorder = .ok (pending,rest) ∧
      rest.map PendingInput.seq = tail := by
  unfold Authority.seqs Authority.reserved at head
  cases found : authority.inputReservations.lookup client with
  | none => simp [found] at head
  | some reservations =>
    cases reservations with
    | nil => simp [found] at head
    | cons pending rest =>
      simp only [found,Option.getD_some,List.map_cons,List.cons.injEq] at head
      exact ⟨pending,rest,by simp [Authority.headReservation,found,head.1],head.2⟩

theorem reject_head {authority : Authority V} (head : authority.seqs client = seq :: tail) :
    ∃ target, (authority.rejectPendingInput client seq).2 = .ok target ∧
      (authority.rejectPendingInput client seq).1.seqs = update authority.seqs client tail ∧
      (authority.rejectPendingInput client seq).1.appliedThrough = authority.appliedThrough ∧
      (authority.rejectPendingInput client seq).1.inputFailure = authority.inputFailure := by
  obtain ⟨_,_,found,rfl⟩ :=
    headReservation_found head ⟨"input_reservation_missing","input reservation 顺序错误"⟩
  unfold Authority.rejectPendingInput
  simp only [found]
  exact ⟨_,rfl,Authority.seqs_keep client,Authority.appliedThrough_keep,Authority.inputFailure_keep⟩

-- The head reservation of a client whose numbers follow its cursor is committed.
theorem complete_head {authority : Authority V} (clear : authority.inputFailure = none)
    (head : authority.seqs client = (authority.appliedThrough client + 1) :: tail)
    (fits : authority.appliedThrough client + 1 ≤ u64Max) :
    ∃ channelId, (authority.completeInput client (authority.appliedThrough client + 1)).2 =
      .ok ⟨channelId,authority.appliedThrough client + 1⟩ := by
  obtain ⟨pending,_,found,_⟩ :=
    headReservation_found head ⟨"input_commit_out_of_order","input writer completion 顺序错误"⟩
  have checked : checkedSucc (authority.appliedThrough client) = some (authority.appliedThrough client + 1) :=
    if_pos fits
  refine ⟨pending.channelId,?_⟩
  simp only [Authority.completeInput,clear,checked,ne_eq,not_true_eq_false,if_false,found]

theorem enqueue_inStep (valid : InStep s) {authority : Authority V}
    (seqs : authority.seqs = update s.authority.seqs client (s.authority.seqs client ++ [request.inputSeq])) :
    InStep ({s with authority := authority}.enqueue client request) := by
  unfold WriterState.enqueue
  split
  · rename_i sent
    obtain ⟨running,rfl⟩ := trySend_ok sent
    intro _
    simp only [queuedSeqs_snoc,seqs,← valid running]
  · rename_i refused
    intro running
    rw [trySend_disconnected refused] at running
    cases running
  · intro running
    exact (cancel_last seqs).trans (valid running)

theorem enqueue_frame : AuthorityEffect s.authority (s.enqueue client request).authority ∧
    (s.enqueue client request).authority.inputFailure = s.authority.inputFailure ∧
    (s.enqueue client request).running = s.running ∧ (s.enqueue client request).killed = s.killed := by
  unfold WriterState.enqueue
  split
  · rename_i sent
    obtain ⟨_,rfl⟩ := trySend_ok sent
    exact ⟨.quiet rfl rfl,rfl,rfl,rfl⟩
  · exact ⟨.quiet rfl rfl,rfl,rfl,rfl⟩
  · exact ⟨Authority.cancel_effect _ _ _,Authority.cancel_failure _ _ _,rfl,rfl⟩

end Step

inductive WriterMove (s : WriterState V) (action : WriterAction V) (next : WriterState V) : Prop where
  | served (middle : Authority V) : RejectedAlone s action → AuthorityEffect s.authority middle →
      AuthorityEffect middle next.authority → next.authority.inputFailure = s.authority.inputFailure →
      next.running = s.running → next.killed = s.killed → (InStep s → InStep next) → WriterMove s action next
  | committed (input : QueuedInput) (rest : List QueuedWrite) (answer : Except PtydError Nat)
      (completion : InputCompletion) : action = .write answer → sinkWrite answer = .ok () → s.running = true →
      s.queue = .client input :: rest →
      (s.authority.completeInput input.clientInstanceId input.inputSeq).2 = .ok completion →
      next = {s with
        queue := rest
        authority := (s.authority.completeInput input.clientInstanceId input.inputSeq).1}.answered
          completion.channelId (.ack completion.appliedThroughSeq) → WriterMove s action next
  | rejected (input : QueuedInput) (rest : List QueuedWrite) (answer : Except PtydError Nat) : action = .write answer →
      Rejects answer → s.running = true → s.queue = .client input :: rest →
      next.authority = (s.authority.rejectPendingInput input.clientInstanceId input.inputSeq).1 → next.queue = rest →
      next.running = s.running → next.killed = s.killed → WriterMove s action next
  | stopped (answer : Except PtydError Nat) : action = .write answer → RejectedAlone s action →
      (¬Settles answer ∨ ∃ input rest error, s.queue = .client input :: rest ∧
        (s.authority.completeInput input.clientInstanceId input.inputSeq).2 = .error error) →
      AuthorityEffect s.authority next.authority → next.running = false → WriterMove s action next

section Move
theorem deviceInput_move : WriterMove s (.input request) (s.deviceInput request) := by
  unfold WriterState.deviceInput
  split
  · exact .served s.authority True.intro (.quiet rfl rfl) (.quiet rfl rfl) rfl rfl rfl id
  · have ended := s.authority.admitInput_admitting request
    have failure := admitInput_failure s.authority request
    generalize s.authority.admitInput request = outcome at ended failure ⊢
    obtain ⟨authority,_⟩ := outcome
    cases ended with
    | refused error seqs effect | pending holder clear held mem seqs effect | duplicate holder clear held old seqs effect =>
      exact .served authority True.intro effect (.quiet rfl rfl) failure rfl rfl
        fun valid running => seqs.trans (valid running)
    | enqueued holder clear held new absent seqs effect =>
      obtain ⟨second,kept,running,killed⟩ :=
        enqueue_frame
      exact .served authority True.intro effect second (kept.trans failure) running killed
        fun valid => enqueue_inStep valid seqs

theorem deviceReply_move : WriterMove s (.reply data) (s.deviceReply data) := by
  unfold WriterState.deviceReply
  split
  · rename_i sent
    obtain ⟨_,rfl⟩ := trySend_ok sent
    refine .served s.authority True.intro (.quiet rfl rfl) (.quiet rfl rfl) rfl rfl rfl ?_
    intro valid running
    simp only [queuedSeqs_snoc_reply]
    exact valid running
  · exact .served s.authority True.intro (.quiet rfl rfl) (.quiet rfl rfl) rfl rfl rfl id

theorem failInput_effect {seq : Nat} (failure : ControlError) :
    AuthorityEffect authority (authority.failInput client seq failure).1 := by
  rcases authority.failInput_cases client seq failure with ⟨_,equal⟩ | ⟨_,equal⟩
  · rw [equal]; exact .quiet rfl rfl
  · rw [equal]; exact .quiet rfl rfl

theorem not_settles {failure : PtyWriteFailure} (read : sinkWrite answer = .error failure) (other : failure.rejected = none) :
    ¬Settles answer ∧ ¬Rejects answer := by
  have kept : ¬Rejects answer := by
    rw [← sinkWrite_rejected read,other]
    exact Bool.false_ne_true
  refine ⟨?_,kept⟩
  rintro (written | refused)
  · rw [read] at written
    cases written
  · exact kept refused

theorem writeClient_move (running : s.running = true) (head : s.queue = .client input :: rest) :
    WriterMove s (.write answer) ({s with queue := rest}.writeClient input answer) := by
  unfold WriterState.writeClient
  split
  · rename_i written
    have kept := written_not_rejects written
    unfold WriterState.committed
    cases completed : (s.authority.completeInput input.clientInstanceId input.inputSeq).2 with
    | ok completion =>
      refine .committed input rest answer completion rfl written running head completed ?_
      simp only [completed]
    | error error =>
      simp only [completed]
      refine .stopped answer rfl (fun refused => absurd refused kept) (.inr ⟨input,rest,error,head,completed⟩) ?_ rfl
      rcases s.authority.completeInput_cases input.clientInstanceId input.inputSeq with
        ⟨error,equal⟩ | ⟨_,_,_,_,_,_,equal⟩
      · rw [equal]
        exact failInput_effect _
      · rw [equal] at completed
        cases completed
  · rename_i read
    split
    · rename_i refused
      have rejects := (sinkWrite_rejected read).mp (by rw [refused]; rfl)
      unfold WriterState.rejected
      simp only
      split
      · exact .rejected input rest answer rfl rejects running head rfl rfl rfl rfl
      · exact .rejected input rest answer rfl rejects running head rfl rfl rfl rfl
    · rename_i other
      obtain ⟨unsettled,kept⟩ := not_settles read other
      split
      · exact .stopped answer rfl (fun refused => absurd refused kept) (.inl unsettled) (.quiet rfl rfl) rfl
      · unfold WriterState.failed
        simp only
        split
        · exact .stopped answer rfl (fun refused => absurd refused kept) (.inl unsettled) (failInput_effect _) rfl
        · exact .stopped answer rfl (fun refused => absurd refused kept) (.inl unsettled) (failInput_effect _) rfl

theorem writeReply_move (head : s.queue = .reply data :: rest) :
    WriterMove s (.write answer) ({s with queue := rest}.writeReply answer) := by
  have alone : RejectedAlone s (.write answer) := by
    intro _ input others same
    rw [head] at same
    cases same
  have stepping : InStep s → s.running = true → s.authority.seqs = queuedSeqs rest := by
    intro valid running
    rw [valid running,head]
    rfl
  unfold WriterState.writeReply
  split
  · exact .served s.authority alone (.quiet rfl rfl) (.quiet rfl rfl) rfl rfl rfl stepping
  · split
    · exact .served s.authority alone (.quiet rfl rfl) (.quiet rfl rfl) rfl rfl rfl stepping
    · rename_i read
      split
      · exact .served s.authority alone (.quiet rfl rfl) (.quiet rfl rfl) rfl rfl rfl stepping
      · rename_i other
        have unsettled := (not_settles read (Option.not_isSome_iff_eq_none.mp other)).1
        exact .stopped answer rfl alone (.inl unsettled) (.quiet rfl rfl) rfl

theorem writerStep_move (step : writerStep s action = some next) : WriterMove s action next := by
  cases action with
  | input request => cases step; exact deviceInput_move
  | reply data => cases step; exact deviceReply_move
  | write answer =>
    simp only [writerStep] at step
    split at step
    · rename_i rest running head
      cases step
      exact writeClient_move running head
    · rename_i head
      cases step
      exact writeReply_move head
    · cases step
  | elsewhere session =>
    cases step
    exact .served s.authority True.intro (.quiet rfl rfl) (.quiet rfl rfl) rfl rfl rfl id

end Move

section Run
variable {next : WriterState V}

theorem inStep_head (valid : InStep s) (running : s.running = true) (head : s.queue = .client input :: rest) :
    s.authority.seqs input.clientInstanceId = input.inputSeq :: queuedSeqs rest input.clientInstanceId := by
  rw [valid running,head,queuedSeqs_client,update_self]

theorem inStep_popped (valid : InStep s) (running : s.running = true) (head : s.queue = .client input :: rest)
    (seqs : next.authority.seqs = update s.authority.seqs input.clientInstanceId (queuedSeqs rest input.clientInstanceId))
    (queue : next.queue = rest) : InStep next := by
  intro _
  rw [seqs,valid running,head,queuedSeqs_client,Function.update_idem,Function.update_eq_self,queue]

theorem completed_seqs {authority : Authority V} (completed : (authority.completeInput client seq).2 = .ok completion)
    (head : authority.seqs client = seq :: tail) :
    (authority.completeInput client seq).1.seqs = update authority.seqs client tail ∧
    (authority.completeInput client seq).1.inputFailure = none := by
  rcases authority.completeInput_cases client seq with ⟨_,equal⟩ | ⟨_,_,clear,queue,_,_,equal⟩
  · rw [equal] at completed
    cases completed
  · simp only [Authority.seqs,queue,List.map_cons,List.cons.injEq] at head
    rw [equal]
    refine ⟨?_,?_⟩
    · rw [Authority.seqs_restoreInputCursor,Authority.seqs_keep,head.2]
    · exact Authority.inputFailure_keep.trans clear

theorem writerStep_invariant (valid : WriterInvariant s) (step : writerStep s action = some next) :
    WriterInvariant next := by
  cases writerStep_move step with
  | served middle allowed first second failure running killed kept =>
    refine ⟨kept valid.inStep,?_,effect_representable (effect_representable valid.representable first) second⟩
    intro alive
    rw [failure]
    exact valid.clear (running ▸ alive)
  | committed input rest answer completion taken written running head completed equal =>
    obtain ⟨seqs,clear⟩ := completed_seqs completed (inStep_head valid.inStep running head)
    subst equal
    exact ⟨inStep_popped valid.inStep running head seqs rfl,fun _ => clear,
      effect_representable valid.representable (Authority.completeInput_effect _ _ _)⟩
  | rejected input rest answer taken refused running head authority queue alive killed =>
    obtain ⟨_,_,seqs,_,failure⟩ := reject_head (inStep_head valid.inStep running head)
    rw [← authority] at seqs failure
    refine ⟨inStep_popped valid.inStep running head seqs queue,fun _ => failure.trans (valid.clear running),?_⟩
    refine representable_update valid.representable seqs ?_
    intro seq mem
    rw [inStep_head valid.inStep running head]
    exact .inl (List.mem_cons_of_mem _ mem)
  | stopped answer taken allowed cause effect halted =>
    refine ⟨?_,?_,effect_representable valid.representable effect⟩
    · intro running
      rw [halted] at running
      cases running
    · intro running
      rw [halted] at running
      cases running

theorem rejected_consecutive {before after : Authority V} (valid : Consecutive before)
    (head : before.seqs client = seq :: tail) (seqs : after.seqs = update before.seqs client tail)
    (applied : after.appliedThrough = before.appliedThrough) : Consecutive after ↔ before.seqs client = [seq] := by
  have whole := valid client
  rw [head,List.length_cons,List.range'_succ] at whole
  constructor
  · intro ordered
    have mine := ordered client
    rw [seqs,applied,update_self] at mine
    cases tail with
    | nil => exact head
    | cons second others =>
      rw [List.length_cons,List.range'_succ] at mine whole
      have low := (List.cons.inj mine).1
      have high := (List.cons.inj (List.cons.inj whole).2).1
      omega
  · intro alone other
    rw [seqs,applied]
    by_cases same : other = client
    · subst same
      rw [alone] at head
      rw [update_self,← (List.cons.inj head).2]
      rfl
    · rw [Function.update_of_ne same]
      exact valid other

theorem writerStep_ordered (valid : WriterInvariant s) (ordered : Ordered s)
    (step : writerStep s action = some next) : Ordered next ↔ RejectedAlone s action := by
  cases writerStep_move step with
  | served middle allowed first second failure running killed kept =>
    exact ⟨fun _ => allowed,fun _ => effect_consecutive (effect_consecutive ordered first) second⟩
  | committed input rest answer completion taken written running head completed equal =>
    subst equal taken
    exact ⟨fun _ refused => absurd refused (written_not_rejects written),
      fun _ => effect_consecutive ordered (Authority.completeInput_effect _ _ _)⟩
  | rejected input rest answer taken refused running head authority queue alive killed =>
    subst taken
    have first := inStep_head valid.inStep running head
    obtain ⟨_,_,seqs,applied,_⟩ := reject_head first
    rw [← authority] at seqs applied
    rw [Ordered,rejected_consecutive ordered first seqs applied]
    constructor
    · intro alone _ other others same
      rw [head] at same
      cases same
      exact alone
    · intro allowed
      exact allowed refused _ _ head
  | stopped answer taken allowed cause effect halted =>
    exact ⟨fun _ => allowed,fun _ => effect_consecutive ordered effect⟩

theorem written_committed (valid : WriterInvariant s) (ordered : Ordered s) (running : s.running = true)
    (head : s.queue = .client input :: rest) :
    ∃ completion, (s.authority.completeInput input.clientInstanceId input.inputSeq).2 = .ok completion := by
  have first := inStep_head valid.inStep running head
  have whole := ordered input.clientInstanceId
  rw [first,List.length_cons,List.range'_succ] at whole
  have follows := (List.cons.inj whole).1
  have fits : input.inputSeq ≤ u64Max :=
    valid.representable input.clientInstanceId input.inputSeq (first ▸ List.mem_cons_self)
  rw [follows] at first fits
  obtain ⟨_,completed⟩ := complete_head (valid.clear running) first fits
  rw [← follows] at completed
  exact ⟨_,completed⟩

theorem settled_running (valid : WriterInvariant s) (ordered : Ordered s)
    (settles : ∀ answer, action = .write answer → Settles answer) (alive : s.running = true ∧ s.killed = false)
    (step : writerStep s action = some next) : next.running = true ∧ next.killed = false := by
  cases writerStep_move step with
  | served middle allowed first second failure running killed kept => rw [running,killed]; exact alive
  | committed input rest answer completion taken written running head completed equal => subst equal; exact alive
  | rejected input rest answer taken refused running head authority queue same killed => rw [same,killed]; exact alive
  | stopped answer taken allowed cause effect halted =>
    rcases cause with unsettled | ⟨input,rest,error,head,refused⟩
    · exact absurd (settles _ taken) unsettled
    · obtain ⟨_,completed⟩ := written_committed valid ordered alive.1 head
      rw [completed] at refused
      cases refused

theorem start_writer_invariant {authority : Authority V} (idle : authority.inputReservations = ∅)
    (clear : authority.inputFailure = none) : WriterInvariant (.start authority replySeq) := by
  have empty : authority.seqs = fun _ => [] := by
    funext client
    simp [Authority.seqs,Authority.reserved,idle]
  refine ⟨fun _ => empty,fun _ => clear,?_⟩
  intro client seq mem
  simp [WriterState.start,empty] at mem

theorem start_ordered {authority : Authority V} (idle : authority.inputReservations = ∅) :
    Ordered (.start authority replySeq) := by
  intro client
  simp [WriterState.start,Authority.seqs,Authority.reserved,idle]

structure Unharmed (s : WriterState V) : Prop where
  valid : WriterInvariant s
  ordered : Ordered s

theorem unharmed_step (unharmed : Unharmed s) (allowed : RejectedAlone s action)
    (step : writerStep s action = some next) : Unharmed next :=
  ⟨writerStep_invariant unharmed.valid step, (writerStep_ordered unharmed.valid unharmed.ordered step).mpr allowed⟩

def Alive (s : WriterState V) : Prop := s.running = true ∧ s.killed = false

theorem alive_run {start : WriterState V} (unharmed : Unharmed start) (alive : Alive start)
    (along : (writerMachine V).Along RejectedAlone start actions)
    (settles : ∀ answer, .write answer ∈ actions → Settles answer)
    (ran : (writerMachine V).run start actions = some s) : Alive s := by
  induction actions generalizing start with
  | nil => cases ran; exact alive
  | cons action rest ih =>
    obtain ⟨_,step,ran⟩ := run_cons_parts ran
    refine ih (unharmed_step unharmed along.1 step) ?_ (along.2 _ step) ?_ ran
    · refine settled_running unharmed.valid unharmed.ordered ?_ alive step
      rintro answer rfl
      exact settles _ List.mem_cons_self
    · exact fun _ mem => settles _ (List.mem_cons_of_mem _ mem)

theorem rejection_spares_session {authority : Authority V} (idle : authority.inputReservations = ∅)
    (clear : authority.inputFailure = none) (ran : (writerMachine V).run (.start authority replySeq) actions = some s) :
    ((writerMachine V).Throughout Ordered (.start authority replySeq) actions ↔
      (writerMachine V).Along RejectedAlone (.start authority replySeq) actions) ∧
    ((writerMachine V).Along RejectedAlone (.start authority replySeq) actions →
      (∀ input rest answer, s.running = true → s.queue = .client input :: rest → sinkWrite answer = .ok () →
        ∃ next channelId, writerStep s (.write answer) = some next ∧
          next.authority.appliedThrough input.clientInstanceId = input.inputSeq ∧
          next.answers = s.answers ++ [(channelId,.ack input.inputSeq)] ∧
          next.running = true ∧ next.authority.inputFailure = none) ∧
      ((∀ answer, .write answer ∈ actions → Settles answer) →
        s.running = true ∧ s.killed = false ∧ s.authority.inputFailure = none)) := by
  have valid : WriterInvariant (.start authority replySeq) := start_writer_invariant idle clear
  have ordered : Ordered (.start authority replySeq) := start_ordered idle
  refine ⟨throughout_iff_along (fun _ _ _ valid step => writerStep_invariant valid step)
    (fun _ _ _ valid ordered step => writerStep_ordered valid ordered step) valid ordered ran,?_⟩
  intro along
  have unharmed : Unharmed s := preserves_along (fun _ _ _ unharmed allowed step =>
    unharmed_step unharmed allowed step) ⟨valid,ordered⟩ along ran
  refine ⟨?_,?_⟩
  · intro input rest answer running head written
    obtain ⟨completion,completed⟩ := written_committed unharmed.valid unharmed.ordered running head
    obtain ⟨cursor,same,_⟩ := completed_cursor completed
    refine ⟨_,completion.channelId,by simp only [writerStep,running,head]; rfl,?_⟩
    simp only [WriterState.writeClient,written,WriterState.committed,completed]
    refine ⟨cursor.symm.trans same,by rw [same]; rfl,rfl,?_⟩
    exact (completed_seqs completed (inStep_head unharmed.valid.inStep running head)).2
  · intro settles
    obtain ⟨running,killed⟩ := alive_run ⟨valid,ordered⟩ ⟨rfl,rfl⟩ along settles ran
    exact ⟨running,killed,unharmed.valid.clear running⟩

end Run

-- Two inputs rejected by a gap, one after the other, and the next one written.
def lateStart : Authority Unit := (Authority.restore heldSession).restoreInputCursor "client" 4 [120]

def gapAnswer : Except PtydError Nat := .error (.remote "input_seq_gap" "input sequence 不连续，期望 4")

theorem rejection_spares_session_retried :
    ∃ s, (writerMachine Unit).run (.start lateStart (some 0)) [.input (keys 5 [97]),.write gapAnswer,
        .input (keys 5 [97]),.write gapAnswer,.input (keys 5 [97]),.write (.ok 5),.input (keys 6 [98])] = some s ∧
      s.authority.appliedThrough "client" = 5 ∧
      (s.running = true ∧ s.killed = false ∧ s.authority.inputFailure = none) ∧
      ∃ next channelId, writerStep s (.write (.ok 6)) = some next ∧ next.authority.appliedThrough "client" = 6 ∧
        next.answers = s.answers ++ [(channelId,.ack 6)] ∧ next.running = true ∧ next.authority.inputFailure = none := by
  have ran : (writerMachine Unit).run (.start lateStart (some 0)) [.input (keys 5 [97]),.write gapAnswer,
      .input (keys 5 [97]),.write gapAnswer,.input (keys 5 [97]),.write (.ok 5),.input (keys 6 [98])] = some _ := rfl
  have along : (writerMachine Unit).Along RejectedAlone (.start lateStart (some 0)) [.input (keys 5 [97]),
      .write gapAnswer,.input (keys 5 [97]),.write gapAnswer,.input (keys 5 [97]),.write (.ok 5),
      .input (keys 6 [98])] := by
    refine along_cons rfl True.intro (along_cons rfl ?_ (along_cons rfl True.intro (along_cons rfl ?_
      (along_cons rfl True.intro (along_cons rfl ?_ (along_cons rfl True.intro True.intro))))))
    · intro _ input rest head
      cases head
      rfl
    · intro _ input rest head
      cases head
      rfl
    · intro refused
      exact absurd refused (written_not_rejects rfl)
  have spared := (rejection_spares_session rfl rfl ran).2 along
  refine ⟨_,ran,rfl,spared.2 ?_,spared.1 _ _ _ rfl rfl rfl⟩
  intro answer mem
  have cases : answer = gapAnswer ∨ answer = .ok 5 := by simpa using mem
  rcases cases with rfl | rfl
  · exact .inr ⟨_,_,rfl,by decide⟩
  · exact .inl rfl

-- ptyd holds another 5, refuses the client's and writes its 6, which cannot be committed behind a
-- cursor at 4: the input is sealed and the session killed.
def olderFive : Table String Ptyd.Cursor := (∅ : Table String Ptyd.Cursor).insert "client" ⟨5,[120]⟩

def collisionAnswer : Except PtydError Nat :=
  .error (.remote "input_seq_collision" "相同 input sequence 携带了不同 payload")

theorem rejection_kills_session : Ptyd.SessionInner.checkCursor olderFive ⟨"client",5,[97]⟩ =
      some (.refuse ⟨"input_seq_collision","相同 input sequence 携带了不同 payload"⟩) ∧
    Ptyd.SessionInner.checkCursor olderFive ⟨"client",6,[98]⟩ = none ∧
    ∃ s, (writerMachine Unit).run (.start cursorlessAuthority none)
        [.input (keys 5 [97]),.input (keys 6 [98]),.write collisionAnswer] = some s ∧
      ¬Ordered s ∧
      ∃ next, writerStep s (.write (.ok 6)) = some next ∧ next.killed = true ∧ next.running = false ∧
        next.authority.inputFailure = some ⟨"pty_input_state_failed","input commit 不连续，期望 5"⟩ := by
  refine ⟨by decide,by decide,_,rfl,?_,_,rfl,rfl,rfl,by decide +kernel⟩
  intro ordered
  have mine := ordered "client"
  exact absurd mine (by decide +kernel)

-- Also where a rejection leaves a hole in the numbers, what is reserved is what is queued.
theorem queue_in_step {authority : Authority V} (idle : authority.inputReservations = ∅)
    (clear : authority.inputFailure = none) (actions : List (WriterAction V)) :
    (writerMachine V).Throughout WriterInvariant (.start authority replySeq) actions :=
  throughout_of_preserved (fun _ => id) (fun _ _ _ => writerStep_invariant) (start_writer_invariant idle clear)

theorem queue_in_step_rejected : (writerMachine Unit).Throughout WriterInvariant (.start cursorlessAuthority none)
    [.input (keys 5 [97]),.input (keys 6 [98]),.write collisionAnswer,.write (.ok 6)] := queue_in_step rfl rfl _

end Coflux.Sessiond
