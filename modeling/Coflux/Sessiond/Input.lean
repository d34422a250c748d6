import Coflux.Foundation.Machine
import Coflux.Sessiond.Holder

namespace Coflux.Sessiond
open Text FiniteMap StepMachine
open Function (update update_of_ne update_self)

structure InputCursor where
  seq : Nat
  data : Bytes

-- The channel is the last one whose holder sent this input; acks and errors go
-- there.
structure PendingInput where
  seq : Nat
  data : Bytes
  (channelId requestId : String)

inductive InputAdmission where
  | enqueue (clientInstanceId : String)
  | pending
  | duplicate (appliedThroughSeq : Nat)

structure InputCompletion where
  channelId : String
  appliedThroughSeq : Nat

structure InputFailureTarget where
  (channelId requestId : String)

structure InputRequest where
  (channelId requestId : String)
  (holderEpoch inputSeq : Nat)
  data : Bytes

structure Authority (V : Type) where
  session : SessionState V
  inputCursors : Table String InputCursor
  inputReservations : Table String (List PendingInput)
  inputFailure : Option ControlError
  cursorlessRebuild : Bool

def checkedSucc (seq : Nat) : Option Nat := if seq < u64Max then some (seq + 1) else none

-- The first reservation of this seq follows the request to its channel.
def redirect (request : InputRequest) : List PendingInput → List PendingInput
  | [] => []
  | pending :: rest =>
    if pending.seq = request.inputSeq then
      {pending with channelId := request.channelId,requestId := request.requestId} :: rest
    else pending :: redirect request rest

namespace Authority
def restore (session : SessionState V) : Authority V := ⟨session,∅,∅,none,false⟩

section
variable (s : Authority V)

section
variable (clientInstanceId : String)

def restoreInputCursor (seq : Nat) (data : Bytes) : Authority V :=
  {s with inputCursors := s.inputCursors.insert clientInstanceId ⟨seq,data⟩}

def setCursorlessRebuild : Authority V := {s with cursorlessRebuild := true}

def appliedThrough : Nat :=
  (s.inputCursors.lookup clientInstanceId).elim 0 InputCursor.seq

def reserved : List PendingInput :=
  (s.inputReservations.lookup clientInstanceId).getD []

def collision : ControlError := ⟨"input_seq_collision","相同 input sequence 携带了不同 payload"⟩

section
variable (inputSeq : Nat)

-- Without cursors to compare with, the seq a client starts at is taken as it is.
def adopt : Authority V :=
  if s.cursorlessRebuild ∧ clientInstanceId ∉ s.inputCursors ∧ s.reserved clientInstanceId = [] then
    {s with inputCursors := s.inputCursors.insert clientInstanceId ⟨inputSeq - 1,[]⟩}
  else s

def queued (reservations : List PendingInput) : Authority V :=
  {s with inputReservations := s.inputReservations.insert clientInstanceId reservations}

section
variable (request : InputRequest)

-- The entry of the client is there from now on, even if the input is refused.
def reserve :
    Authority V × Except ControlError InputAdmission :=
  let reservations := s.reserved clientInstanceId
  match reservations.find? (·.seq = request.inputSeq) with
  | some pending =>
    if pending.data ≠ request.data then (s.queued clientInstanceId reservations,.error collision)
    else (s.queued clientInstanceId (redirect request reservations),.ok .pending)
  | none =>
    match checkedSucc (reservations.getLast?.elim (s.appliedThrough clientInstanceId) PendingInput.seq) with
    | none => (s.queued clientInstanceId reservations,.error ⟨"input_seq_exhausted","input sequence 已耗尽"⟩)
    | some expected =>
      if request.inputSeq ≠ expected then
        (s.queued clientInstanceId reservations, .error ⟨"input_seq_gap",s!"input sequence 不连续，期望 {expected}"⟩)
      else
        (s.queued clientInstanceId (reservations ++ [⟨request.inputSeq,request.data,request.channelId,request.requestId⟩]),
          .ok (.enqueue clientInstanceId))

def admitSeq :
    Authority V × Except ControlError InputAdmission :=
  if request.inputSeq ≤ s.appliedThrough clientInstanceId then
    if (s.inputCursors.lookup clientInstanceId).any fun cursor =>
        request.inputSeq = cursor.seq ∧ cursor.data ≠ request.data then (s,.error collision)
    else (s,.ok (.duplicate (s.appliedThrough clientInstanceId)))
  else s.reserve clientInstanceId request

def admitInput : Authority V × Except ControlError InputAdmission :=
  if request.inputSeq = 0 then (s,.error ⟨"invalid_input_seq","input sequence 必须从 1 开始"⟩)
  else match s.session.currentHolder request.channelId request.holderEpoch with
    | .error error => (s,.error error)
    | .ok holder =>
      match s.inputFailure with
      | some failure => (s,.error failure)
      | none =>
        (s.adopt holder.clientInstanceId request.inputSeq).admitSeq holder.clientInstanceId request

end

def keep (reservations : List PendingInput) : Authority V :=
  if reservations = [] then {s with inputReservations := s.inputReservations.erase clientInstanceId}
  else s.queued clientInstanceId reservations

def cancelInputReservation : Authority V × Bool :=
  match (s.reserved clientInstanceId).getLast? with
  | none => (s,false)
  | some pending =>
    if pending.seq ≠ inputSeq then (s,false)
    else (s.keep clientInstanceId (s.reserved clientInstanceId).dropLast,true)

def headReservation (disorder : ControlError) :
    Except ControlError (PendingInput × List PendingInput) :=
  match s.inputReservations.lookup clientInstanceId with
  | none => .error ⟨"input_reservation_missing","input reservation 不存在"⟩
  | some [] => .error disorder
  | some (pending :: rest) => if pending.seq = inputSeq then .ok (pending,rest) else .error disorder

def completeInput :
    Authority V × Except ControlError InputCompletion :=
  match s.inputFailure with
  | some failure => (s,.error failure)
  | none =>
    match checkedSucc (s.appliedThrough clientInstanceId) with
    | none => (s,.error ⟨"input_seq_exhausted","input sequence 已耗尽"⟩)
    | some expected =>
      if inputSeq ≠ expected then
        (s,.error ⟨"input_commit_out_of_order",s!"input commit 不连续，期望 {expected}"⟩)
      else match s.headReservation clientInstanceId inputSeq
          ⟨"input_commit_out_of_order","input writer completion 顺序错误"⟩ with
        | .error error => (s,.error error)
        | .ok (pending,rest) =>
          ((s.keep clientInstanceId rest).restoreInputCursor clientInstanceId inputSeq pending.data,
            .ok ⟨pending.channelId,inputSeq⟩)

def failInput (failure : ControlError) :
    Authority V × Except ControlError InputFailureTarget :=
  match (s.reserved clientInstanceId).head? with
  | none => (s,.error ⟨"input_reservation_missing","input reservation 不存在"⟩)
  | some pending =>
    if pending.seq = inputSeq then
      ({s with inputFailure := some failure},.ok ⟨pending.channelId,pending.requestId⟩)
    else (s,.error ⟨"input_reservation_missing","input reservation 不存在"⟩)

-- ptyd refused this one input by its own cursor.
def rejectPendingInput :
    Authority V × Except ControlError InputFailureTarget :=
  match s.headReservation clientInstanceId inputSeq ⟨"input_reservation_missing","input reservation 顺序错误"⟩ with
  | .error error => (s,.error error)
  | .ok (pending,rest) => (s.keep clientInstanceId rest,.ok ⟨pending.channelId,pending.requestId⟩)

end

end

end

end Authority

-- Everything else leaves the input half alone and may change the other half, the holder included.
inductive AuthorityAction (V : Type) where
  | admitInput (request : InputRequest)
  | cancel (clientInstanceId : String) (inputSeq : Nat)
  | complete (clientInstanceId : String) (inputSeq : Nat)
  | fail (clientInstanceId : String) (inputSeq : Nat) (failure : ControlError)
  | elsewhere (session : SessionState V)

def authorityStep (s : Authority V) : AuthorityAction V → Option (Authority V)
  | .admitInput request => some (s.admitInput request).1
  | .cancel clientInstanceId inputSeq => some (s.cancelInputReservation clientInstanceId inputSeq).1
  | .complete clientInstanceId inputSeq => some (s.completeInput clientInstanceId inputSeq).1
  | .fail clientInstanceId inputSeq failure => some (s.failInput clientInstanceId inputSeq failure).1
  | .elsewhere session => some {s with session := session}

def authorityMachine (V : Type) : Machine (Authority V) (AuthorityAction V) := ⟨authorityStep⟩

namespace Authority
variable {s : Authority V}

def seqs (s : Authority V) (clientInstanceId : String) : List Nat := (s.reserved clientInstanceId).map PendingInput.seq

theorem reserved_queued :
    (s.queued client reservations).reserved other = if other = client then reservations else s.reserved other := by
  by_cases same : other = client
  · subst same
    simp [queued,reserved]
  · simp [queued,reserved,AList.lookup_insert_ne same,same]

theorem reserved_keep :
    (s.keep client reservations).reserved other = if other = client then reservations else s.reserved other := by
  unfold keep
  split
  · rename_i nothing
    by_cases same : other = client
    · subst same
      simp [reserved,nothing]
    · simp [reserved,AList.lookup_erase_ne same,same]
  · exact reserved_queued

@[simp] theorem seqs_queued (client : String) :
    (s.queued client reservations).seqs = update s.seqs client (reservations.map PendingInput.seq) := by
  funext other
  by_cases same : other = client
  · simp [seqs,reserved_queued,same]
  · simp [seqs,reserved_queued,same]

@[simp] theorem seqs_keep (client : String) :
    (s.keep client reservations).seqs = update s.seqs client (reservations.map PendingInput.seq) := by
  funext other
  by_cases same : other = client
  · simp [seqs,reserved_keep,same]
  · simp [seqs,reserved_keep,same]

@[simp] theorem appliedThrough_keep : (s.keep client reservations).appliedThrough = s.appliedThrough := by
  unfold keep
  split <;> rfl

@[simp] theorem inputFailure_keep : (s.keep client reservations).inputFailure = s.inputFailure := by
  unfold keep
  split <;> rfl

@[simp] theorem appliedThrough_restoreInputCursor (client : String) :
    (s.restoreInputCursor client seq data).appliedThrough = update s.appliedThrough client seq := by
  funext other
  by_cases same : other = client
  · subst same
    simp [restoreInputCursor,appliedThrough]
  · simp [restoreInputCursor,appliedThrough,AList.lookup_insert_ne same,same]

@[simp] theorem seqs_restoreInputCursor : (s.restoreInputCursor client seq data).seqs = s.seqs := rfl

theorem redirect_seqs :
    (redirect request reservations).map PendingInput.seq = reservations.map PendingInput.seq := by
  induction reservations with
  | nil => rfl
  | cons pending rest ih =>
    unfold redirect
    split
    · rfl
    · simp [ih]

def nextSeq (s : Authority V) (client : String) : Nat := (s.seqs client).getLast?.elim (s.appliedThrough client) id + 1

theorem nextSeq_checked (checked : checkedSucc
      ((s.reserved client).getLast?.elim (s.appliedThrough client) PendingInput.seq) = some expected) :
    expected = s.nextSeq client ∧ expected ≤ u64Max := by
  unfold checkedSucc at checked
  obtain ⟨below,rfl⟩ := guard_parts checked
  refine ⟨?_,below⟩
  simp only [nextSeq,seqs,List.getLast?_map]
  cases (s.reserved client).getLast? <;> rfl

inductive Reserving (s : Authority V) (client : String) (request : InputRequest) (next : Authority V) :
    Except ControlError InputAdmission → Prop where
  | refused (error : ControlError) : next.seqs = s.seqs → Reserving s client request next (.error error)
  | pending : request.inputSeq ∈ s.seqs client → next.seqs = s.seqs → Reserving s client request next (.ok .pending)
  | enqueued : request.inputSeq ∉ s.seqs client → request.inputSeq = s.nextSeq client → request.inputSeq ≤ u64Max →
      next.seqs = Function.update s.seqs client (s.seqs client ++ [request.inputSeq]) →
      Reserving s client request next (.ok (.enqueue client))

section
variable (s : Authority V) (client : String) (request : InputRequest)

theorem reserve_reserving : Reserving s client request (s.reserve client request).1 (s.reserve client request).2 := by
  have unchanged : (s.queued client (s.reserved client)).seqs = s.seqs := by
    rw [seqs_queued]
    exact Function.update_eq_self client s.seqs
  unfold reserve
  cases found : (s.reserved client).find? (·.seq = request.inputSeq) with
  | some pending =>
    have mem : request.inputSeq ∈ s.seqs client := by
      have here := List.mem_of_find?_eq_some found
      have equal := List.find?_some found
      exact List.mem_map.mpr ⟨pending,here,by simpa using equal⟩
    by_cases differs : pending.data ≠ request.data
    · simp only [found,if_pos differs]
      exact .refused _ unchanged
    · simp only [found,if_neg differs]
      refine .pending mem ?_
      rw [seqs_queued,redirect_seqs]
      exact Function.update_eq_self client s.seqs
  | none =>
    have absent : request.inputSeq ∉ s.seqs client := by
      intro mem
      obtain ⟨pending,here,equal⟩ := List.mem_map.mp mem
      have other := List.find?_eq_none.mp found pending here
      simp [equal] at other
    simp only [found]
    split
    · exact .refused _ unchanged
    · rename_i expected checked
      by_cases gap : request.inputSeq ≠ expected
      · simp only [if_pos gap]
        exact .refused _ unchanged
      · simp only [if_neg gap]
        obtain ⟨follows,bounded⟩ := nextSeq_checked checked
        rw [← not_not.mp gap] at follows bounded
        refine .enqueued absent follows bounded ?_
        rw [seqs_queued,List.map_append]
        rfl

theorem reserve_frame : (s.reserve client request).1.appliedThrough = s.appliedThrough ∧
      (s.reserve client request).1.inputFailure = s.inputFailure := by
  unfold reserve
  simp only
  repeat' split
  all_goals exact ⟨rfl,rfl⟩

end

end Authority

inductive AuthorityEffect (s next : Authority V) : Prop where
  | quiet : next.appliedThrough = s.appliedThrough → next.seqs = s.seqs → AuthorityEffect s next
  | adopted (client : String) (seq : Nat) : s.appliedThrough client = 0 → s.seqs client = [] →
      next.appliedThrough = Function.update s.appliedThrough client seq → next.seqs = s.seqs → AuthorityEffect s next
  | reserved (client : String) : s.nextSeq client ≤ u64Max → next.appliedThrough = s.appliedThrough →
      next.seqs = Function.update s.seqs client (s.seqs client ++ [s.nextSeq client]) → AuthorityEffect s next
  | started (client : String) (seq : Nat) : seq + 1 ≤ u64Max → s.appliedThrough client = 0 → s.seqs client = [] →
      next.appliedThrough = Function.update s.appliedThrough client seq →
      next.seqs = Function.update s.seqs client [seq + 1] → AuthorityEffect s next
  | cancelled (client : String) : next.appliedThrough = s.appliedThrough →
      next.seqs = Function.update s.seqs client (s.seqs client).dropLast → AuthorityEffect s next
  | applied (client : String) (rest : List Nat) : s.seqs client = (s.appliedThrough client + 1) :: rest →
      next.appliedThrough = Function.update s.appliedThrough client (s.appliedThrough client + 1) →
      next.seqs = Function.update s.seqs client rest → AuthorityEffect s next

namespace Authority
variable {s : Authority V}

inductive Admitting (s : Authority V) (request : InputRequest) (next : Authority V) :
    Except ControlError InputAdmission → Prop where
  | refused (error : ControlError) : next.seqs = s.seqs → AuthorityEffect s next →
      Admitting s request next (.error error)
  | pending (holder : Holder) : s.inputFailure = none →
      s.session.currentHolder request.channelId request.holderEpoch = .ok holder →
      request.inputSeq ∈ s.seqs holder.clientInstanceId → next.seqs = s.seqs → AuthorityEffect s next →
      Admitting s request next (.ok .pending)
  | duplicate (holder : Holder) : s.inputFailure = none →
      s.session.currentHolder request.channelId request.holderEpoch = .ok holder →
      request.inputSeq ≤ s.appliedThrough holder.clientInstanceId → next.seqs = s.seqs → AuthorityEffect s next →
      Admitting s request next (.ok (.duplicate (s.appliedThrough holder.clientInstanceId)))
  | enqueued (holder : Holder) : s.inputFailure = none →
      s.session.currentHolder request.channelId request.holderEpoch = .ok holder →
      s.appliedThrough holder.clientInstanceId < request.inputSeq →
      request.inputSeq ∉ s.seqs holder.clientInstanceId →
      next.seqs = Function.update s.seqs holder.clientInstanceId (s.seqs holder.clientInstanceId ++ [request.inputSeq]) →
      AuthorityEffect s next → Admitting s request next (.ok (.enqueue holder.clientInstanceId))

theorem adopt_cases {seq : Nat} : s.adopt client seq = s ∨
    s.appliedThrough client = 0 ∧ s.seqs client = [] ∧ (s.adopt client seq).seqs = s.seqs ∧
      (s.adopt client seq).appliedThrough = update s.appliedThrough client (seq - 1) := by
  unfold adopt
  split
  · rename_i fresh
    refine .inr ⟨?_,?_,rfl,appliedThrough_restoreInputCursor client⟩
    · simp [appliedThrough,AList.lookup_eq_none.mpr fresh.2.1]
    · simp [seqs,fresh.2.2]
  · exact .inl rfl

theorem admitSeq_known (clear : s.inputFailure = none)
    (held : s.session.currentHolder request.channelId request.holderEpoch = .ok holder) :
    Admitting s request (s.admitSeq holder.clientInstanceId request).1 (s.admitSeq holder.clientInstanceId request).2 := by
  unfold admitSeq
  split
  · rename_i old
    split
    · exact .refused _ rfl (.quiet rfl rfl)
    · exact .duplicate holder clear held old rfl (.quiet rfl rfl)
  · obtain ⟨applied,_⟩ := reserve_frame s _ _
    have ended := reserve_reserving s holder.clientInstanceId request
    generalize s.reserve holder.clientInstanceId request = outcome at applied ended ⊢
    obtain ⟨_,_⟩ := outcome
    cases ended with
    | refused error seqs => exact .refused error seqs (.quiet applied seqs)
    | pending mem seqs => exact .pending holder clear held mem seqs (.quiet applied seqs)
    | enqueued absent follows bounded seqs =>
      refine .enqueued holder clear held (by omega) absent seqs ?_
      rw [follows] at seqs bounded
      exact .reserved holder.clientInstanceId bounded applied seqs

theorem admitSeq_adopted (clear : s.inputFailure = none)
    (held : s.session.currentHolder request.channelId request.holderEpoch = .ok holder) (positive : request.inputSeq ≠ 0)
    (unknown : s.appliedThrough holder.clientInstanceId = 0) (idle : s.seqs holder.clientInstanceId = [])
    {adopted : Authority V} (same : adopted.seqs = s.seqs)
    (starts : adopted.appliedThrough = update s.appliedThrough holder.clientInstanceId (request.inputSeq - 1)) :
    Admitting s request (adopted.admitSeq holder.clientInstanceId request).1
      (adopted.admitSeq holder.clientInstanceId request).2 := by
  have cursor : adopted.appliedThrough holder.clientInstanceId = request.inputSeq - 1 := by
    rw [starts,update_self]
  unfold admitSeq
  rw [if_neg (by omega)]
  obtain ⟨applied,_⟩ := reserve_frame _ _ _
  rw [starts] at applied
  have ended := reserve_reserving adopted holder.clientInstanceId request
  generalize adopted.reserve holder.clientInstanceId request = outcome at applied ended ⊢
  obtain ⟨_,_⟩ := outcome
  cases ended with
  | refused error seqs =>
    exact .refused error (seqs.trans same) (.adopted holder.clientInstanceId _ unknown idle applied (seqs.trans same))
  | pending mem seqs =>
    rw [same,idle] at mem
    cases mem
  | enqueued absent follows bounded seqs =>
    rw [same] at absent seqs
    refine .enqueued holder clear held (by omega) absent seqs ?_
    refine .started holder.clientInstanceId (request.inputSeq - 1) (by omega) unknown idle applied ?_
    rw [seqs,idle,Nat.sub_add_cancel (Nat.pos_of_ne_zero positive)]
    rfl

theorem admitInput_admitting (s : Authority V) (request : InputRequest) :
    Admitting s request (s.admitInput request).1 (s.admitInput request).2 := by
  unfold admitInput
  split
  · exact .refused _ rfl (.quiet rfl rfl)
  · rename_i positive
    split
    · exact .refused _ rfl (.quiet rfl rfl)
    · rename_i held
      split
      · exact .refused _ rfl (.quiet rfl rfl)
      · rename_i clear
        rcases adopt_cases with same | ⟨unknown,idle,seqs,starts⟩
        · rw [same]
          exact admitSeq_known clear held
        · exact admitSeq_adopted clear held positive unknown idle seqs starts

theorem admitInput_effect (s : Authority V) (request : InputRequest) : AuthorityEffect s (s.admitInput request).1 := by
  have ended := admitInput_admitting s request
  generalize s.admitInput request = outcome at ended ⊢
  obtain ⟨_,_⟩ := outcome
  cases ended with
  | refused error seqs effect | pending holder clear held mem seqs effect
  | duplicate holder clear held old seqs effect | enqueued holder clear held new absent seqs effect => exact effect

theorem headReservation_ok (found : s.headReservation client seq disorder = .ok (pending,rest)) :
    s.reserved client = pending :: rest ∧ pending.seq = seq := by
  unfold headReservation at found
  split at found
  · cases found
  · cases found
  · rename_i present
    split at found
    · rename_i same
      cases found
      exact ⟨by simp [reserved,present],same⟩
    · cases found

section
variable (s : Authority V) (client : String) (seq : Nat)

theorem cancel_effect : AuthorityEffect s (s.cancelInputReservation client seq).1 := by
  unfold cancelInputReservation
  split
  · exact .quiet rfl rfl
  · split
    · exact .quiet rfl rfl
    · refine .cancelled client appliedThrough_keep ?_
      rw [seqs_keep,List.map_dropLast]
      rfl

theorem cancel_failure : (s.cancelInputReservation client seq).1.inputFailure = s.inputFailure := by
  unfold cancelInputReservation
  split
  · rfl
  · split
    · rfl
    · exact inputFailure_keep

theorem completeInput_cases : (∃ error, s.completeInput client seq = (s,.error error)) ∨
    ∃ pending rest, s.inputFailure = none ∧ s.reserved client = pending :: rest ∧ pending.seq = seq ∧
      seq = s.appliedThrough client + 1 ∧
      s.completeInput client seq =
        ((s.keep client rest).restoreInputCursor client seq pending.data,.ok ⟨pending.channelId,seq⟩) := by
  unfold completeInput
  split
  · exact .inl ⟨_,rfl⟩
  · rename_i clear
    split
    · exact .inl ⟨_,rfl⟩
    · rename_i checked
      split
      · exact .inl ⟨_,rfl⟩
      · rename_i follows
        split
        · exact .inl ⟨_,rfl⟩
        · rename_i pending rest found
          obtain ⟨queue,same⟩ := headReservation_ok found
          refine .inr ⟨pending,rest,clear,queue,same,?_,rfl⟩
          unfold checkedSucc at checked
          obtain ⟨_,rfl⟩ := guard_parts checked
          exact not_not.mp follows

theorem completeInput_effect : AuthorityEffect s (s.completeInput client seq).1 := by
  rcases completeInput_cases s client seq with ⟨_,equal⟩ | ⟨_,rest,_,queue,same,follows,equal⟩
  · rw [equal]
    exact .quiet rfl rfl
  · rw [equal]
    refine .applied client (rest.map PendingInput.seq) ?_ ?_ ?_
    · simp [seqs,queue,same,follows]
    · rw [appliedThrough_restoreInputCursor,appliedThrough_keep,follows]
    · rw [seqs_restoreInputCursor,seqs_keep]

theorem failInput_cases (failure : ControlError) : (∃ error, s.failInput client seq failure = (s,.error error)) ∨
    ∃ target, s.failInput client seq failure = ({s with inputFailure := some failure},.ok target) := by
  unfold failInput
  split
  · exact .inl ⟨_,rfl⟩
  · split
    · exact .inr ⟨_,rfl⟩
    · exact .inl ⟨_,rfl⟩

end

end Authority

theorem authorityStep_effect (step : authorityStep s action = some next) : AuthorityEffect s next := by
  cases action with
  | admitInput request => cases step; exact s.admitInput_effect request
  | cancel client seq => cases step; exact s.cancel_effect client seq
  | complete client seq => cases step; exact s.completeInput_effect client seq
  | fail client seq failure =>
    cases step
    rcases s.failInput_cases client seq failure with ⟨_,equal⟩ | ⟨_,equal⟩
    · rw [equal]; exact .quiet rfl rfl
    · rw [equal]; exact .quiet rfl rfl
  | elsewhere session => cases step; exact .quiet rfl rfl

def Consecutive (s : Authority V) : Prop :=
  ∀ client, s.seqs client = List.range' (s.appliedThrough client + 1) (s.seqs client).length

theorem nextSeq_consecutive (valid : Consecutive s) :
    s.nextSeq client = s.appliedThrough client + (s.seqs client).length + 1 := by
  unfold Authority.nextSeq
  cases length : (s.seqs client).length with
  | zero => simp [List.length_eq_zero_iff.mp length]
  | succ count =>
    rw [valid client,length,List.getLast?_range']
    simp
    omega

theorem effect_consecutive (valid : Consecutive s) (effect : AuthorityEffect s next) : Consecutive next := by
  intro other
  cases effect with
  | quiet applied seqs => rw [applied,seqs]; exact valid other
  | adopted client seq unknown idle applied seqs =>
    rw [applied,seqs]
    by_cases same : other = client
    · subst same
      simp [idle]
    · rw [update_of_ne same]
      exact valid other
  | reserved client bounded applied seqs =>
    rw [applied,seqs]
    by_cases same : other = client
    · subst same
      rw [update_self,nextSeq_consecutive valid,List.length_append,List.length_singleton, List.range'_concat,← valid other]
      simp
      omega
    · rw [update_of_ne same]
      exact valid other
  | started client seq bounded unknown idle applied seqs =>
    rw [applied,seqs]
    by_cases same : other = client
    · subst same
      simp
    · rw [update_of_ne same,update_of_ne same]
      exact valid other
  | cancelled client applied seqs =>
    rw [applied,seqs]
    by_cases same : other = client
    · subst same
      rw [update_self,List.length_dropLast]
      cases length : (s.seqs other).length with
      | zero => simp [List.length_eq_zero_iff.mp length]
      | succ count =>
        rw [valid other,length,List.range'_concat,List.dropLast_concat]
        rfl
    · rw [update_of_ne same]
      exact valid other
  | applied client rest queue applied seqs =>
    rw [applied,seqs]
    by_cases same : other = client
    · subst same
      have whole := valid other
      rw [queue,List.length_cons,List.range'_succ] at whole
      rw [update_self,update_self]
      exact (List.cons.inj whole).2
    · rw [update_of_ne same,update_of_ne same]
      exact valid other

def Representable (s : Authority V) : Prop := ∀ client, ∀ seq ∈ s.seqs client, seq ≤ u64Max

theorem representable_update (valid : Representable s) (seqs : next.seqs = update s.seqs client changed)
    (fits : ∀ seq ∈ changed, seq ∈ s.seqs client ∨ seq ≤ u64Max) : Representable next := by
  intro other seq mem
  rw [seqs] at mem
  by_cases same : other = client
  · subst same
    rw [update_self] at mem
    rcases fits seq mem with earlier | small
    · exact valid other _ earlier
    · exact small
  · rw [update_of_ne same] at mem
    exact valid other _ mem

theorem effect_representable (valid : Representable s) (effect : AuthorityEffect s next) : Representable next := by
  cases effect with
  | quiet applied seqs => intro client; rw [seqs]; exact valid client
  | adopted client seq unknown idle applied seqs => intro client; rw [seqs]; exact valid client
  | reserved client bounded applied seqs =>
    refine representable_update valid seqs ?_
    intro seq mem
    rcases List.mem_append.mp mem with earlier | new
    · exact .inl earlier
    · exact .inr (List.mem_singleton.mp new ▸ bounded)
  | started client seq bounded unknown idle applied seqs =>
    refine representable_update valid seqs ?_
    intro seq new
    exact .inr (List.mem_singleton.mp new ▸ bounded)
  | cancelled client applied seqs =>
    exact representable_update valid seqs fun seq mem => .inl (List.dropLast_subset _ mem)
  | applied client rest queue applied seqs =>
    exact representable_update valid seqs fun _ mem => .inl (queue ▸ List.mem_cons_of_mem _ mem)

def CursorsGrow (s next : Authority V) : Prop := ∀ client, s.appliedThrough client ≤ next.appliedThrough client

theorem effect_grows (effect : AuthorityEffect s next) : CursorsGrow s next := by
  intro other
  cases effect with
  | quiet applied seqs | reserved client bounded applied seqs | cancelled client applied seqs => rw [applied]
  | adopted client seq unknown idle applied seqs | started client seq bounded unknown idle applied seqs =>
    rw [applied]
    by_cases same : other = client
    · subst same
      omega
    · rw [update_of_ne same]
  | applied client rest queue applied seqs =>
    rw [applied]
    by_cases same : other = client
    · subst same
      simp
    · rw [update_of_ne same]

theorem consecutive_run {start s : Authority V} (idle : start.inputReservations = ∅)
    (ran : (authorityMachine V).run start actions = some s) : Consecutive s := by
  refine run_preserves (fun _ _ _ valid step => effect_consecutive valid (authorityStep_effect step)) ?_ ran
  intro client
  simp [Authority.seqs,Authority.reserved,idle]

theorem cursors_grow_run {start s : Authority V} (ran : (authorityMachine V).run start actions = some s) :
    CursorsGrow start s :=
  run_relates (fun _ _ => Nat.le_refl _) (fun _ _ _ one two client => (one client).trans (two client))
    (fun _ _ _ _ step => ⟨True.intro,effect_grows (authorityStep_effect step)⟩) True.intro ran

def Sealed (s : Authority V) : Prop := s.inputFailure.isSome

theorem admitInput_failure (s : Authority V) (request : InputRequest) :
    (s.admitInput request).1.inputFailure = s.inputFailure := by
  have adopted : ∀ client seq, (s.adopt client seq).inputFailure = s.inputFailure := by
    intro client seq
    unfold Authority.adopt
    split <;> rfl
  unfold Authority.admitInput
  split
  · rfl
  · split
    · rfl
    · split
      · rfl
      · unfold Authority.admitSeq
        split
        · split <;> exact adopted _ _
        · exact (Authority.reserve_frame _ _ _).2.trans (adopted _ _)

theorem sealed_step (closed : Sealed s) (step : authorityStep s action = some next) : Sealed next := by
  unfold Sealed at closed ⊢
  cases action with
  | admitInput request => cases step; rw [admitInput_failure]; exact closed
  | cancel client seq => cases step; rw [Authority.cancel_failure]; exact closed
  | complete client seq =>
    cases step
    rcases s.completeInput_cases client seq with ⟨error,equal⟩ | ⟨_,_,clear,_⟩
    · rw [equal]; exact closed
    · simp [clear] at closed
  | fail client seq failure =>
    cases step
    rcases s.failInput_cases client seq failure with ⟨_,equal⟩ | ⟨_,equal⟩
    · rw [equal]; exact closed
    · rw [equal]; rfl
  | elsewhere session => cases step; exact closed

theorem sealed_refuses {s : Authority V} (closed : Sealed s) :
    (s.admitInput request).2 ≠ .ok admission := by
  intro admitted
  have ended := s.admitInput_admitting request
  rw [admitted] at ended
  cases ended with
  | pending holder clear | duplicate holder clear | enqueued holder clear => simp [Sealed,clear] at closed

section
variable (start : Authority V) (actions : List (AuthorityAction V))

def AppliedIn (client : String) (seq : Nat) : Prop :=
  ∃ first rest before completion, actions = first ++ .complete client seq :: rest ∧
    (authorityMachine V).run start first = some before ∧ (before.completeInput client seq).2 = .ok completion

def FailedIn : Prop :=
  ∃ first rest before client seq failure target, actions = first ++ .fail client seq failure :: rest ∧
    (authorityMachine V).run start first = some before ∧ (before.failInput client seq failure).2 = .ok target

end

theorem completed_cursor {s : Authority V} (completed : (s.completeInput client seq).2 = .ok completion) :
    completion.appliedThroughSeq = (s.completeInput client seq).1.appliedThrough client ∧
    completion.appliedThroughSeq = seq ∧ seq = s.appliedThrough client + 1 := by
  rcases s.completeInput_cases client seq with ⟨_,equal⟩ | ⟨_,_,_,_,_,follows,equal⟩
  · rw [equal] at completed
    cases completed
  · rw [equal] at completed ⊢
    cases completed
    exact ⟨by simp,rfl,follows⟩

theorem applied_below {start s : Authority V} (ran : (authorityMachine V).run start actions = some s)
    (applied : AppliedIn start actions client seq) : seq ≤ s.appliedThrough client := by
  obtain ⟨_,_,_,_,rfl,reached,completed⟩ := applied
  rw [run_append reached] at ran
  obtain ⟨_,step,ran⟩ := run_cons_parts ran
  cases step
  obtain ⟨_,_,_⟩ := completed_cursor completed
  have grown := cursors_grow_run ran client
  omega

theorem failed_sealed {start s : Authority V} (ran : (authorityMachine V).run start actions = some s)
    (failed : FailedIn start actions) : Sealed s := by
  obtain ⟨_,_,before,client,seq,failure,target,rfl,reached,found⟩ := failed
  rw [run_append reached] at ran
  obtain ⟨_,step,ran⟩ := run_cons_parts ran
  cases step
  refine run_preserves (fun _ _ _ closed step => sealed_step closed step) ?_ ran
  rcases before.failInput_cases client seq failure with ⟨_,equal⟩ | ⟨_,equal⟩
  · rw [equal] at found
    cases found
  · rw [equal]
    rfl

theorem input_admitted_once {start s : Authority V} (idle : start.inputReservations = ∅)
    (ran : (authorityMachine V).run start actions = some s) :
    (∀ client, s.seqs client = List.range' (s.appliedThrough client + 1) (s.seqs client).length) ∧
    (∀ request client, (s.admitInput request).2 = .ok (.enqueue client) →
      request.inputSeq ∉ s.seqs client ∧ start.appliedThrough client < request.inputSeq ∧
      ∀ seq, AppliedIn start actions client seq → seq < request.inputSeq) ∧
    (∀ request through, (s.admitInput request).2 = .ok (.duplicate through) →
      ∃ holder, s.session.currentHolder request.channelId request.holderEpoch = .ok holder ∧
        request.inputSeq ≤ s.appliedThrough holder.clientInstanceId ∧ through = s.appliedThrough holder.clientInstanceId) ∧
    (∀ client seq completion, (s.completeInput client seq).2 = .ok completion →
      completion.appliedThroughSeq = (s.completeInput client seq).1.appliedThrough client ∧
      completion.appliedThroughSeq = s.appliedThrough client + 1) ∧
    (FailedIn start actions → ∀ request admission, (s.admitInput request).2 ≠ .ok admission) := by
  refine ⟨consecutive_run idle ran,?_,?_,?_,?_⟩
  · intro request client admitted
    have ended := s.admitInput_admitting request
    rw [admitted] at ended
    cases ended with
    | enqueued holder clear held new absent seqs effect =>
      refine ⟨absent,Nat.lt_of_le_of_lt (cursors_grow_run ran _) new,?_⟩
      intro seq applied
      exact Nat.lt_of_le_of_lt (applied_below ran applied) new
  · intro request through admitted
    have ended := s.admitInput_admitting request
    rw [admitted] at ended
    cases ended with
    | duplicate holder clear held old seqs effect => exact ⟨holder,held,old,rfl⟩
  · intro client seq completion completed
    obtain ⟨cursor,same,follows⟩ := completed_cursor completed
    exact ⟨cursor,same.trans follows⟩
  · intro failed request admission
    exact sealed_refuses (failed_sealed ran failed)

def heldSession : SessionState Unit := {idleSession with holder := some ⟨"client",1,"channel",1⟩}

def cursorlessAuthority : Authority Unit := (Authority.restore heldSession).setCursorlessRebuild

def keys (seq : Nat) (data : Bytes) : InputRequest := ⟨"channel","request",1,seq,data⟩

-- The client starts at 5, has 6 taken back, and is asked for 6 again after 5
-- was applied.
theorem input_admitted_once_resumed :
    ∃ s, (authorityMachine Unit).run cursorlessAuthority [.admitInput (keys 5 [97]),.admitInput (keys 6 [98]),.cancel "client" 6,
        .complete "client" 5] = some s ∧
      s.appliedThrough "client" = 5 ∧ (s.admitInput (keys 6 [99])).2 = .ok (.enqueue "client") ∧
      (keys 6 [99]).inputSeq ∉ s.seqs "client" ∧
      ∀ client, s.seqs client = List.range' (s.appliedThrough client + 1) (s.seqs client).length := by
  have ran : (authorityMachine Unit).run cursorlessAuthority [.admitInput (keys 5 [97]),.admitInput (keys 6 [98]),
      .cancel "client" 6,.complete "client" 5] = some _ := rfl
  have once := input_admitted_once rfl ran
  exact ⟨_,ran,rfl,rfl,(once.2.1 _ _ rfl).1,once.1⟩

end Coflux.Sessiond
