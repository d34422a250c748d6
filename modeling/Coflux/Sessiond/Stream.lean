import Coflux.Sessiond.SessionState

namespace Coflux.Sessiond
open Text FiniteMap SessionState
open Subscriber (offered)

inductive Frame where
  | attached (snapshotSeq holderEpoch : Nat) (ansiSnapshot : Option Bytes) (rows cols : UInt16)
  | output (delta : Delta)
  | gap (expectedSeq availableSeq : Nat)
  | detached (holderEpoch : Nat)
  | refused (error : ControlError)

structure Attempt where
  channelId : String
  frame : Frame
  sent : Bool

-- The history is everything sessiond has fed. The attempts are all sends, with their results.
structure StreamState (V : Type) where
  session : SessionState V
  history : Bytes
  attempts : List Attempt

namespace StreamState
variable (vendor : Vendor V)

def logged (s : StreamState V) (channelId : String) (frame : Frame) (sent : Bool) : StreamState V :=
  {s with attempts := s.attempts ++ [⟨channelId,frame,sent⟩]}

def delivered (s : StreamState V) (channelId : String) (delta : Delta) (sent : Bool) : StreamState V :=
  {s.logged channelId (.output delta) sent with session := s.session.deliveryResult channelId delta.toSeq sent}

-- An exhausted list stands for a queue that takes nothing more.
def deliver (s : StreamState V) (sends : List Bool) : List PendingDelta → StreamState V × List Bool
  | [] => (s,sends)
  | delivery :: rest =>
    deliver (s.delivered delivery.channelId delivery.delta (sends.headD false)) sends.tail rest

def replay (s : StreamState V) (channelId : String) (sends : List Bool) : List Delta → StreamState V × List Bool
  | [] => (s,sends)
  | delta :: rest =>
    let after := s.delivered channelId delta (sends.headD false)
    if sends.headD false then after.replay channelId sends.tail rest else (after,sends.tail)

def deliverGaps (s : StreamState V) (sends : List Bool) : List PendingGap → StreamState V
  | [] => s
  | gap :: rest =>
    let sent := sends.headD false
    let told := {s.logged gap.channelId (.gap gap.expectedSeq gap.availableSeq) sent with
      session := s.session.gapDeliveryResult gap.channelId sent}
    told.deliverGaps sends.tail rest

def deliverPendingGaps (s : StreamState V) (sends : List Bool) : StreamState V :=
  s.deliverGaps sends s.session.pendingGaps

def readerBatch (s : StreamState V) (batch : Bytes) (sends : List Bool) : StreamState V :=
  let fed := s.session.feed vendor batch
  let sent := deliver {s with session := fed.1,history := s.history ++ batch} sends fed.2
  sent.1.deliverPendingGaps sent.2

-- The ring callback reads ptyd, which may fail; what it returns is the output.
def ringOf (history : Bytes) (answers : Nat → Nat → Bool) (fromSeq toSeq : Nat) : Option Bytes :=
  if answers fromSeq toSeq then some ((history.take toSeq).drop (fromSeq - 1)) else none

-- A client without the attached frame knows neither snapshot nor epoch, so nothing may overtake it.
def tell (s : StreamState V) (request : AttachRequest) (rows cols : UInt16) (outcome : AttachOutcome)
    (sends : List Bool) : StreamState V :=
  let frame := Frame.attached outcome.snapshotSeq outcome.holderEpoch outcome.ansiSnapshot rows cols
  let told := s.logged request.channelId frame (sends.headD false)
  if sends.headD false then
    let sent := told.replay request.channelId sends.tail outcome.replay
    sent.1.deliverPendingGaps sent.2
  else {told with session := told.session.removeSubscriber request.channelId}

def announce (s : StreamState V) (request : AttachRequest) (rows cols : UInt16) (outcome : AttachOutcome)
    (sends : List Bool) : StreamState V :=
  match outcome.detached with
  | some target =>
    (s.logged target.channelId (.detached target.holderEpoch) (sends.headD false)).tell request rows cols outcome sends.tail
  | none => s.tell request rows cols outcome sends

structure AttachCall where
  request : AttachRequest
  (rows cols : UInt16)
  resized : Option String
  answers : Nat → Nat → Bool
  sends : List Bool

def attachNow (s : StreamState V) (call : AttachCall) : StreamState V :=
  let sized := {s.session with terminal := s.session.terminal.resize vendor call.rows call.cols}
  match sized.attach vendor call.request (ringOf s.history call.answers) with
  | (session,.ok outcome) => {s with session := session}.announce call.request call.rows call.cols outcome call.sends
  | (session,.error error) =>
    {s with session := session}.logged call.request.channelId (.refused error) (call.sends.headD false)

-- The size was clamped by the caller; ptyd may refuse the resize.
def deviceAttach (s : StreamState V) (call : AttachCall) : StreamState V :=
  match s.session.validateAttach call.request with
  | some error => s.logged call.request.channelId (.refused error) (call.sends.headD false)
  | none =>
    match call.resized with
    | some error =>
      if s.session.terminal.rows = call.rows ∧ s.session.terminal.cols = call.cols then s.attachNow vendor call
      else s.logged call.request.channelId (.refused ⟨"pty_resize_failed",error⟩) (call.sends.headD false)
    | none => s.attachNow vendor call

end StreamState

open StreamState (delivered ringOf tell)

inductive StreamAction where
  | readerBatch (batch : Bytes) (sends : List Bool)
  | deviceAttach (call : StreamState.AttachCall)
  | resize (rows cols : UInt16)
  | clearSubscribers

variable (vendor : Vendor V)

def streamStep (s : StreamState V) : StreamAction → StreamState V
  | .readerBatch batch sends => s.readerBatch vendor batch sends
  | .deviceAttach call => s.deviceAttach vendor call
  | .resize rows cols => {s with session := {s.session with terminal := s.session.terminal.resize vendor rows cols}}
  | .clearSubscribers => {s with session := s.session.clearSubscribers}

def streamRun (s : StreamState V) (actions : List StreamAction) : StreamState V :=
  actions.foldl (streamStep vendor) s

def streamStart (terminal : TerminalState V) (history : Bytes) : StreamState V :=
  ⟨.restore (terminal.setOutputSeq history.length),history,[]⟩

-- What a channel has been given since its last SessionAttached.
structure ChannelView where
  snapshot : Option Nat
  received : Bytes
  failed : Bool

def ChannelView.after (view : ChannelView) (attempt : Attempt) : ChannelView :=
  match attempt.frame,attempt.sent with
  | .attached snapshotSeq _ _ _ _,true => ⟨some snapshotSeq,[],false⟩
  | .attached _ _ _ _ _,false => {view with failed := true}
  | .output delta,true => {view with received := view.received ++ delta.data}
  | .output _,false => {view with failed := true}
  | _,_ => view

def viewOf (attempts : List Attempt) (channelId : String) : ChannelView :=
  (attempts.filter fun attempt => attempt.channelId = channelId).foldl ChannelView.after ⟨none,[],false⟩

def ViewExact (history : Bytes) (view : ChannelView) : Prop :=
  ∀ snapshotSeq, view.snapshot = some snapshotSeq → snapshotSeq + view.received.length ≤ history.length ∧
    view.received = (history.drop snapshotSeq).take view.received.length

def AttemptGood (before : List Attempt) (attempt : Attempt) : Prop :=
  ∀ delta, attempt.frame = .output delta → ∃ snapshotSeq, (viewOf before attempt.channelId).snapshot = some snapshotSeq ∧
      (viewOf before attempt.channelId).failed = false ∧
      delta.fromSeq = snapshotSeq + (viewOf before attempt.channelId).received.length + 1

def AttemptsGood (attempts : List Attempt) : Prop :=
  ∀ before attempt after, attempts = before ++ attempt :: after → AttemptGood before attempt

variable {vendor}

section
variable {attempts : List Attempt} {attempt : Attempt}

theorem viewOf_same :
    viewOf (attempts ++ [attempt]) attempt.channelId = (viewOf attempts attempt.channelId).after attempt := by
  simp [viewOf]

theorem viewOf_other (differs : attempt.channelId ≠ channelId) :
    viewOf (attempts ++ [attempt]) channelId = viewOf attempts channelId := by
  simp [viewOf,differs]

end

theorem attemptsGood_append (good : AttemptsGood attempts) (last : AttemptGood attempts attempt) :
    AttemptsGood (attempts ++ [attempt]) := by
  intro before other after equal
  rcases List.eq_nil_or_concat after with rfl | ⟨front,final,rfl⟩
  · obtain ⟨rfl,same⟩ := List.append_inj' equal (by simp)
    cases same
    exact last
  · have shifted : attempts ++ [attempt] = (before ++ other :: front) ++ [final] := by simp [equal]
    obtain ⟨start,_⟩ := List.append_inj' shifted (by simp)
    exact good _ other _ start

structure Slice (history : Bytes) (delta : Delta) : Prop where
  positive : 1 ≤ delta.fromSeq
  ordered : delta.fromSeq ≤ delta.toSeq
  within : delta.toSeq ≤ history.length
  data : delta.data = (history.take delta.toSeq).drop (delta.fromSeq - 1)

theorem slice_length (slice : Slice history delta) : delta.data.length = delta.toSeq + 1 - delta.fromSeq := by
  have positive := slice.positive
  have within := slice.within
  rw [slice.data,List.length_drop,List.length_take]
  omega

theorem slice_extends (slice : Slice history delta) (more : Bytes) : Slice (history ++ more) delta := by
  have within := slice.within
  refine ⟨slice.positive,slice.ordered,by simp; omega,?_⟩
  rw [List.take_append_of_le_length within]
  exact slice.data

theorem slice_fed (position : seq = List.length history) (nonempty : bytes ≠ []) :
    Slice (history ++ bytes) ⟨seq + 1,seq + bytes.length,bytes⟩ := by
  have filled := List.length_pos_iff.mpr nonempty
  refine ⟨by simp,by simp only; omega,by simp [position],?_⟩
  simp only [position,Nat.add_sub_cancel]
  rw [List.take_of_length_le (by simp),List.drop_left]

def Chain (history : Bytes) : Nat → List Delta → Prop
  | _,[] => True
  | next,delta :: rest => delta.fromSeq = next ∧ Slice history delta ∧ Chain history (delta.toSeq + 1) rest

def Expects (view : ChannelView) (next : Nat) : Prop :=
  ∃ snapshotSeq, view.snapshot = some snapshotSeq ∧ view.failed = false ∧ next = snapshotSeq + view.received.length + 1

theorem viewExact_extends (exact : ViewExact history view) (more : Bytes) : ViewExact (history ++ more) view := by
  intro snapshotSeq attached
  obtain ⟨_,bytes⟩ := exact snapshotSeq attached
  refine ⟨by simp; omega,?_⟩
  rw [List.drop_append_of_le_length (by omega),List.take_append_of_le_length (by simp; omega)]
  exact bytes

theorem viewExact_received (exact : ViewExact history view) (expects : Expects view delta.fromSeq)
    (slice : Slice history delta) : ViewExact history {view with received := view.received ++ delta.data} := by
  intro snapshotSeq attached
  obtain ⟨known,attachedKnown,_,_⟩ := expects
  have same : known = snapshotSeq := Option.some.inj (attachedKnown.symm.trans attached)
  subst same
  obtain ⟨_,bytes⟩ := exact known attachedKnown
  have length := slice_length slice
  have inside := slice.within
  refine ⟨by simp; omega,?_⟩
  have start : delta.fromSeq - 1 = known + view.received.length := by omega
  have piece : delta.data = (history.drop (known + view.received.length)).take delta.data.length := by
    rw [slice.data,start,List.drop_take]
    simp
  simp only [List.length_append,List.take_add,List.drop_drop]
  rw [← bytes,← piece]

structure StreamCore (s : StreamState V) : Prop where
  position : s.session.terminal.outputSeq = s.history.length
  window : ∀ delta ∈ s.session.terminal.retransmit, Slice s.history delta
  exact : ∀ channelId, ViewExact s.history (viewOf s.attempts channelId)
  attempts : AttemptsGood s.attempts

def Waits (s : StreamState V) (channelId : String) : Prop :=
  ∀ subscriber, s.session.subscribers.lookup channelId = some subscriber → subscriber.gapped = false →
    Expects (viewOf s.attempts channelId) subscriber.nextSeq

structure StreamInvariant (s : StreamState V) : Prop where
  core : StreamCore s
  waits : ∀ channelId, Waits s channelId

def Notice : Frame → Prop
  | .attached _ _ _ _ _ => False
  | .output _ => False
  | _ => True

theorem notice_view (notice : Notice frame) {view : ChannelView} : view.after ⟨channelId,frame,sent⟩ = view := by
  cases frame with
  | attached | output => cases notice
  | gap | detached | refused => rfl

theorem notice_viewOf (notice : Notice frame) (attempts : List Attempt) {channelId : String} :
    viewOf (attempts ++ [⟨channelId,frame,sent⟩]) other = viewOf attempts other := by
  by_cases same : channelId = other
  · subst same
    rw [viewOf_same,notice_view notice]
  · exact viewOf_other same

theorem notice_core (core : StreamCore s) (notice : Notice frame) : StreamCore (s.logged channelId frame sent) := by
  refine ⟨core.position,core.window,?_,attemptsGood_append core.attempts ?_⟩
  · intro other
    simp only [StreamState.logged,notice_viewOf notice]
    exact core.exact other
  · intro delta equal
    simp only at equal
    subst equal
    cases notice

theorem notice_waits (waits : Waits s other) (notice : Notice frame) : Waits (s.logged channelId frame sent) other := by
  intro subscriber found whole
  simp only [StreamState.logged,notice_viewOf notice]
  exact waits _ found whole

theorem output_core (core : StreamCore s) (expects : Expects (viewOf s.attempts channelId) delta.fromSeq)
    (slice : Slice s.history delta) : StreamCore (s.logged channelId (.output delta) sent) := by
  refine ⟨core.position,core.window,?_,attemptsGood_append core.attempts ?_⟩
  · intro other
    by_cases same : channelId = other
    · subst same
      simp only [StreamState.logged]
      rw [viewOf_same]
      cases sent with
      | true => exact viewExact_received (core.exact channelId) expects slice
      | false => exact core.exact channelId
    · simp only [StreamState.logged]
      rw [viewOf_other same]
      exact core.exact other
  · intro given equal
    cases equal
    exact expects

theorem deliveryResult_terminal (state : SessionState V) {channelId : String} :
    (state.deliveryResult channelId toSeq sent).terminal = state.terminal := by
  unfold deliveryResult
  split
  · rfl
  · split
    · rfl
    · split <;> rfl

theorem deliveryResult_other (state : SessionState V) (toSeq : Nat) (differs : other ≠ channelId) :
    (state.deliveryResult channelId toSeq sent).subscribers.lookup other = state.subscribers.lookup other := by
  unfold deliveryResult
  split
  · rfl
  · split
    · exact AList.lookup_insert_ne differs
    · split
      · exact AList.lookup_insert_ne differs
      · rfl

theorem deliveryResult_same {state : SessionState V} (found : state.subscribers.lookup channelId = some subscriber)
    (ahead : subscriber.nextSeq ≤ toSeq) :
    (state.deliveryResult channelId toSeq sent).subscribers.lookup channelId =
      some (if sent then {subscriber with nextSeq := toSeq + 1} else {subscriber with gapped := true,gapNotified := false}) := by
  unfold deliveryResult
  cases sent with
  | true => simp [found,ahead]
  | false => simp [found]

theorem delivered_invariant (valid : StreamInvariant s) (found : s.session.subscribers.lookup channelId = some subscriber)
    (whole : subscriber.gapped = false) (next : subscriber.nextSeq = delta.fromSeq) (slice : Slice s.history delta) :
    StreamInvariant (s.delivered channelId delta sent) := by
  have expects := valid.waits channelId _ found whole
  rw [next] at expects
  have logged : StreamCore (s.logged channelId (.output delta) sent) := output_core valid.core expects slice
  refine ⟨⟨?_,?_,logged.exact,logged.attempts⟩,?_⟩
  · simp only [delivered,deliveryResult_terminal]
    exact logged.position
  · simp only [delivered,deliveryResult_terminal]
    exact logged.window
  · intro other after lookup unbroken
    simp only [delivered] at lookup
    by_cases same : other = channelId
    · subst same
      rw [deliveryResult_same found (by rw [next]; exact slice.ordered)] at lookup
      cases sent with
      | true =>
        cases lookup
        obtain ⟨snapshotSeq,attached,clean,_⟩ := expects
        have length := slice_length slice
        have ordered := slice.ordered
        simp only [delivered,StreamState.logged]
        rw [viewOf_same]
        refine ⟨snapshotSeq,attached,clean,?_⟩
        simp only [ChannelView.after,if_true,List.length_append]
        omega
      | false =>
        cases lookup
        simp at unbroken
    · rw [deliveryResult_other _ _ same] at lookup
      simp only [delivered,StreamState.logged]
      rw [viewOf_other (Ne.symm same)]
      exact valid.waits other after lookup unbroken

def Ready (s : StreamState V) (pending : List PendingDelta) : Prop :=
  (pending.map PendingDelta.channelId).Nodup ∧
  ∀ delivery ∈ pending, Slice s.history delivery.delta ∧
    ∃ subscriber, s.session.subscribers.lookup delivery.channelId = some subscriber ∧
      subscriber.gapped = false ∧ subscriber.nextSeq = delivery.delta.fromSeq

theorem deliver_invariant (pending : List PendingDelta) (sends : List Bool) (valid : StreamInvariant s)
    (ready : Ready s pending) : StreamInvariant (s.deliver sends pending).1 := by
  induction pending generalizing s sends with
  | nil => exact valid
  | cons delivery rest ih =>
    obtain ⟨distinct,each⟩ := ready
    obtain ⟨slice,_,found,whole,next⟩ := each _ List.mem_cons_self
    obtain ⟨fresh,restDistinct⟩ := List.nodup_cons.mp distinct
    refine ih sends.tail (delivered_invariant valid found whole next slice) ⟨restDistinct,?_⟩
    intro later mem
    obtain ⟨laterSlice,laterSubscriber,laterFound,laterWhole,laterNext⟩ := each _ (List.mem_cons_of_mem _ mem)
    have differs : later.channelId ≠ delivery.channelId := by
      intro equal
      exact fresh (equal ▸ List.mem_map_of_mem mem)
    refine ⟨laterSlice,laterSubscriber,?_,laterWhole,laterNext⟩
    simp only [delivered]
    rw [deliveryResult_other _ _ differs]
    exact laterFound

theorem replay_invariant (sends : List Bool) (next : Nat) (valid : StreamInvariant s)
    (found : s.session.subscribers.lookup channelId = some ⟨next,false,notified⟩) (chain : Chain s.history next deltas) :
    StreamInvariant (s.replay channelId sends deltas).1 := by
  induction deltas generalizing s sends next with
  | nil => exact valid
  | cons delta rest ih =>
    obtain ⟨starts,slice,more⟩ := chain
    have after : StreamInvariant (s.delivered channelId delta (sends.headD false)) :=
      delivered_invariant valid found rfl starts.symm slice
    simp only [StreamState.replay]
    split
    · rename_i sent
      refine ih sends.tail (delta.toSeq + 1) after ?_ more
      simp only [delivered]
      rw [deliveryResult_same found (by simp only [← starts]; exact slice.ordered),if_pos sent]
    · exact after

theorem gapDeliveryResult_terminal (state : SessionState V) {channelId : String} :
    (state.gapDeliveryResult channelId sent).terminal = state.terminal := by
  unfold gapDeliveryResult
  split <;> rfl

theorem gapDeliveryResult_lookup {state : SessionState V}
    (found : (state.gapDeliveryResult channelId sent).subscribers.lookup other = some subscriber) :
    ∃ before, state.subscribers.lookup other = some before ∧ before.gapped = subscriber.gapped ∧
      before.nextSeq = subscriber.nextSeq := by
  unfold gapDeliveryResult at found
  split at found
  · exact ⟨subscriber,found,rfl,rfl⟩
  · rename_i old present
    rcases insert_lookup found with ⟨rfl,rfl⟩ | ⟨_,before⟩
    · exact ⟨old,present,rfl,rfl⟩
    · exact ⟨subscriber,before,rfl,rfl⟩

theorem deliverGaps_invariant (gaps : List PendingGap) (sends : List Bool) (valid : StreamInvariant s) :
    StreamInvariant (s.deliverGaps sends gaps) := by
  induction gaps generalizing s sends with
  | nil => exact valid
  | cons gap rest ih =>
    have notice : Notice (.gap gap.expectedSeq gap.availableSeq) := True.intro
    have core : StreamCore (s.logged gap.channelId (.gap gap.expectedSeq gap.availableSeq) (sends.headD false)) :=
      notice_core valid.core notice
    refine ih sends.tail ⟨⟨?_,?_,core.exact,core.attempts⟩,?_⟩
    · simp only [gapDeliveryResult_terminal]
      exact core.position
    · simp only [gapDeliveryResult_terminal]
      exact core.window
    · intro channelId subscriber found whole
      obtain ⟨_,lookup,gapped,next⟩ := gapDeliveryResult_lookup found
      rw [← next]
      exact notice_waits (valid.waits channelId) notice _ lookup (gapped.trans whole)

theorem pendingFor_channels (subscribers : Table String Subscriber) :
    ((pendingFor subscribers delta).map PendingDelta.channelId).Nodup := by
  have owed : (pendingFor subscribers delta).map PendingDelta.channelId =
      ((entries subscribers).filter fun entry => Subscriber.owed entry.2 delta).map Prod.fst := by
    simp only [pendingFor]
    induction entries subscribers with
    | nil => rfl
    | cons entry rest ih =>
      by_cases due : Subscriber.owed entry.2 delta
      · simp [due,ih]
      · simp [due,ih]
  rw [owed]
  exact (entries_keys_nodup subscribers).sublist (List.filter_sublist.map _)

theorem pendingFor_member {subscribers : Table String Subscriber} (mem : delivery ∈ pendingFor subscribers delta) :
    delivery.delta = delta ∧ ∃ subscriber, subscribers.lookup delivery.channelId = some subscriber ∧
      subscriber.gapped = false ∧ subscriber.nextSeq = delta.fromSeq := by
  simp only [pendingFor,List.mem_filterMap] at mem
  obtain ⟨entry,present,produced⟩ := mem
  split at produced
  · rename_i owed
    cases produced
    simp only [Subscriber.owed,Bool.and_eq_true,Bool.not_eq_true',decide_eq_true_eq] at owed
    exact ⟨rfl,entry.2,entries_lookup present,owed.1,owed.2⟩
  · cases produced

theorem offered_whole (whole : (offered subscriber delta).gapped = false) : offered subscriber delta = subscriber := by
  unfold offered at whole ⊢
  split
  · rfl
  · rename_i behind
    simp [behind] at whole

theorem feed_empty (vendor : Vendor V) (state : SessionState V) :
    state.feed vendor [] = ({state with terminal := {state.terminal with queries := []},queryReplies := []},[]) := rfl

theorem feed_stream (vendor : Vendor V) (state : SessionState V) (nonempty : bytes ≠ []) :
    let delta : Delta := ⟨state.terminal.outputSeq + 1,state.terminal.outputSeq + bytes.length,bytes⟩
    (state.feed vendor bytes).2 = pendingFor state.subscribers delta ∧
    (state.feed vendor bytes).1.subscribers = mapValues (fun _ subscriber => offered subscriber delta) state.subscribers ∧
    (state.feed vendor bytes).1.terminal.outputSeq = state.terminal.outputSeq + bytes.length ∧
    ∀ kept ∈ (state.feed vendor bytes).1.terminal.retransmit, kept ∈ state.terminal.retransmit ∨ kept = delta := by
  obtain ⟨produced,position,_,window⟩ := feed_spec nonempty
  unfold SessionState.feed
  split
  · rename_i terminal empty
    rw [empty] at produced
    cases produced
  · rename_i equal
    rw [equal] at produced position window
    cases produced
    refine ⟨rfl,rfl,?_,?_⟩
    · dsimp only
      split <;> exact position
    · dsimp only
      split <;> exact window

theorem readerBatch_invariant (vendor : Vendor V) (batch : Bytes) (sends : List Bool) (valid : StreamInvariant s) :
    StreamInvariant (s.readerBatch vendor batch sends) := by
  obtain ⟨⟨position,window,exact,attempts⟩,waits⟩ := valid
  by_cases empty : batch = []
  · subst empty
    simp only [StreamState.readerBatch,feed_empty,StreamState.deliver,List.append_nil]
    exact deliverGaps_invariant _ _ ⟨⟨position,window,exact,attempts⟩,waits⟩
  · obtain ⟨pending,subscribers,fedPosition,fedWindow⟩ := feed_stream vendor s.session empty
    have slice := slice_fed position empty
    refine deliverGaps_invariant _ _ (deliver_invariant _ _ ⟨⟨?_,?_,?_,attempts⟩,?_⟩ ⟨?_,?_⟩)
    · simp only [fedPosition,position,List.length_append]
    · intro kept mem
      rcases fedWindow kept mem with old | rfl
      · exact slice_extends (window kept old) _
      · exact slice
    · intro channelId
      exact viewExact_extends (exact channelId) _
    · intro channelId subscriber found whole
      simp only [subscribers,lookup_mapValues,Option.map_eq_some_iff] at found
      obtain ⟨_,lookup,rfl⟩ := found
      have same := offered_whole whole
      rw [same] at whole ⊢
      exact waits channelId _ lookup whole
    · rw [pending]
      exact pendingFor_channels _
    · intro delivery mem
      rw [pending] at mem
      obtain ⟨same,subscriber,found,whole,next⟩ := pendingFor_member mem
      rw [same]
      refine ⟨slice,subscriber,?_,whole,next⟩
      simp only [subscribers,lookup_mapValues,found,Option.map_some]
      have kept : offered subscriber
          ⟨s.session.terminal.outputSeq + 1,s.session.terminal.outputSeq + batch.length,batch⟩ = subscriber := by
        simp only [offered,next,or_true,if_true]
      rw [kept]

theorem collect_chain (next : Nat) (window : ∀ delta ∈ queue, Slice history delta) (positive : 1 ≤ next)
    (collected : TerminalState.collect next queue = some (output,last)) : Chain history next output := by
  induction queue generalizing next output with
  | nil =>
    cases collected
    exact True.intro
  | cons delta rest ih =>
    simp only [TerminalState.collect] at collected
    split at collected
    · cases collected
    · simp only [Option.bind_eq_bind,Option.bind_eq_some_iff] at collected
      obtain ⟨⟨_,_⟩,collectedRest,equal⟩ := collected
      cases equal
      have slice := window _ List.mem_cons_self
      have first := slice.positive
      refine ⟨rfl,⟨positive,by simp only; omega,slice.within,?_⟩,?_⟩
      · simp only [slice.data,List.drop_drop]
        congr 1
        omega
      · exact ih _ (fun other mem => window other (List.mem_cons_of_mem _ mem)) (by simp only; omega) collectedRest

theorem deltasAfter_chain {terminal : TerminalState V} (window : ∀ delta ∈ terminal.retransmit, Slice history delta)
    (covered : terminal.deltasAfter seq = some output) : seq ≤ terminal.outputSeq ∧ Chain history (seq + 1) output := by
  unfold TerminalState.deltasAfter at covered
  split at covered
  · split at covered
    · rename_i equal
      cases covered
      exact ⟨Nat.le_of_eq equal,True.intro⟩
    · cases covered
  · refine ⟨by omega,?_⟩
    split at covered
    · cases covered
    · simp only [Option.bind_eq_bind,Option.bind_eq_some_iff] at covered
      obtain ⟨⟨_,_⟩,found,checked⟩ := covered
      split at checked
      · cases checked
        refine collect_chain _ ?_ (by omega) found
        intro delta mem
        exact window _ (List.dropWhile_sublist _ |>.mem mem)
      · cases checked

theorem fromRing_chain {state : SessionState V} (position : state.terminal.outputSeq = history.length)
    (covered : state.fromRing (ringOf history answers) seq = some output) :
    seq ≤ state.terminal.outputSeq ∧ Chain history (seq + 1) output := by
  simp only [fromRing,ringOf] at covered
  split at covered
  · split at covered
    · rename_i answered
      split at answered
      · cases answered
        split at covered
        · cases covered
          refine ⟨by omega,rfl,⟨by simp,by simp only; omega,by simp [position],?_⟩,True.intro⟩
          simp
        · cases covered
      · cases answered
    · cases covered
  · cases covered

theorem replayFrom_chain {state : SessionState V} (position : state.terminal.outputSeq = history.length)
    (window : ∀ delta ∈ state.terminal.retransmit, Slice history delta)
    (covered : state.replayFrom (ringOf history answers) seq = some output) :
    seq ≤ state.terminal.outputSeq ∧ Chain history (seq + 1) output := by
  unfold replayFrom at covered
  cases found : state.terminal.deltasAfter seq with
  | some deltas =>
    rw [found] at covered
    cases covered
    exact deltasAfter_chain window found
  | none =>
    rw [found] at covered
    exact fromRing_chain position covered

theorem takeHolder_terminal (state : SessionState V) (request : AttachRequest) :
    (state.takeHolder request).1.terminal = state.terminal := by
  unfold takeHolder
  split
  · rfl
  · split
    · simp only [installHolder,dropRebound]
      split <;> rfl
    · rfl

theorem takeHolder_lookup {state : SessionState V}
    (found : (state.takeHolder request).1.subscribers.lookup channelId = some subscriber) :
    state.subscribers.lookup channelId = some subscriber := by
  have erased : ∀ gone, (state.subscribers.erase gone).lookup channelId = some subscriber →
      state.subscribers.lookup channelId = some subscriber := by
    intro gone lookup
    by_cases same : channelId = gone
    · subst same
      simp at lookup
    · rwa [AList.lookup_erase_ne same] at lookup
  unfold takeHolder at found
  split at found
  · exact found
  · split at found
    · simp only [installHolder,dropRebound] at found
      split at found
      · exact erased _ found
      · exact found
    · exact erased _ found

theorem attach_stream {state session : SessionState V} (position : state.terminal.outputSeq = history.length)
    (window : ∀ delta ∈ state.terminal.retransmit, Slice history delta)
    (granted : state.attach vendor request (ringOf history answers) = (session,.ok outcome)) :
    session.terminal = state.terminal ∧
    session.subscribers.lookup request.channelId = some ⟨outcome.snapshotSeq + 1,false,false⟩ ∧
    (∀ other subscriber, other ≠ request.channelId → session.subscribers.lookup other = some subscriber →
      state.subscribers.lookup other = some subscriber) ∧
    outcome.snapshotSeq ≤ state.terminal.outputSeq ∧ Chain history (outcome.snapshotSeq + 1) outcome.replay := by
  have terminal := takeHolder_terminal state request
  have others : ∀ seq other subscriber, other ≠ request.channelId →
      ((state.takeHolder request).1.subscribe request.channelId seq).subscribers.lookup other = some subscriber →
      state.subscribers.lookup other = some subscriber := by
    intro seq other subscriber differs found
    simp only [subscribe] at found
    rw [AList.lookup_insert_ne differs] at found
    exact takeHolder_lookup found
  unfold SessionState.attach at granted
  split at granted
  · cases granted
  · simp only at granted
    split at granted
    · rename_i resumed
      cases granted
      simp only [SessionState.resumed,Option.bind_eq_some_iff,Option.map_eq_some_iff] at resumed
      obtain ⟨_,_,_,covered,equal⟩ := resumed
      cases equal
      obtain ⟨within,chain⟩ := replayFrom_chain (terminal ▸ position) (terminal ▸ window) covered
      exact ⟨terminal,by simp [subscribe],others _,terminal ▸ within,chain⟩
    · cases granted
      refine ⟨terminal,by simp [subscribe],others _,?_,True.intro⟩
      simp [terminal]

theorem attach_error {state session : SessionState V}
    (refused : state.attach vendor request ring = (session,.error error)) : session = state := by
  unfold SessionState.attach at refused
  split at refused
  · cases refused
    rfl
  · simp only at refused
    split at refused <;> cases refused

theorem attached_core (core : StreamCore s) (within : snapshotSeq ≤ s.history.length) :
    StreamCore (s.logged channelId (.attached snapshotSeq epoch snapshot rows cols) sent) := by
  refine ⟨core.position,core.window,?_,attemptsGood_append core.attempts fun _ equal => nomatch equal⟩
  intro other
  by_cases same : channelId = other
  · subst same
    simp only [StreamState.logged]
    rw [viewOf_same]
    cases sent with
    | true =>
      intro seq attached
      cases attached
      exact ⟨by simpa [ChannelView.after] using within,by simp [ChannelView.after]⟩
    | false => exact core.exact channelId
  · simp only [StreamState.logged]
    rw [viewOf_other same]
    exact core.exact other

theorem attached_waits (waits : Waits s other) (differs : channelId ≠ other) :
    Waits (s.logged channelId (.attached snapshotSeq epoch snapshot rows cols) sent) other := by
  intro subscriber found whole
  simp only [StreamState.logged]
  rw [viewOf_other differs]
  exact waits _ found whole

theorem attached_expects (s : StreamState V) :
    Expects (viewOf (s.logged channelId (.attached snapshotSeq epoch snapshot rows cols) true).attempts channelId)
      (snapshotSeq + 1) := by
  simp only [StreamState.logged]
  rw [viewOf_same]
  exact ⟨snapshotSeq,rfl,rfl,by simp [ChannelView.after]⟩

theorem told_invariant (core : StreamCore s) (waits : ∀ other, request.channelId ≠ other → Waits s other)
    (found : s.session.subscribers.lookup request.channelId = some ⟨outcome.snapshotSeq + 1,false,false⟩)
    (within : outcome.snapshotSeq ≤ s.history.length) (chain : Chain s.history (outcome.snapshotSeq + 1) outcome.replay) :
    StreamInvariant (tell s request rows cols outcome sends) := by
  unfold StreamState.tell
  have logged : ∀ sent, StreamCore (s.logged request.channelId
      (.attached outcome.snapshotSeq outcome.holderEpoch outcome.ansiSnapshot rows cols) sent) :=
    fun _ => attached_core core within
  split
  · rename_i sent
    refine deliverGaps_invariant _ _ (replay_invariant _ _ ⟨logged _,?_⟩ found chain)
    intro other subscriber lookup whole
    by_cases same : request.channelId = other
    · subst same
      have equal : subscriber = ⟨outcome.snapshotSeq + 1,false,false⟩ := Option.some.inj (lookup.symm.trans found)
      subst equal
      rw [sent]
      exact attached_expects s
    · exact attached_waits (waits other same) same _ lookup whole
  · have core := logged (sends.headD false)
    refine ⟨{core with},?_⟩
    intro other subscriber lookup whole
    simp only [StreamState.logged,removeSubscriber] at lookup
    by_cases same : request.channelId = other
    · subst same
      simp at lookup
    · rw [AList.lookup_erase_ne (Ne.symm same)] at lookup
      exact attached_waits (waits other same) same _ lookup whole

theorem announce_invariant (core : StreamCore s) (waits : ∀ other, request.channelId ≠ other → Waits s other)
    (found : s.session.subscribers.lookup request.channelId = some ⟨outcome.snapshotSeq + 1,false,false⟩)
    (within : outcome.snapshotSeq ≤ s.history.length) (chain : Chain s.history (outcome.snapshotSeq + 1) outcome.replay) :
    StreamInvariant (s.announce request rows cols outcome sends) := by
  unfold StreamState.announce
  split
  · rename_i target _
    have notice : Notice (.detached target.holderEpoch) := True.intro
    exact told_invariant (notice_core core notice) (fun other differs => notice_waits (waits other differs) notice)
      found within chain
  · exact told_invariant core waits found within chain

theorem refused_invariant (valid : StreamInvariant s) : StreamInvariant (s.logged channelId (.refused error) sent) :=
  ⟨notice_core valid.core True.intro,fun other => notice_waits (valid.waits other) True.intro⟩

theorem resize_terminal_fields (terminal : TerminalState V) :
    (terminal.resize vendor rows cols).outputSeq = terminal.outputSeq ∧
      (terminal.resize vendor rows cols).retransmit = terminal.retransmit := by
  unfold TerminalState.resize
  split
  · exact ⟨rfl,rfl⟩
  · exact ⟨rfl,rfl⟩

theorem resize_invariant (vendor : Vendor V) (rows cols : UInt16) (valid : StreamInvariant s) :
    StreamInvariant {s with session := {s.session with terminal := s.session.terminal.resize vendor rows cols}} := by
  obtain ⟨position,window⟩ := resize_terminal_fields _
  obtain ⟨core,waits⟩ := valid
  exact ⟨⟨position.trans core.position,fun _ mem => core.window _ (window ▸ mem),core.exact,core.attempts⟩,waits⟩

theorem attachNow_invariant {call : StreamState.AttachCall} (valid : StreamInvariant s) :
    StreamInvariant (s.attachNow vendor call) := by
  have sized := resize_invariant vendor call.rows call.cols valid
  unfold StreamState.attachNow
  dsimp only
  split
  · rename_i session _ granted
    obtain ⟨terminal,found,others,within,chain⟩ := attach_stream sized.core.position sized.core.window granted
    refine announce_invariant ⟨?_,?_,sized.core.exact,sized.core.attempts⟩ ?_ found ?_ chain
    · rw [terminal]
      exact sized.core.position
    · rw [terminal]
      exact sized.core.window
    · intro other differs subscriber lookup whole
      exact sized.waits other _ (others other _ (Ne.symm differs) lookup) whole
    · exact Nat.le_trans within (Nat.le_of_eq sized.core.position)
  · rename_i refused
    have same := attach_error refused
    subst same
    exact refused_invariant sized

theorem deviceAttach_invariant (valid : StreamInvariant s) :
    StreamInvariant (s.deviceAttach vendor call) := by
  unfold StreamState.deviceAttach
  split
  · exact refused_invariant valid
  · split
    · split
      · exact attachNow_invariant valid
      · exact refused_invariant valid
    · exact attachNow_invariant valid

theorem streamStep_invariant (valid : StreamInvariant s) : StreamInvariant (streamStep vendor s action) := by
  cases action with
  | readerBatch batch sends => exact readerBatch_invariant _ _ _ valid
  | deviceAttach call => exact deviceAttach_invariant valid
  | resize rows cols => exact resize_invariant _ _ _ valid
  | clearSubscribers =>
    refine ⟨⟨valid.core.position,valid.core.window,valid.core.exact,valid.core.attempts⟩,?_⟩
    intro channelId subscriber found
    cases found

theorem streamStart_invariant (terminal : TerminalState V) : StreamInvariant (streamStart terminal history) := by
  refine ⟨⟨rfl,?_,?_,?_⟩,?_⟩
  · intro delta mem
    cases mem
  · intro channelId snapshotSeq attached
    cases attached
  · intro before attempt after equal
    simp [streamStart] at equal
  · intro channelId subscriber found
    cases found

theorem streamRun_invariant (valid : StreamInvariant s) :
    StreamInvariant (streamRun vendor s actions) := by
  induction actions generalizing s with
  | nil => exact valid
  | cons action rest ih => exact ih (streamStep_invariant valid)

theorem channel_stream_exact (vendor : Vendor V) (terminal : TerminalState V) (history : Bytes) (actions : List StreamAction) :
    let s := streamRun vendor (streamStart terminal history) actions
    (∀ channelId snapshotSeq, (viewOf s.attempts channelId).snapshot = some snapshotSeq →
      snapshotSeq + (viewOf s.attempts channelId).received.length ≤ s.history.length ∧
      (viewOf s.attempts channelId).received =
        (s.history.drop snapshotSeq).take (viewOf s.attempts channelId).received.length) ∧
    (∀ before attempt after delta, s.attempts = before ++ attempt :: after → attempt.frame = .output delta →
      ∃ snapshotSeq, (viewOf before attempt.channelId).snapshot = some snapshotSeq ∧
        (viewOf before attempt.channelId).failed = false ∧
        delta.fromSeq = snapshotSeq + (viewOf before attempt.channelId).received.length + 1) := by
  intro s
  have valid : StreamInvariant s := streamRun_invariant (streamStart_invariant terminal)
  exact ⟨valid.core.exact,fun _ _ after _ equal => valid.core.attempts _ _ after equal _⟩

end Coflux.Sessiond
