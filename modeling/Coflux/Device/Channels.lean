import Coflux.Foundation.Machine
import Coflux.Sessiond.SessionState

namespace Coflux.Device
open FiniteMap StepMachine Sessiond
open Option (bind_some map_eq_some_iff)

-- Each channel has a queue for ordinary frames and one slot for a gap notice; a stream whose output
-- did not fit is discarded until its client attaches again.

def channelQueueRecords : Nat := 256
def maxDeviceFrameBytes : Nat := 30 * 1024 * 1024
def channelQueueBytes : Nat := maxDeviceFrameBytes + 2 * 1024 * 1024
def globalChannelQueueBytes : Nat := 4 * channelQueueBytes
def deviceChannelLimit : Nat := 256
def channelGapFrameBytes : Nat := 4 * 1024

structure StreamCursor where
  nextSeq : Option Nat
  gapped : Bool

inductive Payload where
  | attached (sessionId : String) (snapshotSeq : Nat)
  | detached (sessionId : String)
  | output (sessionId : String) (fromSeq toSeq dataLength : Nat)
  | gap (sessionId : String) (expectedSeq availableSeq : Nat)
  | other

structure Frame where
  payload : Payload
  length : Nat

structure AggregateQueueBudget where
  (regularPending regularLimit gapPending gapLimit : Nat)

-- Both halves of a channel; received is false once the receiver has been dropped.
structure ChannelSink where
  (regular priority : List Frame)
  pendingBytes : Nat
  (closed received : Bool)
  (recordLimit byteLimit : Nat)

-- History: a cursor becomes gapped, and the slot takes a gap notice.
inductive StreamEvent where
  | marked (sessionId : String)
  | gapAccepted (sessionId : String)
deriving DecidableEq

structure ChannelEntry where
  sink : ChannelSink
  streams : Table String StreamCursor
  log : List StreamEvent

structure ChannelLimits where
  (records bytes aggregateBytes channels : Nat)

def productionLimits : ChannelLimits := ⟨channelQueueRecords,channelQueueBytes,globalChannelQueueBytes,deviceChannelLimit⟩

def reserveBytes (pending length limit : Nat) : Option Nat :=
  if length > limit - pending then none else some (pending + length)

def saturatingAdd (a b : Nat) : Nat := min (a + b) u64Max

namespace ChannelSink

def pair (limits : ChannelLimits) : ChannelSink := ⟨[],[],0,false,true,limits.records,limits.bytes⟩

section
variable (sink : ChannelSink)

section
variable (budget : AggregateQueueBudget)

def trySend (frame : Frame) :
    Option (ChannelSink × AggregateQueueBudget) :=
  if sink.closed then none
  else (reserveBytes sink.pendingBytes frame.length sink.byteLimit).bind fun bytes =>
    (reserveBytes budget.regularPending frame.length budget.regularLimit).bind fun pending =>
      if sink.received ∧ sink.regular.length < sink.recordLimit then
        some ({sink with regular := sink.regular ++ [frame],pendingBytes := bytes},{budget with regularPending := pending})
      else none

def trySendGap (frame : Frame) :
    Option (ChannelSink × AggregateQueueBudget) :=
  if sink.closed ∨ frame.length > channelGapFrameBytes then none
  else (reserveBytes budget.gapPending frame.length budget.gapLimit).bind fun pending =>
    if sink.received ∧ sink.priority = [] then
      some ({sink with priority := [frame]},{budget with gapPending := pending})
    else none

def close : ChannelSink := {sink with closed := true}

-- Ordinary frames go before a gap, which must not overtake what it follows.
def recv : Option (ChannelSink × AggregateQueueBudget) :=
  match sink.regular with
  | frame :: rest =>
    some ({sink with regular := rest,pendingBytes := sink.pendingBytes - frame.length},
      {budget with regularPending := budget.regularPending - frame.length})
  | [] =>
    match sink.priority with
    | frame :: rest => some ({sink with priority := rest},{budget with gapPending := budget.gapPending - frame.length})
    | [] => none

def queuedBytes (frames : List Frame) : Nat := (frames.map Frame.length).sum

def dropReceiver : ChannelSink × AggregateQueueBudget :=
  ({sink with regular := [],priority := [],pendingBytes := sink.pendingBytes - queuedBytes sink.regular,received := false},
    {budget with
      regularPending := budget.regularPending - queuedBytes sink.regular
      gapPending := budget.gapPending - queuedBytes sink.priority})

end

end

end ChannelSink

-- A removed channel lingers until its receiver is dropped. sweep is what supervisor_connected still
-- has to visit under the lock of the table.
structure Channels where
  entries : Table String ChannelEntry
  lingering : List ChannelSink
  budget : AggregateQueueBudget
  sweep : List (String × String)

inductive Permission where
  | granted
  | missing
  | revoked

inductive ChannelAction where
  | open (channelId : String)
  | close (channelId : String)
  | deliver (channelId : String) (payload : Payload) (length : Nat) (permission : Permission)
  | send (channelId : String) (length : Nat)
  | respond (channelId : String) (length : Nat)
  | sessionExited (sessionId : String)
  | supervisorConnected (order : List (String × List String))
  | sweep
  | recv (channelId : String)
  | dropReceiver (channelId : String)
  | reap (index : Nat)

namespace ChannelEntry

section
variable (entry : ChannelEntry)

def cursor (sessionId : String) : StreamCursor := (entry.streams.lookup sessionId).getD ⟨none,false⟩

def gapped (sessionId : String) : Bool := (entry.cursor sessionId).gapped

def setCursor (sessionId : String) (cursor : StreamCursor) : ChannelEntry :=
  {entry with streams := entry.streams.insert sessionId cursor}

-- Marks the stream and reports it. Whether the slot took the notice is not looked at.
def discard (budget : AggregateQueueBudget) (sessionId : String) (notice : Frame) :
    ChannelEntry × AggregateQueueBudget :=
  let marked := entry.setCursor sessionId {entry.cursor sessionId with gapped := true}
  let log := if entry.gapped sessionId then entry.log else entry.log ++ [.marked sessionId]
  match entry.sink.trySendGap budget notice with
  | some (sink,budget) => ({marked with sink := sink,log := log ++ [.gapAccepted sessionId]},budget)
  | none => ({marked with log := log},budget)

def contiguous (sessionId : String) (fromSeq toSeq dataLength : Nat) : Bool :=
  dataLength ≠ 0 && fromSeq > 0 && ((entry.cursor sessionId).nextSeq.all fun next => next = fromSeq) &&
    toSeq = saturatingAdd fromSeq (dataLength - 1)

end

end ChannelEntry

namespace Channels

def start (limits : ChannelLimits) : Channels :=
  ⟨∅,[],⟨0,limits.aggregateBytes,0,limits.channels * channelGapFrameBytes⟩,[]⟩

section
variable (s : Channels) (channelId : String)

def setEntry (entry : ChannelEntry) (budget : AggregateQueueBudget) : Channels :=
  {s with entries := s.entries.insert channelId entry,budget := budget}

def setSink (entry : ChannelEntry) (next : ChannelSink × AggregateQueueBudget) : Channels :=
  s.setEntry channelId {entry with sink := next.1} next.2

def remove : Channels :=
  match s.entries.lookup channelId with
  | none => s
  | some entry =>
    {s with
      entries := s.entries.erase channelId
      lingering := if entry.sink.received then s.lingering ++ [entry.sink.close] else s.lingering}

def sendOrRemove (entry : ChannelEntry) (frame : Frame) : Channels :=
  match entry.sink.trySend s.budget frame with
  | some next => s.setSink channelId entry next
  | none => s.remove channelId

def discard (entry : ChannelEntry) (sessionId : String) (notice : Frame) : Channels :=
  s.setEntry channelId (entry.discard s.budget sessionId notice).1 (entry.discard s.budget sessionId notice).2

end

variable (encodedLength : String → Payload → Nat)

def notice (channelId sessionId : String) (expectedSeq availableSeq : Nat) : Frame :=
  ⟨.gap sessionId expectedSeq availableSeq,encodedLength channelId (.gap sessionId expectedSeq availableSeq)⟩

section
variable (s : Channels)

def deliverOutput (channelId : String) (entry : ChannelEntry) (sessionId : String)
    (fromSeq toSeq dataLength length : Nat) : Channels :=
  let discarded := s.discard channelId entry sessionId
    (notice encodedLength channelId sessionId ((entry.cursor sessionId).nextSeq.getD fromSeq) fromSeq)
  if entry.gapped sessionId then s
  else if entry.contiguous sessionId fromSeq toSeq dataLength then
    match entry.sink.trySend s.budget ⟨.output sessionId fromSeq toSeq dataLength,length⟩ with
    | some (sink,budget) =>
      s.setEntry channelId ({entry with sink := sink}.setCursor sessionId ⟨some (saturatingAdd toSeq 1),false⟩) budget
    | none => discarded
  else discarded

-- deliver_from_sessiond behind the tests of the channel's principal.
def deliver (channelId : String) (entry : ChannelEntry) (payload : Payload) (length : Nat) : Channels :=
  match payload with
  | .attached sessionId snapshotSeq =>
    match entry.sink.trySend s.budget ⟨payload,length⟩ with
    | some (sink,budget) =>
      s.setEntry channelId ({entry with sink := sink}.setCursor sessionId ⟨some (saturatingAdd snapshotSeq 1),false⟩) budget
    | none => s.remove channelId
  | .detached sessionId =>
    let detached := {entry with streams := entry.streams.erase sessionId}
    (s.setEntry channelId detached s.budget).sendOrRemove channelId detached ⟨payload,length⟩
  | .output sessionId fromSeq toSeq dataLength => s.deliverOutput encodedLength channelId entry sessionId fromSeq toSeq dataLength length
  | .gap sessionId _ _ => s.discard channelId entry sessionId ⟨payload,length⟩
  | .other => s.sendOrRemove channelId entry ⟨payload,length⟩

def sweepStream (channelId sessionId : String) : Channels :=
  match s.entries.lookup channelId with
  | none => s
  | some entry =>
    let expectedSeq := (entry.cursor sessionId).nextSeq.getD 1
    s.discard channelId entry sessionId (notice encodedLength channelId sessionId expectedSeq expectedSeq)

def visits (order : List (String × List String)) : Option (List (String × String)) :=
  if (order.map Prod.fst).isPerm s.entries.keys ∧
      order.all fun visit => visit.2.isPerm ((s.entries.lookup visit.1).elim [] fun entry => entry.streams.keys) then
    some (order.flatMap fun visit => visit.2.map fun sessionId => (visit.1,sessionId))
  else none

def sessionExited (sessionId : String) : Channels :=
  {s with entries := mapValues (fun _ entry => {entry with streams := entry.streams.erase sessionId}) s.entries}

end

end Channels

section
variable (limits : ChannelLimits) (encodedLength : String → Payload → Nat)

def channelStep (s : Channels) : ChannelAction → Option Channels
  | .recv channelId =>
    (s.entries.lookup channelId).bind fun entry => (entry.sink.recv s.budget).map (s.setSink channelId entry)
  | .dropReceiver channelId =>
    (s.entries.lookup channelId).map fun entry => s.setSink channelId entry (entry.sink.dropReceiver s.budget)
  | .reap index => (s.lingering[index]?).map fun sink =>
    {s with lingering := s.lingering.eraseIdx index,budget := (sink.dropReceiver s.budget).2}
  | .sweep =>
    match s.sweep with
    | [] => none
    | (channelId,sessionId) :: rest => some {s.sweepStream encodedLength channelId sessionId with sweep := rest}
  | action =>
    if s.sweep ≠ [] then none
    else match action with
      | .open channelId =>
        if channelId ∈ s.entries ∨ size s.entries ≥ limits.channels then none
        else some (s.setEntry channelId ⟨.pair limits,∅,[]⟩ s.budget)
      | .close channelId => some (s.remove channelId)
      | .deliver channelId payload length permission =>
        (s.entries.lookup channelId).map fun entry =>
          match permission with
          | .revoked => s.remove channelId
          | .missing => s
          | .granted => s.deliver encodedLength channelId entry payload length
      | .send channelId length => (s.entries.lookup channelId).map fun entry =>
        ((entry.sink.trySend s.budget ⟨.other,length⟩).map (s.setSink channelId entry)).getD s
      | .respond channelId length => (s.entries.lookup channelId).map fun entry =>
        s.sendOrRemove channelId entry ⟨.other,length⟩
      | .sessionExited sessionId => some (s.sessionExited sessionId)
      | .supervisorConnected order => (s.visits order).map fun sweep => {s with sweep := sweep}
      | _ => none

def channelMachine : Machine Channels ChannelAction :=
  ⟨channelStep limits encodedLength⟩

end

-- Since the stream was last marked, the slot has taken a notice for it.
def AcceptedSince (log : List StreamEvent) (sessionId : String) : Prop :=
  ∃ before after, log = before ++ .marked sessionId :: after ∧ .marked sessionId ∉ after ∧ .gapAccepted sessionId ∈ after

def GapQueued (sink : ChannelSink) (sessionId : String) : Prop :=
  ∃ expectedSeq availableSeq length, ⟨.gap sessionId expectedSeq availableSeq,length⟩ ∈ sink.priority

-- Every stream that is being discarded has been announced, or is about to be.
def Announced (s : Channels) : Prop :=
  ∀ channelId entry sessionId, s.entries.lookup channelId = some entry → entry.gapped sessionId = true →
    AcceptedSince entry.log sessionId ∨ GapQueued entry.sink sessionId

structure RegularRoom (sink : ChannelSink) (budget : AggregateQueueBudget) (length : Nat) : Prop where
  open_ : sink.closed = false
  own : length ≤ sink.byteLimit - sink.pendingBytes
  shared : length ≤ budget.regularLimit - budget.regularPending
  received : sink.received = true
  records : sink.regular.length < sink.recordLimit

structure GapRoom (sink : ChannelSink) (budget : AggregateQueueBudget) (length : Nat) : Prop where
  open_ : sink.closed = false
  small : length ≤ channelGapFrameBytes
  shared : length ≤ budget.gapLimit - budget.gapPending
  received : sink.received = true
  free : sink.priority = []

def Reportable (encodedLength : String → Payload → Nat) (s : Channels) : ChannelAction → Prop
  | .deliver channelId (.output sessionId fromSeq toSeq dataLength) length .granted =>
    ∀ entry, s.entries.lookup channelId = some entry → entry.gapped sessionId = false →
      (entry.contiguous sessionId fromSeq toSeq dataLength = true ∧ RegularRoom entry.sink s.budget length) ∨
      GapRoom entry.sink s.budget (Channels.notice encodedLength channelId sessionId
        ((entry.cursor sessionId).nextSeq.getD fromSeq) fromSeq).length
  | .deliver channelId (.gap sessionId _ _) length .granted =>
    ∀ entry, s.entries.lookup channelId = some entry → entry.gapped sessionId = false → GapRoom entry.sink s.budget length
  | .sweep => ∀ channelId sessionId rest entry, s.sweep = (channelId,sessionId) :: rest →
      s.entries.lookup channelId = some entry → entry.gapped sessionId = false →
        GapRoom entry.sink s.budget (Channels.notice encodedLength channelId sessionId
          ((entry.cursor sessionId).nextSeq.getD 1) ((entry.cursor sessionId).nextSeq.getD 1)).length
  | _ => True

section Streams
variable {entry : ChannelEntry}

theorem cursor_setCursor_same : (entry.setCursor sessionId cursor).cursor sessionId = cursor := by
  simp [ChannelEntry.cursor,ChannelEntry.setCursor]

theorem cursor_setCursor_other (differs : other ≠ sessionId) :
    (entry.setCursor sessionId cursor).cursor other = entry.cursor other := by
  simp only [ChannelEntry.cursor,ChannelEntry.setCursor,AList.lookup_insert_ne differs]

theorem trySend_room (frame : Frame) (room : RegularRoom sink budget frame.length) :
    ∃ next, sink.trySend budget frame = some next := by
  obtain ⟨closed,own,shared,received,records⟩ := room
  simp only [ChannelSink.trySend,closed,reserveBytes,if_neg (Nat.not_lt.mpr own),if_neg (Nat.not_lt.mpr shared),
    Bool.false_eq_true,if_false,bind_some,received,true_and,if_pos records]
  exact ⟨_,rfl⟩

theorem trySendGap_room (room : GapRoom sink budget frame.length) : ∃ next, sink.trySendGap budget frame = some next := by
  obtain ⟨closed,_,shared,received,free⟩ := room
  have fits : ¬(sink.closed = true ∨ frame.length > channelGapFrameBytes) := by
    rw [closed]
    rintro (shut | large)
    · cases shut
    · omega
  simp only [ChannelSink.trySendGap,if_neg fits,reserveBytes,if_neg (Nat.not_lt.mpr shared),bind_some,received,free,
    and_self,if_true]
  exact ⟨_,rfl⟩

theorem acceptedSince_append (accepted : AcceptedSince log sessionId)
    (others : StreamEvent.marked sessionId ∉ more) : AcceptedSince (log ++ more) sessionId := by
  obtain ⟨before,after,rfl,fresh,taken⟩ := accepted
  refine ⟨before,after ++ more,by simp,?_,List.mem_append_left _ taken⟩
  intro marked
  rcases List.mem_append.mp marked with old | new
  · exact fresh old
  · exact others new

theorem acceptedSince_now : AcceptedSince (log ++ [.marked sessionId] ++ [.gapAccepted sessionId]) sessionId :=
  ⟨log,[.gapAccepted sessionId],by simp,by simp,by simp⟩

def Told (entry : ChannelEntry) : Prop := ∀ sessionId, entry.gapped sessionId = true → AcceptedSince entry.log sessionId

theorem told_fresh {next : ChannelEntry} (told : Told entry) (log : next.log = entry.log) (fresh : cursor.gapped = false)
    (streams : next.streams = entry.streams) : Told (next.setCursor sessionId cursor) := by
  intro other gapped
  show AcceptedSince next.log other
  rw [log]
  by_cases same : other = sessionId
  · rw [same,ChannelEntry.gapped,cursor_setCursor_same,fresh] at gapped
    cases gapped
  · rw [ChannelEntry.gapped,cursor_setCursor_other same,ChannelEntry.cursor,streams] at gapped
    exact told _ gapped

theorem told_erase (told : Told entry) (sessionId : String) : Told {entry with streams := entry.streams.erase sessionId} := by
  intro other gapped
  by_cases same : other = sessionId
  · rw [same,ChannelEntry.gapped,ChannelEntry.cursor,AList.lookup_erase] at gapped
    cases gapped
  · rw [ChannelEntry.gapped,ChannelEntry.cursor,AList.lookup_erase_ne same] at gapped
    exact told _ gapped

theorem told_discard (told : Told entry) (room : entry.gapped sessionId = false → GapRoom entry.sink budget notice.length) :
    Told (entry.discard budget sessionId notice).1 := by
  have streams : (entry.discard budget sessionId notice).1.streams =
      entry.streams.insert sessionId {entry.cursor sessionId with gapped := true} := by
    unfold ChannelEntry.discard
    dsimp only
    split <;> rfl
  have elsewhere : ∀ other, other ≠ sessionId → (entry.discard budget sessionId notice).1.gapped other = entry.gapped other := by
    intro other differs
    rw [ChannelEntry.gapped,ChannelEntry.cursor,streams,AList.lookup_insert_ne differs]
    rfl
  intro other gapped
  cases marked : entry.gapped sessionId with
  | true =>
    -- The stream was marked before, so only a notice may have been added.
    have old : AcceptedSince entry.log other := by
      by_cases same : other = sessionId
      · exact told _ (same ▸ marked)
      · exact told _ (elsewhere _ same ▸ gapped)
    unfold ChannelEntry.discard
    dsimp only
    rw [marked,if_pos rfl]
    split
    · exact acceptedSince_append old (by simp)
    · exact old
  | false =>
    obtain ⟨⟨_,_⟩,accepted⟩ := trySendGap_room (room marked)
    unfold ChannelEntry.discard
    dsimp only
    rw [marked,accepted,if_neg (by decide)]
    by_cases same : other = sessionId
    · rw [same]
      exact acceptedSince_now
    · have old := told _ (elsewhere _ same ▸ gapped)
      refine acceptedSince_append (acceptedSince_append old ?_) (by simp)
      simpa using fun equal => same equal

end Streams

section Run
def AllTold (s : Channels) : Prop := ∀ channelId entry, s.entries.lookup channelId = some entry → Told entry

theorem allTold_setEntry (all : AllTold s) (told : Told entry) : AllTold (s.setEntry channelId entry budget) :=
  Each.insert all told

theorem allTold_remove (all : AllTold s) {channelId : String} : AllTold (s.remove channelId) := by
  unfold Channels.remove
  split
  · exact all
  · exact Each.erase all

theorem allTold_sendOrRemove (all : AllTold s) (told : Told entry) : AllTold (s.sendOrRemove channelId entry frame) := by
  unfold Channels.sendOrRemove
  split
  · exact allTold_setEntry all told
  · exact allTold_remove all

theorem deliver_allTold (all : AllTold s) (present : s.entries.lookup channelId = some entry)
    (reportable : Reportable encodedLength s (.deliver channelId payload length .granted)) :
    AllTold (s.deliver encodedLength channelId entry payload length) := by
  have told := all _ _ present
  cases payload with
  | attached sessionId snapshotSeq =>
    simp only [Channels.deliver]
    split
    · exact allTold_setEntry all (told_fresh told rfl rfl rfl)
    · exact allTold_remove all
  | detached sessionId =>
    have erased := told_erase told sessionId
    exact allTold_sendOrRemove (allTold_setEntry all erased) erased
  | output sessionId fromSeq toSeq dataLength =>
    simp only [Channels.deliver,Channels.deliverOutput]
    split
    · exact all
    · rename_i ungapped
      have ungapped : entry.gapped sessionId = false := eq_false_of_ne_true ungapped
      rcases reportable entry present ungapped with ⟨contiguous,room⟩ | room
      · obtain ⟨⟨_,_⟩,taken⟩ := trySend_room ⟨.output sessionId fromSeq toSeq dataLength,length⟩ room
        rw [if_pos contiguous,taken]
        exact allTold_setEntry all (told_fresh told rfl rfl rfl)
      · have discarded : AllTold (s.discard channelId entry sessionId (Channels.notice encodedLength channelId sessionId
            ((entry.cursor sessionId).nextSeq.getD fromSeq) fromSeq)) :=
          allTold_setEntry all (told_discard told fun _ => room)
        split
        · split
          · exact allTold_setEntry all (told_fresh told rfl rfl rfl)
          · exact discarded
        · exact discarded
  | gap sessionId expectedSeq availableSeq =>
    exact allTold_setEntry all (told_discard told fun ungapped => reportable _ present ungapped)
  | other => exact allTold_sendOrRemove all told

theorem channelStep_told (s : Channels) (action : ChannelAction) (next : Channels) (all : AllTold s)
    (reportable : Reportable encodedLength s action) (step : channelStep limits encodedLength s action = some next) :
    AllTold next := by
  cases action with
  | recv channelId =>
    obtain ⟨entry,present,step⟩ := Option.bind_eq_some_iff.mp step
    obtain ⟨after,_,rfl⟩ := map_eq_some_iff.mp step
    exact allTold_setEntry all (all _ entry present)
  | dropReceiver channelId =>
    obtain ⟨entry,present,rfl⟩ := map_eq_some_iff.mp step
    exact allTold_setEntry all (all _ entry present)
  | reap index =>
    obtain ⟨_,_,rfl⟩ := map_eq_some_iff.mp step
    exact all
  | sweep =>
    simp only [channelStep] at step
    split at step
    · cases step
    · rename_i channelId sessionId rest waiting
      cases step
      suffices swept : AllTold (s.sweepStream encodedLength channelId sessionId) from swept
      unfold Channels.sweepStream
      split
      · exact all
      · rename_i entry present
        exact allTold_setEntry all (told_discard (all _ _ present) fun ungapped =>
          reportable channelId sessionId rest entry waiting present ungapped)
  | «open» channelId =>
    simp only [channelStep] at step
    split at step
    · cases step
    · split at step
      · cases step
      · cases step
        refine allTold_setEntry all ?_
        intro sessionId gapped
        cases gapped
  | close channelId =>
    simp only [channelStep] at step
    split at step
    · cases step
    · cases step
      exact allTold_remove all
  | deliver channelId payload length permission =>
    simp only [channelStep] at step
    split at step
    · cases step
    · obtain ⟨entry,present,rfl⟩ := map_eq_some_iff.mp step
      cases permission with
      | revoked => exact allTold_remove all
      | missing => exact all
      | granted => exact deliver_allTold all present reportable
  | send channelId length =>
    simp only [channelStep] at step
    split at step
    · cases step
    · obtain ⟨entry,present,rfl⟩ := map_eq_some_iff.mp step
      cases entry.sink.trySend s.budget ⟨.other,length⟩ with
      | none => exact all
      | some after => exact allTold_setEntry all (all _ entry present)
  | respond channelId length =>
    simp only [channelStep] at step
    split at step
    · cases step
    · obtain ⟨entry,present,rfl⟩ := map_eq_some_iff.mp step
      exact allTold_sendOrRemove all (all _ _ present)
  | sessionExited sessionId =>
    simp only [channelStep] at step
    split at step
    · cases step
    · cases step
      intro channelId entry present
      rw [Channels.sessionExited,lookup_mapValues] at present
      obtain ⟨old,before,rfl⟩ := map_eq_some_iff.mp present
      exact told_erase (all _ old before) _
  | supervisorConnected order =>
    simp only [channelStep] at step
    split at step
    · cases step
    · obtain ⟨_,_,rfl⟩ := map_eq_some_iff.mp step
      exact all

theorem discarded_streams_announced (limits : ChannelLimits) (encodedLength : String → Payload → Nat) (actions : List ChannelAction)
    (reportable : (channelMachine limits encodedLength).Along (Reportable encodedLength) (.start limits) actions) :
    (channelMachine limits encodedLength).Throughout Announced (.start limits) actions := by
  have start : AllTold (.start limits) := nofun
  refine throughout_of_along ?_ channelStep_told start reportable
  intro s all channelId entry sessionId present gapped
  exact .inl (all _ _ present _ gapped)

end Run

def skipping : List ChannelAction :=
  [.open "client",.deliver "client" (.attached "one" 5) 40 .granted,.deliver "client" (.output "one" 9 10 2) 40 .granted,.recv "client"]

theorem discarded_streams_announced_once :
    ∃ last entry, (channelMachine productionLimits fun _ _ => 40).run (.start productionLimits) skipping = some last ∧
      last.entries.lookup "client" = some entry ∧ entry.gapped "one" = true ∧ entry.sink.priority = [⟨.gap "one" 6 9,40⟩] ∧
      (channelMachine productionLimits fun _ _ => 40).Throughout Announced (.start productionLimits) skipping := by
  refine ⟨_,_,rfl,rfl,rfl,rfl,discarded_streams_announced _ _ _ ?_⟩
  refine along_cons rfl trivial (along_cons rfl trivial (along_cons rfl ?_ (along_cons rfl trivial trivial)))
  intro entry present _
  cases present
  exact .inr ⟨rfl,by decide,by decide,rfl,rfl⟩

-- Two terminals on one channel: the first notice takes the slot, the second is never reported.
def attachingBoth : List ChannelAction :=
  [.open "client",.deliver "client" (.attached "one" 5) 40 .granted,.deliver "client" (.attached "two" 7) 40 .granted]

def resweep : List ChannelAction := [.supervisorConnected [("client",["one","two"])],.sweep,.sweep]

theorem second_gap_lost :
    ∃ last entry, (channelMachine productionLimits fun _ _ => 40).run (.start productionLimits) (attachingBoth ++ resweep) = some last ∧
      last.entries.lookup "client" = some entry ∧ entry.gapped "two" = true ∧ entry.sink.closed = false ∧
      entry.log = [.marked "one",.gapAccepted "one",.marked "two"] ∧ entry.sink.priority = [⟨.gap "one" 6 6,40⟩] ∧
      ¬Announced last := by
  have swept : ∃ last entry,
      (channelMachine productionLimits fun _ _ => 40).run (.start productionLimits) (attachingBoth ++ resweep) = some last ∧
      last.entries.lookup "client" = some entry ∧ entry.gapped "two" = true ∧ entry.sink.closed = false ∧
      entry.log = [.marked "one",.gapAccepted "one",.marked "two"] ∧ entry.sink.priority = [⟨.gap "one" 6 6,40⟩] :=
    ⟨_,_,rfl,rfl,rfl,rfl,rfl,rfl⟩
  obtain ⟨last,entry,ran,found,gapped,still,log,slot⟩ := swept
  refine ⟨last,entry,ran,found,gapped,still,log,slot,?_⟩
  intro announced
  rcases announced "client" entry "two" found gapped with ⟨_,_,parts,_,taken⟩ | ⟨_,_,_,queued⟩
  · have accepted : StreamEvent.gapAccepted "two" ∈ entry.log := by
      rw [parts]
      exact List.mem_append_right _ (List.mem_cons_of_mem _ taken)
    rw [log] at accepted
    exact absurd accepted (by decide)
  · rw [slot] at queued
    simp at queued

end Coflux.Device
