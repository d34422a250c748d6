import Coflux.Runtime.Lifetime
import Coflux.Sessiond.Queries

namespace Coflux.Runtime
open StepMachine Ptyd Sessiond
open List (append_nil length_append mem_append mem_append_left mem_cons_self mem_map)

section
variable (r : Replacement V) (label : String) (history : Bytes)

-- Every DA1 query of a session has one answerer through all its runtimes.

def scanned (offset : Nat) : OutputScanner :=
  scanAll r.vendor.base64 (.withSecret (r.markSecret label)) (history.take offset)

def asked : List Nat :=
  da1Seqs r.vendor.base64 (.withSecret (r.markSecret label)) 1 history

end

def isHuman (client : String) : Bool := !agentIdentityPrefix.toList.isPrefixOf client.toList

structure AnsweredOnce (r : Replacement V) (label : String) (s : Life V) : Prop where
  apart : ∀ query ∈ s.answered, ∀ handed ∈ s.handed, ∀ client, handed.client = some client → isHuman client = true →
    ¬handed.delta.carries query
  single : ∀ query ∈ asked r label s.history, ∀ one ∈ s.handed, ∀ two ∈ s.handed,
    one.delta.carries query → two.delta.carries query → one.client = two.client

-- Nobody resumes below a query that another client has been handed. A rebuild finds its checkpoint,
-- or all output in the ring, and every read of the ring is answered.
def Careful (r : Replacement V) (label : String) (s : Life V) : LifeAction V → Prop
  | .attach request _ => ∀ flow seq, s.stage = .reading flow → request.resumeFromSeq = some seq →
      flow.session.terminal.answeredQuerySeq ≤ seq → ∀ query ∈ asked r label s.history, seq < query →
      ∀ handed ∈ s.handed, handed.delta.carries query → handed.client = some request.clientInstanceId
  | .blob answered => r.supports "blob" = true ∧ answered = true ∧
      (∀ cut ∈ (s.crashed.map Prod.snd).getD [], Checkpoint.decode r.header cut.checkpoint.encode = some cut.checkpoint) ∧
      ∀ pty info, s.stage = .recovering pty info .listed → info.checkpointOffset = none → info.ringStart = 0
  | .read answered => r.supports "read" = true ∧ answered = true ∧
      ∀ pty info rebuild, s.stage = .recovering pty info (.replaying rebuild) → info.checkpointOffset = none →
        pty.inner.file.start ≤ rebuild.cursor
  | _ => True

-- A screen can go on from a checkpoint, and its marker covers what was answered
-- before it.
structure CutAsked (r : Replacement V) (label : String) (history : Bytes) (answered : List Nat) (checkpoint : Checkpoint) :
    Prop where
  inside : checkpoint.outputSeq ≤ history.length
  between : Alike (.withSecret (r.markSecret label)) (scanned r label history checkpoint.outputSeq)
  marked : ∀ query ∈ answered, query ≤ checkpoint.outputSeq → query ≤ checkpoint.answeredQuerySeq

def Stored (file : SessionFile) (cuts : List (Cut V)) : Prop :=
  ∀ offset blob, file.blob = some (offset,blob) →
    ∃ cut ∈ cuts, cut.checkpoint.outputSeq = offset ∧ cut.checkpoint.encode = blob

-- Everything answered or handed out so far lies at or before an offset.
structure Past (r : Replacement V) (label : String) (s : Life V) (offset : Nat) : Prop where
  known : ∀ query ∈ s.answered, query ∈ asked r label s.history
  answered : ∀ query ∈ s.answered, query ≤ offset
  handed : ∀ handed ∈ s.handed, handed.delta.toSeq ≤ offset

structure LiveAsked (r : Replacement V) (label : String) (s : Life V) (flow : FlowState V) : Prop where
  named : flow.file.label = label
  reach : flow.seq ≤ s.history.length
  past : Past r label s flow.seq
  scan : Alike flow.session.terminal.scanner (scanned r label s.history flow.seq)
  valid : HolderInvariant flow.session
  owner : ∀ holder, flow.session.holder = some holder → s.owners holder.channelId = some holder.clientInstanceId
  marker : ∀ query ∈ s.answered, query ≤ flow.session.terminal.answeredQuerySeq
  below : ∀ cut ∈ s.cuts, cut.checkpoint.outputSeq ≤ flow.seq
  cuts : ∀ cut ∈ s.cuts, CutAsked r label s.history s.answered cut.checkpoint
  stored : Stored flow.file s.cuts
  sent : ∀ checkpoint, flow.inFlight = some checkpoint ∨ checkpoint ∈ flow.late → ∃ cut ∈ s.cuts, cut.checkpoint = checkpoint

structure DownAsked (r : Replacement V) (label : String) (s : Life V) (file : SessionFile) (offset : Nat) : Prop where
  named : file.label = label
  past : Past r label s offset
  cuts : ∀ cut ∈ (s.crashed.map Prod.snd).getD [], CutAsked r label s.history s.answered cut.checkpoint
  stored : Stored file ((s.crashed.map Prod.snd).getD [])

def Unattended (session : SessionState V) : Prop :=
  session.holder = none ∧ (∀ channel, channel ∉ session.subscribers) ∧ session.nextHolderEpoch = 0

-- A screen being rebuilt from a checkpoint of the last one, or from the start.
structure RebuildAsked (r : Replacement V) (label : String) (s : Life V) (file : SessionFile) (rebuild : Rebuild V) : Prop where
  floor : ∀ offset, file.checkpoint = some offset → offset ≤ rebuild.cursor
  reach : rebuild.cursor ≤ s.history.length
  scan : Alike rebuild.session.terminal.scanner (scanned r label s.history rebuild.cursor)
  marker : ∀ query ∈ s.answered, query ≤ rebuild.cursor → query ≤ rebuild.session.terminal.answeredQuerySeq
  free : Unattended rebuild.session
  cuts : ∀ cut ∈ s.cuts, CutAsked r label s.history s.answered cut.checkpoint ∧ cut.checkpoint.outputSeq ≤ rebuild.cursor
  stored : Stored file s.cuts

section
variable (r : Replacement V) (label : String) (s : Life V)

def PhaseAsked (file : SessionFile) : Phase V → Prop
  | .listed => True
  | .restored rebuild | .replaying rebuild | .rebuilt rebuild => RebuildAsked r label s file rebuild

def Asked : Prop :=
  match s.stage with
  | .reading flow => LiveAsked r label s flow
  | .recovering pty info phase => info.label = label ∧ DownAsked r label s pty.inner.file info.outputOffset ∧
      PhaseAsked r label s pty.inner.file phase
  | .exited pty _ | .abandoned pty => DownAsked r label s pty.inner.file s.history.length

end

section Output
-- The screen, the resize under way and the output have moved on.
abbrev Life.moved (s : Life V) (stage : RecoveryState V) (lock : Option Resizing) (overdue : List (UInt16 × UInt16))
    (astray : List Nat) (history : Bytes) : Life V :=
  {s with stage := stage,lock := lock,overdue := overdue,astray := astray,history := history}

theorem asked_more (known : query ∈ asked r label history) : query ∈ asked r label (history ++ more) := by
  rw [asked,da1Seqs_append]
  exact mem_append_left _ known

theorem scanned_more (inside : offset ≤ history.length) : scanned r label (history ++ more) offset = scanned r label history offset := by
  rw [scanned,List.take_append_of_le_length inside]
  rfl

theorem scanned_batch (content : history.take (offset + batch.length) = history.take offset ++ batch) :
    scanned r label history (offset + batch.length) = scanAll r.vendor.base64 (scanned r label history offset) batch := by
  rw [scanned,content,scanAll_append]
  rfl

theorem asked_part (content : history.take (offset + batch.length) = history.take offset ++ batch)
    (inside : offset + batch.length ≤ history.length) :
    (∀ query ∈ da1Seqs r.vendor.base64 (scanned r label history offset) (offset + 1) batch, query ∈ asked r label history) ∧
    ∀ query ∈ asked r label history, offset < query → query ≤ offset + batch.length →
      query ∈ da1Seqs r.vendor.base64 (scanned r label history offset) (offset + 1) batch := by
  have length : (history.take offset).length = offset := by
    rw [List.length_take]
    omega
  have parts : asked r label history = asked r label (history.take offset) ++
      (da1Seqs r.vendor.base64 (scanned r label history offset) (offset + 1) batch ++
        da1Seqs r.vendor.base64 (scanned r label history (offset + batch.length)) (offset + 1 + batch.length)
          (history.drop (offset + batch.length))) := by
    have whole : history.take offset ++ (batch ++ history.drop (offset + batch.length)) = history := by
      rw [← List.append_assoc,← content,List.take_append_drop]
    conv => lhs; rw [asked,← whole]
    rw [da1Seqs_append,da1Seqs_append,length,Nat.add_comm 1 offset,scanned_batch content]
    rfl
  rw [parts]
  refine ⟨fun query mem => List.mem_append_right _ (mem_append_left _ mem),?_⟩
  intro query mem above below
  rcases mem_append.mp mem with before | later
  · have bound := (da1Seqs_bounds _ _ before).2
    rw [length] at bound
    omega
  · rcases mem_append.mp later with here | behind
    · exact here
    · have bound := (da1Seqs_bounds _ _ behind).1
      omega

theorem cutAsked_more (cut : CutAsked r label history answered checkpoint) :
    CutAsked r label (history ++ more) answered checkpoint := by
  refine ⟨cut.inside.trans (by simp),?_,cut.marked⟩
  rw [scanned_more cut.inside]
  exact cut.between

theorem past_more (past : Past r label s offset) (longer : history = s.history ++ more) (further : offset ≤ later) :
    Past r label (s.moved stage lock overdue astray history) later := by
  subst longer
  refine ⟨fun query mem => asked_more (past.known _ mem),?_,?_⟩
  · exact fun _ mem => (past.answered _ mem).trans further
  · exact fun _ mem => (past.handed _ mem).trans further

-- Output nobody has been handed yet holds no query that anybody has been handed.
theorem once_more (once : AnsweredOnce r label s) (past : Past r label s offset) (inside : offset ≤ s.history.length) :
    AnsweredOnce r label (s.moved stage lock overdue astray (s.history ++ more)) := by
  refine ⟨once.apart,?_⟩
  intro query mem one first two second carriesOne carriesTwo
  rw [asked,da1Seqs_append] at mem
  rcases mem_append.mp mem with old | new
  · exact once.single _ old _ first _ second carriesOne carriesTwo
  · have bound := (da1Seqs_bounds _ _ new).1
    have reach := past.handed _ first
    have top := carriesOne.2
    omega

end Output

section Live
variable {s : Life V} {flow : FlowState V}

theorem live_asked_kept (live : LiveAsked r label s flow)
    (terminal : after.session.terminal.scanner = flow.session.terminal.scanner ∧ after.seq = flow.seq ∧
      after.session.terminal.answeredQuerySeq = flow.session.terminal.answeredQuerySeq)
    (valid : HolderInvariant after.session) (holder : after.session.holder = flow.session.holder)
    (named : after.file.label = flow.file.label) (stored : Stored after.file s.cuts)
    (sent : ∀ checkpoint, after.inFlight = some checkpoint ∨ checkpoint ∈ after.late → ∃ cut ∈ s.cuts, cut.checkpoint = checkpoint)
    (longer : history = s.history ++ more) : LiveAsked r label (s.moved stage lock overdue astray history) after := by
  obtain ⟨scanner,seq,marker⟩ := terminal
  refine ⟨named.trans live.named,?_,past_more live.past longer (Nat.le_of_eq seq.symm),?_,valid,?_,?_,?_,?_,stored,sent⟩
  · rw [seq,longer,length_append]
    exact live.reach.trans (Nat.le_add_right _ _)
  · rw [scanner,seq,longer,scanned_more live.reach]
    exact live.scan
  · rw [holder]
    exact live.owner
  · rw [marker]
    exact live.marker
  · rw [seq]
    exact live.below
  · rw [longer]
    exact fun cut mem => cutAsked_more (live.cuts cut mem)

theorem stored_checkpointed (stored : Stored flow.file s.cuts) (known : ∃ cut ∈ s.cuts, cut.checkpoint = checkpoint) :
    Stored (flow.checkpointed checkpoint).file s.cuts ∧ (flow.checkpointed checkpoint).file.label = flow.file.label := by
  simp only [FlowState.file,FlowState.checkpointed,SessionInner.checkpointed]
  rcases setCheckpoint_cases flow.pty.inner.file checkpoint.outputSeq checkpoint.encode with ⟨_,refused,_⟩ | ⟨taken,_⟩
  · rw [refused]
    exact ⟨stored,rfl⟩
  · rw [taken]
    refine ⟨?_,rfl⟩
    intro offset blob found
    cases found
    obtain ⟨cut,mem,rfl⟩ := known
    exact ⟨cut,mem,rfl,rfl⟩

theorem clerical_asked (live : LiveAsked r label s flow)
    (clerical : action.clerical = true) (step : flowStep r.vendor supported flow action = some after) :
    after.file.label = flow.file.label ∧ Stored after.file s.cuts ∧
      ∀ checkpoint, after.inFlight = some checkpoint ∨ checkpoint ∈ after.late → ∃ cut ∈ s.cuts, cut.checkpoint = checkpoint := by
  cases flowStep_move step with
  | subscribe =>
    unfold FlowState.subscribe
    split <;> exact ⟨rfl,live.stored,live.sent⟩
  | subscribeFailed =>
    exact ⟨rfl,live.stored,live.sent⟩
  | answered checkpoint sent =>
    obtain ⟨stored,named⟩ := stored_checkpointed live.stored (live.sent checkpoint (.inl sent))
    refine ⟨named,stored,?_⟩
    intro other found
    exact live.sent _ (found.imp_left nofun)
  | givenUp checkpoint sent =>
    refine ⟨rfl,live.stored,?_⟩
    intro other found
    rcases found with none | late
    · cases none
    · rcases mem_append.mp late with old | new
      · exact live.sent _ (.inr old)
      · rw [List.mem_singleton.mp new]
        exact live.sent checkpoint (.inl sent)
  | carriedOut checkpoint sent =>
    obtain ⟨stored,named⟩ := stored_checkpointed live.stored (live.sent checkpoint (.inr (List.mem_of_getElem? sent)))
    refine ⟨named,stored,?_⟩
    intro other found
    exact live.sent _ (found.imp_right List.mem_of_mem_eraseIdx)
  | lost =>
    refine ⟨rfl,live.stored,?_⟩
    intro other found
    exact live.sent _ (found.imp_right List.mem_of_mem_eraseIdx)
  | _ => cases clerical

section
variable {vendor : Vendor V} {session : SessionState V}

theorem clerk_holder (clerical : action.clerical = true) : (sessionStep vendor session action).holder = session.holder := by
  cases action with
  | deliveryResult channelId toSeq sent =>
    simp only [sessionStep,SessionState.deliveryResult]
    split
    · rfl
    · split
      · rfl
      · split <;> rfl
  | gapDeliveryResult channelId sent =>
    simp only [sessionStep,SessionState.gapDeliveryResult]
    split <;> rfl
  | clearSubscribers | removeSubscriber => rfl
  | _ => cases clerical

theorem resizeSession_asked : (resizeSession vendor session rows cols).terminal.scanner = session.terminal.scanner ∧
      (resizeSession vendor session rows cols).terminal.answeredQuerySeq = session.terminal.answeredQuerySeq := by
  simp only [resizeSession,TerminalState.resize]
  split <;> exact ⟨rfl,rfl⟩

theorem answers_batch (nonempty : batch ≠ []) :
    answers vendor session batch = if answeredByHolder session batch then [] else
      da1Seqs vendor.base64 session.terminal.scanner (session.terminal.outputSeq + 1) batch := by
  obtain ⟨made,_⟩ := feed_spec nonempty
  obtain ⟨_,queries⟩ := feed_watched _
  have found : (session.terminal.feed vendor batch).1.queries.filterMap da1Query =
      da1Seqs vendor.base64 session.terminal.scanner (session.terminal.outputSeq + 1) batch := by
    rw [queries,queried_da1]
    rfl
  cases fed : session.terminal.feed vendor batch with
  | mk terminal delta =>
    rw [fed] at made found
    cases made
    rw [← found]
    simp only [answers,fed]
    rfl

end

section
variable (live : LiveAsked r label s flow)
include live

theorem delivered_holder (nonempty : batch ≠ []) (mem : delivery ∈ (flow.session.feed r.vendor batch).2) :
    delivery.delta = batchDelta flow.session.terminal batch ∧ ∃ holder, flow.session.holder = some holder ∧
      s.owners delivery.channelId = some holder.clientInstanceId ∧
      (isHuman holder.clientInstanceId = true → answeredByHolder flow.session batch = true) := by
  rw [(feed_stream r.vendor flow.session nonempty).1] at mem
  obtain ⟨same,_,found,_⟩ := pendingFor_member mem
  have subscribed : delivery.channelId ∈ flow.session.subscribers := AList.lookup_isSome.mp (by rw [found]; rfl)
  obtain ⟨holder,held,channel⟩ := live.valid.subscribed _ subscribed
  refine ⟨same,holder,held,?_,?_⟩
  · rw [← channel]
    exact live.owner holder held
  · intro human
    simp only [answeredByHolder,SessionState.humanReceivesRaw,held,Bool.and_eq_true]
    exact ⟨human,List.any_eq_true.mpr ⟨delivery,mem,decide_eq_true channel.symm⟩⟩

theorem batch_place (content : s.history.drop flow.seq = batch ++ more) :
    s.history.take (flow.seq + batch.length) = s.history.take flow.seq ++ batch ∧
      flow.seq + batch.length ≤ s.history.length := by
  refine ⟨by rw [List.take_add,content,List.take_left],?_⟩
  have total := congrArg List.length content
  have reach := live.reach
  rw [List.length_drop,length_append] at total
  omega

theorem answers_place (nonempty : batch ≠ []) (content : s.history.drop flow.seq = batch ++ more) :
    ∀ query ∈ answers r.vendor flow.session batch, query ∈ asked r label s.history ∧
      flow.seq < query ∧ query ≤ flow.seq + batch.length ∧ answeredByHolder flow.session batch = false ∧
      query ≤ (flow.session.feed r.vendor batch).1.terminal.answeredQuerySeq := by
  intro query mem
  rw [answers_batch nonempty] at mem
  split at mem
  · cases mem
  · rename_i own
    have own : answeredByHolder flow.session batch = false := eq_false_of_ne_true own
    obtain ⟨place,inside⟩ := batch_place live content
    obtain ⟨low,high⟩ := da1Seqs_bounds _ _ mem
    refine ⟨?_,low,?_,own,(feed_marker _ _ nonempty).2 own query mem⟩
    · rw [da1Seqs_alike live.scan] at mem
      exact (asked_part place inside).1 query mem
    · have top : query < flow.seq + 1 + batch.length := high
      omega

end

theorem fed_once (once : AnsweredOnce r label s) (live : LiveAsked r label s flow) (nonempty : batch ≠ [])
    (content : s.history.drop flow.seq = batch ++ more) : AnsweredOnce r label (s.fed r flow batch rest) := by
  have fresh := answers_place live nonempty content
  have handed : ∀ one ∈ (s.fed r flow batch rest).handed, one ∈ s.handed ∨
      ∃ holder, flow.session.holder = some holder ∧ one.client = some holder.clientInstanceId ∧
        one.delta = batchDelta flow.session.terminal batch ∧
        (isHuman holder.clientInstanceId = true → answeredByHolder flow.session batch = true) := by
    intro one mem
    rcases mem_append.mp mem with old | new
    · exact .inl old
    · obtain ⟨_,sent,rfl⟩ := mem_map.mp new
      obtain ⟨delta,holder,held,owner,human⟩ := delivered_holder live nonempty sent
      exact .inr ⟨holder,held,owner,delta,human⟩
  have start : (batchDelta flow.session.terminal batch).fromSeq = flow.seq + 1 := rfl
  refine ⟨?_,?_⟩
  · intro query answered one mem client owner human carries
    have top := carries.2
    have bottom := carries.1
    rcases mem_append.mp answered with old | new
    · rcases handed one mem with before | ⟨holder,_,_,delta,_⟩
      · exact once.apart _ old _ before _ owner human carries
      · rw [delta,start] at bottom
        have bound := live.past.answered _ old
        omega
    · obtain ⟨_,_,_,own,_⟩ := fresh _ new
      rcases handed one mem with before | ⟨holder,_,same,_,reads⟩
      · have bound := live.past.handed _ before
        omega
      · cases same.symm.trans owner
        rw [reads human] at own
        cases own
  · intro query known one first two second carriesOne carriesTwo
    have topOne := carriesOne.2
    have topTwo := carriesTwo.2
    have bottomOne := carriesOne.1
    have bottomTwo := carriesTwo.1
    rcases handed one first with beforeOne | ⟨holder,held,same,deltaOne,_⟩
    · rcases handed two second with beforeTwo | ⟨_,_,_,deltaTwo,_⟩
      · exact once.single _ known _ beforeOne _ beforeTwo carriesOne carriesTwo
      · rw [deltaTwo,start] at bottomTwo
        have bound := live.past.handed _ beforeOne
        omega
    · rcases handed two second with beforeTwo | ⟨other,heldOther,sameOther,_⟩
      · rw [deltaOne,start] at bottomOne
        have bound := live.past.handed _ beforeTwo
        omega
      · cases held.symm.trans heldOther
        exact same.trans sameOther.symm

theorem sent_cutAsked (live : LiveAsked r label s flow)
    (nonempty : batch ≠ []) (content : s.history.drop flow.seq = batch ++ more) (idle : flow.inFlight = none)
    (sent : (flow.readerBatch r.vendor supported batch rest).inFlight = some checkpoint) :
    checkpoint.outputSeq = flow.seq + batch.length ∧
      CutAsked r label s.history (s.answered ++ answers r.vendor flow.session batch) checkpoint := by
  obtain ⟨made,eligible⟩ := readerBatch_taken _ supported idle sent
  obtain ⟨position,scanner⟩ := sessionFeed_reads _ _ nonempty
  obtain ⟨place,inside⟩ := batch_place live content
  obtain ⟨_,_,offset,marker,between,_⟩ := restore_watched 0 eligible made
  have seq : checkpoint.outputSeq = flow.seq + batch.length := offset.trans position
  refine ⟨seq,by rw [seq]; exact inside,?_,?_⟩
  · rw [seq,scanned_batch place]
    have alike : Alike (scanAll r.vendor.base64 flow.session.terminal.scanner batch)
        (scanAll r.vendor.base64 (scanned r label s.history flow.seq) batch) := (scan_alike live.scan 0 _).1
    have secret : (scanAll r.vendor.base64 flow.session.terminal.scanner batch).secret = r.markSecret label := by
      rw [scanAll_secret,live.scan.secret,scanned,scanAll_secret]
      rfl
    rw [scanner,secret] at between
    exact alike_trans between alike
  · intro query mem _
    rw [show checkpoint.answeredQuerySeq = _ from marker]
    rcases mem_append.mp mem with old | new
    · exact (live.marker _ old).trans (feed_marker _ _ nonempty).1
    · exact (answers_place live nonempty content _ new).2.2.2.2

theorem fed_asked (live : LiveAsked r label s flow) (nonempty : batch ≠ []) (idle : flow.inFlight = none)
    (content : s.history.drop flow.seq = batch ++ more) :
    LiveAsked r label (s.fed r flow batch rest) (flow.readerBatch r.vendor (r.supports "checkpoint") batch rest) := by
  have fresh := answers_place live nonempty content
  obtain ⟨place,inside⟩ := batch_place live content
  obtain ⟨session,pty,_,seq⟩ := readerBatch_parts _ nonempty
  obtain ⟨_,scanner⟩ := sessionFeed_reads _ _ nonempty
  obtain ⟨holder,_⟩ := feed_fields _
  have raised := (feed_marker r.vendor flow.session nonempty).1
  have file : (flow.readerBatch r.vendor (r.supports "checkpoint") batch rest).file = flow.file := by
    rw [FlowState.file,pty,FlowState.file]
  have late : (flow.readerBatch r.vendor (r.supports "checkpoint") batch rest).late = flow.late := by
    rcases readerBatch_cases r.vendor (r.supports "checkpoint") flow nonempty with ⟨_,equal,_⟩ | ⟨equal,_⟩ <;> rw [equal]
  have cuts : ∀ cut ∈ (s.fed r flow batch rest).cuts, cut ∈ s.cuts ∨
      cut.checkpoint.outputSeq = flow.seq + batch.length ∧
        CutAsked r label s.history (s.answered ++ answers r.vendor flow.session batch) cut.checkpoint := by
    intro cut mem
    rcases mem_append.mp mem with old | new
    · exact .inl old
    · obtain ⟨checkpoint,sent,rfl⟩ := Option.map_eq_some_iff.mp (Option.mem_toList.mp new)
      exact .inr (sent_cutAsked live nonempty content idle sent)
  refine ⟨by rw [file]; exact live.named,by rw [seq]; exact inside,⟨?_,?_,?_⟩,?_,?_,?_,?_,?_,?_,?_,?_⟩
  · exact List.forall_mem_append.mpr ⟨live.past.known,fun query new => (fresh _ new).1⟩
  · intro query mem
    rw [seq]
    rcases mem_append.mp mem with old | new
    · exact (live.past.answered _ old).trans (Nat.le_add_right _ _)
    · exact (fresh _ new).2.2.1
  · intro one mem
    rw [seq]
    rcases mem_append.mp mem with old | new
    · exact (live.past.handed _ old).trans (Nat.le_add_right _ _)
    · obtain ⟨_,sent,rfl⟩ := mem_map.mp new
      exact Nat.le_of_eq (congrArg Delta.toSeq (delivered_holder live nonempty sent).1)
  · rw [session,scanner,seq]
    show Alike _ (scanned r label s.history _)
    rw [scanned_batch place]
    exact (scan_alike live.scan 0 _).1
  · rw [session]
    exact sessionStep_preserves _ live.valid (.feed batch)
  · rw [session,holder]
    exact live.owner
  · intro query mem
    rw [session]
    rcases mem_append.mp mem with old | new
    · exact (live.marker _ old).trans raised
    · exact (fresh _ new).2.2.2.2
  · intro cut mem
    rw [seq]
    rcases cuts cut mem with old | ⟨offset,_⟩
    · exact (live.below cut old).trans (Nat.le_add_right _ _)
    · exact Nat.le_of_eq offset
  · intro cut mem
    rcases cuts cut mem with old | ⟨_,good⟩
    · refine ⟨(live.cuts cut old).inside,(live.cuts cut old).between,?_⟩
      intro query known reach
      rcases mem_append.mp known with before | new
      · exact (live.cuts cut old).marked query before reach
      · have above := (fresh _ new).2.1
        have below := live.below cut old
        omega
    · exact good
  · rw [file]
    intro offset blob found
    obtain ⟨cut,mem,same⟩ := live.stored offset blob found
    exact ⟨cut,mem_append_left _ mem,same⟩
  · intro checkpoint found
    rcases found with sent | old
    · exact ⟨_,List.mem_append_right _ (Option.mem_toList.mpr (Option.map_eq_some_iff.mpr ⟨checkpoint,sent,rfl⟩)),rfl⟩
    · rw [late] at old
      obtain ⟨cut,mem,same⟩ := live.sent checkpoint (.inr old)
      exact ⟨cut,mem_append_left _ mem,same⟩

theorem attached_asked {answers : Bool} (live : LiveAsked r label s flow) (once : AnsweredOnce r label s)
    (here : s.stage = .reading flow) (careful : Careful r label s (.attach request answers)) :
    LiveAsked r label (s.attached r flow request answers)
        {flow with session := (flow.session.attach r.vendor request (ringCallback flow.file answers)).1} ∧
      AnsweredOnce r label (s.attached r flow request answers) := by
  have terminal := attach_terminal r.vendor flow.session request (ringCallback flow.file answers)
  have valid := sessionStep_preserves r.vendor live.valid (.attach request (ringCallback flow.file answers))
  simp only [sessionStep] at valid
  unfold Life.attached
  split
  · rename_i session outcome granted
    obtain ⟨within,resumed,_,holder⟩ := attach_replays granted
    rw [granted] at terminal valid ⊢
    have same : session.terminal = flow.session.terminal := terminal
    have handed : ∀ one ∈ s.handed ++ outcome.replay.map fun delta =>
        Handed.mk (some request.clientInstanceId) delta (some outcome.snapshotSeq), one ∈ s.handed ∨
        one.client = some request.clientInstanceId ∧ outcome.snapshotSeq < one.delta.fromSeq ∧
          one.delta.toSeq ≤ flow.seq ∧ request.resumeFromSeq = some outcome.snapshotSeq ∧
          flow.session.terminal.answeredQuerySeq ≤ outcome.snapshotSeq := by
      intro one mem
      rcases mem_append.mp mem with old | new
      · exact .inl old
      · obtain ⟨delta,replayed,rfl⟩ := mem_map.mp new
        exact .inr ⟨rfl,(within delta replayed).1,(within delta replayed).2,resumed delta replayed⟩
    refine ⟨⟨live.named,?_,⟨live.past.known,?_,?_⟩,?_,valid,?_,?_,?_,live.cuts,live.stored,live.sent⟩,?_,?_⟩
    · simp only [FlowState.seq,same]
      exact live.reach
    · simp only [FlowState.seq,same]
      exact live.past.answered
    · intro one mem
      simp only [FlowState.seq,same]
      rcases handed one mem with old | ⟨_,_,top,_⟩
      · exact live.past.handed _ old
      · exact top
    · simp only [FlowState.seq,same]
      exact live.scan
    · intro found held
      cases holder.symm.trans held
      exact Function.update_self ..
    · simp only [same]
      exact live.marker
    · simp only [FlowState.seq,same]
      exact live.below
    · intro query answered one mem client owner human carries
      rcases handed one mem with old | ⟨_,bottom,_,_,behind⟩
      · exact once.apart _ answered _ old _ owner human carries
      · have low := carries.1
        have marked := live.marker _ answered
        omega
    · intro query known one first two second carriesOne carriesTwo
      have lowOne := carriesOne.1
      have lowTwo := carriesTwo.1
      rcases handed one first with oldOne | ⟨clientOne,bottomOne,_,askedOne,behindOne⟩
      · rcases handed two second with oldTwo | ⟨clientTwo,bottomTwo,_,askedTwo,behindTwo⟩
        · exact once.single _ known _ oldOne _ oldTwo carriesOne carriesTwo
        · rw [clientTwo]
          exact careful _ _ here askedTwo behindTwo _ known (by omega) _ oldOne carriesOne
      · rcases handed two second with oldTwo | ⟨clientTwo,_⟩
        · rw [clientOne]
          exact (careful _ _ here askedOne behindOne _ known (by omega) _ oldTwo carriesTwo).symm
        · exact clientOne.trans clientTwo.symm
  · rename_i session _ refused
    have same : session = flow.session := attach_error refused
    have unchanged : ({s with stage := .reading flow} : Life V) = s := by rw [← here]
    rw [refused,same]
    show LiveAsked r label {s with stage := .reading flow} flow ∧ AnsweredOnce r label {s with stage := .reading flow}
    rw [unchanged]
    exact ⟨live,once⟩

end Live

section Frames
theorem past_further (past : Past r label s offset) (further : offset ≤ later) : Past r label s later :=
  past_more past (append_nil _).symm further

theorem asked_past (asked : Asked r label s) (sound : LifeSound s) : Past r label s s.history.length := by
  have whole := sound.stage
  unfold Asked at asked
  cases here : s.stage with
  | reading flow =>
    simp only [here] at asked
    exact past_further asked.past asked.reach
  | recovering pty info phase =>
    simp only [here] at asked
    rw [here] at whole
    obtain ⟨recovering,represents⟩ := whole
    exact past_further asked.2.1.past (represents.ends ▸ recovering.target)
  | exited | abandoned =>
    simp only [here] at asked
    exact asked.past

theorem stored_kept (stored : Stored file cuts) (blob : after.blob = file.blob) : Stored after cuts := by
  unfold Stored
  rw [blob]
  exact stored

theorem down_more (down : DownAsked r label s file offset) (named : after.label = file.label) (blob : after.blob = file.blob)
    (longer : history = s.history ++ more) (further : offset ≤ later) :
    DownAsked r label (s.moved stage lock overdue astray history) after later := by
  refine ⟨named.trans down.named,past_more down.past longer further,?_,stored_kept down.stored blob⟩
  rw [longer]
  exact fun cut mem => cutAsked_more (down.cuts cut mem)

theorem rebuild_more (good : RebuildAsked r label s file rebuild)
    (checkpoint : after.checkpoint = file.checkpoint) (blob : after.blob = file.blob) (longer : history = s.history ++ more) :
    RebuildAsked r label (s.moved stage lock overdue astray history) after rebuild := by
  refine ⟨by rw [checkpoint]; exact good.floor,?_,?_,good.marker,good.free,?_,stored_kept good.stored blob⟩
  · rw [longer,length_append]
    exact good.reach.trans (Nat.le_add_right _ _)
  · rw [longer,scanned_more good.reach]
    exact good.scan
  · rw [longer]
    exact fun cut mem => ⟨cutAsked_more (good.cuts cut mem).1,(good.cuts cut mem).2⟩

theorem asked_pty (known : Asked r label s) (named : pty.inner.file.label = s.stage.pty.inner.file.label)
    (checkpoint : pty.inner.file.checkpoint = s.stage.pty.inner.file.checkpoint)
    (blob : pty.inner.file.blob = s.stage.pty.inner.file.blob) (longer : history = s.history ++ more)
    (moved : stage = s.stage.withPty pty ∨ stage = s.stage.printed more pty) :
    Asked r label (s.moved stage lock overdue astray history) := by
  have further : s.history.length ≤ history.length := by
    rw [longer,length_append]
    exact Nat.le_add_right _ _
  unfold Asked at known ⊢
  cases here : s.stage with
  | reading flow =>
    simp only [here] at known named checkpoint blob moved
    have kept : ∃ after, stage = .reading after ∧ after.session = flow.session ∧ after.pty = pty ∧
        after.inFlight = flow.inFlight ∧ after.late = flow.late := by
      rcases moved with rfl | rfl <;> exact ⟨_,rfl,rfl,rfl,rfl,rfl⟩
    obtain ⟨after,rfl,session,side,inFlight,late⟩ := kept
    have file : after.file = pty.inner.file := by rw [FlowState.file,side]
    refine live_asked_kept known ?_ ?_ ?_ ?_ ?_ ?_ longer
    · rw [FlowState.seq,FlowState.seq,session]
      exact ⟨rfl,rfl,rfl⟩
    · rw [session]
      exact known.valid
    · rw [session]
    · rw [file]
      exact named
    · rw [file]
      exact stored_kept known.stored blob
    · rw [inFlight,late]
      exact known.sent
  | recovering old info phase =>
    simp only [here] at known named checkpoint blob moved
    obtain rfl : stage = .recovering pty info phase := moved.elim id id
    obtain ⟨info,down,good⟩ := known
    refine ⟨info,down_more down named blob longer (Nat.le_refl _),?_⟩
    cases phase with
    | listed => exact True.intro
    | restored | replaying | rebuilt => exact rebuild_more good checkpoint blob longer
  | exited old discarded =>
    simp only [here] at known named blob moved
    obtain rfl : stage = .exited pty discarded := moved.elim id id
    exact down_more known named blob longer further
  | abandoned old =>
    simp only [here] at known named blob moved
    obtain rfl : stage = .abandoned pty := moved.elim id id
    exact down_more known named blob longer further

theorem asked_resized (known : Asked r label s) :
    Asked r label (s.moved (s.stage.withPty (s.stage.pty.resized rows cols)) lock overdue astray s.history) := by
  refine asked_pty known ?_ ?_ ?_ (append_nil _).symm (.inl rfl) <;> rfl

theorem asked_locked (known : Asked r label s) : Asked r label (s.moved s.stage lock overdue astray s.history) := by
  have still : s.stage.withPty s.stage.pty = s.stage := by cases s.stage <;> rfl
  exact asked_pty known rfl rfl rfl (append_nil _).symm (.inl still.symm)

end Frames

section Rebuilds
variable {s : Life V} {pty : PtySide} {info : PtydSessionInfo}

structure SameButScreen (one two : SessionState V) : Prop where
  scanner : two.terminal.scanner = one.terminal.scanner
  marker : two.terminal.answeredQuerySeq = one.terminal.answeredQuerySeq
  holder : two.holder = one.holder
  subscribers : two.subscribers = one.subscribers
  epoch : two.nextHolderEpoch = one.nextHolderEpoch

theorem sameButScreen_refl (session : SessionState V) : SameButScreen session session := ⟨rfl,rfl,rfl,rfl,rfl⟩

theorem sameButScreen_trans (first : SameButScreen one two) (second : SameButScreen two three) : SameButScreen one three :=
  ⟨second.scanner.trans first.scanner,second.marker.trans first.marker,second.holder.trans first.holder,
    second.subscribers.trans first.subscribers,second.epoch.trans first.epoch⟩

theorem resizeSession_sameButScreen (session : SessionState V) (rows : UInt16) :
    SameButScreen session (resizeSession vendor session rows cols) := by
  obtain ⟨scanner,marker⟩ := resizeSession_asked
  exact ⟨scanner,marker,rfl,rfl,rfl⟩

theorem applyResizes_sameButScreen (vendor : Vendor V) (cursor : Nat) (session : SessionState V) (resizes : List PtydResizeEntry) :
    SameButScreen session (applyResizes vendor cursor session resizes).1 := by
  induction resizes generalizing session with
  | nil => exact sameButScreen_refl session
  | cons entry rest ih =>
    simp only [applyResizes]
    split
    · exact sameButScreen_trans (resizeSession_sameButScreen session _) (ih _)
    · exact sameButScreen_refl session

theorem foldl_sameButScreen (session : SessionState V) {resizes : List PtydResizeEntry} :
    SameButScreen session (resizes.foldl (fun session entry => resizeSession vendor session entry.rows entry.cols) session) := by
  induction resizes generalizing session with
  | nil => exact sameButScreen_refl session
  | cons entry rest ih => exact sameButScreen_trans (resizeSession_sameButScreen session _) (ih _)

theorem replayed_sameButScreen (r : Replacement V) {info : PtydSessionInfo} :
    SameButScreen rebuild.session (r.replayed info rebuild).session := by
  have sized : ∀ session, SameButScreen session (r.sized info session) := by
    intro session
    unfold Replacement.sized
    split
    · exact resizeSession_sameButScreen _ _
    · exact sameButScreen_refl session
  have quieted : ∀ session : SessionState V, SameButScreen session (Replacement.quieted session) := fun _ => ⟨rfl,rfl,rfl,rfl,rfl⟩
  exact sameButScreen_trans (foldl_sameButScreen _) (sameButScreen_trans (sized _) (quieted _))

theorem unattended_sameButScreen (free : Unattended one) (same : SameButScreen one two) : Unattended two := by
  unfold Unattended
  rw [same.holder,same.subscribers,same.epoch]
  exact free

theorem unattended_valid (free : Unattended session) : HolderInvariant session := by
  obtain ⟨holder,subscribers,epoch⟩ := free
  refine ⟨fun channel mem => absurd mem (subscribers channel),?_,?_,?_⟩
  · intro found held
    rw [holder] at held
    cases held
  · rw [epochOf,holder,epoch]
    rfl
  · rw [epochOf,holder]
    exact Nat.zero_le _

theorem rebuild_sameButScreen (good : RebuildAsked r label s file rebuild)
    (same : SameButScreen rebuild.session after.session) (cursor : after.cursor = rebuild.cursor) :
    RebuildAsked r label {s with stage := stage} file after := by
  refine ⟨by rw [cursor]; exact good.floor,by rw [cursor]; exact good.reach,?_,?_,unattended_sameButScreen good.free same,?_,
    good.stored⟩
  · rw [same.scanner,cursor]
    exact good.scan
  · rw [same.marker,cursor]
    exact good.marker
  · rw [cursor]
    exact good.cuts

-- A read that goes on raises the marker past every query in it: nobody holds the
-- session during a rebuild.
theorem read_asked (good : RebuildAsked r label s file rebuild) (past : Past r label s offset)
    (position : rebuild.session.terminal.outputSeq = rebuild.cursor) (target : info.outputOffset ≤ s.history.length)
    (represents : Represents file s.history) (replied : r.read info file answered rebuild = .replaying after) :
    RebuildAsked r label {s with stage := stage} file after := by
  obtain ⟨data,nonempty,rfl,content,reach⟩ := read_feeds represents replied
  have untouched := applyResizes_sameButScreen r.vendor rebuild.cursor rebuild.session rebuild.resizes
  have seq := (applyResizes_seq r.vendor rebuild.cursor rebuild.resizes).trans position
  have bound := stop_le info (applyResizes r.vendor rebuild.cursor rebuild.session rebuild.resizes).2
  generalize applyResizes r.vendor rebuild.cursor rebuild.session rebuild.resizes = applied at *
  have inside : rebuild.cursor + data.length ≤ s.history.length := reach.trans (bound.trans target)
  have free := unattended_sameButScreen good.free untouched
  have alone : answeredByHolder applied.1 data = false := by
    simp only [answeredByHolder,SessionState.humanReceivesRaw,free.1]
  have scan : Alike applied.1.terminal.scanner (scanned r label s.history rebuild.cursor) := by
    rw [untouched.scanner]
    exact good.scan
  obtain ⟨raised,covers⟩ := feed_marker _ _ nonempty
  obtain ⟨_,scanner⟩ := sessionFeed_reads _ _ nonempty
  obtain ⟨holder,_,epoch,subscribers⟩ := feed_fields _
  refine ⟨fun offset stored => (good.floor offset stored).trans (Nat.le_add_right _ _),inside,?_,?_,?_,?_,good.stored⟩
  · rw [scanner,scanned_batch content]
    exact (scan_alike scan 0 _).1
  · intro query mem reached
    by_cases old : query ≤ rebuild.cursor
    · have marked := good.marker _ mem old
      rw [← untouched.marker] at marked
      exact marked.trans raised
    · refine covers alone _ ?_
      rw [da1Seqs_alike scan,seq]
      exact (asked_part content inside).2 query (past.known _ mem) (Nat.lt_of_not_le old) reached
  · exact ⟨holder.trans free.1,fun channel mem => free.2.1 channel (subscribers channel mem),epoch.trans free.2.2⟩
  · intro cut mem
    exact ⟨(good.cuts cut mem).1,(good.cuts cut mem).2.trans (Nat.le_add_right _ _)⟩

theorem stored_asked (decoded : ∀ cut ∈ (s.crashed.map Prod.snd).getD [],
      Checkpoint.decode r.header cut.checkpoint.encode = some cut.checkpoint)
    (named : info.label = label) (down : DownAsked r label s pty.inner.file info.outputOffset)
    (stored : pty.inner.file.checkpoint = some offset) (reach : offset ≤ info.outputOffset) :
    RebuildAsked r label {s with stage := stage,cuts := s.restoredCuts r info (r.checkpoint info pty.inner.file.blob)}
      pty.inner.file (r.restore info (r.checkpoint info pty.inner.file.blob)) := by
  have blob : pty.inner.file.blob = some (offset,pty.inner.file.checkpointBlob) := by
    rw [SessionFile.blob,stored]
    rfl
  obtain ⟨cut,mem,position,written⟩ := down.stored _ _ blob
  have good := down.cuts cut mem
  have taken : r.checkpoint info pty.inner.file.blob = some cut.checkpoint := by
    simp only [Replacement.checkpoint,blob]
    rw [← written,decoded cut mem]
    simp only
    rw [if_pos ⟨position,reach⟩]
  have restored : s.restoredCuts r info (some cut.checkpoint) =
      [⟨cut.checkpoint,(r.restore info (some cut.checkpoint)).session.terminal.vt⟩] := if_pos (List.mem_map_of_mem mem)
  rw [taken,restored]
  refine ⟨?_,good.inside,?_,good.marked,⟨rfl,fun _ => AList.notMem_empty _,rfl⟩,?_,?_⟩
  · intro other found
    cases stored.symm.trans found
    exact Nat.le_of_eq position.symm
  · show Alike (.withSecret (r.markSecret info.label)) (scanned r label s.history cut.checkpoint.outputSeq)
    rw [named]
    exact good.between
  · intro other found
    cases List.mem_singleton.mp found
    exact ⟨good,Nat.le_refl _⟩
  · intro place bytes found
    rw [blob] at found
    cases found
    exact ⟨_,List.mem_singleton_self _,position,written⟩

theorem scratch_asked (named : info.label = label) (down : DownAsked r label s pty.inner.file info.outputOffset)
    (unstored : pty.inner.file.checkpoint = none) (whole : info.ringStart = 0) :
    RebuildAsked r label {s with stage := stage,cuts := []} pty.inner.file (r.restore info none) := by
  have cursor : (r.restore info none).cursor = 0 := whole
  refine ⟨?_,by rw [cursor]; exact Nat.zero_le _,?_,?_,⟨rfl,fun _ => AList.notMem_empty _,rfl⟩,nofun,?_⟩
  · intro offset found
    cases unstored.symm.trans found
  · rw [cursor]
    show Alike (.withSecret (r.markSecret info.label)) (.withSecret (r.markSecret label))
    rw [named]
    exact ⟨rfl,rfl,fun _ => rfl⟩
  · rw [cursor]
    intro query mem early
    have bound := (da1Seqs_bounds _ _ (down.past.known _ mem)).1
    omega
  · intro offset blob found
    rw [SessionFile.blob,unstored] at found
    cases found

theorem blob_asked (careful : Careful r label s (.blob answered)) (here : s.stage = .recovering pty info .listed)
    (named : info.label = label) (down : DownAsked r label s pty.inner.file info.outputOffset)
    (recovering : Recovering pty info (.listed : Phase V)) :
    RebuildAsked r label {s with
        stage := stage
        cuts := s.restoredCuts r info (if r.supports "blob" && answered then r.checkpoint info pty.inner.file.blob else none)}
      pty.inner.file (r.blobbed info pty.inner.file answered) := by
  obtain ⟨supported,rfl,decoded,whole⟩ := careful
  unfold Replacement.blobbed
  rw [supported,Bool.true_and,if_pos rfl]
  cases stored : pty.inner.file.checkpoint with
  | none =>
    have empty : r.checkpoint info pty.inner.file.blob = none := by
      rw [SessionFile.blob,stored]
      rfl
    rw [empty]
    exact scratch_asked named down stored (whole pty _ here (recovering.kept.symm.trans stored))
  | some offset => exact stored_asked decoded named down stored (recovering.floor offset (recovering.kept.symm.trans stored)).2

theorem start_asked (good : RebuildAsked r label s pty.inner.file rebuild) (down : DownAsked r label s pty.inner.file info.outputOffset)
    (position : rebuild.session.terminal.outputSeq = rebuild.cursor) (finished : rebuild.cursor = info.outputOffset) :
    LiveAsked r label {s with stage := stage} (rebuild.start pty) := by
  have seq : (rebuild.start pty).seq = rebuild.cursor := position
  refine ⟨down.named,by rw [seq]; exact good.reach,{past_further down.past (by rw [seq,finished]) with},?_,unattended_valid good.free,
    ?_,?_,?_,fun cut mem => (good.cuts cut mem).1,good.stored,?_⟩
  · rw [seq]
    exact good.scan
  · intro holder held
    cases good.free.1.symm.trans held
  · intro query mem
    exact good.marker _ mem ((down.past.answered _ mem).trans (Nat.le_of_eq finished.symm))
  · rw [seq]
    exact fun cut mem => (good.cuts cut mem).2
  · rintro checkpoint (sent | late)
    · cases sent
    · cases late

theorem crash_asked (known : Asked r label s) (sound : LifeSound s) : Asked r label s.crash := by
  have past := asked_past known sound
  unfold Asked at known
  show DownAsked r label s.crash s.stage.pty.inner.file s.history.length
  cases here : s.stage with
  | reading flow =>
    simp only [here] at known
    have crashed : s.crash.crashed = some (flow,s.cuts) := by
      simp only [Life.crash,Life.reading,here,Option.map_some,Option.some_or]
    refine ⟨known.named,{past with},?_,?_⟩
    · rw [crashed]
      exact known.cuts
    · rw [crashed]
      exact known.stored
  | recovering pty info phase =>
    simp only [here] at known
    have crashed : s.crash.crashed = s.crashed := by
      simp only [Life.crash,Life.reading,here,Option.map_none,Option.none_or]
    refine ⟨known.2.1.named,{past with},?_,?_⟩
    · rw [crashed]
      exact known.2.1.cuts
    · rw [crashed]
      exact known.2.1.stored
  | exited | abandoned =>
    simp only [here] at known
    have crashed : s.crash.crashed = s.crashed := by
      simp only [Life.crash,Life.reading,here,Option.map_none,Option.none_or]
    refine ⟨known.named,{past with},?_,?_⟩
    · rw [crashed]
      exact known.cuts
    · rw [crashed]
      exact known.stored

end Rebuilds

section Run
structure OnceAsked (r : Replacement V) (label : String) (s : Life V) : Prop where
  sound : LifeSound s
  asked : Asked r label s
  once : AnsweredOnce r label s

theorem asked_reading (asked : Asked r label s) (here : s.stage = .reading flow) : LiveAsked r label s flow := by
  simpa only [Asked,here] using asked

theorem asked_recovering (asked : Asked r label s) (here : s.stage = .recovering pty info phase) :
    info.label = label ∧ DownAsked r label s pty.inner.file info.outputOffset ∧ PhaseAsked r label s pty.inner.file phase := by
  simpa only [Asked,here] using asked

theorem lifeStep_asked (s : Life V) (action : LifeAction V) (next : Life V) (valid : OnceAsked r label s)
    (careful : Careful r label s action) (step : lifeStep r s action = some next) : OnceAsked r label next := by
  have past := asked_past valid.asked valid.sound
  have whole := valid.sound.stage
  suffices kept : Asked r label next ∧ AnsweredOnce r label next from
    ⟨lifeStep_sound s action next valid.sound step,kept.1,kept.2⟩
  have nothing : s.history = s.history ++ [] := (append_nil _).symm
  cases lifeStep_move step with
  | shell own moved =>
    have file := ofShell_file own moved
    refine ⟨asked_pty valid.asked ?_ ?_ ?_ nothing (.inl rfl),{valid.once with}⟩ <;>
      rw [file]
  | printed appended =>
    obtain ⟨_,_,_,_,file,_⟩ := ptyAppend_parts appended
    refine ⟨asked_pty valid.asked ?_ ?_ ?_ rfl (.inr rfl), once_more valid.once past (Nat.le_refl _)⟩ <;>
    · rw [file]
      rfl
  | @flowed flow after action here clerical moved =>
    have live := asked_reading valid.asked here
    obtain ⟨session,_⟩ := clerical_parts clerical moved
    obtain ⟨named,stored,sent⟩ := clerical_asked live clerical moved
    refine ⟨live_asked_kept live ?_ ?_ ?_ named stored sent nothing,{valid.once with}⟩
    · rw [FlowState.seq,FlowState.seq,session]
      exact ⟨rfl,rfl,rfl⟩
    · rw [session]
      exact live.valid
    · rw [session]
  | fed here free idle joined =>
    have live := asked_reading valid.asked here
    rw [here] at whole
    obtain ⟨nonempty,_,content⟩ := batch_parts whole joined
    exact ⟨fed_asked live nonempty idle content,fed_once valid.once live nonempty content⟩
  | @attached flow request answers here free =>
    obtain ⟨stage,_⟩ := attached_stage
    obtain ⟨live,once⟩ := attached_asked (asked_reading valid.asked here) valid.once here careful
    refine ⟨?_,once⟩
    unfold Asked
    rw [stage]
    exact live
  | @clerk flow action here free clerical =>
    have live := asked_reading valid.asked here
    have terminal := clerk_terminal r.vendor flow.session clerical
    refine ⟨live_asked_kept live ?_ (sessionStep_preserves _ live.valid _)
      (clerk_holder clerical) rfl live.stored live.sent nothing,
      {valid.once with}⟩
    rw [FlowState.seq,FlowState.seq,terminal]
    exact ⟨rfl,rfl,rfl⟩
  | resize here free =>
    unfold Life.resizeLocked
    split
    · exact ⟨valid.asked,valid.once⟩
    · exact ⟨asked_locked valid.asked,{valid.once with}⟩
  | resizeCarriedOut | resizeLate => exact ⟨asked_resized valid.asked,{valid.once with}⟩
  | @resizeAnswered flow rows cols here held =>
    have live := asked_reading valid.asked here
    obtain ⟨scanner,marker⟩ := resizeSession_asked
    exact ⟨live_asked_kept live ⟨scanner,resizeSession_seq _ _ _ _,marker⟩
      (sessionStep_preserves _ live.valid (.resize rows cols)) rfl rfl live.stored live.sent nothing,
      {valid.once with}⟩
  | resizeRefused | resizeGivenUp => exact ⟨asked_locked valid.asked,{valid.once with}⟩
  | crash => exact ⟨crash_asked valid.asked valid.sound,{valid.once with}⟩
  | @list pty sessionId here =>
    rw [here] at whole
    have represents : Represents pty.inner.file s.history := whole
    have down : DownAsked r label s pty.inner.file s.history.length := by simpa only [Asked,here] using valid.asked
    refine ⟨⟨down.named,?_,True.intro⟩,{valid.once with}⟩
    exact down_more down rfl rfl nothing (Nat.le_of_eq represents.ends.symm)
  | @blob pty info answered after here moved =>
    obtain ⟨named,down,_⟩ := asked_recovering valid.asked here
    rw [here] at whole
    refine ⟨?_,{valid.once with}⟩
    simp only [recoveryStep] at moved
    split at moved
    · cases moved
      exact {down with past := {past_further down.past (whole.2.ends ▸ whole.1.target) with}}
    · cases moved
      exact ⟨named,{down with past := {down.past with}}, blob_asked careful here named down whole.1⟩
  | @resizes pty info rebuild answered here =>
    obtain ⟨named,down,good⟩ := asked_recovering valid.asked here
    exact ⟨⟨named,{down with past := {down.past with}},
      rebuild_sameButScreen good (sameButScreen_refl _) rfl⟩,{valid.once with}⟩
  | @read pty info rebuild answered here more =>
    obtain ⟨named,down,good⟩ := asked_recovering valid.asked here
    obtain ⟨supported,rfl,held⟩ := careful
    rw [here] at whole
    obtain ⟨recovering,represents⟩ := whole
    have rebuilding : Rebuilding info rebuild := recovering.phase
    have start : pty.inner.file.start ≤ rebuild.cursor := by
      cases stored : info.checkpointOffset with
      | none => exact held pty _ _ here stored
      | some offset =>
        have kept := recovering.kept.trans stored
        exact (represents.floor offset kept).1.trans (good.floor offset kept)
    obtain ⟨_,replied,_⟩ := read_advances r supported start recovering.target more
    rw [replied]
    exact ⟨⟨named,{down with past := {down.past with}},
      read_asked good down.past rebuilding.position (represents.ends ▸ recovering.target) represents replied⟩,
      {valid.once with}⟩
  | @replayed pty info rebuild here done =>
    obtain ⟨named,down,good⟩ := asked_recovering valid.asked here
    exact ⟨⟨named,{down with past := {down.past with}},
      rebuild_sameButScreen good (replayed_sameButScreen r) rfl⟩,{valid.once with}⟩
  | @register pty info rebuild opened here =>
    obtain ⟨_,down,good⟩ := asked_recovering valid.asked here
    rw [here] at whole
    obtain ⟨recovering,represents⟩ := whole
    obtain ⟨rebuilding,finished⟩ := recovering.phase
    refine ⟨?_,{valid.once with}⟩
    cases opened with
    | true => exact start_asked good down rebuilding.position finished
    | false => exact down_more down rfl rfl nothing (represents.ends ▸ recovering.target)

theorem start_once : OnceAsked r label (Life.start r rows cols label pair pid now) := by
  refine ⟨start_sound _ _ _ _ _ _,?_,nofun,fun _ _ _ first => nomatch first⟩
  refine ⟨rfl,Nat.le_refl _,⟨nofun,nofun,nofun⟩,⟨rfl,rfl,fun _ => rfl⟩,restore_invariant _,nofun,nofun,nofun,nofun,nofun,?_⟩
  intro checkpoint found
  rcases found with sent | late
  · cases sent
  · cases late

theorem queries_answered_once (r : Replacement V) (rows cols : Nat) (label : String) (pair : PtyPair) (pid : Int) (now : Nat)
    (actions : List (LifeAction V))
    (careful : (lifeMachine r).Along (Careful r label) (Life.start r rows cols label pair pid now) actions) :
    (lifeMachine r).Throughout (AnsweredOnce r label) (Life.start r rows cols label pair pid now) actions :=
  throughout_of_along (fun _ valid => valid.once) (fun s action next => lifeStep_asked s action next) start_once careful

end Run

def queryShell : Life Unit := .start (successor fun _ => none) 24 80 "" shellPair 100 0

def attaching (client : String) (resumeFromSeq : Option Nat) : LifeAction Unit := .attach ⟨client,client,1,resumeFromSeq⟩ true

def printingQuery : List (LifeAction Unit) := [.shell (.read da1Bytes),.append,.feed 0]

-- Nobody but sessiond raises the marker, so the first client is handed the query again.
theorem query_handed_twice :
    ∃ actions last query one two, (lifeMachine (successor fun _ => none)).run queryShell actions = some last ∧
      query ∈ asked (successor fun _ => none) "" last.history ∧ one ∈ last.handed ∧ two ∈ last.handed ∧
      one.delta.carries query ∧ two.delta.carries query ∧ one.client = some "b" ∧ two.client = some "a" ∧
      isHuman "a" = true ∧ isHuman "b" = true ∧ ¬AnsweredOnce (successor fun _ => none) "" last := by
  have live : Delta.carries ⟨1,3,da1Bytes⟩ 3 := ⟨by decide,by decide⟩
  have known : 3 ∈ asked (successor fun _ => none) "" da1Bytes := by decide
  refine ⟨.flow .subscribe :: attaching "a" none :: attaching "b" none :: printingQuery ++ [attaching "a" (some 0)],_,3,
    ⟨some "b",⟨1,3,da1Bytes⟩,none⟩,⟨some "a",⟨1,3,da1Bytes⟩,some 0⟩,rfl,known,mem_cons_self,
    List.mem_cons_of_mem _ mem_cons_self,live,live,rfl,rfl,by decide,by decide,?_⟩
  intro once
  have same := once.single 3 known _ mem_cons_self _ (List.mem_cons_of_mem _ mem_cons_self) live live
  exact absurd same (by decide)

-- The client gets a snapshot when it wants to resume below what sessiond has answered.
theorem queries_answered_once_rebuilt :
    ∃ actions last, (lifeMachine (successor fun _ => none)).run queryShell actions = some last ∧
      last.history = da1Bytes ++ da1Bytes ∧ last.handed = [⟨some "a",⟨1,3,da1Bytes⟩,none⟩] ∧ last.answered = [6] ∧
      (lifeMachine (successor fun _ => none)).Throughout (AnsweredOnce (successor fun _ => none) "") queryShell actions := by
  let detached : List (LifeAction Unit) := .clerk (.removeSubscriber "a") :: printingQuery
  let first : List (LifeAction Unit) := .flow .subscribe :: attaching "a" none :: printingQuery ++ detached
  let actions : List (LifeAction Unit) := first ++ [attaching "a" (some 0),.crash,.list "shell",.blob true,.resizes true,.read true,
    .replayed,.register true]
  have facts : ((lifeMachine (successor fun _ => none)).run queryShell actions).map
      (fun last => (last.history,last.handed,last.answered)) =
        some (da1Bytes ++ da1Bytes,[⟨some "a",⟨1,3,da1Bytes⟩,none⟩],[6]) := by decide +kernel
  obtain ⟨last,ran,equal⟩ := Option.map_eq_some_iff.mp facts
  obtain ⟨history,others⟩ := Prod.mk.inj equal
  obtain ⟨handed,answered⟩ := Prod.mk.inj others
  refine ⟨actions,last,ran,history,handed,answered,queries_answered_once _ _ _ _ _ _ _ _ ?_⟩
  have rest : ∀ action ∈ printingQuery ++ detached, ∀ s, Careful (successor fun _ => none) "" s action := by
    intro action mem s
    simp only [detached,printingQuery,List.cons_append,List.nil_append,List.mem_cons,List.not_mem_nil,or_false] at mem
    rcases mem with rfl | rfl | rfl | rfl | rfl | rfl | rfl <;> exact True.intro
  have plain : (lifeMachine (successor fun _ => none)).Along (Careful (successor fun _ => none) "") queryShell first :=
    along_cons rfl trivial (along_cons rfl (fun _ _ _ resumed => nomatch resumed) (along_of_all rest))
  refine along_append rfl plain (along_cons rfl ?_ (along_cons rfl trivial (along_cons rfl trivial (along_cons rfl ?_
    (along_cons rfl trivial ⟨?_,fun _ _ => ⟨trivial,fun _ _ => ⟨trivial,fun _ _ => trivial⟩⟩⟩)))))
  · intro flow seq here resumed behind
    cases resumed
    cases here
    exact absurd behind (by decide)
  · refine ⟨rfl,rfl,nofun,?_⟩
    intro pty info here _
    cases here
    rfl
  · refine ⟨rfl,rfl,?_⟩
    intro pty info rebuild here _
    cases here
    decide

end Coflux.Runtime
