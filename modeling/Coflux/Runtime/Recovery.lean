import Coflux.Ptyd.Server
import Coflux.Runtime.FlowControl

namespace Coflux.Runtime
open StepMachine Ptyd Sessiond
open Option (map_eq_some_iff map_some)

-- A new runtime rebuilds each screen from the checkpoint and the ring, up to the offset the list
-- named, and starts a reader there, while the shell goes on printing.

-- The terminal library, ptyd's hello, and the readers of blob header and mark secret.
structure Replacement (V : Type) where
  vendor : Vendor V
  supports : String → Bool
  header : Bytes → Option CheckpointHeader
  markSecret : String → String
  historyLineLimit : Nat

structure Rebuild (V : Type) where
  session : SessionState V
  (cursor lastCheckpointSeq : Nat)
  resizes : List PtydResizeEntry

-- The request for the input cursors touches nothing below and is left out.
inductive Phase (V : Type) where
  | listed
  | restored (rebuild : Rebuild V)
  | replaying (rebuild : Rebuild V)
  | rebuilt (rebuild : Rebuild V)

-- A session found dead is only recorded, and discarded if it was never spawned.
inductive RecoveryState (V : Type) where
  | recovering (pty : PtySide) (info : PtydSessionInfo) (phase : Phase V)
  | exited (pty : PtySide) (discarded : Bool)
  | abandoned (pty : PtySide)
  | reading (flow : FlowState V)

inductive RecoveryAction (V : Type) where
  | blob (answered : Bool)
  | resizes (answered : Bool)
  | read (answered : Bool)
  | replayed
  | register (opened : Bool)
  | flow (action : FlowAction V)

def resizeSession (vendor : Vendor V) (session : SessionState V) (rows cols : UInt16) : SessionState V :=
  {session with terminal := session.terminal.resize vendor rows cols}

-- The resizes that happened before the byte at the cursor was printed.
def applyResizes (vendor : Vendor V) (cursor : Nat) : SessionState V → List PtydResizeEntry →
    SessionState V × List PtydResizeEntry
  | session,[] => (session,[])
  | session,entry :: rest =>
    if entry.offset ≤ cursor then applyResizes vendor cursor (resizeSession vendor session entry.rows entry.cols) rest
    else (session,entry :: rest)

namespace Replacement

section
variable (r : Replacement V)

section
variable (info : PtydSessionInfo)

def blank (outputSeq : Nat) : SessionState V :=
  .restore (((TerminalState.new r.vendor info.rows info.cols r.historyLineLimit).withMarkSecret
    (r.markSecret info.label)).setOutputSeq outputSeq)

-- A blob counts only if it is of the offset ptyd holds it for, and of bytes the
-- list knew.
def checkpoint (stored : Option (Nat × Bytes)) : Option Checkpoint :=
  match stored with
  | none => none
  | some (offset,blob) =>
    match Checkpoint.decode r.header blob with
    | some checkpoint => if checkpoint.outputSeq = offset ∧ offset ≤ info.outputOffset then some checkpoint else none
    | none => none

def restore : Option Checkpoint → Rebuild V
  | some checkpoint =>
    ⟨.restore (.restore r.vendor checkpoint r.historyLineLimit (r.markSecret info.label)),checkpoint.outputSeq,
      checkpoint.outputSeq,[]⟩
  | none => ⟨r.blank info info.ringStart,info.ringStart,info.ringStart,[]⟩

section
variable (file : SessionFile) (answered : Bool)

def blobbed : Rebuild V :=
  r.restore info (if r.supports "blob" && answered then r.checkpoint info file.blob else none)

section
variable (rebuild : Rebuild V)

def resized : Rebuild V :=
  {rebuild with resizes :=
    if r.supports "resizes" && answered then file.resizes.filter fun entry => rebuild.cursor ≤ entry.offset else []}

-- What was replayed was reported and answered when it was live.
def quieted (session : SessionState V) : SessionState V :=
  {session with
    terminal := {session.terminal with
      command := {session.terminal.command with changed := false}
      programStatusChanged := false}
    queryReplies := []}

def blanked : Rebuild V :=
  let session := r.blank info info.outputOffset
  {rebuild with
    session := quieted {session with
      terminal := session.terminal.raiseAnsweredQuerySeq rebuild.session.terminal.answeredQuerySeq}
    cursor := info.outputOffset
    resizes := []}

def sized (session : SessionState V) : SessionState V :=
  if session.terminal.rows ≠ info.rows ∨ session.terminal.cols ≠ info.cols then
    resizeSession r.vendor session info.rows info.cols
  else session

def replayed : Rebuild V :=
  let session := rebuild.resizes.foldl (fun session entry => resizeSession r.vendor session entry.rows entry.cols) rebuild.session
  {rebuild with session := quieted (r.sized info session),resizes := []}

-- A read ends at the next resize, at the target or at its limit. The pipelined reader asks for the
-- same pieces and falls back to this loop.
def stop (resizes : List PtydResizeEntry) : Nat :=
  match resizes with
  | [] => info.outputOffset
  | entry :: _ => min entry.offset info.outputOffset

def fed (session : SessionState V)
    (resizes : List PtydResizeEntry) : Option (Nat × Bytes) → Phase V
  | some (offset,data) =>
    if offset = rebuild.cursor ∧ data ≠ [] then
      .replaying ⟨(session.feed r.vendor data).1,rebuild.cursor + data.length,rebuild.lastCheckpointSeq,resizes⟩
    else .rebuilt (r.blanked info rebuild)
  | none => .rebuilt (r.blanked info rebuild)

def read : Phase V :=
  let (session,resizes) := applyResizes r.vendor rebuild.cursor rebuild.session rebuild.resizes
  let want := min (stop info resizes - rebuild.cursor) ptydMaxReadBytes
  r.fed info rebuild session resizes (if r.supports "read" && answered then file.read rebuild.cursor want else none)

end

end

end

end

end Replacement

def RecoveryState.found (pty : PtySide) (sessionId : String) : RecoveryState V :=
  .recovering pty (pty.inner.info sessionId) .listed

def Rebuild.start (rebuild : Rebuild V) (pty : PtySide) : FlowState V :=
  ⟨pty,.starting rebuild.cursor,[],rebuild.session,rebuild.lastCheckpointSeq,none,[]⟩

def recoveryStep (r : Replacement V) : RecoveryState V → RecoveryAction V → Option (RecoveryState V)
  | .recovering pty info phase,.flow (.pty action) => (pty.step action).map fun pty => .recovering pty info phase
  | .recovering pty info phase,.flow .append => pty.append.map fun (_,pty) => .recovering pty info phase
  | .recovering pty info .listed,.blob answered =>
    if info.pid ≤ 0 ∨ info.exitCode.isSome then some (.exited pty (info.pid ≤ 0))
    else some (.recovering pty info (.restored (r.blobbed info pty.inner.file answered)))
  | .recovering pty info (.restored rebuild),.resizes answered =>
    some (.recovering pty info (.replaying (r.resized pty.inner.file answered rebuild)))
  | .recovering pty info (.replaying rebuild),.read answered =>
    if rebuild.cursor < info.outputOffset then
      some (.recovering pty info (r.read info pty.inner.file answered rebuild))
    else none
  | .recovering pty info (.replaying rebuild),.replayed =>
    if rebuild.cursor < info.outputOffset then none
    else some (.recovering pty info (.rebuilt (r.replayed info rebuild)))
  | .recovering pty _ (.rebuilt rebuild),.register opened =>
    some (if opened then .reading (rebuild.start pty) else .abandoned pty)
  | .reading flow,.flow action => (flowStep r.vendor (r.supports "checkpoint") flow action).map .reading
  | _,_ => none

def recoveryMachine (r : Replacement V) : Machine (RecoveryState V) (RecoveryAction V) := ⟨recoveryStep r⟩

@[simp] theorem resizeSession_seq (vendor : Vendor V) (session : SessionState V) (rows cols : UInt16) :
    (resizeSession vendor session rows cols).terminal.outputSeq = session.terminal.outputSeq :=
  (resize_terminal_fields session.terminal).1

theorem applyResizes_seq (vendor : Vendor V) (cursor : Nat) (resizes : List PtydResizeEntry) :
    (applyResizes vendor cursor session resizes).1.terminal.outputSeq = session.terminal.outputSeq := by
  induction resizes generalizing session with
  | nil => rfl
  | cons entry rest ih =>
    simp only [applyResizes]
    split
    · rw [ih,resizeSession_seq]
    · rfl

theorem foldl_resize_seq {resizes : List PtydResizeEntry} :
    (resizes.foldl (fun session entry => resizeSession vendor session entry.rows entry.cols) session).terminal.outputSeq =
      session.terminal.outputSeq := by
  induction resizes generalizing session with
  | nil => rfl
  | cons entry rest ih => rw [List.foldl_cons,ih,resizeSession_seq]

theorem sized_seq (r : Replacement V) {session : SessionState V} :
    (r.sized info session).terminal.outputSeq = session.terminal.outputSeq := by
  unfold Replacement.sized
  split
  · exact resizeSession_seq _ _ _ _
  · rfl

structure Rebuilding (info : PtydSessionInfo) (rebuild : Rebuild V) : Prop where
  position : rebuild.session.terminal.outputSeq = rebuild.cursor
  above : info.ringStart ≤ rebuild.cursor
  inside : rebuild.cursor ≤ info.outputOffset
  last : ∀ floor, info.checkpointOffset = some floor → rebuild.lastCheckpointSeq ≤ floor

def PhaseGood (info : PtydSessionInfo) : Phase V → Prop
  | .listed => True
  | .restored rebuild | .replaying rebuild => Rebuilding info rebuild
  | .rebuilt rebuild => Rebuilding info rebuild ∧ rebuild.cursor = info.outputOffset

-- Since the list was made the shell may have printed, but nobody has checkpointed.
structure Recovering (pty : PtySide) (info : PtydSessionInfo) (phase : Phase V) : Prop where
  represents : ∃ history, Represents pty.inner.file history
  kept : pty.inner.file.checkpoint = info.checkpointOffset
  target : info.outputOffset ≤ pty.inner.file.end
  window : info.ringStart ≤ info.outputOffset
  floor : ∀ floor, info.checkpointOffset = some floor → info.ringStart ≤ floor ∧ floor ≤ info.outputOffset
  phase : PhaseGood info phase

theorem found_recovering (valid : Represents pty.inner.file history) :
    Recovering pty (pty.inner.info sessionId) (.listed : Phase V) :=
  ⟨⟨history,valid⟩,rfl,Nat.le_refl _,Nat.sub_le _ _,valid.floor,True.intro⟩

theorem checkpoint_of_stored {r : Replacement V} {file : SessionFile} (taken : r.checkpoint info file.blob = some checkpoint) :
    file.checkpoint = some checkpoint.outputSeq ∧ checkpoint.outputSeq ≤ info.outputOffset := by
  cases stored : file.checkpoint with
  | none => simp [Replacement.checkpoint,SessionFile.blob,stored] at taken
  | some offset =>
    simp only [Replacement.checkpoint,SessionFile.blob,stored,map_some] at taken
    split at taken
    · obtain ⟨same,rfl⟩ := guard_parts taken
      exact ⟨by rw [same.1],same.1 ▸ same.2⟩
    · cases taken

section
variable (r : Replacement V)

theorem restore_rebuilding {checkpoint : Option Checkpoint}
    (window : info.ringStart ≤ info.outputOffset)
    (floor : ∀ floor, info.checkpointOffset = some floor → info.ringStart ≤ floor ∧ floor ≤ info.outputOffset)
    (usable : ∀ taken, checkpoint = some taken →
      info.checkpointOffset = some taken.outputSeq ∧ taken.outputSeq ≤ info.outputOffset) :
    Rebuilding info (r.restore info checkpoint) := by
  cases checkpoint with
  | none => exact ⟨rfl,Nat.le_refl _,window,fun offset stored => (floor offset stored).1⟩
  | some taken =>
    obtain ⟨same,inside⟩ := usable taken rfl
    refine ⟨rfl,(floor _ same).1,inside,?_⟩
    intro offset stored
    rw [same] at stored
    cases stored
    exact Nat.le_refl _

theorem blobbed_rebuilding (good : Recovering pty info phase) {answered : Bool} :
    Rebuilding info (r.blobbed info pty.inner.file answered) := by
  refine restore_rebuilding r good.window good.floor ?_
  intro taken equal
  split at equal
  · obtain ⟨stored,inside⟩ := checkpoint_of_stored equal
    exact ⟨good.kept.symm.trans stored,inside⟩
  · cases equal

theorem blanked_rebuilding (rebuilding : Rebuilding info rebuild) :
    Rebuilding info (r.blanked info rebuild) ∧ (r.blanked info rebuild).cursor = info.outputOffset :=
  ⟨⟨rfl,rebuilding.above.trans rebuilding.inside,Nat.le_refl _,rebuilding.last⟩,rfl⟩

theorem stop_le (info : PtydSessionInfo) (resizes : List PtydResizeEntry) :
    Replacement.stop info resizes ≤ info.outputOffset := by
  unfold Replacement.stop
  split
  · exact Nat.le_refl _
  · exact Nat.min_le_right _ _

theorem fed_good (rebuilding : Rebuilding info rebuild)
    (position : session.terminal.outputSeq = rebuild.cursor)
    (small : ∀ offset data, reply = some (offset,data) → rebuild.cursor + data.length ≤ info.outputOffset) :
    PhaseGood info (r.fed info rebuild session resizes reply) := by
  unfold Replacement.fed
  split
  · rename_i offset _
    split
    · rename_i accepted
      refine ⟨?_,rebuilding.above.trans (Nat.le_add_right _ _),small offset _ rfl,rebuilding.last⟩
      rw [(sessionFeed_reads r.vendor session accepted.2).1,position]
    · exact blanked_rebuilding r rebuilding
  · exact blanked_rebuilding r rebuilding

theorem read_good (rebuilding : Rebuilding info rebuild) (file : SessionFile)
    (more : rebuild.cursor < info.outputOffset) : PhaseGood info (r.read info file answered rebuild) := by
  unfold Replacement.read
  dsimp only
  refine fed_good r rebuilding ((applyResizes_seq _ _ _).trans rebuilding.position) ?_
  intro offset data replied
  split at replied
  · rcases read_cases file rebuild.cursor
        (min (Replacement.stop info (applyResizes r.vendor rebuild.cursor rebuild.session rebuild.resizes).2 - rebuild.cursor)
          ptydMaxReadBytes) with ⟨none,_⟩ | ⟨found,equal,length,_⟩
    · rw [none] at replied
      cases replied
    · rw [equal] at replied
      cases replied
      have bound := stop_le info (applyResizes r.vendor rebuild.cursor rebuild.session rebuild.resizes).2
      generalize Replacement.stop info _ = stop at *
      omega
  · cases replied

structure Paced (s : FlowState V) : Prop where
  valid : FlowInvariant s
  below : ∀ floor, s.file.checkpoint = some floor → floor ≤ s.seq
  idle : s.inFlight = none → ∀ floor, s.file.checkpoint = some floor → s.lastCheckpointSeq ≤ floor
  sent : ∀ checkpoint, s.inFlight = some checkpoint → s.lastCheckpointSeq = checkpoint.outputSeq
  none_late : s.late = []

theorem start_paced {rebuild : Rebuild V} (good : Recovering pty info (.rebuilt rebuild)) : Paced (rebuild.start pty) := by
  obtain ⟨rebuilding,finished⟩ := good.phase
  have position : (rebuild.start pty).seq = info.outputOffset := rebuilding.position.trans finished
  refine ⟨⟨good.represents,?_,fun _ => ⟨rfl,rfl,rfl⟩,?_,?_,?_,?_⟩,?_,?_,?_,rfl⟩
  · intro chunk mem
    cases mem
  · intro cursor started
    cases started
    exact ⟨rebuilding.position.symm,finished.trans_le good.target⟩
  · intro live
    cases live
  · intro checkpoint sent
    cases sent
  · intro checkpoint mem
    cases mem
  · intro floor stored
    rw [position]
    exact (good.floor _ (good.kept.symm.trans stored)).2
  · intro _ floor stored
    exact rebuilding.last _ (good.kept.symm.trans stored)
  · intro checkpoint sent
    cases sent

theorem recovering_step (good : Recovering pty info phase)
    (step : recoveryStep r (.recovering pty info phase) action = some next) :
    (∃ pty phase, next = .recovering pty info phase ∧ Recovering pty info phase) ∨
    (∃ discarded, next = .exited pty discarded ∧ (info.pid ≤ 0 ∨ info.exitCode.isSome)) ∨
    (next = .abandoned pty ∧ action = .register false) ∨
    ∃ rebuild : Rebuild V, next = .reading (rebuild.start pty) ∧ Paced (rebuild.start pty) := by
  have still : ∀ after : Phase V, PhaseGood info after → Recovering pty info after :=
    fun _ better => {good with phase := better}
  cases action with
  | flow action =>
    cases action with
    | pty action =>
      obtain ⟨after,moved,rfl⟩ := map_eq_some_iff.mp step
      obtain ⟨ends,checkpoint,represents,_⟩ := ptyStep_cases moved
      obtain ⟨history,valid⟩ := good.represents
      exact .inl ⟨after,phase,rfl,⟨history,represents _ valid⟩,checkpoint.trans good.kept,
        good.target.trans (Nat.le_of_eq ends.symm),good.window,good.floor,good.phase⟩
    | append =>
      obtain ⟨⟨piece,after⟩,appended,rfl⟩ := map_eq_some_iff.mp step
      obtain ⟨_,_,_,_,file,_,_,room⟩ := ptyAppend_parts appended
      obtain ⟨history,valid⟩ := good.represents
      refine .inl ⟨after,phase,rfl,⟨history ++ piece,?_⟩,?_,?_,good.window,good.floor,good.phase⟩
      · rw [file]
        exact append_represents valid room
      · rw [file]
        exact good.kept
      · rw [file,append_end]
        exact good.target.trans (Nat.le_add_right _ _)
    | _ => cases phase <;> cases step
  | blob answered =>
    cases phase with
    | listed =>
      simp only [recoveryStep] at step
      split at step
      · rename_i dead
        cases step
        exact .inr (.inl ⟨_,rfl,dead⟩)
      · cases step
        exact .inl ⟨pty,_,rfl,still _ (blobbed_rebuilding r good)⟩
    | _ => cases step
  | resizes answered =>
    cases phase with
    | restored rebuild =>
      cases step
      have rebuilding : Rebuilding info rebuild := good.phase
      exact .inl ⟨pty,_,rfl,still (.replaying _) {rebuilding with}⟩
    | _ => cases step
  | read answered =>
    cases phase with
    | replaying rebuild =>
      obtain ⟨more,rfl⟩ := guard_parts step
      exact .inl ⟨pty,_,rfl,still _ (read_good r good.phase _ more)⟩
    | _ => cases step
  | replayed =>
    cases phase with
    | replaying rebuild =>
      simp only [recoveryStep] at step
      split at step
      · cases step
      · rename_i done
        cases step
        have rebuilding : Rebuilding info rebuild := good.phase
        refine .inl ⟨pty,_,rfl,still (.rebuilt _) ⟨{rebuilding with position := ?_},?_⟩⟩
        · exact (sized_seq r).trans ((foldl_resize_seq).trans rebuilding.position)
        · exact Nat.le_antisymm rebuilding.inside (Nat.le_of_not_lt done)
    | _ => cases step
  | register opened =>
    cases phase with
    | rebuilt rebuild =>
      cases opened with
      | true =>
        cases step
        exact .inr (.inr (.inr ⟨rebuild,rfl,start_paced good⟩))
      | false =>
        cases step
        exact .inr (.inr (.inl ⟨rfl,rfl⟩))
    | _ => cases step

def RecoveryAction.succeeds : RecoveryAction V → Bool
  | .blob answered | .resizes answered | .read answered | .register answered => answered
  | .flow .subscribeFailed | .flow .givenUp | .flow (.lost _) => false
  | _ => true

theorem answered_paced (paced : Paced s) (sent : s.inFlight = some checkpoint) :
    Paced (s.checkpointed checkpoint).settled := by
  obtain ⟨offset,small⟩ := paced.valid.request checkpoint sent
  have last := paced.sent checkpoint sent
  have live : s.stage = .live := by
    by_contra off
    rw [(paced.valid.quiet off).2.1] at sent
    cases sent
  have position := paced.valid.position live
  have floors : ∀ floor, (s.checkpointed checkpoint).file.checkpoint = some floor → floor = checkpoint.outputSeq := by
    intro floor stored
    rcases checkpointed_cases paced.valid small (by omega) with ⟨same,_⟩ | ⟨_,_,renewed⟩
    · -- A request is refused only below the window, and the floor is not below it.
      rw [same] at stored
      obtain ⟨_,represents⟩ := paced.valid.represents
      have window := start_le.mp (represents.floor _ stored).1
      have below := paced.below _ stored
      omega
    · rw [renewed] at stored
      cases stored
      rfl
  refine ⟨settled_invariant (checkpointed_invariant paced.valid),?_,?_,fun _ later => (by cases later), paced.none_late⟩
  · intro floor stored
    rw [settled_file] at stored
    exact (floors _ stored).trans_le (Nat.le_of_eq offset)
  · intro _ floor stored
    rw [settled_file] at stored
    exact last.trans_le (Nat.le_of_eq (floors _ stored).symm)

theorem flowStep_paced (paced : Paced s) (succeeds : RecoveryAction.succeeds (.flow action))
    (step : flowStep vendor supported s action = some next) : Paced next := by
  have valid := flowStep_invariant _ _ s _ paced.valid step
  cases flowStep_move step with
  | pty _ moved =>
    obtain ⟨_,checkpoint,_⟩ := ptyStep_cases moved
    exact ⟨valid,fun floor stored => paced.below _ (checkpoint.symm.trans stored),
      fun idle floor stored => paced.idle idle _ (checkpoint.symm.trans stored),paced.sent,paced.none_late⟩
  | append _ pty appended =>
    obtain ⟨_,_,_,_,file,_⟩ := ptyAppend_parts appended
    have checkpoint : pty.inner.file.checkpoint = s.file.checkpoint := by rw [file]; rfl
    exact ⟨valid,fun floor stored => paced.below _ (checkpoint.symm.trans stored),
      fun idle floor stored => paced.idle idle _ (checkpoint.symm.trans stored),paced.sent,paced.none_late⟩
  | subscribe =>
    unfold FlowState.subscribe at valid ⊢
    split at valid <;> exact {paced with valid := valid}
  | subscribeFailed | givenUp | lost => cases succeeds
  | feed batch rest idle joined =>
    obtain ⟨_,nonempty,_⟩ := coalesce_parts paced.valid.filled joined
    obtain ⟨position,_⟩ := sessionFeed_reads _ _ nonempty
    have below : ∀ floor, s.file.checkpoint = some floor → floor ≤ (s.session.feed vendor batch).1.terminal.outputSeq := by
      intro floor stored
      rw [position]
      exact (paced.below _ stored).trans (Nat.le_add_right _ _)
    rcases readerBatch_cases vendor supported s nonempty with ⟨_,equal,offset,_⟩ | ⟨equal,_⟩
    · rw [equal] at valid ⊢
      refine ⟨valid,below,fun idle => (by cases idle),?_,paced.none_late⟩
      intro later same
      cases same
      exact offset.symm
    · rw [equal] at valid ⊢
      exact {paced with valid := valid,below := below}
  | serve same =>
    exact {paced with valid := valid,below := fun _ stored => (paced.below _ stored).trans (Nat.le_of_eq same.1.symm)}
  | answered _ sent =>
    exact answered_paced paced sent
  | carriedOut index => simp [flowStep,paced.none_late] at step

theorem paced_interval (paced : Paced s) (idle : s.inFlight = none) (full : s.file.writeBudget = 0)
    (joined : coalescePtyOutput arriving s.unread = some (batch,[])) :
    checkpointIntervalBytes ≤ s.seq + batch.length - s.lastCheckpointSeq := by
  obtain ⟨whole,_,_⟩ := coalesce_parts paced.valid.filled joined
  have live : s.stage = .live := by
    by_contra off
    rw [(paced.valid.quiet off).1] at joined
    cases joined
  have position := paced.valid.position live
  obtain ⟨_,represents⟩ := paced.valid.represents
  cases stored : s.file.checkpoint with
  | none => exact absurd full (unbounded_budget stored)
  | some floor =>
    have budget := writeBudget_of_checkpoint represents stored
    have last := paced.idle idle _ stored
    have half : checkpointIntervalBytes ≤ ptydRingCapacity := by decide
    rw [← whole,List.flatten_nil,List.append_nil] at position
    rw [full] at budget
    omega

def Supplied : RecoveryState V → Prop
  | .reading flow => Waiting flow → CanAdvance r.vendor (r.supports "checkpoint") flow
  | _ => True

-- The reader subscribes to a full ring with nothing after its cursor, or empties a full ring where
-- no checkpoint can be made.
def Strands : RecoveryState V → RecoveryAction V → Prop
  | .reading flow,.flow .subscribe =>
    flow.pty.Running ∧ flow.file.writeBudget = 0 ∧ flow.stage = .starting flow.file.end
  | .reading flow,.flow (.feed arriving) => flow.pty.Running ∧ flow.file.writeBudget = 0 ∧
      ∃ batch, coalescePtyOutput arriving flow.unread = some (batch,[]) ∧ ¬(r.supports "checkpoint" = true ∧
          (scanAll r.vendor.base64 flow.session.terminal.scanner batch).betweenSequences = true ∧
          Fits r.vendor (flow.session.feed r.vendor batch).1.terminal ptydBlobCapacity)
  | _,_ => False

def RecoveryPaced : RecoveryState V → Prop
  | .recovering pty info phase => Recovering pty info phase
  | .reading flow => Paced flow
  | _ => True

theorem recoveryStep_paced (s : RecoveryState V) (action : RecoveryAction V) {next : RecoveryState V}
    (paced : RecoveryPaced s) (step : ((recoveryMachine r).only RecoveryAction.succeeds).step s action = some next) :
    RecoveryPaced next := by
  obtain ⟨succeeds,step⟩ := only_parts step
  cases s with
  | recovering pty info phase =>
    rcases recovering_step r paced step with
      ⟨pty,phase,rfl,good⟩ | ⟨discarded,rfl,_⟩ | ⟨rfl,_⟩ | ⟨rebuild,rfl,started⟩
    · exact good
    · exact True.intro
    · exact True.intro
    · exact started
  | exited | abandoned => cases action <;> cases step
  | reading flow =>
    cases action with
    | flow action =>
      obtain ⟨_,moved,rfl⟩ := map_eq_some_iff.mp step
      exact flowStep_paced paced succeeds moved
    | _ => cases step

theorem supplied_reading : Supplied r (.reading flow) ↔ ¬Waiting flow :=
  ⟨fun good waiting => waiting_forever _ _ waiting (good waiting),fun calm waiting => absurd waiting calm⟩

-- For a paced reader, to starve is to find the ring full at the wrong place.
theorem starves_iff_strands (paced : Paced flow) (succeeds : RecoveryAction.succeeds (.flow action))
    (step : flowStep r.vendor (r.supports "checkpoint") flow action = some next) :
    Starves r.vendor (r.supports "checkpoint") flow action ∨ StartsFull flow action ↔ Strands r (.reading flow) (.flow action) := by
  cases action with
  | feed arriving =>
    have idle : flow.inFlight = none := by
      by_contra busy
      simp [flowStep,busy] at step
    simp only [StartsFull,or_false]
    constructor
    · rintro ⟨running,full,_,batch,joined,undue⟩
      refine ⟨running,full,batch,joined,?_⟩
      rintro ⟨supported,between,fits⟩
      exact undue ⟨paced_interval paced idle full joined,supported,between,fits⟩
    · rintro ⟨running,full,batch,joined,bad⟩
      exact ⟨running,full,paced.none_late,batch,joined,fun due => bad ⟨due.supported,due.between,due.fits⟩⟩
  | subscribe => simp only [Starves,StartsFull,Strands,false_or]
  | carriedOut index => simp [flowStep,paced.none_late] at step
  | lost index => cases succeeds
  | pty | append | subscribeFailed | serve | answered | givenUp => simp only [Starves,StartsFull,Strands,or_self]

end

theorem recovery_never_frozen_iff (r : Replacement V) (sessionId : String) {pty : PtySide}
    (valid : Represents pty.inner.file history)
    (ran : ((recoveryMachine r).only RecoveryAction.succeeds).run (.found pty sessionId) actions = some last) :
    ((recoveryMachine r).only RecoveryAction.succeeds).Throughout (Supplied r) (.found pty sessionId) actions ↔
      ((recoveryMachine r).only RecoveryAction.succeeds).Along (fun s action => ¬Strands r s action)
        (.found pty sessionId) actions := by
  refine throughout_iff_along (recoveryStep_paced r) ?_ (found_recovering valid) True.intro ran
  intro s action next paced good step
  obtain ⟨succeeds,step⟩ := only_parts step
  cases s with
  | recovering pty info phase =>
    have harmless : ¬Strands r (.recovering pty info phase) action := id
    rcases recovering_step r paced step with
      ⟨pty,phase,rfl,_⟩ | ⟨discarded,rfl,_⟩ | ⟨rfl,_⟩ | ⟨rebuild,rfl,_⟩
    · exact ⟨fun _ => harmless,fun _ => True.intro⟩
    · exact ⟨fun _ => harmless,fun _ => True.intro⟩
    · exact ⟨fun _ => harmless,fun _ => True.intro⟩
    · refine ⟨fun _ => harmless,fun _ waiting => ?_⟩
      cases waiting.live
  | exited | abandoned => cases action <;> cases step
  | reading flow =>
    cases action with
    | flow action =>
      obtain ⟨_,moved,rfl⟩ := map_eq_some_iff.mp step
      have halts := flowStep_waiting _ (r.supports "checkpoint") paced.valid
        ((supplied_reading r).mp good) moved
      rw [supplied_reading,halts,starves_iff_strands r paced succeeds moved]
    | _ => cases step

-- discard_ptyd_session has been called for the session.
def KillIssued : RecoveryState V → Prop
  | .exited _ discarded => discarded = true
  | .reading flow => flow.stage = .discarded
  | _ => False

def InTime : RecoveryState V → RecoveryAction V → Prop
  | .reading flow,.flow .subscribe =>
    ∀ cursor, flow.stage = .starting cursor → flow.file.end ≤ cursor + ptydRingCapacity
  | .reading _,.flow .subscribeFailed => False
  | _,_ => True

def TakingOver : RecoveryState V → Prop
  | .recovering pty info phase => Recovering pty info phase ∧ 0 < info.pid ∧ info.exitCode = none
  | .exited _ _ => False
  | .abandoned _ => True
  | .reading flow => FlowInvariant flow ∧
      ∀ cursor floor, flow.stage = .starting cursor → flow.file.checkpoint = some floor → floor ≤ cursor

theorem flowStep_stage (valid : FlowInvariant s) (step : flowStep vendor supported s action = some next) :
    next.stage = s.stage ∧ next.file.checkpoint = s.file.checkpoint ∨ s.stage = .live ∧ next.stage = .live ∨
      ∃ cursor, s.stage = .starting cursor ∧
        (action = .subscribe ∧ next = s.subscribe cursor ∨ action = .subscribeFailed ∧ next.stage = .discarded) := by
  cases flowStep_move step with
  | pty _ moved =>
    obtain ⟨_,checkpoint,_⟩ := ptyStep_cases moved
    exact .inl ⟨rfl,checkpoint⟩
  | append _ _ appended =>
    obtain ⟨_,_,_,_,file,_⟩ := ptyAppend_parts appended
    exact .inl ⟨rfl,by simp only [FlowState.file,FlowState.appended,file]; rfl⟩
  | subscribe cursor started =>
    exact .inr (.inr ⟨cursor,started,.inl ⟨rfl,rfl⟩⟩)
  | subscribeFailed cursor started =>
    exact .inr (.inr ⟨cursor,started,.inr ⟨rfl,rfl⟩⟩)
  | feed _ rest _ joined =>
    obtain ⟨_,nonempty,_⟩ := coalesce_parts valid.filled joined
    rcases readerBatch_cases vendor supported s nonempty with ⟨_,equal,_⟩ | ⟨equal,_⟩
    · rw [equal]
      exact .inl ⟨rfl,rfl⟩
    · rw [equal]
      exact .inl ⟨rfl,rfl⟩
  | serve | givenUp | lost =>
    exact .inl ⟨rfl,rfl⟩
  | answered _ sent =>
    have live : s.stage = .live := by
      by_contra off
      rw [(valid.quiet off).2.1] at sent
      cases sent
    exact .inr (.inl ⟨live,live⟩)
  | carriedOut _ found =>
    have live : s.stage = .live := by
      by_contra off
      rw [(valid.quiet off).2.2] at found
      cases found
    exact .inr (.inl ⟨live,live⟩)

theorem recoveryStep_takingOver (s : RecoveryState V) (action : RecoveryAction V)
    {next : RecoveryState V} (taking : TakingOver s) (step : recoveryStep r s action = some next) : TakingOver next := by
  cases s with
  | recovering pty info phase =>
    obtain ⟨good,spawned,alive⟩ := taking
    rcases recovering_step r good step with
      ⟨pty,phase,rfl,better⟩ | ⟨discarded,rfl,dead⟩ | ⟨rfl,_⟩ | ⟨rebuild,rfl,started⟩
    · exact ⟨better,spawned,alive⟩
    · rcases dead with unspawned | ended
      · omega
      · rw [alive] at ended
        cases ended
    · exact True.intro
    · refine ⟨started.valid,?_⟩
      intro cursor floor stage stored
      exact (started.below _ stored).trans (Nat.le_of_eq (started.valid.cursor cursor stage).1.symm)
  | exited pty discarded => cases taking
  | abandoned pty => cases action <;> cases step
  | reading flow =>
    cases action with
    | flow action =>
      obtain ⟨_,moved,rfl⟩ := map_eq_some_iff.mp step
      obtain ⟨valid,floors⟩ := taking
      refine ⟨flowStep_invariant _ _ _ _ valid moved,?_⟩
      intro cursor floor stage stored
      rcases flowStep_stage valid moved with ⟨same,kept⟩ | ⟨_,live⟩ | ⟨_,_,⟨_,rfl⟩ | ⟨_,gone⟩⟩
      · exact floors cursor _ (same.symm.trans stage) (kept.symm.trans stored)
      · rw [live] at stage
        cases stage
      · unfold FlowState.subscribe at stage
        split at stage <;> cases stage
      · rw [gone] at stage
        cases stage
    | _ => cases step

theorem subscribe_discarded {flow : FlowState V} (valid : FlowInvariant flow) (started : flow.stage = .starting cursor) :
    (flow.subscribe cursor).stage ≠ .discarded ↔ flow.file.end ≤ cursor + ptydRingCapacity := by
  obtain ⟨_,inside⟩ := valid.cursor cursor started
  unfold FlowState.subscribe
  split
  · rename_i refused
    constructor
    · intro kept
      exact absurd rfl kept
    · intro held
      rw [checkOffset_inside (start_le.mpr held) inside] at refused
      cases refused
  · rename_i passed
    constructor
    · intro _
      exact start_le.mp (checkOffset_none passed).1
    · intro _ gone
      cases gone

theorem takeover_spares_iff (r : Replacement V) (sessionId : String) {pty : PtySide}
    (valid : Represents pty.inner.file history) (alive : pty.inner.exit = none) (spawned : pty.inner.pid = some pid)
    (positive : 0 < pid) (ran : (recoveryMachine r).run (.found pty sessionId) actions = some last) :
    (recoveryMachine r).Throughout (fun s => ¬KillIssued s) (.found pty sessionId) actions ↔
      (recoveryMachine r).Along InTime (.found pty sessionId) actions := by
  have start : TakingOver (.found pty sessionId : RecoveryState V) :=
    ⟨found_recovering valid,by simpa [SessionInner.info,spawned] using positive,alive⟩
  refine throughout_iff_along recoveryStep_takingOver ?_ start id ran
  intro s action next taking spared step
  cases s with
  | recovering pty info phase =>
    have fine : InTime (.recovering pty info phase) action := by cases action <;> exact True.intro
    obtain ⟨good,_,running⟩ := taking
    rcases recovering_step r good step with
      ⟨pty,phase,rfl,_⟩ | ⟨discarded,rfl,dead⟩ | ⟨rfl,_⟩ | ⟨rebuild,rfl,_⟩
    · exact ⟨fun _ => fine,fun _ => id⟩
    · rcases dead with unspawned | ended
      · omega
      · rw [running] at ended
        cases ended
    · exact ⟨fun _ => fine,fun _ => id⟩
    · refine ⟨fun _ => fine,fun _ gone => ?_⟩
      cases gone
  | exited pty discarded => cases taking
  | abandoned pty => cases action <;> cases step
  | reading flow =>
    cases action with
    | flow action =>
      obtain ⟨_,moved,rfl⟩ := map_eq_some_iff.mp step
      have kept : flow.stage ≠ .discarded := spared
      rcases flowStep_stage taking.1 moved with ⟨same,_⟩ | ⟨live,stays⟩ | ⟨cursor,started,⟨rfl,rfl⟩ | ⟨rfl,gone⟩⟩
      · have fine : InTime (.reading flow) (.flow action) := by
          cases action with
          | subscribe =>
            intro cursor started
            simp only [flowStep,started,Option.some.injEq] at moved
            refine (subscribe_discarded taking.1 started).mp ?_
            rw [moved,same]
            exact kept
          | subscribeFailed =>
            simp only [flowStep] at moved
            split at moved
            · cases moved
              exact absurd same.symm kept
            · cases moved
          | _ => exact True.intro
        exact ⟨fun _ => fine,fun _ gone => kept (same.symm.trans gone)⟩
      · have fine : InTime (.reading flow) (.flow action) := by
          cases action with
          | subscribe =>
            intro cursor started
            rw [live] at started
            cases started
          | subscribeFailed => simp [flowStep,live] at moved
          | _ => exact True.intro
        refine ⟨fun _ => fine,fun _ gone => ?_⟩
        cases stays.symm.trans gone
      · rw [show KillIssued (.reading (flow.subscribe cursor)) ↔ (flow.subscribe cursor).stage = .discarded from Iff.rfl,
          ← ne_eq,subscribe_discarded taking.1 started]
        constructor
        · intro held other same
          rw [started] at same
          cases same
          exact held
        · intro fine
          exact fine cursor started
      · exact ⟨fun spared => absurd gone spared,fun impossible => impossible.elim⟩
    | _ => cases step

theorem applyResizes_head (vendor : Vendor V) (session : SessionState V) (resizes : List PtydResizeEntry) :
    ∀ entry ∈ (applyResizes vendor cursor session resizes).2.head?, cursor < entry.offset := by
  induction resizes generalizing session with
  | nil =>
    intro entry mem
    cases mem
  | cons first rest ih =>
    simp only [applyResizes]
    split
    · exact ih _
    · rename_i later
      intro entry mem
      cases mem
      exact Nat.lt_of_not_le later

theorem stop_gt (more : cursor < info.outputOffset)
    (later : ∀ entry ∈ resizes.head?, cursor < entry.offset) : cursor < Replacement.stop info resizes := by
  cases resizes with
  | nil => exact more
  | cons entry rest => exact Nat.lt_min.mpr ⟨later _ rfl,more⟩

section
variable (r : Replacement V) (reads : r.supports "read" = true)
include r reads

theorem read_advances (held : file.start ≤ rebuild.cursor) (target : info.outputOffset ≤ file.end)
    (more : rebuild.cursor < info.outputOffset) :
    ∃ after, r.read info file true rebuild = .replaying after ∧ rebuild.cursor < after.cursor := by
  have forward := stop_gt more (applyResizes_head r.vendor rebuild.session rebuild.resizes)
  unfold Replacement.read
  simp only [reads,Bool.and_self,if_true]
  generalize Replacement.stop info _ = stop at *
  have positive : 0 < ptydMaxReadBytes := by decide
  have wanted : 0 < min (stop - rebuild.cursor) ptydMaxReadBytes := by omega
  generalize min (stop - rebuild.cursor) ptydMaxReadBytes = want at *
  rcases read_cases file rebuild.cursor want with ⟨_,_⟩ | ⟨data,equal,length,_⟩
  · omega
  · have filled : data ≠ [] := by
      intro empty
      rw [empty,List.length_nil] at length
      omega
    rw [equal]
    refine ⟨_,if_pos ⟨rfl,filled⟩,?_⟩
    exact Nat.lt_add_of_pos_right (List.length_pos_iff.mpr filled)

theorem replay_completes (rebuild : Rebuild V)
    (good : Recovering pty info (.replaying rebuild)) (same : pty.inner.file.start = info.ringStart) :
    ∃ actions after, ((recoveryMachine r).only RecoveryAction.succeeds).run (.recovering pty info (.replaying rebuild)) actions =
      some (.recovering pty info (.rebuilt after)) := by
  induction left : info.outputOffset - rebuild.cursor using Nat.strong_induction_on generalizing rebuild with
  | _ left ih =>
    have rebuilding : Rebuilding info rebuild := good.phase
    by_cases more : rebuild.cursor < info.outputOffset
    · obtain ⟨after,equal,_⟩ := read_advances r reads (same.trans_le rebuilding.above) good.target more
      have step : recoveryStep r (.recovering pty info (.replaying rebuild)) (.read true) =
          some (.recovering pty info (.replaying after)) := by
        simp only [recoveryStep,if_pos more,equal]
      have better : Recovering pty info (.replaying after) :=
        {good with phase := equal ▸ read_good r rebuilding _ more}
      obtain ⟨actions,last,ran⟩ := ih (info.outputOffset - after.cursor) (by omega) after better rfl
      have first : ((recoveryMachine r).only RecoveryAction.succeeds).step (.recovering pty info (.replaying rebuild))
          (.read true) = some (.recovering pty info (.replaying after)) := step
      exact ⟨.read true :: actions,last,(run_cons first).trans ran⟩
    · refine ⟨[.replayed],r.replayed info rebuild,?_⟩
      have first : ((recoveryMachine r).only RecoveryAction.succeeds).step (.recovering pty info (.replaying rebuild))
          .replayed = some (.recovering pty info (.rebuilt (r.replayed info rebuild))) := if_neg more
      rw [run_cons first,run_nil]

theorem takeover_rebuilt {pty : PtySide} (valid : Represents pty.inner.file history) (alive : pty.inner.exit = none)
    (spawned : pty.inner.pid = some pid) (positive : 0 < pid) (sessionId : String) :
    ∃ actions rebuild, ((recoveryMachine r).only RecoveryAction.succeeds).run (.found pty sessionId) actions =
        some (.recovering pty (pty.inner.info sessionId) (.rebuilt rebuild)) ∧
      Recovering pty (pty.inner.info sessionId) (.rebuilt rebuild) := by
  have listed : ¬((pty.inner.info sessionId).pid ≤ 0 ∨ (pty.inner.info sessionId).exitCode.isSome) := by
    simp [SessionInner.info,spawned,alive,positive]
  have blob : ((recoveryMachine r).only RecoveryAction.succeeds).step (.found pty sessionId) (.blob true) =
      some (.recovering pty (pty.inner.info sessionId) (.restored (r.blobbed (pty.inner.info sessionId) pty.inner.file true))) :=
    if_neg listed
  have resizes : ((recoveryMachine r).only RecoveryAction.succeeds).step
      (.recovering pty (pty.inner.info sessionId) (.restored (r.blobbed (pty.inner.info sessionId) pty.inner.file true)))
      (.resizes true) = some (.recovering pty (pty.inner.info sessionId)
        (.replaying (r.resized pty.inner.file true (r.blobbed (pty.inner.info sessionId) pty.inner.file true)))) := rfl
  have start : RecoveryPaced (.found pty sessionId : RecoveryState V) := found_recovering valid
  have middle := run_preserves (recoveryStep_paced r) start ((run_cons blob).trans ((run_cons resizes).trans run_nil))
  obtain ⟨actions,after,ran⟩ := replay_completes r reads _ middle rfl
  have rebuilt := run_preserves (recoveryStep_paced r) middle ran
  exact ⟨.blob true :: .resizes true :: actions,after,(run_cons blob).trans ((run_cons resizes).trans ran),rebuilt⟩

-- Whatever fills the ring, a takeover that finds it full freezes it for good.
theorem full_ring_freezes {pty : PtySide} (valid : Represents pty.inner.file history) (running : pty.Running)
    (spawned : pty.inner.pid = some pid) (positive : 0 < pid) (full : pty.inner.file.writeBudget = 0) (sessionId : String) :
    ∃ actions flow, ((recoveryMachine r).only RecoveryAction.succeeds).run (.found pty sessionId) actions =
      some (.reading flow) ∧ Waiting flow := by
  obtain ⟨actions,rebuild,ran,good⟩ := takeover_rebuilt r reads valid running.1 spawned positive _
  obtain ⟨_,finished⟩ := good.phase
  have register : ((recoveryMachine r).only RecoveryAction.succeeds).step
      (.recovering pty (pty.inner.info sessionId) (.rebuilt rebuild)) (.register true) = some (.reading (rebuild.start pty)) := rfl
  have subscribe : ((recoveryMachine r).only RecoveryAction.succeeds).step (.reading (rebuild.start pty))
      (.flow .subscribe) = some (.reading ((rebuild.start pty).subscribe rebuild.cursor)) := rfl
  refine ⟨actions ++ [.register true,.flow .subscribe],_,
    (run_append ran).trans ((run_cons register).trans ((run_cons subscribe).trans run_nil)),?_⟩
  refine (subscribe_waiting (start_paced good).valid rfl).mpr ⟨running,full,?_⟩
  rw [show (rebuild.start pty).stage = .starting rebuild.cursor from rfl,finished]
  rfl

end

structure Idle (pty : PtySide) (printed : Nat) (floor : Option Nat) : Prop where
  represents : ∃ history, Represents pty.inner.file history
  running : pty.Running
  spawned : pty.inner.pid = some 100
  hands : pty.pending = []
  ends : pty.inner.file.end = printed
  checkpoint : pty.inner.file.checkpoint = floor

theorem prints {State Action : Type} {m : Machine State Action} {s : State} (may : State → Prop)
    (side : State → PtySide) (read : Bytes → Action) (append : Action)
    (reads : ∀ s chunk pty, may s → (side s).step (.read chunk) = some pty →
      ∃ next, m.step s (read chunk) = some next ∧ side next = pty ∧ may next)
    (appends : ∀ s piece pty, may s → (side s).append = some (piece,pty) →
      ∃ next, m.step s append = some next ∧ side next = pty ∧ may next)
    (rounds : Nat) (start : may s) (idle : Idle (side s) printed floor)
    (room : ∀ offset, floor = some offset → printed + rounds * readBufferBytes ≤ offset + ptydRingCapacity) :
    ∃ actions next, m.run s actions = some next ∧ may next ∧ Idle (side next) (printed + rounds * readBufferBytes) floor := by
  induction rounds with
  | zero => exact ⟨[],s,rfl,start,by rwa [Nat.zero_mul,Nat.add_zero]⟩
  | succ rounds ih =>
    have total : (rounds + 1) * readBufferBytes = rounds * readBufferBytes + readBufferBytes := Nat.succ_mul _ _
    obtain ⟨actions,middle,ran,allowed,idle⟩ := ih (by
      intro offset stored
      have bound := room offset stored
      omega)
    have length := plainText_length readBufferBytes
    have filled : plainText readBufferBytes ≠ [] := plainText_filled (by decide)
    have budget : readBufferBytes ≤ (side middle).inner.file.writeBudget := by
      obtain ⟨history,represents⟩ := idle.represents
      cases stored : floor with
      | none =>
        simp only [SessionFile.writeBudget,idle.checkpoint,stored]
        decide
      | some offset =>
        have bound := room offset stored
        rw [writeBudget_of_checkpoint represents (idle.checkpoint.trans stored),idle.ends]
        omega
    obtain ⟨holding,appended⟩ := printed_pty idle.running idle.hands filled (Nat.le_of_eq length) (length.trans_le budget)
    obtain ⟨_,stepRead,sideRead,allowed⟩ := reads _ _ _ allowed holding
    obtain ⟨next,stepAppend,sideAppend,allowed⟩ := appends _ _ _ allowed (sideRead ▸ appended)
    refine ⟨actions ++ [read (plainText readBufferBytes),append],next,
      (run_append ran).trans ((run_cons stepRead).trans ((run_cons stepAppend).trans run_nil)),allowed,?_⟩
    obtain ⟨history,represents⟩ := idle.represents
    have file : ((side middle).printed (plainText readBufferBytes)).inner.file =
        ((side middle).inner.file.append (plainText readBufferBytes)).2 := printed_inner (length.trans_le budget)
    rw [sideAppend,total]
    refine ⟨⟨history ++ plainText readBufferBytes,?_⟩,idle.running,idle.spawned,rfl,?_,?_⟩
    · rw [file]
      exact append_represents represents (length.trans_le budget)
    · rw [file,append_end,idle.ends,length,Nat.add_assoc]
    · rw [file]
      exact idle.checkpoint

def successor (header : Bytes → Option CheckpointHeader) : Replacement Unit :=
  ⟨blankVendor,fun _ => true,header,fun _ => "",1000⟩

theorem shell_idle : Idle shellStart.pty 0 none :=
  ⟨⟨[],new_represents ""⟩,⟨rfl,rfl⟩,rfl,rfl,rfl,rfl⟩

theorem recovery_never_frozen_shell :
    ∃ actions last, ((recoveryMachine (successor fun _ => none)).only RecoveryAction.succeeds).run
        (.found shellStart.pty "shell") actions = some last ∧
      (((recoveryMachine (successor fun _ => none)).only RecoveryAction.succeeds).Throughout (Supplied (successor fun _ => none))
          (.found shellStart.pty "shell") actions ↔
        ((recoveryMachine (successor fun _ => none)).only RecoveryAction.succeeds).Along
          (fun s action => ¬Strands (successor fun _ => none) s action) (.found shellStart.pty "shell") actions) := by
  obtain ⟨_,represents⟩ := shell_idle.represents
  obtain ⟨actions,_,ran,_⟩ :=
    takeover_rebuilt (successor fun _ => none) rfl represents shell_idle.running.1 shell_idle.spawned (by decide) "shell"
  exact ⟨actions,_,ran,recovery_never_frozen_iff (successor fun _ => none) "shell" represents ran⟩

-- The shell fills the ring with plain text after the one checkpoint. The new runtime replays it all
-- and never asks for a checkpoint.
theorem full_ring_taken_over : ∃ before flow, (flowMachine blankVendor true).run shellStart before = some flow ∧
      ∀ header, ∃ actions after, ((recoveryMachine (successor header)).only RecoveryAction.succeeds).run
          (.found flow.pty "shell") actions = some (.reading after) ∧
        Waiting after ∧ ¬CanAdvance blankVendor true after := by
  have whole : 512 * readBufferBytes = ptydRingCapacity := by decide
  obtain ⟨actions,s,ran,shell⟩ := shell_checkpoint
  have valid := run_preserves (flowStep_invariant _ _)
    (created_invariant _ "" "" shellPair 100 0) ran
  obtain ⟨more,flow,printed,_,idle⟩ := prints (m := flowMachine _ _) (fun _ => True) FlowState.pty
    (fun chunk => .pty (.read chunk)) .append
    (fun s _ pty _ moved => ⟨{s with pty := pty},by simp only [flowMachine,flowStep,moved,map_some],rfl,True.intro⟩)
    (fun s piece pty _ moved => ⟨s.appended piece pty,by simp only [flowMachine,flowStep,moved,map_some],rfl,True.intro⟩)
    512 True.intro {shell with represents := valid.represents} (by
      intro offset stored
      cases stored
      exact Nat.le_of_eq (congrArg (checkpointIntervalBytes + ·) whole))
  refine ⟨actions ++ more,flow,(run_append ran).trans printed,?_⟩
  intro header
  obtain ⟨_,represents⟩ := idle.represents
  have full : flow.pty.inner.file.writeBudget = 0 := by
    rw [writeBudget_of_checkpoint represents idle.checkpoint,idle.ends,whole,Nat.sub_self]
  obtain ⟨actions,after,ran,waiting⟩ :=
    full_ring_freezes (successor header) rfl represents idle.running idle.spawned (by decide) full "shell"
  exact ⟨actions,after,ran,waiting,waiting_forever _ _ waiting⟩

theorem takeover_spares_shell :
    ∃ actions last, (recoveryMachine (successor fun _ => none)).run (.found shellStart.pty "shell") actions = some last ∧
      ((recoveryMachine (successor fun _ => none)).Throughout (fun s => ¬KillIssued s) (.found shellStart.pty "shell") actions ↔
        (recoveryMachine (successor fun _ => none)).Along InTime (.found shellStart.pty "shell") actions) := by
  obtain ⟨_,represents⟩ := shell_idle.represents
  obtain ⟨actions,_,ran,_⟩ :=
    takeover_rebuilt (successor fun _ => none) rfl represents shell_idle.running.1 shell_idle.spawned (by decide) "shell"
  exact ⟨actions,_,only_run ran,takeover_spares_iff (successor fun _ => none) "shell" represents shell_idle.running.1
    shell_idle.spawned (by decide) (only_run ran)⟩

def RecoveryState.pty : RecoveryState V → PtySide
  | .recovering pty _ _ | .exited pty _ | .abandoned pty => pty
  | .reading flow => flow.pty

-- More than a ring is printed between the list and the subscription.
theorem busy_shell_killed : shellStart.pty.Running ∧ shellStart.pty.inner.pid = some 100 ∧
      ∃ actions last, ((recoveryMachine (successor fun _ => none)).only RecoveryAction.succeeds).run
        (.found shellStart.pty "shell") actions = some last ∧ KillIssued last := by
  refine ⟨shell_idle.running,shell_idle.spawned,?_⟩
  obtain ⟨_,represents⟩ := shell_idle.represents
  obtain ⟨actions,rebuild,ran,good⟩ :=
    takeover_rebuilt (successor fun _ => none) rfl represents shell_idle.running.1 shell_idle.spawned (by decide) "shell"
  obtain ⟨more,_,printed,⟨pty,rfl⟩,idle⟩ := prints
    (m := (recoveryMachine (successor fun _ => none)).only RecoveryAction.succeeds)
    (fun s => ∃ pty, s = .recovering pty (shellStart.pty.inner.info "shell") (.rebuilt rebuild)) RecoveryState.pty
    (fun chunk => .flow (.pty (.read chunk))) (.flow .append)
    (by
      rintro _ chunk pty ⟨before,rfl⟩ moved
      have step : before.step (.read chunk) = some pty := moved
      refine ⟨.recovering pty _ _,?_,rfl,pty,rfl⟩
      simp only [Machine.only,recoveryMachine,recoveryStep,RecoveryAction.succeeds,if_true,step,map_some])
    (by
      rintro _ piece pty ⟨before,rfl⟩ moved
      have step : before.append = some (piece,pty) := moved
      refine ⟨.recovering pty _ _,?_,rfl,pty,rfl⟩
      simp only [Machine.only,recoveryMachine,recoveryStep,RecoveryAction.succeeds,if_true,step,map_some])
    513 ⟨shellStart.pty,rfl⟩ shell_idle (fun _ stored => (by cases stored))
  have rebuilt : RecoveryPaced (.recovering shellStart.pty (shellStart.pty.inner.info "shell") (.rebuilt rebuild)) := good
  have later := run_preserves (recoveryStep_paced (successor fun _ => none)) rebuilt printed
  have started : Paced (rebuild.start pty) := start_paced later
  refine ⟨actions ++ (more ++ [.register true,.flow .subscribe]),.reading ((rebuild.start pty).subscribe rebuild.cursor),
    (run_append ran).trans ((run_append printed).trans rfl),?_⟩
  have evicted : ¬(rebuild.start pty).file.end ≤ rebuild.cursor + ptydRingCapacity := by
    have ends : (rebuild.start pty).file.end = 0 + 513 * readBufferBytes := idle.ends
    have cursor : rebuild.cursor = 0 := good.phase.2
    rw [ends,cursor]
    decide
  exact not_not.mp fun kept => evicted ((subscribe_discarded started.valid rfl).mp kept)

end Coflux.Runtime
