import Coflux.Ptyd.Subscription
import Coflux.Sessiond.Checkpoint
import Coflux.Sessiond.Events
import Coflux.Sessiond.Holder
import Coflux.Sessiond.Stream

namespace Coflux.Runtime
open StepMachine Ptyd Sessiond
open SessionFile (replayFuel writeBudget)

-- The read loop of ptyd stops without a write budget, and only the checkpoints of sessiond's reader
-- renew the budget.

def outputCoalesceMaxBytes : Nat := 64 * 1024
def checkpointIntervalBytes : Nat := ptydRingCapacity / 2

-- How many further chunks arrive before the window closes is up to the clock.
def coalesceMore : Nat → Bytes → List Bytes → Bytes × List Bytes
  | 0,batch,chunks => (batch,chunks)
  | _,batch,[] => (batch,[])
  | arriving + 1,batch,chunk :: chunks =>
    if (batch ++ chunk).length ≥ outputCoalesceMaxBytes then (batch ++ chunk,chunks)
    else coalesceMore arriving (batch ++ chunk) chunks

def coalescePtyOutput (arriving : Nat) : List Bytes → Option (Bytes × List Bytes)
  | [] => none
  | first :: chunks =>
    if first.length ≥ outputCoalesceMaxBytes then some (first,chunks)
    else some (coalesceMore arriving first chunks)

structure PtySide where
  inner : SessionInner
  pending : Bytes

inductive PtyAction where
  | read (chunk : Bytes)
  | exit (exitCode : Int)
  | kill
  | resize (rows cols : UInt16)

namespace PtySide

def Running (pty : PtySide) : Prop := pty.inner.exit = none ∧ pty.inner.killed = false

def step (pty : PtySide) : PtyAction → Option PtySide
  | .read chunk =>
    if pty.pending = [] ∧ pty.inner.exit = none ∧ chunk ≠ [] ∧ chunk.length ≤ readBufferBytes then
      some {pty with pending := chunk}
    else none
  | .exit exitCode =>
    if (pty.pending = [] ∨ pty.inner.killed) ∧ pty.inner.exit = none then
      some ⟨pty.inner.exited exitCode,[]⟩
    else none
  | .kill => some {pty with inner := pty.inner.kill}
  | .resize rows cols => some {pty with inner := pty.inner.resized rows cols}

def append (pty : PtySide) : Option (Bytes × PtySide) :=
  if pty.pending = [] ∨ pty.inner.killed ∨ pty.inner.file.writeBudget = 0 then none
  else some (pty.pending.take pty.inner.file.writeBudget,
    ⟨pty.inner.taken pty.pending,pty.pending.drop pty.inner.file.writeBudget⟩)

end PtySide

-- The reader thread of sessiond; one that is refused has the session killed.
inductive Stage where
  | starting (cursor : Nat)
  | live
  | discarded
deriving DecidableEq

-- unread is everything between the ring and the terminal. A request sessiond gave up on may still
-- reach ptyd.
structure FlowState (V : Type) where
  pty : PtySide
  stage : Stage
  unread : List Bytes
  session : SessionState V
  lastCheckpointSeq : Nat
  inFlight : Option Checkpoint
  late : List Checkpoint

inductive FlowAction (V : Type) where
  | pty (action : PtyAction)
  | append
  | subscribe
  | subscribeFailed
  | feed (arriving : Nat)
  | serve (session : SessionState V)
  | answered
  | givenUp
  | carriedOut (index : Nat)
  | lost (index : Nat)

namespace FlowState
def created (vendor : Vendor V) (rows cols : UInt16) (historyLineLimit : Nat) (label secret : String) (pair : PtyPair)
    (pid : Int) (now : Nat) : FlowState V :=
  ⟨⟨(SessionInner.opened (.new rows cols label) pair now).spawned pid now,[]⟩,.starting 0,[],
    .restore ((TerminalState.new vendor rows cols historyLineLimit).withMarkSecret secret),0,none,[]⟩

def file (s : FlowState V) : SessionFile := s.pty.inner.file

def seq (s : FlowState V) : Nat := s.session.terminal.outputSeq

-- Reached only after a batch was fed.
def takeCheckpointIfDue (vendor : Vendor V) (supported : Bool) (s : FlowState V) : FlowState V :=
  if s.seq - s.lastCheckpointSeq < checkpointIntervalBytes then s
  else if !supported || !s.session.terminal.checkpointEligible then s
  else match s.session.terminal.checkpoint vendor ptydBlobCapacity with
    | none => s
    | some checkpoint => {s with lastCheckpointSeq := s.seq,inFlight := some checkpoint}

def readerBatch (vendor : Vendor V) (supported : Bool) (s : FlowState V) (batch : Bytes) (rest : List Bytes) : FlowState V :=
  takeCheckpointIfDue vendor supported {s with unread := rest,session := (s.session.feed vendor batch).1}

section
variable (s : FlowState V)

def appended (piece : Bytes) (pty : PtySide) : FlowState V :=
  {s with pty := pty,unread := if s.stage = .live then s.unread ++ [piece] else s.unread}

def subscribe (cursor : Nat) : FlowState V :=
  match s.file.checkOffset cursor with
  | some _ => {s with stage := .discarded}
  | none => {s with stage := .live,unread := (s.file.replay replayRecordBytes cursor).map Prod.snd}

def checkpointed (checkpoint : Checkpoint) : FlowState V :=
  {s with pty := {s.pty with inner := s.pty.inner.checkpointed checkpoint.outputSeq checkpoint.encode}}

def settled : FlowState V := {s with inFlight := none}

def withoutLate (index : Nat) : FlowState V := {s with late := s.late.eraseIdx index}

end

end FlowState

@[simp] theorem settled_file (s : FlowState V) : s.settled.file = s.file := rfl
@[simp] theorem withoutLate_file (s : FlowState V) (index : Nat) : (s.withoutLate index).file = s.file := rfl
theorem checkpointed_running (s : FlowState V) :
    (s.checkpointed checkpoint).pty.Running ↔ s.pty.Running := by
  simp only [PtySide.Running,FlowState.checkpointed,SessionInner.checkpointed]

-- supported is the checkpoint operation in ptyd's hello. The reader waits for the answer to its
-- request before the next batch. serve is any other work under the session lock.
def flowStep (vendor : Vendor V) (supported : Bool) (s : FlowState V) : FlowAction V → Option (FlowState V)
  | .pty action => (s.pty.step action).map fun pty => {s with pty := pty}
  | .append => s.pty.append.map fun (piece,pty) => s.appended piece pty
  | .subscribe =>
    match s.stage with
    | .starting cursor => some (s.subscribe cursor)
    | _ => none
  | .subscribeFailed =>
    match s.stage with
    | .starting _ => some {s with stage := .discarded}
    | _ => none
  | .feed arriving =>
    if s.inFlight = none then
      (coalescePtyOutput arriving s.unread).map fun (batch,rest) => s.readerBatch vendor supported batch rest
    else none
  | .serve session =>
    if session.terminal.outputSeq = s.seq ∧ session.terminal.scanner = s.session.terminal.scanner then
      some {s with session := session}
    else none
  | .answered => s.inFlight.map fun checkpoint => (s.checkpointed checkpoint).settled
  | .givenUp => s.inFlight.map fun checkpoint => {s with inFlight := none,late := s.late ++ [checkpoint]}
  | .carriedOut index => (s.late[index]?).map fun checkpoint => (s.checkpointed checkpoint).withoutLate index
  | .lost index => (s.late[index]?).map fun _ => s.withoutLate index

inductive FlowMove (vendor : Vendor V) (supported : Bool) (s : FlowState V) : FlowAction V → FlowState V → Prop where
  | pty (pty : PtySide) (moved : s.pty.step action = some pty) : FlowMove vendor supported s (.pty action) {s with pty := pty}
  | append (piece : Bytes) (pty : PtySide) (appended : s.pty.append = some (piece,pty)) :
      FlowMove vendor supported s .append (s.appended piece pty)
  | subscribe (cursor : Nat) (started : s.stage = .starting cursor) : FlowMove vendor supported s .subscribe (s.subscribe cursor)
  | subscribeFailed (cursor : Nat) (started : s.stage = .starting cursor) :
      FlowMove vendor supported s .subscribeFailed {s with stage := .discarded}
  | feed (batch : Bytes) (rest : List Bytes) (idle : s.inFlight = none)
      (joined : coalescePtyOutput arriving s.unread = some (batch,rest)) :
      FlowMove vendor supported s (.feed arriving) (s.readerBatch vendor supported batch rest)
  | serve (same : session.terminal.outputSeq = s.seq ∧ session.terminal.scanner = s.session.terminal.scanner) :
      FlowMove vendor supported s (.serve session) {s with session := session}
  | answered (checkpoint : Checkpoint) (sent : s.inFlight = some checkpoint) :
      FlowMove vendor supported s .answered (s.checkpointed checkpoint).settled
  | givenUp (checkpoint : Checkpoint) (sent : s.inFlight = some checkpoint) :
      FlowMove vendor supported s .givenUp {s with inFlight := none,late := s.late ++ [checkpoint]}
  | carriedOut (checkpoint : Checkpoint) (found : s.late[index]? = some checkpoint) :
      FlowMove vendor supported s (.carriedOut index) ((s.checkpointed checkpoint).withoutLate index)
  | lost (checkpoint : Checkpoint) (found : s.late[index]? = some checkpoint) :
      FlowMove vendor supported s (.lost index) (s.withoutLate index)

theorem flowStep_move (step : flowStep vendor supported s action = some next) :
    FlowMove vendor supported s action next := by
  cases action with
  | append | pty | answered | givenUp | carriedOut | lost =>
    simp only [flowStep,Option.map_eq_some_iff,Prod.exists] at step
    grind [FlowMove]
  | subscribe | subscribeFailed | serve =>
    simp only [flowStep] at step
    split at step <;> grind [FlowMove]
  | feed arriving =>
    simp only [flowStep] at step
    split at step
    · obtain ⟨⟨batch,rest⟩,joined,rfl⟩ := Option.map_eq_some_iff.mp step
      exact .feed batch rest ‹_› joined
    · cases step

def flowMachine (vendor : Vendor V) (supported : Bool) : Machine (FlowState V) (FlowAction V) :=
  ⟨flowStep vendor supported⟩

-- Nothing is on its way in either direction and the loop has no room to write.
structure Waiting (s : FlowState V) : Prop where
  running : s.pty.Running
  live : s.stage = .live
  full : s.file.writeBudget = 0
  fed : s.unread = []
  idle : s.inFlight = none
  none_late : s.late = []

def CanAdvance (vendor : Vendor V) (supported : Bool) (s : FlowState V) : Prop :=
  ∃ actions next floor newer, (flowMachine vendor supported).run s actions = some next ∧
    s.file.checkpoint = some floor ∧ next.file.checkpoint = some newer ∧ floor < newer

def Fits (vendor : Vendor V) (terminal : TerminalState V) (maxBytes : Nat) : Prop :=
  ∃ halvings, (terminal.checkpointAt vendor (terminal.historyLineLimit / 2 ^ halvings)).encodedLen ≤ maxBytes

-- What the reader must find after a batch to send a checkpoint.
structure Due (vendor : Vendor V) (supported : Bool) (s : FlowState V) (batch : Bytes) : Prop where
  interval : checkpointIntervalBytes ≤ s.seq + batch.length - s.lastCheckpointSeq
  supported : supported = true
  between : (scanAll vendor.base64 s.session.terminal.scanner batch).betweenSequences = true
  fits : Fits vendor (s.session.feed vendor batch).1.terminal ptydBlobCapacity

section
variable (vendor : Vendor V)

section
variable (supported : Bool)

-- A batch that leaves nothing to read while the ring is full and no checkpoint is due, or the end
-- of the last request still on its way.
def Starves (s : FlowState V) : FlowAction V → Prop
  | .feed arriving => s.pty.Running ∧ s.file.writeBudget = 0 ∧ s.late = [] ∧
      ∃ batch, coalescePtyOutput arriving s.unread = some (batch,[]) ∧ ¬Due vendor supported s batch
  | .carriedOut index => s.pty.Running ∧ s.unread = [] ∧ s.inFlight = none ∧
      ∃ checkpoint, s.late = [checkpoint] ∧ index = 0 ∧ (s.file.end = checkpoint.outputSeq + ptydRingCapacity ∨
          checkpoint.outputSeq + ptydRingCapacity < s.file.end ∧ s.file.writeBudget = 0)
  | .lost index => s.pty.Running ∧ s.unread = [] ∧ s.inFlight = none ∧ s.file.writeBudget = 0 ∧
      ∃ checkpoint, s.late = [checkpoint] ∧ index = 0
  | _ => False

def StartsFull (s : FlowState V) : FlowAction V → Prop
  | .subscribe => s.pty.Running ∧ s.file.writeBudget = 0 ∧ s.stage = .starting s.file.end
  | _ => False

theorem coalesceMore_parts :
    (coalesceMore arriving batch chunks).1 ++ (coalesceMore arriving batch chunks).2.flatten = batch ++ chunks.flatten ∧
      (batch ≠ [] → (coalesceMore arriving batch chunks).1 ≠ []) ∧
      ∀ chunk ∈ (coalesceMore arriving batch chunks).2, chunk ∈ chunks := by
  fun_induction coalesceMore arriving batch chunks with
  | case1 batch chunks => exact ⟨rfl,id,fun _ mem => mem⟩
  | case2 arriving batch => exact ⟨rfl,id,fun _ mem => mem⟩
  | case3 arriving batch chunk chunks large =>
    refine ⟨by simp,?_,fun _ mem => List.mem_cons_of_mem _ mem⟩
    intro filled empty
    exact filled (List.append_eq_nil_iff.mp empty).1
  | case4 arriving batch chunk chunks small ih =>
    obtain ⟨joined,filled,rest⟩ := ih
    refine ⟨by rw [joined]; simp,?_,fun _ mem => List.mem_cons_of_mem _ (rest _ mem)⟩
    intro nonempty
    exact filled fun empty => nonempty (List.append_eq_nil_iff.mp empty).1

theorem coalesce_parts (filled : ∀ chunk ∈ chunks, chunk ≠ [])
    (joined : coalescePtyOutput arriving chunks = some (batch,rest)) :
    batch ++ rest.flatten = chunks.flatten ∧ batch ≠ [] ∧ ∀ chunk ∈ rest, chunk ≠ [] := by
  cases chunks with
  | nil => cases joined
  | cons first chunks =>
    have start := filled _ List.mem_cons_self
    have later := fun chunk mem => filled chunk (List.mem_cons_of_mem _ mem)
    simp only [coalescePtyOutput] at joined
    split at joined
    · cases joined
      exact ⟨rfl,start,later⟩
    · obtain ⟨same,nonempty,inside⟩ := coalesceMore_parts
      rw [Option.some.injEq] at joined
      rw [joined] at same nonempty inside
      exact ⟨same,nonempty start,fun chunk mem => later chunk (inside chunk mem)⟩

theorem sessionFeed_reads (session : SessionState V) (nonempty : bytes ≠ []) :
    (session.feed vendor bytes).1.terminal.outputSeq = session.terminal.outputSeq + bytes.length ∧
      (session.feed vendor bytes).1.terminal.scanner = scanAll vendor.base64 session.terminal.scanner bytes := by
  obtain ⟨_,position,scanner,_⟩ := feed_spec nonempty
  unfold SessionState.feed
  split
  · rename_i terminal equal
    rw [equal] at position scanner
    exact ⟨position,scanner⟩
  · rename_i equal
    rw [equal] at position scanner
    dsimp only
    split <;> exact ⟨position,scanner⟩

theorem sessionFeed_screen {session : SessionState V} (nonempty : bytes ≠ []) :
    (∃ resets, (session.feed vendor bytes).1.terminal.vt = vendor.feed session.terminal.vt bytes resets) ∧
      (session.feed vendor bytes).1.terminal.rows = session.terminal.rows ∧
      (session.feed vendor bytes).1.terminal.cols = session.terminal.cols := by
  obtain ⟨vt,rows,cols⟩ := feed_screen nonempty
  unfold SessionState.feed
  split
  · rename_i terminal equal
    rw [equal] at vt rows cols
    exact ⟨vt,rows,cols⟩
  · rename_i equal
    rw [equal] at vt rows cols
    dsimp only
    split <;> exact ⟨vt,rows,cols⟩

-- What a batch does: it is fed, and a request goes out exactly when one is due.
theorem readerBatch_cases (s : FlowState V) (nonempty : batch ≠ []) :
    (∃ checkpoint, s.readerBatch vendor supported batch rest = {s with
          unread := rest
          session := (s.session.feed vendor batch).1
          lastCheckpointSeq := s.seq + batch.length
          inFlight := some checkpoint} ∧
      checkpoint.outputSeq = s.seq + batch.length ∧ checkpoint.encode.length ≤ ptydBlobCapacity ∧
      Due vendor supported s batch) ∨
    (s.readerBatch vendor supported batch rest = {s with unread := rest,session := (s.session.feed vendor batch).1} ∧
      ¬Due vendor supported s batch) := by
  obtain ⟨position,scanner⟩ := sessionFeed_reads vendor _ nonempty
  have seq : (s.session.feed vendor batch).1.terminal.outputSeq = s.seq + batch.length := position
  unfold FlowState.readerBatch FlowState.takeCheckpointIfDue
  simp only [FlowState.seq,position]
  split
  · rename_i early
    exact .inr ⟨rfl,fun due => Nat.not_lt.mpr due.interval early⟩
  · rename_i interval
    split
    · rename_i barred
      refine .inr ⟨rfl,?_⟩
      intro due
      have between := due.between
      rw [← scanner] at between
      simp [due.supported,TerminalState.checkpointEligible,between] at barred
    · rename_i unbarred
      simp only [Bool.or_eq_true,Bool.not_eq_true',not_or,Bool.not_eq_false] at unbarred
      have between := unbarred.2
      simp only [TerminalState.checkpointEligible,scanner] at between
      rcases checkpointFrom_cases vendor (s.session.feed vendor batch).1.terminal ptydBlobCapacity
          (s.session.feed vendor batch).1.terminal.historyLineLimit with
        ⟨checkpoint,taken,offset,small,fits⟩ | ⟨refused,never⟩
      · simp only [TerminalState.checkpoint,taken]
        exact .inl ⟨checkpoint,rfl,offset.trans seq,by rw [encode_length]; exact small,
          ⟨Nat.not_lt.mp interval,unbarred.1,between,fits⟩⟩
      · simp only [TerminalState.checkpoint,refused]
        refine .inr ⟨by trivial,?_⟩
        rintro ⟨_,_,_,halvings,fits⟩
        exact never _ fits

theorem readerBatch_taken {s : FlowState V} {rest : List Bytes} (idle : s.inFlight = none)
    (sent : (s.readerBatch vendor supported batch rest).inFlight = some checkpoint) :
    (s.session.feed vendor batch).1.terminal.checkpoint vendor ptydBlobCapacity = some checkpoint ∧
      (s.session.feed vendor batch).1.terminal.checkpointEligible = true := by
  unfold FlowState.readerBatch FlowState.takeCheckpointIfDue at sent
  split at sent
  · cases idle.symm.trans sent
  · split at sent
    · cases idle.symm.trans sent
    · rename_i able
      simp only [Bool.or_eq_true,Bool.not_eq_true',not_or,Bool.not_eq_false] at able
      split at sent
      · cases idle.symm.trans sent
      · rename_i equal
        cases sent
        exact ⟨equal,able.2⟩

-- The reader's count of bytes and what it has not read add up to the ring.
structure FlowInvariant (s : FlowState V) : Prop where
  represents : ∃ history, Represents s.file history
  filled : ∀ chunk ∈ s.unread, chunk ≠ []
  quiet : s.stage ≠ .live → s.unread = [] ∧ s.inFlight = none ∧ s.late = []
  cursor : ∀ cursor, s.stage = .starting cursor → cursor = s.seq ∧ cursor ≤ s.file.end
  position : s.stage = .live → s.seq + s.unread.flatten.length = s.file.end
  request : ∀ checkpoint, s.inFlight = some checkpoint →
    checkpoint.outputSeq = s.seq ∧ checkpoint.encode.length ≤ ptydBlobCapacity
  late : ∀ checkpoint ∈ s.late, checkpoint.outputSeq ≤ s.seq ∧ checkpoint.encode.length ≤ ptydBlobCapacity

theorem created_invariant (label secret : String) (pair : PtyPair) (pid : Int) (now : Nat) :
    FlowInvariant (FlowState.created vendor rows cols historyLineLimit label secret pair pid now) := by
  refine ⟨⟨[],new_represents _⟩,?_,fun _ => ⟨rfl,rfl,rfl⟩,?_,?_,?_,?_⟩
  · intro chunk mem
    cases mem
  · intro cursor started
    cases started
    exact ⟨rfl,Nat.le_refl _⟩
  · intro live
    cases live
  · intro checkpoint sent
    cases sent
  · intro checkpoint mem
    cases mem

theorem ptyStep_cases {pty next : PtySide} (step : pty.step action = some next) :
    next.inner.file.end = pty.inner.file.end ∧ next.inner.file.checkpoint = pty.inner.file.checkpoint ∧
      (∀ history, Represents pty.inner.file history → Represents next.inner.file history) ∧
      (next.Running → pty.Running) ∧
      (pty.inner.killed ∨ pty.inner.exit.isSome ∧ pty.pending = [] →
        next.inner.killed ∨ next.inner.exit.isSome ∧ next.pending = []) := by
  cases action with
  | read chunk =>
    simp only [PtySide.step] at step
    obtain ⟨ready,rfl⟩ := guard_parts step
    refine ⟨rfl,rfl,fun _ valid => valid,id,?_⟩
    rintro (killed | ⟨ended,_⟩)
    · exact .inl killed
    · simp [ready.2.1] at ended
  | exit exitCode =>
    simp only [PtySide.step] at step
    obtain ⟨_,rfl⟩ := guard_parts step
    refine ⟨rfl,rfl,fun _ valid => valid,?_,fun _ => .inr ⟨rfl,rfl⟩⟩
    rintro ⟨running,_⟩
    cases running
  | kill =>
    cases step
    refine ⟨rfl,rfl,fun _ valid => valid,?_,fun _ => .inl rfl⟩
    rintro ⟨_,killed⟩
    cases killed
  | resize rows cols =>
    cases step
    exact ⟨rfl,rfl,fun _ valid => pushResize_represents valid,id,id⟩

theorem ptyAppend_parts {pty next : PtySide} (appended : pty.append = some (piece,next)) :
    piece ≠ [] ∧ pty.inner.killed = false ∧ pty.inner.file.writeBudget ≠ 0 ∧ pty.pending ≠ [] ∧
      next.inner.file = (pty.inner.file.append piece).2 ∧ next.inner.exit = pty.inner.exit ∧
      next.inner.killed = pty.inner.killed ∧ piece.length ≤ pty.inner.file.writeBudget := by
  unfold PtySide.append at appended
  split at appended
  · cases appended
  · rename_i able
    obtain ⟨holding,able⟩ := not_or.mp able
    obtain ⟨alive,room⟩ := not_or.mp able
    cases appended
    refine ⟨?_,by simpa using alive,room,holding,rfl,rfl,rfl,List.length_take_le _ _⟩
    simp [holding,room]

theorem replayFuel_filled {read : Nat → Option (Nat × Bytes)} (cursor : Nat) :
    ∀ piece ∈ replayFuel read stop fuel cursor, piece.2 ≠ [] := by
  induction fuel generalizing cursor with
  | zero => intro piece mem; cases mem
  | succ fuel ih =>
    intro piece mem
    simp only [replayFuel] at mem
    split at mem
    · split at mem
      · split at mem
        · cases mem
        · rename_i filled
          rcases List.mem_cons.mp mem with rfl | later
          · exact filled
          · exact ih _ piece later
      · cases mem
    · cases mem

theorem pieces_flatten (chain : Pieces history limit cursor pieces) :
    (pieces.map Prod.snd).flatten = history.drop cursor ∧ cursor ≤ history.length := by
  induction pieces generalizing cursor with
  | nil =>
    have ended : cursor = history.length := chain
    exact ⟨by simp [ended],Nat.le_of_eq ended⟩
  | cons piece rest ih =>
    obtain ⟨_,_,inside,content,later⟩ := chain
    refine ⟨?_,Nat.le_trans (Nat.le_add_right _ _) inside⟩
    rw [List.map_cons,List.flatten_cons,(ih later).1,← List.drop_drop,content]
    simp only [List.length_take,List.length_drop]
    rw [Nat.min_eq_left (by omega),List.take_append_drop]

theorem backlog_parts (valid : Represents file history) (passed : file.checkOffset cursor = none) :
    ((file.replay replayRecordBytes cursor).map Prod.snd).flatten = history.drop cursor ∧
      cursor + ((file.replay replayRecordBytes cursor).map Prod.snd).flatten.length = file.end ∧
      ∀ chunk ∈ (file.replay replayRecordBytes cursor).map Prod.snd, chunk ≠ [] := by
  obtain ⟨above,below⟩ := checkOffset_none passed
  have chain : Pieces history replayRecordBytes cursor (file.replay replayRecordBytes cursor) :=
    replay_pieces valid (by decide) above below
  obtain ⟨content,inside⟩ := pieces_flatten chain
  refine ⟨content,?_,?_⟩
  · rw [content,valid.ends,List.length_drop]
    omega
  · intro chunk mem
    obtain ⟨piece,inside,rfl⟩ := List.mem_map.mp mem
    exact replayFuel_filled _ piece inside

section
variable {s : FlowState V} (valid : FlowInvariant s)
include valid

theorem appended_invariant (appended : s.pty.append = some (piece,pty)) :
    FlowInvariant (s.appended piece pty) := by
  obtain ⟨filled,_,_,_,file,_,_,room⟩ := ptyAppend_parts appended
  obtain ⟨history,represents⟩ := valid.represents
  have ends : pty.inner.file.end = s.file.end + piece.length := by rw [file]; rfl
  refine ⟨⟨history ++ piece,?_⟩,?_,?_,?_,?_,valid.request,valid.late⟩
  · simp only [FlowState.file,FlowState.appended,file]
    exact append_represents represents room
  · intro chunk mem
    simp only [FlowState.appended] at mem
    split at mem
    · rcases List.mem_append.mp mem with old | new
      · exact valid.filled chunk old
      · rw [List.mem_singleton.mp new]
        exact filled
    · exact valid.filled chunk mem
  · intro off
    have off : s.stage ≠ .live := off
    simp only [FlowState.appended,if_neg off]
    exact valid.quiet off
  · intro cursor started
    obtain ⟨same,_⟩ := valid.cursor _ started
    refine ⟨same,?_⟩
    show cursor ≤ pty.inner.file.end
    omega
  · intro live
    have live : s.stage = .live := live
    have position := valid.position live
    simp only [FlowState.appended,FlowState.file,if_pos live,List.flatten_append,List.length_append, List.flatten_singleton]
    show s.seq + _ = pty.inner.file.end
    omega

theorem subscribe_invariant (started : s.stage = .starting cursor) :
    FlowInvariant (s.subscribe cursor) := by
  obtain ⟨empty,idle,noneLate⟩ := valid.quiet (by rw [started]; simp)
  obtain ⟨same,_⟩ := valid.cursor _ started
  unfold FlowState.subscribe
  split
  · exact {valid with quiet := fun _ => ⟨empty,idle,noneLate⟩,cursor := fun _ stage => (by cases stage),position := fun stage => (by cases stage)}
  · rename_i passed
    obtain ⟨history,represents⟩ := valid.represents
    obtain ⟨_,total,filled⟩ := backlog_parts represents passed
    refine ⟨⟨history,represents⟩,filled,fun off => absurd rfl off,fun _ stage => (by cases stage),?_,valid.request,valid.late⟩
    intro _
    subst same
    exact total

theorem readerBatch_invariant (idle : s.inFlight = none)
    (joined : coalescePtyOutput arriving s.unread = some (batch,rest)) :
    FlowInvariant (s.readerBatch vendor supported batch rest) := by
  obtain ⟨whole,nonempty,filled⟩ := coalesce_parts valid.filled joined
  obtain ⟨position,_⟩ := sessionFeed_reads vendor _ nonempty
  have live : s.stage = .live := by
    by_contra off
    rw [(valid.quiet off).1] at joined
    cases joined
  have total : s.seq + batch.length + rest.flatten.length = s.file.end := by
    have before := valid.position live
    rw [← whole,List.length_append] at before
    omega
  have lateStill : ∀ checkpoint ∈ s.late, checkpoint.outputSeq ≤ (s.session.feed vendor batch).1.terminal.outputSeq ∧
      checkpoint.encode.length ≤ ptydBlobCapacity := by
    intro checkpoint mem
    obtain ⟨behind,small⟩ := valid.late checkpoint mem
    exact ⟨by rw [position]; exact Nat.le_trans behind (Nat.le_add_right _ _),small⟩
  rcases readerBatch_cases vendor supported s nonempty with ⟨_,equal,offset,small,_⟩ | ⟨equal,_⟩
  · rw [equal]
    refine ⟨valid.represents,filled,fun off => absurd live off,fun cursor stage => ?_,fun _ => ?_,?_,lateStill⟩
    · exact absurd (live.symm.trans stage) (by simp)
    · show (s.session.feed vendor batch).1.terminal.outputSeq + _ = s.file.end
      rw [position]
      exact total
    · intro sent equalSent
      cases equalSent
      exact ⟨offset.trans position.symm,small⟩
  · rw [equal]
    refine ⟨valid.represents,filled,fun off => absurd live off,fun _ stage => ?_,fun _ => ?_,?_,lateStill⟩
    · exact absurd (live.symm.trans stage) (by simp)
    · show (s.session.feed vendor batch).1.terminal.outputSeq + _ = s.file.end
      rw [position]
      exact total
    · intro sent equalSent
      rw [idle] at equalSent
      cases equalSent

theorem checkpointed_cases (small : checkpoint.encode.length ≤ ptydBlobCapacity)
    (behind : checkpoint.outputSeq ≤ s.file.end) :
    (s.checkpointed checkpoint = s ∧ checkpoint.outputSeq + ptydRingCapacity < s.file.end) ∨
    ((s.checkpointed checkpoint).file.writeBudget = checkpoint.outputSeq + ptydRingCapacity - s.file.end ∧
      s.file.end ≤ checkpoint.outputSeq + ptydRingCapacity ∧
      (s.checkpointed checkpoint).file.checkpoint = some checkpoint.outputSeq) := by
  obtain ⟨history,represents⟩ := valid.represents
  simp only [FlowState.file,FlowState.checkpointed,SessionInner.checkpointed] at represents behind ⊢
  rcases setCheckpoint_cases s.pty.inner.file checkpoint.outputSeq checkpoint.encode with
    ⟨message,refused,why⟩ | ⟨stored,_,above,_⟩
  · refine .inl ⟨by rw [refused],?_⟩
    rcases why with large | low | high
    · omega
    · exact Nat.not_le.mp fun reaches => Nat.not_le.mpr low (start_le.mpr reaches)
    · omega
  · have renewed : Represents (s.pty.inner.file.setCheckpoint checkpoint.outputSeq checkpoint.encode).2 history :=
      setCheckpoint_represents represents
    have floor : (s.pty.inner.file.setCheckpoint checkpoint.outputSeq checkpoint.encode).2.checkpoint =
        some checkpoint.outputSeq := by rw [stored]
    refine .inr ⟨?_,start_le.mp above,floor⟩
    rw [writeBudget_of_checkpoint renewed floor,setCheckpoint_end]

theorem pty_invariant (represents : Represents pty.inner.file history)
    (ends : pty.inner.file.end = s.file.end) : FlowInvariant {s with pty := pty} := by
  refine {valid with represents := ⟨history,represents⟩,cursor := ?_,position := ?_}
  · intro cursor started
    obtain ⟨same,inside⟩ := valid.cursor _ started
    exact ⟨same,inside.trans (Nat.le_of_eq ends.symm)⟩
  · intro live
    exact (valid.position live).trans ends.symm

theorem checkpointed_invariant :
    FlowInvariant (s.checkpointed checkpoint) := by
  obtain ⟨history,represents⟩ := valid.represents
  have renewed : Represents (s.checkpointed checkpoint).pty.inner.file history := by
    simp only [FlowState.file,FlowState.checkpointed,SessionInner.checkpointed] at represents ⊢
    exact setCheckpoint_represents represents
  have ends : (s.checkpointed checkpoint).pty.inner.file.end = s.file.end := by
    simp only [FlowState.file,FlowState.checkpointed,SessionInner.checkpointed,setCheckpoint_end]
  exact pty_invariant valid renewed ends

theorem settled_invariant : FlowInvariant s.settled := by
  refine {valid with quiet := ?_,request := fun _ sent => (by cases sent)}
  intro off
  obtain ⟨empty,_,noneLate⟩ := valid.quiet off
  exact ⟨empty,rfl,noneLate⟩

theorem withoutLate_invariant : FlowInvariant (s.withoutLate index) := by
  refine {valid with quiet := ?_,late := ?_}
  · intro off
    obtain ⟨empty,idle,noneLate⟩ := valid.quiet off
    exact ⟨empty,idle,by simp [FlowState.withoutLate,noneLate]⟩
  · intro other mem
    exact valid.late _ (List.mem_of_mem_eraseIdx mem)

end

theorem session_invariant (valid : FlowInvariant s) (same : session.terminal.outputSeq = s.seq) :
    FlowInvariant {s with session := session} := by
  refine ⟨valid.represents,valid.filled,valid.quiet,?_,?_,?_,?_⟩
  · intro cursor started
    exact ⟨(valid.cursor _ started).1.trans same.symm,(valid.cursor _ started).2⟩
  · intro live
    exact (congrArg (· + _) same).trans (valid.position live)
  · intro checkpoint sent
    exact ⟨(valid.request checkpoint sent).1.trans same.symm,(valid.request checkpoint sent).2⟩
  · intro checkpoint mem
    exact ⟨(valid.late checkpoint mem).1.trans (Nat.le_of_eq same.symm),(valid.late checkpoint mem).2⟩

theorem flowStep_invariant (s : FlowState V) (action : FlowAction V) {next : FlowState V} (valid : FlowInvariant s)
    (step : flowStep vendor supported s action = some next) : FlowInvariant next := by
  cases flowStep_move step with
  | pty pty moved =>
    obtain ⟨ends,_,still,_⟩ := ptyStep_cases moved
    obtain ⟨_,represents⟩ := valid.represents
    exact pty_invariant valid (still _ represents) ends
  | append _ _ appended =>
    exact appended_invariant valid appended
  | subscribe _ started =>
    exact subscribe_invariant valid started
  | subscribeFailed _ started =>
    have quiet := valid.quiet (by rw [started]; simp)
    exact {valid with quiet := fun _ => quiet,cursor := fun _ stage => (by cases stage),position := fun stage => (by cases stage)}
  | feed _ _ idle joined =>
    exact readerBatch_invariant vendor _ valid idle joined
  | @serve session same =>
    exact session_invariant valid same.1
  | answered checkpoint _ =>
    exact settled_invariant (checkpointed_invariant valid)
  | givenUp checkpoint sent =>
    obtain ⟨offset,small⟩ := valid.request checkpoint sent
    refine {valid with quiet := ?_,request := fun _ sent => (by cases sent),late := ?_}
    · intro off
      rw [(valid.quiet off).2.1] at sent
      cases sent
    · intro other mem
      rcases List.mem_append.mp mem with old | new
      · exact valid.late _ old
      · rw [List.mem_singleton.mp new]
        exact ⟨Nat.le_of_eq offset,small⟩
  | @carriedOut index checkpoint _ =>
    exact withoutLate_invariant (checkpointed_invariant valid)
  | @lost index _ _ =>
    exact withoutLate_invariant valid

theorem writeBudget_congr {file other : SessionFile} (ends : other.end = file.end)
    (checkpoint : other.checkpoint = file.checkpoint) : other.writeBudget = file.writeBudget := by
  simp only [writeBudget,ends,checkpoint]

theorem last_late (found : late[index]? = some checkpoint) :
    late.eraseIdx index = [] ↔ late = [checkpoint] ∧ index = 0 := by
  constructor
  · intro empty
    rcases List.eraseIdx_eq_nil_iff.mp empty with rfl | ⟨single,rfl⟩
    · cases found
    · obtain ⟨_,rfl⟩ := List.length_eq_one_iff.mp single
      cases found
      exact ⟨rfl,rfl⟩
  · rintro ⟨rfl,rfl⟩
    rfl

section
variable {s : FlowState V} (valid : FlowInvariant s)
include valid

theorem live_of_late (late : s.late = checkpoint :: rest) : s.stage = .live := by
  by_contra off
  rw [(valid.quiet off).2.2] at late
  cases late

theorem subscribe_waiting (started : s.stage = .starting cursor) :
    Waiting (s.subscribe cursor) ↔ s.pty.Running ∧ s.file.writeBudget = 0 ∧ s.stage = .starting s.file.end := by
  obtain ⟨_,idle,noneLate⟩ := valid.quiet (by rw [started]; simp)
  obtain ⟨_,_⟩ := valid.cursor _ started
  unfold FlowState.subscribe
  split
  · rename_i refused
    constructor
    · intro waiting
      cases waiting.live
    · rintro ⟨_,_,atEnd⟩
      rw [started] at atEnd
      cases atEnd
      rw [checkOffset_inside (Nat.sub_le _ _) (Nat.le_refl _)] at refused
      cases refused
  · rename_i passed
    obtain ⟨_,represents⟩ := valid.represents
    obtain ⟨_,total,filled⟩ := backlog_parts represents passed
    constructor
    · intro waiting
      have fed : (s.file.replay replayRecordBytes cursor).map Prod.snd = [] := waiting.fed
      rw [fed] at total
      exact ⟨waiting.running,waiting.full,by rw [started,← total]; rfl⟩
    · rintro ⟨running,full,atEnd⟩
      refine ⟨running,rfl,full,?_,idle,noneLate⟩
      rw [started] at atEnd
      cases atEnd
      have nothing := List.flatten_eq_nil_iff.mp (List.length_eq_zero_iff.mp (Nat.add_eq_left.mp total))
      refine List.eq_nil_iff_forall_not_mem.mpr ?_
      intro chunk mem
      exact filled chunk mem (nothing chunk mem)

theorem feed_waiting (idle : s.inFlight = none)
    (joined : coalescePtyOutput arriving s.unread = some (batch,rest)) :
    Waiting (s.readerBatch vendor supported batch rest) ↔ Starves vendor supported s (.feed arriving) := by
  obtain ⟨_,nonempty,_⟩ := coalesce_parts valid.filled joined
  have live : s.stage = .live := by
    by_contra off
    rw [(valid.quiet off).1] at joined
    cases joined
  rcases readerBatch_cases vendor supported s nonempty with ⟨_,equal,_,_,due⟩ | ⟨equal,undue⟩
  · rw [equal]
    constructor
    · intro waiting
      cases waiting.idle
    · rintro ⟨_,_,_,other,same,undue⟩
      rw [joined] at same
      cases same
      exact absurd due undue
  · rw [equal]
    constructor
    · intro waiting
      have fed : rest = [] := waiting.fed
      subst fed
      exact ⟨waiting.running,waiting.full,waiting.none_late,batch,joined,undue⟩
    · rintro ⟨running,full,noneLate,other,same,_⟩
      rw [joined] at same
      cases same
      exact ⟨running,live,full,rfl,idle,noneLate⟩

-- An answered request is about the last byte fed, so it always makes room.
theorem answered_calm (sent : s.inFlight = some checkpoint) :
    ¬Waiting (s.checkpointed checkpoint).settled := by
  intro waiting
  have live : s.stage = .live := waiting.live
  have fed : s.unread = [] := waiting.fed
  have position := valid.position live
  obtain ⟨offset,small⟩ := valid.request checkpoint sent
  rw [fed,List.flatten_nil,List.length_nil,Nat.add_zero,← offset] at position
  have full := waiting.full
  rw [settled_file] at full
  have room := ptydRingCapacity_pos
  rcases checkpointed_cases valid small (Nat.le_of_eq position) with ⟨_,below⟩ | ⟨budget,_⟩
  · rw [position] at below
    omega
  · rw [full,position] at budget
    omega

theorem carriedOut_waiting (found : s.late[index]? = some checkpoint) :
    Waiting ((s.checkpointed checkpoint).withoutLate index) ↔ s.pty.Running ∧ s.unread = [] ∧ s.inFlight = none ∧
      ∃ checkpoint, s.late = [checkpoint] ∧ index = 0 ∧ (s.file.end = checkpoint.outputSeq + ptydRingCapacity ∨
          checkpoint.outputSeq + ptydRingCapacity < s.file.end ∧ s.file.writeBudget = 0) := by
  have full : s.stage = .live → (((s.checkpointed checkpoint).withoutLate index).file.writeBudget = 0 ↔
      s.file.end = checkpoint.outputSeq + ptydRingCapacity ∨
        checkpoint.outputSeq + ptydRingCapacity < s.file.end ∧ s.file.writeBudget = 0) := by
    intro live
    obtain ⟨_,small⟩ := valid.late checkpoint (List.mem_of_getElem? found)
    have position := valid.position live
    rw [withoutLate_file]
    rcases checkpointed_cases valid small (by omega) with ⟨same,_⟩ | ⟨budget,_,_⟩
    · rw [same]
      omega
    · rw [budget]
      omega
  constructor
  · intro waiting
    obtain ⟨only,first⟩ := (last_late found).mp waiting.none_late
    exact ⟨(checkpointed_running s).mp waiting.running,waiting.fed,waiting.idle,checkpoint,only,first,
      (full waiting.live).mp waiting.full⟩
  · rintro ⟨running,fed,idle,other,only,rfl,why⟩
    have live := live_of_late valid only
    have empty := (last_late found).mpr
    rw [only] at found
    cases found
    exact ⟨(checkpointed_running s).mpr running,live,(full live).mpr why,fed,idle,empty ⟨only,rfl⟩⟩

end

theorem flowStep_waiting {next : FlowState V} (valid : FlowInvariant s) (calm : ¬Waiting s)
    (step : flowStep vendor supported s action = some next) :
    Waiting next ↔ Starves vendor supported s action ∨ StartsFull s action := by
  cases flowStep_move step with
  | pty _ moved =>
    obtain ⟨ends,checkpoint,_,running,_⟩ := ptyStep_cases moved
    have budget := writeBudget_congr ends checkpoint
    simp only [Starves,StartsFull,or_self,iff_false]
    intro waiting
    exact calm ⟨running waiting.running,waiting.live,budget.symm.trans waiting.full,waiting.fed,waiting.idle,
      waiting.none_late⟩
  | append =>
    simp only [Starves,StartsFull,or_self,iff_false]
    intro waiting
    have live : s.stage = .live := waiting.live
    have fed := waiting.fed
    simp [FlowState.appended,live] at fed
  | subscribe _ started =>
    simp only [Starves,StartsFull,false_or]
    exact subscribe_waiting valid started
  | subscribeFailed =>
    simp only [Starves,StartsFull,or_self,iff_false]
    intro waiting
    cases waiting.live
  | feed _ _ idle joined =>
    simp only [StartsFull,or_false]
    exact feed_waiting vendor _ valid idle joined
  | serve =>
    simp only [Starves,StartsFull,or_self,iff_false]
    intro waiting
    exact calm {waiting with}
  | answered _ sent =>
    simp only [Starves,StartsFull,or_self,iff_false]
    exact answered_calm valid sent
  | givenUp =>
    simp only [Starves,StartsFull,or_self,iff_false]
    intro waiting
    have none_late := waiting.none_late
    simp at none_late
  | carriedOut _ found =>
    simp only [StartsFull,or_false]
    exact carriedOut_waiting valid found
  | lost checkpoint found =>
    simp only [Starves,StartsFull,or_false]
    constructor
    · intro waiting
      exact ⟨waiting.running,waiting.fed,waiting.idle,waiting.full,checkpoint,(last_late found).mp waiting.none_late⟩
    · rintro ⟨running,fed,idle,full,other,only,first⟩
      have live := live_of_late valid only
      have empty := (last_late found).mpr
      rw [only] at found
      subst first
      cases found
      exact ⟨running,live,full,fed,idle,empty ⟨only,rfl⟩⟩

structure Halted (floor : Option Nat) (s : FlowState V) : Prop where
  live : s.stage = .live
  floor : s.file.checkpoint = floor
  closed : s.file.writeBudget = 0 ∨ s.pty.inner.killed ∨ s.pty.inner.exit.isSome ∧ s.pty.pending = []
  fed : s.unread = []
  idle : s.inFlight = none
  none_late : s.late = []

theorem flowStep_halted (s : FlowState V) (action : FlowAction V) {next : FlowState V} (halted : Halted floor s)
    (step : flowStep vendor supported s action = some next) : Halted floor next := by
  cases flowStep_move step with
  | pty _ moved =>
    obtain ⟨ends,checkpoint,_,_,stays⟩ := ptyStep_cases moved
    refine {halted with floor := checkpoint.trans halted.floor,closed := ?_}
    rcases halted.closed with full | ended
    · exact .inl ((writeBudget_congr ends checkpoint).trans full)
    · exact .inr (stays ended)
  | append _ _ appended =>
    obtain ⟨_,alive,room,holding,_⟩ := ptyAppend_parts appended
    rcases halted.closed with full | killed | ⟨_,empty⟩
    · exact absurd full room
    · rw [alive] at killed
      cases killed
    · exact absurd empty holding
  | subscribe | subscribeFailed => simp [flowStep,halted.live] at step
  | feed arriving => simp [flowStep,halted.fed,coalescePtyOutput] at step
  | serve =>
    exact {halted with}
  | answered | givenUp => simp [flowStep,halted.idle] at step
  | carriedOut | lost => simp [flowStep,halted.none_late] at step

theorem waiting_forever (waiting : Waiting s) : ¬CanAdvance vendor supported s := by
  rintro ⟨actions,next,floor,newer,ran,stored,renewed,above⟩
  have start : Halted s.file.checkpoint s :=
    {waiting with floor := rfl,closed := .inl waiting.full}
  have halted := run_preserves (flowStep_halted vendor _) start ran
  have same := halted.floor
  rw [stored,renewed] at same
  cases same
  omega

-- Before its reader is live, a new session has no checkpoint.
structure Fresh (s : FlowState V) : Prop where
  valid : FlowInvariant s
  bare : s.stage ≠ .live → s.file.checkpoint = none

theorem flowStep_fresh (s : FlowState V) (action : FlowAction V)
    {next : FlowState V} (fresh : Fresh s) (step : flowStep vendor supported s action = some next) : Fresh next := by
  refine ⟨flowStep_invariant vendor _ s _ fresh.valid step,?_⟩
  intro off
  cases flowStep_move step with
  | pty _ moved =>
    obtain ⟨_,checkpoint,_⟩ := ptyStep_cases moved
    exact checkpoint.trans (fresh.bare off)
  | append _ pty appended =>
    obtain ⟨_,_,_,_,file,_⟩ := ptyAppend_parts appended
    have same : pty.inner.file.checkpoint = s.file.checkpoint := by rw [file]; rfl
    exact same.trans (fresh.bare off)
  | subscribe _ started =>
    have bare := fresh.bare (by rw [started]; simp)
    unfold FlowState.subscribe
    split <;> exact bare
  | subscribeFailed _ started =>
    exact fresh.bare (by rw [started]; simp)
  | feed _ rest _ joined =>
    obtain ⟨_,nonempty,_⟩ := coalesce_parts fresh.valid.filled joined
    rcases readerBatch_cases vendor supported s nonempty with ⟨_,equal,_⟩ | ⟨equal,_⟩
    · rw [equal] at off ⊢
      exact fresh.bare off
    · rw [equal] at off ⊢
      exact fresh.bare off
  | serve | givenUp | lost =>
    exact fresh.bare off
  | answered _ sent =>
    rw [(fresh.valid.quiet off).2.1] at sent
    cases sent
  | carriedOut _ found =>
    rw [(fresh.valid.quiet off).2.2] at found
    cases found

end

end

theorem unbounded_budget {file : SessionFile} (bare : file.checkpoint = none) : file.writeBudget ≠ 0 := by
  simp only [writeBudget,bare]
  decide

theorem never_frozen_iff (vendor : Vendor V) (supported : Bool) (rows cols : UInt16) (historyLineLimit : Nat)
    (label secret : String) (pair : PtyPair) (pid : Int) (now : Nat)
    (ran : (flowMachine vendor supported).run
      (.created vendor rows cols historyLineLimit label secret pair pid now) actions = some last) :
    (flowMachine vendor supported).Throughout (fun s => Waiting s → CanAdvance vendor supported s)
        (.created vendor rows cols historyLineLimit label secret pair pid now) actions ↔
      (flowMachine vendor supported).Along (fun s action => ¬Starves vendor supported s action)
        (.created vendor rows cols historyLineLimit label secret pair pid now) actions := by
  have start : Fresh (FlowState.created vendor rows cols historyLineLimit label secret pair pid now) :=
    ⟨created_invariant vendor label secret pair pid now,fun _ => rfl⟩
  have calm_iff : ∀ s : FlowState V, (Waiting s → CanAdvance vendor supported s) ↔ ¬Waiting s :=
    fun s => ⟨fun good waiting => waiting_forever vendor _ waiting (good waiting),fun calm waiting => absurd waiting calm⟩
  refine throughout_iff_along (flowStep_fresh vendor _) ?_ start ?_ ran
  · intro s action next fresh good stepped
    have step := flowStep_waiting vendor _ fresh.valid ((calm_iff s).mp good) stepped
    have spared : ¬StartsFull s action := by
      intro full
      cases action with
      | subscribe =>
        obtain ⟨_,empty,started⟩ := full
        exact unbounded_budget (fresh.bare (by rw [started]; simp)) empty
      | _ => exact full
    rw [calm_iff next,step]
    simp only [spared,or_false]
  · intro waiting
    cases waiting.live

-- Both halves are idle: everything printed is fed, and the reader is live.
structure Caught (s : FlowState V) (printed : Nat) (floor : Option Nat) : Prop where
  running : s.pty.Running
  spawned : s.pty.inner.pid = some 100
  hands : s.pty.pending = []
  live : s.stage = .live
  ends : s.file.end = printed
  checkpoint : s.file.checkpoint = floor
  fed : s.unread = []
  seq : s.seq = printed
  idle : s.inFlight = none
  none_late : s.late = []
  last : s.lastCheckpointSeq = floor.getD 0

def PtySide.printed (pty : PtySide) (chunk : Bytes) : PtySide := ⟨pty.inner.taken chunk,[]⟩

theorem printed_pty {pty : PtySide} (running : pty.Running) (hands : pty.pending = []) (filled : chunk ≠ [])
    (small : chunk.length ≤ readBufferBytes) (room : chunk.length ≤ pty.inner.file.writeBudget) :
    pty.step (.read chunk) = some {pty with pending := chunk} ∧
      PtySide.append {pty with pending := chunk} = some (chunk,pty.printed chunk) := by
  have budget : pty.inner.file.writeBudget ≠ 0 := by
    have positive := List.length_pos_iff.mpr filled
    intro empty
    rw [empty] at room
    omega
  have alive := running.2
  constructor
  · simp [PtySide.step,hands,running.1,filled,small]
  · simp only [PtySide.append,alive,filled,budget,Bool.false_eq_true,or_self,if_false,List.take_of_length_le room,
      List.drop_of_length_le room,PtySide.printed]

theorem printed_inner {pty : PtySide} (room : chunk.length ≤ pty.inner.file.writeBudget) :
    (pty.printed chunk).inner.file = (pty.inner.file.append chunk).2 := by
  simp only [PtySide.printed,SessionInner.taken,List.take_of_length_le room]

def round (chunk : Bytes) : List (FlowAction V) := [.pty (.read chunk),.append,.feed 0]

def FlowState.printed (s : FlowState V) (chunk : Bytes) : FlowState V :=
  {s with pty := s.pty.printed chunk,unread := [chunk]}

theorem round_run (vendor : Vendor V) (caught : Caught s printed floor) (filled : chunk ≠ [])
    (small : chunk.length ≤ readBufferBytes) (room : chunk.length ≤ s.pty.inner.file.writeBudget) :
    (flowMachine vendor true).run s (round chunk) = some ((s.printed chunk).readerBatch vendor true chunk []) := by
  obtain ⟨holding,appended⟩ := printed_pty caught.running caught.hands filled small room
  have read : (flowMachine vendor true).step s (.pty (.read chunk)) =
      some {s with pty := {s.pty with pending := chunk}} := by
    simp only [flowMachine,flowStep,holding,Option.map_some]
  have append : (flowMachine vendor true).step {s with pty := {s.pty with pending := chunk}} .append =
      some (s.printed chunk) := by
    simp only [flowMachine,flowStep,appended,Option.map_some,FlowState.appended,caught.live,if_true,caught.fed,
      List.nil_append,FlowState.printed]
  have joined : coalescePtyOutput 0 [chunk] = some (chunk,[]) := by
    simp [coalescePtyOutput,coalesceMore]
  have feed : (flowMachine vendor true).step (s.printed chunk) (.feed 0) =
      some ((s.printed chunk).readerBatch vendor true chunk []) := by
    have idle : (s.printed chunk).inFlight = none := caught.idle
    have unread : (s.printed chunk).unread = [chunk] := rfl
    simp only [flowMachine,flowStep,idle,unread,joined,if_true,Option.map_some]
  rw [round,run_cons read,run_cons append,run_cons feed,run_nil]

theorem printed_file {s : FlowState V} (room : chunk.length ≤ s.pty.inner.file.writeBudget) :
    (s.printed chunk).file = (s.file.append chunk).2 :=
  printed_inner room

theorem printed_caught (vendor : Vendor V) (caught : Caught s printed floor) (filled : chunk ≠ [])
    (room : chunk.length ≤ s.pty.inner.file.writeBudget) :
    Caught {s.printed chunk with unread := [],session := (s.session.feed vendor chunk).1} (printed + chunk.length) floor := by
  obtain ⟨position,_⟩ := sessionFeed_reads vendor _ filled
  refine {caught with hands := rfl,ends := ?_,checkpoint := ?_,fed := rfl,seq := position.trans (congrArg (· + _) caught.seq)}
  · show (s.printed chunk).file.end = _
    rw [printed_file room,append_end,caught.ends]
  · show (s.printed chunk).file.checkpoint = _
    rw [printed_file room,append_checkpoint,caught.checkpoint]

theorem round_undue (vendor : Vendor V) (caught : Caught s printed floor) (filled : chunk ≠ [])
    (small : chunk.length ≤ readBufferBytes) (room : chunk.length ≤ s.pty.inner.file.writeBudget)
    (undue : ¬Due vendor true (s.printed chunk) chunk) :
    ∃ next, (flowMachine vendor true).run s (round chunk) = some next ∧ Caught next (printed + chunk.length) floor ∧
      next.session = (s.session.feed vendor chunk).1 ∧ next.file = (s.file.append chunk).2 := by
  rcases readerBatch_cases vendor true (s.printed chunk) filled with ⟨_,_,_,_,due⟩ | ⟨equal,_⟩
  · exact absurd due undue
  · exact ⟨_,(round_run vendor caught filled small room).trans (congrArg _ equal),printed_caught vendor caught filled room,
      rfl,printed_file room⟩

theorem checkpointed_file {s : FlowState V} (fits : checkpoint.encode.length ≤ ptydBlobCapacity)
    (ends : s.file.end = checkpoint.outputSeq) :
    (s.checkpointed checkpoint).file =
      {s.file with checkpoint := some checkpoint.outputSeq,checkpointBlob := checkpoint.encode} := by
  show (s.file.setCheckpoint checkpoint.outputSeq checkpoint.encode).2 = _
  rcases setCheckpoint_cases s.file checkpoint.outputSeq checkpoint.encode with ⟨_,_,_ | low | _⟩ | ⟨stored,_⟩
  · omega
  · exact absurd low (Nat.not_lt.mpr (ends ▸ Nat.sub_le _ _))
  · omega
  · rw [stored]

-- The checkpoint of a batch once ptyd has stored it.
theorem batch_checkpointed (vendor : Vendor V) (caught : Caught s printed floor) (filled : chunk ≠ [])
    (room : chunk.length ≤ s.pty.inner.file.writeBudget) (fits : checkpoint.encode.length ≤ ptydBlobCapacity)
    (offset : checkpoint.outputSeq = (s.printed chunk).seq + chunk.length) :
    ∃ later, later = (FlowState.checkpointed {s.printed chunk with
        unread := [],session := (s.session.feed vendor chunk).1,lastCheckpointSeq := (s.printed chunk).seq + chunk.length,
        inFlight := some checkpoint} checkpoint).settled ∧
      Caught later (printed + chunk.length) (some (printed + chunk.length)) ∧
      later.session = (s.session.feed vendor chunk).1 ∧
      later.file = {(s.file.append chunk).2 with checkpoint := some checkpoint.outputSeq,checkpointBlob := checkpoint.encode} := by
  have after := printed_caught vendor caught filled room
  have offset : checkpoint.outputSeq = printed + chunk.length := offset.trans (congrArg (· + _) caught.seq)
  have file := checkpointed_file (s := s.printed chunk) fits (after.ends.trans offset.symm)
  refine ⟨_,rfl,{after with ends := ?_,checkpoint := ?_,fed := rfl,idle := rfl,last := ?_},rfl,?_⟩
  · show ((s.printed chunk).checkpointed checkpoint).file.end = _
    rw [file]
    exact after.ends
  · show ((s.printed chunk).checkpointed checkpoint).file.checkpoint = _
    rw [file,offset]
  · show (s.printed chunk).seq + chunk.length = _
    exact congrArg (· + _) caught.seq
  · show ((s.printed chunk).checkpointed checkpoint).file = _
    rw [file,printed_file room]

-- A terminal that has shown nothing but plain text since it was made.
structure Plain (terminal : TerminalState V) : Prop where
  scanner : terminal.scanner = .withSecret ""
  title : terminal.title = ""
  command : terminal.command = .new
  size : terminal.rows = 24 ∧ terminal.cols = 80
  answered : terminal.answeredQuerySeq = 0

def plainText (length : Nat) : Bytes := List.replicate length 0x61

section
variable (base64 : Bytes → Option Bytes)

theorem plainText_scan (length : Nat) : scanAll base64 (.withSecret "") (plainText length) = .withSecret "" := by
  induction length with
  | zero => rfl
  | succ length ih => exact ih

theorem plainText_fold (vendor : Vendor V) (fromSeq start length : Nat) (acc : TerminalState.Feeding V)
    (scanner : acc.terminal.scanner = .withSecret "") :
    ((plainText length).zipIdx start).foldl (TerminalState.feedByte vendor fromSeq) acc = acc := by
  induction length generalizing start with
  | zero => rfl
  | succ length ih =>
    have byte : TerminalState.feedByte vendor fromSeq acc (0x61,start) = acc := by
      obtain ⟨terminal,_,_⟩ := acc
      obtain ⟨_,_,_⟩ := terminal
      cases scanner
      rfl
    simp only [plainText,List.replicate_succ,List.zipIdx_cons,List.foldl_cons,byte]
    exact ih (start + 1)

theorem plainText_plain (vendor : Vendor V) {session : SessionState V} (plain : Plain session.terminal)
    (filled : plainText length ≠ []) : Plain (session.feed vendor (plainText length)).1.terminal := by
  have fed := plainText_fold vendor (session.terminal.outputSeq + 1) 0 length ⟨{session.terminal with queries := []},[],none⟩
    plain.scanner
  have nonempty : ¬(plainText length).isEmpty := by simpa using filled
  obtain ⟨terminal,equal,kept⟩ : ∃ terminal : TerminalState V, (session.terminal.feed vendor (plainText length)).1 = terminal ∧
      Plain terminal ∧ terminal.queries = [] := by
    refine ⟨_,rfl,?_⟩
    simp only [TerminalState.feed,if_neg nonempty,fed,TerminalState.applyTitle,TerminalState.pushRetransmit]
    split <;> exact ⟨{plain with},rfl⟩
  unfold SessionState.feed
  split
  · rename_i other same
    rw [same] at equal
    cases equal
    exact kept.1
  · rename_i same
    rw [same] at equal
    cases equal
    rw [kept.2]
    exact ⟨kept.1.scanner,kept.1.title,kept.1.command,kept.1.size,kept.1.answered⟩

-- What a checkpoint of such a terminal holds if the engine renders nothing.
def plainCheckpoint : Checkpoint := ⟨2097152,24,80,"",⟨false,false,0,0,none⟩,0,none,[]⟩

theorem plain_checkpointAt {terminal : TerminalState V} (plain : Plain terminal)
    (seq : terminal.outputSeq = 2097152) (lines : Nat) (quiet : ∀ vt, vendor.render vt lines = ⟨none,[]⟩) :
    terminal.checkpointAt vendor lines = plainCheckpoint := by
  simp only [TerminalState.checkpointAt,quiet,seq,plain.title,plain.command,plain.size,plain.answered]
  rfl

theorem plain_fits {terminal : TerminalState V} (plain : Plain terminal)
    (seq : terminal.outputSeq = 2097152) (quiet : ∀ vt lines, vendor.render vt lines = ⟨none,[]⟩) :
    Fits vendor terminal ptydBlobCapacity := by
  refine ⟨0,?_⟩
  rw [plain_checkpointAt plain seq _ (quiet · _)]
  decide +kernel

theorem plainText_length (length : Nat) : (plainText length).length = length := List.length_replicate

theorem plainText_filled (positive : 0 < length) : plainText length ≠ [] := by
  rw [← List.length_pos_iff,plainText_length]
  exact positive

theorem bare_room (caught : Caught s printed none) : readBufferBytes ≤ s.pty.inner.file.writeBudget := by
  have bare : s.pty.inner.file.checkpoint = none := caught.checkpoint
  simp only [writeBudget,bare]
  decide

theorem floor_room (caught : Caught s printed (some floor)) (inside : printed + size ≤ floor + ptydRingCapacity)
    (small : size ≤ usizeMax) : size ≤ s.pty.inner.file.writeBudget := by
  have stored : s.pty.inner.file.checkpoint = some floor := caught.checkpoint
  have ends : s.pty.inner.file.end = printed := caught.ends
  simp only [writeBudget,stored,ends]
  exact Nat.le_min.mpr ⟨Nat.le_sub_of_add_le (by rwa [Nat.add_comm]),small⟩

def shellStart : FlowState Unit := .created blankVendor 24 80 1000 "" "" shellPair 100 0

structure PlainShell (s : FlowState V) (printed : Nat) (floor : Option Nat) : Prop extends Caught s printed floor where
  plain : Plain s.session.terminal
  size : s.file.rows = 24 ∧ s.file.cols = 80
  resizes : s.file.resizes = []

def FlowAction.ofReader : FlowAction V → Bool
  | .pty (.read _) | .append | .subscribe | .feed _ => true
  | _ => false

theorem round_ofReader : ∀ action ∈ (round chunk : List (FlowAction V)), action.ofReader = true := by
  simp [round,FlowAction.ofReader]

theorem shell_subscribed (vendor : Vendor V) : ∃ s,
    (flowMachine vendor true).run (.created vendor 24 80 1000 "" "" shellPair 100 0) [.subscribe] = some s ∧
      PlainShell s 0 none := by
  have passed : (FlowState.created vendor 24 80 1000 "" "" shellPair 100 0).file.checkOffset 0 = none :=
    checkOffset_inside (Nat.sub_le _ _) (Nat.le_refl _)
  refine ⟨_,rfl,?_⟩
  rw [FlowState.subscribe]
  simp only [passed]
  exact ⟨⟨⟨rfl,rfl⟩,rfl,rfl,rfl,rfl,rfl,rfl,rfl,rfl,rfl,rfl⟩,⟨rfl,rfl,rfl,⟨rfl,rfl⟩,rfl⟩,⟨rfl,rfl⟩,rfl⟩

-- Plain text short of the interval: every round is fed, none is checkpointed.
theorem plain_rounds (vendor : Vendor V) (rounds : Nat) (early : rounds * readBufferBytes < checkpointIntervalBytes) :
    ∃ actions s, (flowMachine vendor true).run (.created vendor 24 80 1000 "" "" shellPair 100 0) actions = some s ∧
      (∀ action ∈ actions, action.ofReader = true) ∧ PlainShell s (rounds * readBufferBytes) none := by
  induction rounds with
  | zero =>
    obtain ⟨s,ran,shell⟩ := shell_subscribed vendor
    exact ⟨_,s,ran,by simp [FlowAction.ofReader],by rwa [Nat.zero_mul]⟩
  | succ rounds ih =>
    have total : (rounds + 1) * readBufferBytes = rounds * readBufferBytes + readBufferBytes := Nat.succ_mul _ _
    obtain ⟨actions,s,ran,reader,shell⟩ := ih (by omega)
    have filled : plainText readBufferBytes ≠ [] := plainText_filled (by decide)
    have length := plainText_length readBufferBytes
    obtain ⟨next,went,after,session,file⟩ := round_undue vendor shell.toCaught filled (Nat.le_of_eq length)
      (length.trans_le (bare_room shell.toCaught)) (by
        intro due
        have interval := due.interval
        have seq : (s.printed (plainText readBufferBytes)).seq = rounds * readBufferBytes := shell.seq
        rw [seq,length] at interval
        omega)
    refine ⟨actions ++ round (plainText readBufferBytes),next,(run_append ran).trans went,?_,?_⟩
    · exact List.forall_mem_append.mpr ⟨reader,round_ofReader⟩
    · rw [length,← total] at after
      refine ⟨after,?_,?_,?_⟩
      · rw [session]
        exact plainText_plain vendor shell.plain filled
      · rw [file]
        exact shell.size
      · rw [file]
        exact shell.resizes

-- The batch that completes the interval.
theorem plain_checkpoint (vendor : Vendor V) (quiet : ∀ vt lines, vendor.render vt lines = ⟨none,[]⟩) :
    ∃ actions s, (flowMachine vendor true).run (.created vendor 24 80 1000 "" "" shellPair 100 0) actions = some s ∧
      (∀ action ∈ actions, action.ofReader = true) ∧ s.inFlight = some plainCheckpoint ∧
      PlainShell (s.checkpointed plainCheckpoint).settled 2097152 (some 2097152) ∧
      (s.checkpointed plainCheckpoint).settled.file.checkpointBlob = plainCheckpoint.encode := by
  have total : 255 * readBufferBytes + readBufferBytes = 2097152 := by decide
  obtain ⟨_,s,ran,reader,shell⟩ := plain_rounds vendor 255 (by decide)
  have filled : plainText readBufferBytes ≠ [] := plainText_filled (by decide)
  have length := plainText_length readBufferBytes
  have room : (plainText readBufferBytes).length ≤ s.pty.inner.file.writeBudget := length.trans_le (bare_room shell.toCaught)
  have plain := plainText_plain vendor shell.plain filled
  have before : s.session.terminal.outputSeq = 255 * readBufferBytes := shell.seq
  have seq : (s.session.feed vendor (plainText readBufferBytes)).1.terminal.outputSeq = 2097152 := by
    rw [(sessionFeed_reads vendor s.session filled).1,length,before,total]
  have went := round_run vendor shell.toCaught filled (Nat.le_of_eq length) room
  have idle : (s.printed (plainText readBufferBytes)).inFlight = none := shell.idle
  have same : (s.printed (plainText readBufferBytes)).session = s.session := rfl
  rcases readerBatch_cases vendor true (s.printed (plainText readBufferBytes)) filled with
    ⟨checkpoint,equal,offset,fits,_⟩ | ⟨_,undue⟩
  · obtain ⟨made,_⟩ := readerBatch_taken vendor _ idle (congrArg FlowState.inFlight equal)
    obtain ⟨lines,taken⟩ := checkpoint_fields made
    rw [same,plain_checkpointAt plain seq lines (quiet · _)] at taken
    subst taken
    obtain ⟨_,stored,caught,session,file⟩ := batch_checkpointed vendor shell.toCaught filled room fits offset
    rw [length,total] at caught
    refine ⟨_,_,(run_append ran).trans (went.trans (congrArg _ equal)),List.forall_mem_append.mpr ⟨reader,round_ofReader⟩,rfl,?_⟩
    rw [same,← stored]
    refine ⟨⟨caught,?_,?_,?_⟩,?_⟩
    · rw [session]
      exact plain
    · rw [file]
      exact shell.size
    · rw [file]
      exact shell.resizes
    · rw [file]
  · refine absurd ⟨?_,rfl,?_,?_⟩ undue
    · have seq : (s.printed (plainText readBufferBytes)).seq = 255 * readBufferBytes := shell.seq
      rw [seq,length,show (s.printed (plainText readBufferBytes)).lastCheckpointSeq = 0 from shell.last,total]
      decide
    · rw [same,shell.plain.scanner,plainText_scan]
      rfl
    · rw [same]
      exact plain_fits plain seq quiet

theorem shell_checkpoint : ∃ actions s, (flowMachine blankVendor true).run shellStart actions = some s ∧
    PlainShell s checkpointIntervalBytes (some checkpointIntervalBytes) := by
  obtain ⟨actions,s,ran,_,sent,shell,_⟩ := plain_checkpoint blankVendor fun _ _ => rfl
  have heard : (flowMachine blankVendor true).step s .answered = some (s.checkpointed plainCheckpoint).settled := by
    simp only [flowMachine,flowStep,sent,Option.map_some]
  exact ⟨actions ++ [.answered],_,(run_append ran).trans ((run_cons heard).trans run_nil),shell⟩

section
variable (length : Nat)

def openString : Bytes := List.replicate length 0x78

theorem openString_length : (openString length).length = length := List.length_replicate

theorem openString_scan (inside : scanner.state = .osc) : (scanAll base64 scanner (openString length)).state = .osc := by
  induction length generalizing scanner with
  | zero => exact inside
  | succ length ih =>
    obtain ⟨_,_,_,_⟩ := scanner
    cases inside
    exact ih rfl

theorem opening_scan : (scanAll base64 (.withSecret "") (0x1b :: 0x5d :: openString length)).state = .osc := by
  show (scanAll base64 ⟨.osc,0,.empty,""⟩ (openString length)).state = .osc
  exact openString_scan _ length rfl

end

end

theorem osc_not_between {scanner : OutputScanner} (inside : scanner.state = .osc) : scanner.betweenSequences = false := by
  simp [OutputScanner.betweenSequences,inside]

-- A round that ends inside the string is never checkpointed.
theorem string_round (caught : Caught s printed floor) (filled : chunk ≠ []) (small : chunk.length ≤ readBufferBytes)
    (room : chunk.length ≤ s.pty.inner.file.writeBudget)
    (inside : (scanAll blankVendor.base64 s.session.terminal.scanner chunk).state = .osc) :
    ∃ next, (flowMachine blankVendor true).run s (round chunk) = some next ∧ Caught next (printed + chunk.length) floor ∧
      next.session.terminal.scanner.state = .osc := by
  obtain ⟨next,went,after,session,_⟩ := round_undue blankVendor caught filled small room (by
    intro due
    have between := due.between
    rw [show (s.printed chunk).session = s.session from rfl,osc_not_between inside] at between
    cases between)
  refine ⟨next,went,after,?_⟩
  rw [session,(sessionFeed_reads blankVendor s.session filled).2]
  exact inside

theorem string_rounds (inside : (rounds + 1) * readBufferBytes ≤ ptydRingCapacity) :
    ∃ actions s, (flowMachine blankVendor true).run shellStart actions = some s ∧
      Caught s (checkpointIntervalBytes + (rounds + 1) * readBufferBytes) (some checkpointIntervalBytes) ∧
      s.session.terminal.scanner.state = .osc := by
  have small : readBufferBytes ≤ usizeMax := by decide
  induction rounds with
  | zero =>
    obtain ⟨actions,s,ran,shell⟩ := shell_checkpoint
    have caught := shell.toCaught
    have length : (0x1b :: 0x5d :: openString (readBufferBytes - 2)).length = readBufferBytes := by
      simp only [List.length_cons,openString_length]
      decide
    obtain ⟨next,went,after,state⟩ := string_round caught (List.cons_ne_nil _ _) (Nat.le_of_eq length)
      (length.trans_le (floor_room caught (by omega) small)) (by
        rw [shell.plain.scanner]
        exact opening_scan _ _)
    refine ⟨actions ++ round (0x1b :: 0x5d :: openString (readBufferBytes - 2)),next,(run_append ran).trans went,?_,state⟩
    rw [length] at after
    rw [Nat.zero_add,Nat.one_mul]
    exact after
  | succ rounds ih =>
    have total : (rounds + 1 + 1) * readBufferBytes = (rounds + 1) * readBufferBytes + readBufferBytes := Nat.succ_mul _ _
    obtain ⟨actions,s,ran,caught,state⟩ := ih (by omega)
    have length := openString_length readBufferBytes
    have filled : openString readBufferBytes ≠ [] := by
      rw [← List.length_pos_iff,length]
      decide
    obtain ⟨next,went,after,state⟩ := string_round caught filled (Nat.le_of_eq length)
      (length.trans_le (floor_room caught (by omega) small)) (openString_scan _ _ state)
    refine ⟨actions ++ round (openString readBufferBytes),next,(run_append ran).trans went,?_,state⟩
    rw [length] at after
    rw [total,← Nat.add_assoc]
    exact after

-- After one checkpoint an OSC string without an end fills the ring, and both halves wait for good.
theorem open_string_freezes :
    ∃ actions s, (flowMachine blankVendor true).run shellStart actions = some s ∧ Waiting s ∧
      ¬CanAdvance blankVendor true s := by
  have whole : (511 + 1) * readBufferBytes = ptydRingCapacity := by decide
  obtain ⟨actions,s,ran,caught,_⟩ := string_rounds (Nat.le_of_eq whole)
  have full : s.file.writeBudget = 0 := by
    simp only [writeBudget,caught.checkpoint,caught.ends,whole,Nat.sub_self,Nat.zero_min]
  have waiting : Waiting s := {caught with full := full}
  exact ⟨actions,s,ran,waiting,waiting_forever blankVendor _ waiting⟩

theorem never_frozen_checkpointed :
    ∃ actions last, (flowMachine blankVendor true).run shellStart actions = some last ∧
      last.file.checkpoint = some checkpointIntervalBytes ∧
      ((flowMachine blankVendor true).Throughout (fun s => Waiting s → CanAdvance blankVendor true s) shellStart actions ↔
        (flowMachine blankVendor true).Along (fun s action => ¬Starves blankVendor true s action) shellStart actions) := by
  obtain ⟨actions,last,ran,shell⟩ := shell_checkpoint
  exact ⟨actions,last,ran,shell.checkpoint,never_frozen_iff blankVendor _ 24 80 1000 "" "" shellPair 100 0 ran⟩

end Coflux.Runtime
