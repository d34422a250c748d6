import Coflux.Runtime.Recovery

namespace Coflux.Sessiond

def SessionAction.clerical : SessionAction → Bool
  | .attach _ _ | .feed _ | .resize _ _ => false
  | _ => true

end Coflux.Sessiond

namespace Coflux.Runtime
open StepMachine Ptyd Sessiond

-- A session through any number of runtimes. Each reads, serves, resizes and checkpoints it until it
-- dies, at any point; the next one rebuilds it from what ptyd has kept.

def minTerminalDimension : Nat := 1
def maxTerminalDimension : Nat := 1000

def clampDim (value : Nat) (fallback : UInt16) : UInt16 :=
  if value = 0 then fallback else (max minTerminalDimension (min value maxTerminalDimension)).toUInt16

-- A resize holds the session lock until its request to ptyd has ended.
structure Resizing where
  (rows cols : UInt16)
  carriedOut : Bool

structure Cut (V : Type) where
  checkpoint : Checkpoint
  vt : V

-- Live output, or a part of the replay of an attach that resumed from the given number.
structure Handed where
  client : Option String
  delta : Delta
  resumedFrom : Option Nat
deriving DecidableEq

-- A resize sessiond gave up on may still be carried out. The fields from history on decide nothing:
-- all the shell has printed, the checkpoints the present screen has gone through, the offsets of
-- logged resizes the screen did not take there, the last reader with the checkpoints of its screen,
-- who attached last, all raw output handed out and the DA1 queries sessiond has answered.
structure Life (V : Type) where
  stage : RecoveryState V
  lock : Option Resizing
  overdue : List (UInt16 × UInt16)
  history : Bytes
  cuts : List (Cut V)
  astray : List Nat
  crashed : Option (FlowState V × List (Cut V))
  owners : String → Option String
  handed : List Handed
  answered : List Nat

inductive LifeAction (V : Type) where
  | shell (action : PtyAction)
  | append
  | flow (action : FlowAction V)
  | feed (arriving : Nat)
  | attach (request : AttachRequest) (answers : Bool)
  | clerk (action : SessionAction)
  | resize (rows cols : Nat)
  | resizeCarriedOut
  | resizeAnswered
  | resizeRefused
  | resizeGivenUp
  | resizeLate (index : Nat)
  | crash
  | list (sessionId : String)
  | blob (answered : Bool)
  | resizes (answered : Bool)
  | read (answered : Bool)
  | replayed
  | register (opened : Bool)

def PtyAction.ofShell : PtyAction → Bool
  | .resize _ _ => false
  | _ => true

def FlowAction.clerical {V : Type} : FlowAction V → Bool
  | .pty _ | .append | .feed _ | .serve _ => false
  | _ => true

def answers (vendor : Vendor V) (session : SessionState V) (bytes : Bytes) : List Nat :=
  match session.terminal.feed vendor bytes with
  | (_,none) => []
  | (terminal,some delta) =>
    if session.humanReceivesRaw (SessionState.pendingFor session.subscribers delta) then []
    else terminal.queries.filterMap fun
      | .da1 seq => some seq
      | .programStatus _ => none

-- The pieces the ring callback of an attach asks ptyd for add up to one read.
def ringCallback (file : SessionFile) (answers : Bool) (fromSeq toSeq : Nat) : Option Bytes :=
  if answers then (file.read (fromSeq - 1) (toSeq - (fromSeq - 1))).map Prod.snd else none

def PtySide.resized (pty : PtySide) (rows cols : UInt16) : PtySide :=
  {pty with inner := pty.inner.resized (atLeastOne rows) (atLeastOne cols)}

namespace RecoveryState

def withPty (state : RecoveryState V) (pty : PtySide) : RecoveryState V :=
  match state with
  | .recovering _ info phase => .recovering pty info phase
  | .exited _ discarded => .exited pty discarded
  | .abandoned _ => .abandoned pty
  | .reading flow => .reading {flow with pty := pty}

def printed (state : RecoveryState V) (piece : Bytes) (pty : PtySide) : RecoveryState V :=
  match state with
  | .reading flow => .reading (flow.appended piece pty)
  | other => other.withPty pty

end RecoveryState

namespace Life

def reading (s : Life V) : Option (FlowState V) :=
  match s.stage with
  | .reading flow => some flow
  | _ => none

def served (s : Life V) : Option (FlowState V) := if s.lock = none then s.reading else none

section
variable (r : Replacement V)

section
variable (s : Life V)

def fed (flow : FlowState V) (batch : Bytes) (rest : List Bytes) : Life V :=
  let next := flow.readerBatch r.vendor (r.supports "checkpoint") batch rest
  {s with
    stage := .reading next
    cuts := s.cuts ++ (next.inFlight.map fun checkpoint => ⟨checkpoint,next.session.terminal.vt⟩).toList
    handed := s.handed ++
      (flow.session.feed r.vendor batch).2.map fun delivery => ⟨s.owners delivery.channelId,delivery.delta,none⟩
    answered := s.answered ++ answers r.vendor flow.session batch}

def attached (flow : FlowState V) (request : AttachRequest) (answers : Bool) : Life V :=
  match flow.session.attach r.vendor request (ringCallback flow.file answers) with
  | (session,.ok outcome) =>
    {s with
      stage := .reading {flow with session := session}
      owners := Function.update s.owners request.channelId (some request.clientInstanceId)
      handed := s.handed ++ outcome.replay.map fun delta => ⟨some request.clientInstanceId,delta,some outcome.snapshotSeq⟩}
  | (session,.error _) => {s with stage := .reading {flow with session := session}}

def resizeLocked (flow : FlowState V) (rows cols : UInt16) : Life V :=
  if flow.session.terminal.rows = rows ∧ flow.session.terminal.cols = cols then s
  else {s with lock := some ⟨rows,cols,false⟩}

def unanswered : Option Resizing → List (UInt16 × UInt16)
  | some ⟨rows,cols,false⟩ => [(rows,cols)]
  | _ => []

-- Where ptyd logs a resize now, if the screen has not seen all the output before it.
def lag : List Nat :=
  match s.stage with
  | .reading flow => if flow.seq = flow.file.end then [] else [flow.file.end]
  | other => [other.pty.inner.file.end]

-- Where a resize was logged that the screen will never take.
def forgone (lock : Resizing) : List Nat :=
  if lock.carriedOut then (s.reading.map FlowState.seq).toList else []

def crash : Life V :=
  {s with
    stage := .abandoned s.stage.pty
    lock := none
    overdue := s.overdue ++ unanswered s.lock
    crashed := (s.reading.map fun flow => (flow,s.cuts)).or s.crashed}

def restoredCuts (info : PtydSessionInfo) : Option Checkpoint → List (Cut V)
  | none => []
  | some checkpoint =>
    if checkpoint ∈ ((s.crashed.map Prod.snd).getD []).map Cut.checkpoint then
      [⟨checkpoint,(r.restore info (some checkpoint)).session.terminal.vt⟩]
    else []

def keptCuts : RecoveryState V → List (Cut V)
  | .recovering _ _ (.rebuilt _) => []
  | _ => s.cuts

end

def start (rows cols : Nat) (label : String) (pair : PtyPair) (pid : Int) (now : Nat) : Life V :=
  ⟨.reading (.created r.vendor (clampDim rows 24) (clampDim cols 80) r.historyLineLimit label (r.markSecret label) pair pid now),
    none,[],[],[],[],none,fun _ => none,[],[]⟩

end

end Life

def lifeStep (r : Replacement V) (s : Life V) : LifeAction V → Option (Life V)
  | .shell action =>
    if action.ofShell then (s.stage.pty.step action).map fun pty => {s with stage := s.stage.withPty pty} else none
  | .append => s.stage.pty.append.map fun (piece,pty) =>
    {s with stage := s.stage.printed piece pty,history := s.history ++ piece}
  | .flow action =>
    if action.clerical then
      s.reading.bind fun flow => (flowStep r.vendor (r.supports "checkpoint") flow action).map fun next =>
        {s with stage := .reading next}
    else none
  | .feed arriving =>
    s.served.bind fun flow =>
      if flow.inFlight = none then
        (coalescePtyOutput arriving flow.unread).map fun (batch,rest) => s.fed r flow batch rest
      else none
  | .attach request answers => s.served.map fun flow => s.attached r flow request answers
  | .clerk action =>
    if action.clerical then
      s.served.map fun flow => {s with stage := .reading {flow with session := sessionStep r.vendor flow.session action}}
    else none
  | .resize rows cols =>
    s.served.map fun flow => s.resizeLocked flow (clampDim rows flow.session.terminal.rows)
      (clampDim cols flow.session.terminal.cols)
  | .resizeCarriedOut =>
    match s.lock with
    | some ⟨rows,cols,false⟩ =>
      some {s with
        stage := s.stage.withPty (s.stage.pty.resized rows cols)
        lock := some ⟨rows,cols,true⟩
        astray := s.astray ++ s.lag}
    | _ => none
  | .resizeAnswered =>
    match s.lock with
    | some ⟨rows,cols,true⟩ => s.reading.map fun flow =>
      {s with stage := .reading {flow with session := resizeSession r.vendor flow.session rows cols},lock := none}
    | _ => none
  | .resizeRefused =>
    match s.lock with
    | some ⟨_,_,false⟩ => some {s with lock := none}
    | _ => none
  | .resizeGivenUp => s.lock.map fun lock =>
    {s with lock := none,overdue := s.overdue ++ Life.unanswered (some lock),astray := s.astray ++ s.forgone lock}
  | .resizeLate index => (s.overdue[index]?).map fun (rows,cols) =>
    {s with
      stage := s.stage.withPty (s.stage.pty.resized rows cols)
      overdue := s.overdue.eraseIdx index
      astray := s.astray ++ [s.stage.pty.inner.file.end]}
  | .crash => some s.crash
  | .list sessionId =>
    match s.stage with
    | .abandoned pty => some {s with stage := .found pty sessionId}
    | _ => none
  | .blob answered =>
    match s.stage with
    | .recovering pty info .listed =>
      (recoveryStep r (.recovering pty info .listed) (.blob answered)).map fun next =>
        {s with
          stage := next
          cuts := s.restoredCuts r info
            (if r.supports "blob" && answered then r.checkpoint info pty.inner.file.blob else none)}
    | _ => none
  | .resizes answered => (recoveryStep r s.stage (.resizes answered)).map fun next => {s with stage := next}
  | .read answered =>
    (recoveryStep r s.stage (.read answered)).map fun next => {s with stage := next,cuts := s.keptCuts next}
  | .replayed => (recoveryStep r s.stage .replayed).map fun next => {s with stage := next}
  | .register opened => (recoveryStep r s.stage (.register opened)).map fun next => {s with stage := next}

def lifeMachine (r : Replacement V) : Machine (Life V) (LifeAction V) := ⟨lifeStep r⟩

inductive LifeMove (r : Replacement V) (s : Life V) : LifeAction V → Life V → Prop where
  | shell {action : PtyAction} {pty : PtySide} (own : action.ofShell = true) (moved : s.stage.pty.step action = some pty) :
      LifeMove r s (.shell action) {s with stage := s.stage.withPty pty}
  | printed {piece : Bytes} {pty : PtySide} (appended : s.stage.pty.append = some (piece,pty)) :
      LifeMove r s .append {s with stage := s.stage.printed piece pty,history := s.history ++ piece}
  | flowed {flow next : FlowState V} {action : FlowAction V} (here : s.stage = .reading flow) (clerical : action.clerical = true)
      (stepped : flowStep r.vendor (r.supports "checkpoint") flow action = some next) :
      LifeMove r s (.flow action) {s with stage := .reading next}
  | fed {flow : FlowState V} {arriving : Nat} {batch : Bytes} {rest : List Bytes} (here : s.stage = .reading flow)
      (free : s.lock = none) (idle : flow.inFlight = none) (joined : coalescePtyOutput arriving flow.unread = some (batch,rest)) :
      LifeMove r s (.feed arriving) (s.fed r flow batch rest)
  | attached {flow : FlowState V} {request : AttachRequest} {answers : Bool} (here : s.stage = .reading flow)
      (free : s.lock = none) : LifeMove r s (.attach request answers) (s.attached r flow request answers)
  | clerk {flow : FlowState V} {action : SessionAction} (here : s.stage = .reading flow) (free : s.lock = none)
      (clerical : action.clerical = true) :
      LifeMove r s (.clerk action) {s with stage := .reading {flow with session := sessionStep r.vendor flow.session action}}
  | resize {flow : FlowState V} {rows cols : Nat} (here : s.stage = .reading flow) (free : s.lock = none) :
      LifeMove r s (.resize rows cols) (s.resizeLocked flow (clampDim rows flow.session.terminal.rows)
        (clampDim cols flow.session.terminal.cols))
  | resizeCarriedOut {rows cols : UInt16} (held : s.lock = some ⟨rows,cols,false⟩) :
      LifeMove r s .resizeCarriedOut {s with
          stage := s.stage.withPty (s.stage.pty.resized rows cols)
          lock := some ⟨rows,cols,true⟩
          astray := s.astray ++ s.lag}
  | resizeAnswered {flow : FlowState V} {rows cols : UInt16} (here : s.stage = .reading flow)
      (held : s.lock = some ⟨rows,cols,true⟩) :
      LifeMove r s .resizeAnswered
        {s with stage := .reading {flow with session := resizeSession r.vendor flow.session rows cols},lock := none}
  | resizeRefused {rows cols : UInt16} (held : s.lock = some ⟨rows,cols,false⟩) : LifeMove r s .resizeRefused {s with lock := none}
  | resizeGivenUp {lock : Resizing} (held : s.lock = some lock) :
      LifeMove r s .resizeGivenUp
        {s with lock := none,overdue := s.overdue ++ Life.unanswered (some lock),astray := s.astray ++ s.forgone lock}
  | resizeLate {index : Nat} {rows cols : UInt16} (sent : s.overdue[index]? = some (rows,cols)) :
      LifeMove r s (.resizeLate index) {s with
          stage := s.stage.withPty (s.stage.pty.resized rows cols)
          overdue := s.overdue.eraseIdx index
          astray := s.astray ++ [s.stage.pty.inner.file.end]}
  | crash : LifeMove r s .crash s.crash
  | list {pty : PtySide} {sessionId : String} (here : s.stage = .abandoned pty) :
      LifeMove r s (.list sessionId) {s with stage := .found pty sessionId}
  | blob {pty : PtySide} {info : PtydSessionInfo} {answered : Bool} {next : RecoveryState V}
      (here : s.stage = .recovering pty info .listed)
      (stepped : recoveryStep r (.recovering pty info .listed) (.blob answered) = some next) :
      LifeMove r s (.blob answered) {s with
        stage := next
        cuts := s.restoredCuts r info
          (if r.supports "blob" && answered then r.checkpoint info pty.inner.file.blob else none)}
  | resizes {pty : PtySide} {info : PtydSessionInfo} {rebuild : Rebuild V} {answered : Bool}
      (here : s.stage = .recovering pty info (.restored rebuild)) :
      LifeMove r s (.resizes answered) {s with
        stage := .recovering pty info (.replaying (r.resized pty.inner.file answered rebuild))}
  | read {pty : PtySide} {info : PtydSessionInfo} {rebuild : Rebuild V} {answered : Bool}
      (here : s.stage = .recovering pty info (.replaying rebuild)) (more : rebuild.cursor < info.outputOffset) :
      LifeMove r s (.read answered) {s with
        stage := .recovering pty info (r.read info pty.inner.file answered rebuild)
        cuts := s.keptCuts (.recovering pty info (r.read info pty.inner.file answered rebuild))}
  | replayed {pty : PtySide} {info : PtydSessionInfo} {rebuild : Rebuild V}
      (here : s.stage = .recovering pty info (.replaying rebuild)) (done : ¬rebuild.cursor < info.outputOffset) :
      LifeMove r s .replayed {s with stage := .recovering pty info (.rebuilt (r.replayed info rebuild))}
  | register {pty : PtySide} {info : PtydSessionInfo} {rebuild : Rebuild V} {opened : Bool}
      (here : s.stage = .recovering pty info (.rebuilt rebuild)) :
      LifeMove r s (.register opened) {s with stage := if opened then .reading (rebuild.start pty) else .abandoned pty}

theorem reading_some {s : Life V} (found : s.reading = some flow) : s.stage = .reading flow := by
  unfold Life.reading at found
  split at found
  · rename_i here
    rw [here,Option.some.inj found]
  · cases found

theorem served_some {s : Life V} (found : s.served = some flow) : s.stage = .reading flow ∧ s.lock = none := by
  unfold Life.served at found
  split at found
  · rename_i free
    exact ⟨reading_some found,free⟩
  · cases found

theorem lifeStep_move {r : Replacement V} {s next : Life V} (step : lifeStep r s action = some next) :
    LifeMove r s action next := by
  cases action with
  | shell action =>
    simp only [lifeStep] at step
    split at step
    · rename_i own
      obtain ⟨pty,moved,rfl⟩ := Option.map_eq_some_iff.mp step
      exact .shell own moved
    · cases step
  | append =>
    obtain ⟨⟨_,pty⟩,appended,rfl⟩ := Option.map_eq_some_iff.mp step
    exact .printed appended
  | flow action =>
    simp only [lifeStep] at step
    split at step
    · rename_i clerical
      obtain ⟨flow,found,step⟩ := Option.bind_eq_some_iff.mp step
      obtain ⟨after,taken,rfl⟩ := Option.map_eq_some_iff.mp step
      exact .flowed (reading_some found) clerical taken
    · cases step
  | feed arriving =>
    obtain ⟨flow,found,step⟩ := Option.bind_eq_some_iff.mp step
    split at step
    · rename_i idle
      obtain ⟨⟨_,_⟩,joined,rfl⟩ := Option.map_eq_some_iff.mp step
      exact .fed (served_some found).1 (served_some found).2 idle joined
    · cases step
  | attach request answers =>
    obtain ⟨flow,found,rfl⟩ := Option.map_eq_some_iff.mp step
    exact .attached (served_some found).1 (served_some found).2
  | clerk action =>
    simp only [lifeStep] at step
    split at step
    · rename_i clerical
      obtain ⟨flow,found,rfl⟩ := Option.map_eq_some_iff.mp step
      exact .clerk (served_some found).1 (served_some found).2 clerical
    · cases step
  | resize rows cols =>
    obtain ⟨flow,found,rfl⟩ := Option.map_eq_some_iff.mp step
    exact .resize (served_some found).1 (served_some found).2
  | resizeCarriedOut =>
    simp only [lifeStep] at step
    split at step
    · rename_i rows cols held
      cases step
      exact .resizeCarriedOut held
    · cases step
  | resizeAnswered =>
    simp only [lifeStep] at step
    split at step
    · rename_i rows cols held
      obtain ⟨_,found,rfl⟩ := Option.map_eq_some_iff.mp step
      exact .resizeAnswered (reading_some found) held
    · cases step
  | resizeRefused =>
    simp only [lifeStep] at step
    split at step
    · rename_i rows cols held
      cases step
      exact .resizeRefused held
    · cases step
  | resizeGivenUp =>
    obtain ⟨_,held,rfl⟩ := Option.map_eq_some_iff.mp step
    exact .resizeGivenUp held
  | resizeLate index =>
    obtain ⟨⟨_,_⟩,sent,rfl⟩ := Option.map_eq_some_iff.mp step
    exact .resizeLate sent
  | crash =>
    cases step
    exact .crash
  | list sessionId =>
    simp only [lifeStep] at step
    split at step
    · rename_i pty here
      cases step
      exact .list here
    · cases step
  | blob answered =>
    simp only [lifeStep] at step
    split at step
    · rename_i pty info here
      obtain ⟨after,taken,rfl⟩ := Option.map_eq_some_iff.mp step
      exact .blob here taken
    · cases step
  | resizes answered =>
    obtain ⟨after,taken,rfl⟩ := Option.map_eq_some_iff.mp step
    cases here : s.stage with
    | recovering pty info phase =>
      rw [here] at taken
      cases phase with
      | restored rebuild =>
        cases taken
        exact .resizes here
      | _ => cases taken
    | _ =>
      rw [here] at taken
      cases taken
  | read answered =>
    obtain ⟨after,taken,rfl⟩ := Option.map_eq_some_iff.mp step
    cases here : s.stage with
    | recovering pty info phase =>
      rw [here] at taken
      cases phase with
      | replaying rebuild =>
        obtain ⟨more,rfl⟩ := guard_parts taken
        exact .read here more
      | _ => cases taken
    | _ =>
      rw [here] at taken
      cases taken
  | replayed =>
    obtain ⟨after,taken,rfl⟩ := Option.map_eq_some_iff.mp step
    cases here : s.stage with
    | recovering pty info phase =>
      rw [here] at taken
      cases phase with
      | replaying rebuild =>
        simp only [recoveryStep] at taken
        split at taken
        · cases taken
        · rename_i done
          cases taken
          exact .replayed here done
      | _ => cases taken
    | _ =>
      rw [here] at taken
      cases taken
  | register opened =>
    obtain ⟨_,taken,rfl⟩ := Option.map_eq_some_iff.mp step
    cases here : s.stage with
    | recovering pty info phase =>
      rw [here] at taken
      cases phase with
      | rebuilt rebuild =>
        cases taken
        exact .register here
      | _ => cases taken
    | _ =>
      rw [here] at taken
      cases taken

structure FlowSound (history : Bytes) (flow : FlowState V) : Prop where
  valid : FlowInvariant flow
  represents : Represents flow.file history
  unread : flow.stage = .live → flow.unread.flatten = history.drop flow.seq

def StageSound (history : Bytes) : RecoveryState V → Prop
  | .reading flow => FlowSound history flow
  | .recovering pty info phase => Recovering pty info phase ∧ Represents pty.inner.file history
  | .exited pty _ | .abandoned pty => Represents pty.inner.file history

-- Only a session with a reader is ever locked.
structure LifeSound (s : Life V) : Prop where
  stage : StageSound s.history s.stage
  locked : s.lock ≠ none → ∃ flow, s.stage = .reading flow

section Sound
variable {r : Replacement V} {s : Life V}

theorem stage_represents (sound : StageSound history stage) : Represents stage.pty.inner.file history := by
  cases stage with
  | recovering pty info phase => exact sound.2
  | reading flow => exact sound.represents
  | _ => exact sound

theorem flow_end (sound : FlowSound history flow) : flow.file.end = history.length := sound.represents.ends

theorem seq_le (sound : FlowSound history flow) (alive : flow.stage ≠ .discarded) : flow.seq ≤ history.length := by
  rw [← flow_end sound]
  cases stage : flow.stage with
  | starting cursor =>
    obtain ⟨same,inside⟩ := sound.valid.cursor _ stage
    exact same ▸ inside
  | live => exact Nat.le_of_add_right_le (Nat.le_of_eq (sound.valid.position stage))
  | discarded => exact absurd stage alive

theorem withPty_sound (sound : StageSound history stage) (moved : stage.pty.step action = some pty) :
    StageSound history (stage.withPty pty) := by
  obtain ⟨ends,_,still,_⟩ := ptyStep_cases moved
  have represents := still history (stage_represents sound)
  cases stage with
  | recovering old info phase =>
    obtain ⟨recovering,_⟩ := sound
    obtain ⟨other,valid⟩ := recovering.represents
    obtain ⟨_,checkpoint,stillOld,_⟩ := ptyStep_cases moved
    exact ⟨{recovering with represents := ⟨other,stillOld _ valid⟩,kept := checkpoint.trans recovering.kept,target := recovering.target.trans (Nat.le_of_eq ends.symm)},represents⟩
  | reading flow => exact ⟨pty_invariant sound.valid represents ends,represents,sound.unread⟩
  | _ => exact represents

theorem resized_step {pty : PtySide} :
    pty.step (.resize (atLeastOne rows) (atLeastOne cols)) = some (pty.resized rows cols) := rfl

theorem printed_sound (sound : StageSound history stage) (appended : stage.pty.append = some (piece,pty)) :
    StageSound (history ++ piece) (stage.printed piece pty) := by
  obtain ⟨_,_,_,_,file,_,_,room⟩ := ptyAppend_parts appended
  have represents : Represents pty.inner.file (history ++ piece) := by
    rw [file]
    exact append_represents (stage_represents sound) room
  cases stage with
  | recovering old info phase =>
    obtain ⟨recovering,_⟩ := sound
    refine ⟨{recovering with represents := ⟨_,represents⟩,kept := ?_,target := ?_},represents⟩
    · rw [file]
      exact recovering.kept
    · rw [file,append_end]
      exact recovering.target.trans (Nat.le_add_right _ _)
  | reading flow =>
    refine ⟨appended_invariant sound.valid appended,represents,?_⟩
    intro live
    have was : flow.stage = .live := live
    have before := sound.unread was
    have inside := seq_le sound (by rw [was]; nofun)
    show (if flow.stage = .live then flow.unread ++ [piece] else flow.unread).flatten = (history ++ piece).drop flow.seq
    rw [if_pos was,List.flatten_concat,before,List.drop_append_of_le_length inside]
  | _ => exact represents

theorem clerical_parts (clerical : action.clerical = true) (step : flowStep r.vendor supported flow action = some after) :
    after.session = flow.session ∧ after.file.end = flow.file.end ∧ after.file.resizes = flow.file.resizes ∧
      after.file.rows = flow.file.rows ∧ after.file.cols = flow.file.cols ∧
      (∀ history, Represents flow.file history → Represents after.file history) := by
  have stored : ∀ checkpoint, (flow.checkpointed checkpoint).file.end = flow.file.end ∧
      (flow.checkpointed checkpoint).file.resizes = flow.file.resizes ∧
      (flow.checkpointed checkpoint).file.rows = flow.file.rows ∧ (flow.checkpointed checkpoint).file.cols = flow.file.cols ∧
      ∀ history, Represents flow.file history → Represents (flow.checkpointed checkpoint).file history := by
    intro checkpoint
    refine ⟨setCheckpoint_end,?_,?_,?_,fun _ valid => setCheckpoint_represents valid⟩ <;>
    · simp only [FlowState.file,FlowState.checkpointed,SessionInner.checkpointed]
      rcases setCheckpoint_cases flow.pty.inner.file checkpoint.outputSeq checkpoint.encode with
        ⟨message,refused,_⟩ | ⟨stored,_⟩
      · rw [refused]
      · rw [stored]
  cases flowStep_move step with
  | subscribe =>
    unfold FlowState.subscribe
    split <;> exact ⟨rfl,rfl,rfl,rfl,rfl,fun _ valid => valid⟩
  | subscribeFailed | givenUp | lost =>
    exact ⟨rfl,rfl,rfl,rfl,rfl,fun _ valid => valid⟩
  | answered checkpoint _ | carriedOut checkpoint _ =>
    exact ⟨rfl,stored checkpoint⟩
  | _ => cases clerical

theorem clerical_unread (sound : FlowSound history flow)
    (clerical : action.clerical = true) (step : flowStep r.vendor supported flow action = some after)
    (live : after.stage = .live) : after.unread.flatten = history.drop flow.seq := by
  cases flowStep_move step with
  | subscribe cursor started =>
    obtain ⟨same,_⟩ := sound.valid.cursor _ started
    unfold FlowState.subscribe at live ⊢
    split at live
    · cases live
    · rename_i passed
      rw [← same]
      exact (backlog_parts sound.represents passed).1
  | subscribeFailed =>
    cases live
  | answered | givenUp | carriedOut | lost =>
    exact sound.unread live
  | _ => cases clerical

theorem clerical_sound {after : FlowState V} {action : FlowAction V} (sound : FlowSound history flow)
    (clerical : action.clerical = true) (step : flowStep r.vendor supported flow action = some after) :
    FlowSound history after := by
  obtain ⟨session,_,_,_,_,still⟩ := clerical_parts clerical step
  refine ⟨flowStep_invariant _ _ _ _ sound.valid step,still history sound.represents,?_⟩
  intro live
  rw [clerical_unread sound clerical step live,FlowState.seq,FlowState.seq,session]

theorem batch_parts (sound : FlowSound history flow) (joined : coalescePtyOutput arriving flow.unread = some (batch,rest)) :
    batch ≠ [] ∧ flow.stage = .live ∧ history.drop flow.seq = batch ++ rest.flatten := by
  obtain ⟨whole,nonempty,_⟩ := coalesce_parts sound.valid.filled joined
  have live : flow.stage = .live := by
    by_contra off
    rw [(sound.valid.quiet off).1] at joined
    cases joined
  exact ⟨nonempty,live,(sound.unread live).symm.trans whole.symm⟩

theorem readerBatch_parts (flow : FlowState V) (nonempty : batch ≠ []) :
    (flow.readerBatch r.vendor supported batch rest).session = (flow.session.feed r.vendor batch).1 ∧
      (flow.readerBatch r.vendor supported batch rest).pty = flow.pty ∧
      (flow.readerBatch r.vendor supported batch rest).unread = rest ∧
      (flow.readerBatch r.vendor supported batch rest).seq = flow.seq + batch.length := by
  have position := (sessionFeed_reads r.vendor flow.session nonempty).1
  rcases readerBatch_cases r.vendor supported flow nonempty with ⟨_,equal,_⟩ | ⟨equal,_⟩
  · rw [equal]
    exact ⟨rfl,rfl,rfl,position⟩
  · rw [equal]
    exact ⟨rfl,rfl,rfl,position⟩

theorem batch_sound (sound : FlowSound history flow) (idle : flow.inFlight = none)
    (joined : coalescePtyOutput arriving flow.unread = some (batch,rest)) :
    FlowSound history (flow.readerBatch r.vendor supported batch rest) := by
  obtain ⟨nonempty,_,content⟩ := batch_parts sound joined
  obtain ⟨_,pty,unread,seq⟩ := readerBatch_parts _ nonempty
  refine ⟨readerBatch_invariant _ _ sound.valid idle joined,?_,?_⟩
  · rw [FlowState.file,pty]
    exact sound.represents
  · intro _
    rw [unread,seq,← List.drop_drop,content,List.drop_left]

theorem session_sound (sound : FlowSound history flow) {session : SessionState V}
    (same : session.terminal.outputSeq = flow.seq) : FlowSound history {flow with session := session} := by
  refine ⟨session_invariant sound.valid same,sound.represents,?_⟩
  intro live
  show flow.unread.flatten = history.drop session.terminal.outputSeq
  rw [same]
  exact sound.unread live

section
variable (vendor : Vendor V) (session : SessionState V)

theorem attach_terminal (request : AttachRequest)
    (ring : Nat → Nat → Option Bytes) : (session.attach vendor request ring).1.terminal = session.terminal := by
  cases accepted : session.validateAttach request with
  | some error => simp only [SessionState.attach,accepted]
  | none =>
    obtain ⟨_,equal⟩ := attach_accepted accepted
    rw [equal]
    exact takeHolder_terminal session _

theorem clerk_terminal {action : SessionAction} (clerical : action.clerical = true) :
    (sessionStep vendor session action).terminal = session.terminal := by
  cases action with
  | deliveryResult channelId toSeq sent => exact deliveryResult_terminal session
  | gapDeliveryResult channelId sent => exact gapDeliveryResult_terminal session
  | clearSubscribers | removeSubscriber => rfl
  | _ => cases clerical

end

theorem attached_stage {request : AttachRequest} {answers : Bool} :
    (s.attached r flow request answers).stage =
        .reading {flow with session := (flow.session.attach r.vendor request (ringCallback flow.file answers)).1} ∧
      (s.attached r flow request answers).history = s.history ∧ (s.attached r flow request answers).lock = s.lock ∧
      (s.attached r flow request answers).cuts = s.cuts ∧ (s.attached r flow request answers).astray = s.astray ∧
      (s.attached r flow request answers).crashed = s.crashed ∧ (s.attached r flow request answers).answered = s.answered := by
  unfold Life.attached
  split
  · rename_i equal
    rw [equal]
    exact ⟨rfl,rfl,rfl,rfl,rfl,rfl,rfl⟩
  · rename_i equal
    rw [equal]
    exact ⟨rfl,rfl,rfl,rfl,rfl,rfl,rfl⟩

theorem withPty_reading {state : RecoveryState V} (here : state = .reading flow) {pty : PtySide} :
    ∃ after, state.withPty pty = .reading after := ⟨{flow with pty := pty},by rw [here]; rfl⟩

theorem recovery_sound (sound : StageSound history (.recovering pty info phase))
    (step : recoveryStep r (.recovering pty info phase) action = some stage) (same : stage.pty = pty) :
    StageSound history stage := by
  rcases recovering_step r sound.1 step with ⟨pty,_,rfl,good⟩ | ⟨_,rfl,_⟩ | ⟨rfl,_⟩ | ⟨_,rfl,paced⟩
  · exact ⟨good,by rw [show pty = _ from same]; exact sound.2⟩
  · exact sound.2
  · exact sound.2
  · refine ⟨paced.valid,sound.2,?_⟩
    intro live
    cases live

theorem ofShell_file {pty after : PtySide} (own : action.ofShell = true) (moved : pty.step action = some after) :
    after.inner.file = pty.inner.file := by
  cases action with
  | read | exit =>
    simp only [PtySide.step] at moved
    obtain ⟨_,rfl⟩ := guard_parts moved
    rfl
  | kill =>
    cases moved
    rfl
  | resize rows cols => cases own

theorem withPty_waits {state : RecoveryState V} (here : state = .reading flow) :
    ∃ later, state.withPty after = .reading later ∧ later.session = flow.session ∧ later.pty = after :=
  ⟨{flow with pty := after},by rw [here]; rfl,rfl,rfl⟩

theorem keptCuts_subset (mem : cut ∈ s.keptCuts state) : cut ∈ s.cuts := by
  unfold Life.keptCuts at mem
  split at mem
  · cases mem
  · exact mem

theorem read_outcome :
    (∃ after, r.read info file answered rebuild = .replaying after) ∨
      r.read info file answered rebuild = .rebuilt (r.blanked info rebuild) := by
  unfold Replacement.read
  dsimp only
  unfold Replacement.fed
  split
  · split
    · exact .inl ⟨_,rfl⟩
    · exact .inr rfl
  · exact .inr rfl

theorem read_feeds (represents : Represents file history) (replied : r.read info file answered rebuild = .replaying after) :
    ∃ data, data ≠ [] ∧
      after = ⟨((applyResizes r.vendor rebuild.cursor rebuild.session rebuild.resizes).1.feed r.vendor data).1,
        rebuild.cursor + data.length,rebuild.lastCheckpointSeq,
        (applyResizes r.vendor rebuild.cursor rebuild.session rebuild.resizes).2⟩ ∧
      history.take (rebuild.cursor + data.length) = history.take rebuild.cursor ++ data ∧
      rebuild.cursor + data.length ≤
        Replacement.stop info (applyResizes r.vendor rebuild.cursor rebuild.session rebuild.resizes).2 := by
  unfold Replacement.read at replied
  dsimp only at replied
  generalize applyResizes r.vendor rebuild.cursor rebuild.session rebuild.resizes = applied at *
  generalize asked : (if (r.supports "read" && answered) = true then
    file.read rebuild.cursor (min (Replacement.stop info applied.2 - rebuild.cursor) ptydMaxReadBytes) else none) = reply at replied
  unfold Replacement.fed at replied
  split at replied
  · rename_i data
    split at replied
    · rename_i accepted
      cases replied
      obtain ⟨_,filled⟩ := accepted
      refine ⟨data,filled,rfl,?_⟩
      have positive := List.length_pos_iff.mpr filled
      split at asked
      · rw [read_exact represents] at asked
        split at asked
        · cases asked
          simp only [List.length_take,List.length_drop] at positive ⊢
          have ends := represents.ends
          refine ⟨?_,by omega⟩
          rw [List.take_add,Nat.min_eq_left (by omega)]
        · cases asked
      · cases asked
    · cases replied
  · cases replied

theorem unlocked (sound : LifeSound s) (off : s.reading = none) : s.lock = none := by
  by_contra held
  obtain ⟨_,here⟩ := sound.locked held
  rw [Life.reading,here] at off
  cases off

theorem lifeStep_sound (s : Life V) (action : LifeAction V) (next : Life V) (sound : LifeSound s)
    (step : lifeStep r s action = some next) : LifeSound next := by
  have whole := sound.stage
  cases lifeStep_move step with
  | shell own moved =>
    refine ⟨withPty_sound whole moved,?_⟩
    intro held
    obtain ⟨flow,here⟩ := sound.locked held
    exact withPty_reading here
  | printed appended =>
    refine ⟨printed_sound whole appended,?_⟩
    intro held
    obtain ⟨flow,here⟩ := sound.locked held
    exact ⟨_,by rw [here]; rfl⟩
  | flowed here clerical moved =>
    rw [here] at whole
    exact ⟨clerical_sound whole clerical moved,fun _ => ⟨_,rfl⟩⟩
  | fed here free idle joined =>
    rw [here] at whole
    exact ⟨batch_sound whole idle joined,fun _ => ⟨_,rfl⟩⟩
  | @attached flow request answers here free =>
    rw [here] at whole
    obtain ⟨stage,history,_⟩ := attached_stage
    refine ⟨?_,fun _ => ⟨_,stage⟩⟩
    rw [stage,history]
    exact session_sound whole (congrArg TerminalState.outputSeq (attach_terminal _ _ _ _))
  | clerk here free clerical =>
    rw [here] at whole
    exact ⟨session_sound whole (congrArg TerminalState.outputSeq (clerk_terminal _ _ clerical)),fun _ => ⟨_,rfl⟩⟩
  | resize here free =>
    unfold Life.resizeLocked
    split
    · exact sound
    · exact ⟨whole,fun _ => ⟨_,here⟩⟩
  | resizeCarriedOut held =>
    obtain ⟨flow,here⟩ := sound.locked (by rw [held]; nofun)
    exact ⟨withPty_sound whole resized_step,fun _ => withPty_reading here⟩
  | resizeAnswered here held =>
    rw [here] at whole
    exact ⟨session_sound whole (resizeSession_seq _ _ _ _),fun _ => ⟨_,rfl⟩⟩
  | resizeRefused held | resizeGivenUp held => exact ⟨whole,fun held => absurd rfl held⟩
  | resizeLate sent =>
    refine ⟨withPty_sound whole resized_step,?_⟩
    intro held
    obtain ⟨_,here⟩ := sound.locked held
    exact withPty_reading here
  | crash => exact ⟨stage_represents whole,fun held => absurd rfl held⟩
  | @list pty sessionId here =>
    have free := unlocked sound (by rw [Life.reading,here])
    rw [here] at whole
    have represents : Represents pty.inner.file s.history := whole
    refine ⟨?_,fun held => absurd free held⟩
    unfold RecoveryState.found StageSound
    exact ⟨found_recovering represents,represents⟩
  | @blob pty info answered after here moved =>
    have free := unlocked sound (by rw [Life.reading,here])
    rw [here] at whole
    refine ⟨recovery_sound whole moved ?_,fun held => absurd free held⟩
    simp only [recoveryStep] at moved
    split at moved <;> (cases moved; rfl)
  | @resizes pty info rebuild answered here =>
    have free := unlocked sound (by rw [Life.reading,here])
    have moved : recoveryStep r s.stage (.resizes answered) =
        some (.recovering pty info (.replaying (r.resized pty.inner.file answered rebuild))) := by rw [here]; rfl
    rw [here] at whole moved
    exact ⟨recovery_sound whole moved rfl,fun held => absurd free held⟩
  | @read pty info rebuild answered here more =>
    have free := unlocked sound (by rw [Life.reading,here])
    have moved : recoveryStep r (.recovering pty info (.replaying rebuild)) (.read answered) =
        some (.recovering pty info (r.read info pty.inner.file answered rebuild)) := if_pos more
    rw [here] at whole
    exact ⟨recovery_sound whole moved rfl,fun held => absurd free held⟩
  | @replayed pty info rebuild here done =>
    have free := unlocked sound (by rw [Life.reading,here])
    have moved : recoveryStep r (.recovering pty info (.replaying rebuild)) .replayed =
        some (.recovering pty info (.rebuilt (r.replayed info rebuild))) := if_neg done
    rw [here] at whole
    exact ⟨recovery_sound whole moved rfl,fun held => absurd free held⟩
  | @register pty info rebuild opened here =>
    have free := unlocked sound (by rw [Life.reading,here])
    have moved : recoveryStep r (.recovering pty info (.rebuilt rebuild)) (.register opened) =
        some (if opened then .reading (rebuild.start pty) else .abandoned pty) := rfl
    rw [here] at whole
    exact ⟨recovery_sound whole moved (by cases opened <;> rfl),fun held => absurd free held⟩

theorem start_sound (rows cols : Nat) (label : String) (pair : PtyPair) (pid : Int) (now : Nat) :
    LifeSound (Life.start r rows cols label pair pid now) :=
  ⟨⟨created_invariant _ _ _ _ _ _,new_represents _,fun live => (by cases live)⟩,fun held => absurd rfl held⟩

-- What was handed out live was printed, at its numbers.
def LiveExact (s : Life V) : Prop := ∀ handed ∈ s.handed, handed.resumedFrom = none → Slice s.history handed.delta

theorem fed_live (live : LiveExact s) (sound : FlowSound s.history flow)
    (joined : coalescePtyOutput arriving flow.unread = some (batch,rest)) : LiveExact (s.fed r flow batch rest) := by
  obtain ⟨nonempty,reading,content⟩ := batch_parts sound joined
  have reach := seq_le sound (by rw [reading]; nofun)
  have slice := slice_extends (slice_fed (List.length_take_of_le reach).symm nonempty) rest.flatten
  rw [List.append_assoc,← content,List.take_append_drop] at slice
  intro handed mem own
  rcases List.mem_append.mp mem with earlier | new
  · exact live _ earlier own
  · obtain ⟨delivery,sent,rfl⟩ := List.mem_map.mp new
    rw [(feed_stream r.vendor flow.session nonempty).1] at sent
    exact (pendingFor_member sent).1 ▸ slice

theorem lifeStep_live (live : LiveExact s) (sound : StageSound s.history s.stage) (step : lifeStep r s action = some next) :
    LiveExact next := by
  cases lifeStep_move step with
  | printed => exact fun handed mem own => slice_extends (live handed mem own) _
  | fed here _ _ joined =>
    rw [here] at sound
    exact fed_live live sound joined
  | attached =>
    unfold Life.attached
    split <;> grind [LiveExact]
  | resize =>
    unfold Life.resizeLocked
    split <;> exact live
  | _ => exact live

-- Through any crashes and recoveries.
theorem output_survives (rows cols : Nat) (label : String) (pair : PtyPair) (pid : Int) (now : Nat) (actions : List (LifeAction V)) :
    (lifeMachine r).Throughout (fun s => LifeSound s ∧ LiveExact s) (Life.start r rows cols label pair pid now) actions := by
  refine throughout_of_preserved (fun _ => id) ?_ ⟨start_sound _ _ _ _ _ _,nofun⟩
  intro s action next ⟨sound,live⟩ step
  exact ⟨lifeStep_sound _ _ _ sound step,lifeStep_live live sound.stage step⟩

end Sound

end Coflux.Runtime
