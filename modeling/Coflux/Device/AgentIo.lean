import Coflux.Device.Channels
import Coflux.Sessiond.Writer

namespace Coflux.Device
open FiniteMap StepMachine Sessiond Text

-- Every write of an agent attaches as a logical client of its own and sends one numbered input.
-- Random identities are part of the action.

def agentIdentityLimitPerSession : Nat := 16
def pendingAgentIoLimit : Nat := 64
def agentIoSessionLimit : Nat := 256

structure AgentIoState where
  clientInstanceId : String
  (transportGeneration nextInputSeq : Nat)
  inFlight : Bool
  identityCount : Nat
  blocked : Bool

structure AgentIoAttempt where
  (clientInstanceId channelId : String)
  (transportGeneration inputSeq : Nat)

inductive AgentIoDisposition where
  | applied
  | knownFailure
  | unknown
deriving DecidableEq

structure AgentIoExchangeError where
  message : String
  disposition : AgentIoDisposition
deriving DecidableEq

namespace AgentIoExchangeError

def known (message : String) : AgentIoExchangeError := ⟨message,.knownFailure⟩
def unknown (message : String) : AgentIoExchangeError := ⟨message,.unknown⟩

end AgentIoExchangeError

abbrev ExchangeOutcome := Except AgentIoExchangeError Unit

def dispositionOf : ExchangeOutcome → AgentIoDisposition
  | .ok () => .applied
  | .error error => error.disposition

def newAgentIoState (fresh : String) : AgentIoState := ⟨fresh,0,1,false,1,false⟩

def rotateAgentIdentity (fresh : String) (state : AgentIoState) : Bool × AgentIoState :=
  if state.identityCount ≥ agentIdentityLimitPerSession then (false,{state with inFlight := false,blocked := true})
  else (true,⟨fresh,0,1,false,state.identityCount + 1,state.blocked⟩)

def identitiesExhausted : String := "该终端的 agent PTY identity 已耗尽；请重启 worker 后再试"

namespace AgentIoState

def attempt (state : AgentIoState) : AgentIoAttempt where
  clientInstanceId := state.clientInstanceId
  channelId := s!"{state.clientInstanceId}-g{state.transportGeneration}"
  transportGeneration := state.transportGeneration
  inputSeq := state.nextInputSeq

def launch (state : AgentIoState) : AgentIoState :=
  {state with transportGeneration := state.transportGeneration + 1,inFlight := true}

def startIo (fresh : String) (state : AgentIoState) : Except String AgentIoAttempt × AgentIoState :=
  if state.blocked then (.error identitiesExhausted,state)
  else if state.inFlight then (.error "同一终端已有 agent PTY 写入在等待回执，请稍后重试",state)
  else if state.transportGeneration = u64Max then
    match rotateAgentIdentity fresh state with
    | (true,rotated) => (.ok rotated.launch.attempt,rotated.launch)
    | (false,sealed) => (.error identitiesExhausted,sealed)
  else (.ok state.launch.attempt,state.launch)

def settle (fresh : String) (disposition : AgentIoDisposition) (state : AgentIoState) : AgentIoState :=
  let idle := {state with inFlight := false}
  match disposition with
  | .applied =>
    match checkedSucc state.nextInputSeq with
    | some next => {idle with nextInputSeq := next}
    | none => (rotateAgentIdentity fresh idle).2
  | .knownFailure => idle
  | .unknown => (rotateAgentIdentity fresh idle).2

def awaits (state : AgentIoState) (attempt : AgentIoAttempt) : Bool :=
  state.inFlight && state.clientInstanceId == attempt.clientInstanceId &&
    state.transportGeneration == attempt.transportGeneration && state.nextInputSeq == attempt.inputSeq

end AgentIoState

def beginAgentIo (states : Table String AgentIoState) (sessionId fresh : String) :
    Except String AgentIoAttempt × Table String AgentIoState :=
  match states.lookup sessionId with
  | some state => ((state.startIo fresh).1,states.insert sessionId (state.startIo fresh).2)
  | none =>
    if size states ≥ agentIoSessionLimit then (.error "agent PTY identity 表已达上限，请稍后重试",states)
    else
      (((newAgentIoState fresh).startIo fresh).1, states.insert sessionId ((newAgentIoState fresh).startIo fresh).2)

def finishAgentIo (states : Table String AgentIoState) (sessionId : String) (attempt : AgentIoAttempt)
    (disposition : AgentIoDisposition) (fresh : String) : Table String AgentIoState :=
  match states.lookup sessionId with
  | some state =>
    if state.awaits attempt then states.insert sessionId (state.settle fresh disposition) else states
  | none => states

-- What becomes of an input: sessiond refuses it or knows it already, or this is ptyd's answer.
inductive InputFate where
  | refused (error : ControlError)
  | duplicate (appliedThroughSeq : Nat)
  | handed (answer : Except PtydError Nat)

-- A lost connection or a broken answer says nothing of what ptyd wrote.
def nothingWritten : Except PtydError Nat → Bool
  | .error (.remote code _) => code ≠ "pty_write_partial"
  | _ => false

def InputFate.unwritten : InputFate → Bool
  | .refused _ => true
  | .duplicate _ => false
  | .handed answer => nothingWritten answer

def InputFate.answer (input : QueuedInput) (requestId : String) : InputFate → Option InputAnswer
  | .refused error => some (.error requestId error.code error.message)
  | .duplicate through => some (.ack through)
  | .handed answer =>
    match sinkWrite answer with
    | .ok () => some (.ack input.inputSeq)
    | .error failure =>
      match failure.rejected with
      | some code => some (.error requestId code failure.error)
      | none =>
        if failure.teardown then none
        else
          some (.error requestId (WriterState.writeFailure input failure).code
            (WriterState.writeFailure input failure).message)

-- Where a call of agent_send_input is. A call whose future was dropped runs no further.
inductive ExchangePhase where
  | registering
  | registered
  | attaching
  | writing (holderEpoch : Nat)
  | ended (outcome : ExchangeOutcome)
  | unregistered (outcome : ExchangeOutcome)
  | returned (outcome : ExchangeOutcome)
  | dropped
deriving DecidableEq

-- The life counts the exits of the session before. The fate is what sessiond has done so far.
structure AgentTask where
  sessionId : String
  life : Nat
  attempt : AgentIoAttempt
  data : Bytes
  sent : Bool
  fate : Option InputFate
  phase : ExchangePhase

-- Calls are numbered as they began. Drawn identities and lives are history.
structure AgentIo where
  states : Table String AgentIoState
  pending : Table String String
  tasks : Table Nat AgentTask
  turns : Nat
  drawn : List String
  life : String → Nat

inductive AgentIoAction where
  | begin (sessionId : String) (data : Bytes) (fresh : String)
  | register (turn : Nat)
  | sendAttach (turn : Nat) (room : Bool)
  | attachAnswered (turn : Nat) (answer : Except ControlError Nat) (room : Bool)
  | handle (turn : Nat) (fate : InputFate)
  | inputAnswered (turn : Nat)
  | giveUp (turn : Nat)
  | unregister (turn : Nat)
  | finish (turn : Nat) (fresh : String)
  | drop (turn : Nat)
  | forgetWaiters (sessionId : String)
  | forgetState (sessionId : String)

def queueFull : ExchangeOutcome := .error (.known "sessiond 请求队列已满，请重试")

namespace AgentTask

def input (task : AgentTask) : QueuedInput := ⟨task.attempt.clientInstanceId,task.attempt.inputSeq,task.data⟩

def sendAttach (room : Bool) (task : AgentTask) : Option AgentTask :=
  match task.phase with
  | .registered => some {task with phase := if room then .attaching else .ended queueFull}
  | _ => none

def attachAnswered (answer : Except ControlError Nat) (room : Bool) (task : AgentTask) : Option AgentTask :=
  match task.phase,answer with
  | .attaching,.error error =>
    some {task with phase := .ended (.error (.known s!"写入前 attach 被拒（{error.code}）：{error.message}"))}
  | .attaching,.ok holderEpoch =>
    some (if room then {task with sent := true,phase := .writing holderEpoch} else {task with phase := .ended queueFull})
  | _,_ => none

def handle (fate : InputFate) (task : AgentTask) : Option AgentTask :=
  if task.sent ∧ task.fate = none then some {task with fate := some fate} else none

def inputAnswered (task : AgentTask) : Option AgentTask :=
  match task.phase,task.fate.bind (InputFate.answer task.input s!"{task.attempt.channelId}-input") with
  | .writing _,some (.ack through) =>
    if through ≥ task.attempt.inputSeq then some {task with phase := .ended (.ok ())} else none
  | .writing _,some (.error _ code message) =>
    some {task with phase := .ended (.error (.known s!"写入被拒（{code}）：{message}"))}
  | _,_ => none

def giveUp (task : AgentTask) : Option AgentTask :=
  match task.phase with
  | .attaching =>
    some {task with phase := .ended (.error (.unknown "等待 sessiond attach 回执超时；后续不会复用本次 identity"))}
  | .writing _ =>
    some {task with
      phase := .ended (.error (.unknown "等待 sessiond 写入回执超时，写入结果未知；后续不会复用本次 identity"))}
  | _ => none

def drop (task : AgentTask) : Option AgentTask :=
  match task.phase with
  | .returned _ => none
  | _ => some {task with phase := .dropped}

end AgentTask

namespace AgentIo

def start : AgentIo := ⟨∅,∅,∅,0,[],fun _ => 0⟩

section
variable (s : AgentIo)

def retask (turn : Nat) (task : AgentTask) : AgentIo := {s with tasks := s.tasks.insert turn task}

def advance (turn : Nat) (change : AgentTask → Option AgentTask) : Option AgentIo :=
  ((s.tasks.lookup turn).bind change).map (s.retask turn)

def beginTask (sessionId : String) (data : Bytes) (fresh : String) : AgentIo :=
  let drawn := {s with states := (beginAgentIo s.states sessionId fresh).2,drawn := fresh :: s.drawn}
  match (beginAgentIo s.states sessionId fresh).1 with
  | .ok attempt =>
    {drawn.retask s.turns ⟨sessionId,s.life sessionId,attempt,data,false,none,.registering⟩ with turns := s.turns + 1}
  | .error _ => drawn

def register (turn : Nat) (task : AgentTask) : AgentIo :=
  if size s.pending ≥ pendingAgentIoLimit then
    s.retask turn {task with phase := .unregistered (.error (.known "agent PTY 写入并发已达上限，请稍后重试"))}
  else
    {s.retask turn {task with phase := .registered} with
      pending := s.pending.insert task.attempt.channelId task.sessionId}

def finish (turn : Nat) (task : AgentTask) (outcome : ExchangeOutcome) (fresh : String) : AgentIo :=
  {s.retask turn {task with phase := .returned outcome} with
    states := finishAgentIo s.states task.sessionId task.attempt (dispositionOf outcome) fresh
    drawn := fresh :: s.drawn}

end

end AgentIo

-- The identities are 128 random bits: a draw that repeats one is left out.
def agentIoStep (s : AgentIo) : AgentIoAction → Option AgentIo
  | .begin sessionId data fresh => if fresh ∈ s.drawn then none else some (s.beginTask sessionId data fresh)
  | .register turn =>
    match s.tasks.lookup turn with
    | some task => if task.phase = .registering then some (s.register turn task) else none
    | none => none
  | .sendAttach turn room => s.advance turn (AgentTask.sendAttach room)
  | .attachAnswered turn answer room => s.advance turn (AgentTask.attachAnswered answer room)
  | .handle turn fate => s.advance turn (AgentTask.handle fate)
  | .inputAnswered turn => s.advance turn AgentTask.inputAnswered
  | .giveUp turn => s.advance turn AgentTask.giveUp
  | .unregister turn =>
    match s.tasks.lookup turn with
    | some task =>
      match task.phase with
      | .ended outcome =>
        some {s.retask turn {task with phase := .unregistered outcome} with
          pending := s.pending.erase task.attempt.channelId}
      | _ => none
    | none => none
  | .finish turn fresh =>
    match s.tasks.lookup turn with
    | some task =>
      match task.phase with
      | .unregistered outcome => if fresh ∈ s.drawn then none else some (s.finish turn task outcome fresh)
      | _ => none
    | none => none
  | .drop turn => s.advance turn AgentTask.drop
  | .forgetWaiters sessionId => some {s with pending := keep (fun _ waiting => waiting ≠ sessionId) s.pending}
  | .forgetState sessionId =>
    some {s with
      states := s.states.erase sessionId
      life := Function.update s.life sessionId (s.life sessionId + 1)}

def agentIoMachine : Machine AgentIo AgentIoAction := ⟨agentIoStep⟩

-- Neither sessiond nor ptyd has established that nothing was written.
def AgentTask.MayHaveReached (task : AgentTask) : Prop :=
  task.sent = true ∧ ∀ fate, task.fate = some fate → fate.unwritten = false

def AgentTask.identity (task : AgentTask) : String := task.attempt.clientInstanceId

def usedIdentities (s : AgentIo) (sessionId : String) (life : Nat) : Finset String :=
  ((entries s.tasks).filterMap fun entry =>
    if entry.2.sessionId = sessionId ∧ entry.2.life = life then some entry.2.identity else none).toFinset

-- A number that may have reached the terminal comes back only with its own payload.
def Unambiguous (s : AgentIo) : Prop :=
  ∀ earlier later one two, earlier < later → s.tasks.lookup earlier = some one → s.tasks.lookup later = some two →
    one.identity = two.identity → one.attempt.inputSeq = two.attempt.inputSeq → one.MayHaveReached → one.data = two.data

def GenerationsIncrease (s : AgentIo) : Prop :=
  ∀ earlier later one two, earlier < later → s.tasks.lookup earlier = some one → s.tasks.lookup later = some two →
    one.identity = two.identity → one.attempt.transportGeneration < two.attempt.transportGeneration

-- An unknown outcome with no identity left to change to ends the agent's input there.
structure IdentitiesBounded (s : AgentIo) : Prop where
  sixteen : ∀ sessionId life, (usedIdentities s sessionId life).card ≤ agentIdentityLimitPerSession
  refuses : ∀ turn task message state fresh, s.tasks.lookup turn = some task →
    task.phase = .returned (.error ⟨message,.unknown⟩) → s.states.lookup task.sessionId = some state →
    state.clientInstanceId = task.identity →
    (beginAgentIo s.states task.sessionId fresh).1 = .error identitiesExhausted

-- An error that an attempt still waits for comes only if nothing of its input was written.
def Conclusive (s : AgentIo) : AgentIoAction → Prop
  | .inputAnswered turn => ∀ task error, s.tasks.lookup turn = some task →
      task.fate = some (.handed (.error error)) → nothingWritten (.error error) = true
  | _ => True

def AgentTask.Open (task : AgentTask) : Prop := ∀ outcome, task.phase ≠ .returned outcome

structure AgentTask.Sound (task : AgentTask) : Prop where
  unsent : task.phase = .registering ∨ task.phase = .registered ∨ task.phase = .attaching → task.sent = false
  failed : ∀ outcome, task.phase = .ended outcome ∨ task.phase = .unregistered outcome ∨ task.phase = .returned outcome →
    dispositionOf outcome = .knownFailure → ¬ task.MayHaveReached

structure AgentTask.Moves (task next : AgentTask) : Prop where
  session : next.sessionId = task.sessionId
  life : next.life = task.life
  attempt : next.attempt = task.attempt
  stays : ∀ outcome, next.phase = .returned outcome ↔ task.phase = .returned outcome
  reach : next.MayHaveReached → task.Open ∨ task.MayHaveReached

section Tasks
variable {task next : AgentTask}

theorem open_of_phase {phase : ExchangePhase} (now : task.phase = phase) (other : ∀ outcome, phase ≠ .returned outcome) :
    task.Open := by
  intro outcome returned
  exact other _ (now.symm.trans returned)

theorem moves_phase {phase after : ExchangePhase} (now : task.phase = phase)
    (before : ∀ outcome, phase ≠ .returned outcome := by simp) (later : ∀ outcome, after ≠ .returned outcome := by simp) :
    task.Moves {task with sent := sent,phase := after} := by
  refine ⟨rfl,rfl,rfl,?_,fun _ => .inl (open_of_phase now before)⟩
  intro outcome
  rw [now]
  exact ⟨fun same => absurd same (later _),fun same => absurd same (before _)⟩

theorem not_reached (unsent : task.sent = false) : ¬ task.MayHaveReached := by
  rintro ⟨sent,_⟩
  rw [unsent] at sent
  cases sent

theorem unwritten_not_reached (fate : task.fate = some known) (unwritten : known.unwritten = true) :
    ¬ task.MayHaveReached := by
  rintro ⟨_,all⟩
  rw [all known fate] at unwritten
  cases unwritten

theorem sound_ended (known : ¬ next.MayHaveReached ∨ dispositionOf outcome ≠ .knownFailure)
    (ended : next.phase = .ended outcome ∨ next.phase = .unregistered outcome ∨ next.phase = .returned outcome) :
    next.Sound := by
  constructor
  · rintro (phase | phase | phase) <;> rw [phase] at ended <;> rcases ended with same | same | same <;> cases same
  · intro other now failure reached
    have same : other = outcome := by
      rcases ended with here | here | here <;> rw [here] at now <;> rcases now with same | same | same <;> cases same <;> rfl
    subst same
    rcases known with unwritten | different
    · exact unwritten reached
    · exact different failure

theorem sendAttach_moves (moved : task.sendAttach room = some next) : task.Moves next ∧ (task.Sound → next.Sound) := by
  unfold AgentTask.sendAttach at moved
  split at moved
  · rename_i phase
    cases moved
    refine ⟨moves_phase phase (fun _ => nofun) (by cases room <;> exact fun _ => nofun),?_⟩
    intro sound
    have unsent := sound.unsent (.inr (.inl phase))
    cases room with
    | true => exact ⟨fun _ => unsent,fun _ now => by rcases now with same | same | same <;> cases same⟩
    | false => exact sound_ended (.inl (not_reached unsent)) (.inl rfl)
  · cases moved

theorem attachAnswered_moves (moved : task.attachAnswered answer room = some next) :
    task.Moves next ∧ (task.Sound → next.Sound) := by
  unfold AgentTask.attachAnswered at moved
  split at moved
  · rename_i phase
    cases moved
    refine ⟨moves_phase phase,?_⟩
    intro sound
    exact sound_ended (.inl (not_reached (sound.unsent (.inr (.inr phase))))) (.inl rfl)
  · rename_i phase
    cases moved
    cases room with
    | true =>
      refine ⟨moves_phase phase,fun _ => ?_⟩
      constructor
      · rintro (same | same | same) <;> cases same
      · rintro outcome (same | same | same) <;> cases same
    | false =>
      refine ⟨moves_phase phase,?_⟩
      intro sound
      exact sound_ended (.inl (not_reached (sound.unsent (.inr (.inr phase))))) (.inl rfl)
  · cases moved

theorem handle_moves (moved : task.handle fate = some next) : task.Moves next ∧ (task.Sound → next.Sound) := by
  obtain ⟨waits,rfl⟩ := guard_parts moved
  have before : task.MayHaveReached := by
    refine ⟨waits.1,?_⟩
    intro known found
    rw [waits.2] at found
    cases found
  refine ⟨⟨rfl,rfl,rfl,fun _ => Iff.rfl,fun _ => .inr before⟩,?_⟩
  intro sound
  exact ⟨sound.unsent,fun _ now failure _ => sound.failed _ now failure before⟩

theorem answer_unwritten {fate : InputFate} (answered : fate.answer input requestId = some (.error request code message))
    (conclusive : ∀ error, fate = .handed (.error error) → nothingWritten (.error error) = true) :
    fate.unwritten = true := by
  cases fate with
  | refused error => rfl
  | duplicate through => cases answered
  | handed answer =>
    cases answer with
    | ok through => cases answered
    | error error => exact conclusive _ rfl

theorem inputAnswered_moves (moved : task.inputAnswered = some next) :
    task.Moves next ∧ ((∀ error, task.fate = some (.handed (.error error)) → nothingWritten (.error error) = true) →
      next.Sound) := by
  unfold AgentTask.inputAnswered at moved
  split at moved
  · rename_i holderEpoch _ phase answered
    obtain ⟨_,rfl⟩ := guard_parts moved
    refine ⟨moves_phase phase,fun _ => ?_⟩
    exact sound_ended (.inr (by decide)) (.inl rfl)
  · rename_i phase answered
    cases moved
    refine ⟨moves_phase phase,?_⟩
    intro conclusive
    obtain ⟨_,known,answered⟩ := Option.bind_eq_some_iff.mp answered
    have unwritten := answer_unwritten answered (fun _ same => conclusive _ (same ▸ known))
    exact sound_ended (.inl (unwritten_not_reached known unwritten)) (.inl rfl)
  · cases moved

theorem giveUp_moves (moved : task.giveUp = some next) : task.Moves next ∧ next.Sound := by
  unfold AgentTask.giveUp at moved
  split at moved
  · rename_i phase
    cases moved
    exact ⟨moves_phase phase,sound_ended (.inr (by decide)) (.inl rfl)⟩
  · rename_i phase
    cases moved
    exact ⟨moves_phase phase,sound_ended (.inr (by decide)) (.inl rfl)⟩
  · cases moved

theorem drop_moves (moved : task.drop = some next) : task.Moves next ∧ next.Sound := by
  unfold AgentTask.drop at moved
  split at moved
  · cases moved
  · rename_i running
    cases moved
    refine ⟨moves_phase rfl running,?_⟩
    constructor
    · rintro (same | same | same) <;> cases same
    · rintro outcome (same | same | same) <;> cases same

theorem registered_moves (phase : task.phase = .registering) :
    task.Moves {task with phase := .registered} ∧ (task.Sound → AgentTask.Sound {task with phase := .registered}) := by
  refine ⟨moves_phase phase,?_⟩
  intro sound
  exact ⟨fun _ => sound.unsent (.inl phase),fun _ now => by rcases now with same | same | same <;> cases same⟩

theorem crowded_moves (phase : task.phase = .registering) (outcome : ExchangeOutcome) :
    task.Moves {task with phase := .unregistered outcome} ∧
      (task.Sound → AgentTask.Sound {task with phase := .unregistered outcome}) := by
  refine ⟨moves_phase phase,?_⟩
  intro sound
  exact sound_ended (.inl (not_reached (sound.unsent (.inl phase)))) (.inr (.inl rfl))

theorem unregistered_moves (phase : task.phase = .ended outcome) :
    task.Moves {task with phase := .unregistered outcome} ∧
      (task.Sound → AgentTask.Sound {task with phase := .unregistered outcome}) := by
  refine ⟨moves_phase phase,?_⟩
  intro sound
  constructor
  · rintro (same | same | same) <;> cases same
  · rintro other (same | same | same) failure <;> cases same
    exact sound.failed _ (.inl phase) failure

end Tasks

def AgentIoState.rotated (fresh : String) (state : AgentIoState) : AgentIoState :=
  ⟨fresh,0,1,false,state.identityCount + 1,state.blocked⟩

inductive Starts (fresh : String) (state : AgentIoState) : Except String AgentIoAttempt × AgentIoState → Prop where
  | refused : Starts fresh state (.error message,state)
  | sealed (idle : state.inFlight = false) : Starts fresh state (.error message,{state with inFlight := false,blocked := true})
  | rotated (idle : state.inFlight = false) (usable : state.blocked = false) (spent : state.transportGeneration = u64Max)
      (room : state.identityCount < agentIdentityLimitPerSession) :
      Starts fresh state (.ok (state.rotated fresh).launch.attempt,(state.rotated fresh).launch)
  | launched (idle : state.inFlight = false) (usable : state.blocked = false) :
      Starts fresh state (.ok state.launch.attempt,state.launch)

inductive SettlesTo (fresh : String) (state : AgentIoState) : AgentIoDisposition → AgentIoState → Prop where
  | advanced : SettlesTo fresh state .applied {state with inFlight := false,nextInputSeq := state.nextInputSeq + 1}
  | retained : SettlesTo fresh state .knownFailure {state with inFlight := false}
  | rotated (room : state.identityCount < agentIdentityLimitPerSession) :
      SettlesTo fresh state disposition (state.rotated fresh)
  | sealed : SettlesTo fresh state disposition {state with inFlight := false,blocked := true}

section States
theorem rotate_cases : rotateAgentIdentity fresh state = (false,{state with inFlight := false,blocked := true}) ∨
      state.identityCount < agentIdentityLimitPerSession ∧ rotateAgentIdentity fresh state = (true,state.rotated fresh) := by
  unfold rotateAgentIdentity
  split
  · exact .inl rfl
  · exact .inr ⟨by omega,rfl⟩

theorem startIo_starts (fresh : String) (state : AgentIoState) : Starts fresh state (state.startIo fresh) := by
  unfold AgentIoState.startIo
  split
  · exact .refused
  · rename_i usable
    rw [Bool.not_eq_true] at usable
    split
    · exact .refused
    · rename_i idle
      rw [Bool.not_eq_true] at idle
      split
      · rename_i spent
        rcases rotate_cases with full | ⟨room,turned⟩
        · rw [full]
          exact .sealed idle
        · rw [turned]
          exact .rotated idle usable spent room
      · exact .launched idle usable

theorem settle_settles : SettlesTo fresh state disposition (state.settle fresh disposition) := by
  have turned (disposition : AgentIoDisposition) :
      SettlesTo fresh state disposition (rotateAgentIdentity fresh {state with inFlight := false}).2 := by
    rcases rotate_cases with full | ⟨room,turned⟩
    · rw [full]
      exact .sealed
    · rw [turned]
      exact .rotated room
  cases disposition with
  | applied =>
    unfold AgentIoState.settle checkedSucc
    dsimp only
    split
    · rename_i found
      obtain ⟨_,rfl⟩ := guard_parts found
      exact .advanced
    · exact turned .applied
  | knownFailure => exact .retained
  | unknown => exact turned .unknown

end States

def StartsFrom (s : AgentIo) (sessionId fresh : String) (old : AgentIoState) : Prop :=
  s.states.lookup sessionId = some old ∨ s.states.lookup sessionId = none ∧ old = newAgentIoState fresh

def AgentIo.restate (s : AgentIo) (sessionId : String) (state : AgentIoState) (fresh : String) : AgentIo :=
  {s with states := s.states.insert sessionId state,drawn := fresh :: s.drawn}

def AgentIo.addTask (s : AgentIo) (task : AgentTask) : AgentIo :=
  {s.retask s.turns task with turns := s.turns + 1}

def AgentIo.newTask (s : AgentIo) (sessionId : String) (attempt : AgentIoAttempt) (data : Bytes) : AgentTask :=
  ⟨sessionId,s.life sessionId,attempt,data,false,none,.registering⟩

open AgentIo (start)

def AgentTask.returns (task : AgentTask) (outcome : ExchangeOutcome) : AgentTask := {task with phase := .returned outcome}

inductive AgentIoMove (s : AgentIo) (action : AgentIoAction) : AgentIo → Prop where
  | tasked (pending : Table String String) (found : s.tasks.lookup turn = some task) (moves : task.Moves next)
      (sound : Conclusive s action → task.Sound → next.Sound) :
      AgentIoMove s action {s.retask turn next with pending := pending}
  | waiters (pending : Table String String) : AgentIoMove s action {s with pending := pending}
  | crowded (fresh : String) : AgentIoMove s action {s with drawn := fresh :: s.drawn}
  | refused (origin : StartsFrom s sessionId fresh old) (unused : fresh ∉ s.drawn)
      (starts : Starts fresh old (.error message,new)) : AgentIoMove s action (s.restate sessionId new fresh)
  | begun (origin : StartsFrom s sessionId fresh old) (unused : fresh ∉ s.drawn)
      (starts : Starts fresh old (.ok attempt,new)) :
      AgentIoMove s action ((s.restate sessionId new fresh).addTask (s.newTask sessionId attempt data))
  | finished (found : s.tasks.lookup turn = some task) (phase : task.phase = .unregistered outcome)
      (unused : fresh ∉ s.drawn) (current : s.states.lookup task.sessionId = some old)
      (awaited : old.awaits task.attempt = true) (settles : SettlesTo fresh old (dispositionOf outcome) new) :
      AgentIoMove s action ((s.retask turn (task.returns outcome)).restate task.sessionId new fresh)
  | outlived (found : s.tasks.lookup turn = some task) (phase : task.phase = .unregistered outcome) (fresh : String)
      (other : ∀ old, s.states.lookup task.sessionId = some old → old.awaits task.attempt = false) :
      AgentIoMove s action {s.retask turn (task.returns outcome) with drawn := fresh :: s.drawn}
  | forgot (sessionId : String) :
      AgentIoMove s action {s with
        states := s.states.erase sessionId
        life := Function.update s.life sessionId (s.life sessionId + 1)}

section Steps
theorem advance_moves (step : s.advance turn change = some next)
    (moves : ∀ task after, s.tasks.lookup turn = some task → change task = some after →
      task.Moves after ∧ (Conclusive s action → task.Sound → after.Sound)) : AgentIoMove s action next := by
  obtain ⟨_,changed,rfl⟩ := Option.map_eq_some_iff.mp step
  obtain ⟨_,found,changed⟩ := Option.bind_eq_some_iff.mp changed
  obtain ⟨moved,sound⟩ := moves _ _ found changed
  exact .tasked s.pending found moved sound

theorem beginTask_moves (unused : fresh ∉ s.drawn) : AgentIoMove s action (s.beginTask sessionId data fresh) := by
  have started : ∀ old, StartsFrom s sessionId fresh old →
      beginAgentIo s.states sessionId fresh = ((old.startIo fresh).1,s.states.insert sessionId (old.startIo fresh).2) →
      AgentIoMove s action (s.beginTask sessionId data fresh) := by
    intro old origin began
    have starts := startIo_starts fresh old
    cases result : old.startIo fresh with
    | mk outcome new =>
      rw [result] at starts began
      unfold AgentIo.beginTask
      rw [began]
      cases outcome with
      | ok attempt => exact .begun origin unused starts
      | error message => exact .refused origin unused starts
  cases found : s.states.lookup sessionId with
  | some old => exact started _ (.inl found) (by simp only [beginAgentIo,found])
  | none =>
    by_cases full : size s.states ≥ agentIoSessionLimit
    · have began : beginAgentIo s.states sessionId fresh = (.error "agent PTY identity 表已达上限，请稍后重试",s.states) := by
        simp only [beginAgentIo,found,if_pos full]
      unfold AgentIo.beginTask
      rw [began]
      exact .crowded fresh
    · exact started (newAgentIoState _) (.inr ⟨found,rfl⟩) (by simp only [beginAgentIo,found,if_neg full])

theorem register_moves (found : s.tasks.lookup turn = some task) (phase : task.phase = .registering) :
    AgentIoMove s action (s.register turn task) := by
  unfold AgentIo.register
  split
  · have moved := crowded_moves phase (.error (.known "agent PTY 写入并发已达上限，请稍后重试"))
    exact .tasked s.pending found moved.1 (fun _ => moved.2)
  · have moved := registered_moves phase
    exact .tasked _ found moved.1 (fun _ => moved.2)

theorem finish_moves (found : s.tasks.lookup turn = some task) (phase : task.phase = .unregistered outcome)
    (unused : fresh ∉ s.drawn) : AgentIoMove s action (s.finish turn task outcome fresh) := by
  unfold AgentIo.finish finishAgentIo
  split
  · rename_i current
    split
    · rename_i awaited
      exact .finished found phase unused current awaited settle_settles
    · rename_i other
      refine .outlived found phase fresh ?_
      intro state same
      rw [current] at same
      cases same
      rwa [Bool.not_eq_true] at other
  · rename_i absent
    refine .outlived found phase fresh ?_
    intro state same
    rw [absent] at same
    cases same

theorem agentIo_moves (step : agentIoStep s action = some next) : AgentIoMove s action next := by
  cases action with
  | begin sessionId data fresh =>
    simp only [agentIoStep] at step
    split at step
    · cases step
    · rename_i unused
      cases step
      exact beginTask_moves unused
  | register turn =>
    simp only [agentIoStep] at step
    split at step
    · rename_i task found
      obtain ⟨phase,rfl⟩ := guard_parts step
      exact register_moves found phase
    · cases step
  | sendAttach turn room =>
    exact advance_moves step fun task after _ changed =>
      ⟨(sendAttach_moves changed).1,fun _ => (sendAttach_moves changed).2⟩
  | attachAnswered turn answer room =>
    exact advance_moves step fun task after _ changed =>
      ⟨(attachAnswered_moves changed).1,fun _ => (attachAnswered_moves changed).2⟩
  | handle turn fate =>
    exact advance_moves step fun task after _ changed => ⟨(handle_moves changed).1,fun _ => (handle_moves changed).2⟩
  | inputAnswered turn =>
    exact advance_moves step fun task after found changed =>
      ⟨(inputAnswered_moves changed).1,fun conclusive _ => (inputAnswered_moves changed).2 (fun _ => conclusive _ _ found)⟩
  | giveUp turn =>
    exact advance_moves step fun task after _ changed => ⟨(giveUp_moves changed).1,fun _ _ => (giveUp_moves changed).2⟩
  | unregister turn =>
    simp only [agentIoStep] at step
    split at step
    · rename_i task found
      split at step
      · rename_i outcome phase
        cases step
        have moved := unregistered_moves phase
        exact .tasked _ found moved.1 (fun _ => moved.2)
      · cases step
    · cases step
  | finish turn fresh =>
    simp only [agentIoStep] at step
    split at step
    · rename_i task found
      split at step
      · rename_i phase
        split at step
        · cases step
        · rename_i unused
          cases step
          exact finish_moves found phase unused
      · cases step
    · cases step
  | drop turn =>
    exact advance_moves step fun _ _ _ changed => ⟨(drop_moves changed).1,fun _ _ => (drop_moves changed).2⟩
  | forgetWaiters sessionId =>
    cases step
    exact .waiters _
  | forgetState sessionId =>
    cases step
    exact .forgot sessionId

end Steps

structure Belongs (s : AgentIo) (sessionId : String) (state : AgentIoState) (task : AgentTask) : Prop where
  session : task.sessionId = sessionId
  life : task.life = s.life sessionId
  generation : task.attempt.transportGeneration ≤ state.transportGeneration
  seq : task.attempt.inputSeq ≤ state.nextInputSeq
  current : task.Open → state.inFlight = true ∧ task.attempt.transportGeneration = state.transportGeneration ∧
    task.attempt.inputSeq = state.nextInputSeq

structure Kept (s : AgentIo) : Prop where
  numbered : ∀ turn task, s.tasks.lookup turn = some task → turn < s.turns
  drawnTask : ∀ turn task, s.tasks.lookup turn = some task → task.identity ∈ s.drawn
  drawnState : ∀ sessionId state, s.states.lookup sessionId = some state → state.clientInstanceId ∈ s.drawn
  belongs : ∀ turn task sessionId state, s.tasks.lookup turn = some task → s.states.lookup sessionId = some state →
    task.identity = state.clientInstanceId → Belongs s sessionId state task
  separate : ∀ one two first second, s.states.lookup one = some first → s.states.lookup two = some second →
    first.clientInstanceId = second.clientInstanceId → one = two
  ordered : ∀ earlier later one two, earlier < later → s.tasks.lookup earlier = some one →
    s.tasks.lookup later = some two → one.identity = two.identity →
    one.attempt.transportGeneration < two.attempt.transportGeneration ∧ ¬ one.Open
  lives : ∀ turn task, s.tasks.lookup turn = some task → task.life ≤ s.life task.sessionId
  unborn : ∀ turn task, s.tasks.lookup turn = some task → s.states.lookup task.sessionId = none →
    task.life < s.life task.sessionId
  counted : ∀ sessionId state, s.states.lookup sessionId = some state →
    state.identityCount ≤ agentIdentityLimitPerSession ∧
      (insert state.clientInstanceId (usedIdentities s sessionId (s.life sessionId))).card ≤ state.identityCount
  bounded : ∀ sessionId life, (usedIdentities s sessionId life).card ≤ agentIdentityLimitPerSession

inductive Renewal (s : AgentIo) (sessionId fresh : String) (new : AgentIoState) : Prop where
  | unchanged (found : s.states.lookup sessionId = some new)
  | same (found : s.states.lookup sessionId = some old) (identity : new.clientInstanceId = old.clientInstanceId)
      (generation : old.transportGeneration ≤ new.transportGeneration) (seq : old.nextInputSeq ≤ new.nextInputSeq)
      (count : new.identityCount = old.identityCount)
      (idle : ∀ turn task, s.tasks.lookup turn = some task → task.identity = old.clientInstanceId → ¬ task.Open)
  | another (unused : fresh ∉ s.drawn) (identity : new.clientInstanceId = fresh)
      (found : s.states.lookup sessionId = some old) (count : new.identityCount = old.identityCount + 1)
      (room : old.identityCount < agentIdentityLimitPerSession)
  | first (unused : fresh ∉ s.drawn) (identity : new.clientInstanceId = fresh)
      (absent : s.states.lookup sessionId = none) (count : new.identityCount = 1)

section Invariant
variable {s : AgentIo} {task : AgentTask}

theorem unused_task (kept : Kept s) (unused : fresh ∉ s.drawn) (found : s.tasks.lookup turn = some task) :
    task.identity ≠ fresh :=
  fun same => unused (same ▸ kept.drawnTask _ _ found)

theorem unused_state (kept : Kept s) (unused : fresh ∉ s.drawn) (found : s.states.lookup sessionId = some state) :
    state.clientInstanceId ≠ fresh :=
  fun same => unused (same ▸ kept.drawnState sessionId _ found)

theorem mem_used : identity ∈ usedIdentities s sessionId life ↔ ∃ turn task, s.tasks.lookup turn = some task ∧
    task.sessionId = sessionId ∧ task.life = life ∧ task.identity = identity := by
  simp only [usedIdentities,List.mem_toFinset,List.mem_filterMap,Option.ite_none_right_eq_some,Option.some.injEq]
  constructor
  · rintro ⟨entry,mem,⟨session,life⟩,same⟩
    exact ⟨entry.1,entry.2,entries_lookup mem,session,life,same⟩
  · rintro ⟨turn,task,found,session,life,same⟩
    exact ⟨(turn,task),mem_entries.mpr found,⟨session,life⟩,same⟩

structure AgentTask.Follows (task after : AgentTask) : Prop where
  session : after.sessionId = task.sessionId
  life : after.life = task.life
  attempt : after.attempt = task.attempt
  closed : ¬ task.Open → ¬ after.Open

theorem follows_refl : task.Follows task := ⟨rfl,rfl,rfl,id⟩

theorem follows_identity (follows : task.Follows after) : after.identity = task.identity := by
  rw [AgentTask.identity,AgentTask.identity,follows.attempt]

theorem moves_follows (moves : task.Moves after) : task.Follows after := by
  refine {moves with closed := ?_}
  intro closed running
  exact closed fun _ returned => running _ ((moves.stays _).mpr returned)

section
variable {task : AgentTask} {outcome : ExchangeOutcome}

theorem returns_closed : ¬ (task.returns outcome).Open :=
  fun running => running _ rfl

theorem returns_follows : task.Follows (task.returns outcome) :=
  ⟨rfl,rfl,rfl,fun _ => returns_closed⟩

end

section
variable (found : s.tasks.lookup turn = some task) (follows : task.Follows after)
include found follows

theorem retask_from (later : (s.retask turn after).tasks.lookup other = some now) :
    ∃ before, s.tasks.lookup other = some before ∧ before.Follows now := by
  rcases insert_lookup later with ⟨rfl,rfl⟩ | ⟨_,earlier⟩
  · exact ⟨task,found,follows⟩
  · exact ⟨now,earlier,follows_refl⟩

theorem used_retask (owner : String) (life : Nat) :
    usedIdentities (s.retask turn after) owner life ⊆ usedIdentities s owner life := by
  intro identity mem
  obtain ⟨other,_,later,named,lived,same⟩ := mem_used.mp mem
  obtain ⟨before,earlier,follows⟩ := retask_from found follows later
  exact mem_used.mpr ⟨other,before,earlier,follows.session ▸ named,follows.life ▸ lived,follows_identity follows ▸ same⟩

end

section
variable (kept : Kept s)
include kept

theorem kept_retask (found : s.tasks.lookup turn = some task) (follows : task.Follows after) :
    Kept (s.retask turn after) := by
  have origin := fun {other now} (later : (s.retask turn after).tasks.lookup other = some now) =>
    retask_from found follows later
  have used := used_retask found follows
  constructor
  case numbered =>
    intro other now later
    obtain ⟨before,earlier,_⟩ := origin later
    exact kept.numbered other before earlier
  case drawnTask =>
    intro other now later
    obtain ⟨before,earlier,follows⟩ := origin later
    rw [follows_identity follows]
    exact kept.drawnTask other before earlier
  case drawnState => exact kept.drawnState
  case belongs =>
    intro other now owner state later current same
    obtain ⟨before,earlier,follows⟩ := origin later
    have belongs := kept.belongs other before _ _ earlier current (follows_identity follows ▸ same)
    refine ⟨follows.session ▸ belongs.session,follows.life ▸ belongs.life,?_,?_,?_⟩
    · rw [follows.attempt]; exact belongs.generation
    · rw [follows.attempt]; exact belongs.seq
    · intro running
      rw [follows.attempt]
      exact belongs.current (Classical.byContradiction fun ended => follows.closed ended running)
  case separate => exact kept.separate
  case ordered =>
    intro earlier later one two before first second same
    obtain ⟨_,firstFound,oneFollows⟩ := origin first
    obtain ⟨_,secondFound,twoFollows⟩ := origin second
    rw [follows_identity oneFollows,follows_identity twoFollows] at same
    have order := kept.ordered _ _ _ _ before firstFound secondFound same
    rw [oneFollows.attempt,twoFollows.attempt]
    exact ⟨order.1,oneFollows.closed order.2⟩
  case lives =>
    intro other now later
    obtain ⟨before,earlier,follows⟩ := origin later
    rw [follows.session,follows.life]
    exact kept.lives other before earlier
  case unborn =>
    intro other now later absent
    obtain ⟨before,earlier,follows⟩ := origin later
    rw [follows.session] at absent ⊢
    rw [follows.life]
    exact kept.unborn other before earlier absent
  case counted =>
    intro owner state current
    obtain ⟨limit,count⟩ := kept.counted _ _ current
    exact ⟨limit,(Finset.card_le_card (Finset.insert_subset_insert _ (used _ _))).trans count⟩
  case bounded =>
    intro owner life
    exact (Finset.card_le_card (used _ life)).trans (kept.bounded _ life)

theorem kept_draw : Kept {s with drawn := fresh :: s.drawn} :=
  {kept with
    drawnTask := fun turn task found => List.mem_cons_of_mem _ (kept.drawnTask turn task found)
    drawnState := fun owner state found => List.mem_cons_of_mem _ (kept.drawnState owner state found)
    belongs := fun turn task owner state found current same => {kept.belongs turn task owner state found current same with}}

theorem kept_pending : Kept {s with pending := pending} :=
  {kept with
    belongs := fun turn task owner state found current same => {kept.belongs turn task owner state found current same with}}

theorem another_used (found : s.states.lookup sessionId = some old) :
    (insert identity (usedIdentities s sessionId (s.life sessionId))).card ≤ old.identityCount + 1 := by
  have more := Finset.card_insert_le identity (usedIdentities s sessionId (s.life sessionId))
  have fewer := Finset.card_le_card (Finset.subset_insert old.clientInstanceId (usedIdentities s sessionId (s.life sessionId)))
  have count := (kept.counted sessionId _ found).2
  omega

theorem first_used (absent : s.states.lookup sessionId = none) : usedIdentities s sessionId (s.life sessionId) = ∅ := by
  apply Finset.eq_empty_of_forall_notMem
  intro identity mem
  obtain ⟨_,_,found,rfl,_,_⟩ := mem_used.mp mem
  have before := kept.unborn _ _ found absent
  omega

section
variable (renewal : Renewal s sessionId fresh new)
include renewal

theorem renewal_counted : new.identityCount ≤ agentIdentityLimitPerSession ∧
      (insert new.clientInstanceId (usedIdentities s sessionId (s.life sessionId))).card ≤ new.identityCount := by
  cases renewal with
  | unchanged found => exact kept.counted sessionId _ found
  | same found identity _ _ count _ =>
    rw [identity,count]
    exact kept.counted sessionId _ found
  | another _ _ found count room =>
    rw [count]
    exact ⟨room,another_used kept found⟩
  | first _ _ absent count =>
    rw [count,first_used kept absent]
    exact ⟨by decide,by simp⟩

theorem renewal_belongs (found : s.tasks.lookup turn = some task)
    (same : task.identity = new.clientInstanceId) : Belongs s sessionId new task := by
  cases renewal with
  | unchanged current => exact kept.belongs _ _ sessionId _ found current same
  | same current identity generation seq _ idle =>
    have belongs := kept.belongs _ _ sessionId _ found current (same.trans identity)
    exact ⟨belongs.session,belongs.life,belongs.generation.trans generation,belongs.seq.trans seq,
      fun running => absurd running (idle _ _ found (same.trans identity))⟩
  | another unused identity _ _ _ | first unused identity _ _ => exact absurd (same.trans identity) (unused_task kept unused found)

theorem renewal_separate
    (found : s.states.lookup other = some state) (same : new.clientInstanceId = state.clientInstanceId) : sessionId = other := by
  cases renewal with
  | unchanged current => exact kept.separate sessionId other _ _ current found same
  | same current identity => exact kept.separate sessionId other _ _ current found (identity.symm.trans same)
  | another unused identity _ _ _ | first unused identity _ _ => exact absurd (same.symm.trans identity) (unused_state kept unused found)

theorem renewal_drawn : new.clientInstanceId ∈ fresh :: s.drawn := by
  cases renewal with
  | unchanged current => exact List.mem_cons_of_mem _ (kept.drawnState sessionId _ current)
  | same current identity => exact identity ▸ List.mem_cons_of_mem _ (kept.drawnState sessionId _ current)
  | another _ identity _ _ _ | first _ identity _ _ => exact identity ▸ List.mem_cons_self

theorem kept_restate : Kept (s.restate sessionId new fresh) := by
  constructor
  case numbered => exact kept.numbered
  case drawnTask => exact fun turn task found => List.mem_cons_of_mem _ (kept.drawnTask _ _ found)
  case drawnState =>
    intro owner state found
    rcases insert_lookup found with ⟨rfl,rfl⟩ | ⟨_,earlier⟩
    · exact renewal_drawn kept renewal
    · exact List.mem_cons_of_mem _ (kept.drawnState _ _ earlier)
  case belongs =>
    intro turn task owner state found current same
    have belongs : Belongs s owner state task := by
      rcases insert_lookup current with ⟨rfl,rfl⟩ | ⟨_,earlier⟩
      · exact renewal_belongs kept renewal found same
      · exact kept.belongs _ _ _ _ found earlier same
    exact {belongs with}
  case separate =>
    intro one two first second oneFound twoFound same
    rcases insert_lookup oneFound with ⟨rfl,rfl⟩ | ⟨_,oneEarlier⟩ <;>
      rcases insert_lookup twoFound with ⟨rfl,rfl⟩ | ⟨_,twoEarlier⟩
    · rfl
    · exact renewal_separate kept renewal twoEarlier same
    · exact (renewal_separate kept renewal oneEarlier same.symm).symm
    · exact kept.separate _ _ first _ oneEarlier twoEarlier same
  case ordered => exact kept.ordered
  case lives => exact kept.lives
  case unborn =>
    intro turn task found absent
    have other : task.sessionId ≠ sessionId := by
      rintro rfl
      simp [AgentIo.restate] at absent
    exact kept.unborn _ _ found ((AList.lookup_insert_ne other).symm.trans absent)
  case counted =>
    intro owner state current
    rcases insert_lookup current with ⟨rfl,rfl⟩ | ⟨_,earlier⟩
    · have counted := renewal_counted kept renewal
      exact counted
    · exact kept.counted _ _ earlier
  case bounded => exact kept.bounded

end

end

theorem used_addTask (owner : String) (life : Nat) :
    usedIdentities (s.addTask task) owner life ⊆ insert task.identity (usedIdentities s owner life) ∧
      (task.sessionId ≠ owner ∨ task.life ≠ life → usedIdentities (s.addTask task) owner life ⊆ usedIdentities s owner life) := by
  constructor
  · intro identity mem
    obtain ⟨turn,found,lookup,session,lived,rfl⟩ := mem_used.mp mem
    rcases insert_lookup lookup with ⟨rfl,rfl⟩ | ⟨_,earlier⟩
    · exact Finset.mem_insert_self _ _
    · exact Finset.mem_insert_of_mem (mem_used.mpr ⟨turn,found,earlier,session,lived,rfl⟩)
  · intro different identity mem
    obtain ⟨turn,found,lookup,session,lived,rfl⟩ := mem_used.mp mem
    rcases insert_lookup lookup with ⟨rfl,rfl⟩ | ⟨_,earlier⟩
    · rcases different with other | other
      · exact absurd session other
      · exact absurd lived other
    · exact mem_used.mpr ⟨turn,found,earlier,session,lived,rfl⟩

section
variable (kept : Kept s)
include kept

theorem kept_addTask (current : s.states.lookup sessionId = some state) (busy : state.inFlight = true)
    (earlier : ∀ turn task, s.tasks.lookup turn = some task → task.identity = state.clientInstanceId →
      task.attempt.transportGeneration < state.transportGeneration ∧ ¬ task.Open) :
    Kept (s.addTask (s.newTask sessionId state.attempt data)) := by
  constructor
  case numbered =>
    intro turn task found
    change turn < s.turns + 1
    rcases insert_lookup found with ⟨rfl,_⟩ | ⟨_,found⟩
    · exact Nat.lt_succ_self _
    · have before := kept.numbered _ _ found
      omega
  case drawnTask => exact Each.insert kept.drawnTask (kept.drawnState sessionId _ current)
  case drawnState => exact kept.drawnState
  case belongs =>
    intro turn task owner now found present same
    rcases insert_lookup found with ⟨rfl,rfl⟩ | ⟨_,found⟩
    · cases kept.separate sessionId owner state now current present same
      cases Option.some.inj (current.symm.trans present)
      exact ⟨rfl,rfl,Nat.le_refl _,Nat.le_refl _,fun _ => ⟨busy,rfl,rfl⟩⟩
    · have belongs := kept.belongs _ _ _ now found present same
      exact {belongs with}
  case separate => exact kept.separate
  case ordered =>
    intro first last one two before oneFound twoFound same
    rcases insert_lookup oneFound with ⟨rfl,_⟩ | ⟨_,oneFound⟩ <;> rcases insert_lookup twoFound with ⟨rfl,rfl⟩ | ⟨_,twoFound⟩
    · exact absurd before (Nat.lt_irrefl _)
    · exact absurd (kept.numbered _ _ twoFound) (Nat.lt_asymm before)
    · exact earlier first _ oneFound same
    · exact kept.ordered first _ _ _ before oneFound twoFound same
  case lives => exact Each.insert kept.lives (Nat.le_refl _)
  case unborn =>
    intro turn task found absent
    rcases insert_lookup found with ⟨rfl,rfl⟩ | ⟨_,found⟩
    · exact absurd (current.symm.trans absent) nofun
    · exact kept.unborn _ _ found absent
  case counted =>
    intro owner now present
    refine ⟨(kept.counted _ now present).1,le_trans (Finset.card_le_card ?_) (kept.counted _ now present).2⟩
    obtain ⟨more,others⟩ := used_addTask owner (s.life owner)
    by_cases same : sessionId = owner
    · subst same
      cases Option.some.inj (current.symm.trans present)
      exact Finset.insert_subset (Finset.mem_insert_self _ _) more
    · exact Finset.insert_subset_insert _ (others (.inl same))
  case bounded =>
    intro owner life
    obtain ⟨more,others⟩ := used_addTask owner life
    by_cases same : sessionId = owner ∧ s.life sessionId = life
    · obtain ⟨rfl,rfl⟩ := same
      obtain ⟨limit,count⟩ := kept.counted sessionId _ current
      exact (Finset.card_le_card more).trans (count.trans limit)
    · exact (Finset.card_le_card (others (not_and_or.mp same))).trans (kept.bounded _ life)

theorem kept_forget :
    Kept {s with states := s.states.erase sessionId,life := Function.update s.life sessionId (s.life sessionId + 1)} := by
  have remains {owner state} (found : (s.states.erase sessionId).lookup owner = some state) :
      owner ≠ sessionId ∧ s.states.lookup owner = some state := by
    refine ⟨?_,erase_lookup found⟩
    rintro rfl
    rw [AList.lookup_erase] at found
    cases found
  constructor
  case numbered => exact kept.numbered
  case drawnTask => exact kept.drawnTask
  case drawnState => exact fun owner state found => kept.drawnState _ _ (remains found).2
  case belongs =>
    intro turn task owner state found current same
    obtain ⟨other,present⟩ := remains current
    have belongs := kept.belongs _ _ _ _ found present same
    exact {belongs with life := belongs.life.trans (Function.update_of_ne other _ _).symm}
  case separate =>
    exact fun one two first second oneFound twoFound same =>
      kept.separate one two first second (remains oneFound).2 (remains twoFound).2 same
  case ordered => exact kept.ordered
  case lives =>
    intro turn task found
    have before := kept.lives _ _ found
    by_cases same : task.sessionId = sessionId
    · simp only [same,Function.update_self]
      rw [same] at before
      omega
    · simpa only [Function.update_of_ne same] using before
  case unborn =>
    intro turn task found absent
    by_cases same : task.sessionId = sessionId
    · have before := kept.lives _ _ found
      simp only [same,Function.update_self]
      rw [same] at before
      omega
    · simp only [Function.update_of_ne same]
      exact kept.unborn _ _ found ((AList.lookup_erase_ne same).symm.trans absent)
  case counted =>
    intro owner state current
    obtain ⟨other,present⟩ := remains current
    have counted := kept.counted _ _ present
    rw [← Function.update_of_ne other (s.life sessionId + 1) s.life] at counted
    exact counted
  case bounded => exact kept.bounded

theorem idle_closed (current : s.states.lookup sessionId = some state) (idle : state.inFlight = false)
    (found : s.tasks.lookup turn = some task) (same : task.identity = state.clientInstanceId) : ¬ task.Open := by
  intro running
  have busy := ((kept.belongs _ _ sessionId _ found current same).current running).1
  rw [idle] at busy
  cases busy

section
variable (origin : StartsFrom s sessionId fresh old) (unused : fresh ∉ s.drawn)
include origin unused

theorem starts_renewal (starts : Starts fresh old (result,new)) : Renewal s sessionId fresh new := by
  rcases origin with current | ⟨absent,rfl⟩
  · cases starts with
    | refused => exact .unchanged current
    | sealed idle =>
      exact .same current rfl (Nat.le_refl _) (Nat.le_refl _) rfl fun turn task => idle_closed kept current idle
    | rotated _ _ _ room => exact .another unused rfl current rfl room
    | launched idle =>
      exact .same current rfl (Nat.le_succ _) (Nat.le_refl _) rfl fun _ _ => idle_closed kept current idle
  · cases starts with
    | refused | sealed | launched => exact .first unused rfl absent rfl
    | rotated _ _ spent => exact absurd (show 0 = u64Max from spent) (by decide)

theorem starts_earlier (starts : Starts fresh old (.ok attempt,new)) (found : s.tasks.lookup turn = some task)
    (same : task.identity = new.clientInstanceId) :
    s.states.lookup sessionId = some old ∧ new = old.launch ∧ old.inFlight = false ∧ old.blocked = false := by
  have known := unused_task kept unused found
  rcases origin with current | ⟨_,rfl⟩
  · cases starts with
    | rotated => exact absurd same known
    | launched idle usable => exact ⟨current,rfl,idle,usable⟩
  · cases starts with
    | rotated | launched => exact absurd same known

end

end

theorem starts_ok (starts : Starts fresh old (.ok attempt,new)) : attempt = new.attempt ∧ new.inFlight = true := by
  cases starts with
  | rotated | launched => exact ⟨rfl,rfl⟩

theorem awaits_parts {state : AgentIoState} (awaited : state.awaits task.attempt = true) :
    state.inFlight = true ∧ task.identity = state.clientInstanceId ∧
      task.attempt.transportGeneration = state.transportGeneration ∧ task.attempt.inputSeq = state.nextInputSeq := by
  simp only [AgentIoState.awaits,Bool.and_eq_true,beq_iff_eq] at awaited
  exact ⟨awaited.1.1.1,awaited.1.1.2.symm,awaited.1.2.symm,awaited.2.symm⟩

theorem alone_open (kept : Kept s) (found : s.tasks.lookup turn = some task) (running : task.Open)
    (another : s.tasks.lookup other = some now) (same : now.identity = task.identity) (different : other ≠ turn) :
    ¬ now.Open := by
  rcases Nat.lt_or_gt_of_ne different with before | later
  · exact (kept.ordered other _ now _ before another found same).2
  · exact absurd running (kept.ordered _ other _ now later found another same.symm).2

theorem settles_renewal (kept : Kept s) (found : s.tasks.lookup turn = some task)
    (phase : task.phase = .unregistered outcome) (unused : fresh ∉ s.drawn)
    (current : s.states.lookup task.sessionId = some old) (awaited : old.awaits task.attempt = true)
    (settles : SettlesTo fresh old disposition new) :
    Renewal (s.retask turn (task.returns outcome)) task.sessionId fresh new := by
  have own := (awaits_parts awaited).2.1
  have idle : ∀ other now, (s.retask turn (task.returns outcome)).tasks.lookup other = some now →
      now.identity = old.clientInstanceId → ¬ now.Open := by
    intro other now later same
    rcases insert_lookup later with ⟨rfl,rfl⟩ | ⟨different,earlier⟩
    · exact returns_closed
    · exact alone_open kept found (open_of_phase phase (fun _ => nofun)) earlier (same.trans own.symm) different
  cases settles with
  | advanced => exact .same current rfl (Nat.le_refl _) (Nat.le_succ _) rfl idle
  | retained | sealed => exact .same current rfl (Nat.le_refl _) (Nat.le_refl _) rfl idle
  | rotated room => exact .another unused rfl current rfl room

theorem kept_step (kept : Kept s) (move : AgentIoMove s action next) : Kept next := by
  cases move with
  | tasked pending found moves _ => exact kept_pending (kept_retask kept found (moves_follows moves))
  | waiters pending => exact kept_pending kept
  | crowded fresh => exact kept_draw kept
  | refused origin unused starts => exact kept_restate kept (starts_renewal kept origin unused starts)
  | @begun sessionId fresh old attempt new data origin unused starts =>
    have renewed := kept_restate kept (starts_renewal kept origin unused starts)
    obtain ⟨rfl,busy⟩ := starts_ok starts
    refine kept_addTask renewed (AList.lookup_insert s.states) busy ?_
    intro turn task found same
    obtain ⟨current,rfl,idle,_⟩ := starts_earlier kept origin unused starts found same
    have generation := (kept.belongs _ _ sessionId _ found current same).generation
    exact ⟨Nat.lt_succ_of_le generation,idle_closed kept current idle found same⟩
  | @finished turn task outcome _ _ _ found phase unused current awaited settles =>
    exact kept_restate (kept_retask kept found returns_follows)
      (settles_renewal kept found phase unused current awaited settles)
  | @outlived turn task outcome found _ fresh _ =>
    exact kept_draw (kept_retask kept found returns_follows)
  | forgot sessionId => exact kept_forget kept

theorem kept_start : Kept start := by
  have none {turn task} (found : start.tasks.lookup turn = some task) : False := by
    simp [start] at found
  have unused (owner : String) (life : Nat) : usedIdentities start owner life = ∅ := by
    apply Finset.eq_empty_of_forall_notMem
    intro identity mem
    obtain ⟨_,_,found,_⟩ := mem_used.mp mem
    exact none found
  constructor
  case numbered => exact fun _ _ found => (none found).elim
  case drawnTask => exact fun _ _ found => (none found).elim
  case drawnState => exact fun _ _ found => by simp [start] at found
  case belongs => exact fun _ _ _ _ found => (none found).elim
  case separate => exact fun _ _ _ _ found => by simp [start] at found
  case ordered => exact fun _ _ _ _ _ found => (none found).elim
  case lives => exact fun _ _ found => (none found).elim
  case unborn => exact fun _ _ found => (none found).elim
  case counted => exact fun _ _ found => by simp [start] at found
  case bounded =>
    intro owner life
    rw [unused]
    decide

def Concluded (s : AgentIo) : Prop :=
  ∀ turn task outcome sessionId state, s.tasks.lookup turn = some task → task.phase = .returned outcome →
    s.states.lookup sessionId = some state → task.identity = state.clientInstanceId →
    state.blocked = true ∨ dispositionOf outcome = .knownFailure ∨
      dispositionOf outcome = .applied ∧ task.attempt.inputSeq < state.nextInputSeq

theorem renewal_identity (renewal : Renewal s sessionId fresh new) : fresh ∉ s.drawn ∧ new.clientInstanceId = fresh ∨
      ∃ old, s.states.lookup sessionId = some old ∧ new.clientInstanceId = old.clientInstanceId := by
  cases renewal with
  | unchanged found => exact .inr ⟨new,found,rfl⟩
  | same found identity => exact .inr ⟨_,found,identity⟩
  | another unused identity | first unused identity => exact .inl ⟨unused,identity⟩

theorem concluded_restate (kept : Kept s) (concluded : Concluded s) (renewal : Renewal s sessionId fresh new)
    (grows : ∀ old, s.states.lookup sessionId = some old → new.clientInstanceId = old.clientInstanceId →
      (old.blocked = true → new.blocked = true) ∧ old.nextInputSeq ≤ new.nextInputSeq) :
    Concluded (s.restate sessionId new fresh) := by
  intro turn task outcome owner state found returned current same
  rcases insert_lookup current with ⟨rfl,rfl⟩ | ⟨_,earlier⟩
  · rcases renewal_identity renewal with ⟨unused,identity⟩ | ⟨old,before,identity⟩
    · exact absurd (same.trans identity) (unused_task kept unused found)
    · obtain ⟨blocked,seq⟩ := grows _ before identity
      rcases concluded turn task outcome owner old found returned before (same.trans identity) with closed | known | ⟨applied,less⟩
      · exact .inl (blocked closed)
      · exact .inr (.inl known)
      · exact .inr (.inr ⟨applied,Nat.lt_of_lt_of_le less seq⟩)
  · exact concluded _ _ _ _ _ found returned earlier same

theorem starts_grows (origin : StartsFrom s sessionId fresh old) (unused : fresh ∉ s.drawn) (kept : Kept s)
    (starts : Starts fresh old (result,new)) (current : s.states.lookup sessionId = some now)
    (same : new.clientInstanceId = now.clientInstanceId) :
    (now.blocked = true → new.blocked = true) ∧ now.nextInputSeq ≤ new.nextInputSeq := by
  rcases origin with present | ⟨absent,_⟩
  · cases Option.some.inj (present.symm.trans current)
    cases starts with
    | refused | launched => exact ⟨id,Nat.le_refl _⟩
    | sealed => exact ⟨fun _ => rfl,Nat.le_refl _⟩
    | rotated => exact absurd same.symm (unused_state kept unused current)
  · rw [absent] at current
    cases current

theorem returned_back (later : (s.retask turn (task.returns outcome)).tasks.lookup other = some now) :
    other = turn ∧ now = task.returns outcome ∨ s.tasks.lookup other = some now := by
  rcases insert_lookup later with here | ⟨_,earlier⟩
  · exact .inl here
  · exact .inr earlier

theorem concluded_finished (kept : Kept s) (concluded : Concluded s) (found : s.tasks.lookup turn = some task)
    (unused : fresh ∉ s.drawn) (current : s.states.lookup task.sessionId = some old)
    (awaited : old.awaits task.attempt = true) (settles : SettlesTo fresh old (dispositionOf outcome) new) :
    Concluded ((s.retask turn (task.returns outcome)).restate task.sessionId new fresh) := by
  obtain ⟨_,own,_,seq⟩ := awaits_parts awaited
  intro other now result owner state later returned present same
  rcases insert_lookup present with ⟨rfl,rfl⟩ | ⟨elsewhere,before⟩
  · rcases returned_back later with ⟨rfl,rfl⟩ | earlier
    · have known : task.identity ≠ fresh := unused_task kept unused found
      cases returned
      cases settlement : dispositionOf outcome with
      | applied =>
        rw [settlement] at settles
        cases settles with
        | advanced => exact .inr (.inr ⟨rfl,seq ▸ Nat.lt_succ_self _⟩)
        | rotated => exact absurd same known
        | sealed => exact .inl rfl
      | knownFailure => exact .inr (.inl rfl)
      | unknown =>
        rw [settlement] at settles
        cases settles with
        | rotated => exact absurd same known
        | sealed => exact .inl rfl
    · have kind := concluded other now result _ _ earlier returned current
      generalize dispositionOf outcome = settlement at settles
      cases settles with
      | advanced =>
        rcases kind same with closed | known | ⟨applied,less⟩
        · exact .inl closed
        · exact .inr (.inl known)
        · exact .inr (.inr ⟨applied,Nat.lt_succ_of_lt less⟩)
      | retained => exact kind same
      | rotated => exact absurd same (unused_task kept unused earlier)
      | sealed => exact .inl rfl
  · rcases returned_back later with ⟨rfl,rfl⟩ | earlier
    · exact absurd (kept.separate _ _ _ _ before current (same.symm.trans own)) elsewhere
    · exact concluded other now result _ _ earlier returned before same

theorem concluded_step (kept : Kept s) (concluded : Concluded s) (move : AgentIoMove s action next) : Concluded next := by
  cases move with
  | @tasked turn task after pending found moves _ =>
    intro other now outcome owner state later returned current same
    rcases insert_lookup later with ⟨rfl,rfl⟩ | ⟨_,earlier⟩
    · have follows := moves_follows moves
      rw [follows.attempt]
      exact concluded other _ _ _ _ found ((moves.stays _).mp returned) current
        (follows_identity follows ▸ same)
    · exact concluded other now _ _ _ earlier returned current same
  | waiters | crowded => exact concluded
  | refused origin unused starts =>
    exact concluded_restate kept concluded (starts_renewal kept origin unused starts)
      fun now => starts_grows origin unused kept starts
  | begun origin unused starts =>
    have renewed := concluded_restate kept concluded (starts_renewal kept origin unused starts)
      fun now => starts_grows origin unused kept starts
    intro turn task outcome owner state found returned current same
    rcases insert_lookup found with ⟨rfl,rfl⟩ | ⟨_,earlier⟩
    · cases returned
    · exact renewed _ _ _ _ _ earlier returned current same
  | finished found phase unused current awaited settles =>
    exact concluded_finished kept concluded found unused current awaited settles
  | @outlived turn task outcome found phase fresh other =>
    intro another now result owner state later returned current same
    rcases returned_back later with ⟨rfl,rfl⟩ | earlier
    · -- The call was still open, so a state with its identity would await it.
      have belongs := kept.belongs _ _ _ _ found current same
      obtain ⟨busy,generation,seq⟩ := belongs.current (open_of_phase phase (fun _ => nofun))
      have unmatched := other _ (belongs.session ▸ current)
      have identity : state.clientInstanceId = task.attempt.clientInstanceId := same.symm
      simp [AgentIoState.awaits,busy,identity,generation,seq] at unmatched
    · exact concluded _ now result _ _ earlier returned current same
  | forgot sessionId =>
    intro turn task outcome owner state found returned current same
    exact concluded _ _ _ _ _ found returned (erase_lookup current) same

structure Clear (s : AgentIo) : Prop where
  sound : ∀ turn task, s.tasks.lookup turn = some task → task.Sound
  spent : ∀ earlier later one two, earlier < later → s.tasks.lookup earlier = some one →
    s.tasks.lookup later = some two → one.identity = two.identity → one.attempt.inputSeq = two.attempt.inputSeq →
    ¬ one.MayHaveReached

theorem clear_retask (kept : Kept s) (clear : Clear s) (found : s.tasks.lookup turn = some task)
    (follows : task.Follows after) (sound : after.Sound) (reach : after.MayHaveReached → task.Open ∨ task.MayHaveReached) :
    Clear (s.retask turn after) := by
  constructor
  · exact Each.insert clear.sound sound
  · intro earlier later one two order first second same seq
    have origin : ∀ other now, (s.retask turn after).tasks.lookup other = some now → ∃ before,
        s.tasks.lookup other = some before ∧ before.Follows now ∧
          (now.MayHaveReached → before.Open ∨ before.MayHaveReached) := by
      intro other now found'
      rcases insert_lookup found' with ⟨rfl,rfl⟩ | ⟨_,before⟩
      · exact ⟨task,found,follows,reach⟩
      · exact ⟨now,before,follows_refl,.inr⟩
    obtain ⟨_,oneFound,oneFollows,reached⟩ := origin _ _ first
    obtain ⟨_,twoFound,twoFollows,_⟩ := origin _ _ second
    rw [follows_identity oneFollows,follows_identity twoFollows] at same
    rw [oneFollows.attempt,twoFollows.attempt] at seq
    intro now
    rcases reached now with running | before
    · exact (kept.ordered _ _ _ _ order oneFound twoFound same).2 running
    · exact clear.spent _ _ _ _ order oneFound twoFound same seq before

theorem returns_sound (phase : task.phase = .unregistered outcome) (sound : task.Sound) : (task.returns outcome).Sound := by
  constructor
  · rintro (same | same | same) <;> cases same
  · rintro other (same | same | same) failure <;> cases same
    exact sound.failed _ (.inr (.inl phase)) failure

section
variable (kept : Kept s) (concluded : Concluded s)
include kept concluded

theorem clear_begun (clear : Clear s) (origin : StartsFrom s sessionId fresh old)
    (unused : fresh ∉ s.drawn) (starts : Starts fresh old (.ok attempt,new)) :
    Clear ((s.restate sessionId new fresh).addTask (s.newTask sessionId attempt data)) := by
  constructor
  · exact Each.insert clear.sound ⟨fun _ => rfl,fun outcome now => by rcases now with same | same | same <;> cases same⟩
  · intro earlier later one two order first second same seq
    rcases insert_lookup first with ⟨rfl,_⟩ | ⟨_,oneFound⟩ <;> rcases insert_lookup second with ⟨rfl,rfl⟩ | ⟨_,twoFound⟩
    · exact absurd order (Nat.lt_irrefl _)
    · exact absurd (kept.numbered _ _ twoFound) (Nat.lt_asymm order)
    · obtain ⟨rfl,_⟩ := starts_ok starts
      obtain ⟨current,rfl,idle,usable⟩ := starts_earlier kept origin unused starts oneFound same
      have closed := idle_closed kept current idle oneFound same
      obtain ⟨outcome,returned⟩ := Classical.not_forall_not.mp closed
      rcases concluded earlier one outcome sessionId old oneFound returned current same with blocked | known | ⟨_,less⟩
      · rw [usable] at blocked
        cases blocked
      · exact (clear.sound _ _ oneFound).failed outcome (.inr (.inr returned)) known
      · exact absurd seq (Nat.ne_of_lt less)
    · exact clear.spent _ _ _ _ order oneFound twoFound same seq

theorem clear_step (clear : Clear s) (conclusive : Conclusive s action) (move : AgentIoMove s action next) : Clear next := by
  cases move with
  | @tasked turn task after pending found moves sound =>
    have moved := clear_retask kept clear found (moves_follows moves) (sound conclusive (clear.sound _ _ found)) moves.reach
    exact {moved with}
  | waiters | crowded | refused | forgot => exact {clear with}
  | begun origin unused starts => exact clear_begun kept concluded clear origin unused starts
  | @finished turn task outcome _ _ _ found phase _ _ _ _ | @outlived turn task outcome found phase fresh _ =>
    have moved := clear_retask kept clear found returns_follows
      (returns_sound phase (clear.sound _ _ found)) .inr
    exact {moved with}

theorem kept_bounded : IdentitiesBounded s := by
  refine ⟨kept.bounded,?_⟩
  intro turn task message state fresh found returned current same
  rcases concluded turn task _ task.sessionId state found returned current same.symm with blocked | known | ⟨applied,_⟩
  · simp only [beginAgentIo,current,AgentIoState.startIo,blocked,if_true]
  · cases known
  · cases applied

end

end Invariant

def Orderly (s : AgentIo) : Prop := Kept s ∧ Concluded s

theorem orderly_start : Orderly .start := by
  refine ⟨kept_start,?_⟩
  intro turn task outcome sessionId state found
  simp [start] at found

theorem orderly_step (orderly : Orderly s) (step : agentIoMachine.step s action = some next) : Orderly next :=
  ⟨kept_step orderly.1 (agentIo_moves step),concluded_step orderly.1 orderly.2 (agentIo_moves step)⟩

theorem clear_start : Clear .start := by
  constructor
  · intro turn task found
    simp [start] at found
  · intro earlier later one two _ found
    simp [start] at found

def Certain (s : AgentIo) : Prop := Orderly s ∧ Clear s

-- Generations grow and a session uses sixteen identities at most. A number is not reused for
-- another payload as long as the error an attempt waits for never stands for a write that may have
-- gone through.
theorem agent_input_unambiguous (actions : List AgentIoAction) :
    agentIoMachine.Throughout (fun s => GenerationsIncrease s ∧ IdentitiesBounded s) .start actions ∧
      (agentIoMachine.Along Conclusive .start actions → agentIoMachine.Throughout Unambiguous .start actions) := by
  constructor
  · refine throughout_of_preserved ?_ (fun s action next => orderly_step) orderly_start
    intro s orderly
    refine ⟨?_,kept_bounded orderly.1 orderly.2⟩
    intro earlier later one two order first second same
    exact (orderly.1.ordered _ _ _ _ order first second same).1
  · intro along
    have begins : Certain .start := ⟨orderly_start,clear_start⟩
    refine throughout_of_along ?_ ?_ begins along
    · intro s certain earlier later one two order first second same seq reached
      exact absurd reached (certain.2.spent _ _ _ _ order first second same seq)
    · intro s action next certain conclusive step
      have clear := clear_step certain.1.1 certain.1.2 certain.2 conclusive (agentIo_moves step)
      exact ⟨orderly_step certain.1 step,clear⟩

-- The answer does not come in time; the next write has an identity of its own.
def timedOutWrite : List AgentIoAction :=
  [.begin "term" [97] "id-1",.register 0,.sendAttach 0 true,.attachAnswered 0 (.ok 1) true,.giveUp 0,.unregister 0,
    .finish 0 "id-2",.begin "term" [98] "id-3"]

theorem agent_input_unambiguous_timed_out : agentIoMachine.Throughout Unambiguous .start timedOutWrite ∧
      ((agentIoMachine.run .start timedOutWrite).bind (·.tasks.lookup 1)).map AgentTask.identity = some "id-2" := by
  refine ⟨(agent_input_unambiguous timedOutWrite).2 (along_of_all ?_),by decide +kernel⟩
  intro action mem s
  simp only [timedOutWrite,List.mem_cons,List.not_mem_nil,or_false] at mem
  rcases mem with rfl | rfl | rfl | rfl | rfl | rfl | rfl | rfl <;> exact True.intro

-- The agent writes two bytes under one number; ptyd's write stops partway.
def partialWrite : List AgentIoAction :=
  [.begin "term" [97,13] "id-1",.register 0,.sendAttach 0 true,.attachAnswered 0 (.ok 1) true,
    .handle 0 (.handed (.error (.remote "pty_write_partial" "PTY 仅写入 1/2 字节"))),.inputAnswered 0,.unregister 0,
    .finish 0 "id-2",.begin "term" [98] "id-3"]

def laterUse (s : AgentIo) : Option (AgentTask × AgentTask) :=
  (s.tasks.lookup 0).bind fun one => (s.tasks.lookup 1).map fun two => (one,two)

-- The error counts as a known failure, and the next write reuses the number for another payload.
theorem partial_write_reused : ¬ agentIoMachine.Throughout Unambiguous .start partialWrite := by
  intro all
  have ran : ((agentIoMachine.run .start partialWrite).bind laterUse).map (fun tasks =>
      (tasks.1.identity,tasks.1.attempt.inputSeq,tasks.1.data,tasks.1.sent,tasks.1.fate.map InputFate.unwritten)) =
        some ("id-1",1,[97,13],true,some false) := by decide +kernel
  have again : ((agentIoMachine.run .start partialWrite).bind laterUse).map (fun tasks =>
      (tasks.2.identity,tasks.2.attempt.inputSeq,tasks.2.data)) = some ("id-1",1,[98]) := by decide +kernel
  obtain ⟨_,met,first⟩ := Option.map_eq_some_iff.mp ran
  rw [met] at again
  obtain ⟨s,reached,found⟩ := Option.bind_eq_some_iff.mp met
  obtain ⟨one,oneFound,found⟩ := Option.bind_eq_some_iff.mp found
  obtain ⟨_,twoFound,rfl⟩ := Option.map_eq_some_iff.mp found
  simp only [Prod.mk.injEq] at first
  simp only [Option.map_some,Option.some.injEq,Prod.mk.injEq] at again
  obtain ⟨oneIdentity,oneSeq,oneData,sent,fate⟩ := first
  obtain ⟨twoIdentity,twoSeq,twoData⟩ := again
  have may : one.MayHaveReached := by
    refine ⟨sent,?_⟩
    intro known same
    rw [same] at fate
    exact Option.some.inj fate
  have reused := throughout_last all reached 0 1 _ _ (by decide) oneFound twoFound
    (oneIdentity.trans twoIdentity.symm) (oneSeq.trans twoSeq.symm) may
  rw [oneData,twoData] at reused
  cases reused

end Coflux.Device
