import Coflux.Device.Channels

namespace Coflux.Device
open FiniteMap StepMachine Sessiond

-- The checkpoint loop asks sessiond for the screen of a session that owes content; as long as the
-- request is remembered the session is not asked for again. The answer comes back over a bounded
-- queue.

def contentQuietWindow : Nat := 3000
def contentCeiling : Nat := 30000
def workerQueueRecords : Nat := 512
def workerQueueBytes : Nat := maxDeviceFrameBytes + 2 * 1024 * 1024
def eventQueueRecords : Nat := 256

structure PendingSnapshot where
  (sessionId taskId : String)
  pid : Int

-- Times in milliseconds: of the oldest output not sent yet and of the newest.
structure DirtyContent where
  (first last : Nat)
deriving DecidableEq

def DirtyContent.due (content : DirtyContent) (now : Nat) : Bool :=
  now - content.last ≥ contentQuietWindow || now - content.first ≥ contentCeiling

inductive LoopStage where
  | idle
  | requesting (due : List (String × DirtyContent))
  | sending (requestId sessionId : String) (taken : DirtyContent) (due : List (String × DirtyContent))
deriving DecidableEq

def LoopStage.Unsent (stage : LoopStage) : Prop :=
  ∀ requestId sessionId taken due, stage ≠ .sending requestId sessionId taken due

-- The task that consumes sessiond's events.
inductive BridgeStage where
  | down
  | connected
  | attached
  | ended
deriving DecidableEq

-- A record of sessiond. The snapshot of an ending session comes unasked.
inductive Reply where
  | snapshot (requestId sessionId : String)
  | error (requestId : String)
  | final (sessionId : String)
  | other
deriving DecidableEq

structure QueuedReply where
  reply : Reply
  length : Nat
deriving DecidableEq

-- outbound is the attachment's queue, hand what the forwarding thread has taken from it, events
-- what it has passed on.
structure ContentState where
  (processId internalSequence : Nat)
  online : Bool
  alive : Table String (String × Int)
  dirty : Table String DirtyContent
  pending : Table String PendingSnapshot
  loop : LoopStage
  commands : List (String × String)
  bridge : BridgeStage
  current : Bool
  outbound : List QueuedReply
  hand : Option QueuedReply
  events : List Reply

inductive ContentAction where
  | setAlive (alive : Table String (String × Int))
  | touch (sessionId : String) (now : Nat)
  | owe (sessionId : String) (now : Nat)
  | sessionExited (sessionId : String)
  | tick (now : Nat)
  | nextId
  | request
  | send (room : Bool)
  | handle (found : Bool) (envelope record : Nat)
  | traffic (final : Option String) (record : Nat)
  | cut
  | take
  | push
  | receive
  | endNoticed
  | drain (now : Nat)
  | connect
  | goOnline

def ContentAction.delivers : ContentAction → Bool
  | .send _ | .handle _ _ _ | .take | .push | .receive | .endNoticed | .drain _ | .connect | .goOnline => true
  | _ => false

namespace ContentState

def start (processId : Nat) : ContentState where
  processId := processId
  internalSequence := 0
  online := false
  alive := ∅
  dirty := ∅
  pending := ∅
  loop := .idle
  commands := []
  bridge := .down
  current := false
  outbound := []
  hand := none
  events := []

section
variable (s : ContentState)

def withLiveDirty (sessionId : String) (update : Table String DirtyContent → Table String DirtyContent) :
    ContentState :=
  if sessionId = "" ∨ sessionId ∉ s.alive then s else {s with dirty := update s.dirty}

section
variable (now : Nat) (sessionId : String) (dirty : Table String DirtyContent)

def touched : Table String DirtyContent :=
  dirty.insert sessionId (((dirty.lookup sessionId).map fun content => {content with last := now}).getD ⟨now,now⟩)

def extended : Table String DirtyContent :=
  dirty.insert sessionId ((dirty.lookup sessionId).getD ⟨now,now⟩)

end

def restored (taken : DirtyContent) (sessionId : String) (dirty : Table String DirtyContent) : Table String DirtyContent :=
  dirty.insert sessionId (((dirty.lookup sessionId).map fun content =>
    ⟨min content.first taken.first,max content.last taken.last⟩).getD taken)

def restoreDirty (sessionId : String) (taken : DirtyContent) : ContentState :=
  s.withLiveDirty sessionId (restored taken sessionId)

def owing (pending : Table String PendingSnapshot) (sessionId : String) : Bool :=
  (entries pending).any fun entry => entry.2.sessionId = sessionId

def forget (sessionId : String) : ContentState :=
  {s with
    dirty := s.dirty.erase sessionId
    pending := keep (fun _ pending => pending.sessionId ≠ sessionId) s.pending}

def tick (now : Nat) : ContentState :=
  let due := (entries s.dirty).filter fun entry => entry.2.due now
  {s with dirty := keep (fun _ content => !content.due now) s.dirty,loop := .requesting due}

def request (sessionId : String) (taken : DirtyContent) (due : List (String × DirtyContent)) : ContentState :=
  let rest := {s with loop := .requesting due}
  match s.alive.lookup sessionId with
  | none => rest
  | some (taskId,pid) =>
    if owing s.pending sessionId then rest.restoreDirty sessionId taken
    else
      let requestId := s!"worker-checkpoint-{s.processId}-{min (s.internalSequence + 1) u64Max}"
      {s with
        internalSequence := (s.internalSequence + 1) % 2 ^ 64
        pending := s.pending.insert requestId ⟨sessionId,taskId,pid⟩
        loop := .sending requestId sessionId taken due}

def send (room : Bool) (requestId sessionId : String) (taken : DirtyContent)
    (due : List (String × DirtyContent)) : ContentState :=
  if room then {s with commands := s.commands ++ [(requestId,sessionId)],loop := .requesting due}
  else {s with pending := s.pending.erase requestId,loop := .requesting due}.restoreDirty sessionId taken

def pendingBytes : Nat := ((s.outbound ++ s.hand.toList).map QueuedReply.length).sum

-- Outbound.try_send; nobody looks at the result of a snapshot or an error.
def sendRecord (reply : Reply) (record : Nat) : ContentState :=
  if s.current ∧ record ≤ workerQueueBytes - s.pendingBytes ∧ s.outbound.length < workerQueueRecords then
    {s with outbound := s.outbound ++ [⟨reply,record⟩]}
  else s

-- device_snapshot. envelope is the size of the encoded answer, record of its frame.
def deviceSnapshot (found : Bool) (requestId sessionId : String) (envelope record : Nat) : ContentState :=
  if envelope > maxDeviceFrameBytes then s
  else s.sendRecord (if found then .snapshot requestId sessionId else .error requestId) record

-- Publishing does not touch any field here.
def handleInternalResponse : Reply → ContentState
  | .snapshot requestId _ | .error requestId => {s with pending := s.pending.erase requestId}
  | .final sessionId => if sessionId ∈ s.alive then s.forget sessionId else s
  | .other => s

def drained (now : Nat) : ContentState :=
  {s with
    bridge := .down
    pending := ∅
    dirty := (entries s.pending).foldl (fun dirty entry => extended now entry.2.sessionId dirty) s.dirty}

end

end ContentState

def contentStep (s : ContentState) : ContentAction → Option ContentState
  | .setAlive alive => some {s with alive := alive}
  | .touch sessionId now => some (s.withLiveDirty sessionId (ContentState.touched now sessionId))
  | .owe sessionId now => some (s.withLiveDirty sessionId (ContentState.extended now sessionId))
  | .sessionExited sessionId => some (if sessionId = "" then s else s.forget sessionId)
  | .tick now =>
    match s.loop with
    | .idle => if s.online then some (s.tick now) else none
    | _ => none
  | .nextId => some {s with internalSequence := (s.internalSequence + 1) % 2 ^ 64}
  | .request =>
    match s.loop with
    | .requesting [] => some {s with loop := .idle}
    | .requesting ((sessionId,taken) :: due) => some (s.request sessionId taken due)
    | _ => none
  | .send room =>
    match s.loop with
    | .sending requestId sessionId taken due => some (s.send room requestId sessionId taken due)
    | _ => none
  | .handle found envelope record =>
    match s.commands with
    | [] => none
    | (requestId,sessionId) :: rest => some ({s with commands := rest}.deviceSnapshot found requestId sessionId envelope record)
  | .traffic final record => some (s.sendRecord (final.elim .other .final) record)
  | .cut => some {s with current := false,outbound := []}
  | .take =>
    match s.hand,s.outbound with
    | none,record :: rest => if s.current then some {s with hand := some record,outbound := rest} else none
    | _,_ => none
  | .push => s.hand.bind fun record =>
    if s.events.length < eventQueueRecords then some {s with hand := none,events := s.events ++ [record.reply]} else none
  | .receive =>
    match s.bridge,s.events with
    | .attached,reply :: rest => some ({s with events := rest}.handleInternalResponse reply)
    | _,_ => none
  | .endNoticed =>
    if s.bridge = .attached ∧ s.current = false ∧ s.hand = none ∧ s.events = [] then
      some {s with bridge := .ended,online := false}
    else none
  | .drain now => if s.bridge = .ended then some (s.drained now) else none
  | .connect => if s.bridge = .down then some {s with bridge := .connected,current := true} else none
  | .goOnline => if s.bridge = .connected then some {s with bridge := .attached,online := true} else none

def contentMachine : Machine ContentState ContentAction := ⟨contentStep⟩

def Reply.answers (reply : Reply) (requestId : String) : Prop :=
  reply = .error requestId ∨ ∃ sessionId, reply = .snapshot requestId sessionId

-- The request is on its way to sessiond or its answer on the way back, or a cut attachment's end
-- is.
inductive InFlight (s : ContentState) (requestId : String) : Prop where
  | sending (stage : s.loop = .sending requestId sessionId taken due)
  | asked (command : (requestId,sessionId) ∈ s.commands)
  | queued (member : record ∈ s.outbound) (answers : record.reply.answers requestId)
  | held (taken : s.hand = some record) (answers : record.reply.answers requestId)
  | passed (member : reply ∈ s.events) (answers : reply.answers requestId)
  | ending (cut : s.current = false) (heard : s.bridge ≠ .down)

-- After finitely many deliveries no request of the session is remembered any more.
def Requestable (s : ContentState) (sessionId : String) : Prop :=
  ∃ deliveries next, (∀ action ∈ deliveries, ContentAction.delivers action = true) ∧
    contentMachine.run s deliveries = some next ∧ ContentState.owing next.pending sessionId = false

structure Unblocked (s : ContentState) : Prop where
  flight : ∀ requestId pending, s.pending.lookup requestId = some pending → InFlight s requestId
  requestable : ∀ sessionId, Requestable s sessionId

def ContentState.Room (s : ContentState) (envelope record : Nat) : Prop :=
  s.current = true ∧ envelope ≤ maxDeviceFrameBytes ∧
    record ≤ workerQueueBytes - s.pendingBytes ∧ s.outbound.length < workerQueueRecords

-- sessiond gets rid of an answer somebody waits for, or the end of the attachment is to be noticed.
def Answering (s : ContentState) : ContentAction → Prop
  | .handle _ envelope record => ∀ requestId sessionId rest, s.commands = (requestId,sessionId) :: rest → requestId ∈ s.pending →
      s.Room envelope record ∨ (s.current = false ∧ s.bridge ≠ .down)
  | _ => True

structure SameLink (s next : ContentState) : Prop where
  commands : next.commands = s.commands
  bridge : next.bridge = s.bridge
  current : next.current = s.current
  outbound : next.outbound = s.outbound
  hand : next.hand = s.hand
  events : next.events = s.events

-- What every state satisfies as long as sessiond gets rid of its answers.
structure Carried (s : ContentState) : Prop where
  flight : ∀ requestId pending, s.pending.lookup requestId = some pending → InFlight s requestId
  link : s.current = true → s.bridge = .connected ∨ s.bridge = .attached
  cut : s.current = false → s.outbound = []
  closed : s.bridge = .down ∨ s.bridge = .ended → s.hand = none ∧ s.events = []

theorem withLiveDirty_loop : (ContentState.withLiveDirty s sessionId update).loop = s.loop := by
  unfold ContentState.withLiveDirty
  split <;> rfl

theorem withLiveDirty_pending : (ContentState.withLiveDirty s sessionId update).pending = s.pending := by
  unfold ContentState.withLiveDirty
  split <;> rfl

theorem withLiveDirty_sameLink (same : SameLink s next) : SameLink s (next.withLiveDirty sessionId update) := by
  unfold ContentState.withLiveDirty
  split
  · exact same
  · exact {same with}

-- What carries a request stays as it was or hands it on.
theorem inFlight_moves (flying : InFlight s requestId)
    (sending : ∀ {sessionId taken due}, s.loop = .sending requestId sessionId taken due →
      next.loop = .sending requestId sessionId taken due ∨ InFlight next requestId)
    (asked : ∀ {sessionId}, (requestId,sessionId) ∈ s.commands →
      (requestId,sessionId) ∈ next.commands ∨ InFlight next requestId)
    (queued : ∀ {record}, record ∈ s.outbound → record ∈ next.outbound ∨ (record.reply.answers requestId → InFlight next requestId))
    (held : ∀ {record}, s.hand = some record →
      next.hand = some record ∨ (record.reply.answers requestId → InFlight next requestId))
    (passed : ∀ {reply}, reply ∈ s.events → reply ∈ next.events ∨ (reply.answers requestId → InFlight next requestId))
    (ending : s.current = false → s.bridge ≠ .down → next.current = false ∧ next.bridge ≠ .down) : InFlight next requestId := by
  cases flying with
  | sending stage => exact (sending stage).elim .sending id
  | asked command => exact (asked command).elim .asked id
  | queued mem answers => exact (queued mem).elim (.queued · answers) (· answers)
  | held taken answers => exact (held taken).elim (.held · answers) (· answers)
  | passed mem answers => exact (passed mem).elim (.passed · answers) (· answers)
  | ending cut heard =>
    obtain ⟨cut,heard⟩ := ending cut heard
    exact .ending cut heard

theorem inFlight_sameLink (same : SameLink s next)
    (loop : ∀ sessionId taken due, s.loop = .sending requestId sessionId taken due →
      next.loop = .sending requestId sessionId taken due)
    (flying : InFlight s requestId) : InFlight next requestId :=
  inFlight_moves flying (fun stage => .inl (loop _ _ _ stage)) (fun command => .inl (same.commands ▸ command))
    (fun mem => .inl (same.outbound ▸ mem)) (fun taken => .inl (same.hand ▸ taken))
    (fun mem => .inl (same.events ▸ mem)) fun cut heard => ⟨same.current ▸ cut,same.bridge ▸ heard⟩

section
variable {s : ContentState} (carried : Carried s)
include carried

theorem carried_sameLink (same : SameLink s next)
    (flight : ∀ requestId pending, next.pending.lookup requestId = some pending → InFlight next requestId) :
    Carried next where
  flight := flight
  link := by rw [same.current,same.bridge]; exact carried.link
  cut := by rw [same.current,same.outbound]; exact carried.cut
  closed := by rw [same.bridge,same.hand,same.events]; exact carried.closed

theorem carried_fewer (same : SameLink s next) (loop : next.loop = s.loop)
    (fewer : ∀ requestId pending, next.pending.lookup requestId = some pending → s.pending.lookup requestId = some pending) :
    Carried next := by
  apply carried_sameLink carried same
  intro requestId pending found
  apply inFlight_sameLink same
  · intro sessionId taken due stage
    rw [loop,stage]
  · exact carried.flight _ _ (fewer _ _ found)

theorem carried_gone (off : s.bridge = .down ∨ s.bridge = .ended) : s.current = false := by
  rw [Bool.eq_false_iff]
  intro live
  rcases carried.link live with up | up <;> rcases off with down | down <;> rw [up] at down <;> cases down

theorem forget_carried : Carried (s.forget sessionId) :=
  carried_fewer carried ⟨rfl,rfl,rfl,rfl,rfl,rfl⟩ rfl fun _ _ found => (keep_lookup found).1

theorem request_carried (stage : s.loop = .requesting earlier) :
    Carried (s.request sessionId taken due) := by
  have unsent : ∀ next : ContentState,SameLink s next → ∀ requestId,InFlight s requestId → InFlight next requestId := by
    intro next same requestId flying
    apply inFlight_sameLink same _ flying
    intro sessionId taken due sending
    rw [stage] at sending
    cases sending
  unfold ContentState.request
  dsimp only
  split
  · have same : SameLink s {s with loop := .requesting due} := ⟨rfl,rfl,rfl,rfl,rfl,rfl⟩
    exact carried_sameLink carried same fun requestId pending found =>
      unsent _ same requestId (carried.flight _ _ found)
  · split
    · have same : SameLink s (ContentState.restoreDirty {s with loop := .requesting due} sessionId taken) :=
        withLiveDirty_sameLink ⟨rfl,rfl,rfl,rfl,rfl,rfl⟩
      apply carried_sameLink carried same
      intro requestId pending found
      rw [ContentState.restoreDirty,withLiveDirty_pending] at found
      exact unsent _ same _ (carried.flight _ _ found)
    · refine carried_sameLink carried ?_ ?_
      · exact ⟨rfl,rfl,rfl,rfl,rfl,rfl⟩
      intro requestId pending found
      rcases insert_lookup found with ⟨rfl,_⟩ | ⟨_,before⟩
      · exact .sending rfl
      · apply unsent _ _ requestId (carried.flight requestId pending before)
        exact ⟨rfl,rfl,rfl,rfl,rfl,rfl⟩

theorem send_carried (stage : s.loop = .sending sent sessionId taken due) :
    Carried (s.send room sent sessionId taken due) := by
  unfold ContentState.send
  split
  · refine {carried with flight := ?_}
    intro requestId pending found
    refine inFlight_moves (carried.flight _ _ found) ?_ (fun command => .inl (List.mem_append_left _ command))
      .inl .inl .inl And.intro
    intro _ _ _ other
    rw [stage] at other
    cases other
    exact .inr (.asked (List.mem_append_right _ (List.mem_singleton_self _)))
  · -- The request did not go out and is forgotten again.
    have same : SameLink s (ContentState.restoreDirty
        {s with pending := s.pending.erase sent,loop := .requesting due} sessionId taken) :=
      withLiveDirty_sameLink ⟨rfl,rfl,rfl,rfl,rfl,rfl⟩
    apply carried_sameLink carried same
    intro requestId pending found
    rw [ContentState.restoreDirty,withLiveDirty_pending] at found
    have other : requestId ≠ sent := by
      intro equal
      rw [equal,AList.lookup_erase] at found
      cases found
    rw [AList.lookup_erase_ne other] at found
    apply inFlight_sameLink same _ (carried.flight requestId pending found)
    intro otherSession otherTaken otherDue sending
    rw [stage] at sending
    cases sending
    exact absurd rfl other

theorem sendRecord_carried : Carried (s.sendRecord reply record) := by
  unfold ContentState.sendRecord
  split
  · rename_i room
    refine ⟨?_,carried.link,fun _ => absurd room.1 (by simp_all),carried.closed⟩
    intro requestId pending found
    exact inFlight_moves (carried.flight _ _ found) .inl .inl
      (fun mem => .inl (List.mem_append_left _ mem)) .inl .inl And.intro
  · exact carried

theorem answered_carried (next : s.commands = (asked,sessionId) :: rest) (live : s.current = true)
    (answers : reply.answers asked) : Carried {s with commands := rest,outbound := s.outbound ++ [⟨reply,record⟩]} := by
  refine ⟨?_,carried.link,fun _ => absurd live (by simp_all),carried.closed⟩
  intro requestId pending remembered
  refine inFlight_moves (carried.flight _ _ remembered) .inl ?_
    (fun mem => .inl (List.mem_append_left _ mem)) .inl .inl And.intro
  intro _ command
  rw [next] at command
  rcases List.mem_cons.mp command with this | later
  · cases this
    exact .inr (.queued (List.mem_append_right _ (List.mem_singleton_self _)) answers)
  · exact .inl later

theorem consumed_carried (next : s.commands = (asked,sessionId) :: rest)
    (settled : asked ∈ s.pending → s.current = false ∧ s.bridge ≠ .down) : Carried {s with commands := rest} := by
  refine {carried with flight := ?_}
  intro requestId pending remembered
  refine inFlight_moves (carried.flight _ _ remembered) .inl ?_ .inl .inl .inl And.intro
  intro _ command
  rw [next] at command
  rcases List.mem_cons.mp command with this | later
  · cases this
    have ending := settled (mem_of_lookup remembered)
    exact .inr (.ending ending.1 ending.2)
  · exact .inl later

theorem handle_carried (next : s.commands = (asked,sessionId) :: rest)
    (answering : asked ∈ s.pending → s.Room envelope record ∨ (s.current = false ∧ s.bridge ≠ .down)) :
    Carried (ContentState.deviceSnapshot {s with commands := rest} found asked sessionId envelope record) := by
  have consumed : (asked ∈ s.pending → s.current = false ∧ s.bridge ≠ .down) →
      Carried (ContentState.deviceSnapshot {s with commands := rest} found asked sessionId envelope record) := by
    intro settled
    have kept := consumed_carried carried next settled
    unfold ContentState.deviceSnapshot
    split
    · exact kept
    · exact sendRecord_carried kept
  by_cases remembered : asked ∈ s.pending
  · rcases answering remembered with ⟨live,small,fits,slot⟩ | ending
    · rw [ContentState.deviceSnapshot,if_neg (Nat.not_lt.mpr small),ContentState.sendRecord,if_pos ⟨live,fits,slot⟩]
      apply answered_carried carried next live
      cases found
      · exact .inl rfl
      · exact .inr ⟨_,rfl⟩
    · exact consumed fun _ => ending
  · exact consumed fun waiting => absurd waiting remembered

theorem cut_carried : Carried {s with current := false,outbound := []} := by
  refine ⟨?_,fun gone => absurd gone (by simp),fun _ => rfl,carried.closed⟩
  intro requestId pending found
  by_cases heard : s.bridge = .down
  · -- Nothing was attached, so nothing is lost.
    have gone := carried_gone carried (.inl heard)
    have empty := carried.cut gone
    have same : SameLink s {s with current := false,outbound := []} := ⟨rfl,rfl,gone.symm,empty.symm,rfl,rfl⟩
    exact inFlight_sameLink same (fun _ _ _ stage => stage) (carried.flight _ _ found)
  · exact .ending rfl heard

theorem take_carried (free : s.hand = none) (front : s.outbound = record :: rest) (live : s.current = true) :
    Carried {s with hand := some record,outbound := rest} := by
  refine ⟨?_,carried.link,fun _ => absurd live (by simp_all),?_⟩
  · intro requestId pending found
    refine inFlight_moves (carried.flight _ _ found) .inl .inl ?_ ?_ .inl And.intro
    · intro _ mem
      rw [front] at mem
      rcases List.mem_cons.mp mem with this | later
      · exact .inr fun answers => .held rfl (this ▸ answers)
      · exact .inl later
    · intro _ taken
      rw [free] at taken
      cases taken
  · intro off
    cases live.symm.trans (carried_gone carried off)

theorem push_carried (full : s.hand = some record) :
    Carried {s with hand := none,events := s.events ++ [record.reply]} := by
  refine ⟨?_,carried.link,carried.cut,?_⟩
  · intro requestId pending found
    refine inFlight_moves (carried.flight _ _ found) .inl .inl .inl ?_
      (fun mem => .inl (List.mem_append_left _ mem)) And.intro
    intro _ taken
    rw [full] at taken
    cases taken
    exact .inr (.passed (List.mem_append_right _ (List.mem_singleton_self _)))
  · intro stage
    have none := (carried.closed stage).1
    rw [full] at none
    cases none

theorem receive_carried (stage : s.bridge = .attached) (front : s.events = reply :: rest) :
    Carried (ContentState.handleInternalResponse {s with events := rest} reply) := by
  have unanswered : ∀ requestId pending,s.pending.lookup requestId = some pending → ¬reply.answers requestId →
      InFlight {s with events := rest} requestId := by
    intro requestId pending found silent
    refine inFlight_moves (carried.flight _ _ found) .inl .inl .inl .inl ?_ And.intro
    intro _ mem
    rw [front] at mem
    rcases List.mem_cons.mp mem with this | later
    · exact .inr fun answers => absurd (this ▸ answers) silent
    · exact .inl later
  have down : ¬(s.bridge = .down ∨ s.bridge = .ended) := by simp [stage]
  have answered : ∀ sent : String,(∀ requestId,reply.answers requestId → requestId = sent) →
      Carried {s with events := rest,pending := s.pending.erase sent} := by
    intro sent only
    refine ⟨?_,carried.link,carried.cut,fun gone => absurd gone down⟩
    intro requestId pending found
    have other : requestId ≠ sent := by
      intro equal
      rw [equal,AList.lookup_erase] at found
      cases found
    rw [AList.lookup_erase_ne other] at found
    have kept := unanswered _ _ found fun answers => other (only requestId answers)
    have same : SameLink {s with events := rest} {s with events := rest,pending := s.pending.erase sent} :=
      ⟨rfl,rfl,rfl,rfl,rfl,rfl⟩
    exact inFlight_sameLink same (fun _ _ _ stage => stage) kept
  have silent : (∀ requestId,¬reply.answers requestId) → Carried {s with events := rest} := fun silent =>
    ⟨fun requestId _ found => unanswered _ _ found (silent _),
      carried.link,carried.cut,fun gone => absurd gone down⟩
  cases reply with
  | snapshot | error =>
    apply answered
    rintro requestId (answers | ⟨_,answers⟩) <;> cases answers
    rfl
  | final sessionId =>
    have kept : Carried {s with events := rest} := silent (by rintro requestId (answers | ⟨_,answers⟩) <;> cases answers)
    unfold ContentState.handleInternalResponse
    dsimp only
    split
    · exact forget_carried kept
    · exact kept
  | other => exact silent (by rintro requestId (answers | ⟨_,answers⟩) <;> cases answers)

theorem connect_carried (down : s.bridge = .down) :
    Carried {s with bridge := .connected,current := true} := by
  have gone := carried_gone carried (.inl down)
  have quiet := carried.closed (.inl down)
  refine ⟨?_,fun _ => .inl rfl,fun cut => absurd cut (by simp),by rintro (stage | stage) <;> cases stage⟩
  intro requestId pending found
  refine inFlight_moves (carried.flight _ _ found) .inl .inl ?_ ?_ ?_ fun _ heard => absurd down heard
  · intro _ mem
    rw [carried.cut gone] at mem
    cases mem
  · intro _ taken
    rw [quiet.1] at taken
    cases taken
  · intro _ mem
    rw [quiet.2] at mem
    cases mem

theorem contentStep_carried (answering : Answering s action)
    (step : contentStep s action = some next) : Carried next := by
  have live : ∀ {sessionId update},Carried (s.withLiveDirty sessionId update) := by
    intro sessionId update
    apply carried_fewer carried (withLiveDirty_sameLink ⟨rfl,rfl,rfl,rfl,rfl,rfl⟩) withLiveDirty_loop
    intro requestId pending found
    rwa [withLiveDirty_pending] at found
  have unsent : ∀ {earlier : List (String × DirtyContent)} {dirty stage},
      (s.loop = .idle ∨ s.loop = .requesting earlier) → Carried {s with dirty := dirty,loop := stage} := by
    intro earlier dirty stage before
    have same : SameLink s {s with dirty := dirty,loop := stage} := ⟨rfl,rfl,rfl,rfl,rfl,rfl⟩
    apply carried_sameLink carried same
    intro requestId pending found
    apply inFlight_sameLink same _ (carried.flight requestId pending found)
    intro sessionId taken due sending
    rcases before with before | before <;> rw [before] at sending <;> cases sending
  cases action with
  | setAlive | nextId =>
    cases step
    exact carried_fewer carried ⟨rfl,rfl,rfl,rfl,rfl,rfl⟩ rfl fun _ _ found => found
  | touch | owe =>
    cases step
    exact live
  | sessionExited sessionId =>
    cases step
    split
    · exact carried
    · exact forget_carried carried
  | tick now =>
    simp only [contentStep] at step
    split at step
    · rename_i stage
      obtain ⟨_,rfl⟩ := guard_parts step
      exact unsent (Or.inl stage : _ ∨ s.loop = .requesting [])
    · cases step
  | request =>
    simp only [contentStep] at step
    split at step <;> rename_i stage <;> cases step
    · exact unsent (.inr stage)
    · exact request_carried carried stage
  | send room =>
    simp only [contentStep] at step
    split at step <;> rename_i stage <;> cases step
    exact send_carried carried stage
  | handle found envelope record =>
    simp only [contentStep] at step
    split at step <;> rename_i front <;> cases step
    exact handle_carried carried front (answering _ _ _ front)
  | traffic final record =>
    cases step
    exact sendRecord_carried carried
  | cut =>
    cases step
    exact cut_carried carried
  | take =>
    simp only [contentStep] at step
    split at step
    · rename_i free front
      obtain ⟨live,rfl⟩ := guard_parts step
      exact take_carried carried free front live
    · cases step
  | push =>
    obtain ⟨_,full,pushed⟩ := Option.bind_eq_some_iff.mp step
    split at pushed <;> cases pushed
    exact push_carried carried full
  | receive =>
    simp only [contentStep] at step
    split at step
    · rename_i stage front
      cases step
      exact receive_carried carried stage front
    · cases step
  | endNoticed =>
    obtain ⟨closed,rfl⟩ := guard_parts step
    refine ⟨fun requestId pending found => .ending closed.2.1 (by simp),fun gone => ?_,carried.cut,fun _ => closed.2.2⟩
    rw [closed.2.1] at gone
    cases gone
  | drain now =>
    obtain ⟨closed,rfl⟩ := guard_parts step
    have gone := carried_gone carried (.inr closed)
    exact ⟨fun requestId pending found => absurd found (by simp [ContentState.drained]),
      fun live => (by cases gone.symm.trans live),carried.cut,fun _ => carried.closed (.inr closed)⟩
  | connect =>
    obtain ⟨down,rfl⟩ := guard_parts step
    exact connect_carried carried down
  | goOnline =>
    obtain ⟨_,rfl⟩ := guard_parts step
    refine ⟨?_,fun _ => .inr rfl,carried.cut,by rintro (stage | stage) <;> cases stage⟩
    intro requestId pending found
    exact inFlight_moves (carried.flight _ _ found) .inl .inl .inl .inl .inl fun cut _ => ⟨cut,by simp⟩

end

def ContentState.load (s : ContentState) : Nat :=
  4 * s.commands.length + 3 * s.outbound.length + 2 * s.hand.toList.length + s.events.length

-- Some deliveries lead to a state in which no request is remembered.
open ContentState (handleInternalResponse load owing start)

inductive Settles : ContentState → Prop where
  | settled (empty : ∀ requestId,s.pending.lookup requestId = none) : Settles s
  | after (delivers : ContentAction.delivers action = true) (stepped : contentStep s action = some mid)
      (settles : Settles mid) : Settles s

theorem settles_requestable (settles : Settles s) : Requestable s sessionId := by
  induction settles with
  | @settled s empty =>
    refine ⟨[],s,fun action mem => absurd mem List.not_mem_nil,rfl,?_⟩
    rw [owing,List.any_eq_false]
    intro entry mem
    have found := entries_lookup mem
    rw [empty entry.1] at found
    cases found
  | @after action s mid delivers step settles ih =>
    obtain ⟨deliveries,next,all,ran,free⟩ := ih
    refine ⟨action :: deliveries,next,?_,?_,free⟩
    · intro other mem
      rcases List.mem_cons.mp mem with this | later
      · rw [this,delivers]
      · exact all other later
    · rw [run_cons step,ran]

theorem handleInternalResponse_sameLink : SameLink s (s.handleInternalResponse reply) := by
  cases reply with
  | final sessionId =>
    unfold handleInternalResponse
    dsimp only
    split <;> exact ⟨rfl,rfl,rfl,rfl,rfl,rfl⟩
  | _ => exact ⟨rfl,rfl,rfl,rfl,rfl,rfl⟩

theorem handleInternalResponse_loop : (handleInternalResponse s reply).loop = s.loop := by
  cases reply with
  | final sessionId =>
    unfold handleInternalResponse
    dsimp only
    split <;> rfl
  | _ => rfl

theorem nothing_remembered (carried : Carried s) (live : s.current = true) (unsent : s.loop.Unsent)
    (commands : s.commands = []) (outbound : s.outbound = []) (hand : s.hand = none) (events : s.events = []) :
    ∀ requestId,s.pending.lookup requestId = none := by
  intro requestId
  cases found : s.pending.lookup requestId with
  | none => rfl
  | some pending =>
    cases carried.flight requestId pending found with
    | sending stage => exact absurd stage (unsent _ _ _ _)
    | asked command => rw [commands] at command; cases command
    | queued mem _ => rw [outbound] at mem; cases mem
    | held taken _ => rw [hand] at taken; cases taken
    | passed mem _ => rw [events] at mem; cases mem
    | ending cut _ => rw [live] at cut; cases cut

-- Events first, then the record in hand, then the queue, and then a request whose answer has room.
theorem attached_settles : ∀ s : ContentState,s.load < bound → Carried s → s.bridge = .attached →
    s.loop.Unsent → Settles s := by
  induction bound with
  | zero => exact fun s small => absurd small (Nat.not_lt_zero _)
  | succ bound ih =>
    intro s small carried stage unsent
    have smaller : ∀ {action mid},ContentAction.delivers action = true → Answering s action →
        contentStep s action = some mid → mid.load < s.load → mid.bridge = .attached → mid.loop = s.loop → Settles s := by
      intro action mid delivers answering step less up loop
      refine .after delivers step (ih mid (by omega) (contentStep_carried carried answering step) up ?_)
      rw [loop]
      exact unsent
    cases events : s.events with
    | cons reply rest =>
      have same := @handleInternalResponse_sameLink {s with events := rest} reply
      apply @smaller .receive (handleInternalResponse {s with events := rest} reply) rfl trivial
      · simp only [contentStep,stage,events]
      · simp only [load,same.commands,same.outbound,same.hand,same.events,events,List.length_cons]
        omega
      · rw [same.bridge,stage]
      · rw [handleInternalResponse_loop]
    | nil =>
    cases hand : s.hand with
    | some record =>
      apply @smaller .push {s with hand := none,events := s.events ++ [record.reply]} rfl trivial
      · simp only [contentStep,hand,Option.bind_some,events]
        rfl
      · simp [load,events,hand]
      · exact stage
      · rfl
    | none =>
    cases live : s.current with
    | false =>
      have noticed : contentStep s .endNoticed = some {s with bridge := .ended,online := false} := by
        simp only [contentStep]
        exact if_pos ⟨stage,live,hand,events⟩
      have drained : contentStep {s with bridge := .ended,online := false} (.drain 0) =
          some (ContentState.drained {s with bridge := .ended,online := false} 0) := by
        simp only [contentStep,if_true]
      exact .after rfl noticed (.after rfl drained (.settled fun _ => rfl))
    | true =>
    cases outbound : s.outbound with
    | cons record rest =>
      apply @smaller .take {s with hand := some _,outbound := rest} rfl trivial
      · simp only [contentStep,hand,outbound,live]
        rfl
      · simp [load,outbound,hand]
        omega
      · exact stage
      · rfl
    | nil =>
    cases commands : s.commands with
    | cons command rest =>
      have room : s.Room 0 0 := ⟨live,Nat.zero_le _,Nat.zero_le _,by rw [outbound]; decide⟩
      apply @smaller (.handle true 0 0) {s with commands := rest,outbound := [⟨.snapshot command.1 command.2,0⟩]} rfl
        fun _ _ _ _ _ => .inl room
      · simp [contentStep,commands,ContentState.deviceSnapshot,ContentState.sendRecord,live,outbound,workerQueueRecords]
      · simp [load,outbound,commands]
        omega
      · exact stage
      · rfl
    | nil => exact .settled (nothing_remembered carried live unsent commands outbound hand events)

theorem unsent_settles (carried : Carried s) (unsent : s.loop.Unsent) : Settles s := by
  have online : ∀ s : ContentState,Carried s → s.loop.Unsent → s.bridge = .connected → Settles s := by
    intro s carried unsent up
    have step : contentStep s .goOnline = some {s with bridge := .attached,online := true} := by
      simp only [contentStep,up,if_true]
    have onlined := contentStep_carried carried (by trivial) step
    exact .after rfl step (attached_settles _ (Nat.lt_succ_self _) onlined rfl unsent)
  cases stage : s.bridge with
  | attached => exact attached_settles _ (Nat.lt_succ_self _) carried stage unsent
  | connected => exact online s carried unsent stage
  | ended =>
    have step : contentStep s (.drain 0) = some (s.drained 0) := by simp only [contentStep,stage,if_true]
    exact .after rfl step (.settled fun _ => rfl)
  | down =>
    have step : contentStep s .connect = some {s with bridge := .connected,current := true} := by
      simp only [contentStep,stage,if_true]
    have connected := contentStep_carried carried (by trivial) step
    exact .after rfl step (online _ connected unsent rfl)

theorem carried_unblocked (carried : Carried s) : Unblocked s := by
  refine ⟨carried.flight,fun sessionId => settles_requestable ?_⟩
  cases stage : s.loop with
  | idle | requesting => exact unsent_settles carried (by rw [stage]; intro _ _ _ _ equal; cases equal)
  | sending requestId sessionId taken due =>
    have step : contentStep s (.send true) =
        some {s with commands := s.commands ++ [(requestId,sessionId)],loop := .requesting due} := by
      simp only [contentStep,stage]
      rfl
    have sent := contentStep_carried carried (by trivial) step
    exact .after rfl step (unsent_settles sent (by intro _ _ _ _ equal; cases equal))

theorem start_carried : Carried (start processId) where
  flight := fun requestId pending found => absurd found (by simp [start])
  link := fun live => absurd live (by simp [start])
  cut := fun _ => rfl
  closed := fun _ => ⟨rfl,rfl⟩

theorem content_requestable_again (processId : Nat) (actions : List ContentAction)
    (answering : contentMachine.Along Answering (.start processId) actions) :
    contentMachine.Throughout Unblocked (.start processId) actions :=
  throughout_of_along (fun _ => carried_unblocked) (fun _ _ _ => (contentStep_carried ·)) start_carried answering

def oneAlive : Table String (String × Int) := (∅ : Table String (String × Int)).insert "one" ("task",42)

def asking : List ContentAction :=
  [.setAlive oneAlive,.connect,.goOnline,.touch "one" 0,.tick 3000,.request,.send true,.request]

theorem asking_along : contentMachine.Along Answering (.start 7) asking := by
  apply along_of_all
  intro action mem s
  simp only [asking,List.mem_cons,List.not_mem_nil,or_false] at mem
  rcases mem with rfl | rfl | rfl | rfl | rfl | rfl | rfl | rfl <;> trivial

theorem asking_state : ∃ mid,contentMachine.run (.start 7) asking = some mid ∧
    mid.current = true ∧ mid.outbound = [] ∧ mid.hand = none := by
  have facts : (contentMachine.run (.start 7) asking).map (fun mid => (mid.current,mid.outbound,mid.hand)) =
      some (true,[],none) := by decide +kernel
  obtain ⟨mid,ran,seen⟩ := Option.map_eq_some_iff.mp facts
  simp only [Prod.mk.injEq] at seen
  exact ⟨mid,ran,seen⟩

theorem content_requestable_again_answered :
    ∃ last, contentMachine.run (.start 7) (asking ++ [.handle true 100 120,.take,.push]) = some last ∧
      last.events = [.snapshot "worker-checkpoint-7-1" "one"] ∧ ContentState.owing last.pending "one" = true ∧
      contentMachine.Throughout Unblocked (.start 7) (asking ++ [.handle true 100 120,.take,.push]) := by
  have facts : (contentMachine.run (.start 7) (asking ++ [.handle true 100 120,.take,.push])).map
      (fun last => (last.events,owing last.pending "one")) =
        some ([.snapshot "worker-checkpoint-7-1" "one"],true) := by decide +kernel
  obtain ⟨last,ran,seen⟩ := Option.map_eq_some_iff.mp facts
  simp only [Prod.mk.injEq] at seen
  refine ⟨last,ran,seen.1,seen.2,content_requestable_again 7 _ ?_⟩
  obtain ⟨mid,asked,live,outbound,hand⟩ := asking_state
  apply along_append asked asking_along
  have room : mid.Room 100 120 := by
    refine ⟨live,by decide,?_,by rw [outbound]; decide⟩
    rw [ContentState.pendingBytes,outbound,hand]
    decide
  exact ⟨fun _ _ _ _ _ => .inl room,fun _ _ => ⟨True.intro,fun _ _ => ⟨True.intro,fun _ _ => True.intro⟩⟩⟩

theorem quiet_unrequestable (stage : s.bridge = .attached) (live : s.current = true) (idle : s.loop = .idle)
    (commands : s.commands = []) (outbound : s.outbound = []) (hand : s.hand = none) (events : s.events = [])
    (owed : owing s.pending sessionId = true) : ¬Requestable s sessionId := by
  rintro ⟨deliveries,next,all,ran,free⟩
  cases deliveries with
  | nil =>
    cases ran
    rw [owed] at free
    cases free
  | cons action rest =>
    obtain ⟨mid,step,_⟩ := run_cons_parts ran
    change contentStep s action = some mid at step
    cases action <;> simp_all [contentStep,ContentAction.delivers]

-- The attachment's queue is full when sessiond takes up the request; the answer is dropped unheard.
def crowding : List ContentAction :=
  [.traffic none workerQueueBytes,.handle true 100 120,.take,.push,.receive]

theorem dropped_answer_blocks_content : ∃ last, contentMachine.run (.start 7) (asking ++ crowding) = some last ∧
      ContentState.owing last.pending "one" = true ∧ last.online = true ∧
      ¬Requestable last "one" ∧ ¬Unblocked last := by
  have stages : (contentMachine.run (.start 7) (asking ++ crowding)).map (fun last =>
      (owing last.pending "one",last.online,last.bridge,last.current,last.loop)) =
        some (true,true,.attached,true,.idle) := by decide +kernel
  have queues : (contentMachine.run (.start 7) (asking ++ crowding)).map (fun last =>
      (last.commands,last.outbound,last.hand,last.events)) = some ([],[],none,[]) := by decide +kernel
  obtain ⟨last,ran,seen⟩ := Option.map_eq_some_iff.mp stages
  rw [ran] at queues
  simp only [Option.map_some,Option.some.injEq,Prod.mk.injEq] at seen queues
  obtain ⟨owed,online,stage,live,idle⟩ := seen
  obtain ⟨commands,outbound,hand,events⟩ := queues
  have blocked := quiet_unrequestable stage live idle commands outbound hand events owed
  exact ⟨last,ran,owed,online,blocked,fun unblocked => blocked (unblocked.requestable "one")⟩

end Coflux.Device
