import Coflux.Foundation.Table
import Coflux.Sessiond.Terminal

namespace Coflux.Sessiond
open Text FiniteMap

def logicalClientLimit : Nat := 256
def agentIdentityPrefix : String := "__coflux-agent-"
def u64Max : Nat := 2 ^ 64 - 1

def da1Reply : Bytes := 0x1b :: ascii "[?1;2c"

def programStatusProbeReply (terminator : OscTerminator) : Bytes :=
  0x1b :: ascii "]7501;?:states=idle,working,done,blocked,error:kinds=permission,question,auth" ++ match terminator with
    | .bel => [0x07]
    | .st => [0x1b,0x5c]

structure Subscriber where
  nextSeq : Nat
  (gapped gapNotified : Bool)

structure Holder where
  clientInstanceId : String
  transportGeneration : Nat
  channelId : String
  epoch : Nat

structure TransportBinding where
  generation : Nat
  channelId : String

structure DetachedTarget where
  channelId : String
  holderEpoch : Nat

structure AttachOutcome where
  (holderEpoch snapshotSeq : Nat)
  ansiSnapshot : Option Bytes
  replay : List Delta
  detached : Option DetachedTarget

structure PendingDelta where
  channelId : String
  delta : Delta

structure PendingGap where
  channelId : String
  (expectedSeq availableSeq : Nat)

structure ControlError where
  (code message : String)
deriving DecidableEq

-- The input and resize cursors are not read or written by any function below.
structure SessionState (V : Type) where
  terminal : TerminalState V
  subscribers : Table String Subscriber
  holder : Option Holder
  transportBindings : Table String TransportBinding
  nextHolderEpoch : Nat
  queryReplies : List Bytes

structure AttachRequest where
  (channelId clientInstanceId : String)
  transportGeneration : Nat
  resumeFromSeq : Option Nat

namespace SessionState
variable {V : Type} (vendor : Vendor V)

def restore (terminal : TerminalState V) : SessionState V :=
  {terminal := terminal,subscribers := ∅,holder := none,transportBindings := ∅,nextHolderEpoch := 0,queryReplies := []}

def new (rows cols : UInt16) (historyLineLimit : Nat) : SessionState V :=
  restore (.new vendor rows cols historyLineLimit)

def Subscriber.owed (subscriber : Subscriber) (delta : Delta) : Bool :=
  !subscriber.gapped && subscriber.nextSeq = delta.fromSeq

-- A subscriber that is not exactly at the new delta has missed bytes.
def Subscriber.offered (subscriber : Subscriber) (delta : Delta) : Subscriber :=
  if subscriber.gapped ∨ subscriber.nextSeq = delta.fromSeq then subscriber
  else {subscriber with gapped := true,gapNotified := false}

def pendingFor (subscribers : Table String Subscriber) (delta : Delta) : List PendingDelta :=
  (entries subscribers).filterMap fun entry => if Subscriber.owed entry.2 delta then some ⟨entry.1,delta⟩ else none

section
variable (state : SessionState V)

def humanReceivesRaw (pending : List PendingDelta) : Bool :=
  match state.holder with
  | none => false
  | some holder =>
    !agentIdentityPrefix.toList.isPrefixOf holder.clientInstanceId.toList &&
      pending.any fun delivery => delivery.channelId = holder.channelId

def answer (human : Bool) : List TerminalQuery → List Bytes × Option Nat
  | [] => ([],none)
  | .programStatus terminator :: rest =>
    let (replies,last) := answer human rest
    (programStatusProbeReply terminator :: replies,last)
  | .da1 seq :: rest =>
    let (replies,last) := answer human rest
    if human then (replies,last) else (da1Reply :: replies,some (last.getD seq))

def feed (bytes : Bytes) : SessionState V × List PendingDelta :=
  match state.terminal.feed vendor bytes with
  | (terminal,none) => ({state with terminal := terminal,queryReplies := []},[])
  | (terminal,some delta) =>
    let pending := pendingFor state.subscribers delta
    let (replies,last) := answer (state.humanReceivesRaw pending) terminal.queries
    let taken := {terminal with queries := []}
    let marked := match last with
      | some seq => taken.raiseAnsweredQuerySeq seq
      | none => taken
    ({state with
        terminal := marked
        subscribers := mapValues (fun _ subscriber => Subscriber.offered subscriber delta) state.subscribers
        queryReplies := replies},pending)

def validateAttach (request : AttachRequest) : Option ControlError :=
  if request.channelId.isEmpty ∨ request.clientInstanceId.isEmpty ∨ request.transportGeneration = 0 then
    some ⟨"invalid_attach","channel/client/generation 必须有效"⟩
  else match state.transportBindings.lookup request.clientInstanceId with
    | none =>
      if size state.transportBindings ≥ logicalClientLimit then
        some ⟨"logical_client_limit",s!"session logical client identity 已达上限 {logicalClientLimit}"⟩
      else none
    | some binding =>
      if request.transportGeneration < binding.generation then
        some ⟨"stale_transport","transport generation 已过期"⟩
      else if request.transportGeneration = binding.generation ∧ binding.channelId ≠ request.channelId then
        some ⟨"generation_collision","同一 transport generation 不能绑定不同 channel"⟩
      else if request.transportGeneration > binding.generation ∧ binding.channelId = request.channelId then
        some ⟨"generation_collision","更高 transport generation 必须迁移到新的 channel"⟩
      else none

def bumpedEpoch : Nat := max (min (state.nextHolderEpoch + 1) u64Max) 1

def installHolder (request : AttachRequest) (epoch : Nat) : SessionState V :=
  {state with
    holder := some ⟨request.clientInstanceId,request.transportGeneration,request.channelId,epoch⟩
    transportBindings := state.transportBindings.insert request.clientInstanceId
      ⟨request.transportGeneration,request.channelId⟩}

def dropRebound (holder : Holder) (request : AttachRequest) : SessionState V :=
  if request.transportGeneration > holder.transportGeneration ∧ holder.channelId ≠ request.channelId then
    {state with subscribers := state.subscribers.erase holder.channelId}
  else state

section
variable (request : AttachRequest)

def takeHolder : SessionState V × Nat × Option DetachedTarget :=
  match state.holder with
  | none =>
    (installHolder {state with nextHolderEpoch := state.bumpedEpoch} request state.bumpedEpoch,state.bumpedEpoch,none)
  | some holder =>
    if holder.clientInstanceId = request.clientInstanceId then
      (installHolder (state.dropRebound holder request) request holder.epoch,holder.epoch,none)
    else
      (installHolder {state with
          subscribers := state.subscribers.erase holder.channelId
          nextHolderEpoch := state.bumpedEpoch} request state.bumpedEpoch,
        state.bumpedEpoch,some ⟨holder.channelId,holder.epoch⟩)

-- A resume below the last query sessiond answered would hand it out again.
def resumePoint : Option Nat :=
  request.resumeFromSeq.filter fun seq => state.terminal.answeredQuerySeq ≤ seq

section
variable (ring : Nat → Nat → Option Bytes)

-- One delta that covers everything from the resume point on, or nothing.
def fromRing (seq : Nat) : Option (List Delta) :=
  let last := state.terminal.outputSeq
  if seq < last ∧ seq + 1 ≥ state.terminal.ringFloorSeq then
    match ring (seq + 1) last with
    | some data => if data.length = last - (seq + 1) + 1 then some [⟨seq + 1,last,data⟩] else none
    | none => none
  else none

def replayFrom (seq : Nat) : Option (List Delta) :=
  (state.terminal.deltasAfter seq).or (state.fromRing ring seq)

def resumed :
    Option (Nat × List Delta) :=
  (state.resumePoint request).bind fun seq => (state.replayFrom ring seq).map fun replay => (seq,replay)

def subscribe (channelId : String) (snapshotSeq : Nat) : SessionState V :=
  {state with subscribers := state.subscribers.insert channelId ⟨snapshotSeq + 1,false,false⟩}

def attach :
    SessionState V × Except ControlError AttachOutcome :=
  match state.validateAttach request with
  | some error => (state,.error error)
  | none =>
    let (taken,epoch,detached) := state.takeHolder request
    match taken.resumed request ring with
    | some (seq,replay) => (taken.subscribe request.channelId seq,.ok ⟨epoch,seq,none,replay,detached⟩)
    | none =>
      (taken.subscribe request.channelId taken.terminal.outputSeq,
        .ok ⟨epoch,taken.terminal.outputSeq,some (taken.terminal.snapshot vendor),[],detached⟩)

end

end

section
variable (channelId : String)

def deliveryResult (toSeq : Nat) (sent : Bool) : SessionState V :=
  match state.subscribers.lookup channelId with
  | none => state
  | some subscriber =>
    if sent ∧ subscriber.nextSeq ≤ toSeq then
      {state with subscribers := state.subscribers.insert channelId {subscriber with nextSeq := toSeq + 1}}
    else if ¬sent then
      {state with subscribers :=
        state.subscribers.insert channelId {subscriber with gapped := true,gapNotified := false}}
    else state

def pendingGaps : List PendingGap :=
  (entries state.subscribers).filterMap fun entry =>
    if entry.2.gapped && !entry.2.gapNotified then
      some ⟨entry.1,entry.2.nextSeq,min state.terminal.earliestRetransmitSeq state.terminal.ringFloorSeq⟩
    else none

def gapDeliveryResult (sent : Bool) : SessionState V :=
  match state.subscribers.lookup channelId with
  | none => state
  | some subscriber => {state with subscribers := state.subscribers.insert channelId {subscriber with gapNotified := sent}}

def clearSubscribers : SessionState V := {state with subscribers := ∅}

def removeSubscriber : SessionState V :=
  {state with subscribers := state.subscribers.erase channelId}

def currentHolder (holderEpoch : Nat) : Except ControlError Holder :=
  match state.holder with
  | none => .error ⟨"no_holder","session 当前没有 holder"⟩
  | some holder =>
    if holder.epoch ≠ holderEpoch then .error ⟨"stale_holder","holder epoch 已过期"⟩
    else if holder.channelId ≠ channelId then .error ⟨"stale_transport","该 channel 已不是当前 transport"⟩
    else .ok holder

end

end

end SessionState
end Coflux.Sessiond
