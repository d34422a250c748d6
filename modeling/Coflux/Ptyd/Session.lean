import Coflux.Foundation.Table
import Coflux.Ptyd.SessionFile

namespace Coflux.Ptyd
open FiniteMap

structure OpError where
  (code message : String)
deriving DecidableEq

structure Cursor where
  seq : Nat
  data : Bytes

-- The ticket tells two subscriptions of one connection and request id apart; the code has no such
-- field and no function below reads it.
structure Subscriber where
  (requestId connection ticket : Nat)
deriving DecidableEq

-- The device path is read into a buffer of 128 bytes with a final zero.
structure PtyPair where
  (master slave : Nat)
  tty : String
  short : tty.utf8ByteSize < 128

structure SessionInner where
  file : SessionFile
  (master slave : Option Nat)
  pid : Option Int
  tty : String
  exit : Option Int
  killed : Bool
  startedAtMs : Nat
  cursors : Table String Cursor
  subscriber : Option Subscriber

structure WriteRequest where
  clientInstanceId : String
  inputSeq : Nat
  data : Bytes

inductive WriteVerdict where
  | refuse (error : OpError)
  | duplicate (appliedThroughSeq : Nat)
  | proceed (master : Nat)
deriving DecidableEq

inductive PtyOutcome where
  | written
  | failed (written : Nat) (errno : Option Int) (error : String)

def eio : Int := 5

def admitWrite (request : WriteRequest) : Option OpError :=
  if request.data.length > ptydMaxInputBytes then
    some ⟨"input_too_large",s!"单条输入超过 {ptydMaxInputBytes} 字节"⟩
  else if request.inputSeq = 0 then some ⟨"invalid_input_seq","input sequence 必须从 1 开始"⟩
  else if request.clientInstanceId.isEmpty then some ⟨"invalid_client","client instance id 为空"⟩
  else none

def writeFailure (request : WriteRequest) (written : Nat) (errno : Option Int) (error : String) : OpError :=
  if written = 0 ∧ errno = some eio then ⟨"pty_closed",s!"PTY 从属端已关闭：{error}"⟩
  else if written = 0 then ⟨"pty_write_failed",s!"PTY 写入失败：{error}"⟩
  else ⟨"pty_write_partial",s!"PTY 仅写入 {written}/{request.data.length} 字节：{error}"⟩

namespace SessionInner

def opened (file : SessionFile) (pair : PtyPair) (now : Nat) : SessionInner :=
  ⟨file,some pair.master,some pair.slave,none,pair.tty,none,false,now,∅,none⟩

def cursorSeq (cursors : Table String Cursor) (client : String) : Nat :=
  (cursors.lookup client).elim 0 Cursor.seq

def checkCursor (cursors : Table String Cursor) (request : WriteRequest) : Option WriteVerdict :=
  match cursors.lookup request.clientInstanceId with
  | some cursor =>
    if request.inputSeq ≤ cursor.seq then
      if request.inputSeq = cursor.seq ∧ cursor.data ≠ request.data then
        some (.refuse ⟨"input_seq_collision","相同 input sequence 携带了不同 payload"⟩)
      else some (.duplicate cursor.seq)
    else if request.inputSeq ≠ cursor.seq + 1 then
      some (.refuse ⟨"input_seq_gap",s!"input sequence 不连续，期望 {cursor.seq + 1}"⟩)
    else none
  | none =>
    if size cursors ≥ ptydLogicalClientLimit then
      some (.refuse ⟨"logical_client_limit",s!"session logical client identity 已达上限 {ptydLogicalClientLimit}"⟩)
    else if request.inputSeq ≠ 1 then some (.refuse ⟨"input_seq_gap","input sequence 不连续，期望 1"⟩)
    else none

section
variable (st : SessionInner)

def checkWrite (request : WriteRequest) : WriteVerdict :=
  if st.exit.isSome ∨ st.pid.isNone then .refuse ⟨"pty_closed","session 已退出"⟩
  else match checkCursor st.cursors request with
    | some verdict => verdict
    | none =>
      match st.master with
      | some master => .proceed master
      | none => .refuse ⟨"pty_closed","session 已关闭"⟩

def commitWrite (request : WriteRequest) : SessionInner :=
  {st with cursors := st.cursors.insert request.clientInstanceId ⟨request.inputSeq,request.data⟩}

def spawned (pid : Int) (now : Nat) : SessionInner :=
  {st with slave := none,pid := some pid,startedAtMs := now}

def resized (rows cols : UInt16) : SessionInner :=
  {st with file := st.file.pushResize rows cols}

def checkpointed (offset : Nat) (blob : Bytes) : SessionInner :=
  {st with file := (st.file.setCheckpoint offset blob).2}

def kill : SessionInner := {st with killed := true}

def removed : SessionInner :=
  {st with master := none,slave := none,subscriber := none}

def dropSubscriptionsOf (connection : Nat) : SessionInner :=
  match st.subscriber with
  | some subscriber => if subscriber.connection = connection then {st with subscriber := none} else st
  | none => st

def subscribed (subscriber : Subscriber) : SessionInner :=
  {st with subscriber := some subscriber}

-- At most the budget is appended, and the rest stays with the loop.
def taken (pending : Bytes) : SessionInner :=
  {st with file := (st.file.append (pending.take st.file.writeBudget)).2}

def exited (exitCode : Int) : SessionInner := {st with exit := some exitCode}

end

end SessionInner

inductive Lifecycle where
  | spawned (pid : Int) (now : Nat)
  | resized (rows cols : UInt16)
  | checkpointed (offset : Nat) (blob : Bytes)
  | subscribed (subscriber : Subscriber)
  | dropSubscriptionsOf (connection : Nat)
  | taken (pending : Bytes)
  | kill
  | exited (exitCode : Int)

def Lifecycle.apply (st : SessionInner) : Lifecycle → SessionInner
  | .spawned pid now => st.spawned pid now
  | .resized rows cols => st.resized rows cols
  | .checkpointed offset blob => st.checkpointed offset blob
  | .subscribed subscriber => st.subscribed subscriber
  | .dropSubscriptionsOf connection => st.dropSubscriptionsOf connection
  | .taken pending => st.taken pending
  | .kill => st.kill
  | .exited exitCode => st.exited exitCode

theorem lifecycle_cursors (change : Lifecycle) : (change.apply st).cursors = st.cursors := by
  cases change with
  | dropSubscriptionsOf connection =>
    simp only [Lifecycle.apply,SessionInner.dropSubscriptionsOf]
    split
    · split <;> rfl
    · rfl
  | _ => rfl

theorem checkCursor_none : SessionInner.checkCursor cursors request = none ↔
    request.inputSeq = SessionInner.cursorSeq cursors request.clientInstanceId + 1 ∧
      (cursors.lookup request.clientInstanceId = none → size cursors < ptydLogicalClientLimit) := by
  unfold SessionInner.checkCursor SessionInner.cursorSeq
  cases found : cursors.lookup request.clientInstanceId with
  | some cursor =>
    simp only [Option.elim_some,reduceCtorEq,false_implies,and_true]
    constructor
    · intro passed
      split at passed
      · split at passed <;> cases passed
      · split at passed
        · cases passed
        · omega
    · intro equal
      rw [if_neg (by omega),if_neg (by omega)]
  | none =>
    simp only [Option.elim_none,true_implies]
    constructor
    · intro passed
      split at passed
      · cases passed
      · split at passed
        · cases passed
        · omega
    · intro ⟨equal,room⟩
      rw [if_neg (by omega),if_neg (by omega)]

end Coflux.Ptyd
