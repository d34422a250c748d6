import Coflux.Foundation.Machine
import Coflux.Server.Store

namespace Coflux.Server
open FiniteMap StepMachine

def maxActivePreparedPerDaemon : Nat := 128

def maxRetryQueryFailures : Nat := 5

structure Daemon where
  daemonId : String
  connection : Nat
  accountId : String
deriving DecidableEq

structure OperationBrief where
  (operationId daemonId : String)
  kind : OperationKind
  expiresAt : Nat
deriving DecidableEq

def NewOperation.brief (operation : NewOperation) : OperationBrief :=
  ⟨operation.operationId,operation.daemonId,operation.kind,operation.expiresAt⟩

-- Without a client it is the server itself that waits.
structure Waiter where
  client : Option Nat
  operation : OperationBrief
deriving DecidableEq

structure Attempt where
  serial : Nat
  armed : Bool
  queryFailures : Nat
  operation : OperationBrief

structure PreparedFrame where
  (operationId daemonId : String)
  frame : List UInt8
  expiresAt : Nat

def OperationRecord.id (operation : OperationRecord) : String := operation.operationId

def OperationRecord.preparedFrame (operation : OperationRecord) : PreparedFrame :=
  ⟨operation.operationId,operation.daemonId,operation.frame,operation.expiresAt⟩

inductive Message where
  | error (client : Nat) (text : String)
  | preparedToClient (client : Nat) (frame : PreparedFrame) (initialSnapshot : Bool)
  | preparedToDaemon (daemon : Daemon) (frame : PreparedFrame)
  | execute (daemon : Daemon) (operationId : String)
  | failServerOperation (operationId text : String)
  | accepted (operation : OperationRecord)
  | rejected (text : String)

def Message.delivers : Message → Option String
  | .preparedToClient _ frame _ => some frame.operationId
  | .execute _ operationId => some operationId
  | _ => none

-- A message with whether the service had been told before that its operation had ended.
structure Sent where
  message : Message
  late : Bool

inductive Admission where
  | resume (operation : OperationRecord)
  | created (operation : OperationRecord)
  | full
  | conflict
  | rejected (text : String)
  | unavailable

-- What an expiry was awaited by.
inductive After where
  | prepare (client : Option Nat) (operation : NewOperation)
  | restore (daemon : Daemon)
  | retry (operationId : String) (serial : Nat)

-- The names in pairs are a statement that was sent and the same with its answer. For the last three
-- an inner asynchronous function has returned.
inductive Thread where
  | sweeping (time : Nat) (next : After)
  | purging (time count : Nat) (next : After)
  | swept (time count : Nat) (next : After)
  | admitting (client : Option Nat) (operation : NewOperation) (token : Nat)
  | admitted (client : Option Nat) (token : Nat) (admission : Admission)
  | rereading (client : Option Nat) (operationId : String) (token : Nat)
  | reread (client : Option Nat) (operationId : String) (token : Nat) (current : Option OperationRecord)
  | resuming (client : Nat) (operationId : String) (token : Nat)
  | resumed (client : Nat) (operationId : String) (token : Nat) (current : Option OperationRecord)
  | listing (daemon : Daemon) (time token : Nat)
  | listed (daemon : Daemon) (token : Nat) (rows : List OperationRecord)
  | readying (client : Nat) (accountId : String) (initialSnapshot : Bool) (time token : Nat)
  | ready (client : Nat) (accountId : String) (initialSnapshot : Bool) (token : Nat) (rows : List OperationRecord)
  | marking (daemon : Daemon) (operationId : String) (ok : Bool) (error : Option String) (time : Nat)
  | marked (daemon : Daemon) (operationId : String) (ok : Bool) (error : Option String) (row : Option OperationRecord)
  | retrying (operationId : String) (serial : Nat)
  | retried (operationId : String) (serial : Nat) (row : Option OperationRecord)
  | expired (next : After)
  | checked (client : Option Nat) (current : Option OperationRecord)
  | active (client : Nat) (current : Option OperationRecord)

-- From origins on, the fields are history.
structure ServiceState where
  now : Nat
  operations : Operations
  devices : Table String Device
  daemons : Table String Daemon
  (connections completionToken : Nat)
  stopped : Bool
  waitersByOperation : Table String (List Waiter)
  retriesByOperation : Table String Attempt
  attempts : Nat
  threads : Table Nat Thread
  calls : Nat
  origins : Table String NewOperation
  settled : List String
  sent : List Sent

namespace ServiceState

section
variable (s : ServiceState)

def send (message : Message) : ServiceState :=
  {s with sent := ⟨message,message.delivers.any fun id => s.settled.contains id⟩ :: s.sent}

def sendError (client : Nat) (text : String) : ServiceState :=
  if s.stopped then s else s.send (.error client text)

def emitToClient (client : Nat) (operation : OperationRecord) (initialSnapshot : Bool) : ServiceState :=
  if s.stopped || operation.completed || operation.state != .installed || decide (operation.expiresAt ≤ s.now) then s
  else s.send (.preparedToClient client operation.preparedFrame initialSnapshot)

section
variable (operationId : String)

def waitersOf : List Waiter :=
  (s.waitersByOperation.lookup operationId).getD []

def clearWaiters : ServiceState :=
  {s with waitersByOperation := s.waitersByOperation.erase operationId}

def cancelRetry : ServiceState :=
  {s with retriesByOperation := s.retriesByOperation.erase operationId}

def advance : ServiceState := {s with completionToken := s.completionToken + 1}

-- The rows of the operations are ended in the database before the service is told.
def settle (ids : List String) : ServiceState := {s with settled := ids ++ s.settled}

def complete : ServiceState :=
  ((s.advance.cancelRetry operationId).clearWaiters operationId).settle [operationId]

end

end

def notify (operationId text : String) (s : ServiceState) (waiter : Waiter) : ServiceState :=
  match waiter.client with
  | some client => s.sendError client text
  | none => s.send (.failServerOperation operationId text)

def failWaiters (s : ServiceState) (operationId text : String) : ServiceState :=
  if s.stopped then s.clearWaiters operationId
  else ((s.waitersOf operationId).foldl (notify operationId text) s).clearWaiters operationId

def cancelOne (text : String) (s : ServiceState) (operationId : String) : ServiceState :=
  let known := (s.retriesByOperation.lookup operationId).isSome || s.waitersOf operationId != []
  let cancelled := s.cancelRetry operationId
  let failed := if known then cancelled.failWaiters operationId text else cancelled.clearWaiters operationId
  failed.send (.failServerOperation operationId text)

section
variable (s : ServiceState)

def cancelMany (ids : List String) (text : String) : ServiceState :=
  if ids = [] then s else (ids.eraseDups.foldl (cancelOne text) s.advance).settle ids

def timedOut : String := "prepared operation 安装超时，可安全重试"

section
variable (operationId : String)

def expireOne : ServiceState :=
  (s.cancelRetry operationId).failWaiters operationId timedOut

def dueLocally (time : Nat) : List String :=
  (((entries s.retriesByOperation).filter fun entry => entry.2.operation.expiresAt ≤ time).map Prod.fst ++
    ((entries s.waitersByOperation).filter fun entry => entry.2.any fun waiter => waiter.operation.expiresAt ≤ time).map
      Prod.fst).eraseDups

def expireDueOperations (time count : Nat) : ServiceState :=
  if count = 0 then s else (s.dueLocally time).foldl expireOne s.advance

def watch (operation : OperationBrief) (client : Option Nat) : ServiceState :=
  if s.stopped || (s.waitersOf operation.operationId).any (fun waiter => waiter.client = client) then s
  else
    {s with
      waitersByOperation := s.waitersByOperation.insert operation.operationId
        (s.waitersOf operation.operationId ++ [⟨client,operation⟩])}

def waiterTimeout (client : Option Nat) : ServiceState :=
  let rest := (s.waitersOf operationId).filter fun waiter => waiter.client ≠ client
  let removed := if rest = [] then s.clearWaiters operationId
    else {s with waitersByOperation := s.waitersByOperation.insert operationId rest}
  match client with
  | some client => removed.sendError client "prepared operation 安装确认超时"
  | none => removed.send (.failServerOperation operationId "prepared operation 安装确认超时")

def retryIsCurrent (serial : Nat) : Bool :=
  !s.stopped && (s.retriesByOperation.lookup operationId).any fun attempt => attempt.serial = serial

def finishRetry (serial : Nat) : ServiceState :=
  if (s.retriesByOperation.lookup operationId).any fun attempt => attempt.serial = serial then s.cancelRetry operationId
  else s

def handleRetryReadFailure (serial : Nat) : ServiceState :=
  match s.retriesByOperation.lookup operationId with
  | none => s
  | some attempt =>
    if ¬ s.retryIsCurrent operationId serial then s
    else if attempt.operation.expiresAt ≤ s.now then (s.finishRetry operationId serial).failWaiters operationId timedOut
    else if maxRetryQueryFailures ≤ attempt.queryFailures + 1 then
      (s.finishRetry operationId serial).failWaiters operationId "prepared operation 状态查询失败，可安全重试"
    else
      {s with
        retriesByOperation := s.retriesByOperation.insert operationId
          {attempt with armed := true,queryFailures := attempt.queryFailures + 1}}

end

section
variable (operation : OperationRecord)

def dispatch : ServiceState :=
  match s.daemons.lookup operation.daemonId with
  | none => s
  | some daemon =>
    if s.stopped || daemon.accountId != operation.accountId || operation.completed ||
        !isInstallableState operation.state || decide (operation.expiresAt ≤ s.now) then s
    else
      {(s.send (.preparedToDaemon daemon operation.preparedFrame)) with
        attempts := s.attempts + 1
        retriesByOperation := s.retriesByOperation.insert operation.operationId ⟨s.attempts,true,0,operation.brief⟩}

def sendExecute : ServiceState :=
  if s.stopped || operation.completed || operation.state != .installed || decide (operation.expiresAt ≤ s.now) then s
  else
    match s.daemons.lookup operation.daemonId with
    | none => s
    | some daemon =>
      if daemon.accountId = operation.accountId then s.send (.execute daemon operation.operationId) else s

def resumeCurrentForServer : ServiceState :=
  if s.stopped then s
  else if operation.state = .installed then s.sendExecute operation
  else (s.watch operation.brief none).dispatch operation

end

def resumeCurrentForClient (client : Nat) (operation : OperationRecord) : ServiceState :=
  if s.stopped then s
  else if operation.state = .installed then s.emitToClient client operation false
  else (s.watch operation.brief (some client)).dispatch operation

-- The record is the client's own; it is only kept on its way to the daemon.
def resumeForClientless (operation : OperationRecord) : ServiceState :=
  if s.stopped || operation.state = .installed then s else s.dispatch operation

def cancelDaemon (daemonId text : String) : ServiceState :=
  let ofDaemon (waiters : List Waiter) := waiters.any fun waiter => waiter.operation.daemonId = daemonId
  let cancelled :=
    {s.advance with retriesByOperation := keep (fun _ attempt => attempt.operation.daemonId ≠ daemonId) s.retriesByOperation}
  let notified := ((entries s.waitersByOperation).filter fun entry => ofDaemon entry.2).foldl
    (fun s entry => entry.2.foldl (notify entry.1 text) s) cancelled
  {notified with waitersByOperation := keep (fun _ waiters => !ofDaemon waiters) s.waitersByOperation}

def removeClient (client : Nat) : ServiceState :=
  {s with
    waitersByOperation := keep (fun _ waiters => waiters != [])
      (mapValues (fun _ waiters => waiters.filter fun waiter => waiter.client ≠ some client) s.waitersByOperation)}

def shutdown : ServiceState :=
  {s with stopped := true,retriesByOperation := ∅,waitersByOperation := ∅}

def isCurrentDaemon (daemon : Daemon) : Bool := s.daemons.lookup daemon.daemonId = some daemon

def live (row : OperationRecord) : Bool :=
  !row.completed && isInstallableState row.state && decide (s.now < row.expiresAt)

def claimActiveDevice (daemonId accountId : String) : Bool :=
  (s.devices.lookup daemonId).any fun device => device.accountId = accountId && !device.revoked

def findActive (operations : Operations) (operation : NewOperation) : Option OperationRecord :=
  operation.targetId.bind fun target =>
    operations.findActivePreparedOperation operation.accountId operation.kind target s.now

-- The transaction that admits an operation; the caller's own check is an input.
def admitOperation (operation : NewOperation) (rejection : Option String) :
    Operations × Admission :=
  if ¬ s.claimActiveDevice operation.daemonId operation.accountId then (s.operations,.unavailable)
  else
    match rejection with
    | some text => (s.operations,.rejected text)
    | none =>
      match s.findActive s.operations operation with
      | some row => (s.operations,.resume row)
      | none =>
        if maxActivePreparedPerDaemon ≤
            s.operations.countActivePreparedOperations operation.accountId operation.daemonId s.now then
          (s.operations,.full)
        else
          match s.operations.createPreparedOperation s.now operation with
          | (operations,some row) => (operations,.created row)
          | (operations,none) =>
            match s.findActive operations operation with
            | some raced => (operations,.resume raced)
            | none => (operations,.conflict)

def setThread (n : Nat) (thread : Thread) : ServiceState :=
  {s with threads := s.threads.insert n thread}

def endThread (n : Nat) : ServiceState := {s with threads := s.threads.erase n}

def call (thread : Thread) : ServiceState :=
  {s with calls := s.calls + 1,threads := s.threads.insert s.calls thread}

-- prepareServer has a caller that waits for its answer.
def answer (client : Option Nat) (text : String) : ServiceState :=
  match client with
  | some client => s.sendError client text
  | none => s.send (.rejected text)

def stableAdmitted (n : Nat) (client : Option Nat) (operationId : String) (token : Nat)
    (current : Option OperationRecord) : ServiceState :=
  if token ≠ s.completionToken then s.setThread n (.rereading client operationId s.completionToken)
  else s.setThread n (.checked client (current.filter s.live))

def readActiveOperation (n client : Nat) (operationId : String) : ServiceState :=
  if s.stopped then s.setThread n (.active client none)
  else s.setThread n (.resuming client operationId s.completionToken)

def listInstallable (n : Nat) (daemon : Daemon) : ServiceState :=
  s.setThread n (.listing daemon s.now s.completionToken)

def listReady (n client : Nat) (accountId : String) (initialSnapshot : Bool) : ServiceState :=
  s.setThread n (.readying client accountId initialSnapshot s.now s.completionToken)

def handleInstalled (daemon : Daemon) (operationId : String) (ok : Bool) (error : Option String)
    (row : Option OperationRecord) : ServiceState :=
  if s.stopped || !s.isCurrentDaemon daemon then s
  else
    match row.filter fun row => row.accountId = daemon.accountId with
    | none => s
    | some operation =>
      let cancelled := s.cancelRetry operationId
      if ¬ ok then cancelled.failWaiters operationId (error.getD "daemon 拒绝 prepared operation")
      else if isServerInitiated operation then (cancelled.clearWaiters operationId).sendExecute operation
      else
        (((cancelled.waitersOf operationId).filterMap Waiter.client).foldl
          (fun s client => s.emitToClient client operation false) cancelled).clearWaiters operationId

section
variable (n : Nat)

def retryRead (operationId : String) (serial : Nat) (row : Option OperationRecord) :
    ServiceState :=
  if ¬ s.retryIsCurrent operationId serial then s.endThread n
  else
    match row.filter fun row => !row.completed && row.state != .installed && isInstallableState row.state with
    | none => (s.finishRetry operationId serial).endThread n
    | some operation =>
      if operation.expiresAt ≤ s.now then s.setThread n (.sweeping s.now (.retry operationId serial))
      else if (s.daemons.lookup operation.daemonId).isNone then (s.finishRetry operationId serial).endThread n
      else (s.dispatch operation).endThread n

def afterExpiry : After → ServiceState
  | .prepare client operation =>
    if s.stopped then (match client with | some _ => s | none => s.answer none "中心正在关闭").endThread n
    else s.setThread n (.admitting client operation s.completionToken)
  | .restore daemon => if s.stopped || !s.isCurrentDaemon daemon then s.endThread n else s.listInstallable n daemon
  | .retry operationId serial =>
    if s.retryIsCurrent operationId serial then
      ((s.finishRetry operationId serial).failWaiters operationId timedOut).endThread n
    else s.endThread n

def admissionReturned (client : Option Nat) (token : Nat) (admission : Admission) :
    ServiceState :=
  if s.stopped then (match client with | some _ => s | none => s.answer none "中心正在关闭").endThread n
  else
    match admission with
    | .resume row => s.stableAdmitted n client row.operationId token (some row)
    | .created row => s.stableAdmitted n client row.operationId token (some row)
    | .full => (s.answer client "该 daemon 的 prepared operation 已达上限，请稍后重试").endThread n
    | .unavailable => (s.answer client "daemon 已撤销或不属于本账号").endThread n
    | .rejected text => (s.answer client text).endThread n
    | .conflict => (s.answer client "prepared operation ID 冲突").endThread n

def prepared (client : Option Nat) (current : Option OperationRecord) : ServiceState :=
  match client,current with
  | some _,none => s
  | some client,some operation => s.resumeCurrentForClient client operation
  | none,none => s.answer none "prepared operation 已完成或已过期，请重试"
  | none,some operation =>
    (if isServerInitiated operation then s.resumeCurrentForServer operation else s.resumeForClientless operation).send
      (.accepted operation)

-- An operation whose row is ended here has ended through this service.
def sweep (time : Nat) : ServiceState :=
  let ids := (s.operations.select (Operations.due time)).map OperationRecord.id
  {(s.settle ids) with operations := (s.operations.sweep time).1}

def query : Thread → Option ServiceState
  | .sweeping time next =>
    some ((s.sweep time).setThread n (.purging time (s.operations.sweep time).2 next))
  | .purging time count next =>
    some ({s with operations := s.operations.purge time}.setThread n (.swept time count next))
  | .rereading client operationId token =>
    some (s.setThread n (.reread client operationId token (s.operations.lookup operationId)))
  | .resuming client operationId token =>
    some (s.setThread n (.resumed client operationId token (s.operations.lookup operationId)))
  | .listing daemon time token =>
    some (s.setThread n (.listed daemon token
      (s.operations.listInstallablePreparedOperations s.devices daemon.daemonId time)))
  | .readying client accountId initialSnapshot time token =>
    some (s.setThread n (.ready client accountId initialSnapshot token
      (s.operations.listReadyPreparedOperations s.devices accountId time)))
  | .marking daemon operationId ok error time =>
    let marked := s.operations.markPreparedOperationInstalled time operationId daemon.daemonId ok error
    some ({s with operations := marked.1}.setThread n (.marked daemon operationId ok error marked.2))
  | .retrying operationId serial => some (s.setThread n (.retried operationId serial (s.operations.lookup operationId)))
  | _ => none

def resume : Thread → Option ServiceState
  | .swept time count next => some ((s.expireDueOperations time count).setThread n (.expired next))
  | .expired next => some (s.afterExpiry n next)
  | .admitted client token admission => some (s.admissionReturned n client token admission)
  | .reread client operationId token current =>
    some (if s.stopped then s.setThread n (.checked client none)
      else s.stableAdmitted n client operationId token current)
  | .checked client current => some ((s.prepared client current).endThread n)
  | .resumed client operationId token current =>
    some (if s.stopped || (current.filter s.live).isNone then s.setThread n (.active client none)
      else if token = s.completionToken then s.setThread n (.active client current)
      else s.readActiveOperation n client operationId)
  | .active client current =>
    some ((match current with | some operation => s.resumeCurrentForClient client operation | none => s).endThread n)
  | .listed daemon token rows =>
    some (if s.stopped || !s.isCurrentDaemon daemon then s.endThread n
      else if token ≠ s.completionToken then s.listInstallable n daemon
      else ((rows.filter fun row => row.accountId = daemon.accountId).foldl dispatch s).endThread n)
  | .ready client accountId initialSnapshot token rows =>
    some (if s.stopped then s.endThread n
      else if token ≠ s.completionToken then s.listReady n client accountId initialSnapshot
      else ((rows.filter fun row => !isServerInitiated row).foldl
        (fun s row => s.emitToClient client row initialSnapshot) s).endThread n)
  | .marked daemon operationId ok error row => some ((s.handleInstalled daemon operationId ok error row).endThread n)
  | .retried operationId serial row => some (s.retryRead n operationId serial row)
  | _ => none

def fail : Thread → Option ServiceState
  | .sweeping _ (.retry operationId serial) => some (s.afterExpiry n (.retry operationId serial))
  | .purging _ _ (.retry operationId serial) => some (s.afterExpiry n (.retry operationId serial))
  | .retrying operationId serial => some ((s.handleRetryReadFailure operationId serial).endThread n)
  | .expired _ | .checked _ _ | .active _ _ => none
  | _ => some (s.endThread n)

end

def ended (operationId : String) : Bool :=
  (s.operations.lookup operationId).any fun row => !row.unsettled

def rowsOf (daemonId : String) : List String :=
  (s.operations.select fun row => row.daemonId = daemonId).map OperationRecord.id

end

end ServiceState

-- Calls of the hub and timers, then the three steps of a call, then the hub's own transactions.
inductive ServiceAction where
  | prepare (client : Nat) (operation : NewOperation)
  | prepareServer (operation : NewOperation)
  | restore (daemon : Daemon)
  | resumeForClient (client : Nat) (operationId : String)
  | sendReadyToClient (client : Nat) (accountId : String) (initialSnapshot : Bool)
  | installed (daemon : Daemon) (operationId : String) (ok : Bool) (error : Option String)
  | complete (operationId : String)
  | cancelMany (ids : List String) (text : String)
  | cancelDaemon (daemonId text : String)
  | removeClient (client : Nat)
  | shutdown
  | retryFires (operationId : String)
  | waiterFires (operationId : String) (client : Option Nat)
  | admission (n : Nat) (rejection : Option String)
  | query (n : Nat)
  | resume (n : Nat)
  | fail (n : Nat)
  | report (daemonId : String) (report : OperationReport)
  | exit (operationId taskId sessionId : String) (exitCode : Int)
  | convergenceFailed (operationId daemonId error : String)
  | removeTarget (accountId daemonId : String) (kind : OperationKind) (targetId : String)
  | removeDevice (daemonId : String)
  | enroll (daemonId accountId : String)
  | connect (daemonId accountId : String)
  | disconnect (daemonId : String)
  | wait (duration : Nat)

def serviceStep (validControlId : String → Bool) (s : ServiceState) : ServiceAction → Option ServiceState
  | .prepare client operation => some (s.call (.sweeping s.now (.prepare (some client) operation)))
  | .prepareServer operation =>
    if operation.metadata.field "initiator" = some (.text "server") then
      some (s.call (.sweeping s.now (.prepare none operation)))
    else none
  | .restore daemon => if s.stopped then some s else some (s.call (.sweeping s.now (.restore daemon)))
  | .resumeForClient client operationId =>
    some ({s with calls := s.calls + 1}.readActiveOperation s.calls client operationId)
  | .sendReadyToClient client accountId initialSnapshot =>
    if s.stopped then some s
    else some ({s with calls := s.calls + 1}.listReady s.calls client accountId initialSnapshot)
  | .installed daemon operationId ok error =>
    if s.stopped || !validControlId operationId || !s.isCurrentDaemon daemon then some s
    else some (s.call (.marking daemon operationId ok error s.now))
  | .complete operationId => if s.ended operationId then some (s.complete operationId) else none
  | .cancelMany ids text => if ids.all s.ended then some (s.cancelMany ids text) else none
  | .cancelDaemon daemonId text =>
    if (s.rowsOf daemonId).all s.ended then some ((s.cancelDaemon daemonId text).settle (s.rowsOf daemonId)) else none
  | .removeClient client => some (s.removeClient client)
  | .shutdown => some s.shutdown
  | .retryFires operationId =>
    match s.retriesByOperation.lookup operationId with
    | some attempt =>
      if attempt.armed then
        some ({s with retriesByOperation := s.retriesByOperation.insert operationId {attempt with armed := false}}.call
          (.retrying operationId attempt.serial))
      else none
    | none => none
  | .waiterFires operationId client =>
    if (s.waitersOf operationId).any fun waiter => waiter.client = client then some (s.waiterTimeout operationId client)
    else none
  -- Operation ids are random and never drawn twice.
  | .admission n rejection =>
    match s.threads.lookup n with
    | some (.admitting client operation token) =>
      if (s.origins.lookup operation.operationId).isNone then
        let admitted := s.admitOperation operation rejection
        some ({s with
          operations := admitted.1
          origins := match admitted.2 with
            | .created _ => s.origins.insert operation.operationId operation
            | _ => s.origins}.setThread n (.admitted client token admitted.2))
      else none
    | _ => none
  | .query n => (s.threads.lookup n).bind (s.query n)
  | .resume n => (s.threads.lookup n).bind (s.resume n)
  | .fail n => (s.threads.lookup n).bind (s.fail n)
  | .report daemonId report =>
    let claimed := s.operations.claimPreparedOperationReport s.now report.operationId daemonId
    match claimed.2 with
    | some _ => some {s with operations := (claimed.1.finishPreparedOperation s.now report.operationId report).1}
    | none => some s
  | .exit operationId taskId sessionId exitCode =>
    some {s with operations := (s.operations.finishPreparedOperationFromExit s.now operationId taskId sessionId exitCode).1}
  | .convergenceFailed operationId daemonId error =>
    some {s with operations := (s.operations.failPreparedOperationConvergence s.now operationId daemonId error).1}
  | .removeTarget accountId daemonId kind targetId =>
    some {s with operations := (s.operations.expirePreparedOperationsByTarget accountId daemonId kind targetId s.now).1}
  | .removeDevice daemonId =>
    match s.devices.lookup daemonId with
    | some device =>
      some {s with
        devices := s.devices.insert daemonId {device with revoked := true}
        operations := s.operations.expirePreparedOperationsByDaemon device.accountId daemonId s.now}
    | none => none
  | .enroll daemonId accountId =>
    if (s.devices.lookup daemonId).isNone then some {s with devices := s.devices.insert daemonId ⟨accountId,false⟩} else none
  | .connect daemonId accountId =>
    some {s with
      connections := s.connections + 1
      daemons := s.daemons.insert daemonId ⟨daemonId,s.connections,accountId⟩}
  | .disconnect daemonId => some {s with daemons := s.daemons.erase daemonId}
  | .wait duration => some {s with now := s.now + duration}

def serviceMachine (validControlId : String → Bool) : Machine ServiceState ServiceAction := ⟨serviceStep validControlId⟩

def freshService : ServiceState where
  now := 0
  operations := ∅
  devices := ∅
  daemons := ∅
  connections := 0
  completionToken := 0
  stopped := false
  waitersByOperation := ∅
  retriesByOperation := ∅
  attempts := 0
  threads := ∅
  calls := 0
  origins := ∅
  settled := []
  sent := []

end Coflux.Server
