import Coflux.Server.Convergence
import Coflux.Server.PreparedOperation

namespace Coflux.Server
open FiniteMap StepMachine

structure RuntimeSession where
  (taskId accountId daemonId : String)
deriving DecidableEq

structure Binding where
  (sessionId taskId : String)

-- valid is what validControlId says, retained whether the entry passes all checks of its fields.
structure CatalogEntry extends Binding where
  (valid retained : Bool)

structure CatalogExit extends Binding where
  eventId : String
  exitCode : Int
  valid : Bool

structure AgentWorkspaceLocate where
  (path branch workspaceId : String)
  (sameRepo nameValid : Bool)

namespace Database

section
variable (db : Database)

def createTask (task : Task) : Option Database :=
  if (db.tasks.lookup task.id).isSome || task.sessionId.any (db.sessionTaken task.id) then none
  else some {db with tasks := db.tasks.insert task.id task}

def listTasksByWorkspace (workspaceId : String) : List Task :=
  ((entries db.tasks).map Prod.snd).filter fun task => task.workspaceId = workspaceId

def listRunningTasksByDaemon (daemonId : String) : List Task :=
  ((entries db.tasks).map Prod.snd).filter fun task => task.daemonId = daemonId && task.status = .running

def listDeletingProjectsByDaemon (daemonId : String) : List Project :=
  (db.listProjectsByDaemon daemonId).filter fun project => project.deleting

def moveTaskToWorkspace (now : Nat) (id accountId daemonId fromWorkspaceId : String) (target : Workspace) :
    Database × Option Task :=
  db.updateTaskWhere id
    (fun task => task.accountId = accountId && task.daemonId = daemonId && task.workspaceId = fromWorkspaceId)
    fun task => {task with workspaceId := target.id,projectId := target.projectId,updatedAt := now}

def moveTasksToWorkspace (now : Nat) (fromWorkspaceId : String) (target : Workspace) : Database × List Task :=
  let move := fun (task : Task) => {task with workspaceId := target.id,projectId := target.projectId,updatedAt := now}
  ({db with tasks := mapValues (fun _ task => if task.workspaceId = fromWorkspaceId then move task else task) db.tasks},
    (db.listTasksByWorkspace fromWorkspaceId).map move)

def removeIdleTaskIfSession (id accountId daemonId sessionId : String) : Database × Bool :=
  match (db.tasks.lookup id).filter fun task => sameSession accountId daemonId sessionId task && task.status = .idle with
  | some _ => (db.removeTask id,true)
  | none => (db,false)

end

end Database

section Transactions
variable (db : Database) (now : Nat)

def exitOutcome (daemonId accountId taskId sessionId : String) (exitCode : Int) : Option (Option Task) :=
  match db.claimActiveDevice daemonId accountId,
      (db.tasks.lookup taskId).filter fun task => task.accountId = accountId && task.daemonId = daemonId with
  | some _,some task =>
    let operation := db.operations.findLatestPreparedOperation task.accountId task.daemonId .sessionCreate task.id
    let preparedSessionId := operation.bind fun operation => metadataString operation.metadata "sessionId"
    let matchesCurrent := task.sessionId = some sessionId
    let matchesPendingCreate := !(task.sessionId.any (· != "")) && preparedSessionId = some sessionId
    if ¬ matchesCurrent && !matchesPendingCreate then none
    else if task.status = .exited && task.exitCode = some exitCode && !(task.sessionId.any (· != "")) then some none
    else
      some (db.updateTaskWhere task.id (fun _ => true) fun task =>
        {task with status := .exited,sessionId := none,exitCode := some exitCode,updatedAt := now}).2
  | _,_ => none

def usableWorkspace (workspaceId accountId daemonId : String) : Option Workspace :=
  match db.claimActiveDevice daemonId accountId,
      (db.workspaces.lookup workspaceId).filter fun workspace =>
        workspace.accountId = accountId && workspace.daemonId = daemonId with
  | some _,some workspace =>
    if isDirWorkspace workspace then some workspace
    else
      match (db.claimActiveProject workspace.projectId).filter fun project =>
          project.accountId = accountId && project.daemonId = daemonId && project.archivedAt.isNone with
      | some _ => some workspace
      | none => none
  | _,_ => none

def idleTask (workspace : Workspace) (taskId : String) (sessionId : Option String) : Task :=
  ⟨taskId,workspace.accountId,workspace.daemonId,workspace.projectId,workspace.id,.idle,sessionId,none,now⟩

def createTaskIn (accountId daemonId workspaceId taskId : String) : Database × Option Task :=
  match usableWorkspace db workspaceId accountId daemonId with
  | some workspace =>
    match db.createTask (idleTask now workspace taskId none) with
    | some created => (created,some (idleTask now workspace taskId none))
    | none => (db,none)
  | none => (db,none)

-- The oldest directory workspace of the device, or a new one.
def directoryWorkspace (accountId daemonId : String) : Option Workspace :=
  ((((entries db.workspaces).map Prod.snd).filter fun workspace =>
    workspace.daemonId = daemonId && workspace.accountId = accountId && isDirWorkspace workspace).insertionSort
      fun left right => left.createdAt < right.createdAt ∨ left.createdAt = right.createdAt ∧ left.id ≤ right.id).head?

def createTerminalAt (accountId daemonId path taskId workspaceId : String) : Database × Option Task :=
  match db.claimActiveDevice daemonId accountId with
  | none => (db,none)
  | some _ =>
    let ready := match directoryWorkspace db accountId daemonId with
      | some workspace => some (db,workspace)
      | none =>
        let workspace : Workspace := ⟨workspaceId,accountId,daemonId,"","~",path,"",false,now⟩
        (db.createWorkspace workspace).map fun created => (created,workspace)
    match ready with
    | none => (db,none)
    | some (tx,workspace) =>
      match tx.createTask (idleTask now workspace taskId none) with
      | some created => (created,some (idleTask now workspace taskId none))
      | none => (db,none)

def activeTerminals (workspaceId : String) : Nat :=
  ((db.listTasksByWorkspace workspaceId).filter fun task => task.status = .running).length

def sessionOperation (operationId accountId daemonId taskId sessionId : String) (targetVersion : Nat) (frame : List UInt8)
    (expiresAt : Nat) (initiator : List (String × MetadataValue)) : NewOperation where
  operationId := operationId
  accountId := accountId
  daemonId := daemonId
  kind := .sessionCreate
  targetId := some taskId
  targetVersion := some targetVersion
  frame := frame
  metadata := .object ([("taskId",.text taskId),("sessionId",.text sessionId)] ++ initiator)
  expiresAt := expiresAt

-- The task stays even if its operation is refused; the result says whether it was not.
def openTerminalIn (limit : Nat) (accountId daemonId workspaceId taskId : String) (operation : NewOperation) :
    Database × Option (Task × Bool) :=
  match usableWorkspace db workspaceId accountId daemonId with
  | some workspace =>
    if limit ≤ activeTerminals db workspace.id then (db,none)
    else
      let task := idleTask now workspace taskId none
      match db.createTask task with
      | some created =>
        let admitted := created.operations.createPreparedOperation now operation
        ({created with operations := admitted.1},some (task,admitted.2.isSome))
      | none => (db,none)
  | none => (db,none)

def terminalNewIn (limit : Nat) (daemon : Daemon) (origin : Binding) (workspaceId : String) (new : Binding) :
    Database × Option Task :=
  match (db.tasks.lookup origin.taskId).filter (Database.sameSession daemon.accountId daemon.daemonId origin.sessionId),
      usableWorkspace db workspaceId daemon.accountId daemon.daemonId with
  | some _,some workspace =>
    if limit ≤ activeTerminals db workspace.id then (db,none)
    else
      match db.createTask (idleTask now workspace new.taskId (some new.sessionId)) with
      | some created => (created,some (idleTask now workspace new.taskId (some new.sessionId)))
      | none => (db,none)
  | _,_ => (db,none)

section
variable (daemon : Daemon)

def agentProject (task : Task) : Option Project :=
  if task.accountId = daemon.accountId && task.daemonId = daemon.daemonId then
    (db.claimActiveProject task.projectId).filter fun project =>
      project.accountId = daemon.accountId && project.daemonId = daemon.daemonId
  else none

def locateTarget (project : Project) (value : AgentWorkspaceLocate) (workspaceId : String) :
    Option (Database × Workspace × Bool) :=
  if value.workspaceId != "" then
    ((db.workspaces.lookup value.workspaceId).filter fun workspace =>
      workspace.accountId = daemon.accountId && workspace.daemonId = daemon.daemonId &&
        workspace.projectId = project.id).map fun workspace => (db,workspace,false)
  else
    match (db.listWorkspacesByProject project.id).find? fun workspace => workspace.path = value.path with
    | some workspace => some (db,workspace,false)
    | none =>
      if value.sameRepo && value.nameValid then
        let workspace : Workspace :=
          ⟨workspaceId,daemon.accountId,daemon.daemonId,project.id,orElseText (some value.branch) (basename value.path),
            value.path,value.branch,false,now⟩
        (db.createWorkspace workspace).map fun created => (created,workspace,true)
      else none

def locateAgentWorkspace (originId : String) (originSession : Option String) (value : AgentWorkspaceLocate)
    (workspaceId : String) : Database × Option (Bool × Option Task) :=
  match db.claimActiveDevice daemon.daemonId daemon.accountId,
      (db.tasks.lookup originId).filter fun task => task.sessionId = originSession with
  | some _,some origin =>
    match (agentProject db daemon origin).filter fun project => project.archivedAt.isNone with
    | none => (db,none)
    | some project =>
      match locateTarget db now daemon project value workspaceId with
      | none => (db,none)
      | some (tx,target,created) =>
        if origin.workspaceId = target.id then (tx,some (created,none))
        else
          match tx.moveTaskToWorkspace now origin.id daemon.accountId daemon.daemonId origin.workspaceId target with
          | (moved,some task) => (moved,some (created,some task))
          | (_,none) => (db,none)
  | _,_ => (db,none)

def forgetAgentWorkspace (originId workspaceId : String) : Database × Option (List Task) :=
  match db.claimActiveDevice daemon.daemonId daemon.accountId,
      (db.tasks.lookup originId).bind (agentProject db daemon) with
  | some _,some project =>
    let workspaces := db.listWorkspacesByProject project.id
    match (workspaces.find? fun workspace => workspace.id = workspaceId).filter fun workspace =>
        workspace.accountId = daemon.accountId && workspace.daemonId = daemon.daemonId && !workspace.isMain,
        workspaces.find? fun workspace => workspace.isMain with
    | some target,some main =>
      let moved := db.moveTasksToWorkspace now target.id main
      (moved.1.removeWorkspace target.id,some moved.2)
    | _,_ => (db,none)
  | _,_ => (db,none)

end

section
variable (id accountId daemonId : String)

def removedTask (rejectRunning : Bool) : Option String :=
  match db.claimActiveDevice daemonId accountId,
      (db.tasks.lookup id).filter fun task => task.accountId = accountId && task.daemonId = daemonId with
  | some _,some current =>
    if rejectRunning && (current.status = .running || current.sessionId.any (· != "")) then none else some id
  | _,_ => none

def removedWithDirectory : Option (List String) :=
  match db.claimActiveDevice daemonId accountId,
      (db.workspaces.lookup id).filter fun workspace => workspace.accountId = accountId && workspace.daemonId = daemonId &&
        !workspace.isMain && isDirWorkspace workspace with
  | some _,some current => some (db.tasksWhere fun task => task.workspaceId = current.id)
  | _,_ => none

def removedWithProject : Option (List String) :=
  match db.claimActiveDevice daemonId accountId,
      (db.claimDeletingProject id).filter fun project => project.accountId = accountId && project.daemonId = daemonId with
  | some _,some _ =>
    let workspaces := db.listWorkspacesByProject id
    if workspaces.any fun workspace => !workspace.isMain then none
    else some (workspaces.flatMap fun workspace => db.tasksWhere fun task => task.workspaceId = workspace.id)
  | _,_ => none

end

def removedWithDevice (daemonId accountId : String) : Option (List String) :=
  (db.claimActiveDevice daemonId accountId).map fun _ => db.tasksWhere fun task => task.daemonId = daemonId

end Transactions

-- What is left to do of a catalog. The first of its entries is in hand.
structure CatalogWork where
  daemon : Daemon
  sessions : List Binding
  exits : List CatalogExit
  absent : List Binding

inductive AfterFinalize where
  | report (effect : OperationEffect) (taskId : Option String)
  | register (daemon : Daemon) (rest : List String)
  | done

-- What an asynchronous handler waits for. The ones that begin with next, liveRan, exitRan,
-- absentRan and opened wait for no statement: an inner asynchronous function has returned.
inductive Job where
  | nextEntry (work : CatalogWork)
  | liveRead (work : CatalogWork) (entry : Binding)
  | liveRun (work : CatalogWork) (entry : Binding)
  | liveRan (work : CatalogWork) (entry : Binding)
  | exitRun (work : CatalogWork) (exit : CatalogExit)
  | exitRan (work : CatalogWork) (exit : CatalogExit)
  | absentRun (work : CatalogWork) (entry : Binding)
  | absentRan (work : CatalogWork) (entry : Binding)
  | sessionStarted (daemon : Daemon) (entry : Binding)
  | sessionExit (daemon : Daemon) (entry : Binding) (exitCode : Int)
  | nextAlive (daemon : Daemon) (alive : List Binding)
  | aliveRead (daemon : Daemon) (alive : List Binding) (entry : Binding)
  | aliveRun (daemon : Daemon) (alive : List Binding) (entry : Binding)
  | reportRead (daemon : Daemon) (report : OperationReport) (payload : ResultPayload)
  | converge (daemon : Daemon) (report : OperationReport) (payload : ResultPayload) (taskId : Option String)
  | convergeFail (daemon : Daemon) (operationId text : String)
  | reportPush (effect : OperationEffect) (taskId : Option String)
  | finalizeProject (projectId accountId daemonId : String) (after : AfterFinalize)
  | createTask (accountId daemonId workspaceId taskId : String)
  | createTerminal (accountId daemonId path taskId workspaceId : String)
  | openTerminal (accountId daemonId workspaceId taskId : String) (operation : NewOperation)
  | opened (task : Task)
  | discard (taskId : String)
  | terminalNew (daemon : Daemon) (origin : Binding) (workspaceId : String) (new : Binding)
  | undoNew (daemon : Daemon) (new : Binding) (announce : Bool)
  | locate (daemon : Daemon) (originId : String) (originSession : Option String) (value : AgentWorkspaceLocate)
      (workspaceId : String)
  | locatePush (task : Option Task)
  | forget (daemon : Daemon) (originId workspaceId : String)
  | removeTask (taskId accountId daemonId : String) (rejectRunning : Bool)
  | removeDirWorkspace (workspaceId accountId daemonId : String)
  | closeSessions (accountId daemonId reading : String) (todo : List String) (found : List Binding)
  | register (daemon : Daemon)
  | registerRestore (daemon : Daemon)
  | registerProjects (daemon : Daemon)
  | registerTasks (daemon : Daemon)
  | closeConnection (daemon : Daemon)
  | removeDevice (daemonId accountId : String)
  | revokeDevice (daemonId accountId : String) (taskIds : List String)

abbrev Job.Result : Job → Type
  | .liveRead _ _ | .liveRun _ _ | .liveRan _ _ | .absentRun _ _ | .absentRan _ _ => Option Task
  | .exitRun _ _ | .exitRan _ _ => Option (Option Task)
  | .sessionStarted _ _ | .sessionExit _ _ _ | .aliveRead _ _ _ | .aliveRun _ _ _ => Option Task
  | .reportRead _ _ _ => Option OperationRecord
  | .converge _ _ _ _ => Except ConvergenceFailure (Option OperationEffect)
  | .finalizeProject _ _ _ _ => Option (List String)
  | .createTask _ _ _ _ | .createTerminal _ _ _ _ _ => Option Task
  | .openTerminal _ _ _ _ _ => Option (Task × Bool)
  | .terminalNew _ _ _ _ => Option Task
  | .undoNew _ _ _ => Bool
  | .locate _ _ _ _ _ => Option (Bool × Option Task)
  | .forget _ _ _ => Option (List Task)
  | .removeTask _ _ _ _ => Option String
  | .removeDirWorkspace _ _ _ => Option (List String)
  | .closeSessions _ _ _ _ _ => List Task
  | .register _ => Bool
  | .registerProjects _ => List String
  | .registerTasks _ => List Binding
  | .removeDevice _ _ => Option (List String)
  | _ => Unit

def Job.creates : Job → Option String
  | .createTask _ _ _ taskId | .createTerminal _ _ _ taskId _ | .openTerminal _ _ _ taskId _ => some taskId
  | .terminalNew _ _ _ new => some new.taskId
  | _ => none

def executeJob (limit now : Nat) (db : Database) : (job : Job) → Database × job.Result
  | .liveRead _ entry => (db,db.tasks.lookup entry.taskId)
  | .liveRun work entry =>
    db.runTaskIfSession now entry.taskId work.daemon.accountId work.daemon.daemonId entry.sessionId
  | .exitRun work exit =>
    (finishExit db now work.daemon.daemonId work.daemon.accountId exit.taskId exit.sessionId exit.exitCode,
      exitOutcome db now work.daemon.daemonId work.daemon.accountId exit.taskId exit.sessionId exit.exitCode)
  | .absentRun work entry =>
    db.exitRunningTaskIfSession now entry.taskId work.daemon.accountId work.daemon.daemonId entry.sessionId
  | .sessionStarted daemon entry =>
    db.runTaskIfSession now entry.taskId daemon.accountId daemon.daemonId entry.sessionId
  | .sessionExit daemon entry exitCode =>
    db.exitTaskIfSession now entry.taskId daemon.accountId daemon.daemonId entry.sessionId exitCode
  | .aliveRead _ _ entry => (db,db.tasks.lookup entry.taskId)
  | .aliveRun daemon _ entry => db.runTaskIfSession now entry.taskId daemon.accountId daemon.daemonId entry.sessionId
  | .reportRead _ report _ => (db,db.operations.lookup report.operationId)
  | .converge daemon report payload _ =>
    match converge db now daemon.daemonId daemon.accountId report payload with
    | .ok (after,effect) => (after,.ok effect)
    | .error failure => (db,.error failure)
  | .convergeFail daemon operationId text =>
    ({db with
      operations := (db.operations.failPreparedOperationConvergence now operationId daemon.daemonId text).1},())
  | .finalizeProject projectId accountId daemonId _ =>
    (finalizeDeletingProject db now projectId accountId daemonId,removedWithProject db projectId accountId daemonId)
  | .createTask accountId daemonId workspaceId taskId => createTaskIn db now accountId daemonId workspaceId taskId
  | .createTerminal accountId daemonId path taskId workspaceId =>
    createTerminalAt db now accountId daemonId path taskId workspaceId
  | .openTerminal accountId daemonId workspaceId taskId operation =>
    openTerminalIn db now limit accountId daemonId workspaceId taskId operation
  | .discard taskId => (db.removeTask taskId,())
  | .terminalNew daemon origin workspaceId new => terminalNewIn db now limit daemon origin workspaceId new
  | .undoNew daemon new _ => db.removeIdleTaskIfSession new.taskId daemon.accountId daemon.daemonId new.sessionId
  | .locate daemon originId originSession value workspaceId =>
    locateAgentWorkspace db now daemon originId originSession value workspaceId
  | .forget daemon originId workspaceId => forgetAgentWorkspace db now daemon originId workspaceId
  | .removeTask taskId accountId daemonId rejectRunning =>
    (removeTaskRecord db now taskId accountId daemonId rejectRunning,removedTask db taskId accountId daemonId rejectRunning)
  | .removeDirWorkspace workspaceId accountId daemonId =>
    (removeDirWorkspace db now workspaceId accountId daemonId,removedWithDirectory db workspaceId accountId daemonId)
  | .closeSessions _ _ reading _ _ => (db,db.listTasksByWorkspace reading)
  | .register daemon => (db,(db.claimActiveDevice daemon.daemonId daemon.accountId).isSome)
  | .registerProjects daemon =>
    (db,((db.listDeletingProjectsByDaemon daemon.daemonId).filter fun project =>
      project.accountId = daemon.accountId).map Project.id)
  | .registerTasks daemon =>
    (db,(db.listRunningTasksByDaemon daemon.daemonId).filterMap fun task =>
      if task.accountId = daemon.accountId then
        (task.sessionId.filter (· != "")).map fun sessionId => ⟨sessionId,task.id⟩
      else none)
  | .removeDevice daemonId accountId => (removeDevice db now daemonId accountId,removedWithDevice db daemonId accountId)
  | .nextEntry _ | .nextAlive _ _ | .reportPush _ _ | .opened _ | .locatePush _ | .registerRestore _ | .closeConnection _
  | .revokeDevice _ _ _ => (db,())
  -- These have got their result already.
  | .liveRan _ _ | .absentRan _ _ | .exitRan _ _ => (db,none)

inductive Stage where
  | waiting (job : Job)
  | sent (job : Job)
  | answered (job : Job) (result : job.Result)

-- An entity whose removal cancels what a handler was about to tell.
structure EffectGuard where
  id : String
  cancelled : Bool

-- The connection whose queue a handler holds up, its gate, its guards.
structure Call where
  queue : Option Nat
  gate : Option String
  (task device : Option EffectGuard)
  stage : Stage

-- With whether the task's taskRemoved had been broadcast before.
structure Shown where
  taskId : String
  (mapped late : Bool)
deriving DecidableEq

-- With whether its task was running on the session still.
structure HandledExit where
  sessionId : String
  running : Bool
deriving DecidableEq

-- From created on, the history that the statements below are about.
structure HubState where
  db : Database
  now : Nat
  shuttingDown : Bool
  sessions : Table String RuntimeSession
  daemons : Table String Daemon
  connections : Nat
  requests : Table Nat (List Binding)
  gates : Table String Nat
  calls : Table Nat Call
  serial : Nat
  (created retired removed : List String)
  shown : List Shown
  handled : List HandledExit

namespace HubState

section
variable (s : HubState)

def isCurrent (daemon : Daemon) : Bool :=
  !s.shuttingDown && s.daemons.lookup daemon.daemonId = some daemon

def idle (connection : Nat) : Bool :=
  (entries s.calls).all fun entry => entry.2.queue != some connection

-- Broadcasts, mappings and guards

def emitTask (task : Task) : HubState :=
  {s with shown := ⟨task.id,false,s.removed.contains task.id⟩ :: s.shown}

def emitTasks (tasks : List Task) : HubState := tasks.foldl emitTask s

def dropSession (sessionId : String) : HubState := {s with sessions := s.sessions.erase sessionId}

section
variable (sessionId taskId accountId daemonId : String)

def sessionHasIdentity : Bool :=
  s.sessions.lookup sessionId = some ⟨taskId,accountId,daemonId⟩

-- A session of another account or device is left alone; that of another task is replaced.
def installSessionRuntime : HubState :=
  if (s.sessions.lookup sessionId).any fun current => current.accountId != accountId || current.daemonId != daemonId then s
  else
    {s with
      sessions := s.sessions.insert sessionId ⟨taskId,accountId,daemonId⟩
      shown := ⟨taskId,true,s.removed.contains taskId⟩ :: s.shown}

end

def install (entry : Binding) (daemon : Daemon) : HubState :=
  s.installSessionRuntime entry.sessionId entry.taskId daemon.accountId daemon.daemonId

def cancel (ids : List String) (guard : Option EffectGuard) : Option EffectGuard :=
  guard.map fun guard => {guard with cancelled := guard.cancelled || ids.contains guard.id}

section
variable (taskIds : List String)

def cancelTaskEffects : HubState :=
  {s with calls := mapValues (fun _ call => {call with task := cancel taskIds call.task}) s.calls}

def cancelDeviceEffects (daemonId : String) : HubState :=
  {s with calls := mapValues (fun _ call => {call with device := cancel [daemonId] call.device}) s.calls}

def retireTaskRuntimes (accountId daemonId : String) : HubState :=
  let s := s.cancelTaskEffects taskIds
  {s with
    sessions := keep (fun _ runtime =>
      !(taskIds.contains runtime.taskId && runtime.accountId = accountId && runtime.daemonId = daemonId)) s.sessions}

def retire (accountId daemonId : String) : HubState :=
  {s.retireTaskRuntimes taskIds accountId daemonId with retired := taskIds ++ s.retired}

def announceRemoved : HubState := {s with removed := taskIds ++ s.removed}

end

-- Calls

def start (call : Call) : HubState :=
  {s with calls := s.calls.insert s.serial call,serial := s.serial + 1}

def becomes (n : Nat) (call : Call) : HubState := {s with calls := s.calls.insert n call}

def release (call : Call) : HubState :=
  match call.gate with
  | some gate => {s with gates := s.gates.erase gate}
  | none => s

def finish (n : Nat) (call : Call) : HubState :=
  {s.release call with calls := s.calls.erase n}

def leaves (n : Nat) (call : Call) (stage : Stage) : HubState :=
  (s.release call).becomes n {call with gate := none,stage := stage}

def nextEntry (n : Nat) (call : Call) (work : CatalogWork) : HubState :=
  s.becomes n {call with task := none,stage := .answered (.nextEntry work) ()}

def nextAlive (n : Nat) (call : Call) (daemon : Daemon) (alive : List Binding) : HubState :=
  s.leaves n {call with task := none} (.answered (.nextAlive daemon alive) ())

end

end HubState

def guarded (taskId : String) : Option EffectGuard := some ⟨taskId,false⟩

def Call.cancelled (call : Call) : Bool := call.task.any EffectGuard.cancelled

def Call.deviceCancelled (call : Call) : Bool := call.device.any EffectGuard.cancelled

def ofDaemon (daemon : Daemon) (task : Task) : Bool := task.accountId = daemon.accountId && task.daemonId = daemon.daemonId

def isRunningOn (daemon : Daemon) (sessionId : String) (task : Task) : Bool :=
  ofDaemon daemon task && task.status = .running && task.sessionId = some sessionId

namespace HubState
variable (s : HubState) (n : Nat) (call : Call)

def handleExit (sessionId : String) (running : Bool) : HubState := {s with handled := ⟨sessionId,running⟩ :: s.handled}

-- Inside of the gate a handler looks first whether its connection is still the current one.
def enter (job : Job) : HubState :=
  let sent := s.becomes n {call with stage := .sent job}
  match job with
  | .liveRun work _ | .exitRun work _ | .absentRun work _ => if s.isCurrent work.daemon then sent else s.finish n call
  | .sessionStarted daemon entry =>
    if s.isCurrent daemon && (s.sessions.lookup entry.sessionId).all
        fun current => current = ⟨entry.taskId,daemon.accountId,daemon.daemonId⟩ then sent
    else s.finish n call
  | .sessionExit daemon _ _ | .reportRead daemon _ _ | .terminalNew daemon _ _ _ =>
    if s.isCurrent daemon then sent else s.finish n call
  | .aliveRead daemon alive _ =>
    if s.isCurrent daemon then if call.cancelled then s.nextAlive n call daemon alive else sent
    else s.finish n call
  | .closeConnection daemon =>
    if s.isCurrent daemon then {sent with daemons := s.daemons.erase daemon.daemonId} else s.finish n call
  | .register _ => if s.shuttingDown then s.finish n call else sent
  | _ => sent

section
variable (work : CatalogWork)

def beginEntry : HubState :=
  match work.sessions,work.exits,work.absent with
  | entry :: rest,_,_ =>
    s.becomes n {call with task := guarded entry.taskId,stage := .sent (.liveRead {work with sessions := rest} entry)}
  | [],exit :: rest,_ =>
    s.becomes n {call with
      gate := some work.daemon.daemonId,task := guarded exit.taskId
      stage := .waiting (.exitRun {work with exits := rest} exit)}
  | [],[],entry :: rest =>
    s.becomes n {call with
      gate := some work.daemon.daemonId,task := guarded entry.taskId
      stage := .waiting (.absentRun {work with absent := rest} entry)}
  | [],[],[] => {s with requests := s.requests.erase work.daemon.connection}.finish n call

def liveRead (entry : Binding) (task : Option Task) : HubState :=
  if !s.isCurrent work.daemon then s.finish n call
  else
    match task.filter fun task => !call.cancelled && ofDaemon work.daemon task && task.sessionId = some entry.sessionId with
    | none => s.nextEntry n call work
    | some task =>
      if task.status != .running then
        s.becomes n {call with gate := some work.daemon.daemonId,stage := .waiting (.liveRun work entry)}
      else (s.install entry work.daemon).nextEntry n call work

def liveRan (entry : Binding) (updated : Option Task) : HubState :=
  if !s.isCurrent work.daemon then s.finish n call
  else
    match updated.filter fun _ => !call.cancelled with
    | none => s.nextEntry n call work
    | some task => ((s.install entry work.daemon).emitTask task).nextEntry n call work

def exitRan (exit : CatalogExit) (outcome : Option (Option Task)) : HubState :=
  if !s.isCurrent work.daemon then s.finish n call
  else if call.cancelled then s.nextEntry n call work
  else
    let told := match outcome with
      | some (some task) => s.emitTask task
      | _ => s
    let dropped :=
      if s.sessionHasIdentity exit.sessionId exit.taskId work.daemon.accountId work.daemon.daemonId then
        told.dropSession exit.sessionId
      else told
    dropped.nextEntry n call work

def absentRan (entry : Binding) (updated : Option Task) : HubState :=
  if !s.isCurrent work.daemon then s.finish n call
  else
    match updated.filter fun _ => !call.cancelled with
    | none => s.nextEntry n call work
    | some task =>
      let dropped :=
        if s.sessionHasIdentity entry.sessionId entry.taskId work.daemon.accountId work.daemon.daemonId then
          s.dropSession entry.sessionId
        else s
      (dropped.emitTask task).nextEntry n call work

end

section
variable (daemon : Daemon)

def sessionStarted (entry : Binding) (updated : Option Task) : HubState :=
  match updated.filter fun _ => s.isCurrent daemon && !call.cancelled &&
      (s.sessions.lookup entry.sessionId).all fun current => current = ⟨entry.taskId,daemon.accountId,daemon.daemonId⟩ with
  | some task => (s.emitTask task).finish n call
  | none => s.finish n call

def sessionExit (entry : Binding) (updated : Option Task) : HubState :=
  if !s.isCurrent daemon then s.finish n call
  else
    let running := (s.db.tasks.lookup entry.taskId).any (isRunningOn daemon entry.sessionId)
    match updated.filter fun _ => !call.cancelled &&
        s.sessionHasIdentity entry.sessionId entry.taskId daemon.accountId daemon.daemonId with
    | none => (s.handleExit entry.sessionId running).finish n call
    | some task => (((s.emitTask task).dropSession entry.sessionId).handleExit entry.sessionId running).finish n call

def aliveRead (alive : List Binding) (entry : Binding) (task : Option Task) : HubState :=
  if !s.isCurrent daemon then s.finish n call
  else
    match task.filter fun task => !call.cancelled && ofDaemon daemon task && task.sessionId = some entry.sessionId with
    | none => s.nextAlive n call daemon alive
    | some task =>
      if task.status != .running then s.becomes n {call with stage := .sent (.aliveRun daemon alive entry)}
      else (s.install entry daemon).nextAlive n call daemon alive

def aliveRun (alive : List Binding) (entry : Binding) (updated : Option Task) : HubState :=
  if !s.isCurrent daemon then s.finish n call
  else
    match updated.filter fun _ => !call.cancelled with
    | none => s.nextAlive n call daemon alive
    | some task => ((s.install entry daemon).emitTask task).nextAlive n call daemon alive

-- Only session.create has a task that is known before.
def reportRead (report : OperationReport) (payload : ResultPayload) (known : Option OperationRecord) :
    HubState :=
  match known.filter fun known => known.accountId = daemon.accountId && known.daemonId = daemon.daemonId && !known.completed with
  | none => s.finish n call
  | some known =>
    let taskId := if known.kind = .sessionCreate then metadataString known.metadata "taskId" else none
    s.becomes n {call with
      task := taskId.bind guarded,device := guarded daemon.daemonId
      stage := .sent (.converge daemon report payload taskId)}

def reportInstall (effect : OperationEffect) (taskId : Option String) : HubState :=
  match effect.task,effect.sessionId with
  | some task,some sessionId =>
    if call.cancelled || some task.id != taskId then s.finish n call
    else
      ((s.installSessionRuntime sessionId task.id effect.accountId effect.daemonId).emitTask task).finish n call
  | _,_ => s.finish n call

def reportTail (effect : OperationEffect) (taskId : Option String) : HubState :=
  match effect.deletingProjectId with
  | some projectId =>
    s.becomes n {call with
      stage := .sent (.finalizeProject projectId effect.accountId effect.daemonId (.report effect taskId))}
  | none => s.reportInstall n call effect taskId

def converged (effect : OperationEffect) (taskId : Option String) : HubState :=
  let removedIds := effect.removedTaskIds.getD []
  let retired := if removedIds.isEmpty then s else s.retire removedIds effect.accountId effect.daemonId
  if !s.isCurrent daemon || call.deviceCancelled then retired.finish n call
  else
    let told := retired.announceRemoved removedIds
    -- The call as it is after the retirement may have cancelled it.
    let call := (retired.calls.lookup n).getD call
    if effect.project.isSome || effect.workspace.isSome || effect.removedWorkspaceId.isSome then
      told.becomes n {call with stage := .sent (.reportPush effect taskId)}
    else told.reportTail n call effect taskId

def convergeDone (report : OperationReport) (taskId : Option String)
    (result : Except ConvergenceFailure (Option OperationEffect)) : HubState :=
  match result with
  | .ok (some effect) => s.converged n call daemon effect taskId
  | .ok none => s.finish n call
  | .error (.convergence text) => s.becomes n {call with stage := .sent (.convergeFail daemon report.operationId text)}
  | .error .database => s.finish n call

def registerNext (projectIds : List String) : HubState :=
  match projectIds with
  | projectId :: rest =>
    s.becomes n {call with
      stage := .sent (.finalizeProject projectId daemon.accountId daemon.daemonId (.register daemon rest))}
  | [] => s.becomes n {call with stage := .sent (.registerTasks daemon)}

end

section
variable (accountId daemonId : String)

def finalized (after : AfterFinalize) (removedIds : Option (List String)) : HubState :=
  let told := match removedIds with
    | some ids => (s.retire ids accountId daemonId).announceRemoved ids
    | none => s
  let call := (told.calls.lookup n).getD call
  match after with
  | .report effect taskId => told.reportInstall n call effect taskId
  | .register daemon rest => if told.isCurrent daemon then told.registerNext n call daemon rest else told.finish n call
  | .done => told.finish n call

def taskCreated (task : Option Task) : HubState :=
  match task.filter fun _ => !call.deviceCancelled && !call.cancelled with
  | some task => (s.emitTask task).finish n call
  | none => s.finish n call

def terminalOpened (opened : Option (Task × Bool)) (accepted : Bool) : HubState :=
  match opened with
  | none => s.finish n call
  | some (task,prepared) =>
    let unguarded := {call with task := none,device := none}
    if accepted && prepared && !call.cancelled && !call.deviceCancelled then
      s.becomes n {unguarded with stage := .answered (.opened task) ()}
    else s.becomes n {unguarded with stage := .sent (.discard task.id)}

def terminalNew (daemon : Daemon) (new : Binding) (task : Option Task) (delivered : Bool) : HubState :=
  match task.filter fun _ => !call.deviceCancelled && !call.cancelled with
  | none => s.finish n call
  | some task =>
    if !s.isCurrent daemon then s.becomes n {call with stage := .sent (.undoNew daemon new false)}
    else if delivered then ((s.install new daemon).emitTask task).finish n call
    else s.becomes n {call with stage := .sent (.undoNew daemon new true)}

def newUndone (new : Binding) (announce gone : Bool) : HubState :=
  if announce && gone then
    ({s.cancelTaskEffects [new.taskId] with retired := new.taskId :: s.retired}.announceRemoved [new.taskId]).finish n call
  else s.finish n call

def located (outcome : Option (Bool × Option Task)) : HubState :=
  match outcome with
  | some (true,task) => s.becomes n {call with stage := .sent (.locatePush task)}
  | some (false,task) => (s.emitTasks task.toList).finish n call
  | none => s.finish n call

def taskRemoved (taskIds : List String) : HubState :=
  ((s.retire taskIds accountId daemonId).announceRemoved taskIds).finish n call

def sessionsRead (todo : List String) (found : List Binding) (tasks : List Task) : HubState :=
  let found := found ++ tasks.filterMap fun task =>
    (task.sessionId.filter (· != "")).map fun sessionId => ⟨sessionId,task.id⟩
  match todo with
  | next :: rest => s.becomes n {call with stage := .sent (.closeSessions accountId daemonId next rest found)}
  | [] =>
    (found.foldl (fun s entry =>
      if s.sessionHasIdentity entry.sessionId entry.taskId accountId daemonId then s.dropSession entry.sessionId
      else s) s).finish n call

end

def registered (daemon : Daemon) (claimed opened : Bool) : HubState :=
  if claimed && !s.shuttingDown && opened then
    {s with daemons := s.daemons.insert daemon.daemonId daemon}.becomes n {call with stage := .sent (.registerRestore daemon)}
  else s.finish n call

def deviceRemoved (daemonId accountId : String) (taskIds : Option (List String)) : HubState :=
  match taskIds with
  | none => s.finish n call
  | some ids =>
    let running := ((entries s.sessions).filter fun entry =>
      entry.2.accountId = accountId && entry.2.daemonId = daemonId).map fun entry => entry.2.taskId
    let s := {(s.cancelDeviceEffects daemonId).retireTaskRuntimes (ids ++ running) accountId daemonId with
      retired := ids ++ s.retired}
    s.becomes n {call with stage := .sent (.revokeDevice daemonId accountId ids)}

def deviceRevoked (daemonId accountId : String) (taskIds : List String) : HubState :=
  if s.shuttingDown then s.finish n call
  else
    ({s with
      daemons := s.daemons.erase daemonId
      sessions := keep (fun _ runtime => !(runtime.daemonId = daemonId && runtime.accountId = accountId)) s.sessions
      }.announceRemoved taskIds).finish n call

-- The choice is what is outside of the hub: sockets and the service of the prepared operations.
def resume (choice : Bool) : (job : Job) → job.Result → HubState
  | .nextEntry work,_ => s.beginEntry n call work
  | .liveRead work entry,task => s.liveRead n call work entry task
  | .liveRun work entry,updated =>
    if s.isCurrent work.daemon then s.leaves n call (.answered (.liveRan work entry) updated) else s.finish n call
  | .liveRan work entry,updated => s.liveRan n call work entry updated
  | .exitRun work exit,outcome =>
    if s.isCurrent work.daemon then s.leaves n call (.answered (.exitRan work exit) outcome) else s.finish n call
  | .exitRan work exit,outcome => s.exitRan n call work exit outcome
  | .absentRun work entry,updated =>
    if s.isCurrent work.daemon then s.leaves n call (.answered (.absentRan work entry) updated) else s.finish n call
  | .absentRan work entry,updated => s.absentRan n call work entry updated
  | .sessionStarted daemon entry,updated => s.sessionStarted n call daemon entry updated
  | .sessionExit daemon entry _,updated => s.sessionExit n call daemon entry updated
  | .nextAlive daemon alive,_ =>
    match alive with
    | entry :: rest =>
      s.becomes n {call with
        gate := some daemon.daemonId,task := guarded entry.taskId,stage := .waiting (.aliveRead daemon rest entry)}
    | [] => s.finish n call
  | .aliveRead daemon alive entry,task => s.aliveRead n call daemon alive entry task
  | .aliveRun daemon alive entry,updated => s.aliveRun n call daemon alive entry updated
  | .reportRead daemon report payload,known => s.reportRead n call daemon report payload known
  | .converge daemon report _ taskId,result => s.convergeDone n call daemon report taskId result
  | .reportPush effect taskId,_ => s.reportTail n call effect taskId
  | .finalizeProject _ accountId daemonId after,removedIds => s.finalized n call accountId daemonId after removedIds
  | .createTask _ _ _ _,task | .createTerminal _ _ _ _ _,task => s.taskCreated n call task
  | .openTerminal _ _ _ _ _,opened => s.terminalOpened n call opened choice
  | .opened task,_ => (s.emitTask task).finish n call
  | .terminalNew daemon _ _ new,task => s.terminalNew n call daemon new task choice
  | .undoNew _ new announce,gone => s.newUndone n call new announce gone
  | .locate _ _ _ _ _,outcome => s.located n call outcome
  | .locatePush task,_ => (s.emitTasks task.toList).finish n call
  | .forget _ _ _,moved => (s.emitTasks (moved.getD [])).finish n call
  | .removeTask _ accountId daemonId _,gone =>
    match gone with
    | some taskId => s.taskRemoved n call accountId daemonId [taskId]
    | none => s.finish n call
  | .removeDirWorkspace _ accountId daemonId,gone =>
    match gone with
    | some taskIds => s.taskRemoved n call accountId daemonId taskIds
    | none => s.finish n call
  | .closeSessions accountId daemonId _ todo found,tasks => s.sessionsRead n call accountId daemonId todo found tasks
  | .register daemon,claimed => s.registered n call daemon claimed choice
  | .registerRestore daemon,_ =>
    if s.isCurrent daemon then s.becomes n {call with stage := .sent (.registerProjects daemon)} else s.finish n call
  | .registerProjects daemon,projectIds => s.registerNext n call daemon projectIds
  | .registerTasks daemon,candidates =>
    if s.isCurrent daemon then
      {s with requests := s.requests.insert daemon.connection candidates}.finish n call
    else s.finish n call
  | .removeDevice daemonId accountId,gone => s.deviceRemoved n call daemonId accountId gone
  | .revokeDevice daemonId accountId taskIds,_ => s.deviceRevoked n call daemonId accountId taskIds
  | .convergeFail _ _ _,_ | .discard _,_ | .closeConnection _,_ => s.finish n call

end HubState

inductive DaemonMessage where
  | resync (alive : List Binding)
  | catalog (sessions : List CatalogEntry) (exits : List CatalogExit)
  | report (report : OperationReport) (payload : ResultPayload)
  | sessionStarted (entry : Binding)
  | sessionExit (sessionId : String) (exitCode : Int)
  | terminalNew (origin : Binding) (workspaceId : String) (new : Binding)
  | locate (originId : String) (originSession : Option String) (value : AgentWorkspaceLocate) (workspaceId : String)
  | forget (originId workspaceId : String)

inductive HubAction where
  | message (daemon : Daemon) (message : DaemonMessage)
  | connect (daemonId accountId : String)
  | close (daemon : Daemon)
  | createTask (accountId daemonId workspaceId taskId : String)
  | createTerminal (accountId daemonId path taskId workspaceId : String)
  | openTerminal (accountId daemonId workspaceId taskId sessionId operationId : String) (frame : List UInt8) (expiresAt : Nat)
  | startTask (taskId sessionId operationId : String) (frame : List UInt8) (expiresAt : Nat)
  | removeTask (taskId accountId daemonId : String) (rejectRunning : Bool)
  | removeDirWorkspace (workspaceId accountId daemonId : String)
  | closeSessions (accountId daemonId workspaceId : String) (more : List String)
  | finalizeProject (projectId accountId daemonId : String)
  | removeDevice (daemonId accountId : String)
  | prepare (operation : NewOperation)
  | install (operationId daemonId : String) (ok : Bool) (error : Option String)
  | sweep (time : Nat)
  | purge (time : Nat)
  | enroll (daemonId : String) (device : Device)
  | edit (projects : Table String Project) (workspaces : Table String Workspace)
  | acquire (n : Nat)
  | query (n : Nat)
  | fail (n : Nat)
  | resume (n : Nat) (choice : Bool)
  | wait (duration : Nat)
  | shutdown

def liveEntries : List String → List CatalogEntry → List Binding
  | _,[] => []
  | seen,entry :: rest =>
    if entry.valid && entry.retained && !seen.contains entry.sessionId then
      entry.toBinding :: liveEntries (entry.sessionId :: seen) rest
    else liveEntries seen rest

def exitEntries : List String → List CatalogExit → List CatalogExit
  | _,[] => []
  | seen,exit :: rest =>
    if exit.valid && !seen.contains exit.eventId then exit :: exitEntries (exit.eventId :: seen) rest
    else exitEntries seen rest

def startable (db : Database) (taskId : String) : Option Task :=
  (db.tasks.lookup taskId).filter fun task => task.status != .running && !(task.sessionId.any (· != "")) &&
    (usableWorkspace db task.workspaceId task.accountId task.daemonId).isSome

namespace HubState

def handleMessage (s : HubState) (daemon : Daemon) : DaemonMessage → Option HubState
  | .resync alive => some (s.start ⟨some daemon.connection,none,none,none,.answered (.nextAlive daemon alive) ()⟩)
  | .catalog sessions exits =>
    match s.requests.lookup daemon.connection with
    | none => some s
    | some candidates =>
      let reported := (sessions.filter CatalogEntry.valid).map fun entry => entry.sessionId
      let work : CatalogWork := {
        daemon := daemon
        sessions := liveEntries [] sessions
        exits := exitEntries [] exits
        absent := candidates.filter fun entry => !reported.contains entry.sessionId}
      some (s.start ⟨some daemon.connection,none,none,none,.answered (.nextEntry work) ()⟩)
  | .report report payload =>
    some (s.start ⟨some daemon.connection,some daemon.daemonId,none,none,.waiting (.reportRead daemon report payload)⟩)
  | .sessionStarted entry =>
    some (s.start ⟨some daemon.connection,some daemon.daemonId,guarded entry.taskId,none,
      .waiting (.sessionStarted daemon entry)⟩)
  -- Without a mapping there is no task to be told of the exit.
  | .sessionExit sessionId exitCode =>
    match (s.sessions.lookup sessionId).filter fun runtime =>
        runtime.daemonId = daemon.daemonId && runtime.accountId = daemon.accountId with
    | none =>
      some (s.handleExit sessionId ((entries s.db.tasks).any fun entry => isRunningOn daemon sessionId entry.2))
    | some runtime =>
      some (s.start ⟨some daemon.connection,some daemon.daemonId,guarded runtime.taskId,none,
        .waiting (.sessionExit daemon ⟨sessionId,runtime.taskId⟩ exitCode)⟩)
  | .terminalNew origin workspaceId new =>
    some (s.start ⟨some daemon.connection,some daemon.daemonId,guarded new.taskId,guarded daemon.daemonId,
      .waiting (.terminalNew daemon origin workspaceId new)⟩)
  | .locate originId originSession value workspaceId =>
    some (s.start ⟨some daemon.connection,none,none,none,.sent (.locate daemon originId originSession value workspaceId)⟩)
  | .forget originId workspaceId =>
    some (s.start ⟨some daemon.connection,none,none,none,.sent (.forget daemon originId workspaceId)⟩)

def withOperations (s : HubState) (operations : Operations) : HubState := {s with db := {s.db with operations := operations}}

end HubState

-- Connections are numbered.
def hubStep (limit : Nat) (s : HubState) : HubAction → Option HubState
  | .message daemon message =>
    if s.daemons.lookup daemon.daemonId = some daemon && s.idle daemon.connection then s.handleMessage daemon message
    else none
  | .connect daemonId accountId =>
    some ({s with connections := s.connections + 1}.start
      ⟨none,some daemonId,none,none,.waiting (.register ⟨daemonId,s.connections,accountId⟩)⟩)
  | .close daemon =>
    if s.idle daemon.connection then
      some (s.start ⟨some daemon.connection,some daemon.daemonId,none,none,.waiting (.closeConnection daemon)⟩)
    else none
  | .createTask accountId daemonId workspaceId taskId =>
    some (s.start ⟨none,none,guarded taskId,guarded daemonId,.sent (.createTask accountId daemonId workspaceId taskId)⟩)
  | .createTerminal accountId daemonId path taskId workspaceId =>
    some (s.start
      ⟨none,none,guarded taskId,guarded daemonId,.sent (.createTerminal accountId daemonId path taskId workspaceId)⟩)
  | .openTerminal accountId daemonId workspaceId taskId sessionId operationId frame expiresAt =>
    some (s.start ⟨none,none,guarded taskId,guarded daemonId,.sent (.openTerminal accountId daemonId workspaceId taskId
      (sessionOperation operationId accountId daemonId taskId sessionId s.now frame expiresAt
        [("initiator",.text "server")]))⟩)
  | .startTask taskId sessionId operationId frame expiresAt =>
    (startable s.db taskId).map fun task =>
      s.withOperations (s.db.operations.createPreparedOperation s.now
        (sessionOperation operationId task.accountId task.daemonId taskId sessionId task.updatedAt frame expiresAt [])).1
  | .removeTask taskId accountId daemonId rejectRunning =>
    some (s.start ⟨none,none,none,none,.sent (.removeTask taskId accountId daemonId rejectRunning)⟩)
  | .removeDirWorkspace workspaceId accountId daemonId =>
    some (s.start ⟨none,none,none,none,.sent (.removeDirWorkspace workspaceId accountId daemonId)⟩)
  | .closeSessions accountId daemonId workspaceId more =>
    some (s.start ⟨none,none,none,none,.sent (.closeSessions accountId daemonId workspaceId more [])⟩)
  | .finalizeProject projectId accountId daemonId =>
    some (s.start ⟨none,none,none,none,.sent (.finalizeProject projectId accountId daemonId .done)⟩)
  | .removeDevice daemonId accountId =>
    some (s.start ⟨none,some daemonId,none,none,.waiting (.removeDevice daemonId accountId)⟩)
  | .prepare operation =>
    if operation.kind = .sessionCreate then none
    else some (s.withOperations (s.db.operations.createPreparedOperation s.now operation).1)
  | .install operationId daemonId ok error =>
    some (s.withOperations (s.db.operations.markPreparedOperationInstalled s.now operationId daemonId ok error).1)
  | .sweep time => if time ≤ s.now then some (s.withOperations (s.db.operations.sweep time).1) else none
  | .purge time => if time ≤ s.now then some (s.withOperations (s.db.operations.purge time)) else none
  | .enroll daemonId device => some {s with db := {s.db with devices := s.db.devices.insert daemonId device}}
  | .edit projects workspaces => some {s with db := {s.db with projects := projects,workspaces := workspaces}}
  -- The gate is a lock with a queue; who is next is left open here.
  | .acquire n =>
    match s.calls.lookup n with
    | some call =>
      match call.stage,call.gate with
      | .waiting job,some gate =>
        if (s.gates.lookup gate).isSome then none
        else some ({s with gates := s.gates.insert gate n}.enter n call job)
      | _,_ => none
    | none => none
  | .query n =>
    match s.calls.lookup n with
    | some call =>
      match call.stage with
      | .sent job =>
        let outcome := executeJob limit s.now s.db job
        -- The id of a new task is random: there has been no task of this id.
        if job.creates.any (· ∈ s.created) then none
        else
          some ({s with db := outcome.1,created := job.creates.toList ++ s.created}.becomes n
            {call with stage := .answered job outcome.2})
      | _ => none
    | none => none
  -- The statement fails and the handler with it.
  | .fail n =>
    match s.calls.lookup n with
    | some call =>
      match call.stage with
      | .sent _ => some (s.finish n call)
      | _ => none
    | none => none
  | .resume n choice =>
    match s.calls.lookup n with
    | some call =>
      match call.stage with
      | .answered job result => some (s.resume n call choice job result)
      | _ => none
    | none => none
  | .wait duration => some {s with now := s.now + duration}
  | .shutdown => some {s with shuttingDown := true,daemons := ∅}

def hubMachine (limit : Nat) : Machine HubState HubAction := ⟨hubStep limit⟩

def freshHub : HubState where
  db := ⟨∅,∅,∅,∅,∅⟩
  now := 0
  shuttingDown := false
  sessions := ∅
  daemons := ∅
  connections := 0
  requests := ∅
  gates := ∅
  calls := ∅
  serial := 0
  created := []
  retired := []
  removed := []
  shown := []
  handled := []

end Coflux.Server
