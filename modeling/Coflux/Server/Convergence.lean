import Coflux.Foundation.Machine
import Coflux.Server.Database

namespace Coflux.Server
open FiniteMap StepMachine

structure ProjectValidated where
  (repoPath branch : String)
  (suggestedName defaultBranch : Option String)

inductive ResultPayload where
  | projectValidated (value : ProjectValidated)
  | worktreeAdded (path branch : String)
  | operationAck (sessionId : String)
  | other

structure OperationEffect where
  (accountId daemonId : String)
  project : Option Project := none
  workspace : Option Workspace := none
  task : Option Task := none
  sessionId : Option String := none
  removedTaskIds : Option (List String) := none
  cancelledPreparedOperationIds : Option (List String) := none
  removedWorkspaceId : Option String := none
  deletingProjectId : Option String := none
  error : Option String := none

-- A transaction is given up for a reason of its own, or because the database refuses it.
inductive ConvergenceFailure where
  | convergence (text : String)
  | database

abbrev Converges := Except ConvergenceFailure (Database × OperationEffect)

def metadataString (metadata : Metadata) (key : String) : Option String :=
  match metadata.field key with
  | some (.text value) => if value = "" then none else some value
  | _ => none

def isJsSpace (c : Char) : Bool :=
  let n := c.toNat
  (9 ≤ n && n ≤ 13) || n = 0x20 || n = 0xa0 || n = 0x1680 || (0x2000 ≤ n && n ≤ 0x200a) || n = 0x2028 || n = 0x2029 ||
    n = 0x202f || n = 0x205f || n = 0x3000 || n = 0xfeff

def jsTrim (text : String) : String :=
  String.ofList (((text.toList.dropWhile isJsSpace).reverse.dropWhile isJsSpace).reverse)

-- What `||` makes of a text that may be missing or empty.
def orElseText (text : Option String) (fallback : String) : String :=
  match text with
  | some text => if text = "" then fallback else text
  | none => fallback

def isSlash (c : Char) : Bool := c = '/' || c = '\\'

def basename (path : String) : String :=
  let kept := (path.toList.reverse.dropWhile isSlash).reverse
  orElseText (some (String.ofList (kept.reverse.takeWhile fun c => !isSlash c).reverse)) path

def OperationRecord.effect (operation : OperationRecord) : OperationEffect :=
  {accountId := operation.accountId,daemonId := operation.daemonId}

section Kinds
variable (tx : Database) (now : Nat) (operation : OperationRecord)

-- One root on one device has one project, unless it is being deleted.
def reusedProject (repoPath : String) : Database × Option Project :=
  let candidate := (tx.listProjectsByDaemon operation.daemonId).find? fun entry =>
    entry.repoPath = repoPath && entry.accountId = operation.accountId
  match candidate.bind fun entry => tx.claimActiveProject entry.id with
  | some claimed => if claimed.archivedAt.isSome then tx.unarchive claimed.id else (tx,some claimed)
  | none => (tx,none)

def newProject (value : ProjectValidated) (projectId : String) : Project where
  id := projectId
  accountId := operation.accountId
  daemonId := operation.daemonId
  name := (metadataString operation.metadata "explicitName").getD
    (orElseText (value.suggestedName.map jsTrim) (basename value.repoPath))
  repoPath := value.repoPath
  defaultBranch := orElseText (value.defaultBranch.map jsTrim) value.branch
  createdAt := now
  archivedAt := none
  deleting := false

def mainWorkspace (value : ProjectValidated) (projectId workspaceId : String) : Workspace where
  id := workspaceId
  accountId := operation.accountId
  daemonId := operation.daemonId
  projectId := projectId
  name := value.branch
  path := value.repoPath
  branch := value.branch
  isMain := true
  createdAt := now

-- The main workspace of a project that is found is part of the effect as it is.
def withMainWorkspace (project : Project) (existingMain : Option Workspace) (value : ProjectValidated)
    (workspaceId : String) : Converges :=
  match existingMain with
  | some workspace => .ok (tx,{operation.effect with project := some project,workspace := some workspace})
  | none =>
    let workspace := mainWorkspace now operation value project.id workspaceId
    match tx.createWorkspace workspace with
    | some created => .ok (created,{operation.effect with project := some project,workspace := some workspace})
    | none => .error .database

def importProject (value : ProjectValidated) : Converges :=
  match metadataString operation.metadata "projectId",metadataString operation.metadata "workspaceId" with
  | some projectId,some workspaceId =>
    if value.repoPath = "" || value.branch = "" then .error (.convergence "project.import report 缺少收敛字段")
    else
      match reusedProject tx operation value.repoPath with
      | (found,some project) =>
        withMainWorkspace found now operation project
          ((found.listWorkspacesByProject project.id).find? fun entry => entry.isMain) value workspaceId
      | (found,none) =>
        match found.createProject (newProject now operation value projectId) with
        | some created =>
          withMainWorkspace created now operation (newProject now operation value projectId) none value workspaceId
        | none => .error .database
  | _,_ => .error (.convergence "project.import report 缺少收敛字段")

def addWorktree (path branch : String) : Converges :=
  match metadataString operation.metadata "projectId",metadataString operation.metadata "workspaceId",
      metadataString operation.metadata "name" with
  | some projectId,some workspaceId,some name =>
    if path = "" || branch = "" then .error (.convergence "worktree.add report 缺少收敛字段")
    else
      match (tx.claimActiveProject projectId).filter fun project =>
          project.accountId = operation.accountId && project.daemonId = operation.daemonId with
      | none => .error (.convergence "worktree.add target project 已失效或正在删除")
      | some project =>
        if project.archivedAt.isSome then .error (.convergence "项目已归档，不能再创建工作区")
        else
          let workspace : Workspace :=
            ⟨workspaceId,operation.accountId,operation.daemonId,projectId,name,path,branch,false,now⟩
          match tx.createWorkspace workspace with
          | some created => .ok (created,{operation.effect with workspace := some workspace})
          | none => .error .database
  | _,_,_ => .error (.convergence "worktree.add report 缺少收敛字段")

def removeWorktree : Converges :=
  match metadataString operation.metadata "workspaceId",metadataString operation.metadata "projectId" with
  | some workspaceId,some projectId =>
    match tx.workspaces.lookup workspaceId with
    | none => .ok (tx,{operation.effect with deletingProjectId := some projectId})
    | some workspace =>
      if workspace.accountId != operation.accountId || workspace.daemonId != operation.daemonId ||
          workspace.projectId != projectId || workspace.isMain || operation.targetVersion != some workspace.createdAt then
        .error (.convergence "worktree.remove target version/CAS 已变化")
      else
        let removed := tx.removeTasksByWorkspace workspace.id
        let expired := removed.1.expireTargets now operation.accountId operation.daemonId removed.2
        .ok (expired.1.removeWorkspace workspace.id, {operation.effect with
            removedTaskIds := some removed.2
            cancelledPreparedOperationIds := some expired.2
            removedWorkspaceId := some workspace.id
            deletingProjectId := some projectId})
  | _,_ => .error (.convergence "worktree.remove report 缺少收敛字段")

def bindSession (task : Task) (sessionId : String) : Converges :=
  if task.status = .running ∧ task.sessionId = some sessionId then
    .ok (tx,{operation.effect with task := some task,sessionId := some sessionId})
  else if task.status = .running || task.sessionId.any (· != "") || operation.targetVersion != some task.updatedAt then
    .error (.convergence "session.create target version/CAS 已变化")
  else if tx.sessionTaken task.id sessionId then .error .database
  else
    match tx.updateTaskWhere task.id (fun _ => true) fun task =>
        {task with status := .running,sessionId := some sessionId,exitCode := none,updatedAt := now} with
    | (bound,some changed) => .ok (bound,{operation.effect with task := some changed,sessionId := some sessionId})
    | (_,none) => .error (.convergence "session.create target task 已删除")

def createSession (report : OperationReport) (ackSessionId : String) : Converges :=
  match metadataString operation.metadata "taskId",metadataString operation.metadata "sessionId" with
  | some taskId,some sessionId =>
    if ackSessionId != sessionId || report.taskId.any (· != taskId) || report.sessionId.any (· != sessionId) then
      .error (.convergence "session.create report 绑定不匹配")
    else
      match (tx.tasks.lookup taskId).filter fun task =>
          task.accountId = operation.accountId && task.daemonId = operation.daemonId with
      | none => .error (.convergence "session.create target task 已失效")
      | some task => bindSession tx now operation task sessionId
  | _,_ => .error (.convergence "session.create report 绑定不匹配")

def applyReport (report : OperationReport) (payload : ResultPayload) : Converges :=
  if report.ok = false then .ok (tx,{operation.effect with error := some (report.error.getD "设备操作失败")})
  else
    match operation.kind,payload with
    | .projectImport,.projectValidated value => importProject tx now operation value
    | .worktreeAdd,.worktreeAdded path branch => addWorktree tx now operation path branch
    | .worktreeRemove,.operationAck _ => removeWorktree tx now operation
    | .sessionCreate,.operationAck sessionId => createSession tx now operation report sessionId
    | kind,_ =>
      let name := kind.text
      .error (.convergence s!"prepared operation result 类型不匹配: {name}")

end Kinds

-- The transaction of converge. Without an effect the report is ignored.
def converge (db : Database) (now : Nat) (daemonId accountId : String) (report : OperationReport) (payload : ResultPayload) :
    Except ConvergenceFailure (Database × Option OperationEffect) :=
  match db.claimActiveDevice daemonId accountId with
  | none => .ok (db,none)
  | some _ =>
    let claimed := db.operations.claimPreparedOperationReport now report.operationId daemonId
    let tx := {db with operations := claimed.1}
    match claimed.2 with
    | none => .ok (tx,none)
    | some operation =>
      if operation.accountId != accountId || operation.daemonId != daemonId then .ok (tx,none)
      else if operation.metadata = .unreadable then .error (.convergence "prepared operation metadata 损坏")
      else
        match applyReport tx now operation report payload with
        | .error failure => .error failure
        | .ok (applied,effect) =>
          let finished := applied.operations.finishPreparedOperation now operation.operationId report
          match finished.2 with
          | none => .error .database
          | some _ => .ok ({applied with operations := finished.1},some effect)

-- What a report leaves alone that only adds to projects and workspaces.
structure DomainOnly (tx after : Database) (effect : OperationEffect) : Prop where
  operations : after.operations = tx.operations
  tasks : after.tasks = tx.tasks
  untold : effect.task = none
  kept : effect.removedTaskIds = none

section Kinds
variable {tx : Database}

theorem createWorkspace_same (created : tx.createWorkspace workspace = some after) :
    after.operations = tx.operations ∧ after.tasks = tx.tasks := by
  grind [Database.createWorkspace]

theorem createProject_same (created : tx.createProject project = some after) :
    after.operations = tx.operations ∧ after.tasks = tx.tasks := by
  grind [Database.createProject]

theorem reusedProject_same (tx : Database) (operation : OperationRecord) (repoPath : String) :
    (reusedProject tx operation repoPath).1.operations = tx.operations ∧
      (reusedProject tx operation repoPath).1.tasks = tx.tasks := by
  grind [reusedProject,Database.unarchive]

theorem withMain_domain (same : found.operations = tx.operations ∧ found.tasks = tx.tasks)
    (result : withMainWorkspace found now operation project existing value workspaceId = .ok (after,effect)) :
    DomainOnly tx after effect := by
  unfold withMainWorkspace at result
  split at result
  · grind [DomainOnly,OperationRecord.effect]
  · grind [DomainOnly,OperationRecord.effect,createWorkspace_same]

theorem importProject_domain (result : importProject tx now operation value = .ok (after,effect)) : DomainOnly tx after effect := by
  unfold importProject at result
  have same := reusedProject_same tx operation value.repoPath
  split at result
  · split at result
    · cases result
    · split at result
      · rename_i reused
        rw [reused] at same
        exact withMain_domain same result
      · rename_i reused
        rw [reused] at same
        split at result
        · rename_i created
          obtain ⟨operations,tasks⟩ := createProject_same created
          exact withMain_domain ⟨operations.trans same.1,tasks.trans same.2⟩ result
        · cases result
  · cases result

theorem addWorktree_domain (result : addWorktree tx now operation path branch = .ok (after,effect)) : DomainOnly tx after effect := by
  unfold addWorktree at result
  grind [DomainOnly,OperationRecord.effect,createWorkspace_same]

end Kinds

def Database.claimed (db : Database) (now : Nat) (daemonId : String) (report : OperationReport) : Database :=
  {db with operations := (db.operations.claimPreparedOperationReport now report.operationId daemonId).1}

inductive Converged (db : Database) (now : Nat) (daemonId accountId : String) (report : OperationReport)
    (payload : ResultPayload) : Database → Option OperationEffect → Prop where
  | unclaimed : Converged db now daemonId accountId report payload db none
  | ignored : Converged db now daemonId accountId report payload (db.claimed now daemonId report) none
  | applied (claimed : (db.operations.claimPreparedOperationReport now report.operationId daemonId).2 = some operation)
      (mine : operation.accountId = accountId ∧ operation.daemonId = daemonId)
      (ran : applyReport (db.claimed now daemonId report) now operation report payload = .ok (applied,effect))
      (finished : (applied.operations.finishPreparedOperation now operation.operationId report).2 = some row) :
      Converged db now daemonId accountId report payload
        {applied with operations := (applied.operations.finishPreparedOperation now operation.operationId report).1} (some effect)

theorem converge_cases (result : converge db now daemonId accountId report payload = .ok (after,effect)) :
    Converged db now daemonId accountId report payload after effect := by
  unfold converge at result
  split at result
  · cases result
    exact .unclaimed
  · dsimp only at result
    split at result
    · cases result
      exact .ignored
    · rename_i claimed
      split at result
      · cases result
        exact .ignored
      · rename_i mine
        split at result
        · cases result
        · split at result
          · cases result
          · rename_i ran
            split at result
            · cases result
            · rename_i finished
              cases result
              exact .applied claimed (by simpa using mine) ran finished

section Removals
variable (db : Database) (now : Nat)

def removeTaskRecord (id accountId daemonId : String) (rejectRunning : Bool) : Database :=
  match db.claimActiveDevice daemonId accountId,
      (db.tasks.lookup id).filter fun task => task.accountId = accountId && task.daemonId = daemonId with
  | some _,some current =>
    if rejectRunning && (current.status = .running || current.sessionId.any (· != "")) then db
    else
      let expired := db.operations.expirePreparedOperationsByTarget current.accountId current.daemonId .sessionCreate id now
      {db with operations := expired.1}.removeTask id
  | _,_ => db

def removeWorkspaceRecord (workspace : Workspace) (accountId daemonId : String) : Database :=
  let removed := db.removeTasksByWorkspace workspace.id
  (removed.1.expireTargets now accountId daemonId removed.2).1.removeWorkspace workspace.id

def removeDirWorkspace (id accountId daemonId : String) : Database :=
  match db.claimActiveDevice daemonId accountId,
      (db.workspaces.lookup id).filter fun workspace => workspace.accountId = accountId && workspace.daemonId = daemonId &&
        !workspace.isMain && isDirWorkspace workspace with
  | some _,some current => removeWorkspaceRecord db now current accountId daemonId
  | _,_ => db

def finalizeDeletingProject (id accountId daemonId : String) : Database :=
  match db.claimActiveDevice daemonId accountId,
      (db.claimDeletingProject id).filter fun project => project.accountId = accountId && project.daemonId = daemonId with
  | some _,some _ =>
    let workspaces := db.listWorkspacesByProject id
    if workspaces.any fun workspace => !workspace.isMain then db
    else (workspaces.foldl (fun db workspace => removeWorkspaceRecord db now workspace accountId daemonId) db).removeProject id
  | _,_ => db

def removeDevice (daemonId accountId : String) : Database :=
  match db.claimActiveDevice daemonId accountId with
  | none => db
  | some device =>
    let revoked := {db with
      devices := db.devices.insert daemonId {device with revoked := true}
      operations := db.operations.expirePreparedOperationsByDaemon device.accountId daemonId now}
    {(revoked.removeTasksByDaemon daemonId).1 with
      workspaces := keep (fun _ workspace => workspace.daemonId != daemonId) db.workspaces
      projects := keep (fun _ project => project.daemonId != daemonId) db.projects}

def finishExit (daemonId accountId taskId sessionId : String) (exitCode : Int) : Database :=
  match db.claimActiveDevice daemonId accountId,
      (db.tasks.lookup taskId).filter fun task => task.accountId = accountId && task.daemonId = daemonId with
  | some _,some task =>
    let operation := db.operations.findLatestPreparedOperation task.accountId task.daemonId .sessionCreate task.id
    let preparedSessionId := operation.bind fun operation => metadataString operation.metadata "sessionId"
    let matchesCurrent := task.sessionId = some sessionId
    let matchesPendingCreate := !(task.sessionId.any (· != "")) && preparedSessionId = some sessionId
    if ¬ matchesCurrent && !matchesPendingCreate then db
    else
      let finished := fun (db : Database) => match operation.filter fun operation => !operation.completed with
        | some operation =>
          {db with
            operations :=
              (db.operations.finishPreparedOperationFromExit now operation.operationId task.id sessionId exitCode).1}
        | none => db
      if task.status = .exited && task.exitCode = some exitCode && !(task.sessionId.any (· != "")) then finished db
      else
        let changed := (db.updateTaskWhere task.id (fun _ => true) fun task =>
          {task with status := .exited,sessionId := none,exitCode := some exitCode,updatedAt := now}).1
        if preparedSessionId = some sessionId then finished changed else changed
  | _,_ => db

end Removals

end Coflux.Server
