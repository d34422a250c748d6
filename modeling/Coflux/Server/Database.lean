import Coflux.Server.Store

namespace Coflux.Server
open FiniteMap

inductive TaskStatus where
  | idle
  | running
  | exited
deriving DecidableEq

structure Project where
  (id accountId daemonId name repoPath defaultBranch : String)
  createdAt : Nat
  archivedAt : Option Nat
  deleting : Bool

-- A directory workspace has no project.
structure Workspace where
  (id accountId daemonId projectId name path branch : String)
  isMain : Bool
  createdAt : Nat

structure Task where
  (id accountId daemonId projectId workspaceId : String)
  status : TaskStatus
  sessionId : Option String
  exitCode : Option Int
  updatedAt : Nat

def isDirWorkspace (workspace : Workspace) : Bool := workspace.projectId = ""

structure Database where
  operations : Operations
  devices : Table String Device
  projects : Table String Project
  workspaces : Table String Workspace
  tasks : Table String Task

namespace Database

section
variable (db : Database)

def claimActiveDevice (daemonId accountId : String) : Option Device :=
  (db.devices.lookup daemonId).filter fun device => device.accountId = accountId && !device.revoked

def listProjectsByDaemon (daemonId : String) : List Project :=
  ((entries db.projects).map Prod.snd).filter fun project => project.daemonId = daemonId

section
variable (id : String)

def claimActiveProject : Option Project :=
  (db.projects.lookup id).filter fun project => !project.deleting

def claimDeletingProject : Option Project :=
  (db.projects.lookup id).filter fun project => project.deleting

def unarchive : Database × Option Project :=
  match db.claimActiveProject id with
  | some project =>
    ({db with projects := db.projects.insert id {project with archivedAt := none}},some {project with archivedAt := none})
  | none => (db,none)

-- An INSERT whose primary key is taken fails and takes the transaction with it.
def createProject (project : Project) : Option Database :=
  if (db.projects.lookup project.id).isSome then none
  else some {db with projects := db.projects.insert project.id project}

def createWorkspace (workspace : Workspace) : Option Database :=
  if (db.workspaces.lookup workspace.id).isSome then none
  else some {db with workspaces := db.workspaces.insert workspace.id workspace}

def listWorkspacesByProject (projectId : String) : List Workspace :=
  ((entries db.workspaces).map Prod.snd).filter fun workspace => workspace.projectId = projectId

def removeProject : Database := {db with projects := db.projects.erase id}

def removeWorkspace : Database := {db with workspaces := db.workspaces.erase id}

def removeTask : Database := {db with tasks := db.tasks.erase id}

section
variable (test : Task → Bool)

def tasksWhere : List String :=
  ((entries db.tasks).filter fun entry => test entry.2).map Prod.fst

def removeTasksWhere : Database × List String :=
  ({db with tasks := keep (fun _ task => !test task) db.tasks},db.tasksWhere test)

def removeTasksByWorkspace (workspaceId : String) : Database × List String :=
  db.removeTasksWhere fun task => task.workspaceId = workspaceId

def removeTasksByDaemon (daemonId : String) : Database × List String :=
  db.removeTasksWhere fun task => task.daemonId = daemonId

-- UPDATE tasks .. WHERE id = .. AND .. RETURNING *
def updateTaskWhere (change : Task → Task) : Database × Option Task :=
  match (db.tasks.lookup id).filter test with
  | some task => ({db with tasks := db.tasks.insert id (change task)},some (change task))
  | none => (db,none)

end

end

def sameSession (accountId daemonId sessionId : String) (task : Task) : Bool :=
  task.accountId = accountId && task.daemonId = daemonId && task.sessionId = some sessionId

section
variable (now : Nat) (id accountId daemonId sessionId : String)

def runTaskIfSession : Database × Option Task :=
  db.updateTaskWhere id (fun task => sameSession accountId daemonId sessionId task && task.status != .running)
    fun task => {task with status := .running,exitCode := none,updatedAt := now}

def exitTaskIfSession (exitCode : Int) :
    Database × Option Task :=
  db.updateTaskWhere id (sameSession accountId daemonId sessionId)
    fun task => {task with status := .exited,sessionId := none,exitCode := some exitCode,updatedAt := now}

def exitRunningTaskIfSession :
    Database × Option Task :=
  db.updateTaskWhere id (fun task => sameSession accountId daemonId sessionId task && task.status = .running)
    fun task => {task with status := .exited,sessionId := none,exitCode := none,updatedAt := now}

end

-- A session is bound to one task at most (uq_tasks_session).
def sessionTaken (id sessionId : String) : Bool :=
  (entries db.tasks).any fun entry => entry.1 != id && entry.2.sessionId = some sessionId

def expireTargets (now : Nat) (accountId daemonId : String) (taskIds : List String) : Database × List String :=
  taskIds.foldl (fun result taskId =>
    let expired := result.1.operations.expirePreparedOperationsByTarget accountId daemonId .sessionCreate taskId now
    ({result.1 with operations := expired.1},result.2 ++ expired.2)) (db,[])

end

end Database

def Database.domain (db : Database) : Table String Project × Table String Workspace × Table String Task :=
  (db.projects,db.workspaces,db.tasks)

theorem expireTargets_updates (db : Database) (now : Nat) (accountId daemonId : String) (taskIds : List String) :
    Updates db.operations (db.expireTargets now accountId daemonId taskIds).1.operations := by
  unfold Database.expireTargets
  -- The fold starts with no ids; the tables are what moves.
  suffices general : ∀ start : Database × List String, Updates start.1.operations (taskIds.foldl (fun result taskId =>
        let expired := result.1.operations.expirePreparedOperationsByTarget accountId daemonId .sessionCreate taskId now
        ({result.1 with operations := expired.1},result.2 ++ expired.2)) start).1.operations from general (db,[])
  intro start
  induction taskIds generalizing start with
  | nil => exact .refl _
  | cons taskId rest ih =>
    refine Updates.trans ?_ (ih _)
    exact expireByTarget_updates

end Coflux.Server
