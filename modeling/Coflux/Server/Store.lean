import Coflux.Foundation.Table

namespace Coflux.Server
open FiniteMap

inductive OperationState where
  | pendingInstall
  | installed
  | installFailed
  | expired
  | applying
  | completed
  | failed
deriving DecidableEq

def isInstallableState : OperationState → Bool
  | .pendingInstall | .installed | .installFailed => true
  | _ => false

inductive OperationKind where
  | projectImport
  | worktreeAdd
  | worktreeRemove
  | sessionCreate
  | other (name : String)
deriving DecidableEq

def OperationKind.text : OperationKind → String
  | .projectImport => "project.import"
  | .worktreeAdd => "worktree.add"
  | .worktreeRemove => "worktree.remove"
  | .sessionCreate => "session.create"
  | .other name => name

inductive MetadataValue where
  | text (value : String)
  | other
deriving DecidableEq

-- The column as JSON.parse reads it. Anything but an object has none of the fields asked for.
inductive Metadata where
  | unreadable
  | object (fields : List (String × MetadataValue))
deriving DecidableEq

namespace Metadata

def field (key : String) : Metadata → Option MetadataValue
  | .unreadable => none
  | .object fields => fields.lookup key

end Metadata

structure OperationReport where
  operationId : String
  ok : Bool
  (taskId sessionId : Option String)
  pid : Option Nat
  exitCode : Option Int
  error : Option String
  resultFrame : Option (List UInt8)

structure Outcome where
  ok : Option Bool
  (taskId sessionId : Option String)
  pid : Option Nat
  exitCode : Option Int
  error : Option String
  resultFrame : Option (List UInt8)
deriving DecidableEq

structure NewOperation where
  (operationId accountId daemonId : String)
  kind : OperationKind
  targetId : Option String
  targetVersion : Option Nat
  frame : List UInt8
  metadata : Metadata
  expiresAt : Nat
deriving DecidableEq

structure OperationRecord extends NewOperation where
  state : OperationState
  completed : Bool
  installError : Option String
  outcome : Outcome
  (createdAt updatedAt : Nat)
deriving DecidableEq

structure Device where
  accountId : String
  revoked : Bool

abbrev Operations := Table String OperationRecord

namespace OperationRecord

def unsettled (r : OperationRecord) : Bool := !r.completed && r.state != .expired

def activeTarget (r : OperationRecord) : Option (String × OperationKind × String) :=
  if r.unsettled then r.targetId.map fun target => (r.accountId,r.kind,target) else none

end OperationRecord

def isServerInitiated (operation : OperationRecord) : Bool :=
  operation.metadata.field "initiator" = some (.text "server")

def retention : Nat := 30 * 24 * 60 * 60 * 1000

namespace Operations

section
variable (operations : Operations)

def updateOne (id : String) (test : OperationRecord → Bool)
    (change : OperationRecord → OperationRecord) : Operations × Option OperationRecord :=
  match operations.lookup id with
  | some row => if test row then (operations.insert id (change row),some (change row)) else (operations,none)
  | none => (operations,none)

def updateAll (test : OperationRecord → Bool) (change : OperationRecord → OperationRecord) :
    Operations :=
  mapValues (fun _ row => if test row then change row else row) operations

def select (test : OperationRecord → Bool) : List OperationRecord :=
  (((entries operations).map Prod.snd).filter test).insertionSort fun left right => left.createdAt ≤ right.createdAt

-- ON CONFLICT DO NOTHING: on the primary key or on the active target.
def createPreparedOperation (now : Nat) (operation : NewOperation) :
    Operations × Option OperationRecord :=
  let row : OperationRecord :=
    {operation with
      state := .pendingInstall
      completed := false
      installError := none
      outcome := ⟨none,none,none,none,none,none,none⟩
      createdAt := now
      updatedAt := now}
  let conflicts := (operations.lookup operation.operationId).isSome ||
    (row.activeTarget.isSome && ((entries operations).any fun entry => entry.2.activeTarget = row.activeTarget))
  if conflicts then (operations,none) else (operations.insert operation.operationId row,some row)

def findActivePreparedOperation (accountId : String) (kind : OperationKind) (targetId : String)
    (now : Nat) : Option OperationRecord :=
  (operations.select fun row => row.accountId = accountId && row.kind = kind && row.targetId = some targetId &&
    !row.completed && decide (now < row.expiresAt) && row.state != .expired).getLast?

def findLatestPreparedOperation (accountId daemonId : String) (kind : OperationKind)
    (targetId : String) : Option OperationRecord :=
  (operations.select fun row => row.accountId = accountId && row.daemonId = daemonId && row.kind = kind &&
    row.targetId = some targetId).getLast?

def countActivePreparedOperations (accountId daemonId : String) (now : Nat) : Nat :=
  (operations.select fun row => row.accountId = accountId && row.daemonId = daemonId &&
    !row.completed && decide (now < row.expiresAt) && row.state != .expired).length

section
variable (devices : Table String Device)

-- The row's device is there, of the same account and not revoked.
def onActiveDevice (row : OperationRecord) : Bool :=
  (devices.lookup row.daemonId).any fun device => device.accountId = row.accountId && !device.revoked

def listInstallablePreparedOperations (daemonId : String)
    (now : Nat) : List OperationRecord :=
  (operations.select fun row => row.daemonId = daemonId && onActiveDevice devices row &&
    !row.completed && decide (now < row.expiresAt) && isInstallableState row.state).take 1024

def listReadyPreparedOperations (accountId : String)
    (now : Nat) : List OperationRecord :=
  (operations.select fun row => row.accountId = accountId && onActiveDevice devices row &&
    !row.completed && decide (now < row.expiresAt) && row.state = .installed).take 1024

end

section
variable (now : Nat)

def markPreparedOperationInstalled (operationId daemonId : String) (ok : Bool)
    (error : Option String) : Operations × Option OperationRecord :=
  operations.updateOne operationId
    (fun row => row.daemonId = daemonId && !row.completed && decide (now < row.expiresAt) && isInstallableState row.state)
    fun row => {row with
      state := if ok then .installed else .installFailed
      installError := if ok then none else error
      updatedAt := now}

def claimPreparedOperationReport (operationId daemonId : String) :
    Operations × Option OperationRecord :=
  operations.updateOne operationId
    (fun row => row.daemonId = daemonId && !row.completed && row.state != .applying && row.state != .expired)
    fun row => {row with state := .applying,updatedAt := now}

def finishPreparedOperation (operationId : String) (report : OperationReport) :
    Operations × Option OperationRecord :=
  operations.updateOne operationId (fun row => row.state = .applying && !row.completed) fun row => {row with
      state := if report.ok then .completed else .failed
      completed := true
      outcome := ⟨some report.ok,report.taskId,report.sessionId,report.pid,report.exitCode,report.error,report.resultFrame⟩
      updatedAt := now}

def finishPreparedOperationFromExit (operationId taskId sessionId : String)
    (exitCode : Int) : Operations × Option OperationRecord :=
  operations.updateOne operationId (fun row => !row.completed) fun row => {row with
      state := .completed
      completed := true
      outcome := {row.outcome with
        ok := some true,taskId := some taskId,sessionId := some sessionId,exitCode := some exitCode,error := none}
      updatedAt := now}

def failPreparedOperationConvergence (operationId daemonId error : String) :
    Operations × Option OperationRecord :=
  operations.updateOne operationId (fun row => row.daemonId = daemonId && !row.completed) fun row => {row with
      state := .failed
      completed := true
      outcome := {row.outcome with ok := some false,error := some error}
      updatedAt := now}

def expire (row : OperationRecord) : OperationRecord := {row with state := .expired,updatedAt := now}

end

section
variable (accountId daemonId : String)

def expirePreparedOperationsByDaemon (now : Nat) : Operations :=
  operations.updateAll (fun row => row.accountId = accountId && row.daemonId = daemonId && row.unsettled) (expire now)

def ofTarget (kind : OperationKind) (targetId : String) (row : OperationRecord) : Bool :=
  row.accountId = accountId && row.daemonId = daemonId && row.kind = kind && row.targetId = some targetId && row.unsettled

def expirePreparedOperationsByTarget (kind : OperationKind)
    (targetId : String) (now : Nat) : Operations × List String :=
  (operations.updateAll (ofTarget accountId daemonId kind targetId) (expire now),
    (operations.select (ofTarget accountId daemonId kind targetId)).map fun row => row.operationId)

end

def due (now : Nat) (row : OperationRecord) : Bool :=
  !row.completed && decide (row.expiresAt ≤ now) && row.state != .applying && row.state != .expired

def sweep (now : Nat) : Operations × Nat :=
  (operations.updateAll (due now) (expire now),(operations.select (due now)).length)

def purge (now : Nat) : Operations :=
  keep (fun _ row => !((row.completed || row.state = .expired) && decide (row.updatedAt + retention < now))) operations

end

end Operations

structure Evolves (old new : OperationRecord) : Prop where
  identity : new.toNewOperation = old.toNewOperation
  completed : old.completed = true → new = old
  expired : old.state = .expired → new.state = .expired ∨ new.completed = true

namespace Evolves

theorem refl (row : OperationRecord) : Evolves row row := ⟨rfl,fun _ => rfl,.inl⟩

theorem trans (one : Evolves a b) (two : Evolves b c) : Evolves a c := by
  refine ⟨two.identity.trans one.identity,?_,?_⟩
  · intro done
    have same := one.completed done
    subst same
    exact two.completed done
  · intro gone
    rcases one.expired gone with still | done
    · exact two.expired still
    · have same := two.completed done
      subst same
      exact .inr done

theorem closed (evolves : Evolves old new) (ended : old.unsettled = false) : new.unsettled = false := by
  unfold OperationRecord.unsettled at ended ⊢
  cases done : old.completed with
  | true => rw [evolves.completed done,done,Bool.not_true,Bool.false_and]
  | false =>
    rw [done,Bool.not_false,Bool.true_and] at ended
    have gone : old.state = .expired := by simpa using ended
    rcases evolves.expired gone with still | completed
    · rw [still]
      simp
    · rw [completed]
      simp

end Evolves

def Succeeds (before after : Operations) : Prop :=
  ∀ id new, after.lookup id = some new → ∃ old, before.lookup id = some old ∧ Evolves old new

def Updates (before after : Operations) : Prop :=
  ∀ id, before.lookup id = none ∧ after.lookup id = none ∨
    ∃ old new, before.lookup id = some old ∧ after.lookup id = some new ∧ Evolves old new

namespace Updates

theorem refl (operations : Operations) : Updates operations operations := by
  intro id
  cases found : operations.lookup id with
  | none => exact .inl ⟨rfl,rfl⟩
  | some row => exact .inr ⟨row,row,rfl,rfl,.refl row⟩

theorem trans (one : Updates a b) (two : Updates b c) : Updates a c := by
  intro id
  rcases one id with ⟨before,between⟩ | ⟨old,_,before,between,earlier⟩
  · rcases two id with ⟨_,after⟩ | ⟨_,_,again,_,_⟩
    · exact .inl ⟨before,after⟩
    · rw [between] at again
      cases again
  · rcases two id with ⟨again,_⟩ | ⟨_,new,again,after,later⟩
    · rw [between] at again
      cases again
    · cases Option.some.inj (between.symm.trans again)
      exact .inr ⟨old,new,before,after,earlier.trans later⟩

theorem succeeds (updates : Updates before after) : Succeeds before after := by
  intro id new found
  rcases updates id with ⟨_,gone⟩ | ⟨old,_,before,after,evolves⟩
  · rw [gone] at found
    cases found
  · cases Option.some.inj (after.symm.trans found)
    exact ⟨old,before,evolves⟩

end Updates

section Statements
variable {operations : Operations}

theorem updateOne_updates (evolves : ∀ row, test row = true → Evolves row (change row)) {id : String} :
    Updates operations (operations.updateOne id test change).1 := by
  unfold Operations.updateOne
  split
  · rename_i row found
    split
    · rename_i passes
      intro other
      by_cases same : other = id
      · subst same
        exact .inr ⟨row,change row,found,AList.lookup_insert operations,evolves _ passes⟩
      · dsimp only
        rw [AList.lookup_insert_ne same]
        exact Updates.refl operations other
    · exact .refl operations
  · exact .refl operations

theorem updateOne_returned (returned : (operations.updateOne operationId test change).2 = some new) :
    ∃ old, operations.lookup operationId = some old ∧ test old = true ∧ new = change old ∧
      (operations.updateOne operationId test change).1 = operations.insert operationId new := by
  unfold Operations.updateOne at returned ⊢
  split at returned
  · rename_i row found
    split at returned
    · rename_i passes
      cases returned
      rw [found]
      refine ⟨row,rfl,passes,rfl,?_⟩
      rw [if_pos passes]
    · cases returned
  · cases returned

theorem updateAll_lookup {id : String} : (operations.updateAll test change).lookup id =
      (operations.lookup id).map fun row => if test row then change row else row :=
  lookup_mapValues _ operations id

theorem updateAll_updates (evolves : ∀ row, test row = true → Evolves row (change row)) :
    Updates operations (operations.updateAll test change) := by
  intro id
  rw [updateAll_lookup]
  cases operations.lookup id with
  | none => exact .inl ⟨rfl,rfl⟩
  | some old =>
    refine .inr ⟨old,if test old then change old else old,rfl,rfl,?_⟩
    split
    · rename_i passes
      exact evolves _ passes
    · exact .refl old

section
variable (now : Nat)

theorem expire_evolves (unfinished : row.completed = false) : Evolves row (Operations.expire now row) := by
  refine ⟨rfl,?_,fun _ => .inl rfl⟩
  intro done
  rw [unfinished] at done
  cases done

theorem unsettled_unfinished {row : OperationRecord} (active : row.unsettled = true) : row.completed = false := by
  cases done : row.completed with
  | false => rfl
  | true => rw [OperationRecord.unsettled,done] at active; cases active

theorem mark_updates {id : String} :
    Updates operations (operations.markPreparedOperationInstalled now id daemonId ok error).1 := by
  refine updateOne_updates ?_
  intro row passes
  simp only [Bool.and_eq_true,Bool.not_eq_true',decide_eq_true_eq] at passes
  obtain ⟨⟨⟨_,unfinished⟩,_⟩,installable⟩ := passes
  refine ⟨rfl,?_,?_⟩
  · intro done
    rw [unfinished] at done
    cases done
  · intro gone
    rw [gone] at installable
    cases installable

theorem claim_updates {id : String} : Updates operations (operations.claimPreparedOperationReport now id daemonId).1 := by
  refine updateOne_updates ?_
  intro row passes
  simp only [Bool.and_eq_true,Bool.not_eq_true',bne_iff_ne] at passes
  obtain ⟨⟨⟨_,unfinished⟩,_⟩,kept⟩ := passes
  refine ⟨rfl,?_,fun gone => absurd gone kept⟩
  intro done
  rw [unfinished] at done
  cases done

theorem finish_updates {id : String} :
    Updates operations (operations.finishPreparedOperation now id report).1 := by
  refine updateOne_updates ?_
  intro row passes
  simp only [Bool.and_eq_true,Bool.not_eq_true'] at passes
  refine ⟨rfl,?_,fun _ => .inr rfl⟩
  intro done
  rw [passes.2] at done
  cases done

theorem finishFromExit_updates {id : String} :
    Updates operations (operations.finishPreparedOperationFromExit now id taskId sessionId exitCode).1 := by
  refine updateOne_updates ?_
  intro row unfinished
  refine ⟨rfl,?_,fun _ => .inr rfl⟩
  intro done
  rw [done] at unfinished
  cases unfinished

theorem fail_updates {id : String} :
    Updates operations (operations.failPreparedOperationConvergence now id daemonId error).1 := by
  refine updateOne_updates ?_
  intro row passes
  simp only [Bool.and_eq_true,Bool.not_eq_true'] at passes
  refine ⟨rfl,?_,fun _ => .inr rfl⟩
  intro done
  rw [passes.2] at done
  cases done

end

theorem expireByDaemon_updates (accountId daemonId : String) (now : Nat) :
    Updates operations (operations.expirePreparedOperationsByDaemon accountId daemonId now) := by
  refine updateAll_updates ?_
  intro row passes
  simp only [Bool.and_eq_true] at passes
  exact expire_evolves _ (unsettled_unfinished passes.2)

theorem expireByTarget_updates :
    Updates operations (operations.expirePreparedOperationsByTarget accountId daemonId kind targetId now).1 := by
  refine updateAll_updates ?_
  intro row passes
  simp only [Operations.ofTarget,Bool.and_eq_true] at passes
  exact expire_evolves _ (unsettled_unfinished passes.2)

theorem sweep_updates : Updates operations (operations.sweep now).1 := by
  refine updateAll_updates ?_
  intro row passes
  simp only [Operations.due,Bool.and_eq_true,Bool.not_eq_true'] at passes
  exact expire_evolves _ passes.1.1.1

theorem purge_succeeds : Succeeds operations (operations.purge now) := by
  intro id new found
  exact ⟨new,(keep_lookup found).1,.refl new⟩

theorem mem_select (mem : row ∈ operations.select test) : ∃ id, operations.lookup id = some row ∧ test row = true := by
  unfold Operations.select at mem
  rw [List.mem_insertionSort,List.mem_filter,List.mem_map] at mem
  obtain ⟨⟨entry,stored,rfl⟩,passes⟩ := mem
  exact ⟨entry.1,mem_entries.mp stored,passes⟩

end Statements

end Coflux.Server
