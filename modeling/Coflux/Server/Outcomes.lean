import Coflux.Server.Convergence

namespace Coflux.Server
open FiniteMap StepMachine

-- A report that was carried out, with whether its operation had expired before.
structure Applied where
  operationId : String
  effect : OperationEffect
  expired : Bool

-- From created on, the history that the statements below are about.
structure ConvergenceState where
  db : Database
  now : Nat
  failing : List (String × String × String)
  (created expired : List String)
  applied : List Applied

-- Each is one transaction, but for the expiry's two statements and the record of a failure after a
-- rollback. Other handlers may edit the domain tables in any way.
inductive ConvergenceAction where
  | create (operation : NewOperation)
  | install (operationId daemonId : String) (ok : Bool) (error : Option String)
  | report (daemonId accountId : String) (report : OperationReport) (payload : ResultPayload)
  | failConvergence (operationId daemonId text : String)
  | exit (daemonId accountId taskId sessionId : String) (exitCode : Int)
  | sweep (time : Nat)
  | purge (time : Nat)
  | removeTask (id accountId daemonId : String) (rejectRunning : Bool)
  | removeDirWorkspace (id accountId daemonId : String)
  | finalizeProject (id accountId daemonId : String)
  | removeDevice (daemonId accountId : String)
  | enroll (daemonId : String) (device : Device)
  | edit (projects : Table String Project) (workspaces : Table String Workspace) (tasks : Table String Task)
  | crash
  | wait (duration : Nat)

namespace ConvergenceState

def expiredRows (operations : Operations) : List String :=
  ((entries operations).filter fun entry => entry.2.state = .expired).map Prod.fst

section
variable (s : ConvergenceState)

def commit (db : Database) : ConvergenceState :=
  {s with db := db,expired := expiredRows db.operations ++ s.expired}

def commitOperations (operations : Operations) : ConvergenceState :=
  s.commit {s.db with operations := operations}

def report (daemonId accountId : String) (report : OperationReport) (payload : ResultPayload) :
    ConvergenceState :=
  match converge s.db s.now daemonId accountId report payload with
  | .ok (db,none) => s.commit db
  | .ok (db,some effect) =>
    {s.commit db with
      applied := if report.ok then ⟨report.operationId,effect,s.expired.contains report.operationId⟩ :: s.applied
        else s.applied}
  | .error (.convergence text) => {s with failing := (report.operationId,daemonId,text) :: s.failing}
  | .error .database => s

end

end ConvergenceState

def convergenceStep (s : ConvergenceState) : ConvergenceAction → Option ConvergenceState
  -- Operation ids are random and never drawn twice.
  | .create operation =>
    if operation.operationId ∈ s.created then none
    else
      match s.db.operations.createPreparedOperation s.now operation with
      | (operations,some _) => some {s.commitOperations operations with created := operation.operationId :: s.created}
      | (_,none) => some s
  | .install operationId daemonId ok error =>
    some (s.commitOperations (s.db.operations.markPreparedOperationInstalled s.now operationId daemonId ok error).1)
  | .report daemonId accountId report payload => some (s.report daemonId accountId report payload)
  | .failConvergence operationId daemonId text =>
    if (operationId,daemonId,text) ∈ s.failing then
      some {s.commitOperations (s.db.operations.failPreparedOperationConvergence s.now operationId daemonId text).1 with
        failing := s.failing.erase (operationId,daemonId,text)}
    else none
  | .exit daemonId accountId taskId sessionId exitCode =>
    some (s.commit (finishExit s.db s.now daemonId accountId taskId sessionId exitCode))
  | .sweep time => if time ≤ s.now then some (s.commitOperations (s.db.operations.sweep time).1) else none
  | .purge time => if time ≤ s.now then some (s.commitOperations (s.db.operations.purge time)) else none
  | .removeTask id accountId daemonId rejectRunning =>
    some (s.commit (removeTaskRecord s.db s.now id accountId daemonId rejectRunning))
  | .removeDirWorkspace id accountId daemonId => some (s.commit (removeDirWorkspace s.db s.now id accountId daemonId))
  | .finalizeProject id accountId daemonId => some (s.commit (finalizeDeletingProject s.db s.now id accountId daemonId))
  | .removeDevice daemonId accountId => some (s.commit (removeDevice s.db s.now daemonId accountId))
  | .enroll daemonId device => some {s with db := {s.db with devices := s.db.devices.insert daemonId device}}
  | .edit projects workspaces tasks =>
    some {s with db := {s.db with projects := projects,workspaces := workspaces,tasks := tasks}}
  | .crash => some {s with failing := []}
  | .wait duration => some {s with now := s.now + duration}

def convergenceMachine : Machine ConvergenceState ConvergenceAction := ⟨convergenceStep⟩

def freshConvergence : ConvergenceState := ⟨⟨∅,∅,∅,∅,∅⟩,0,[],[],[],[]⟩

structure ConvergedOnce (s : ConvergenceState) : Prop where
  once : (s.applied.map Applied.operationId).Nodup
  timely : ∀ entry ∈ s.applied, entry.expired = false
  succeeded : ∀ entry ∈ s.applied, ∀ row, s.db.operations.lookup entry.operationId = some row →
    row.completed = true ∧ row.state = .completed ∧ row.outcome.ok = some true

-- A report that changes the domain tables is recorded as applied; one that fails changes none.
def DomainLogged (s : ConvergenceState) (action : ConvergenceAction) : Prop :=
  ∀ next, convergenceStep s action = some next → match action with
    | .report _ _ report _ => next.db.domain = s.db.domain ∨
        ∃ entry, next.applied = entry :: s.applied ∧ entry.operationId = report.operationId
    | .failConvergence _ _ _ => next.db.domain = s.db.domain
    | _ => True

def OutcomeKept (t : ConvergenceState) (id : String) (row : OperationRecord) : Prop :=
  t.db.operations.lookup id = some row ∨ t.db.operations.lookup id = none ∧ row.updatedAt + retention < t.now

section Transactions
variable {tx : Database}

theorem updateTask_operations {id : String} : (tx.updateTaskWhere id test change).1.operations = tx.operations := by
  unfold Database.updateTaskWhere
  split <;> rfl

theorem bindSession_operations (result : bindSession tx now operation task sessionId = .ok (db,effect)) :
    db.operations = tx.operations := by
  unfold bindSession at result
  split at result
  · cases result
    rfl
  · split at result
    · cases result
    · split at result
      · cases result
      · split at result
        · rename_i updated
          cases result
          exact (congrArg (·.1.operations) updated).symm.trans updateTask_operations
        · cases result

theorem createSession_operations (result : createSession tx now operation report sessionId = .ok (db,effect)) :
    db.operations = tx.operations := by
  unfold createSession at result
  split at result
  · split at result
    · cases result
    · split at result
      · cases result
      · exact bindSession_operations result
  · cases result

theorem removeWorktree_updates (result : removeWorktree tx now operation = .ok (db,effect)) :
    Updates tx.operations db.operations := by
  unfold removeWorktree at result
  split at result
  · split at result
    · cases result
      exact .refl tx.operations
    · split at result
      · cases result
      · rename_i workspace _ _
        cases result
        exact expireTargets_updates (tx.removeTasksByWorkspace workspace.id).1 _ _ _ _
  · cases result

theorem applyReport_updates (result : applyReport tx now operation report payload = .ok (db,effect)) :
    Updates tx.operations db.operations ∧ (report.ok = false → db = tx) := by
  unfold applyReport at result
  split at result
  · cases result
    exact ⟨.refl tx.operations,fun _ => rfl⟩
  · rename_i succeeded
    refine ⟨?_,fun failed => absurd failed succeeded⟩
    split at result
    · rw [(importProject_domain result).operations]
      exact .refl tx.operations
    · rw [(addWorktree_domain result).operations]
      exact .refl tx.operations
    · exact removeWorktree_updates result
    · rw [createSession_operations result]
      exact .refl tx.operations
    · cases result

theorem removeTaskRecord_updates {id : String} :
    Updates tx.operations (removeTaskRecord tx now id accountId daemonId rejectRunning).operations := by
  unfold removeTaskRecord
  split
  · split
    · exact .refl tx.operations
    · exact expireByTarget_updates
  · exact .refl tx.operations

theorem removeWorkspaceRecord_updates :
    Updates tx.operations (removeWorkspaceRecord tx now workspace accountId daemonId).operations :=
  expireTargets_updates (tx.removeTasksByWorkspace workspace.id).1 now accountId daemonId _

theorem removeDirWorkspace_updates {id : String} :
    Updates tx.operations (removeDirWorkspace tx now id accountId daemonId).operations := by
  unfold removeDirWorkspace
  split
  · exact removeWorkspaceRecord_updates
  · exact .refl tx.operations

theorem finalizeDeletingProject_updates {id : String} :
    Updates tx.operations (finalizeDeletingProject tx now id accountId daemonId).operations := by
  -- One workspace after the other is removed.
  have walk : ∀ (workspaces : List Workspace) (db : Database), Updates db.operations
      (workspaces.foldl (fun db workspace => removeWorkspaceRecord db now workspace accountId daemonId) db).operations := by
    intro workspaces
    induction workspaces with
    | nil => exact fun db => .refl db.operations
    | cons workspace rest ih => exact fun _ => removeWorkspaceRecord_updates.trans (ih _)
  unfold finalizeDeletingProject
  split
  · dsimp only
    split
    · exact .refl tx.operations
    · exact walk _ tx
  · exact .refl tx.operations

theorem removeDevice_updates : Updates tx.operations (removeDevice tx now daemonId accountId).operations := by
  unfold removeDevice
  split
  · exact .refl tx.operations
  · exact expireByDaemon_updates _ _ _

theorem finishExit_updates :
    Updates tx.operations (finishExit tx now daemonId accountId taskId sessionId exitCode).operations := by
  unfold finishExit
  split
  · dsimp only
    split
    · exact .refl tx.operations
    · split
      · split
        · exact finishFromExit_updates _
        · exact .refl tx.operations
      · split
        · split
          · simp only [updateTask_operations]
            exact finishFromExit_updates _
          · rw [updateTask_operations]
            exact .refl tx.operations
        · rw [updateTask_operations]
          exact .refl tx.operations
  · exact .refl tx.operations

theorem converge_ignored (result : converge tx now daemonId accountId report payload = .ok (db,none)) :
    Updates tx.operations db.operations ∧ db.domain = tx.domain := by
  cases converge_cases result with
  | unclaimed => exact ⟨.refl tx.operations,rfl⟩
  | ignored => exact ⟨claim_updates _,rfl⟩

theorem converge_refused (failed : report.ok = false)
    (result : converge tx now daemonId accountId report payload = .ok (db,some effect)) : db.domain = tx.domain := by
  cases converge_cases result with
  | applied _ _ ran _ =>
    rw [(applyReport_updates ran).2 failed]
    rfl

structure Finishes (tx db : Database) (report : OperationReport) : Prop where
  updates : Updates tx.operations db.operations
  opened : ∃ old, tx.operations.lookup report.operationId = some old ∧ old.unsettled = true
  closed : ∃ new, db.operations.lookup report.operationId = some new ∧ new.completed = true ∧
    new.state = (if report.ok then .completed else .failed) ∧ new.outcome.ok = some report.ok

theorem claim_open {operations : Operations}
    (claimed : (operations.claimPreparedOperationReport now operationId daemonId).2 = some operation) :
    ∃ old, operations.lookup operationId = some old ∧ old.unsettled = true ∧ operation.operationId = old.operationId := by
  obtain ⟨old,found,passes,rfl,_⟩ := updateOne_returned claimed
  simp only [Bool.and_eq_true,Bool.not_eq_true',bne_iff_ne] at passes
  refine ⟨old,found,?_,rfl⟩
  simp [OperationRecord.unsettled,passes.1.1.2,passes.2]

theorem converge_applied (named : ∀ id row, tx.operations.lookup id = some row → row.operationId = id)
    (result : converge tx now daemonId accountId report payload = .ok (db,some effect)) : Finishes tx db report := by
  cases converge_cases result with
  | @applied operation applied _ row claimed _ ran finished =>
    obtain ⟨old,found,active,same⟩ := claim_open claimed
    have own : operation.operationId = report.operationId := same.trans (named _ _ found)
    rw [own] at finished ⊢
    obtain ⟨_,_,_,finishedRow,stored⟩ := updateOne_returned finished
    refine ⟨?_,⟨old,found,active⟩,?_⟩
    · exact (claim_updates _).trans ((applyReport_updates ran).1.trans (finish_updates _))
    · have kept : (applied.operations.finishPreparedOperation now report.operationId report).1.lookup
          report.operationId = some row := by
        unfold Operations.finishPreparedOperation
        rw [stored]
        exact AList.lookup_insert applied.operations
      refine ⟨row,kept,?_⟩
      rw [finishedRow]
      exact ⟨rfl,rfl,rfl⟩

end Transactions

inductive ConvergenceMove (s : ConvergenceState) : ConvergenceState → Prop
  | committed (db : Database) (failing : List (String × String × String)) (updates : Updates s.db.operations db.operations) :
      ConvergenceMove s {s.commit db with failing := failing}
  | created (operation : NewOperation) (row : OperationRecord) (fresh : operation.operationId ∉ s.created)
      (same : row.operationId = operation.operationId) (active : row.unsettled = true) :
      ConvergenceMove s {s.commitOperations (s.db.operations.insert operation.operationId row) with
        created := operation.operationId :: s.created}
  | applied (db : Database) (report : OperationReport) (effect : OperationEffect) (succeeded : report.ok = true)
      (finishes : Finishes s.db db report) :
      ConvergenceMove s {s.commit db with
        applied := ⟨report.operationId,effect,s.expired.contains report.operationId⟩ :: s.applied}
  | purged (time : Nat) (past : time ≤ s.now) : ConvergenceMove s (s.commitOperations (s.db.operations.purge time))
  | elsewhere (db : Database) (failing : List (String × String × String)) (duration : Nat)
      (same : db.operations = s.db.operations) :
      ConvergenceMove s {s with db := db,failing := failing,now := s.now + duration}

theorem create_returned {operations : Operations}
    (created : operations.createPreparedOperation now operation = (after,some row)) :
    after = operations.insert operation.operationId row ∧ row.operationId = operation.operationId ∧ row.unsettled = true := by
  unfold Operations.createPreparedOperation at created
  dsimp only at created
  split at created
  · cases created
  · cases created
    exact ⟨rfl,rfl,rfl⟩

theorem report_moves (named : ∀ id row, s.db.operations.lookup id = some row → row.operationId = id)
    : ConvergenceMove s (s.report daemonId accountId report payload) := by
  unfold ConvergenceState.report
  split
  · rename_i db ran
    exact .committed db s.failing (converge_ignored ran).1
  · rename_i db effect ran
    have finishes := converge_applied named ran
    cases succeeded : report.ok with
    | true => exact .applied db report effect succeeded finishes
    | false => exact .committed db s.failing finishes.updates
  · exact .elsewhere s.db _ 0 rfl
  · exact .elsewhere s.db s.failing 0 rfl

theorem convergence_moves {s next : ConvergenceState}
    (named : ∀ id row, s.db.operations.lookup id = some row → row.operationId = id)
    (step : convergenceStep s action = some next) : ConvergenceMove s next := by
  cases action with
  | create operation =>
    simp only [convergenceStep] at step
    split at step
    · cases step
    · rename_i fresh
      split at step
      · rename_i row created
        cases step
        obtain ⟨rfl,same,active⟩ := create_returned created
        exact .created operation row fresh same active
      · cases step
        exact .elsewhere s.db s.failing 0 rfl
  | install operationId daemonId ok error =>
    cases step
    exact .committed _ s.failing (mark_updates _)
  | report daemonId accountId report payload =>
    cases step
    exact report_moves named
  | failConvergence operationId daemonId text =>
    obtain ⟨_,rfl⟩ := guard_parts step
    exact .committed _ _ (fail_updates _)
  | exit daemonId accountId taskId sessionId exitCode =>
    cases step
    exact .committed _ s.failing finishExit_updates
  | sweep time =>
    obtain ⟨_,rfl⟩ := guard_parts step
    exact .committed _ s.failing sweep_updates
  | purge time =>
    obtain ⟨past,rfl⟩ := guard_parts step
    exact .purged time past
  | removeTask id accountId daemonId rejectRunning =>
    cases step
    exact .committed _ s.failing removeTaskRecord_updates
  | removeDirWorkspace id accountId daemonId =>
    cases step
    exact .committed _ s.failing removeDirWorkspace_updates
  | finalizeProject id accountId daemonId =>
    cases step
    exact .committed _ s.failing finalizeDeletingProject_updates
  | removeDevice daemonId accountId =>
    cases step
    exact .committed _ s.failing removeDevice_updates
  | enroll | edit => cases step; exact .elsewhere _ s.failing 0 rfl
  | crash => cases step; exact .elsewhere s.db [] 0 rfl
  | wait duration => cases step; exact .elsewhere s.db s.failing duration rfl

structure Converging (operations : Operations) (created expired : List String) (applied : List Applied) : Prop where
  named : ∀ id row, operations.lookup id = some row → row.operationId = id
  known : ∀ id row, operations.lookup id = some row → id ∈ created
  closed : ∀ id ∈ expired, id ∈ created ∧ ∀ row, operations.lookup id = some row → row.unsettled = false
  once : (applied.map Applied.operationId).Nodup
  timely : ∀ entry ∈ applied, entry.expired = false
  recorded : ∀ entry ∈ applied, entry.operationId ∈ created
  succeeded : ∀ entry ∈ applied, ∀ row, operations.lookup entry.operationId = some row →
    row.completed = true ∧ row.state = .completed ∧ row.outcome.ok = some true

def ConvergenceState.Converges (s : ConvergenceState) : Prop := Converging s.db.operations s.created s.expired s.applied

open ConvergenceState (commit expiredRows)

theorem mem_expiredRows {operations : Operations} : operationId ∈ expiredRows operations ↔
    ∃ row, operations.lookup operationId = some row ∧ row.state = .expired := by
  unfold expiredRows
  rw [List.mem_map]
  constructor
  · rintro ⟨⟨operationId,row⟩,mem,rfl⟩
    rw [List.mem_filter,decide_eq_true_eq] at mem
    exact ⟨row,mem_entries.mp mem.1,mem.2⟩
  · rintro ⟨row,found,gone⟩
    exact ⟨(operationId,row),List.mem_filter.mpr ⟨mem_entries.mpr found,by simpa using gone⟩,rfl⟩

theorem expired_unsettled {row : OperationRecord} (gone : row.state = .expired) : row.unsettled = false := by
  simp [OperationRecord.unsettled,gone]

section Steps
theorem converging_succeeds (valid : Converging before created expired applied) (succeeds : Succeeds before after) :
    Converging after created (expiredRows after ++ expired) applied := by
  refine ⟨?_,?_,?_,valid.once,valid.timely,valid.recorded,?_⟩
  · intro id row found
    obtain ⟨old,earlier,evolves⟩ := succeeds id _ found
    have same : row.operationId = old.operationId := congrArg NewOperation.operationId evolves.identity
    exact same.trans (valid.named id old earlier)
  · intro id row found
    obtain ⟨old,earlier,_⟩ := succeeds id _ found
    exact valid.known id old earlier
  · intro id mem
    rcases List.mem_append.mp mem with now | earlier
    · obtain ⟨row,found,gone⟩ := mem_expiredRows.mp now
      obtain ⟨old,earlier,_⟩ := succeeds id _ found
      refine ⟨valid.known id old earlier,?_⟩
      intro other same
      cases Option.some.inj (found.symm.trans same)
      exact expired_unsettled gone
    · refine ⟨(valid.closed id earlier).1,?_⟩
      intro row found
      obtain ⟨old,stored,evolves⟩ := succeeds id _ found
      exact evolves.closed ((valid.closed id earlier).2 old stored)
  · intro entry mem row found
    obtain ⟨old,stored,evolves⟩ := succeeds _ _ found
    have done := valid.succeeded entry mem old stored
    rw [evolves.completed done.1]
    exact done

theorem converging_created (valid : Converging before created expired applied) {operationId : String}
    (fresh : operationId ∉ created) (same : row.operationId = operationId) (active : row.unsettled = true) :
    Converging (before.insert operationId row) (operationId :: created)
      (expiredRows (before.insert operationId row) ++ expired) applied := by
  refine ⟨?_,?_,?_,valid.once,valid.timely,fun entry mem => List.mem_cons_of_mem _ (valid.recorded entry mem),?_⟩
  · exact Each.insert valid.named same
  · intro id other found
    rcases insert_lookup found with ⟨rfl,_⟩ | ⟨_,earlier⟩
    · exact List.mem_cons_self
    · exact List.mem_cons_of_mem _ (valid.known id _ earlier)
  · intro id mem
    rcases List.mem_append.mp mem with now | earlier
    · obtain ⟨other,found,gone⟩ := mem_expiredRows.mp now
      rcases insert_lookup found with ⟨rfl,rfl⟩ | ⟨_,earlier⟩
      · rw [expired_unsettled gone] at active
        cases active
      · refine ⟨List.mem_cons_of_mem _ (valid.known id _ earlier),?_⟩
        intro again stored
        cases Option.some.inj (found.symm.trans stored)
        exact expired_unsettled gone
    · refine ⟨List.mem_cons_of_mem _ (valid.closed id earlier).1,?_⟩
      intro other found
      rcases insert_lookup found with ⟨rfl,_⟩ | ⟨_,stored⟩
      · exact absurd (valid.closed id earlier).1 fresh
      · exact (valid.closed id earlier).2 other stored
  · intro entry mem other found
    rcases insert_lookup found with ⟨rfl,_⟩ | ⟨_,stored⟩
    · exact absurd (valid.recorded entry mem) fresh
    · exact valid.succeeded entry mem _ stored

-- The operation was open, so that it had neither expired nor been applied.
theorem converging_applied (valid : Converging tx.operations created expired applied)
    (succeeded : report.ok = true) (finishes : Finishes tx db report) :
    Converging db.operations created (expiredRows db.operations ++ expired)
      (⟨report.operationId,effect,expired.contains report.operationId⟩ :: applied) := by
  have kept := converging_succeeds valid finishes.updates.succeeds
  obtain ⟨old,found,active⟩ := finishes.opened
  refine ⟨kept.named,kept.known,kept.closed,?_,?_,?_,?_⟩
  · refine List.nodup_cons.mpr ⟨?_,valid.once⟩
    intro mem
    obtain ⟨entry,logged,same⟩ := List.mem_map.mp mem
    dsimp only at same
    rw [← same] at found
    have finished := (valid.succeeded entry logged old found).1
    rw [unsettled_unfinished active] at finished
    cases finished
  · intro entry mem
    rcases List.mem_cons.mp mem with rfl | earlier
    · dsimp only
      rw [← Bool.not_eq_true,List.contains_iff_mem]
      intro gone
      rw [(valid.closed _ gone).2 old found] at active
      cases active
    · exact valid.timely entry earlier
  · exact List.forall_mem_cons.mpr ⟨valid.known _ old found,valid.recorded⟩
  · intro entry mem row stored
    rcases List.mem_cons.mp mem with rfl | earlier
    · obtain ⟨_,finished,done,state,ok⟩ := finishes.closed
      cases Option.some.inj (finished.symm.trans stored)
      rw [succeeded] at state ok
      exact ⟨done,state,ok⟩
    · exact kept.succeeded entry earlier _ stored

end Steps

theorem converges_move (valid : s.Converges) (move : ConvergenceMove s next) : next.Converges := by
  cases move with
  | committed db failing updates => exact converging_succeeds valid updates.succeeds
  | created operation row fresh same active => exact converging_created valid fresh same active
  | applied db report effect succeeded finishes => exact converging_applied valid succeeded finishes
  | purged time past => exact converging_succeeds valid purge_succeeds
  | elsewhere db failing duration same =>
    unfold ConvergenceState.Converges at valid ⊢
    dsimp only
    rw [same]
    exact valid

theorem converges_step (valid : s.Converges) (step : convergenceMachine.step s action = some next) : next.Converges :=
  converges_move valid (convergence_moves valid.named step)

theorem converges_fresh : freshConvergence.Converges := by
  have empty : ∀ id row, freshConvergence.db.operations.lookup id ≠ some row := by
    intro id row found
    cases (AList.lookup_empty id).symm.trans found
  exact ⟨fun id row found => absurd found (empty id _),fun id _ found => absurd found (empty id _),
    List.forall_mem_nil _,List.nodup_nil,List.forall_mem_nil _,List.forall_mem_nil _,List.forall_mem_nil _⟩

theorem kept_move (done : row.completed = true)
    (move : ConvergenceMove s next) (kept : operationId ∈ s.created ∧ OutcomeKept s operationId row) :
    operationId ∈ next.created ∧ OutcomeKept next operationId row := by
  obtain ⟨known,kept⟩ := kept
  -- A table of the same rows keeps the row, and the absence of it.
  have updated : ∀ after, Updates s.db.operations after →
      after.lookup operationId = some row ∨ after.lookup operationId = none ∧ row.updatedAt + retention < s.now := by
    intro after updates
    rcases kept with found | ⟨gone,past⟩
    · rcases updates operationId with ⟨missing,_⟩ | ⟨old,_,stored,later,evolves⟩
      · rw [missing] at found
        cases found
      · cases Option.some.inj (stored.symm.trans found)
        rw [evolves.completed done] at later
        exact .inl later
    · rcases updates operationId with ⟨_,missing⟩ | ⟨old,_,stored,_,_⟩
      · exact .inr ⟨missing,past⟩
      · rw [gone] at stored
        cases stored
  cases move with
  | committed db failing updates => exact ⟨known,updated _ updates⟩
  | created operation other fresh same active =>
    have apart : operationId ≠ operation.operationId := by
      rintro rfl
      exact fresh known
    refine ⟨List.mem_cons_of_mem _ known,?_⟩
    unfold OutcomeKept
    dsimp only [ConvergenceState.commitOperations,commit]
    rw [AList.lookup_insert_ne apart]
    exact kept
  | applied db report effect succeeded finishes => exact ⟨known,updated _ finishes.updates⟩
  | purged time past =>
    refine ⟨known,?_⟩
    rcases kept with found | ⟨gone,old⟩
    · by_cases overdue : row.updatedAt + retention < time
      · cases left : (s.db.operations.purge time).lookup operationId with
        | none => exact .inr ⟨left,Nat.lt_of_lt_of_le overdue past⟩
        | some other =>
          have earlier := (keep_lookup left).1
          exact .inl (left.trans (earlier.symm.trans found))
      · exact .inl (lookup_keep found (by simp [overdue]))
    · refine .inr ⟨?_,old⟩
      cases left : (s.db.operations.purge time).lookup operationId with
      | none => exact left
      | some other =>
        rw [(keep_lookup left).1] at gone
        cases gone
  | elsewhere db failing duration same =>
    refine ⟨known,?_⟩
    unfold OutcomeKept
    dsimp only
    rw [same]
    rcases kept with found | ⟨gone,past⟩
    · exact .inl found
    · exact .inr ⟨gone,by omega⟩

theorem domain_logged : DomainLogged s action := by
  intro next step
  cases action with
  | report daemonId accountId report payload =>
    cases step
    dsimp only
    unfold ConvergenceState.report
    split
    · rename_i db ran
      exact .inl (converge_ignored ran).2
    · rename_i ran
      cases succeeded : report.ok with
      | true => exact .inr ⟨_,rfl,rfl⟩
      | false => exact .inl (converge_refused succeeded ran)
    · exact .inl rfl
    · exact .inl rfl
  | failConvergence operationId daemonId text =>
    obtain ⟨_,rfl⟩ := guard_parts step
    rfl
  | _ => exact True.intro

theorem converged_once (before later : List ConvergenceAction)
    (reached : convergenceMachine.run freshConvergence before = some s) (onward : convergenceMachine.run s later = some t) :
    ConvergedOnce s ∧ convergenceMachine.Along DomainLogged freshConvergence before ∧
      ∀ operationId row, s.db.operations.lookup operationId = some row → row.completed = true →
        OutcomeKept t operationId row := by
  have valid := run_preserves (fun _ _ _ => converges_step) converges_fresh reached
  refine ⟨{valid with},along_of_all fun action _ s => domain_logged,?_⟩
  intro operationId row found done
  have keeps : ∀ s action next, s.Converges ∧ operationId ∈ s.created ∧ OutcomeKept s operationId row →
      convergenceMachine.step s action = some next →
      next.Converges ∧ operationId ∈ next.created ∧ OutcomeKept next operationId row := by
    rintro s action next ⟨valid,kept⟩ step
    exact ⟨converges_step valid step,kept_move done (convergence_moves valid.named step) kept⟩
  exact (run_preserves keeps ⟨valid,valid.known _ _ found,.inl found⟩ onward).2.2

def startedTerminal : List ConvergenceAction :=
  [.enroll "daemon" ⟨"account",false⟩,
    .edit ∅ ∅ ((∅ : Table String Task).insert "task" ⟨"task","account","daemon","project","workspace",.idle,none,none,5⟩),
    .create ⟨"operation","account","daemon",.sessionCreate,some "task",some 5,[1],
      .object [("taskId",.text "task"),("sessionId",.text "session")],60000⟩,
    .install "operation" "daemon" true none,
    .report "daemon" "account" ⟨"operation",true,some "task",some "session",none,none,none,some [2]⟩ (.operationAck "session")]

-- The same report comes again, then one that says the opposite, and the exit of the session.
def saidAgain : List ConvergenceAction :=
  [.report "daemon" "account" ⟨"operation",true,some "task",some "session",none,none,none,some [2]⟩ (.operationAck "session"),
    .report "daemon" "account" ⟨"operation",false,none,none,none,none,some "error",none⟩ .other,
    .exit "daemon" "account" "task" "session" 0,.removeTask "task" "account" "daemon" true,.wait 60000,.sweep 60000]

def monthLater : List ConvergenceAction := [.wait (retention + 1),.purge (retention + 1)]

def storedAfter (before later : List ConvergenceAction) : Option (Option OperationRecord × Option OperationRecord) :=
  (convergenceMachine.run freshConvergence before).bind fun s => (convergenceMachine.run s later).map fun t =>
    (s.db.operations.lookup "operation",t.db.operations.lookup "operation")

theorem storedAfter_runs (ran : storedAfter before later = some (earlier,after)) :
    ∃ s t, convergenceMachine.run freshConvergence before = some s ∧ convergenceMachine.run s later = some t ∧
      s.db.operations.lookup "operation" = earlier ∧ t.db.operations.lookup "operation" = after := by
  obtain ⟨s,reached,ran⟩ := Option.bind_eq_some_iff.mp ran
  obtain ⟨t,onward,stored⟩ := Option.map_eq_some_iff.mp ran
  cases stored
  exact ⟨s,t,reached,onward,rfl,rfl⟩

def finishedTerminal : OperationRecord where
  operationId := "operation"
  accountId := "account"
  daemonId := "daemon"
  kind := .sessionCreate
  targetId := some "task"
  targetVersion := some 5
  frame := [1]
  metadata := .object [("taskId",.text "task"),("sessionId",.text "session")]
  expiresAt := 60000
  state := .completed
  completed := true
  installError := none
  outcome := ⟨some true,some "task",some "session",none,none,none,some [2]⟩
  createdAt := 0
  updatedAt := 0

theorem converged_once_said_again :
    ∃ s t, convergenceMachine.run freshConvergence startedTerminal = some s ∧ convergenceMachine.run s saidAgain = some t ∧
      ConvergedOnce s ∧ s.db.operations.lookup "operation" = some finishedTerminal ∧
      OutcomeKept t "operation" finishedTerminal := by
  have stored : storedAfter startedTerminal saidAgain = some (some finishedTerminal,some finishedTerminal) := by
    decide +kernel
  obtain ⟨s,t,reached,onward,found,_⟩ := storedAfter_runs stored
  obtain ⟨once,_,kept⟩ := converged_once _ _ reached onward
  exact ⟨s,t,reached,onward,once,found,kept "operation" finishedTerminal found rfl⟩

theorem outcome_purged : ¬ ∀ (before later : List ConvergenceAction) (s t : ConvergenceState),
      convergenceMachine.run freshConvergence before = some s → convergenceMachine.run s later = some t →
      ∀ operationId row, s.db.operations.lookup operationId = some row → row.completed = true →
        t.db.operations.lookup operationId = some row := by
  intro forever
  have stored : storedAfter startedTerminal monthLater = some (some finishedTerminal,none) := by
    decide +kernel
  obtain ⟨s,t,reached,onward,found,gone⟩ := storedAfter_runs stored
  have kept := forever _ _ s t reached onward "operation" finishedTerminal found rfl
  rw [gone] at kept
  cases kept

end Coflux.Server
