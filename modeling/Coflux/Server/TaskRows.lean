import Coflux.Server.Hub

namespace Coflux.Server
open FiniteMap StepMachine

abbrev Tasks := Table String Task

-- What most statements do to a row they keep: it may lose its session, and it does not begin
-- to run.
structure RowEvolves (old new : Task) : Prop where
  same : new.id = old.id ∧ new.accountId = old.accountId ∧ new.daemonId = old.daemonId
  session : new.sessionId = old.sessionId ∨ new.sessionId = none
  running : new.status = .running → old.status = .running ∧ new.sessionId = old.sessionId

theorem RowEvolves.refl (row : Task) : RowEvolves row row := ⟨⟨rfl,rfl,rfl⟩,.inl rfl,fun running => ⟨running,rfl⟩⟩

def Evolved (before after : Tasks) : Prop :=
  ∀ taskId new, after.lookup taskId = some new → ∃ old, before.lookup taskId = some old ∧ RowEvolves old new

theorem Evolved.refl (tasks : Tasks) : Evolved tasks tasks := fun _ new found => ⟨new,found,.refl new⟩

theorem erase_evolved : Evolved tasks (tasks.erase taskId) :=
  fun _ new found => ⟨new,erase_lookup found,.refl new⟩

theorem keep_evolved : Evolved tasks (keep test tasks) :=
  fun _ new found => ⟨new,(keep_lookup found).1,.refl new⟩

theorem insert_evolved (found : tasks.lookup taskId = some old) (evolves : RowEvolves old new) :
    Evolved tasks (tasks.insert taskId new) := by
  intro other row stored
  rcases insert_lookup stored with ⟨rfl,rfl⟩ | ⟨_,earlier⟩
  · exact ⟨old,found,evolves⟩
  · exact ⟨row,earlier,.refl row⟩

section Updates
variable {db : Database} {id : String}

theorem updateTaskWhere_cases {id : String} (change : Task → Task) :
    (db.updateTaskWhere id test change = (db,none) ∧ ∀ row, db.tasks.lookup id = some row → test row = false) ∨
      ∃ row, db.tasks.lookup id = some row ∧ test row = true ∧
        db.updateTaskWhere id test change = ({db with tasks := db.tasks.insert id (change row)},some (change row)) := by
  unfold Database.updateTaskWhere
  cases found : db.tasks.lookup id with
  | none => exact .inl ⟨rfl,nofun⟩
  | some row =>
    cases passes : test row with
    | true => exact .inr ⟨row,rfl,passes,by rw [Option.filter_some_pos passes]⟩
    | false =>
      refine .inl ⟨by rw [Option.filter_some_neg (by simp [passes])],?_⟩
      intro other same
      cases same
      exact passes

theorem updateTaskWhere_evolved (evolves : ∀ row, test row = true → RowEvolves row (change row)) :
    Evolved db.tasks (db.updateTaskWhere id test change).1.tasks := by
  rcases updateTaskWhere_cases change with ⟨none,_⟩ | ⟨_,found,passes,changed⟩
  · rw [none]
    exact .refl db.tasks
  · rw [changed]
    exact insert_evolved found (evolves _ passes)

theorem updateTaskWhere_returned (returned : (db.updateTaskWhere id test change).2 = some new) :
    (db.updateTaskWhere id test change).1.tasks.lookup id = some new ∧
      ∃ old, db.tasks.lookup id = some old ∧ test old = true ∧ new = change old := by
  rcases updateTaskWhere_cases change with ⟨none,_⟩ | ⟨row,found,passes,changed⟩
  · rw [none] at returned
    cases returned
  · rw [changed] at returned ⊢
    cases returned
    exact ⟨AList.lookup_insert db.tasks,row,found,passes,rfl⟩

theorem exited_evolves (row : Task) :
    RowEvolves row {row with status := .exited,sessionId := none,exitCode := exitCode,updatedAt := now} :=
  ⟨⟨rfl,rfl,rfl⟩,.inr rfl,nofun⟩

theorem moved_evolves {target : Workspace} :
    RowEvolves row {row with workspaceId := target.id,projectId := target.projectId,updatedAt := now} :=
  ⟨⟨rfl,rfl,rfl⟩,.inl rfl,fun running => ⟨running,rfl⟩⟩

end Updates

section Statements
variable {db : Database}

theorem mem_tasksWhere :
    taskId ∈ db.tasksWhere test ↔ ∃ task, db.tasks.lookup taskId = some task ∧ test task = true := by
  unfold Database.tasksWhere
  rw [List.mem_map]
  constructor
  · rintro ⟨⟨taskId,task⟩,mem,rfl⟩
    rw [List.mem_filter] at mem
    exact ⟨task,mem_entries.mp mem.1,mem.2⟩
  · rintro ⟨task,found,passes⟩
    exact ⟨(taskId,task),List.mem_filter.mpr ⟨mem_entries.mpr found,passes⟩,rfl⟩

def Gone (before after : Tasks) (taskIds : List String) : Prop :=
  ∀ taskId ∈ taskIds, (∃ old, before.lookup taskId = some old) ∧ after.lookup taskId = none

theorem Gone.nil : Gone before after [] := fun _ mem => absurd mem List.not_mem_nil

theorem removeTasksWhere_gone : Gone db.tasks (db.removeTasksWhere test).1.tasks (db.tasksWhere test) := by
  intro taskId mem
  obtain ⟨task,found,passes⟩ := mem_tasksWhere.mp mem
  refine ⟨⟨task,found⟩,?_⟩
  cases left : (db.removeTasksWhere test).1.tasks.lookup taskId with
  | none => rfl
  | some other =>
    obtain ⟨stored,kept⟩ := keep_lookup left
    cases Option.some.inj (found.symm.trans stored)
    rw [passes] at kept
    cases kept

theorem expireTargets_tasks : (db.expireTargets now accountId daemonId taskIds).1.tasks = db.tasks := by
  unfold Database.expireTargets
  suffices general : ∀ start : Database × List String, (taskIds.foldl (fun result taskId =>
        let expired := result.1.operations.expirePreparedOperationsByTarget accountId daemonId .sessionCreate taskId now
        ({result.1 with operations := expired.1},result.2 ++ expired.2)) start).1.tasks = start.1.tasks from general (db,[])
  induction taskIds with
  | nil => exact fun _ => rfl
  | cons taskId rest ih => exact fun _ => ih _

theorem removeWorkspaceRecord_tasks :
    (removeWorkspaceRecord db now workspace accountId daemonId).tasks = (db.removeTasksByWorkspace workspace.id).1.tasks := by
  unfold removeWorkspaceRecord Database.removeWorkspace
  exact expireTargets_tasks

section
variable (db : Database) (now : Nat) (id accountId daemonId : String)

theorem removeTaskRecord_rows :
    Evolved db.tasks (removeTaskRecord db now id accountId daemonId rejectRunning).tasks ∧
      Gone db.tasks (removeTaskRecord db now id accountId daemonId rejectRunning).tasks
        (removedTask db id accountId daemonId rejectRunning).toList := by
  unfold removeTaskRecord removedTask
  cases db.claimActiveDevice daemonId accountId with
  | none => exact ⟨.refl db.tasks,.nil⟩
  | some device =>
    cases found : (db.tasks.lookup id).filter fun task => task.accountId = accountId && task.daemonId = daemonId with
    | none => exact ⟨.refl db.tasks,.nil⟩
    | some current =>
      dsimp only
      split
      · exact ⟨.refl db.tasks,.nil⟩
      · refine ⟨erase_evolved,?_⟩
        intro taskId mem
        cases List.mem_singleton.mp mem
        exact ⟨⟨current,(Option.filter_eq_some_iff.mp found).1⟩,AList.lookup_erase id db.tasks⟩

theorem removeDirWorkspace_rows : Evolved db.tasks (removeDirWorkspace db now id accountId daemonId).tasks ∧
      Gone db.tasks (removeDirWorkspace db now id accountId daemonId).tasks
        ((removedWithDirectory db id accountId daemonId).getD []) := by
  unfold removeDirWorkspace removedWithDirectory
  cases db.claimActiveDevice daemonId accountId with
  | none => exact ⟨.refl db.tasks,.nil⟩
  | some device =>
    cases (db.workspaces.lookup id).filter fun workspace => workspace.accountId = accountId &&
        workspace.daemonId = daemonId && !workspace.isMain && isDirWorkspace workspace with
    | none => exact ⟨.refl db.tasks,.nil⟩
    | some current =>
      dsimp only
      rw [removeWorkspaceRecord_tasks]
      exact ⟨keep_evolved,removeTasksWhere_gone⟩

theorem finalizeDeletingProject_rows : Evolved db.tasks (finalizeDeletingProject db now id accountId daemonId).tasks ∧
      Gone db.tasks (finalizeDeletingProject db now id accountId daemonId).tasks
        ((removedWithProject db id accountId daemonId).getD []) := by
  -- The rows that are left after some workspaces are rows from before, of none of them.
  have walk : ∀ (workspaces : List Workspace) (start : Database),
      let after := workspaces.foldl (fun db workspace => removeWorkspaceRecord db now workspace accountId daemonId) start
      ∀ taskId row, after.tasks.lookup taskId = some row →
        start.tasks.lookup taskId = some row ∧ ∀ workspace ∈ workspaces, row.workspaceId ≠ workspace.id := by
    intro workspaces
    induction workspaces with
    | nil => exact fun start taskId row found => ⟨found,fun _ mem => absurd mem List.not_mem_nil⟩
    | cons workspace rest ih =>
      intro start after taskId row found
      obtain ⟨earlier,others⟩ := ih _ taskId row found
      rw [removeWorkspaceRecord_tasks] at earlier
      obtain ⟨stored,kept⟩ := keep_lookup earlier
      refine ⟨stored,?_⟩
      intro other mem
      rcases List.mem_cons.mp mem with rfl | later
      · simpa using kept
      · exact others _ later
  unfold finalizeDeletingProject removedWithProject
  cases db.claimActiveDevice daemonId accountId with
  | none => exact ⟨.refl db.tasks,.nil⟩
  | some device =>
    cases (db.claimDeletingProject id).filter fun project => project.accountId = accountId &&
        project.daemonId = daemonId with
    | none => exact ⟨.refl db.tasks,.nil⟩
    | some project =>
      dsimp only
      split
      · exact ⟨.refl db.tasks,.nil⟩
      · refine ⟨fun taskId row found => ⟨row,(walk _ db _ _ found).1,.refl row⟩,?_⟩
        intro taskId mem
        obtain ⟨_,listed,removed⟩ := List.mem_flatMap.mp mem
        obtain ⟨task,found,there⟩ := mem_tasksWhere.mp removed
        refine ⟨⟨task,found⟩,Option.eq_none_iff_forall_ne_some.mpr ?_⟩
        intro row left
        obtain ⟨stored,others⟩ := walk _ db _ _ left
        cases Option.some.inj (found.symm.trans stored)
        exact others _ listed (by simpa using there)

end

theorem removeDevice_rows :
    Evolved db.tasks (removeDevice db now daemonId accountId).tasks ∧
      Gone db.tasks (removeDevice db now daemonId accountId).tasks ((removedWithDevice db daemonId accountId).getD []) := by
  unfold removeDevice removedWithDevice
  cases db.claimActiveDevice daemonId accountId with
  | none => exact ⟨.refl db.tasks,.nil⟩
  | some device =>
    have gone : Gone db.tasks (db.removeTasksByDaemon daemonId).1.tasks _ := removeTasksWhere_gone
    exact ⟨keep_evolved,gone⟩

def Named (tasks : Tasks) : Prop := ∀ taskId row, tasks.lookup taskId = some row → row.id = taskId

theorem Named.evolved (named : Named before) (evolved : Evolved before after) : Named after := by
  intro taskId new found
  obtain ⟨_,earlier,evolves⟩ := evolved _ new found
  exact evolves.same.1.trans (named _ _ earlier)

theorem finishExit_rows (named : Named db.tasks) (exitCode : Int) :
    Evolved db.tasks (finishExit db now daemonId accountId taskId sessionId exitCode).tasks ∧
      ∀ outcome, exitOutcome db now daemonId accountId taskId sessionId exitCode = some outcome →
        ∃ row, (finishExit db now daemonId accountId taskId sessionId exitCode).tasks.lookup taskId = some row ∧
          (sessionId ≠ "" → row.sessionId ≠ some sessionId) ∧ ∀ task ∈ outcome, task = row := by
  unfold finishExit exitOutcome
  cases db.claimActiveDevice daemonId accountId with
  | none => exact ⟨.refl db.tasks,nofun⟩
  | some device =>
    cases found : (db.tasks.lookup taskId).filter fun task => task.accountId = accountId && task.daemonId = daemonId with
    | none => exact ⟨.refl db.tasks,nofun⟩
    | some task =>
      obtain ⟨stored,_⟩ := Option.filter_eq_some_iff.mp found
      have own := named _ _ stored
      dsimp only
      generalize db.operations.findLatestPreparedOperation task.accountId task.daemonId .sessionCreate task.id = operation
      obtain ⟨ended,ending⟩ : ∃ ended : Task,
          {task with status := .exited,sessionId := none,exitCode := some exitCode,updatedAt := now} = ended := ⟨_,rfl⟩
      have changed : (db.updateTaskWhere task.id (fun _ => true) fun task =>
          {task with status := .exited,sessionId := none,exitCode := some exitCode,updatedAt := now}) =
          ({db with tasks := db.tasks.insert taskId ended},some ended) := by
        unfold Database.updateTaskWhere
        rw [own,stored,← ending]
        rfl
      have evolves : RowEvolves task ended := ending ▸ exited_evolves _
      have without : ended.sessionId = none := by rw [← ending]
      rw [changed]
      -- Whether the operation is finished as well is no matter of the rows.
      cases operation.filter fun operation : OperationRecord => !operation.completed
      all_goals
        split
        · exact ⟨.refl db.tasks,nofun⟩
        · split
          · rename_i exited
            refine ⟨.refl db.tasks,?_⟩
            rintro outcome ⟨⟩
            refine ⟨task,stored,?_,nofun⟩
            intro named same
            simp [same,named] at exited
          · split
            all_goals
              refine ⟨insert_evolved stored evolves,?_⟩
              rintro outcome ⟨⟩
              exact ⟨ended,AList.lookup_insert db.tasks,fun _ => by rw [without]; nofun,fun _ same => (Option.some.inj same).symm⟩

def Adds (before after : Tasks) (task : Task) : Prop :=
  before.lookup task.id = none ∧ after = before.insert task.id task

theorem createTask_adds (created : db.createTask task = some after) : Adds db.tasks after.tasks task := by
  unfold Database.createTask at created
  split at created
  · cases created
  · rename_i free
    cases created
    simp only [Bool.or_eq_true,not_or,Option.not_isSome_iff_eq_none] at free
    exact ⟨free.1,rfl⟩

structure CreatedAs (before after : Tasks) (taskId : String) (sessionId : Option String) (task : Task) : Prop where
  adds : Adds before after task
  own : task.id = taskId
  idle : task.status = .idle
  session : task.sessionId = sessionId

theorem idleTask_created (created : db.createTask (idleTask now workspace taskId sessionId) = some after) :
    CreatedAs db.tasks after.tasks taskId sessionId (idleTask now workspace taskId sessionId) :=
  ⟨createTask_adds created,rfl,rfl,rfl⟩

def Creates (before after : Tasks) (taskId : String) (sessionId : Option String) (result : Option Task) : Prop :=
  match result with
  | some task => CreatedAs before after taskId sessionId task
  | none => after = before

theorem createTaskIn_creates :
    Creates db.tasks (createTaskIn db now accountId daemonId workspaceId taskId).1.tasks taskId none
      (createTaskIn db now accountId daemonId workspaceId taskId).2 := by
  unfold createTaskIn
  split
  · split
    · rename_i created
      exact idleTask_created created
    · rfl
  · rfl

theorem createTerminalAt_creates :
    Creates db.tasks (createTerminalAt db now accountId daemonId path taskId workspaceId).1.tasks taskId none
      (createTerminalAt db now accountId daemonId path taskId workspaceId).2 := by
  unfold createTerminalAt
  cases db.claimActiveDevice daemonId accountId with
  | none => rfl
  | some device =>
    dsimp only
    split
    · rfl
    · rename_i tx _ ready
      have same : tx.tasks = db.tasks := by
        split at ready
        · cases ready
          rfl
        · obtain ⟨_,created,pair⟩ := Option.map_eq_some_iff.mp ready
          cases pair
          unfold Database.createWorkspace at created
          split at created
          · cases created
          · cases created
            rfl
      split
      · rename_i created
        rw [← same]
        exact idleTask_created created
      · rfl

theorem openTerminalIn_creates :
    Creates db.tasks (openTerminalIn db now limit accountId daemonId workspaceId taskId operation).1.tasks taskId none
      ((openTerminalIn db now limit accountId daemonId workspaceId taskId operation).2.map Prod.fst) := by
  unfold openTerminalIn
  split
  · split
    · rfl
    · dsimp only
      split
      · rename_i created
        have new := idleTask_created created
        exact new
      · rfl
  · rfl

theorem terminalNewIn_creates :
    Creates db.tasks (terminalNewIn db now limit daemon origin workspaceId new).1.tasks new.taskId (some new.sessionId)
      (terminalNewIn db now limit daemon origin workspaceId new).2 := by
  unfold terminalNewIn
  split
  · split
    · rfl
    · split
      · rename_i created
        exact idleTask_created created
      · rfl
  · rfl

def Returns (after : Tasks) (tasks : List Task) : Prop := ∀ task ∈ tasks, after.lookup task.id = some task

theorem locateTarget_tasks (found : locateTarget db now daemon project value workspaceId = some (tx,target,created)) :
    tx.tasks = db.tasks := by
  unfold locateTarget at found
  split at found
  · obtain ⟨_,_,pair⟩ := Option.map_eq_some_iff.mp found
    cases pair
    rfl
  · split at found
    · cases found
      rfl
    · split at found
      · obtain ⟨_,created,pair⟩ := Option.map_eq_some_iff.mp found
        cases pair
        unfold Database.createWorkspace at created
        split at created
        · cases created
        · cases created
          rfl
      · cases found

theorem locate_rows (named : Named db.tasks) (workspaceId : String) :
    Evolved db.tasks (locateAgentWorkspace db now daemon originId originSession value workspaceId).1.tasks ∧
      ∀ created task, (locateAgentWorkspace db now daemon originId originSession value workspaceId).2 = some (created,task) →
        Returns (locateAgentWorkspace db now daemon originId originSession value workspaceId).1.tasks task.toList := by
  unfold locateAgentWorkspace
  split
  · split
    · exact ⟨.refl db.tasks,nofun⟩
    · split
      · exact ⟨.refl db.tasks,nofun⟩
      · rename_i tx _ _ found
        have same := locateTarget_tasks found
        split
        · refine ⟨same ▸ .refl db.tasks,?_⟩
          rintro created task ⟨⟩
          exact nofun
        · unfold Database.moveTaskToWorkspace
          rcases updateTaskWhere_cases _ with ⟨none,_⟩ | ⟨_,stored,_,moved⟩
          · rw [none]
            exact ⟨.refl db.tasks,nofun⟩
          · rw [moved]
            rw [same] at stored
            have own := named _ _ stored
            refine ⟨same ▸ insert_evolved (same.symm ▸ stored) moved_evolves,?_⟩
            rintro created task ⟨⟩ returned mem
            cases List.mem_singleton.mp mem
            exact own ▸ AList.lookup_insert tx.tasks
  · exact ⟨.refl db.tasks,nofun⟩

theorem forget_rows (named : Named db.tasks) :
    Evolved db.tasks (forgetAgentWorkspace db now daemon originId workspaceId).1.tasks ∧
      ∀ tasks, (forgetAgentWorkspace db now daemon originId workspaceId).2 = some tasks →
        Returns (forgetAgentWorkspace db now daemon originId workspaceId).1.tasks tasks := by
  unfold forgetAgentWorkspace
  split
  · dsimp only
    split
    · rename_i target main _ _
      have stored := fun taskId => lookup_mapValues (fun (_ : String) (task : Task) => if task.workspaceId = target.id then
        {task with workspaceId := main.id,projectId := main.projectId,updatedAt := now} else task) db.tasks taskId
      refine ⟨?_,?_⟩
      · intro taskId new found
        obtain ⟨old,earlier,rfl⟩ := Option.map_eq_some_iff.mp ((stored _).symm.trans found)
        refine ⟨old,earlier,?_⟩
        split
        · exact moved_evolves
        · exact .refl old
      · rintro tasks ⟨⟩ task mem
        obtain ⟨_,listed,rfl⟩ := List.mem_map.mp mem
        obtain ⟨mem,there⟩ := List.mem_filter.mp listed
        obtain ⟨⟨_,row⟩,entry,rfl⟩ := List.mem_map.mp mem
        have found := mem_entries.mp entry
        have own := named _ row found
        have moved : row.workspaceId = target.id := by simpa using there
        subst own
        refine (stored _).trans ?_
        rw [found,Option.map_some,if_pos moved]
    · exact ⟨.refl db.tasks,nofun⟩
  · exact ⟨.refl db.tasks,nofun⟩

structure BindsTask (before after : Tasks) (operation : OperationRecord) (effect : OperationEffect) (entry : Binding)
    (new : Task) : Prop where
  asked : operation.kind = .sessionCreate ∧ metadataString operation.metadata "taskId" = some entry.taskId ∧
    metadataString operation.metadata "sessionId" = some entry.sessionId
  told : effect.task = some new ∧ effect.sessionId = some entry.sessionId ∧ effect.removedTaskIds = none
  plain : effect = {operation.effect with task := effect.task,sessionId := effect.sessionId}
  origin : ∃ old, before.lookup entry.taskId = some old ∧ new.id = old.id ∧ new.accountId = operation.accountId ∧
    new.daemonId = operation.daemonId
  bound : new.status = .running ∧ new.sessionId = some entry.sessionId
  stored : after.lookup entry.taskId = some new
  others : ∀ taskId, taskId ≠ entry.taskId → after.lookup taskId = before.lookup taskId

-- The rows after a report was carried out: none is bound, or one is.
def Reported (before after : Tasks) (operation : OperationRecord) (effect : OperationEffect) : Prop :=
  (Evolved before after ∧ effect.task = none ∧ Gone before after (effect.removedTaskIds.getD [])) ∨
    ∃ entry new, BindsTask before after operation effect entry new

section Kinds
variable {tx after : Database}

theorem reported_same (same : after.tasks = tx.tasks) (untold : effect.task = none) (kept : effect.removedTaskIds = none) :
    Reported tx.tasks after.tasks operation effect := by
  refine .inl ⟨same ▸ .refl tx.tasks,untold,?_⟩
  rw [kept]
  exact .nil

theorem removeWorktree_reported (result : removeWorktree tx now operation = .ok (after,effect)) :
    Reported tx.tasks after.tasks operation effect := by
  unfold removeWorktree at result
  split at result
  · split at result
    · cases result
      exact reported_same rfl rfl rfl
    · split at result
      · cases result
      · rename_i workspace _ _
        cases result
        have same : ((tx.removeTasksByWorkspace workspace.id).1.expireTargets now operation.accountId operation.daemonId
            (tx.removeTasksByWorkspace workspace.id).2).1.tasks = (tx.removeTasksByWorkspace workspace.id).1.tasks :=
          expireTargets_tasks
        refine .inl ⟨?_,rfl,?_⟩
        · exact same ▸ keep_evolved
        · exact same ▸ removeTasksWhere_gone
  · cases result

theorem createSession_reported (named : Named tx.tasks) (kind : operation.kind = .sessionCreate)
    (result : createSession tx now operation report sessionId = .ok (after,effect)) :
    Reported tx.tasks after.tasks operation effect := by
  unfold createSession at result
  split at result
  · rename_i taskId sessionId asked session
    split at result
    · cases result
    · split at result
      · cases result
      · rename_i task found
        obtain ⟨stored,owned⟩ := Option.filter_eq_some_iff.mp found
        simp only [Bool.and_eq_true,decide_eq_true_eq] at owned
        have own := named _ _ stored
        unfold bindSession at result
        split at result
        · rename_i already
          cases result
          exact .inr ⟨⟨sessionId,taskId⟩,task,⟨kind,asked,session⟩,⟨rfl,rfl,rfl⟩,rfl,⟨task,stored,rfl,owned⟩,already,stored,
            fun _ _ => rfl⟩
        · split at result
          · cases result
          · split at result
            · cases result
            · split at result
              · rename_i updated
                cases result
                rcases updateTaskWhere_cases _ with ⟨none,_⟩ | ⟨_,there,_,changed⟩
                · rw [updated] at none
                  cases none
                · rw [updated] at changed
                  cases changed
                  rw [own] at there
                  cases Option.some.inj (stored.symm.trans there)
                  refine .inr ⟨⟨sessionId,taskId⟩,_,⟨kind,asked,session⟩,⟨rfl,rfl,rfl⟩,rfl,⟨task,stored,rfl,owned⟩,⟨rfl,rfl⟩,?_,?_⟩
                  · exact own ▸ AList.lookup_insert tx.tasks
                  · intro other apart
                    exact AList.lookup_insert_ne (own ▸ apart)
              · cases result
  · cases result

theorem applyReport_reported (result : applyReport tx now operation report payload = .ok (after,effect))
    (named : Named tx.tasks) : Reported tx.tasks after.tasks operation effect := by
  unfold applyReport at result
  split at result
  · cases result
    exact reported_same rfl rfl rfl
  · split at result
    · have only := importProject_domain result
      exact reported_same only.tasks only.untold only.kept
    · have only := addWorktree_domain result
      exact reported_same only.tasks only.untold only.kept
    · exact removeWorktree_reported result
    · rename_i kind
      exact createSession_reported named kind result
    · cases result

end Kinds

theorem converge_rows (named : Named db.tasks) (result : converge db now daemonId accountId report payload = .ok (after,effect)) :
    (effect = none ∧ after.tasks = db.tasks) ∨
      ∃ told operation, effect = some told ∧ Reported db.tasks after.tasks operation told ∧
        operation.accountId = accountId ∧ operation.daemonId = daemonId ∧
        ∃ old, db.operations.lookup report.operationId = some old ∧ old.unsettled = true ∧
          operation.toNewOperation = old.toNewOperation := by
  cases converge_cases result with
  | unclaimed | ignored => exact .inl ⟨rfl,rfl⟩
  | applied claimed mine ran _ =>
    have rows := applyReport_reported ran named
    obtain ⟨old,found,passes,rfl,_⟩ := updateOne_returned claimed
    simp only [Bool.and_eq_true,Bool.not_eq_true',bne_iff_ne] at passes
    refine .inr ⟨_,_,rfl,rows,mine.1,mine.2,old,found,?_,rfl⟩
    simp [OperationRecord.unsettled,passes.1.1.2,passes.2]

end Statements

end Coflux.Server
