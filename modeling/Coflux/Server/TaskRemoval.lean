import Coflux.Server.TaskRows

namespace Coflux.Server
open FiniteMap StepMachine
open List (mem_append mem_append_left mem_map mem_singleton_self)
open Option (filter_eq_some_iff getD_some map_eq_some_iff mem_toList)

def OperationEffect.tells (effect : OperationEffect) (taskId : Option String) : List String :=
  (effect.task.toList.map Task.id).filter fun id => some id = taskId

def Job.target : Job → Option String
  | .liveRead _ entry | .liveRun _ entry | .liveRan _ entry | .absentRun _ entry | .absentRan _ entry => some entry.taskId
  | .exitRun _ exit | .exitRan _ exit => some exit.taskId
  | .sessionStarted _ entry | .sessionExit _ entry _ | .aliveRead _ _ entry | .aliveRun _ _ entry => some entry.taskId
  | .converge _ _ _ taskId | .reportPush _ taskId | .finalizeProject _ _ _ (.report _ taskId) => taskId
  | .createTask _ _ _ taskId | .createTerminal _ _ _ taskId _ | .openTerminal _ _ _ taskId _ => some taskId
  | .terminalNew _ _ _ new => some new.taskId
  | _ => none

-- What a handler may tell of tasks without another look at the database; the tasks it has removed
-- and not announced yet.
structure Telling where
  promised : List String := []
  loose : List String := []
  removing : List String := []
  revoking : List String := []

def Job.sentTelling : Job → Telling
  | .reportPush effect taskId | .finalizeProject _ _ _ (.report effect taskId) => {promised := effect.tells taskId}
  | .opened task => {loose := [task.id]}
  | .locatePush task => {loose := task.toList.map Task.id}
  | .revokeDevice _ _ taskIds => {revoking := taskIds}
  | _ => {}

def Job.answeredTelling : (job : Job) → job.Result → Telling
  | .liveRead _ entry,task | .aliveRead _ _ entry,task => {promised := task.toList.map fun _ => entry.taskId}
  | .liveRun _ entry,updated | .liveRan _ entry,updated | .aliveRun _ _ entry,updated =>
    {promised := updated.toList.flatMap fun task => [entry.taskId,task.id]}
  | .exitRun _ _,outcome | .exitRan _ _,outcome => {promised := (outcome.getD none).toList.map Task.id}
  | .absentRun _ _,updated | .absentRan _ _,updated => {promised := updated.toList.map Task.id}
  | .sessionStarted _ _,updated | .sessionExit _ _ _,updated => {promised := updated.toList.map Task.id}
  | .converge _ _ _ taskId,.ok (some effect) =>
    {promised := effect.tells taskId,removing := effect.removedTaskIds.getD []}
  | .reportPush effect taskId,_ => {promised := effect.tells taskId}
  | .finalizeProject _ _ _ (.report effect taskId),removedIds =>
    {promised := effect.tells taskId,removing := removedIds.getD []}
  | .finalizeProject _ _ _ _,removedIds => {removing := removedIds.getD []}
  | .createTask _ _ _ _,task | .createTerminal _ _ _ _ _,task => {promised := task.toList.map Task.id}
  | .openTerminal _ _ _ _ _,result => {promised := result.toList.map fun pair => pair.1.id}
  | .terminalNew _ _ _ new,task => {promised := task.toList.flatMap fun task => [new.taskId,task.id]}
  | .opened task,_ => {loose := [task.id]}
  | .locate _ _ _ _ _,outcome => {loose := (outcome.bind Prod.snd).toList.map Task.id}
  | .locatePush task,_ => {loose := task.toList.map Task.id}
  | .forget _ _ _,moved => {loose := (moved.getD []).map Task.id}
  | .undoNew _ new announce,gone => {removing := if announce && gone then [new.taskId] else []}
  | .removeTask _ _ _ _,gone => {removing := gone.toList}
  | .removeDirWorkspace _ _ _,gone | .removeDevice _ _,gone => {removing := gone.getD []}
  | .revokeDevice _ _ taskIds,_ => {revoking := taskIds}
  | _,_ => {}

def Stage.job : Stage → Job
  | .waiting job | .sent job | .answered job _ => job

def Stage.telling : Stage → Telling
  | .waiting job | .sent job => job.sentTelling
  | .answered job result => job.answeredTelling result

def HubState.announces (s : HubState) (call : Call) : List String :=
  match call.stage with
  | .answered (.converge daemon _ _ _) (.ok (some effect)) =>
    if !s.isCurrent daemon || call.deviceCancelled then [] else effect.removedTaskIds.getD []
  | .answered (.removeDevice _ _) _ => []
  | .answered (.revokeDevice _ _ taskIds) _ => if s.shuttingDown then [] else taskIds
  | stage => stage.telling.removing

def HubAction.resumed : HubAction → Option Nat
  | .resume n _ => some n
  | _ => none

-- Nobody that tells of a task without a guard has it in hand when its removal is broadcast.
def Unheld (s : HubState) (action : HubAction) : Prop :=
  ∀ n ∈ action.resumed, ∀ call ∈ s.calls.lookup n, ∀ taskId ∈ s.announces call, ∀ entry ∈ entries s.calls,
    taskId ∉ entry.2.stage.telling.loose

instance : Decidable (Unheld s action) :=
  inferInstanceAs (Decidable (∀ n ∈ action.resumed, ∀ call ∈ s.calls.lookup n, ∀ taskId ∈ s.announces call,
    ∀ entry ∈ entries s.calls, taskId ∉ entry.2.stage.telling.loose))

def RemovalFinal (s : HubState) : Prop := ∀ entry ∈ s.shown, entry.late = false

abbrev Calls := Table Nat Call

-- Nobody has the task in hand without a guard.
def Calls.Free (calls : Calls) (taskId : String) : Prop :=
  ∀ n call, calls.lookup n = some call → taskId ∉ call.stage.telling.loose

def Call.Guarded (call : Call) : Prop :=
  ∀ taskId, call.stage.job.target = some taskId → ∃ cancelled, call.task = some ⟨taskId,cancelled⟩

-- A handler in flight with regard to the tasks that are removed.
structure Sound (tasks : Tasks) (created retired removed : List String) (call : Call) : Prop where
  guarded : call.Guarded
  promised : ∀ taskId ∈ call.stage.telling.promised, call.stage.job.target = some taskId ∧
    (taskId ∈ retired → call.cancelled = true)
  loose : ∀ taskId ∈ call.stage.telling.loose, taskId ∉ removed
  removing : ∀ taskId ∈ call.stage.telling.removing, taskId ∈ created ∧ tasks.lookup taskId = none
  revoking : ∀ taskId ∈ call.stage.telling.revoking, taskId ∈ retired

structure Removing (tasks : Tasks) (created retired removed : List String) (shown : List Shown) (calls : Calls) : Prop where
  named : Named tasks
  known : ∀ taskId row, tasks.lookup taskId = some row → taskId ∈ created
  gone : ∀ taskId ∈ retired, taskId ∈ created ∧ tasks.lookup taskId = none
  announced : ∀ taskId ∈ removed, taskId ∈ retired
  sound : ∀ n call, calls.lookup n = some call → Sound tasks created retired removed call
  final : ∀ entry ∈ shown, entry.late = false

def HubState.Removes (s : HubState) : Prop := Removing s.db.tasks s.created s.retired s.removed s.shown s.calls

section Calls
variable {n : Nat} {call : Call}

section
variable (valid : Removing tasks created retired removed shown calls)
include valid

theorem removing_erase : Removing tasks created retired removed shown (calls.erase n) :=
  {valid with sound := Each.erase valid.sound}

theorem removing_put
    (sound : Sound tasks created retired removed new) : Removing tasks created retired removed shown (calls.insert n new) :=
  {valid with sound := Each.insert valid.sound sound}

end

theorem sound_plain (guarded : new.Guarded) (plain : new.stage.telling = {}) : Sound tasks created retired removed new := by
  refine ⟨guarded,?_,?_,?_,?_⟩
  all_goals
    rw [plain]
    exact nofun

section
variable (valid : Removing tasks created retired removed shown calls)
include valid

theorem removing_plain (guarded : new.Guarded)
    (plain : new.stage.telling = {}) : Removing tasks created retired removed shown (calls.insert n new) :=
  removing_put valid (sound_plain guarded plain)

theorem removing_show (kept : taskId ∉ removed) :
    Removing tasks created retired removed (⟨taskId,mapped,removed.contains taskId⟩ :: shown) calls := by
  refine {valid with final := ?_}
  intro entry mem
  rcases List.mem_cons.mp mem with rfl | earlier
  · dsimp only
    rw [← Bool.not_eq_true,List.contains_iff_mem]
    exact kept
  · exact valid.final entry earlier

end

theorem cancel_guard (found : call.task = some ⟨taskId,cancelled⟩) :
    HubState.cancel ids call.task = some ⟨taskId,cancelled || ids.contains taskId⟩ := by
  rw [found]
  rfl

theorem cancel_cancelled (found : call.cancelled = true) :
    ({call with task := HubState.cancel ids call.task} : Call).cancelled = true := by
  unfold Call.cancelled at found ⊢
  cases guard : call.task with
  | none => rw [guard] at found; cases found
  | some guard' =>
    rw [guard] at found
    simp only [Option.any_some] at found
    simp [HubState.cancel,found]

theorem removing_retire (valid : Removing tasks created retired removed shown calls) (found : calls.lookup n = some call)
    (cancels : List String) (within : ∀ taskId ∈ ids, taskId ∈ cancels)
    (mine : ∀ taskId ∈ ids, taskId ∈ call.stage.telling.removing) :
    Removing tasks created (ids ++ retired) removed shown
      (mapValues (fun _ call => {call with task := HubState.cancel cancels call.task}) calls) := by
  refine ⟨valid.named,valid.known,?_,?_,?_,valid.final⟩
  · intro taskId mem
    rcases mem_append.mp mem with now | earlier
    · exact (valid.sound n _ found).removing taskId (mine taskId now)
    · exact valid.gone taskId earlier
  · intro taskId mem
    exact List.mem_append_right _ (valid.announced taskId mem)
  · intro m other stored
    rw [lookup_mapValues] at stored
    obtain ⟨_,earlier,rfl⟩ := map_eq_some_iff.mp stored
    have sound := valid.sound m _ earlier
    refine ⟨?_,?_,sound.loose,sound.removing,fun taskId mem => List.mem_append_right _ (sound.revoking taskId mem)⟩
    · intro taskId target
      obtain ⟨cancelled,guard⟩ := sound.guarded taskId target
      exact ⟨_,cancel_guard guard⟩
    · intro taskId mem
      obtain ⟨target,cancelled⟩ := sound.promised taskId mem
      refine ⟨target,?_⟩
      intro gone
      rcases mem_append.mp gone with now | before
      · obtain ⟨_,guard⟩ := sound.guarded taskId target
        unfold Call.cancelled
        dsimp only
        rw [cancel_guard guard]
        simp [within taskId now]
      · exact cancel_cancelled (cancelled before)

theorem device_lookup (found : calls.lookup n = some call) (daemonId : String) :
    (mapValues (fun _ call => {call with device := HubState.cancel [daemonId] call.device}) calls).lookup n =
      some {call with device := HubState.cancel [daemonId] call.device} := by
  rw [lookup_mapValues,found]
  rfl

section
variable (valid : Removing tasks created retired removed shown calls)
include valid

theorem removing_device : Removing tasks created retired removed shown
      (mapValues (fun _ call => {call with device := HubState.cancel [daemonId] call.device}) calls) :=
  {valid with sound := Each.mapValues valid.sound fun _ _ sound => {sound with}}

theorem removing_announce (dead : ∀ taskId ∈ ids, taskId ∈ retired) (unheld : ∀ taskId ∈ ids, calls.Free taskId) :
    Removing tasks created retired (ids ++ removed) shown calls := by
  refine {valid with announced := ?_,sound := ?_}
  · exact List.forall_mem_append.mpr ⟨dead,valid.announced⟩
  · intro m other found
    have sound := valid.sound m other found
    refine {sound with loose := ?_}
    intro taskId mem announced
    rcases mem_append.mp announced with now | earlier
    · exact unheld taskId now m other found mem
    · exact sound.loose taskId mem earlier

end

end Calls

def RowsKept (before after : Tasks) : Prop :=
  ∀ taskId new, after.lookup taskId = some new → ∃ old, before.lookup taskId = some old ∧ new.id = old.id

theorem Evolved.kept (evolved : Evolved before after) : RowsKept before after := by
  intro taskId new found
  obtain ⟨old,earlier,evolves⟩ := evolved taskId _ found
  exact ⟨old,earlier,evolves.same.1⟩

structure Tells (before after : Tasks) (job : Job) (result : job.Result) : Prop where
  promised : ∀ taskId ∈ (job.answeredTelling result).promised, taskId ∈ job.sentTelling.promised ∨
    (job.target = some taskId ∧ ∃ row, after.lookup taskId = some row)
  loose : ∀ taskId ∈ (job.answeredTelling result).loose, taskId ∈ job.sentTelling.loose ∨
    ∃ row, after.lookup taskId = some row
  removing : Gone before after (job.answeredTelling result).removing
  revoking : (job.answeredTelling result).revoking = job.sentTelling.revoking

structure QueryRows (before after : Tasks) (job : Job) (result : job.Result) : Prop extends
    Tells before after job result where
  named : Named after
  rows : ∀ taskId new, after.lookup taskId = some new → (∃ old, before.lookup taskId = some old) ∨ job.creates = some taskId

section Queries
variable {job : Job}

section
variable (named : Named before) (kept : RowsKept before after)
include named kept

theorem query_kept (tells : Tells before after job result) : QueryRows before after job result := by
  refine ⟨tells,?_,?_⟩
  · intro taskId new found
    obtain ⟨old,earlier,same⟩ := kept taskId _ found
    exact same.trans (named taskId _ earlier)
  · intro taskId new found
    obtain ⟨old,earlier,_⟩ := kept taskId _ found
    exact .inl ⟨old,earlier⟩

theorem query_silent (promised : (job.answeredTelling result).promised = [])
    (loose : (job.answeredTelling result).loose = []) (removing : Gone before after (job.answeredTelling result).removing)
    (revoking : (job.answeredTelling result).revoking = job.sentTelling.revoking) : QueryRows before after job result := by
  refine query_kept named kept ⟨?_,?_,removing,revoking⟩
  · rw [promised]
    exact nofun
  · rw [loose]
    exact nofun

theorem query_target (promised : ∀ taskId ∈ (job.answeredTelling result).promised, job.target = some taskId ∧
      ∃ row, after.lookup taskId = some row)
    (rest : {(job.answeredTelling result) with promised := []} = ({} : Telling))
    (plain : job.sentTelling.revoking = []) : QueryRows before after job result := by
  have others := Telling.mk.inj rest
  obtain ⟨_,loose,removing,revoking⟩ := others
  refine query_kept named kept ⟨fun taskId mem => .inr (promised taskId mem),?_,?_,revoking.trans plain.symm⟩
  · rw [loose]
    exact nofun
  · rw [removing]
    exact .nil

end

theorem query_creates (named : Named before) {sessionId : Option String} {task : Option Task}
    (made : Creates before after taskId sessionId task) (target : job.target = some taskId)
    (creates : job.creates = some taskId)
    (promised : ∀ other ∈ (job.answeredTelling result).promised, ∃ made ∈ task, other = taskId ∨ other = made.id)
    (rest : {(job.answeredTelling result) with promised := []} = ({} : Telling))
    (plain : job.sentTelling.revoking = []) : QueryRows before after job result := by
  obtain ⟨_,loose,removing,revoking⟩ := Telling.mk.inj rest
  refine ⟨⟨?_,?_,?_,revoking.trans plain.symm⟩,?_,?_⟩
  · intro other mem
    obtain ⟨task,rfl,same⟩ := promised other mem
    have own : other = taskId := same.elim id fun same => same.trans made.own
    subst own
    refine .inr ⟨target,task,?_⟩
    rw [made.adds.2,← made.own]
    exact AList.lookup_insert before
  · rw [loose]
    exact nofun
  · rw [removing]
    exact .nil
  · cases task with
    | none => cases made; exact named
    | some task =>
      intro other row found
      rw [made.adds.2] at found
      rcases insert_lookup found with ⟨rfl,rfl⟩ | ⟨_,earlier⟩
      · rfl
      · exact named other _ earlier
  · cases task with
    | none => cases made; exact fun other row found => .inl ⟨row,found⟩
    | some task =>
      intro other row found
      rw [made.adds.2] at found
      rcases insert_lookup found with ⟨rfl,rfl⟩ | ⟨_,earlier⟩
      · exact .inr (made.own ▸ creates)
      · exact .inl ⟨row,earlier⟩

end Queries

theorem updateTask_kept {db : Database} {id : String}
    (same : ∀ row, (change row).id = row.id) : RowsKept db.tasks (db.updateTaskWhere id test change).1.tasks := by
  rcases updateTaskWhere_cases change with ⟨none,_⟩ | ⟨row,found,_,changed⟩
  · rw [none]
    exact fun taskId new found => ⟨new,found,rfl⟩
  · rw [changed]
    intro taskId new stored
    rcases insert_lookup stored with ⟨rfl,rfl⟩ | ⟨_,earlier⟩
    · exact ⟨row,found,same _⟩
    · exact ⟨new,earlier,rfl⟩

theorem query_update {db : Database} {test : Task → Bool} {id : String}
    (named : Named db.tasks) (same : ∀ row, (change row).id = row.id) (target : job.target = some id)
    (promised : ∀ taskId ∈ (job.answeredTelling result).promised, ∃ task,
      (db.updateTaskWhere id test change).2 = some task ∧ (taskId = id ∨ taskId = task.id))
    (rest : {(job.answeredTelling result) with promised := []} = ({} : Telling)) (plain : job.sentTelling.revoking = []) :
    QueryRows db.tasks (db.updateTaskWhere id test change).1.tasks job result := by
  refine query_target named (updateTask_kept same) ?_ rest plain
  intro taskId mem
  obtain ⟨_,returned,which⟩ := promised taskId mem
  obtain ⟨stored,_,found,_,rfl⟩ := updateTaskWhere_returned returned
  have own : taskId = id := which.elim (fun same => same) fun other => other.trans ((same _).trans (named id _ found))
  subst own
  exact ⟨target,_,stored⟩

theorem removeIdle_rows (db : Database) (daemon : Daemon) (new : Binding) :
    Evolved db.tasks (db.removeIdleTaskIfSession new.taskId daemon.accountId daemon.daemonId new.sessionId).1.tasks ∧
      Gone db.tasks (db.removeIdleTaskIfSession new.taskId daemon.accountId daemon.daemonId new.sessionId).1.tasks
        (if (db.removeIdleTaskIfSession new.taskId daemon.accountId daemon.daemonId new.sessionId).2 then [new.taskId]
        else []) := by
  unfold Database.removeIdleTaskIfSession
  split
  · rename_i row found
    refine ⟨erase_evolved,?_⟩
    intro taskId mem
    cases List.mem_singleton.mp mem
    exact ⟨⟨row,(filter_eq_some_iff.mp found).1⟩,AList.lookup_erase new.taskId db.tasks⟩
  · exact ⟨.refl db.tasks,.nil⟩

theorem mem_tells {effect : OperationEffect} (mem : other ∈ effect.tells taskId) :
    taskId = some other ∧ ∃ task, effect.task = some task ∧ task.id = other := by
  obtain ⟨listed,same⟩ := List.mem_filter.mp mem
  obtain ⟨task,found,rfl⟩ := mem_map.mp listed
  exact ⟨(of_decide_eq_true same).symm,task,mem_toList.mp found,rfl⟩

theorem query_converge (named : Named db.tasks) {report : OperationReport} (taskId : Option String) :
    QueryRows db.tasks (executeJob limit now db (.converge daemon report payload taskId)).1.tasks
      (.converge daemon report payload taskId) (executeJob limit now db (.converge daemon report payload taskId)).2 := by
  have same : RowsKept db.tasks db.tasks := (Evolved.refl db.tasks).kept
  cases ran : converge db now daemon.daemonId daemon.accountId report payload with
  | error failure =>
    have step : executeJob limit now db (.converge daemon report payload taskId) = (db,.error failure) := by
      simp only [executeJob,ran]
    rw [step]
    exact query_silent named same rfl rfl .nil rfl
  | ok pair =>
    obtain ⟨after,effect⟩ := pair
    have step : executeJob limit now db (.converge daemon report payload taskId) = (after,.ok effect) := by
      simp only [executeJob,ran]
    rw [step]
    rcases converge_rows named ran with ⟨rfl,unchanged⟩ | ⟨told,_,rfl,reported,_⟩
    · exact query_silent named (unchanged ▸ same) rfl rfl .nil rfl
    · rcases reported with ⟨evolved,untold,gone⟩ | ⟨entry,new,binds⟩
      · refine query_kept named evolved.kept ⟨?_,nofun,gone,rfl⟩
        intro other mem
        obtain ⟨_,task,found,_⟩ := mem_tells mem
        rw [untold] at found
        cases found
      · have kept : RowsKept db.tasks after.tasks := by
          intro other row found
          by_cases own : other = entry.taskId
          · subst own
            cases Option.some.inj (binds.stored.symm.trans found)
            obtain ⟨old,earlier,same,_⟩ := binds.origin
            exact ⟨old,earlier,same⟩
          · exact ⟨row,(binds.others other own).symm.trans found,rfl⟩
        refine query_kept named kept ⟨?_,nofun,?_,rfl⟩
        · intro other mem
          obtain ⟨target,_,found,rfl⟩ := mem_tells mem
          cases Option.some.inj (binds.told.1.symm.trans found)
          obtain ⟨_,earlier,same,_⟩ := binds.origin
          have own : new.id = entry.taskId := same.trans (named _ _ earlier)
          exact .inr ⟨target,new,own ▸ binds.stored⟩
        · have kept : Gone db.tasks after.tasks (told.removedTaskIds.getD []) := by
            rw [binds.told.2.2]
            exact .nil
          exact kept

theorem mem_of_getD {outcome : Option (Option Task)} (mem : task ∈ outcome.getD none) :
    ∃ changed, outcome = some changed ∧ task ∈ changed := by
  cases outcome with
  | none => cases mem
  | some changed => exact ⟨changed,rfl,mem⟩

theorem mem_row {id taskId : String} {returned : Option Task} (mem : taskId ∈ returned.toList.map Task.id) :
    ∃ task, returned = some task ∧ (taskId = id ∨ taskId = task.id) := by
  obtain ⟨task,found,rfl⟩ := mem_map.mp mem
  exact ⟨task,mem_toList.mp found,.inr rfl⟩

theorem mem_pair {id taskId : String} {returned : Option Task}
    (mem : taskId ∈ returned.toList.flatMap fun task => [id,task.id]) :
    ∃ task, returned = some task ∧ (taskId = id ∨ taskId = task.id) := by
  obtain ⟨task,found,which⟩ := List.mem_flatMap.mp mem
  exact ⟨task,mem_toList.mp found,by simpa using which⟩

theorem query_rows (limit now : Nat) (db : Database) (named : Named db.tasks) (job : Job) :
    QueryRows db.tasks (executeJob limit now db job).1.tasks job (executeJob limit now db job).2 := by
  have same : RowsKept db.tasks db.tasks := (Evolved.refl db.tasks).kept
  cases job with
  | liveRead | aliveRead =>
    refine query_target named same ?_ rfl rfl
    intro taskId mem
    obtain ⟨row,found,rfl⟩ := mem_map.mp mem
    exact ⟨rfl,row,mem_toList.mp found⟩
  | liveRun | aliveRun => exact query_update named (fun _ => rfl) rfl (fun _ => mem_pair) rfl rfl
  | sessionStarted | sessionExit | absentRun => exact query_update named (fun _ => rfl) rfl (fun _ => mem_row) rfl rfl
  | exitRun work exit =>
    obtain ⟨evolved,outcome⟩ := finishExit_rows named _
    refine query_target named evolved.kept ?_ rfl rfl
    intro taskId mem
    obtain ⟨task,found,rfl⟩ := mem_map.mp mem
    have inside : task ∈ (exitOutcome db now work.daemon.daemonId work.daemon.accountId exit.taskId exit.sessionId
      exit.exitCode).getD none := mem_toList.mp found
    obtain ⟨changed,returned,inside⟩ := mem_of_getD inside
    obtain ⟨_,stored,_,returns⟩ := outcome changed returned
    cases returns task inside
    have own := named.evolved evolved _ _ stored
    exact ⟨own ▸ rfl,task,own ▸ stored⟩
  | converge daemon report payload taskId => exact query_converge named taskId
  | finalizeProject projectId accountId daemonId after =>
    obtain ⟨evolved,gone⟩ := finalizeDeletingProject_rows db now _ _ _
    cases after with
    | report effect taskId =>
      exact query_kept named evolved.kept ⟨fun _ => .inl,nofun,gone,rfl⟩
    | register | done => exact query_silent named evolved.kept rfl rfl gone rfl
  | createTask accountId daemonId workspaceId taskId =>
    exact query_creates named createTaskIn_creates rfl rfl (fun _ => mem_row) rfl rfl
  | createTerminal accountId daemonId path taskId workspaceId =>
    exact query_creates named createTerminalAt_creates rfl rfl (fun _ => mem_row) rfl rfl
  | openTerminal accountId daemonId workspaceId taskId operation =>
    refine query_creates named openTerminalIn_creates rfl rfl ?_
      rfl rfl
    intro other mem
    obtain ⟨pair,found,rfl⟩ := mem_map.mp mem
    exact ⟨pair.1,Option.mem_map_of_mem Prod.fst (mem_toList.mp found),.inr rfl⟩
  | terminalNew daemon origin workspaceId new =>
    exact query_creates named terminalNewIn_creates rfl rfl (fun _ => mem_pair) rfl rfl
  | undoNew daemon new announce =>
    obtain ⟨evolved,gone⟩ := removeIdle_rows db _ _
    refine query_silent named evolved.kept rfl rfl ?_ rfl
    intro taskId mem
    cases announce with
    | false => cases mem
    | true => exact gone taskId mem
  | locate daemon originId originSession value workspaceId =>
    obtain ⟨evolved,returns⟩ := locate_rows named _
    refine query_kept named evolved.kept ⟨nofun,?_,.nil,rfl⟩
    intro taskId mem
    obtain ⟨task,found,rfl⟩ := mem_map.mp mem
    obtain ⟨⟨_,moved⟩,returned,rfl⟩ := Option.bind_eq_some_iff.mp (mem_toList.mp found)
    exact .inr ⟨task,returns _ (some _) returned _ (mem_singleton_self _)⟩
  | forget daemon originId workspaceId =>
    obtain ⟨evolved,returns⟩ := forget_rows named
    refine query_kept named evolved.kept ⟨nofun,?_,.nil,rfl⟩
    intro taskId mem
    obtain ⟨task,found,rfl⟩ := mem_map.mp mem
    have listed : task ∈ (forgetAgentWorkspace db now daemon originId workspaceId).2.getD [] := found
    cases moved : (forgetAgentWorkspace db now daemon originId workspaceId).2 with
    | none => rw [moved] at listed; cases listed
    | some tasks => rw [moved] at listed; exact .inr ⟨task,returns _ moved _ listed⟩
  | removeTask taskId accountId daemonId rejectRunning =>
    obtain ⟨evolved,gone⟩ := removeTaskRecord_rows db now taskId _ _
    exact query_silent named evolved.kept rfl rfl gone rfl
  | removeDirWorkspace workspaceId accountId daemonId =>
    obtain ⟨evolved,gone⟩ := removeDirWorkspace_rows db now _ _ _
    exact query_silent named evolved.kept rfl rfl gone rfl
  | removeDevice daemonId accountId =>
    obtain ⟨evolved,gone⟩ := removeDevice_rows
    exact query_silent named evolved.kept rfl rfl gone rfl
  | discard taskId => exact query_silent named erase_evolved.kept rfl rfl .nil rfl
  | reportPush effect taskId => exact query_kept named same ⟨fun _ => .inl,nofun,.nil,rfl⟩
  | locatePush | opened => exact query_kept named same ⟨nofun,fun _ => .inl,.nil,rfl⟩
  | liveRan | absentRan | exitRan | nextEntry | nextAlive | reportRead | convergeFail | closeSessions | register
  | registerRestore | registerProjects | registerTasks | closeConnection | revokeDevice =>
    exact query_silent named same rfl rfl .nil rfl

theorem removing_query (valid : Removing tasks created retired removed shown calls) (found : calls.lookup n = some call)
    (sent : call.stage = .sent job) (fresh : ∀ taskId, job.creates = some taskId → taskId ∉ created)
    (rows : QueryRows tasks after job result) :
    Removing after (job.creates.toList ++ created) retired removed shown
      (calls.insert n {call with stage := .answered job result}) := by
  have mine := valid.sound n _ found
  have telling : call.stage.telling = job.sentTelling := by rw [sent]; rfl
  have target : call.stage.job = job := by rw [sent]; rfl
  -- No row comes back: one that is new has an id that was not there before.
  have gone : ∀ taskId ∈ created, tasks.lookup taskId = none → after.lookup taskId = none := by
    intro taskId known absent
    refine Option.eq_none_iff_forall_ne_some.mpr ?_
    intro row stored
    rcases rows.rows taskId row stored with ⟨old,earlier⟩ | creates
    · rw [absent] at earlier
      cases earlier
    · exact fresh taskId creates known
  have dead : ∀ taskId ∈ retired, after.lookup taskId = none := by
    intro taskId mem
    exact gone taskId (valid.gone taskId mem).1 (valid.gone taskId mem).2
  have more : ∀ taskId ∈ created, taskId ∈ job.creates.toList ++ created := fun _ mem => List.mem_append_right _ mem
  refine ⟨rows.named,?_,fun taskId mem => ⟨more taskId (valid.gone taskId mem).1,dead taskId mem⟩,valid.announced,?_,
    valid.final⟩
  · intro taskId row stored
    rcases rows.rows taskId row stored with ⟨old,earlier⟩ | creates
    · exact more taskId (valid.known taskId _ earlier)
    · exact mem_append_left _ (mem_toList.mpr creates)
  · intro m other stored
    rcases insert_lookup stored with ⟨rfl,rfl⟩ | ⟨_,earlier⟩
    · refine ⟨fun taskId same => mine.guarded taskId (target ▸ same),?_,?_,?_,?_⟩
      · intro taskId mem
        rcases rows.promised taskId mem with before | ⟨own,row,there⟩
        · obtain ⟨own,cancelled⟩ := mine.promised taskId (telling ▸ before)
          exact ⟨target ▸ own,cancelled⟩
        · refine ⟨own,?_⟩
          intro mem
          rw [dead taskId mem] at there
          cases there
      · intro taskId mem announced
        rcases rows.loose taskId mem with before | ⟨row,there⟩
        · exact mine.loose taskId (telling ▸ before) announced
        · rw [dead taskId (valid.announced taskId announced)] at there
          cases there
      · intro taskId mem
        obtain ⟨⟨_,earlier⟩,absent⟩ := rows.removing taskId mem
        exact ⟨more taskId (valid.known taskId _ earlier),absent⟩
      · intro taskId mem
        refine mine.revoking taskId ?_
        rw [telling,← rows.revoking]
        exact mem
    · have sound := valid.sound m other earlier
      refine {sound with removing := ?_}
      intro taskId mem
      obtain ⟨known,absent⟩ := sound.removing taskId mem
      exact ⟨more taskId known,gone taskId known absent⟩

namespace HubState
variable {s : HubState} {n : Nat} {call : Call} (valid : s.Removes)
include valid

theorem finish_removes : (s.finish n call).Removes := by
  unfold finish release
  cases call.gate with
  | none | some => exact removing_erase valid

theorem becomes_removes (guarded : new.Guarded) (plain : new.stage.telling = {}) : (s.becomes n new).Removes :=
  removing_plain valid guarded plain

theorem release_removes : (s.release call).Removes := by
  unfold release
  cases call.gate with
  | none | some => exact valid

theorem emit_removes (kept : task.id ∉ s.removed) : (s.emitTask task).Removes :=
  removing_show valid kept

theorem emitAll_removes (kept : ∀ task ∈ tasks, task.id ∉ s.removed) : (s.emitTasks tasks).Removes := by
  unfold emitTasks
  induction tasks generalizing s with
  | nil => exact valid
  | cons task rest ih =>
    have first := emit_removes valid (kept _ List.mem_cons_self)
    exact ih first fun other mem => kept other (List.mem_cons_of_mem _ mem)

theorem install_removes (kept : taskId ∉ s.removed) :
    (s.installSessionRuntime sessionId taskId accountId daemonId).Removes := by
  unfold installSessionRuntime
  split
  · exact valid
  · exact removing_show valid kept

theorem installEmit_removes (kept : ∀ told ∈ [taskId,task.id], told ∉ s.removed) :
    ((s.installSessionRuntime sessionId taskId accountId daemonId).emitTask task).Removes := by
  obtain ⟨one,two,_⟩ := List.forall_mem_cons.mp kept |>.imp_right List.forall_mem_cons.mp
  unfold installSessionRuntime
  split
  · exact emit_removes valid two
  · exact removing_show (removing_show valid one) two

theorem nextEntry_removes : (s.nextEntry n call work).Removes :=
  becomes_removes valid nofun rfl

theorem nextAlive_removes : (s.nextAlive n call daemon alive).Removes :=
  becomes_removes (release_removes valid) nofun rfl

-- Cancelling does not change what is in hand.
omit valid in
theorem unheld_cancelled {calls : Calls} (unheld : calls.Free taskId) :
    Calls.Free (mapValues (fun _ call => {call with task := cancel cancels call.task}) calls) taskId := by
  exact Each.mapValues unheld fun _ _ free => free

theorem beginEntry_removes : (s.beginEntry n call work).Removes := by
  unfold beginEntry
  split
  · refine becomes_removes valid ?_ rfl
    rintro taskId ⟨⟩
    exact ⟨false,rfl⟩
  · refine becomes_removes valid ?_ rfl
    rintro taskId ⟨⟩
    exact ⟨false,rfl⟩
  · refine becomes_removes valid ?_ rfl
    rintro taskId ⟨⟩
    exact ⟨false,rfl⟩
  · exact finish_removes valid

theorem reportRead_removes : (s.reportRead n call daemon report payload known).Removes := by
  unfold reportRead
  split
  · exact finish_removes valid
  · refine becomes_removes valid ?_ rfl
    intro other own
    have same : (if _ then _ else _) = some other := own
    dsimp only
    rw [same]
    exact ⟨false,rfl⟩

theorem registerNext_removes : (s.registerNext n call daemon projectIds).Removes := by
  unfold registerNext
  split
  · exact becomes_removes valid nofun rfl
  · exact becomes_removes valid nofun rfl

theorem sessionsRead_removes : (s.sessionsRead n call accountId daemonId todo listed tasks).Removes := by
  -- Only mappings are dropped.
  have dropped : ∀ (entries : List Binding) (start : HubState), start.Removes → (entries.foldl (fun s entry =>
      if s.sessionHasIdentity entry.sessionId entry.taskId accountId daemonId then s.dropSession entry.sessionId
      else s) start).Removes := by
    intro entries
    induction entries with
    | nil => exact fun _ kept => kept
    | cons entry rest ih =>
      intro start kept
      refine ih _ ?_
      dsimp only
      split
      · exact kept
      · exact kept
  unfold sessionsRead
  dsimp only
  split
  · exact becomes_removes valid nofun rfl
  · exact finish_removes (dropped _ s valid)

theorem registered_removes : (s.registered n call daemon claimed choice).Removes := by
  unfold registered
  split
  · exact removing_plain valid nofun rfl
  · exact finish_removes valid

theorem start_removes (guarded : new.Guarded) (plain : new.stage.telling = {}) : (s.start new).Removes :=
  removing_plain valid guarded plain

theorem targeted_removes (target : new.stage.job.target = some taskId)
    (guard : new.task = guarded taskId) (plain : new.stage.telling = {}) : (s.start new).Removes := by
  refine start_removes valid ?_ plain
  intro other own
  cases Option.some.inj (target.symm.trans own)
  exact ⟨false,guard⟩

theorem message_removes (step : s.handleMessage daemon message = some after) : after.Removes := by
  cases message with
  | resync | report | locate | forget =>
    cases step
    exact start_removes valid nofun rfl
  | sessionStarted | terminalNew =>
    cases step
    exact targeted_removes valid rfl rfl rfl
  | catalog =>
    dsimp only [handleMessage] at step
    split at step
    · cases step
      exact valid
    · cases step
      exact start_removes valid nofun rfl
  | sessionExit =>
    dsimp only [handleMessage] at step
    split at step
    · cases step
      exact valid
    · cases step
      exact targeted_removes valid rfl rfl rfl

variable (found : s.calls.lookup n = some call)
include found

theorem told_kept (alive : call.cancelled = false) : ∀ taskId ∈ call.stage.telling.promised, taskId ∉ s.removed := by
  intro taskId mem announced
  have cancelled := ((valid.sound n _ found).promised taskId mem).2 (valid.announced taskId announced)
  rw [alive] at cancelled
  cases cancelled

theorem answered_kept (stage : call.stage = .answered job result)
    (alive : call.cancelled = false) : ∀ taskId ∈ (job.answeredTelling result).promised, taskId ∉ s.removed := by
  have kept := told_kept valid found alive
  rw [stage] at kept
  exact kept

-- A handler goes on with what it has in hand.
theorem becomes_passes (target : stage.job.target = call.stage.job.target)
    (promised : ∀ taskId ∈ stage.telling.promised, taskId ∈ call.stage.telling.promised)
    (loose : ∀ taskId ∈ stage.telling.loose, taskId ∈ call.stage.telling.loose)
    (rest : {stage.telling with promised := [],loose := []} = ({} : Telling)) :
    (s.becomes n {call with gate := gate,stage := stage}).Removes := by
  obtain ⟨_,_,removing,revoking⟩ := Telling.mk.inj rest
  have sound := valid.sound n _ found
  refine removing_put valid ⟨?_,?_,?_,?_,?_⟩
  · intro taskId own
    exact sound.guarded taskId (target ▸ own)
  · intro taskId mem
    obtain ⟨own,cancelled⟩ := sound.promised taskId (promised taskId mem)
    exact ⟨target ▸ own,cancelled⟩
  · intro taskId mem
    exact sound.loose taskId (loose taskId mem)
  · dsimp only
    rw [removing]
    exact nofun
  · dsimp only
    rw [revoking]
    exact nofun

theorem retire_removes (mine : ∀ taskId ∈ ids, taskId ∈ call.stage.telling.removing) :
    (s.retire ids accountId daemonId).Removes ∧
      (s.retire ids accountId daemonId).calls.lookup n = some {call with task := cancel ids call.task} := by
  refine ⟨removing_retire valid found _ (fun _ mem => mem) mine,?_⟩
  refine (lookup_mapValues _ _ n).trans ?_
  rw [found]
  rfl

theorem removal_told (mine : ∀ taskId ∈ ids, taskId ∈ call.stage.telling.removing)
    (unheld : ∀ taskId ∈ ids, Calls.Free s.calls taskId) :
    ((s.retire ids accountId daemonId).announceRemoved ids).Removes ∧
      ((s.retire ids accountId daemonId).announceRemoved ids).calls.lookup n =
        some {call with task := cancel ids call.task} := by
  obtain ⟨retired,mapped⟩ := retire_removes valid found mine
  refine ⟨removing_announce retired ?_ ?_,mapped⟩
  · intro taskId mem
    exact mem_append_left _ mem
  · intro taskId mem
    exact unheld_cancelled (unheld taskId mem)

section Catalog
theorem liveRead_removes
    (stage : call.stage = .answered (.liveRead work entry) task) : (s.liveRead n call work entry task).Removes := by
  unfold liveRead
  split
  · exact finish_removes valid
  · split
    · exact nextEntry_removes valid
    · rename_i passes
      obtain ⟨rfl,tests⟩ := filter_eq_some_iff.mp passes
      simp only [Bool.and_eq_true,Bool.not_eq_true'] at tests
      split
      · refine becomes_removes valid ?_ rfl
        intro taskId own
        exact (valid.sound n _ found).guarded taskId (stage ▸ own)
      · have kept := answered_kept valid found stage tests.1.1 _ (mem_singleton_self _)
        exact nextEntry_removes (install_removes valid kept)

theorem liveRan_removes
    (stage : call.stage = .answered (.liveRan work entry) updated) : (s.liveRan n call work entry updated).Removes := by
  unfold liveRan
  split
  · exact finish_removes valid
  · split
    · exact nextEntry_removes valid
    · rename_i passes
      obtain ⟨rfl,alive⟩ := filter_eq_some_iff.mp passes
      have kept := answered_kept valid found stage (by simpa using alive)
      exact nextEntry_removes (installEmit_removes valid kept)

theorem exitRan_removes {exit : CatalogExit}
    (stage : call.stage = .answered (.exitRan work exit) outcome) : (s.exitRan n call work exit outcome).Removes := by
  unfold exitRan
  split
  · exact finish_removes valid
  · split
    · exact nextEntry_removes valid
    · rename_i alive
      have dropped : ∀ told : HubState, told.Removes →
          (if s.sessionHasIdentity exit.sessionId exit.taskId work.daemon.accountId work.daemon.daemonId then
            told.dropSession exit.sessionId else told).Removes := by
        intro told kept
        split <;> exact kept
      refine nextEntry_removes (dropped _ ?_)
      split
      · exact emit_removes valid (answered_kept valid found stage (by simpa using alive) _ (mem_singleton_self _))
      · exact valid

theorem absentRan_removes
    (stage : call.stage = .answered (.absentRan work entry) updated) : (s.absentRan n call work entry updated).Removes := by
  unfold absentRan
  split
  · exact finish_removes valid
  · split
    · exact nextEntry_removes valid
    · rename_i passes
      obtain ⟨rfl,alive⟩ := filter_eq_some_iff.mp passes
      have kept := answered_kept valid found stage (by simpa using alive) _ (mem_singleton_self _)
      dsimp only
      refine nextEntry_removes ?_
      split
      · exact emit_removes (s := s.dropSession entry.sessionId) valid kept
      · exact emit_removes valid kept

end Catalog

section Sessions
theorem sessionStarted_removes (stage : call.stage = .answered (.sessionStarted daemon entry) updated) :
    (s.sessionStarted n call daemon entry updated).Removes := by
  unfold sessionStarted
  split
  · rename_i passes
    obtain ⟨rfl,tests⟩ := filter_eq_some_iff.mp passes
    simp only [Bool.and_eq_true,Bool.not_eq_true'] at tests
    have kept := answered_kept valid found stage tests.1.2 _ (mem_singleton_self _)
    exact finish_removes (emit_removes valid kept)
  · exact finish_removes valid

theorem sessionExit_removes (stage : call.stage = .answered (.sessionExit daemon entry exitCode) updated) :
    (s.sessionExit n call daemon entry updated).Removes := by
  unfold sessionExit
  split
  · exact finish_removes valid
  · split
    · exact finish_removes valid
    · rename_i passes
      obtain ⟨rfl,tests⟩ := filter_eq_some_iff.mp passes
      simp only [Bool.and_eq_true,Bool.not_eq_true'] at tests
      have kept := answered_kept valid found stage tests.1 _ (mem_singleton_self _)
      exact finish_removes (emit_removes valid kept)

theorem aliveRead_removes (stage : call.stage = .answered (.aliveRead daemon alive entry) task) :
    (s.aliveRead n call daemon alive entry task).Removes := by
  unfold aliveRead
  split
  · exact finish_removes valid
  · split
    · exact nextAlive_removes valid
    · rename_i passes
      obtain ⟨rfl,tests⟩ := filter_eq_some_iff.mp passes
      simp only [Bool.and_eq_true,Bool.not_eq_true'] at tests
      split
      · refine becomes_removes valid ?_ rfl
        intro taskId own
        exact (valid.sound n _ found).guarded taskId (stage ▸ own)
      · have kept := answered_kept valid found stage tests.1.1 _ (mem_singleton_self _)
        exact nextAlive_removes (install_removes valid kept)

theorem aliveRun_removes (stage : call.stage = .answered (.aliveRun daemon alive entry) updated) :
    (s.aliveRun n call daemon alive entry updated).Removes := by
  unfold aliveRun
  split
  · exact finish_removes valid
  · split
    · exact nextAlive_removes valid
    · rename_i passes
      obtain ⟨rfl,open'⟩ := filter_eq_some_iff.mp passes
      have kept := answered_kept valid found stage (by simpa using open')
      exact nextAlive_removes (installEmit_removes valid kept)

end Sessions

section Reports
theorem reportInstall_removes (tells : ∀ other ∈ effect.tells taskId, other ∈ call.stage.telling.promised) :
    (s.reportInstall n call effect taskId).Removes := by
  unfold reportInstall
  split
  · rename_i task _ made _
    split
    · exact finish_removes valid
    · rename_i tests
      simp only [Bool.or_eq_true,bne_iff_ne,not_or,not_not,Bool.not_eq_true] at tests
      have kept : task.id ∉ s.removed := by
        refine told_kept valid found tests.1 _ (tells _ ?_)
        unfold OperationEffect.tells
        rw [made]
        simp [tests.2]
      exact finish_removes (installEmit_removes valid (by simpa using kept))
  · exact finish_removes valid

theorem reportTail_removes (target : call.stage.job.target = taskId)
    (tells : ∀ other ∈ effect.tells taskId, other ∈ call.stage.telling.promised) :
    (s.reportTail n call effect taskId).Removes := by
  unfold reportTail
  split
  · exact becomes_passes valid found target.symm tells nofun rfl
  · exact reportInstall_removes valid found tells

theorem converged_removes (stage : call.stage = .answered (.converge daemon report payload taskId) (.ok (some effect)))
    (unheld : ∀ taskId ∈ s.announces call, Calls.Free s.calls taskId) :
    (s.converged n call daemon effect taskId).Removes := by
  obtain ⟨ids,removedIds⟩ : ∃ ids, effect.removedTaskIds.getD [] = ids := ⟨_,rfl⟩
  have mine : ∀ other ∈ ids, other ∈ call.stage.telling.removing := by
    rw [stage,← removedIds]
    exact fun _ mem => mem
  unfold converged
  rw [removedIds]
  dsimp only
  -- Without tasks there is nothing to retire.
  have retired : ∃ after new, (if ids.isEmpty then s else s.retire ids effect.accountId effect.daemonId) = after ∧
      after.Removes ∧ after.calls.lookup n = some new ∧ new.stage = call.stage ∧ (∀ other ∈ ids, other ∈ after.retired) ∧
      ∀ other, Calls.Free s.calls other → Calls.Free after.calls other := by
    cases ids with
    | nil => exact ⟨s,call,rfl,valid,found,rfl,nofun,fun _ free => free⟩
    | cons first rest =>
      obtain ⟨kept,mapped⟩ := retire_removes valid found mine
      exact ⟨_,_,rfl,kept,mapped,rfl,fun _ mem => mem_append_left _ mem, fun _ free => unheld_cancelled free⟩
  obtain ⟨after,new,same,kept,mapped,stays,dead,free⟩ := retired
  rw [same]
  split
  · exact finish_removes kept
  · rename_i tests
    have announced : s.announces call = ids := by
      unfold announces
      rw [stage,← removedIds]
      exact if_neg tests
    rw [announced] at unheld
    have told : (after.announceRemoved ids).Removes := removing_announce kept dead fun other mem => free other (unheld other mem)
    rw [mapped,getD_some]
    have tells : ∀ other ∈ effect.tells taskId, other ∈ new.stage.telling.promised := by
      rw [stays,stage]
      exact fun _ mem => mem
    have target : new.stage.job.target = taskId := by rw [stays,stage]; rfl
    split
    · exact becomes_passes told mapped target.symm tells nofun rfl
    · exact reportTail_removes told mapped target tells

theorem finalized_removes (stage : call.stage = .answered (.finalizeProject projectId accountId daemonId after) removedIds)
    (unheld : ∀ taskId ∈ s.announces call, Calls.Free s.calls taskId) :
    (s.finalized n call accountId daemonId after removedIds).Removes := by
  have announced : s.announces call = removedIds.getD [] := by
    unfold announces
    rw [stage]
    cases after <;> rfl
  have removing : call.stage.telling.removing = removedIds.getD [] := by
    rw [stage]
    cases after <;> rfl
  rw [announced] at unheld
  -- The handler goes on from the state in which the removal has been told.
  have goes : ∀ (next : HubState) new, next.Removes → next.calls.lookup n = some new → new.stage = call.stage →
      (next.finalized n call accountId daemonId after none).Removes := by
    intro next new kept mapped stays
    simp only [finalized,mapped,getD_some]
    cases after with
    | report effect taskId =>
      refine reportInstall_removes kept mapped ?_
      rw [stays,stage]
      exact fun _ mem => mem
    | register daemon rest =>
      dsimp only
      split
      · exact registerNext_removes kept
      · exact finish_removes kept
    | done => exact finish_removes kept
  cases removedIds with
  | none => exact goes s _ valid found rfl
  | some ids =>
    have mine : ∀ other ∈ ids, other ∈ call.stage.telling.removing := by
      rw [removing]
      exact fun _ mem => mem
    obtain ⟨kept,mapped⟩ := removal_told valid found mine unheld
    exact goes _ _ kept mapped rfl

end Reports

section Tasks
theorem taskCreated_removes
    (promised : call.stage.telling.promised = task.toList.map Task.id) : (s.taskCreated n call task).Removes := by
  unfold taskCreated
  split
  · rename_i passes
    obtain ⟨rfl,tests⟩ := filter_eq_some_iff.mp passes
    simp only [Bool.and_eq_true,Bool.not_eq_true'] at tests
    refine finish_removes (emit_removes valid (told_kept valid found tests.2 _ ?_))
    rw [promised]
    exact mem_singleton_self _
  · exact finish_removes valid

theorem terminalOpened_removes
    (stage : call.stage = .answered (.openTerminal accountId daemonId workspaceId taskId operation) opened) :
    (s.terminalOpened n call opened accepted).Removes := by
  unfold terminalOpened
  split
  · exact finish_removes valid
  · dsimp only
    split
    · rename_i tests
      simp only [Bool.and_eq_true,Bool.not_eq_true'] at tests
      have kept := answered_kept valid found stage tests.1.2 _ (mem_singleton_self _)
      refine removing_put valid ⟨nofun,nofun,?_,nofun,nofun⟩
      intro other mem
      cases List.mem_singleton.mp mem
      exact kept
    · exact becomes_removes valid nofun rfl

theorem terminalNew_removes (stage : call.stage = .answered (.terminalNew daemon origin workspaceId new) task)
    : (s.terminalNew n call daemon new task delivered).Removes := by
  unfold terminalNew
  split
  · exact finish_removes valid
  · rename_i passes
    obtain ⟨rfl,tests⟩ := filter_eq_some_iff.mp passes
    simp only [Bool.and_eq_true,Bool.not_eq_true'] at tests
    split
    · exact becomes_removes valid nofun rfl
    · split
      · exact finish_removes (installEmit_removes valid (answered_kept valid found stage tests.2))
      · exact becomes_removes valid nofun rfl

theorem newUndone_removes (stage : call.stage = .answered (.undoNew daemon new announce) gone)
    (unheld : ∀ taskId ∈ s.announces call, Calls.Free s.calls taskId) : (s.newUndone n call new announce gone).Removes := by
  unfold newUndone
  split
  · rename_i both
    have removing : call.stage.telling.removing = [new.taskId] := by
      rw [stage]
      exact if_pos both
    have announced : s.announces call = [new.taskId] := by
      unfold announces
      rw [stage]
      exact if_pos both
    rw [announced] at unheld
    have mine : ∀ other ∈ [new.taskId], other ∈ call.stage.telling.removing := by
      rw [removing]
      exact fun _ mem => mem
    refine finish_removes (removing_announce (removing_retire valid found [new.taskId] (fun _ mem => mem) mine) ?_ ?_)
    · intro other mem
      exact mem_append_left _ mem
    · intro other mem
      exact unheld_cancelled (unheld other mem)
  · exact finish_removes valid

theorem loose_kept {t : List Task} (loose : call.stage.telling.loose = t.map Task.id) : ∀ task ∈ t, task.id ∉ s.removed := by
  intro task mem
  refine (valid.sound n _ found).loose task.id ?_
  rw [loose]
  exact List.mem_map_of_mem mem

theorem located_removes {outcome : Option (Bool × Option Task)}
    (stage : call.stage = .answered (.locate daemon originId originSession value workspaceId) outcome) :
    (s.located n call outcome).Removes := by
  unfold located
  split
  · refine becomes_passes valid found ?_ nofun ?_ rfl
    · rw [stage]
      rfl
    · rw [stage]
      exact fun _ mem => mem
  · rename_i moved
    have loose : call.stage.telling.loose = moved.toList.map Task.id := by rw [stage]; rfl
    exact finish_removes (emitAll_removes valid (loose_kept valid found loose))
  · exact finish_removes valid

theorem taskRemoved_removes (mine : ∀ other ∈ ids, other ∈ call.stage.telling.removing)
    (unheld : ∀ taskId ∈ ids, Calls.Free s.calls taskId) : (s.taskRemoved n call accountId daemonId ids).Removes :=
  finish_removes (removal_told valid found mine unheld).1

theorem deviceRemoved_removes (stage : call.stage = .answered (.removeDevice daemonId accountId) taskIds) :
    (s.deviceRemoved n call daemonId accountId taskIds).Removes := by
  unfold deviceRemoved
  split
  · exact finish_removes valid
  · rename_i ids
    have mine : ∀ other ∈ ids, other ∈ call.stage.telling.removing := by
      rw [stage]
      exact fun _ mem => mem
    have cancelled := removing_retire (removing_device valid) (device_lookup found daemonId)
      (ids ++ ((entries s.sessions).filter fun entry =>
        entry.2.accountId = accountId && entry.2.daemonId = daemonId).map fun entry => entry.2.taskId)
      (fun _ mem => mem_append_left _ mem) mine
    exact removing_put cancelled ⟨nofun,nofun,nofun,nofun,fun _ mem => mem_append_left _ mem⟩

theorem deviceRevoked_removes (stage : call.stage = .answered (.revokeDevice daemonId accountId taskIds) ())
    (unheld : ∀ taskId ∈ s.announces call, Calls.Free s.calls taskId) :
    (s.deviceRevoked n call daemonId accountId taskIds).Removes := by
  unfold deviceRevoked
  split
  · exact finish_removes valid
  · rename_i running
    have announced : s.announces call = taskIds := by
      unfold announces
      rw [stage]
      exact if_neg running
    rw [announced] at unheld
    have dead : ∀ other ∈ taskIds, other ∈ s.retired := by
      intro other mem
      refine (valid.sound n _ found).revoking other ?_
      rw [stage]
      exact mem
    exact finish_removes (removing_announce valid dead unheld)

end Tasks

theorem leaves_removes (target : stage.job.target = call.stage.job.target)
    (promised : ∀ taskId ∈ stage.telling.promised, taskId ∈ call.stage.telling.promised)
    (rest : {stage.telling with promised := []} = ({} : Telling)) : (s.leaves n call stage).Removes := by
  obtain ⟨_,loose,removing,revoking⟩ := Telling.mk.inj rest
  refine becomes_passes (release_removes valid) ?_ target promised ?_ ?_
  · unfold release
    cases call.gate with
    | none | some => exact found
  · rw [loose]
    exact nofun
  · dsimp only
    rw [removing,revoking]

theorem resume_removes {job : Job} {result : job.Result} (stage : call.stage = .answered job result)
    (unheld : ∀ taskId ∈ s.announces call, Calls.Free s.calls taskId) : (s.resume n call choice job result).Removes := by
  have target : call.stage.job = job := by rw [stage]; rfl
  have telling : call.stage.telling = job.answeredTelling result := by rw [stage]; rfl
  -- The guard of a step that looks at nothing else is left where it is.
  have leaves : ∀ (next : Job) (answer : next.Result) (daemon : Daemon), next.target = job.target →
      next.answeredTelling answer = job.answeredTelling result →
      {(job.answeredTelling result) with promised := []} = ({} : Telling) →
      (if s.isCurrent daemon then s.leaves n call (.answered next answer) else s.finish n call).Removes := by
    intro next answer daemon own same rest
    split
    · refine leaves_removes valid found (own.trans (congrArg Job.target target.symm)) ?_ ?_
      · rw [telling,← same]
        exact fun _ mem => mem
      · rw [← same] at rest
        exact rest
    · exact finish_removes valid
  cases job with
  | nextEntry work => exact beginEntry_removes valid
  | liveRead work entry => exact liveRead_removes valid found stage
  | liveRun work entry => exact leaves (.liveRan work entry) _ _ rfl rfl rfl
  | liveRan work entry => exact liveRan_removes valid found stage
  | exitRun work exit => exact leaves (.exitRan work exit) _ _ rfl rfl rfl
  | exitRan work exit => exact exitRan_removes valid found stage
  | absentRun work entry => exact leaves (.absentRan work entry) _ _ rfl rfl rfl
  | absentRan work entry => exact absentRan_removes valid found stage
  | sessionStarted daemon entry => exact sessionStarted_removes valid found stage
  | sessionExit daemon entry exitCode => exact sessionExit_removes valid found stage
  | nextAlive daemon alive =>
    cases alive with
    | nil => exact finish_removes valid
    | cons entry rest =>
      refine becomes_removes valid ?_ rfl
      intro taskId own
      cases own
      exact ⟨false,rfl⟩
  | aliveRead daemon alive entry => exact aliveRead_removes valid found stage
  | aliveRun daemon alive entry => exact aliveRun_removes valid found stage
  | reportRead daemon report payload => exact reportRead_removes valid
  | converge daemon report payload taskId =>
    cases result with
    | error failure =>
      cases failure with
      | convergence text => exact becomes_removes valid nofun rfl
      | database => exact finish_removes valid
    | ok effect =>
      cases effect with
      | none => exact finish_removes valid
      | some effect => exact converged_removes valid found stage unheld
  | reportPush effect taskId =>
    refine reportTail_removes valid found ?_ ?_
    · rw [target]
      rfl
    · rw [telling]
      exact fun _ mem => mem
  | finalizeProject projectId accountId daemonId after => exact finalized_removes valid found stage unheld
  | createTask accountId daemonId workspaceId taskId => exact taskCreated_removes valid found (congrArg Telling.promised telling)
  | createTerminal accountId daemonId path taskId workspaceId =>
    exact taskCreated_removes valid found (congrArg Telling.promised telling)
  | openTerminal accountId daemonId workspaceId taskId operation => exact terminalOpened_removes valid found stage
  | opened task =>
    exact finish_removes (emit_removes valid (loose_kept valid found (t := [task]) (congrArg Telling.loose telling) _
      (mem_singleton_self _)))
  | terminalNew daemon origin workspaceId new => exact terminalNew_removes valid found stage
  | undoNew daemon new announce => exact newUndone_removes valid found stage unheld
  | locate daemon originId originSession value workspaceId => exact located_removes valid found stage
  | locatePush task => exact finish_removes (emitAll_removes valid (loose_kept valid found (congrArg Telling.loose telling)))
  | forget daemon originId workspaceId =>
    exact finish_removes (emitAll_removes valid (loose_kept valid found (congrArg Telling.loose telling)))
  | removeTask taskId accountId daemonId rejectRunning =>
    cases result with
    | none => exact finish_removes valid
    | some gone =>
      have announced : s.announces call = [gone] := by unfold announces; rw [stage]; rfl
      rw [announced] at unheld
      refine taskRemoved_removes valid found ?_ unheld
      rw [telling]
      exact fun _ mem => mem
  | removeDirWorkspace workspaceId accountId daemonId =>
    cases result with
    | none => exact finish_removes valid
    | some gone =>
      have announced : s.announces call = gone := by unfold announces; rw [stage]; rfl
      rw [announced] at unheld
      refine taskRemoved_removes valid found ?_ unheld
      rw [telling]
      exact fun _ mem => mem
  | closeSessions accountId daemonId workspaceId todo listed => exact sessionsRead_removes valid
  | register daemon => exact registered_removes valid
  | registerRestore daemon =>
    dsimp only [resume]
    split
    · exact becomes_removes valid nofun rfl
    · exact finish_removes valid
  | registerProjects daemon => exact registerNext_removes valid
  | registerTasks daemon =>
    dsimp only [resume]
    split
    · exact finish_removes (s := {s with requests := _}) valid
    · exact finish_removes valid
  | removeDevice daemonId accountId => exact deviceRemoved_removes valid found stage
  | revokeDevice daemonId accountId taskIds => exact deviceRevoked_removes valid found stage unheld
  | convergeFail | discard | closeConnection => exact finish_removes valid

theorem enter_removes (waiting : call.stage = .waiting job) : (s.enter n call job).Removes := by
  have sent : (s.becomes n {call with stage := .sent job}).Removes := by
    have sound := valid.sound n _ found
    rcases call with ⟨_,_,_,_,_⟩
    subst waiting
    exact removing_put valid {sound with}
  have dead : (s.finish n call).Removes := finish_removes valid
  unfold enter
  dsimp only
  cases job with
  | aliveRead daemon alive entry =>
    dsimp only
    split
    · split
      · exact nextAlive_removes valid
      · exact sent
    · exact dead
  | liveRun | exitRun | absentRun | sessionStarted | sessionExit | reportRead | terminalNew | closeConnection =>
    dsimp only
    split
    · exact sent
    · exact dead
  | register daemon =>
    dsimp only
    split
    · exact dead
    · exact sent
  | _ => exact sent

end HubState

theorem removes_step (valid : s.Removes) (unheld : Unheld s action)
    (step : hubStep limit s action = some after) : after.Removes := by
  cases action with
  | message daemon message =>
    dsimp only [hubStep] at step
    split at step
    · exact HubState.message_removes valid step
    · cases step
  | connect =>
    cases step
    exact removing_plain valid nofun rfl
  | close =>
    dsimp only [hubStep] at step
    obtain ⟨_,rfl⟩ := guard_parts step
    exact HubState.start_removes valid nofun rfl
  | createTask | createTerminal | openTerminal =>
    cases step
    exact HubState.targeted_removes valid rfl rfl rfl
  | removeTask | removeDirWorkspace | closeSessions | finalizeProject | removeDevice =>
    cases step
    exact HubState.start_removes valid nofun rfl
  | startTask =>
    obtain ⟨_,_,rfl⟩ := map_eq_some_iff.mp step
    exact valid
  | acquire n =>
    dsimp only [hubStep] at step
    split at step
    · rename_i call found
      split at step
      · rename_i job gate waiting _
        split at step
        · cases step
        · cases step
          exact HubState.enter_removes (s := {s with gates := s.gates.insert gate _}) valid found waiting
      · cases step
    · cases step
  | query n =>
    dsimp only [hubStep] at step
    split at step
    · rename_i call found
      split at step
      · rename_i job sent
        split at step
        · cases step
        · rename_i fresh
          cases step
          refine removing_query valid found sent ?_ (query_rows _ _ _ valid.named _)
          intro taskId creates known
          exact fresh (by rw [creates]; simpa using known)
      · cases step
    · cases step
  | fail n =>
    dsimp only [hubStep] at step
    split at step
    · split at step
      · cases step
        exact HubState.finish_removes valid
      · cases step
    · cases step
  | resume n choice =>
    dsimp only [hubStep] at step
    split at step
    · rename_i call found
      split at step
      · rename_i answered
        cases step
        refine HubState.resume_removes valid found answered ?_
        intro taskId mem m other stored
        exact unheld n rfl call found taskId mem (m,other) (mem_entries.mpr stored)
      · cases step
    · cases step
  | prepare | sweep | purge =>
    dsimp only [hubStep] at step
    split at step
    · cases step <;> exact valid
    · cases step <;> exact valid
  | install | enroll | edit | wait | shutdown =>
    cases step
    exact valid

-- Where no handler tells of a task without a guard the removal cancels, the removal is the last
-- word.
theorem removal_final (limit : Nat) (actions : List HubAction) (unheld : (hubMachine limit).Along Unheld freshHub actions) :
    (hubMachine limit).Throughout RemovalFinal freshHub actions := by
  have start : freshHub.Removes := by
    refine ⟨nofun,nofun,nofun,nofun,?_,nofun⟩
    intro n call found
    cases (AList.lookup_empty n).symm.trans found
  refine throughout_of_along (fun s (valid : s.Removes) => valid.final) ?_ start unheld
  intro s action next valid free step
  exact removes_step valid free step

def mainProject : Project := ⟨"project","account","daemon","name","/repo","main",0,none,false⟩

def projectWorkspace : Workspace := ⟨"main","account","daemon","project","main","/repo","main",true,0⟩

def onlyDaemon : Daemon := ⟨"daemon",0,"account"⟩

def toNewWorktree : AgentWorkspaceLocate := ⟨"/repo/topic","topic","",true,true⟩

def taskReady : List HubAction :=
  [.enroll "daemon" ⟨"account",false⟩,.edit ((∅ : Table String Project).insert "project" mainProject)
      ((∅ : Table String Workspace).insert "main" projectWorkspace),
    .connect "daemon" "account",.acquire 0,.query 0,.resume 0 true,.query 0,.resume 0 true,.query 0,.resume 0 true,.query 0,
    .resume 0 true,.createTask "account" "daemon" "main" "task",.query 1,.resume 1 true]

def shownAfter (actions : List HubAction) : Option (List Shown) := ((hubMachine 4).run freshHub actions).map HubState.shown

-- It is moved to a worktree the server has not known, and removed afterwards.
def movedThenRemoved : List HubAction :=
  taskReady ++ [.message onlyDaemon (.locate "task" none toNewWorktree "topic"),.query 2,.resume 2 true,.query 2,.resume 2 true,
    .removeTask "task" "account" "daemon" true,.query 3,.resume 3 true]

theorem removal_final_moved_before : (hubMachine 4).Along Unheld freshHub movedThenRemoved ∧
      shownAfter movedThenRemoved = some [⟨"task",false,false⟩,⟨"task",false,false⟩] ∧
      (hubMachine 4).Throughout RemovalFinal freshHub movedThenRemoved := by
  have unheld : (hubMachine 4).Along Unheld freshHub movedThenRemoved := by decide +kernel
  exact ⟨unheld,by decide +kernel,removal_final 4 _ unheld⟩

-- The task is removed between the move and its taskUpdated.
def removedWhileMoved : List HubAction :=
  taskReady ++ [.message onlyDaemon (.locate "task" none toNewWorktree "topic"),.query 2,.resume 2 true,
    .removeTask "task" "account" "daemon" true,.query 3,.resume 3 true,.query 2,.resume 2 true]

theorem removal_not_final : ∃ s, (hubMachine 4).run freshHub removedWhileMoved = some s ∧ s.removed = ["task"] ∧
    s.shown = [⟨"task",false,true⟩,⟨"task",false,false⟩] ∧ ¬ RemovalFinal s := by
  have shown : ((hubMachine 4).run freshHub removedWhileMoved).map (fun s => (s.removed,s.shown)) =
      some (["task"],[⟨"task",false,true⟩,⟨"task",false,false⟩]) := by
    decide +kernel
  obtain ⟨s,ran,same⟩ := map_eq_some_iff.mp shown
  obtain ⟨removed,told⟩ := Prod.mk.inj same
  refine ⟨s,ran,removed,told,?_⟩
  intro final
  have first := final ⟨"task",false,true⟩ (by rw [told]; exact List.mem_cons_self)
  cases first

end Coflux.Server
